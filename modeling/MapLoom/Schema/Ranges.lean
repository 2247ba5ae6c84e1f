import MapLoom.Schema.AddressMap
import MapLoom.Schema.Error

set_option autoImplicit false

/-!
# Byte ranges

Entries may touch and may leave gaps, but none may begin before the one below it has ended, and none
may end beyond the address space.
-/
namespace MapLoom

/-- The first neighbours that overlap, in entries that ascend. -/
def overlap? : List Entry → Option (Entry × Entry)
  | e :: f :: entries => if f.address < e.endAddress then some (e, f) else overlap? (f :: entries)
  | _ => none

def checkOverlap (entries : List Entry) : Except RangeError Unit :=
  match overlap? (sortEntries entries) with
  | some (first, second) => .error (.overlap first second)
  | none => .ok ()

def checkBounds (entries : List Entry) (size : UInt64) : Except RangeError Unit :=
  match entries.find? (size < ·.endAddress) with
  | some e => .error (.outOfBounds e size)
  | none => .ok ()

end MapLoom
