set_option autoImplicit false

/-!
# Texts

A text is a list of characters, so that every function on it is a recursion on data. String
literals are read as texts. Lengths that people see count the bytes of the UTF-8 form.
-/
namespace MapLoom

abbrev Text := List Char

instance : Coe String Text := ⟨String.toList⟩

namespace Text

/-- The number of bytes of the UTF-8 form. -/
def byteLength : Text → Nat
  | [] => 0
  | c :: t => c.utf8Size + byteLength t

def cut? (t piece : Text) : Option (Text × Text) :=
  match t with
  | [] => if piece = [] then some ([], []) else none
  | c :: rest =>
    match piece.isPrefixOf? (c :: rest) with
    | some after => some ([], after)
    | none => (cut? rest piece).map fun (before, after) => (c :: before, after)

def hasInfix (piece t : Text) : Bool := (cut? t piece).isSome

/-- The pieces between the occurrences of one character: always one more than there are of it. -/
def splitAt (sep : Char) : Text → List Text
  | [] => [[]]
  | c :: t =>
    match splitAt sep t with
    | [] => [[]]
    | piece :: pieces => if c = sep then [] :: piece :: pieces else (c :: piece) :: pieces

def join (sep : Text) (pieces : List Text) : Text := sep.intercalate pieces

def cutLast? (sep : Char) (t : Text) : Option (Text × Text) :=
  match (t.reverse.span (· ≠ sep)) with
  | (_, []) => none
  | (after, _ :: before) => some (before.reverse, after.reverse)

def ofNat (n : Nat) : Text := Nat.toDigits 10 n

def ofInt (n : Int) : Text := if n < 0 then '-' :: ofNat n.natAbs else ofNat n.natAbs

def hex (width n : Nat) : Text := (Nat.toDigits 16 n).leftpad width '0'

def upperHex (width n : Nat) : Text := ((Nat.toDigits 16 n).map Char.toUpper).leftpad width '0'

end Text
end MapLoom
