import MapLoom.Schema.Entry

set_option autoImplicit false

/-!
# Address maps

The entries of a map stand in ascending order of address, and those at one address in the order in
which they were declared.
-/
namespace MapLoom

/-- Puts an entry before the first entry with a greater address. -/
def placeEntry (e : Entry) : List Entry → List Entry
  | [] => [e]
  | f :: entries => if f.address ≤ e.address then f :: placeEntry e entries else e :: f :: entries

/-- The entries by address; placing them from the first on keeps equal addresses in order. -/
def sortEntries (entries : List Entry) : List Entry :=
  entries.foldl (fun placed e => placeEntry e placed) []

def Ascending (entries : List Entry) : Prop :=
  entries.Pairwise fun e f => e.address ≤ f.address

@[simp] theorem mem_placeEntry {e f : Entry} {entries : List Entry} :
    f ∈ placeEntry e entries ↔ f = e ∨ f ∈ entries := by
  induction entries with
  | nil => simp [placeEntry]
  | cons g entries ih =>
    unfold placeEntry
    split
    · simp only [List.mem_cons, ih]
      constructor <;> rintro (h | h | h) <;> simp [h]
    · simp

theorem ascending_placeEntry {e : Entry} {entries : List Entry} (h : Ascending entries) :
    Ascending (placeEntry e entries) := by
  induction entries with
  | nil => simp [placeEntry, Ascending]
  | cons g entries ih =>
    obtain ⟨hg, ht⟩ := List.pairwise_cons.1 h
    unfold placeEntry
    split
    · rename_i hge
      refine List.pairwise_cons.2 ⟨fun f hf => ?_, ih ht⟩
      rcases mem_placeEntry.1 hf with rfl | hf
      · exact hge
      · exact hg f hf
    · rename_i hge
      have heg : e.address ≤ g.address := by
        rw [UInt64.le_iff_toNat_le] at hge ⊢
        omega
      refine List.pairwise_cons.2 ⟨fun f hf => ?_, h⟩
      rcases List.mem_cons.1 hf with rfl | hf
      · exact heg
      · have := hg f hf
        rw [UInt64.le_iff_toNat_le] at *
        omega

theorem ascending_foldl_placeEntry {placed : List Entry} (entries : List Entry)
    (h : Ascending placed) :
    Ascending (entries.foldl (fun placed e => placeEntry e placed) placed) := by
  induction entries generalizing placed with
  | nil => exact h
  | cons e entries ih => exact ih (ascending_placeEntry h)

theorem ascending_sortEntries (entries : List Entry) : Ascending (sortEntries entries) :=
  ascending_foldl_placeEntry entries List.Pairwise.nil

structure AddressMap where
  brief : Text
  entries : List Entry
  ascending : Ascending entries

namespace AddressMap

def ofEntries (brief : Text) (entries : List Entry) : AddressMap :=
  ⟨brief, sortEntries entries, ascending_sortEntries entries⟩

def find? (m : AddressMap) (name : Text) : Option Entry := m.entries.find? (·.name = name)

def nameWidth (m : AddressMap) : Nat := (m.entries.map (·.name.byteLength)).foldl max 0

def totalLength (m : AddressMap) : UInt64 := (m.entries.map (·.endAddress)).foldl max 0

end AddressMap
end MapLoom
