import MapLoom.Project.Context
import MapLoom.Proofs.Schema.Faults
import MapLoom.Proofs.Schema.Ranges

set_option autoImplicit false

/-!
# Arithmetic on entries that were read

Integers of a schema have 64 bits with a sign, so addresses and lengths stay below half the range of
a word and no sum of the two wraps. All that is computed from them is what natural numbers give.
-/
namespace MapLoom
open Yaml (Value)
open Yaml.Value (IsText IsInteger IsNatural32 IsNatural64 IsPositive64 IsList)

/-- Whether everything that is computed from the address and the length of an entry is the value
that the natural numbers give. -/
structure Entry.Exact (e : Entry) : Prop where
  length_pos : 1 ≤ e.length.toNat
  length_lt : e.length.toNat < twoTo 63
  address_lt : e.address.toNat < twoTo 63
  stop_le : e.stop ≤ twoTo 64 - 2
  endAddress_eq : e.endAddress.toNat = e.stop
  lastAddress_eq : e.lastAddress.toNat = e.stop - 1
  address_le_last : e.address.toNat ≤ e.stop - 1
  rangeText_eq : e.rangeText = e.name ++ ": [0x" ++ Text.upperHex 4 e.address.toNat ++ ":0x" ++
    Text.upperHex 4 (e.stop - 1) ++ "]"
  template_eq : e.toTemplate.member? "end_address" = some (.integer (e.stop - 1 : Nat))

/-- Whether the numbers of a field are the ones that its node spells, in 32 bits. -/
structure Field.Spelled (f : Field) (v : Value) : Prop where
  pos : v.Has "pos" IsInteger f.pos.toNat
  pos_lt : f.pos.toNat < twoTo 32
  numEntries : v.MayHave "num_entries" IsInteger 0 f.numEntries.toNat
  numEntries_lt : f.numEntries.toNat < twoTo 32
  bits : ∃ w, v.member? "bits" = some w ∧
    (IsInteger w f.bits.toNat ∨ ∃ word, IsText w word ∧ IsAlias word (f.bits, f.resolveAs))
  bits_lt : f.bits.toNat < twoTo 32

/-- Whether the numbers of an entry and of its fields are the ones that its node spells. -/
structure Entry.Spelled (e : Entry) (v : Value) : Prop where
  address : v.Has "address" IsInteger e.address.toNat
  length : v.Has "length" IsInteger e.length.toNat
  fields : (itemsUnder v "fields").Forall₂ (fun w f => f.Spelled w) e.fields

/-- The first neighbours of which the second begins before the first has ended. -/
def collision? (entries : List Entry) : Option (Entry × Entry) :=
  (entries.zip entries.tail).find? fun pair => pair.2.address.toNat < pair.1.stop

section
variable {e : Entry} {entries : List Entry} {v : Value}

theorem Yaml.Value.IsInteger.lt {n : Int} (h : IsInteger v n) : n < twoTo 63 :=
  Value.asInteger?_lt ((Value.asInteger?_eq_some_iff v n).2 h)

theorem Entry.lastAddress_toNat (hstop : e.endAddress.toNat = e.stop) (hpos : 1 ≤ e.length.toNat) :
    e.lastAddress.toNat = e.stop - 1 := by
  have hlow : 1 ≤ e.stop := Nat.le_trans hpos (Nat.le_add_left _ _)
  have hne : e.endAddress ≠ 0 := by
    intro hzero
    rw [hzero, UInt64.toNat_zero] at hstop
    omega
  have hone : (1 : UInt64) ≤ e.endAddress := by
    rw [UInt64.le_iff_toNat_le, hstop]
    exact hlow
  rw [Entry.lastAddress, if_neg hne, UInt64.toNat_sub_of_le _ _ hone, hstop]
  rfl

theorem Entry.exact_of_lt (hpos : 1 ≤ e.length.toNat) (hlength : e.length.toNat < twoTo 63)
    (haddress : e.address.toNat < twoTo 63) : e.Exact := by
  have hhalf : twoTo 63 + twoTo 63 = twoTo 64 := by decide
  have hsize : twoTo 64 = UInt64.size := by decide
  have hproper : e.Proper := ⟨hpos, by omega⟩
  have hstop := hproper.endAddress_toNat
  have hlast := Entry.lastAddress_toNat hstop hpos
  have hsum : e.stop = e.address.toNat + e.length.toNat := rfl
  refine ⟨hpos, hlength, haddress, by omega, hstop, hlast, by omega, ?_, ?_⟩
  · rw [Entry.rangeText, hlast]
  · rw [← hlast]
    rfl

theorem IsEntry.exact (h : IsEntry v e) : e.Exact := by
  obtain ⟨a, -, ha⟩ := h.address
  obtain ⟨l, -, hl, hpos⟩ := h.length
  have haddress := Value.IsInteger.lt ha
  have hlength := Value.IsInteger.lt hl
  exact Entry.exact_of_lt hpos (by omega) (by omega)

theorem IsWidth.spelled {declared : Text} {width : UInt32 × Text} (h : IsWidth declared v width) :
    IsInteger v width.1.toNat ∨ ∃ word, IsText v word ∧ IsAlias word width := by
  cases h with
  | number value => exact .inl value
  | word _ text known => exact .inr ⟨_, text, known⟩

theorem IsField.spelled {f : Field} (h : IsField v f) : f.Spelled v := by
  have hsize : twoTo 32 = UInt32.size := by decide
  obtain ⟨declared, -, w, hw, hwidth⟩ := h.width
  refine ⟨h.pos, hsize ▸ f.pos.toNat_lt, ?_, hsize ▸ f.numEntries.toNat_lt, ⟨w, hw, ?_⟩,
    hsize ▸ f.bits.toNat_lt⟩
  · rcases h.numEntries with ⟨habsent, hzero⟩ | hhas
    · exact .inl ⟨habsent, by rw [hzero]; rfl⟩
    · exact .inr hhas
  · exact hwidth.spelled

theorem IsEntry.spelled (h : IsEntry v e) : e.Spelled v := by
  obtain ⟨items, hitems, hfields⟩ := h.fields
  obtain ⟨l, hl, hlength, -⟩ := h.length
  refine ⟨h.address, ⟨l, hl, hlength⟩, ?_⟩
  rw [itemsUnder_eq_of_mayHave hitems]
  exact hfields.imp fun w f hfield => hfield.spelled

theorem collision?_cons_cons (e f : Entry) (entries : List Entry) :
    collision? (e :: f :: entries) =
      if f.address.toNat < e.stop then some (e, f) else collision? (f :: entries) := by
  unfold collision?
  rw [List.tail_cons, List.zip_cons_cons, List.find?_cons]
  by_cases hlt : f.address.toNat < e.stop
  · simp [hlt]
  · simp [hlt]

theorem overlap?_eq_collision? (hproper : ∀ e ∈ entries, e.Proper) :
    overlap? entries = collision? entries := by
  induction entries with
  | nil => rfl
  | cons e entries ih =>
    cases entries with
    | nil => rfl
    | cons f entries =>
      have hproper' := hproper e List.mem_cons_self
      have hrest := ih fun g hg => hproper g (List.mem_cons_of_mem _ hg)
      simp only [overlap?, collision?_cons_cons, hrest, hproper'.lt_endAddress_iff]

theorem placeEntry_last (h : ∀ f ∈ entries, f.address ≤ e.address) :
    placeEntry e entries = entries ++ [e] := by
  induction entries with
  | nil => rfl
  | cons f entries ih =>
    have hrest := ih fun g hg => h g (List.mem_cons_of_mem _ hg)
    rw [placeEntry, if_pos (h f List.mem_cons_self), hrest, List.cons_append]

theorem foldl_placeEntry_eq_append (placed : List Entry) (h : Ascending (placed ++ entries)) :
    entries.foldl (fun placed e => placeEntry e placed) placed = placed ++ entries := by
  induction entries generalizing placed with
  | nil => rw [List.foldl_nil, List.append_nil]
  | cons e entries ih =>
    have hlast : ∀ f ∈ placed, f.address ≤ e.address := fun f hf =>
      (List.pairwise_append.1 h).2.2 f hf e List.mem_cons_self
    rw [List.append_cons] at h ⊢
    rw [List.foldl_cons, placeEntry_last hlast, ih _ h]

theorem sortEntries_eq_self (h : Ascending entries) : sortEntries entries = entries :=
  foldl_placeEntry_eq_append [] h

theorem find?_beyond_eq (hproper : ∀ e ∈ entries, e.Proper) (size : UInt64) :
    entries.find? (size < ·.endAddress) = entries.find? (size.toNat < ·.stop) := by
  induction entries with
  | nil => rfl
  | cons e entries ih =>
    have hproper' := hproper e List.mem_cons_self
    have hrest := ih fun g hg => hproper g (List.mem_cons_of_mem _ hg)
    simp only [List.find?_cons, hproper'.lt_endAddress_iff, hrest]

end

namespace AddressMap
variable {v : Value} {m : AddressMap}

theorem entries_of_ofValue (h : ofValue v = .ok m) :
    ∃ declared, m = .ofEntries m.brief declared ∧
      (itemsUnder v "parameters").Forall₂ IsEntry declared := by
  obtain ⟨brief, declared, hdeclares, rfl⟩ := ofValue_eq_ok_iff.1 h
  obtain ⟨items, hitems, hentries⟩ := (declares_iff_isSchema.1 hdeclares).parameters
  exact ⟨declared, rfl, by rwa [itemsUnder_eq_of_mayHave (.inr hitems)]⟩

theorem forall_entries_of_ofValue {P : Entry → Prop} (hspelled : ∀ {w e}, IsEntry w e → P e)
    (h : ofValue v = .ok m) : ∀ e ∈ m.entries, P e := by
  obtain ⟨declared, hm, hentries⟩ := entries_of_ofValue h
  intro e he
  rw [hm] at he
  exact forall_of_forall₂ hentries hspelled e ((sortEntries_perm declared).mem_iff.1 he)

theorem exact_of_ofValue (h : ofValue v = .ok m) : ∀ e ∈ m.entries, e.Exact :=
  forall_entries_of_ofValue IsEntry.exact h

/-- The numbers of a map that was read are the ones that the document spells, and what is computed
from them, in entries, in checks and for templates, is what natural numbers give. -/
theorem ofValue_computes_exactly (h : ofValue v = .ok m) :
    (∀ e ∈ m.entries, e.Exact) ∧
    (∃ declared, m = .ofEntries m.brief declared ∧
      (itemsUnder v "parameters").Forall₂ (fun w e => e.Spelled w) declared) ∧
    m.totalLength.toNat = greatest (m.entries.map Entry.stop) ∧
    (∀ path, (⟨path, m⟩ : SchemaSource).scope.find? ["total_length"] =
      some (.integer (greatest (m.entries.map Entry.stop)))) ∧
    (checkOverlap m.entries =
      match collision? m.entries with
      | some (e, f) => .error (.overlap e f)
      | none => .ok ()) ∧
    ∀ size, checkBounds m.entries size =
      match m.entries.find? (size.toNat < ·.stop) with
      | some e => .error (.outOfBounds e size)
      | none => .ok () := by
  have hproper := proper_of_ofValue h
  have htotal := totalLength_toNat hproper
  have hoverlap : overlap? (sortEntries m.entries) = collision? m.entries := by
    rw [sortEntries_eq_self m.ascending, overlap?_eq_collision? hproper]
  obtain ⟨declared, hm, hentries⟩ := entries_of_ofValue h
  have hspelled := hentries.imp fun w e hentry => IsEntry.spelled hentry
  refine ⟨exact_of_ofValue h, ⟨declared, hm, hspelled⟩, htotal, fun path => ?_, ?_, fun size => ?_⟩
  · rw [← htotal]
    rfl
  · rw [← hoverlap]
    rfl
  · rw [← find?_beyond_eq hproper]
    rfl

/-- The entry with the greatest address and the greatest length that can be declared. -/
def topEntry : Entry where
  name := "Top"
  address := 0x7fffffffffffffff
  length := 0x7fffffffffffffff
  fields := [⟨"Last", 0xffffffff, 16, "int16_t", 3, .integer 0, [], []⟩]
  brief := []
  description := []

def topDocument : Value :=
  .map [(.text "brief", .text "top"),
    (.text "parameters", .list [.map [(.text "name", .text "Top"),
      (.text "address", .text " 0x7fffffffffffffff"), (.text "length", .integer 0x7fffffffffffffff),
      (.text "fields", .list [.map [(.text "name", .text "Last"),
        (.text "pos", .text "4294967295"), (.text "bits", .text "short"),
        (.text "num_entries", .text "0x3")]])]])]

theorem ofValue_computes_top :
    ∃ m, ofValue topDocument = .ok m ∧ m.entries = [topEntry] ∧ topEntry.Exact ∧
      topEntry.stop = twoTo 64 - 2 ∧ m.totalLength.toNat = twoTo 64 - 2 ∧
      checkOverlap m.entries = .ok () := by
  have hread : ofValue topDocument = .ok (.ofEntries "top" [topEntry]) := rfl
  obtain ⟨hexact, -, htotal, -, hoverlap, -⟩ := ofValue_computes_exactly hread
  exact ⟨_, hread, rfl, hexact topEntry List.mem_cons_self, by decide, htotal, hoverlap⟩

end AddressMap
end MapLoom
