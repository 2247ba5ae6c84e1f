import MapLoom.Proofs.Schema.Arithmetic
import MapLoom.Proofs.Schema.Bands

set_option autoImplicit false

/-!
# Widths, types and defaults

The width, the type and the default of a field come from three keys. A word under `bits` fixes both
width and type, and a number keeps a declared type or else stands for an unsigned one of that width.
Whatever the document asks for, a field that was read has a type, and a default of its kind.
-/
namespace MapLoom
open Yaml (Value)
open Yaml.Value (IsText IsInteger)

/-- Whether a field has a type, and a float as its default exactly if that type is one. -/
structure Field.Typed (f : Field) : Prop where
  default_iff : (∃ x, f.initValue = .float x) ↔ f.resolveAs = "float" ∨ f.resolveAs = "double"
  type_ne_nil : f.resolveAs ≠ []

/-- Whether width and type of a field are those that its node asks for. -/
structure Field.Resolved (f : Field) (v : Value) : Prop where
  word : ∀ word width, v.member? "bits" = some (.text word) → IsAlias word width →
    (f.bits, f.resolveAs) = width
  number : ∀ bits declared, v.Has "bits" IsInteger bits →
    v.MayHave "resolve_as" IsText [] declared → (f.bits.toNat : Int) = bits ∧
      f.resolveAs = if declared = [] then ("uint" : Text) ++ Text.ofInt bits ++ "_t" else declared
  known : (∀ bits, ¬ v.Has "bits" IsInteger bits) →
    ∃ word, v.Has "bits" IsText word ∧ IsAlias word (f.bits, f.resolveAs)
  declared : ∃ declared, v.MayHave "resolve_as" IsText [] declared

/-- Whether what templates see of the name of an entry is derived from that name. -/
structure Entry.Named (e : Entry) : Prop where
  snake : e.toTemplate.member? "name_snake" = some (.text (MapLoom.snakeName e.name))
  band : ∃ b, Banded e.name b ∧
    e.toTemplate.member? "band_agnostic_name" = some (.text b.name) ∧
    e.toTemplate.member? "is_band_owner" = some (.bool b.isOwner)

section
variable {v : Value} {word declared : Text} {width width' : UInt32 × Text}

theorem IsAlias.unique (h : IsAlias word width) (h' : IsAlias word width') : width = width' :=
  Option.some.inj ((bitsAlias?_eq_some_iff.2 h).symm.trans (bitsAlias?_eq_some_iff.2 h'))

theorem IsAlias.type_ne_nil (h : IsAlias word width) : width.2 ≠ [] := by
  cases h <;> decide

theorem IsAlias.not_isInteger (h : IsAlias word width) (n : Int) : ¬ IsInteger (.text word) n := by
  have hnone : (Value.text word).asInteger? = none := by
    cases h <;> decide
  rw [← Value.asInteger?_eq_some_iff, hnone]
  nofun

theorem unsignedType_eq {bits : UInt32} {n : Int} (h : (bits.toNat : Int) = n) :
    unsignedType bits = ("uint" : Text) ++ Text.ofInt n ++ "_t" := by
  rw [← h, Text.ofInt, if_neg (Int.not_lt.2 (Int.natCast_nonneg _)), Int.natAbs_natCast]
  rfl

theorem IsWidth.type_ne_nil (h : IsWidth declared v width) : width.2 ≠ [] := by
  cases h with
  | number value =>
    dsimp only
    split
    · exact List.cons_ne_nil _ _
    · assumption
  | word number text known => exact known.type_ne_nil

theorem IsWidth.eq_of_isAlias (h : IsWidth declared (.text word) width)
    (halias : IsAlias word width') : width = width' := by
  obtain ⟨t, htext, hknown⟩ := (isWidth_word_iff halias.not_isInteger).1 h
  cases htext
  exact hknown.unique halias

theorem IsWidth.eq_of_isInteger {n : Int} (h : IsWidth declared v width) (hn : IsInteger v n) :
    (width.1.toNat : Int) = n ∧
      width.2 = if declared = [] then ("uint" : Text) ++ Text.ofInt n ++ "_t" else declared := by
  obtain ⟨bits, hbits, rfl⟩ := (isWidth_number_iff hn).1 h
  have hnat := Value.natural32?_eq_some_iff.1 hbits
  exact ⟨hnat, by rw [unsignedType_eq hnat]⟩

theorem HasInitValue.float_iff {type : Text} {value : InitValue} (h : HasInitValue v type value) :
    (∃ x, value = .float x) ↔ FloatType type := by
  cases h with
  | float float value => exact iff_of_true ⟨_, rfl⟩ float
  | integer integer value => exact iff_of_false nofun integer

theorem IsField.typed {f : Field} (h : IsField v f) : f.Typed := by
  obtain ⟨declared, -, w, -, hwidth⟩ := h.width
  exact ⟨h.initValue.float_iff, hwidth.type_ne_nil⟩

theorem IsField.resolved {f : Field} (h : IsField v f) : f.Resolved v := by
  obtain ⟨declared, hdeclared, w, hw, hwidth⟩ := h.width
  refine ⟨fun word width hword halias => ?_, fun n declared' hn hdeclared' => ?_,
    fun hnot => ?_, declared, hdeclared⟩
  · cases hw.symm.trans hword
    exact hwidth.eq_of_isAlias halias
  · obtain ⟨w', hw', hn⟩ := hn
    cases hw.symm.trans hw'
    obtain rfl := hdeclared.unique hdeclared' Value.IsText.unique
    exact hwidth.eq_of_isInteger hn
  · have hno : ∀ n, ¬ IsInteger w n := fun n hn => hnot n ⟨w, hw, hn⟩
    obtain ⟨t, htext, hknown⟩ := (isWidth_word_iff hno).1 hwidth
    exact ⟨t, ⟨w, hw, htext⟩, hknown⟩

theorem IsEntry.typed {e : Entry} (h : IsEntry v e) : ∀ f ∈ e.fields, f.Typed := by
  obtain ⟨items, -, hfields⟩ := h.fields
  exact forall_of_forall₂ hfields IsField.typed

theorem IsEntry.resolved {e : Entry} (h : IsEntry v e) :
    (itemsUnder v "fields").Forall₂ (fun w f => f.Resolved w) e.fields := by
  obtain ⟨items, hitems, hfields⟩ := h.fields
  rw [itemsUnder_eq_of_mayHave hitems]
  exact hfields.imp fun w f hfield => hfield.resolved

theorem Entry.named (e : Entry) : e.Named :=
  ⟨rfl, e.bandName, banded_bandName e.name, rfl, rfl⟩

end

namespace AddressMap
variable {v : Value} {m : AddressMap}

/-- Every field of a map that was read has a type and a default of its kind, and what templates see
of the name of an entry is derived from it. Names, widths and types are those that the nodes ask
for. -/
theorem ofValue_resolves (h : ofValue v = .ok m) :
    (∀ e ∈ m.entries, e.Named ∧ ∀ f ∈ e.fields, f.Typed) ∧
    ∃ declared, m = .ofEntries m.brief declared ∧
      (itemsUnder v "parameters").Forall₂ (fun w e => w.Has "name" IsText e.name ∧
        (itemsUnder w "fields").Forall₂ (fun w f => f.Resolved w) e.fields) declared := by
  obtain ⟨declared, hm, hentries⟩ := entries_of_ofValue h
  refine ⟨forall_entries_of_ofValue (fun hentry => ⟨Entry.named _, hentry.typed⟩) h,
    declared, hm, ?_⟩
  exact hentries.imp fun w e hentry => ⟨hentry.name, hentry.resolved⟩

/-- A word against a declared type, a number with one and a number without one. -/
def gainNode : Value :=
  .map [(.text "name", .text "UpperBandGain"), (.text "address", .integer 0),
    (.text "length", .integer 8), (.text "fields", .list [
      .map [(.text "name", .text "Step"), (.text "pos", .integer 0), (.text "bits", .text "short"),
        (.text "resolve_as", .text "float")],
      .map [(.text "name", .text "Slope"), (.text "pos", .integer 16), (.text "bits", .integer 32),
        (.text "resolve_as", .text "float"), (.text "init_value", .text "0.0")],
      .map [(.text "name", .text "Raw"), (.text "pos", .integer 48),
        (.text "bits", .text " 0x0C "), (.text "init_value", .text "0x-1")]])]

def gainDocument : Value :=
  .map [(.text "brief", .text "gains"), (.text "parameters", .list [gainNode])]

def resolvedGain : Entry where
  name := "UpperBandGain"
  address := 0
  length := 8
  fields :=
    [⟨"Step", 0, 16, "int16_t", 0, .integer 0, [], []⟩,
      ⟨"Slope", 16, 32, "float", 0, .float .zero, [], []⟩,
      ⟨"Raw", 48, 12, "uint12_t", 0, .integer (-1), [], []⟩]
  brief := []
  description := []

theorem ofValue_resolves_gain :
    ∃ m, ofValue gainDocument = .ok m ∧ m.entries = [resolvedGain] ∧ resolvedGain.Named ∧
      (∀ f ∈ resolvedGain.fields, f.Typed) ∧
      ∃ declared, m = .ofEntries m.brief declared ∧
        [gainNode].Forall₂ (fun w e => w.Has "name" IsText e.name ∧
          (itemsUnder w "fields").Forall₂ (fun w f => f.Resolved w) e.fields) declared := by
  have hread : ofValue gainDocument = .ok (.ofEntries "gains" [resolvedGain]) := rfl
  obtain ⟨hentries, hdeclared⟩ := ofValue_resolves hread
  obtain ⟨hnamed, htyped⟩ := hentries resolvedGain List.mem_cons_self
  exact ⟨_, hread, rfl, hnamed, htyped, hdeclared⟩

end AddressMap
end MapLoom
