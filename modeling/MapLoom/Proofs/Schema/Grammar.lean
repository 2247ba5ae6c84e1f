import Mathlib.Data.List.Forall2
import MapLoom.Proofs.Schema.Scalars

set_option autoImplicit false

/-!
# The grammar of a schema

Which documents are schemas is said here level by level, by what their mappings must and may hold,
and not by the order in which that is looked at or by where it stands. The reader of schemas accepts
these documents and no others, with the brief and the entries that they spell.
-/
namespace MapLoom
open Yaml (Value)

theorem forall_of_forall₂ {α β : Type} {R : α → β → Prop} {P : β → Prop} {as : List α} {bs : List β}
    (h : as.Forall₂ R bs) (hP : ∀ {a b}, R a b → P b) : ∀ b ∈ bs, P b := by
  induction h with
  | nil => exact fun _ => nofun
  | cons hab _ ih => exact List.forall_mem_cons.2 ⟨hP hab, ih⟩

namespace Yaml.Value

/-- What a mapping holds under a key, unless it is null. -/
def member? (v : Value) (key : Text) : Option Value :=
  v.asMap?.bind fun entries => (lookup key entries).filter (!·.isNull)

/-- Whether a mapping holds something of a kind under a key. -/
def Has {α : Type} (v : Value) (key : Text) (Kind : Value → α → Prop) (a : α) : Prop :=
  ∃ w, v.member? key = some w ∧ Kind w a

/-- Whether a mapping holds nothing but what is of a kind under a key; nothing stands for a
default. -/
def MayHave {α : Type} (v : Value) (key : Text) (Kind : Value → α → Prop) (default a : α) : Prop :=
  (v.member? key = none ∧ a = default) ∨ v.Has key Kind a

variable {v : Value} {key : Text}

theorem asMap?_of_member? {w : Value} (h : v.member? key = some w) :
    ∃ entries, v.asMap? = some entries := by
  obtain ⟨entries, hentries, -⟩ := Option.bind_eq_some_iff.1 h
  exact ⟨entries, hentries⟩

theorem Has.asMap? {α : Type} {Kind : Value → α → Prop} {a : α} (h : v.Has key Kind a) :
    ∃ entries, v.asMap? = some entries := by
  obtain ⟨w, hw, -⟩ := h
  exact asMap?_of_member? hw

theorem MayHave.unique {α : Type} {Kind : Value → α → Prop} {default a b : α}
    (h : v.MayHave key Kind default a) (h' : v.MayHave key Kind default b)
    (hkind : ∀ {w : Value} {a b : α}, Kind w a → Kind w b → a = b) : a = b := by
  rcases h with ⟨habsent, rfl⟩ | ⟨w, hw, ha⟩
  · rcases h' with ⟨-, rfl⟩ | ⟨w, hw, -⟩
    · rfl
    · cases habsent.symm.trans hw
  · rcases h' with ⟨habsent, -⟩ | ⟨w', hw', hb⟩
    · cases habsent.symm.trans hw
    · cases hw.symm.trans hw'
      exact hkind ha hb

@[simp] theorem lookup_append (key : Text) (es fs : List (Value × Value)) :
    lookup key (es ++ fs) = (lookup key es).or (lookup key fs) := by
  induction es with
  | nil => rfl
  | cons e es ih =>
    obtain ⟨k, v⟩ := e
    cases k with
    | text k =>
      simp only [List.cons_append, lookup]
      split
      · rfl
      · exact ih
    | _ => exact ih

theorem member?_map (before after : List (Value × Value)) (k : Text) (w : Value) (key : Text) :
    (Value.map (before ++ (.text k, w) :: after)).member? key =
      ((lookup key before).or (if k = key then some w else lookup key after)).filter
        (!·.isNull) := by
  rw [← show lookup key ((.text k, w) :: after) = if k = key then some w else lookup key after
    from rfl, ← lookup_append]
  rfl

end Yaml.Value

open Yaml.Value (IsText IsInteger IsFloat IsNatural32 IsNatural64 IsPositive64 IsList)

/-- The words for a width, with the type that each of them fixes. -/
inductive IsAlias : Text → UInt32 × Text → Prop
  | float : IsAlias "float" (32, "float")
  | double : IsAlias "double" (64, "double")
  | short : IsAlias "short" (16, "int16_t")
  | int : IsAlias "int" (32, "int32_t")

/-- Whether a value gives a field its width and type: a number keeps the declared type if there is
one, and a word fixes both. -/
inductive IsWidth (declared : Text) : Value → UInt32 × Text → Prop
  | number {v : Value} {bits : UInt32} (value : IsNatural32 v bits) :
      IsWidth declared v (bits, if declared = [] then unsignedType bits else declared)
  | word {v : Value} {t : Text} {width : UInt32 × Text} (number : ∀ n, ¬ IsInteger v n)
      (text : IsText v t) (known : IsAlias t width) : IsWidth declared v width

def FloatType (type : Text) : Prop := type = "float" ∨ type = "double"

/-- Whether a mapping gives a field of a type its initial value. -/
inductive HasInitValue (v : Value) (type : Text) : InitValue → Prop
  | float {x : Binary64} (float : FloatType type)
      (value : v.MayHave "init_value" IsFloat .zero x) : HasInitValue v type (.float x)
  | integer {n : Int} (integer : ¬ FloatType type)
      (value : v.MayHave "init_value" IsInteger 0 n) : HasInitValue v type (.integer n)

structure IsField (v : Value) (f : Field) : Prop where
  name : v.Has "name" IsText f.name
  pos : v.Has "pos" IsNatural32 f.pos
  numEntries : v.MayHave "num_entries" IsNatural32 0 f.numEntries
  width : ∃ declared, v.MayHave "resolve_as" IsText [] declared ∧
    v.Has "bits" (IsWidth declared) (f.bits, f.resolveAs)
  initValue : HasInitValue v f.resolveAs f.initValue
  brief : v.MayHave "brief" IsText [] f.brief
  description : v.MayHave "description" IsText [] f.description

structure IsEntry (v : Value) (e : Entry) : Prop where
  name : v.Has "name" IsText e.name
  address : v.Has "address" IsNatural64 e.address
  length : v.Has "length" IsPositive64 e.length
  brief : v.MayHave "brief" IsText [] e.brief
  description : v.MayHave "description" IsText [] e.description
  fields : ∃ items, v.MayHave "fields" IsList [] items ∧ items.Forall₂ IsField e.fields

/-- Whether a document is a schema with a brief and entries in their declared order. -/
structure IsSchema (v : Value) (brief : Text) (declared : List Entry) : Prop where
  brief : v.Has "brief" IsText brief
  parameters : ∃ items, v.Has "parameters" IsList items ∧ items.Forall₂ IsEntry declared

namespace SchemaNode
variable {α : Type} {n : SchemaNode} {v : Value} {key : Text} {expected : Expected}
  {coerce : Value → Option α} {Kind : Value → α → Prop} {default a : α}

/-- Whether a node stands for a mapping of the document. -/
def Of (n : SchemaNode) (v : Value) : Prop := v.asMap? = some n.entries

theorem Of.value?_eq (h : n.Of v) (key : Text) : n.value? key = v.member? key := by
  rw [value?, Value.member?, show v.asMap? = some n.entries from h, Option.bind_some]

theorem coerced_eq_ok_iff {w : Value} :
    n.coerced key expected coerce w = .ok a ↔ coerce w = some a := by
  unfold coerced
  cases coerce w <;> simp

theorem Of.required_eq_ok_iff (h : n.Of v) (hcoerce : ∀ w a, coerce w = some a ↔ Kind w a) :
    n.required key expected coerce = .ok a ↔ v.Has key Kind a := by
  unfold required Value.Has
  rw [h.value?_eq]
  cases v.member? key with
  | none => simp
  | some w => simp [coerced_eq_ok_iff, hcoerce]

theorem Of.optional_eq_ok_iff (h : n.Of v) (hcoerce : ∀ w a, coerce w = some a ↔ Kind w a) :
    n.optional key expected coerce default = .ok a ↔ v.MayHave key Kind default a := by
  unfold optional Value.MayHave Value.Has
  rw [h.value?_eq]
  cases v.member? key with
  | none => simp [eq_comm]
  | some w => simp [coerced_eq_ok_iff, hcoerce]

theorem ofValue_eq_ok_iff {path : NodePath} :
    SchemaNode.ofValue v path = .ok n ↔ n.Of v ∧ n.path = path := by
  unfold SchemaNode.ofValue Of
  cases v.asMap? with
  | none => simp
  | some entries =>
    obtain ⟨others, place⟩ := n
    simp [eq_comm]

end SchemaNode

section
variable {n : SchemaNode} {v : Value}

theorem SchemaNode.Of.named_eq_ok_iff {name : Text} {m : SchemaNode} (h : n.Of v) :
    n.named = .ok (name, m) ↔
      v.Has "name" IsText name ∧ m = ⟨n.entries, n.path.renamed name⟩ := by
  unfold SchemaNode.named
  rw [bind_eq_ok_iff]
  constructor
  · rintro ⟨name, hname, ⟨⟩⟩
    exact ⟨(h.required_eq_ok_iff Value.asText?_eq_some_iff).1 hname, rfl⟩
  · rintro ⟨hname, rfl⟩
    exact ⟨_, (h.required_eq_ok_iff Value.asText?_eq_some_iff).2 hname, rfl⟩

theorem bitsAlias?_eq_some_iff {word : Text} {width : UInt32 × Text} :
    bitsAlias? word = some width ↔ IsAlias word width := by
  constructor
  · intro h
    unfold bitsAlias? at h
    split_ifs at h with hfloat hdouble hshort hint
    all_goals
      subst word
      cases h
    · exact .float
    · exact .double
    · exact .short
    · exact .int
  · rintro (_ | _ | _ | _) <;> rfl

section
variable {declared : Text} {width : UInt32 × Text}

theorem isWidth_number_iff {z : Int} (hz : IsInteger v z) :
    IsWidth declared v width ↔ ∃ bits, Value.natural32? z = some bits ∧
      (bits, if declared = [] then unsignedType bits else declared) = width := by
  constructor
  · rintro (hvalue | ⟨hnot, -, -⟩)
    · exact ⟨_, Value.natural32?_eq_some_iff.2 (hvalue.unique hz), rfl⟩
    · exact absurd hz (hnot z)
  · rintro ⟨bits, hbits, rfl⟩
    obtain rfl := Value.natural32?_eq_some_iff.1 hbits
    exact .number hz

theorem isWidth_word_iff (hnot : ∀ z, ¬ IsInteger v z) :
    IsWidth declared v width ↔ ∃ t, IsText v t ∧ IsAlias t width := by
  constructor
  · rintro (hvalue | ⟨-, htext, hknown⟩)
    · exact absurd hvalue (hnot _)
    · exact ⟨_, htext, hknown⟩
  · rintro ⟨t, htext, hknown⟩
    exact .word hnot htext hknown

theorem readWidth_eq_ok_iff (h : n.Of v) :
    readWidth n declared = .ok width ↔ v.Has "bits" (IsWidth declared) width := by
  unfold readWidth Value.Has
  rw [h.value?_eq]
  cases v.member? "bits" with
  | none => simp
  | some w =>
    simp only [Option.some.injEq, exists_eq_left']
    cases hnumber : w.asInteger? with
    | some z =>
      rw [isWidth_number_iff ((Value.asInteger?_eq_some_iff _ _).1 hnumber)]
      dsimp only
      cases Value.natural32? z <;> simp
    | none =>
      have hnot : ∀ z, ¬ IsInteger w z := by
        intro z hz
        simp [(Value.asInteger?_eq_some_iff _ _).2 hz] at hnumber
      simp only [isWidth_word_iff hnot, ← Value.asText?_eq_some_iff, ← bitsAlias?_eq_some_iff]
      cases w.asText? with
      | none => simp
      | some t => cases halias : bitsAlias? t <;> simp [halias]

end

theorem isFloatType_iff {type : Text} : isFloatType type = true ↔ FloatType type := by
  unfold isFloatType FloatType
  rw [Bool.or_eq_true, decide_eq_true_iff, decide_eq_true_iff]

theorem readInitValue_eq_ok_iff {type : Text} {value : InitValue} (h : n.Of v) :
    readInitValue n type = .ok value ↔ HasInitValue v type value := by
  unfold readInitValue
  split
  · rename_i htype
    rw [bind_eq_ok_iff]
    constructor
    · rintro ⟨x, hx, ⟨⟩⟩
      exact .float (isFloatType_iff.1 htype)
        ((h.optional_eq_ok_iff Value.asFloat?_eq_some_iff).1 hx)
    · rintro (⟨-, hx⟩ | ⟨hnot, -⟩)
      · exact ⟨_, (h.optional_eq_ok_iff Value.asFloat?_eq_some_iff).2 hx, rfl⟩
      · exact absurd (isFloatType_iff.1 htype) hnot
  · rename_i htype
    rw [bind_eq_ok_iff]
    constructor
    · rintro ⟨z, hz, ⟨⟩⟩
      exact .integer (mt isFloatType_iff.2 htype)
        ((h.optional_eq_ok_iff Value.asInteger?_eq_some_iff).1 hz)
    · rintro (⟨hfloat, -⟩ | ⟨-, hz⟩)
      · exact absurd (isFloatType_iff.2 hfloat) htype
      · exact ⟨_, (h.optional_eq_ok_iff Value.asInteger?_eq_some_iff).2 hz, rfl⟩

theorem SchemaNode.Of.text_eq_ok_iff {key t default : Text} (h : n.Of v) :
    n.optional key .string Value.asText? default = .ok t ↔ v.MayHave key IsText default t :=
  h.optional_eq_ok_iff Value.asText?_eq_some_iff

theorem readField_eq_ok_iff {path : NodePath} {f : Field} :
    readField path v = .ok f ↔ IsField v f := by
  unfold readField
  simp only [bind_eq_ok_iff, SchemaNode.ofValue_eq_ok_iff]
  constructor
  · rintro ⟨n, ⟨hn, -⟩, ⟨name, n'⟩, hnamed, pos, hpos, numEntries, hnum, declared, hdeclared,
      ⟨bits, type⟩, hwidth, value, hvalue, brief, hbrief, description, hdescription, ⟨⟩⟩
    obtain ⟨hname, rfl⟩ := hn.named_eq_ok_iff.1 hnamed
    replace hn : (SchemaNode.mk n.entries (n.path.renamed name)).Of v := hn
    exact {
      name := hname
      pos := (hn.required_eq_ok_iff Value.asNatural32?_eq_some_iff).1 hpos
      numEntries := (hn.optional_eq_ok_iff Value.asNatural32?_eq_some_iff).1 hnum
      width := ⟨declared, hn.text_eq_ok_iff.1 hdeclared, (readWidth_eq_ok_iff hn).1 hwidth⟩
      initValue := (readInitValue_eq_ok_iff hn).1 hvalue
      brief := hn.text_eq_ok_iff.1 hbrief
      description := hn.text_eq_ok_iff.1 hdescription }
  · intro h
    obtain ⟨entries, hentries⟩ : ∃ entries, v.asMap? = some entries := h.name.asMap?
    have hn : ∀ place, (SchemaNode.mk entries place).Of v := fun _ => hentries
    obtain ⟨declared, hdeclared, hwidth⟩ := h.width
    exact ⟨⟨entries, path⟩, ⟨hn path, rfl⟩, (f.name, ⟨entries, path.renamed f.name⟩),
      (hn path).named_eq_ok_iff.2 ⟨h.name, rfl⟩,
      f.pos, ((hn _).required_eq_ok_iff Value.asNatural32?_eq_some_iff).2 h.pos,
      f.numEntries,
      ((hn _).optional_eq_ok_iff Value.asNatural32?_eq_some_iff).2 h.numEntries,
      declared, (hn _).text_eq_ok_iff.2 hdeclared,
      (f.bits, f.resolveAs), (readWidth_eq_ok_iff (hn _)).2 hwidth,
      f.initValue, (readInitValue_eq_ok_iff (hn _)).2 h.initValue,
      f.brief, (hn _).text_eq_ok_iff.2 h.brief,
      f.description, (hn _).text_eq_ok_iff.2 h.description, rfl⟩

theorem readElements_eq_ok_iff {α : Type} {read : NodePath → Value → Except SchemaError α}
    {Element : Value → α → Prop} (hread : ∀ path v a, read path v = .ok a ↔ Element v a)
    {path : NodePath} {list : Text} {i : Nat} {items : List Value} {as : List α} :
    readElements read path list i items = .ok as ↔ items.Forall₂ Element as := by
  induction items generalizing i as with
  | nil =>
    rw [List.forall₂_nil_left_iff, readElements, Except.ok.injEq, eq_comm]
  | cons v items ih =>
    simp only [readElements, bind_eq_ok_iff, hread, ih, List.forall₂_cons_left_iff]
    constructor
    · rintro ⟨a, ha, rest, hrest, ⟨⟩⟩
      exact ⟨a, rest, ha, hrest, rfl⟩
    · rintro ⟨a, rest, ha, hrest, rfl⟩
      exact ⟨a, ha, rest, hrest, rfl⟩

theorem readEntry_eq_ok_iff {path : NodePath} {e : Entry} :
    readEntry path v = .ok e ↔ IsEntry v e := by
  have hfields : ∀ {path items fields}, readElements readField path "fields" 0 items = .ok fields ↔
      items.Forall₂ IsField fields := by
    intro path items fields
    exact readElements_eq_ok_iff fun _ w _ => readField_eq_ok_iff (v := w)
  unfold readEntry
  simp only [bind_eq_ok_iff, SchemaNode.ofValue_eq_ok_iff]
  constructor
  · rintro ⟨n, ⟨hn, -⟩, ⟨name, n'⟩, hnamed, address, haddress, length, hlength, brief, hbrief,
      description, hdescription, items, hitems, fields, hread, ⟨⟩⟩
    obtain ⟨hname, rfl⟩ := hn.named_eq_ok_iff.1 hnamed
    replace hn : (SchemaNode.mk n.entries (n.path.renamed name)).Of v := hn
    exact {
      name := hname
      address := (hn.required_eq_ok_iff Value.asNatural64?_eq_some_iff).1 haddress
      length := (hn.required_eq_ok_iff Value.asPositive64?_eq_some_iff).1 hlength
      brief := hn.text_eq_ok_iff.1 hbrief
      description := hn.text_eq_ok_iff.1 hdescription
      fields := ⟨items, (hn.optional_eq_ok_iff Value.asList?_eq_some_iff).1 hitems,
        hfields.1 hread⟩ }
  · intro h
    obtain ⟨entries, hentries⟩ : ∃ entries, v.asMap? = some entries := h.name.asMap?
    have hn : ∀ place, (SchemaNode.mk entries place).Of v := fun _ => hentries
    obtain ⟨items, hitems, hread⟩ := h.fields
    exact ⟨⟨entries, path⟩, ⟨hn path, rfl⟩, (e.name, ⟨entries, path.renamed e.name⟩),
      (hn path).named_eq_ok_iff.2 ⟨h.name, rfl⟩,
      e.address, ((hn _).required_eq_ok_iff Value.asNatural64?_eq_some_iff).2 h.address,
      e.length, ((hn _).required_eq_ok_iff Value.asPositive64?_eq_some_iff).2 h.length,
      e.brief, (hn _).text_eq_ok_iff.2 h.brief,
      e.description, (hn _).text_eq_ok_iff.2 h.description,
      items, ((hn _).optional_eq_ok_iff Value.asList?_eq_some_iff).2 hitems,
      e.fields, hfields.2 hread, rfl⟩

theorem declares_iff_isSchema {brief : Text} {declared : List Entry} :
    Declares v brief declared ↔ IsSchema v brief declared := by
  have hentries : ∀ {path items declared},
      readElements readEntry path "parameters" 0 items = .ok declared ↔
        items.Forall₂ IsEntry declared := by
    intro path items declared
    exact readElements_eq_ok_iff fun _ w _ => readEntry_eq_ok_iff (v := w)
  unfold Declares
  simp only [SchemaNode.ofValue_eq_ok_iff, hentries]
  constructor
  · rintro ⟨n, items, ⟨hn, -⟩, hbrief, hitems, hread⟩
    exact ⟨(hn.required_eq_ok_iff Value.asText?_eq_some_iff).1 hbrief, items,
      (hn.required_eq_ok_iff Value.asList?_eq_some_iff).1 hitems, hread⟩
  · rintro ⟨hbrief, items, hitems, hread⟩
    obtain ⟨entries, hmap⟩ : ∃ entries, v.asMap? = some entries := hbrief.asMap?
    have hn : (SchemaNode.mk entries .root).Of v := hmap
    exact ⟨_, items, ⟨hn, rfl⟩,
      (hn.required_eq_ok_iff Value.asText?_eq_some_iff).2 hbrief,
      (hn.required_eq_ok_iff Value.asList?_eq_some_iff).2 hitems, hread⟩

/-- A document is read exactly when it is a schema, and the map that is read has its brief and the
entries that it spells. -/
theorem ofValue_accepts_schema (v : Value) :
    ((∃ m, AddressMap.ofValue v = .ok m) ↔ ∃ brief declared, IsSchema v brief declared) ∧
    ∀ m, AddressMap.ofValue v = .ok m ↔
      ∃ brief declared, IsSchema v brief declared ∧ m = .ofEntries brief declared := by
  have hread : ∀ m, AddressMap.ofValue v = .ok m ↔
      ∃ brief declared, IsSchema v brief declared ∧ m = .ofEntries brief declared := by
    intro m
    simp only [AddressMap.ofValue_eq_ok_iff, declares_iff_isSchema]
  refine ⟨⟨?_, ?_⟩, hread⟩
  · rintro ⟨m, hm⟩
    obtain ⟨brief, declared, h, -⟩ := (hread m).1 hm
    exact ⟨brief, declared, h⟩
  · rintro ⟨brief, declared, h⟩
    exact ⟨_, (hread _).2 ⟨brief, declared, h, rfl⟩⟩

end
end MapLoom
