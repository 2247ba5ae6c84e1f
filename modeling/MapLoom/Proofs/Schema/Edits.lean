import Mathlib.Data.List.Forall2
import Mathlib.Logic.Relation
import MapLoom.Proofs.Schema.Grammar
import MapLoom.Proofs.Yaml.Value

set_option autoImplicit false

/-!
# Edits that a schema does not show

A schema is looked up key by key, so neither the order of its keys nor a key that is not known where
it stands has a part in the outcome. A null stands for no key, and a tag before a list, a mapping or
a null is passed over. The outcome, with the error if there is one, survives all edits of these
kinds, anywhere in the document.
-/
namespace MapLoom
open Yaml (Value)
open Relation (ReflGen EqvGen)

/-- What a value of a document is there for. -/
inductive Place
  | root
  | parameters
  | entry
  | fields
  | field
  | elsewhere

namespace Place

def keys : Place → List Text
  | root => ["brief", "parameters"]
  | entry => ["name", "address", "length", "brief", "description", "fields"]
  | field =>
    ["name", "pos", "num_entries", "resolve_as", "bits", "init_value", "brief", "description"]
  | _ => []

def under : Place → Value → Place
  | root, .text key => if key = "parameters" then parameters else elsewhere
  | entry, .text key => if key = "fields" then fields else elsewhere
  | _, _ => elsewhere

def element : Place → Place
  | parameters => entry
  | fields => field
  | _ => elsewhere

end Place

namespace Yaml.Value

def textKeys (entries : List (Value × Value)) : List Text :=
  entries.filterMap fun e =>
    match e.1 with
    | .text key => some key
    | _ => none

/-- Whether a value is a null, a list or a mapping, for which tags do not count. -/
def SeenThroughTags (v : Value) : Prop := v.isNull ∨ v.asList?.isSome ∨ v.asMap?.isSome

end Yaml.Value

open Yaml.Value (lookup textKeys)

/-- One edit of a value at a place, there or further down. A mapping whose entries change their
order has no text twice as a key, as no mapping of a document has. -/
inductive Edit : Place → Value → Value → Prop
  | reorder {p : Place} {es fs : List (Value × Value)} (distinct : (textKeys es).Nodup)
      (perm : es.Perm fs) : Edit p (.map es) (.map fs)
  | unknown {p : Place} {es fs : List (Value × Value)} {key : Value} (v : Value)
      (unknown : ∀ known ∈ p.keys, key ≠ .text known) :
      Edit p (.map (es ++ fs)) (.map (es ++ (key, v) :: fs))
  | null {p : Place} {es fs : List (Value × Value)} {key : Text} (known : key ∈ p.keys)
      (absent : lookup key (es ++ fs) = none) :
      Edit p (.map (es ++ fs)) (.map (es ++ (.text key, .null) :: fs))
  | tag {p : Place} {v : Value} (t : Text) (seen : v.SeenThroughTags) : Edit p v (.tagged t v)
  | member {p : Place} {es fs : List (Value × Value)} {key v w : Value}
      (edit : Edit (p.under key) v w) :
      Edit p (.map (es ++ (key, v) :: fs)) (.map (es ++ (key, w) :: fs))
  | element {p : Place} {before after : List Value} {v w : Value} (edit : Edit p.element v w) :
      Edit p (.list (before ++ v :: after)) (.list (before ++ w :: after))
  | tagged {p : Place} {v w : Value} (t : Text) (edit : Edit p v w) :
      Edit p (.tagged t v) (.tagged t w)

namespace Yaml.Value
variable {es fs : List (Value × Value)} {key : Text} {v : Value}

theorem lookup_eq_some_iff_mem (h : (textKeys es).Nodup) :
    lookup key es = some v ↔ (.text key, v) ∈ es := by
  induction es with
  | nil => simp [lookup]
  | cons e es ih =>
    obtain ⟨k, w⟩ := e
    cases k with
    | text k =>
      obtain ⟨hfresh, hrest⟩ := List.nodup_cons.1 h
      rw [lookup, List.mem_cons]
      split
      · rename_i heq
        subst heq
        have habsent : (Value.text k, v) ∉ es := fun hmem =>
          hfresh (List.mem_filterMap.2 ⟨_, hmem, rfl⟩)
        simp [habsent, eq_comm]
      · rename_i hne
        rw [ih hrest]
        simp [Ne.symm hne]
    | _ =>
      change lookup key es = some v ↔ _
      rw [ih h]
      simp

theorem lookup_eq_of_perm (h : (textKeys es).Nodup) (hperm : es.Perm fs) :
    lookup key es = lookup key fs := by
  have h' : (textKeys fs).Nodup := (hperm.filterMap _).nodup_iff.1 h
  refine Option.ext fun v => ?_
  rw [lookup_eq_some_iff_mem h, lookup_eq_some_iff_mem h', hperm.mem_iff]

theorem lookup_insert_of_ne {other : Value} (h : other ≠ .text key) :
    lookup key (es ++ (other, v) :: fs) = lookup key (es ++ fs) := by
  have hskip : lookup key ((other, v) :: fs) = lookup key fs := by
    cases other with
    | text k => exact if_neg fun heq => h (congrArg Value.text heq)
    | _ => rfl
  rw [lookup_append, lookup_append, hskip]

@[simp] theorem lookup_insert_self :
    lookup key (es ++ (.text key, v) :: fs) = (lookup key es).or (some v) := by
  rw [lookup_append]
  exact congrArg _ (if_pos rfl)

theorem SeenThroughTags.scalars (h : v.SeenThroughTags) :
    v.asText? = none ∧ v.asInteger? = none ∧ v.asFloat? = none := by
  cases v with
  | bool | integer | float | text => rcases h with h | h | h <;> cases h
  | _ => exact ⟨rfl, rfl, rfl⟩

end Yaml.Value

/-- Whether a value at a place is the same or has one edit. -/
def Edited (p : Place) : Value → Value → Prop := ReflGen (Edit p)

/-- What one edit keeps of a value: all that is looked at, up to edits further down. -/
structure Alike (p : Place) (v w : Value) : Prop where
  isNull : v.isNull = w.isNull
  text : v.asText? = w.asText?
  integer : v.asInteger? = w.asInteger?
  float : v.asFloat? = w.asFloat?
  mapping : v.asMap?.isSome = w.asMap?.isSome
  members : ∀ key ∈ p.keys,
    Option.Rel (Edited (p.under (.text key))) (v.member? key) (w.member? key)
  items : Option.Rel (List.Forall₂ (Edited p.element)) v.asList? w.asList?

section
variable {p : Place} {v w : Value}

theorem Edited.refl (v : Value) : Edited p v v := ReflGen.refl

theorem rel_refl {α : Type} {R : α → α → Prop} (hR : ∀ a, R a a) (a : Option α) :
    Option.Rel R a a := by
  cases a with
  | none => exact .none
  | some a => exact .some (hR a)

theorem forall₂_edited_refl (items : List Value) : items.Forall₂ (Edited p) items :=
  List.forall₂_same.2 fun v _ => .refl v

theorem Alike.refl (v : Value) : Alike p v v where
  isNull := rfl
  text := rfl
  integer := rfl
  float := rfl
  mapping := rfl
  members _ _ := rel_refl Edited.refl _
  items := rel_refl forall₂_edited_refl _

theorem alike_map {es fs : List (Value × Value)}
    (h : ∀ key ∈ p.keys, Option.Rel (Edited (p.under (.text key)))
      ((Value.map es).member? key) ((Value.map fs).member? key)) : Alike p (.map es) (.map fs) where
  isNull := rfl
  text := rfl
  integer := rfl
  float := rfl
  mapping := rfl
  members := h
  items := .none

theorem alike_map_of_eq {es fs : List (Value × Value)}
    (h : ∀ key ∈ p.keys, (Value.map es).member? key = (Value.map fs).member? key) :
    Alike p (.map es) (.map fs) :=
  alike_map fun key hkey => h key hkey ▸ rel_refl Edited.refl _

theorem Alike.tagged (t : Text) (h : Alike p v w) : Alike p (.tagged t v) (.tagged t w) where
  isNull := h.isNull
  text := rfl
  integer := rfl
  float := rfl
  mapping := h.mapping
  members := h.members
  items := h.items

theorem alike_tag (t : Text) (h : v.SeenThroughTags) : Alike p v (.tagged t v) where
  isNull := rfl
  text := h.scalars.1
  integer := h.scalars.2.1
  float := h.scalars.2.2
  mapping := rfl
  members _ _ := rel_refl Edited.refl _
  items := rel_refl forall₂_edited_refl _

theorem member?_null (known : Text) {es fs : List (Value × Value)} {key : Text}
    (absent : lookup key (es ++ fs) = none) :
    (Value.map (es ++ fs)).member? known =
      (Value.map (es ++ (.text key, .null) :: fs)).member? known := by
  by_cases heq : key = known
  · subst heq
    have hfirst : lookup key es = none := by
      rw [Value.lookup_append, Option.or_eq_none_iff] at absent
      exact absent.1
    have hnull : lookup key (es ++ (.text key, .null) :: fs) = some .null := by
      rw [Value.lookup_insert_self, hfirst, Option.none_or]
    change (lookup key _).filter _ = (lookup key _).filter _
    rw [absent, hnull]
    rfl
  · have hne : Value.text key ≠ .text known := by simpa using heq
    change (lookup known _).filter _ = (lookup known _).filter _
    rw [Value.lookup_insert_of_ne hne]

theorem member?_member (known : Text) {es fs : List (Value × Value)} {key : Value}
    (hnull : v.isNull = w.isNull) (edit : Edit (p.under key) v w) :
    Option.Rel (Edited (p.under (.text known))) ((Value.map (es ++ (key, v) :: fs)).member? known)
      ((Value.map (es ++ (key, w) :: fs)).member? known) := by
  change Option.Rel _ ((lookup known _).filter _) ((lookup known _).filter _)
  by_cases heq : key = .text known
  · subst heq
    rw [Value.lookup_insert_self, Value.lookup_insert_self]
    cases lookup known es with
    | some x => exact rel_refl Edited.refl _
    | none =>
      rw [Option.none_or, Option.none_or, Option.filter_some, Option.filter_some, hnull]
      split
      · exact .some (ReflGen.single edit)
      · exact .none
  · rw [Value.lookup_insert_of_ne heq, Value.lookup_insert_of_ne heq]
    exact rel_refl Edited.refl _

theorem forall₂_element {before after : List Value} (edit : Edit p v w) :
    (before ++ v :: after).Forall₂ (Edited p) (before ++ w :: after) :=
  List.rel_append (forall₂_edited_refl before)
    (.cons (ReflGen.single edit) (forall₂_edited_refl after))

theorem Edit.alike (h : Edit p v w) : Alike p v w := by
  induction h with
  | reorder distinct perm =>
    refine alike_map_of_eq fun key _ => ?_
    change (lookup key _).filter _ = (lookup key _).filter _
    rw [Value.lookup_eq_of_perm distinct perm]
  | unknown v unknown =>
    refine alike_map_of_eq fun key hkey => ?_
    change (lookup key _).filter _ = (lookup key _).filter _
    rw [Value.lookup_insert_of_ne (unknown key hkey)]
  | null _ absent => exact alike_map_of_eq fun key _ => member?_null key absent
  | tag t seen => exact alike_tag t seen
  | member edit ih =>
    -- a value with an edit is null only if it was, so its key stays present or absent
    exact alike_map fun key _ => member?_member key ih.isNull edit
  | element edit _ =>
    exact {
      isNull := rfl
      text := rfl
      integer := rfl
      float := rfl
      mapping := rfl
      members := fun _ _ => .none
      items := .some (forall₂_element edit) }
  | tagged t _ ih => exact ih.tagged t

theorem Edited.alike (h : Edited p v w) : Alike p v w := by
  cases h with
  | refl => exact .refl v
  | single edit => exact edit.alike

namespace Edited

theorem asText?_eq (h : Edited p v w) : v.asText? = w.asText? := h.alike.text

theorem asInteger?_eq (h : Edited p v w) : v.asInteger? = w.asInteger? := h.alike.integer

theorem asFloat?_eq (h : Edited p v w) : v.asFloat? = w.asFloat? := h.alike.float

theorem asNatural32?_eq (h : Edited p v w) : v.asNatural32? = w.asNatural32? := by
  rw [Value.asNatural32?, h.asInteger?_eq, ← Value.asNatural32?]

theorem asNatural64?_eq (h : Edited p v w) : v.asNatural64? = w.asNatural64? := by
  rw [Value.asNatural64?, h.asInteger?_eq, ← Value.asNatural64?]

theorem asPositive64?_eq (h : Edited p v w) : v.asPositive64? = w.asPositive64? := by
  rw [Value.asPositive64?, h.asNatural64?_eq, ← Value.asPositive64?]

end Edited

/-- Whether two nodes stand at one path and hold the same under the keys that are known at a place,
up to an edit. -/
structure SchemaNode.Alike (p : Place) (n m : SchemaNode) : Prop where
  path : n.path = m.path
  values : ∀ key ∈ p.keys, Option.Rel (Edited (p.under (.text key))) (n.value? key) (m.value? key)

section
variable {α β : Type} {n m : SchemaNode} {expected : Expected} {coerce : Value → Option α}

theorem SchemaNode.Alike.value_cases (h : n.Alike p m) {key : Text} (known : key ∈ p.keys) :
    (n.value? key = none ∧ m.value? key = none) ∨
      ∃ v w, n.value? key = some v ∧ m.value? key = some w ∧
        Edited (p.under (.text key)) v w := by
  have hvalues := h.values key known
  generalize n.value? key = x at hvalues ⊢
  generalize m.value? key = y at hvalues ⊢
  cases hvalues with
  | none => exact .inl ⟨rfl, rfl⟩
  | some hedited => exact .inr ⟨_, _, rfl, rfl, hedited⟩

theorem SchemaNode.Alike.required_eq (h : n.Alike p m) (key : Text) (known : key ∈ p.keys)
    (hcoerce : ∀ {q v w}, Edited q v w → coerce v = coerce w) :
    n.required key expected coerce = m.required key expected coerce := by
  unfold SchemaNode.required SchemaNode.coerced
  obtain ⟨hn, hm⟩ | ⟨v, w, hn, hm, hedited⟩ := h.value_cases known
  · rw [hn, hm, h.path]
  · simp only [hn, hm, h.path, hcoerce hedited]

theorem SchemaNode.Alike.optional_eq {default : α} (h : n.Alike p m) (key : Text)
    (known : key ∈ p.keys) (hcoerce : ∀ {q v w}, Edited q v w → coerce v = coerce w) :
    n.optional key expected coerce default = m.optional key expected coerce default := by
  unfold SchemaNode.optional SchemaNode.coerced
  obtain ⟨hn, hm⟩ | ⟨v, w, hn, hm, hedited⟩ := h.value_cases known
  · rw [hn, hm]
  · simp only [hn, hm, h.path, hcoerce hedited]

theorem SchemaNode.Alike.readWidth_eq (h : n.Alike .field m) (declared : Text) :
    readWidth n declared = readWidth m declared := by
  have known : ("bits" : Text) ∈ Place.field.keys := by decide
  unfold readWidth
  obtain ⟨hn, hm⟩ | ⟨v, w, hn, hm, hedited⟩ := h.value_cases known
  · rw [hn, hm, h.path]
  · simp only [hn, hm, h.path, hedited.asInteger?_eq, hedited.asText?_eq]

theorem SchemaNode.Alike.readInitValue_eq (h : n.Alike .field m) (type : Text) :
    readInitValue n type = readInitValue m type := by
  unfold readInitValue
  rw [h.optional_eq "init_value" (by decide) Edited.asFloat?_eq,
    h.optional_eq "init_value" (by decide) Edited.asInteger?_eq]

theorem node_bind_eq {f : SchemaNode → Except SchemaError α} (h : Edited p v w) (path : NodePath)
    (hf : ∀ n m : SchemaNode, n.Alike p m → f n = f m) :
    (SchemaNode.ofValue v path >>= f) = (SchemaNode.ofValue w path >>= f) := by
  have hmembers := h.alike.members
  have hmapping := h.alike.mapping
  unfold Value.member? at hmembers
  unfold SchemaNode.ofValue
  generalize v.asMap? = x at hmembers hmapping ⊢
  generalize w.asMap? = y at hmembers hmapping ⊢
  cases x with
  | none =>
    cases y with
    | none => rfl
    | some fs => cases hmapping
  | some es =>
    cases y with
    | none => cases hmapping
    | some fs => exact hf ⟨es, path⟩ ⟨fs, path⟩ ⟨rfl, hmembers⟩

theorem named_bind_eq {f : Text × SchemaNode → Except SchemaError α} (h : n.Alike p m)
    (known : ("name" : Text) ∈ p.keys)
    (hf : ∀ (name : Text) (n m : SchemaNode), n.Alike p m → f (name, n) = f (name, m)) :
    (n.named >>= f) = (m.named >>= f) := by
  unfold SchemaNode.named
  rw [h.required_eq "name" known Edited.asText?_eq, h.path]
  cases m.required "name" .string Value.asText? with
  | error e => rfl
  | ok name => exact hf name _ _ ⟨rfl, h.values⟩

theorem items_bind_eq {key : Text} {f : List Value → Except SchemaError α} (h : n.Alike p m)
    (known : key ∈ p.keys)
    (hf : ∀ xs ys : List Value,
      xs.Forall₂ (Edited (p.under (.text key)).element) ys → f xs = f ys) :
    (n.required key .list Value.asList? >>= f) = (m.required key .list Value.asList? >>= f) ∧
      (n.optional key .list Value.asList? [] >>= f) =
        (m.optional key .list Value.asList? [] >>= f) := by
  unfold SchemaNode.required SchemaNode.optional SchemaNode.coerced
  obtain ⟨hn, hm⟩ | ⟨v, w, hn, hm, hedited⟩ := h.value_cases known
  · rw [hn, hm, h.path]
    exact ⟨rfl, rfl⟩
  · have hitems := hedited.alike.items
    simp only [hn, hm, h.path]
    generalize v.asList? = xs at hitems ⊢
    generalize w.asList? = ys at hitems ⊢
    cases hitems with
    | none => exact ⟨rfl, rfl⟩
    | some helements => exact ⟨hf _ _ helements, hf _ _ helements⟩

theorem readElements_eq_of_edited {read : NodePath → Value → Except SchemaError α}
    (hread : ∀ path v w, Edited p v w → read path v = read path w) (path : NodePath) (list : Text)
    {xs ys : List Value} (h : xs.Forall₂ (Edited p) ys) (i : Nat) :
    readElements read path list i xs = readElements read path list i ys := by
  induction h generalizing i with
  | nil => rfl
  | cons hedited _ ih => rw [readElements, readElements, hread _ _ _ hedited, ih]

end

theorem readField_eq_of_edited (path : NodePath) (h : Edited .field v w) :
    readField path v = readField path w := by
  refine node_bind_eq h path fun n m hn => named_bind_eq hn (by decide) fun name n m hm => ?_
  simp only [hm.required_eq "pos" (by decide) Edited.asNatural32?_eq,
    hm.optional_eq "num_entries" (by decide) Edited.asNatural32?_eq,
    hm.optional_eq "resolve_as" (by decide) Edited.asText?_eq, hm.readWidth_eq,
    hm.readInitValue_eq, hm.optional_eq "brief" (by decide) Edited.asText?_eq,
    hm.optional_eq "description" (by decide) Edited.asText?_eq]

theorem readEntry_eq_of_edited (path : NodePath) (h : Edited .entry v w) :
    readEntry path v = readEntry path w := by
  refine node_bind_eq h path fun n m hn => named_bind_eq hn (by decide) fun name n m hm => ?_
  simp only [hm.required_eq "address" (by decide) Edited.asNatural64?_eq,
    hm.required_eq "length" (by decide) Edited.asPositive64?_eq,
    hm.optional_eq "brief" (by decide) Edited.asText?_eq,
    hm.optional_eq "description" (by decide) Edited.asText?_eq, hm.path]
  refine bind_congr fun _ => bind_congr fun _ => bind_congr fun _ => bind_congr fun _ => ?_
  -- the two lists of fields differ, and only what is read from them is the same
  refine (items_bind_eq hm (by decide) fun xs ys helements => ?_).2
  have hread := readElements_eq_of_edited (fun path _ _ => readField_eq_of_edited path) m.path
    "fields" helements 0
  rw [hread]

namespace AddressMap

theorem ofValue_eq_of_edited (h : Edited .root v w) : ofValue v = ofValue w := by
  refine node_bind_eq h .root fun n m hn => ?_
  simp only [hn.required_eq "brief" (by decide) Edited.asText?_eq, hn.path]
  refine bind_congr fun _ => (items_bind_eq hn (by decide) fun xs ys helements => ?_).1
  have hread := readElements_eq_of_edited (fun path _ _ => readEntry_eq_of_edited path) m.path
    "parameters" helements 0
  rw [hread]

/-- The outcome for a document is the one for any document that edits make of it, or that it can be
made of by edits. -/
theorem ofValue_eq_of_edits (h : EqvGen (Edit .root) v w) : ofValue v = ofValue w := by
  induction h with
  | rel v w edit => exact ofValue_eq_of_edited (ReflGen.single edit)
  | refl v => rfl
  | symm v w _ ih => exact ih.symm
  | trans u v w _ _ ihv ihw => exact ihv.trans ihw

def rampEntry (others : List (Value × Value)) : Value :=
  .map ([(.text "name", .text "Ramp"), (.text "address", .integer 0)] ++ others)

def plainRamp : Value := rampEntry [(.text "length", .integer 4)]

def nullRamp : Value := rampEntry [(.text "brief", .null), (.text "length", .integer 4)]

def rampParameters (entry : Value) : Value × Value := (.text "parameters", .list ([] ++ [entry]))

def rampDocument (entry : Value) : Value :=
  .map ([rampParameters entry] ++
    (.text "revision", .integer 9) :: [(.text "brief", .text "ramps")])

/-- The document with its known keys in another order and without the one that is not known, and
with a tag and a null in its entry. -/
def rampDocumentEdited : Value :=
  .map [(.text "brief", .text "ramps"), rampParameters (.tagged "old" nullRamp)]

theorem ofValue_ramp_edited :
    EqvGen (Edit .root) (rampDocument plainRamp) rampDocumentEdited ∧
      ∃ m, ofValue (rampDocument plainRamp) = .ok m ∧ ofValue rampDocumentEdited = .ok m := by
  have hentry : ∀ {x y}, Edit .entry x y →
      EqvGen (Edit .root) (rampDocument x) (rampDocument y) := fun {x y} edit =>
    .rel _ _ (show Edit .root (.map ([] ++ rampParameters x :: _))
      (.map ([] ++ rampParameters y :: _)) from .member (.element edit))
  have hnull : EqvGen (Edit .root) (rampDocument plainRamp) (rampDocument nullRamp) :=
    hentry (.null (by decide) (by decide))
  have htag : EqvGen (Edit .root) (rampDocument nullRamp) (rampDocument (.tagged "old" nullRamp)) :=
    hentry (.tag _ (.inr (.inr rfl)))
  have hunknown : EqvGen (Edit .root)
      (.map ([rampParameters (.tagged "old" nullRamp)] ++ [(.text "brief", .text "ramps")]))
      (rampDocument (.tagged "old" nullRamp)) := .rel _ _ (.unknown _ (by decide))
  have hreorder : EqvGen (Edit .root)
      (.map ([rampParameters (.tagged "old" nullRamp)] ++ [(.text "brief", .text "ramps")]))
      rampDocumentEdited := .rel _ _ (.reorder (by decide) (.swap _ _ _))
  have hedits := ((hnull.trans _ _ _ htag).trans _ _ _ (hunknown.symm _ _)).trans _ _ _ hreorder
  have hread : ofValue (rampDocument plainRamp) =
      .ok (.ofEntries "ramps" [⟨"Ramp", 0, 4, [], [], []⟩]) := rfl
  exact ⟨hedits, _, hread, (ofValue_eq_of_edits hedits).symm.trans hread⟩

end AddressMap
end
end MapLoom
