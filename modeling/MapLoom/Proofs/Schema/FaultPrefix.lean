import MapLoom.Proofs.Schema.Faults

set_option autoImplicit false

/-!
# What stands after a fault

The first check that fails is one of the element at fault or of what stands before it. So documents
that differ in nothing but later entries, or later fields and entries, are rejected alike.
-/
namespace MapLoom
open Yaml (Value)
open Yaml.Value (IsText IsList)

/-- Whether two lists have the same elements up to one that is at fault. -/
def AlikeToFault {α : Type} (Element : Value → α → Prop) (xs ys : List Value) : Prop :=
  ∃ before after after', xs = before ++ after ∧ ys = before ++ after' ∧
    ∃ x ∈ before, ∀ a, ¬ Element x a

/-- Whether two documents differ in nothing but what stands after the element at fault: in entries
after an entry, or in fields after a field and entries after the entry that has it. -/
inductive SameToFault (v w : Value) : Prop
  | entry {items others : List Value} (brief : v.member? "brief" = w.member? "brief")
      (parameters : v.Has "parameters" IsList items)
      (parameters' : w.Has "parameters" IsList others)
      (alike : AlikeToFault IsEntry items others) : SameToFault v w
  | field {before after after' items others : List Value} {x y : Value}
      (brief : v.member? "brief" = w.member? "brief")
      (parameters : v.Has "parameters" IsList (before ++ x :: after))
      (parameters' : w.Has "parameters" IsList (before ++ y :: after'))
      (keys : ∀ key : Text, key ≠ "fields" → x.member? key = y.member? key)
      (fields : x.Has "fields" IsList items) (fields' : y.Has "fields" IsList others)
      (alike : AlikeToFault IsField items others) : SameToFault v w

section
variable {α : Type} {checks : Text → Value → List Check} {Element : Value → α → Prop}
  {read : NodePath → Value → Except SchemaError α} {path : NodePath} {list : Text}

theorem elementChecks_append (i : Nat) (xs ys : List Value) :
    elementChecks checks list i (xs ++ ys) =
      elementChecks checks list i xs ++ elementChecks checks list (i + xs.length) ys := by
  simp only [elementChecks, List.zipIdx_append, List.flatMap_append]

theorem Judges.exists_firstFault {cs : List Check} {x : Except SchemaError α} (h : Judges cs x)
    (hx : ∀ a, x ≠ .ok a) : ∃ e, FirstFault cs e := by
  cases x with
  | error e => exact ⟨e, (h e).1 rfl⟩
  | ok a => exact absurd rfl (hx a)

theorem AlikeToFault.firstFault (list : Text)
    (hjudges : ∀ place v, Judges (checks place v) (read (path.child place) v))
    (hread : ∀ path v a, read path v = .ok a ↔ Element v a) {xs ys : List Value} (i : Nat)
    (h : AlikeToFault Element xs ys) :
    (∃ e, FirstFault (elementChecks checks list i xs) e) ∧
      ∀ e, FirstFault (elementChecks checks list i xs) e ↔
        FirstFault (elementChecks checks list i ys) e := by
  obtain ⟨before, after, after', rfl, rfl, x, hx, hfault⟩ := h
  obtain ⟨e', he'⟩ : ∃ e, FirstFault (elementChecks checks list i before) e := by
    refine (judges_readElements hjudges i before).exists_firstFault fun as has => ?_
    have hread := ((readElements_eq_ok_iff hread).1 has).imp fun v a ha =>
      show (∃ a, Element v a) ∧ Element v a from ⟨⟨a, ha⟩, ha⟩
    obtain ⟨a, ha⟩ := ((List.forall₂_and_left _ _).1 hread).1 x hx
    exact hfault a ha
  simp only [elementChecks_append, firstFault_append_of_fault he', implies_true, and_true]
  exact ⟨e', he'⟩

end

section
variable {v w : Value} {key : Text} {path : NodePath} {expected : Expected}

theorem Check.Passes.eq {c d : Check} (hc : c.Passes) (hd : d.Passes) : c = d :=
  funext fun e => propext (iff_of_false (hc e) (hd e))

theorem Check.mapping_passes {α : Type} {Kind : Value → α → Prop} {a : α} (h : v.Has key Kind a) :
    (Check.mapping path v).Passes := by
  rintro e ⟨hnone, -⟩
  obtain ⟨entries, hentries⟩ := h.asMap?
  simp [hentries] at hnone

theorem Check.optional_passes {α : Type} {Kind : Value → α → Prop} {a : α} (h : v.Has key Kind a) :
    (Check.optional path v key expected Kind).Passes := by
  rintro e ⟨w, hw, hnot, -⟩
  obtain ⟨w', hw', ha⟩ := h
  obtain rfl := Option.some.inj (hw.symm.trans hw')
  exact hnot a ha

theorem Check.required_passes {α : Type} {Kind : Value → α → Prop} {a : α} (h : v.Has key Kind a) :
    (Check.required path v key expected Kind).Passes := by
  rintro e (⟨habsent, -⟩ | hfault)
  · obtain ⟨w, hw, -⟩ := h
    simp [hw] at habsent
  · exact Check.optional_passes h e hfault

theorem Check.optional_congr {α : Type} {Kind : Value → α → Prop}
    (h : v.member? key = w.member? key) :
    Check.optional path v key expected Kind = Check.optional path w key expected Kind := by
  unfold Check.optional
  rw [h]

theorem Check.required_congr {α : Type} {Kind : Value → α → Prop}
    (h : v.member? key = w.member? key) :
    Check.required path v key expected Kind = Check.required path w key expected Kind := by
  unfold Check.required
  rw [h, Check.optional_congr h]

variable {items others : List Value}

theorem rootChecks_eq (hbrief : v.member? "brief" = w.member? "brief")
    (hv : v.Has "parameters" IsList items) (hw : w.Has "parameters" IsList others) :
    rootChecks v = rootChecks w := by
  have hmapping : Check.mapping .root v = Check.mapping .root w :=
    (Check.mapping_passes hv).eq (Check.mapping_passes hw)
  have hparameters : Check.required .root v "parameters" .list IsList =
      Check.required .root w "parameters" .list IsList :=
    (Check.required_passes hv).eq (Check.required_passes hw)
  unfold rootChecks
  rw [hmapping, hparameters, Check.required_congr hbrief]

theorem nodeSteps_eq {parent : List Text} {place : Text} (h : v.member? "name" = w.member? "name") :
    nodeSteps parent place v = nodeSteps parent place w := by
  unfold nodeSteps
  rw [h]

theorem entryKeyChecks_eq (place : Text)
    (hkeys : ∀ key : Text, key ≠ "fields" → v.member? key = w.member? key)
    (hv : v.Has "fields" IsList items) (hw : w.Has "fields" IsList others) :
    entryKeyChecks place v = entryKeyChecks place w := by
  have hmapping : ∀ path, Check.mapping path v = Check.mapping path w := fun path =>
    (Check.mapping_passes hv).eq (Check.mapping_passes hw)
  have hfields : ∀ path, Check.optional path v "fields" .list IsList =
      Check.optional path w "fields" .list IsList := fun path =>
    (Check.optional_passes hv).eq (Check.optional_passes hw)
  have hname := hkeys "name" (by decide)
  unfold entryKeyChecks
  rw [nodeSteps_eq hname]
  simp only [hmapping, hfields, Check.required_congr hname,
    Check.required_congr (hkeys "address" (by decide)),
    Check.required_congr (hkeys "length" (by decide)),
    Check.optional_congr (hkeys "brief" (by decide)),
    Check.optional_congr (hkeys "description" (by decide))]

end

theorem entryChecks_alike {x y : Value} {items others : List Value} (place : Text)
    (hkeys : ∀ key : Text, key ≠ "fields" → x.member? key = y.member? key)
    (hx : x.Has "fields" IsList items) (hy : y.Has "fields" IsList others)
    (halike : AlikeToFault IsField items others) :
    (∃ e, FirstFault (entryChecks place x) e) ∧
      ∀ e, FirstFault (entryChecks place x) e ↔ FirstFault (entryChecks place y) e := by
  unfold entryChecks
  rw [entryKeyChecks_eq place hkeys hx hy, nodeSteps_eq (hkeys "name" (by decide)),
    itemsUnder_eq_of_mayHave (.inr hx), itemsUnder_eq_of_mayHave (.inr hy)]
  obtain ⟨hfault, hsame⟩ := halike.firstFault "fields"
    (judges_readField (nodeSteps [] place y)) (fun _ w _ => readField_eq_ok_iff (v := w)) 0
  exact ⟨exists_firstFault_append hfault, firstFault_append_congr hsame⟩

theorem SameToFault.firstFault {v w : Value} (h : SameToFault v w) (e : SchemaError) :
    FirstFault (documentChecks v) e ↔ FirstFault (documentChecks w) e := by
  unfold documentChecks
  cases h with
  | entry hbrief hv hw halike =>
    rw [rootChecks_eq hbrief hv hw, itemsUnder_eq_of_mayHave (.inr hv),
      itemsUnder_eq_of_mayHave (.inr hw)]
    refine firstFault_append_congr (halike.firstFault _ judges_readEntry ?_ 0).2 e
    exact fun _ w _ => readEntry_eq_ok_iff (v := w)
  | field hbrief hv hw hkeys hx hy halike =>
    rw [rootChecks_eq hbrief hv hw, itemsUnder_eq_of_mayHave (.inr hv),
      itemsUnder_eq_of_mayHave (.inr hw), elementChecks_append, elementChecks_append]
    refine firstFault_append_congr (firstFault_append_congr fun e => ?_) e
    -- the two entries stand at the same place, and both are at fault: nothing after them counts
    change FirstFault (entryChecks _ _ ++ _) e ↔ FirstFault (entryChecks _ _ ++ _) e
    obtain ⟨⟨e', he'⟩, hsame⟩ := entryChecks_alike _ hkeys hx hy halike
    rw [firstFault_append_of_fault he', firstFault_append_of_fault ((hsame e').1 he'), hsame e]

theorem NodePath.text_concat (steps : List Text) (step : Text) :
    NodePath.text ⟨steps ++ [step]⟩ = NodePath.text ⟨steps⟩ ++ "." ++ step := by
  have hjoin : ∀ first : Text, Text.join "." (first :: (steps ++ [step])) =
      Text.join "." (first :: steps) ++ "." ++ step := by
    induction steps with
    | nil => intro first; simp [Text.join, List.intercalate_cons_cons]
    | cons second steps ih =>
      intro first
      rw [Text.join, List.cons_append, List.intercalate_cons_cons, ← Text.join, ih]
      simp [Text.join, List.intercalate_cons_cons]
  exact hjoin "MapTop"

/-- A document that is rejected is rejected for the first of its checks that fails, whatever stands
after the element at fault. -/
theorem ofValue_reports_first_fault (v : Value) :
    (∀ e, AddressMap.ofValue v = .error e ↔ FirstFault (documentChecks v) e) ∧
    (∀ w, SameToFault v w →
      ∀ e, AddressMap.ofValue v = .error e ↔ AddressMap.ofValue w = .error e) ∧
    NodePath.root.text = "MapTop" ∧
    ∀ steps step, NodePath.text ⟨steps ++ [step]⟩ = NodePath.text ⟨steps⟩ ++ "." ++ step := by
  refine ⟨judges_ofValue v, fun w h e => ?_, rfl, NodePath.text_concat⟩
  rw [judges_ofValue v e, judges_ofValue w e, h.firstFault e]

def laneField (name : Text) (pos : Int) : Value :=
  .map [(.text "name", .text name), (.text "pos", .integer pos), (.text "bits", .integer 8)]

def laneEntry (fields : List Value) : Value :=
  .map ([(.text "name", .text "Lanes"), (.text "address", .integer 0),
    (.text "length", .integer 4)] ++ (.text "fields", .list fields) :: [])

def laneDocument (fields entries : List Value) : Value :=
  .map [(.text "brief", .text "lanes"),
    (.text "parameters", .list (laneEntry fields :: entries))]

theorem ofValue_reports_negative_lane :
    ∃ v w, v = laneDocument [laneField "Even" 0, laneField "Odd" (-1)] [] ∧
      w = laneDocument [laneField "Even" 0, laneField "Odd" (-1), .null] [.null] ∧
      SameToFault v w ∧
      AddressMap.ofValue v = .error (.wrongType ⟨["Lanes", "Odd"]⟩ "pos" .nonNegative) ∧
      AddressMap.ofValue w = .error (.wrongType ⟨["Lanes", "Odd"]⟩ "pos" .nonNegative) := by
  have hodd : ∀ f, ¬ IsField (laneField "Odd" (-1)) f := by
    intro f hf
    have hread : readField .root (laneField "Odd" (-1)) = .ok f := readField_eq_ok_iff.2 hf
    cases hread
  have hkeys : ∀ (fields others : List Value) (key : Text), key ≠ "fields" →
      (laneEntry fields).member? key = (laneEntry others).member? key := by
    intro fields others key hkey
    rw [laneEntry, Value.member?_map, laneEntry, Value.member?_map, if_neg hkey.symm,
      if_neg hkey.symm]
  have hparameters : ∀ fields entries, (laneDocument fields entries).Has "parameters" IsList
      ([] ++ laneEntry fields :: entries) := fun _ _ => ⟨_, rfl, rfl⟩
  have hsame : SameToFault (laneDocument [laneField "Even" 0, laneField "Odd" (-1)] [])
      (laneDocument [laneField "Even" 0, laneField "Odd" (-1), .null] [.null]) := by
    refine .field rfl (hparameters _ _) (hparameters _ _) (hkeys _ _) ⟨_, rfl, rfl⟩ ⟨_, rfl, rfl⟩
      ⟨[laneField "Even" 0, laneField "Odd" (-1)], [], [.null], rfl, rfl, _, ?_, hodd⟩
    simp
  have hfault : AddressMap.ofValue (laneDocument [laneField "Even" 0, laneField "Odd" (-1)] []) =
      .error (.wrongType ⟨["Lanes", "Odd"]⟩ "pos" .nonNegative) := rfl
  exact ⟨_, _, rfl, rfl, hsame, hfault, ((ofValue_reports_first_fault _).2.1 _ hsame _).1 hfault⟩

end MapLoom
