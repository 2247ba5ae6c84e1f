import MapLoom.Proofs.Schema.Grammar

set_option autoImplicit false

/-!
# The first fault of a document

A document is checked by a list of checks in one fixed order, each of which looks at one key of one
node and can be told without the others. The reader of schemas reports the first check that fails.
-/
namespace MapLoom
open Yaml (Value)
open Yaml.Value (IsText IsInteger IsFloat IsNatural32 IsNatural64 IsPositive64 IsList)

/-- The errors that a check reports; it passes when there are none. -/
abbrev Check := SchemaError → Prop

namespace Check

def Passes (c : Check) : Prop := ∀ e, ¬ c e

def mapping (path : NodePath) (v : Value) : Check := fun e =>
  v.asMap? = none ∧ e = .wrongType path "node" .mapping

/-- What a mapping holds under a key must be of a kind, if there is anything. -/
def optional {α : Type} (path : NodePath) (v : Value) (key : Text) (expected : Expected)
    (Kind : Value → α → Prop) : Check := fun e =>
  ∃ w, v.member? key = some w ∧ (∀ a, ¬ Kind w a) ∧ e = .wrongType path key expected

/-- A mapping must hold something under a key, and that must be of a kind. -/
def required {α : Type} (path : NodePath) (v : Value) (key : Text) (expected : Expected)
    (Kind : Value → α → Prop) : Check := fun e =>
  (v.member? key = none ∧ e = .missingField path key) ∨ optional path v key expected Kind e

end Check

/-- The width must be there, a number in range or a text, and a text must be one of the words. -/
inductive WidthFault (path : NodePath) (v : Value) : Check
  | missing (absent : v.member? "bits" = none) : WidthFault path v (.missingField path "bits")
  | range {w : Value} {n : Int} (held : v.member? "bits" = some w) (number : IsInteger w n)
      (outside : n < 0 ∨ (twoTo 32 : Int) ≤ n) :
      WidthFault path v (.wrongType path "bits" .nonNegative)
  | kind {w : Value} (held : v.member? "bits" = some w) (number : ∀ n, ¬ IsInteger w n)
      (text : ∀ t, ¬ IsText w t) : WidthFault path v (.wrongType path "bits" .integerOrAlias)
  | word {w : Value} {t : Text} (held : v.member? "bits" = some w) (number : ∀ n, ¬ IsInteger w n)
      (text : IsText w t) (unknown : ∀ width, ¬ IsAlias t width) :
      WidthFault path v (.unresolvedBits path t)

/-- Whether a mapping fixes a type, by what it holds as width and by what it declares. -/
def HasType (v : Value) (type : Text) : Prop :=
  ∃ declared bits, v.MayHave "resolve_as" IsText [] declared ∧
    v.Has "bits" (IsWidth declared) (bits, type)

/-- The initial value must suit the type. -/
inductive InitValueFault (path : NodePath) (v : Value) : Check
  | float {type : Text} {e : SchemaError} (known : HasType v type) (float : FloatType type)
      (fault : Check.optional path v "init_value" .float IsFloat e) : InitValueFault path v e
  | integer {type : Text} {e : SchemaError} (known : HasType v type) (integer : ¬ FloatType type)
      (fault : Check.optional path v "init_value" .integer IsInteger e) : InitValueFault path v e

def elementPlace (list : Text) (i : Nat) : Text := list ++ "[" ++ Text.ofNat i ++ "]"

/-- The steps to a node: the last one is its name, or its place as long as no name can be read. -/
def nodeSteps (parent : List Text) (place : Text) (v : Value) : List Text :=
  parent ++ [((v.member? "name").bind Value.asText?).getD place]

def itemsUnder (v : Value) (key : Text) : List Value := ((v.member? key).bind Value.asList?).getD []

def fieldChecks (parent : List Text) (place : Text) (v : Value) : List Check :=
  let path : NodePath := ⟨nodeSteps parent place v⟩
  [.mapping ⟨parent ++ [place]⟩ v,
    .required ⟨parent ++ [place]⟩ v "name" .string IsText,
    .required path v "pos" .nonNegative IsNatural32,
    .optional path v "num_entries" .nonNegative IsNatural32,
    .optional path v "resolve_as" .string IsText,
    WidthFault path v,
    InitValueFault path v,
    .optional path v "brief" .string IsText,
    .optional path v "description" .string IsText]

def entryKeyChecks (place : Text) (v : Value) : List Check :=
  let path : NodePath := ⟨nodeSteps [] place v⟩
  [.mapping ⟨[place]⟩ v,
    .required ⟨[place]⟩ v "name" .string IsText,
    .required path v "address" .nonNegative IsNatural64,
    .required path v "length" .positive IsPositive64,
    .optional path v "brief" .string IsText,
    .optional path v "description" .string IsText,
    .optional path v "fields" .list IsList]

def elementChecks (checks : Text → Value → List Check) (list : Text) (i : Nat)
    (items : List Value) : List Check :=
  (items.zipIdx i).flatMap fun (w, j) => checks (elementPlace list j) w

def entryChecks (place : Text) (v : Value) : List Check :=
  entryKeyChecks place v ++
    elementChecks (fieldChecks (nodeSteps [] place v)) "fields" 0 (itemsUnder v "fields")

def rootChecks (v : Value) : List Check :=
  [.mapping .root v,
    .required .root v "brief" .string IsText,
    .required .root v "parameters" .list IsList]

/-- The checks of a document in their order. -/
def documentChecks (v : Value) : List Check :=
  rootChecks v ++ elementChecks entryChecks "parameters" 0 (itemsUnder v "parameters")

/-- Whether an error is reported by the first of some checks that does not pass. -/
inductive FirstFault : List Check → SchemaError → Prop
  | here {c : Check} {cs : List Check} {e : SchemaError} (fault : c e) : FirstFault (c :: cs) e
  | later {c : Check} {cs : List Check} {e : SchemaError} (passes : c.Passes)
      (fault : FirstFault cs e) : FirstFault (c :: cs) e

section
variable {cs ds : List Check} {e : SchemaError}

theorem firstFault_cons_iff {c : Check} :
    FirstFault (c :: cs) e ↔ c e ∨ c.Passes ∧ FirstFault cs e := by
  constructor
  · rintro (hfault | ⟨hpasses, hfault⟩)
    · exact .inl hfault
    · exact .inr ⟨hpasses, hfault⟩
  · rintro (hfault | ⟨hpasses, hfault⟩)
    · exact .here hfault
    · exact .later hpasses hfault

theorem firstFault_append_of_fault {e' : SchemaError} (h : FirstFault cs e') :
    FirstFault (cs ++ ds) e ↔ FirstFault cs e := by
  induction h with
  | @here c cs e' fault =>
    have hnot : ¬ c.Passes := fun hpasses => hpasses e' fault
    simp only [List.cons_append, firstFault_cons_iff, hnot, false_and]
  | later passes fault ih => simp only [List.cons_append, firstFault_cons_iff, ih]

theorem firstFault_append_of_passes (h : ∀ e, ¬ FirstFault cs e) :
    FirstFault (cs ++ ds) e ↔ FirstFault ds e := by
  induction cs with
  | nil => exact Iff.rfl
  | cons c cs ih =>
    have hc : c.Passes := fun e hfault => h e (.here hfault)
    have hrest := ih fun e hfault => h e (.later hc hfault)
    simp only [List.cons_append, firstFault_cons_iff, hrest, hc e, hc, false_or, true_and]

theorem exists_firstFault_append (h : ∃ e, FirstFault ds e) : ∃ e, FirstFault (cs ++ ds) e := by
  by_cases hcs : ∃ e, FirstFault cs e
  · obtain ⟨e, he⟩ := hcs
    exact ⟨e, (firstFault_append_of_fault he).2 he⟩
  · obtain ⟨e, he⟩ := h
    exact ⟨e, (firstFault_append_of_passes (not_exists.1 hcs)).2 he⟩

theorem firstFault_append_congr {ds' : List Check} (h : ∀ e, FirstFault ds e ↔ FirstFault ds' e)
    (e : SchemaError) : FirstFault (cs ++ ds) e ↔ FirstFault (cs ++ ds') e := by
  induction cs with
  | nil => exact h e
  | cons c cs ih => simp only [List.cons_append, firstFault_cons_iff, ih]

/-- Whether a reader fails with the first fault that some checks report. -/
def Judges {α : Type} (cs : List Check) (x : Except SchemaError α) : Prop :=
  ∀ e, x = .error e ↔ FirstFault cs e

theorem judges_ok {α : Type} (a : α) : Judges [] (Except.ok a) := by
  intro e
  refine iff_of_false (by simp) ?_
  rintro ⟨⟩

theorem judges_bind {α β : Type} {x : Except SchemaError α} {f : α → Except SchemaError β}
    (h : Judges cs x) (hf : ∀ a, x = .ok a → Judges ds (f a)) : Judges (cs ++ ds) (x >>= f) := by
  intro e
  cases x with
  | error e' =>
    rw [firstFault_append_of_fault ((h e').1 rfl), ← h e]
    change (Except.error e' : Except SchemaError β) = .error e ↔ _
    simp only [Except.error.injEq]
  | ok a =>
    have hpasses : ∀ e, ¬ FirstFault cs e := fun e hfault => by cases (h e).2 hfault
    rw [firstFault_append_of_passes hpasses, ← hf a rfl e]
    rfl

theorem judges_step {α β : Type} {c : Check} {x : Except SchemaError α}
    {f : α → Except SchemaError β} (h : ∀ e, x = .error e ↔ c e)
    (hf : ∀ a, x = .ok a → Judges ds (f a)) : Judges (c :: ds) (x >>= f) := by
  change Judges ([c] ++ ds) (x >>= f)
  refine judges_bind (fun e => ?_) hf
  rw [h e, firstFault_cons_iff]
  refine ⟨.inl, ?_⟩
  rintro (hfault | ⟨-, ⟨⟩⟩)
  exact hfault

theorem judges_map {α β : Type} {x : Except SchemaError α} {f : α → β} (h : Judges cs x) :
    Judges cs (x >>= fun a => .ok (f a)) := by
  rw [← List.append_nil cs]
  exact judges_bind h fun a _ => judges_ok (f a)

end

theorem map_eq_error_iff {ε α β : Type} {x : Except ε α} {f : α → β} {e : ε} :
    (x >>= fun a => .ok (f a)) = .error e ↔ x = .error e := by
  cases x with
  | error e' => exact ⟨fun h => by cases h; rfl, fun h => by cases h; rfl⟩
  | ok a => exact iff_of_false nofun nofun

theorem eq_none_iff_of {α : Type} {x : Option α} {P : α → Prop} (h : ∀ a, x = some a ↔ P a) :
    x = none ↔ ∀ a, ¬ P a := by
  simp only [Option.eq_none_iff_forall_ne_some, ne_eq, h]

namespace SchemaNode
variable {α : Type} {n : SchemaNode} {v : Value} {key : Text} {expected : Expected}
  {coerce : Value → Option α} {Kind : Value → α → Prop} {default : α} {e : SchemaError}

theorem ofValue_eq_error_iff {path : NodePath} :
    SchemaNode.ofValue v path = .error e ↔ Check.mapping path v e := by
  unfold SchemaNode.ofValue Check.mapping
  cases v.asMap? with
  | some entries => simp
  | none => simp [eq_comm]

theorem coerced_eq_error_iff {w : Value} (hcoerce : ∀ w a, coerce w = some a ↔ Kind w a) :
    n.coerced key expected coerce w = .error e ↔
      (∀ a, ¬ Kind w a) ∧ e = .wrongType n.path key expected := by
  unfold coerced
  simp only [← hcoerce]
  cases coerce w with
  | some a => simp
  | none => simp [eq_comm]

theorem Of.optional_eq_error_iff (h : n.Of v) (hcoerce : ∀ w a, coerce w = some a ↔ Kind w a) :
    n.optional key expected coerce default = .error e ↔
      Check.optional n.path v key expected Kind e := by
  unfold optional Check.optional
  rw [h.value?_eq]
  cases v.member? key with
  | none => simp
  | some w => simp [coerced_eq_error_iff hcoerce]

theorem Of.required_eq_error_iff (h : n.Of v) (hcoerce : ∀ w a, coerce w = some a ↔ Kind w a) :
    n.required key expected coerce = .error e ↔
      Check.required n.path v key expected Kind e := by
  unfold required Check.required Check.optional
  rw [h.value?_eq]
  cases v.member? key with
  | none => simp [eq_comm]
  | some w => simp [coerced_eq_error_iff hcoerce]

theorem Of.named_eq_error_iff (h : n.Of v) :
    n.named = .error e ↔ Check.required n.path v "name" .string IsText e := by
  rw [← h.required_eq_error_iff Value.asText?_eq_some_iff]
  exact map_eq_error_iff

end SchemaNode

section
variable {n : SchemaNode} {v : Value} {e : SchemaError}

theorem natural32?_eq_none_iff {z : Int} :
    Value.natural32? z = none ↔ z < 0 ∨ (twoTo 32 : Int) ≤ z := by
  have hfits : fitsUnsigned 32 z = true ↔ ¬ (z < 0 ∨ (twoTo 32 : Int) ≤ z) := by
    simp only [fitsUnsigned, decide_eq_true_eq]
    omega
  unfold Value.natural32?
  split
  · rename_i hz
    exact iff_of_false nofun (hfits.1 hz)
  · rename_i hz
    exact iff_of_true rfl (not_not.1 (mt hfits.2 hz))

theorem readWidth_eq_error_iff {declared : Text} (h : n.Of v) :
    readWidth n declared = .error e ↔ WidthFault n.path v e := by
  have hinteger : ∀ w : Value, w.asInteger? = none ↔ ∀ z, ¬ IsInteger w z := fun w =>
    eq_none_iff_of (Value.asInteger?_eq_some_iff w)
  have htext : ∀ w : Value, w.asText? = none ↔ ∀ t, ¬ IsText w t := fun w =>
    eq_none_iff_of (Value.asText?_eq_some_iff w)
  have halias : ∀ t : Text, bitsAlias? t = none ↔ ∀ width, ¬ IsAlias t width := fun _ =>
    eq_none_iff_of fun _ => bitsAlias?_eq_some_iff
  unfold readWidth
  rw [h.value?_eq]
  constructor
  · intro hfail
    split at hfail
    · rename_i habsent
      cases hfail
      exact .missing habsent
    · rename_i w hheld
      split at hfail
      · rename_i z hz
        split at hfail
        · cases hfail
        · rename_i houtside
          cases hfail
          exact .range hheld ((Value.asInteger?_eq_some_iff _ _).1 hz)
            (natural32?_eq_none_iff.1 houtside)
      · rename_i hnumber
        split at hfail
        · rename_i hnone
          cases hfail
          exact .kind hheld ((hinteger _).1 hnumber) ((htext _).1 hnone)
        · rename_i t ht
          split at hfail
          · cases hfail
          · rename_i hunknown
            cases hfail
            exact .word hheld ((hinteger _).1 hnumber) ((Value.asText?_eq_some_iff _ _).1 ht)
              ((halias _).1 hunknown)
  · rintro (habsent | ⟨hheld, hnumber, houtside⟩ | ⟨hheld, hnumber, hnone⟩ |
      ⟨hheld, hnumber, ht, hunknown⟩)
    · simp only [habsent]
    · simp only [hheld, (Value.asInteger?_eq_some_iff _ _).2 hnumber,
        natural32?_eq_none_iff.2 houtside]
    · simp only [hheld, (hinteger _).2 hnumber, (htext _).2 hnone]
    · simp only [hheld, (hinteger _).2 hnumber, (Value.asText?_eq_some_iff _ _).2 ht,
        (halias _).2 hunknown]

theorem HasType.unique {type type' : Text} (h : n.Of v) (htype : HasType v type)
    (htype' : HasType v type') : type = type' := by
  obtain ⟨declared, bits, hdeclared, hwidth⟩ := htype
  obtain ⟨declared', bits', hdeclared', hwidth'⟩ := htype'
  obtain rfl := hdeclared.unique hdeclared' Value.IsText.unique
  cases ((readWidth_eq_ok_iff h).2 hwidth).symm.trans ((readWidth_eq_ok_iff h).2 hwidth')
  rfl

theorem readInitValue_eq_error_iff {type : Text} (h : n.Of v) (htype : HasType v type) :
    readInitValue n type = .error e ↔ InitValueFault n.path v e := by
  unfold readInitValue
  split
  · rename_i hfloat
    refine (map_eq_error_iff.trans (h.optional_eq_error_iff Value.asFloat?_eq_some_iff)).trans
      ⟨.float htype (isFloatType_iff.1 hfloat), ?_⟩
    rintro (⟨-, -, hfault⟩ | ⟨hknown, hinteger, -⟩)
    · exact hfault
    · obtain rfl := hknown.unique h htype
      exact absurd (isFloatType_iff.1 hfloat) hinteger
  · rename_i hinteger
    refine (map_eq_error_iff.trans (h.optional_eq_error_iff Value.asInteger?_eq_some_iff)).trans
      ⟨.integer htype (mt isFloatType_iff.2 hinteger), ?_⟩
    rintro (⟨hknown, hfloat, -⟩ | ⟨-, -, hfault⟩)
    · obtain rfl := hknown.unique h htype
      exact absurd (isFloatType_iff.2 hfloat) hinteger
    · exact hfault

theorem renamed_eq_nodeSteps {parent : List Text} {place name : Text}
    (h : v.Has "name" IsText name) :
    NodePath.renamed ⟨parent ++ [place]⟩ name = ⟨nodeSteps parent place v⟩ := by
  obtain ⟨w, hw, hname⟩ := h
  simp only [NodePath.renamed, nodeSteps, hw, Option.bind_some,
    (Value.asText?_eq_some_iff _ _).2 hname, List.dropLast_concat, Option.getD_some]

theorem itemsUnder_eq_of_mayHave {key : Text} {items : List Value}
    (h : v.MayHave key IsList [] items) : itemsUnder v key = items := by
  unfold itemsUnder
  obtain ⟨habsent, rfl⟩ | ⟨w, hw, hlist⟩ := h
  · rw [habsent]
    rfl
  · rw [hw, Option.bind_some, (Value.asList?_eq_some_iff _ _).2 hlist]
    rfl

theorem judges_named {α : Type} {ds : List Check} (parent : List Text) {place : Text}
    {f : Text × SchemaNode → Except SchemaError α}
    (hf : ∀ (name : Text) (m : SchemaNode), m.Of v → m.path = ⟨nodeSteps parent place v⟩ →
      Judges ds (f (name, m))) :
    Judges (.mapping ⟨parent ++ [place]⟩ v ::
        .required ⟨parent ++ [place]⟩ v "name" .string IsText :: ds)
      (SchemaNode.ofValue v ⟨parent ++ [place]⟩ >>= fun n => n.named >>= f) := by
  refine judges_step (fun _ => SchemaNode.ofValue_eq_error_iff) fun n hn => ?_
  obtain ⟨hn, hpath⟩ := SchemaNode.ofValue_eq_ok_iff.1 hn
  refine judges_step (fun _ => hpath ▸ hn.named_eq_error_iff) ?_
  rintro ⟨name, m⟩ hm
  obtain ⟨hname, rfl⟩ := hn.named_eq_ok_iff.1 hm
  refine hf name _ hn ?_
  rw [← renamed_eq_nodeSteps hname, ← hpath]

theorem judges_readField (parent : List Text) (place : Text) (v : Value) :
    Judges (fieldChecks parent place v) (readField ⟨parent ++ [place]⟩ v) := by
  refine judges_named parent fun name n hn hpath => ?_
  dsimp only
  rw [← hpath]
  refine judges_step (fun _ => hn.required_eq_error_iff Value.asNatural32?_eq_some_iff)
    fun _ _ => ?_
  refine judges_step (fun _ => hn.optional_eq_error_iff Value.asNatural32?_eq_some_iff)
    fun _ _ => ?_
  refine judges_step (fun _ => hn.optional_eq_error_iff Value.asText?_eq_some_iff)
    fun declared hdeclared => ?_
  refine judges_step (fun _ => readWidth_eq_error_iff hn) ?_
  rintro ⟨bits, type⟩ hwidth
  -- the type that was read is the one that the keys fix, and the next check knows it by these
  have htype : HasType v type :=
    ⟨declared, bits, hn.text_eq_ok_iff.1 hdeclared, (readWidth_eq_ok_iff hn).1 hwidth⟩
  refine judges_step (fun _ => readInitValue_eq_error_iff hn htype) fun _ _ => ?_
  refine judges_step (fun _ => hn.optional_eq_error_iff Value.asText?_eq_some_iff) fun _ _ => ?_
  refine judges_step (fun _ => hn.optional_eq_error_iff Value.asText?_eq_some_iff) fun _ _ => ?_
  exact judges_ok _

theorem judges_readElements {α : Type} {checks : Text → Value → List Check}
    {read : NodePath → Value → Except SchemaError α} {path : NodePath} {list : Text}
    (h : ∀ place v, Judges (checks place v) (read (path.child place) v)) (i : Nat)
    (items : List Value) :
    Judges (elementChecks checks list i items) (readElements read path list i items) := by
  induction items generalizing i with
  | nil => exact judges_ok _
  | cons v items ih =>
    exact judges_bind (h (elementPlace list i) v) fun a _ => judges_map (ih (i + 1))

theorem judges_readEntry (place : Text) (v : Value) :
    Judges (entryChecks place v) (readEntry (NodePath.root.child place) v) := by
  refine judges_named [] fun name n hn hpath => ?_
  dsimp only
  rw [← hpath]
  refine judges_step (fun _ => hn.required_eq_error_iff Value.asNatural64?_eq_some_iff)
    fun _ _ => ?_
  refine judges_step (fun _ => hn.required_eq_error_iff Value.asPositive64?_eq_some_iff)
    fun _ _ => ?_
  refine judges_step (fun _ => hn.optional_eq_error_iff Value.asText?_eq_some_iff) fun _ _ => ?_
  refine judges_step (fun _ => hn.optional_eq_error_iff Value.asText?_eq_some_iff) fun _ _ => ?_
  refine judges_step (fun _ => hn.optional_eq_error_iff Value.asList?_eq_some_iff)
    fun items hitems => ?_
  have hmay := (hn.optional_eq_ok_iff Value.asList?_eq_some_iff).1 hitems
  rw [hpath, itemsUnder_eq_of_mayHave hmay]
  exact judges_map (judges_readElements (fun _ _ => judges_readField _ _ _) 0 items)

theorem judges_ofValue (v : Value) : Judges (documentChecks v) (AddressMap.ofValue v) := by
  refine judges_step (fun _ => SchemaNode.ofValue_eq_error_iff) fun n hn => ?_
  obtain ⟨hn, hpath⟩ := SchemaNode.ofValue_eq_ok_iff.1 hn
  rw [← hpath]
  refine judges_step (fun _ => hn.required_eq_error_iff Value.asText?_eq_some_iff) fun _ _ => ?_
  refine judges_step (fun _ => hn.required_eq_error_iff Value.asList?_eq_some_iff)
    fun items hitems => ?_
  have hhas := (hn.required_eq_ok_iff Value.asList?_eq_some_iff).1 hitems
  rw [hpath, itemsUnder_eq_of_mayHave (.inr hhas)]
  exact judges_map (judges_readElements (fun _ _ => judges_readEntry _ _) 0 items)

end

end MapLoom
