import MapLoom.Proofs.Decimal.Whole
import MapLoom.Template.Render

set_option autoImplicit false

/-!
# What the parts of a template write

Parts write one text after the other, and nothing when one of them fails. A branch writes what the
side that its test selects writes, and a repeated part what its body writes for each element. All of
this is about parts that write the same whatever the functions give.
-/
namespace MapLoom.Template

theorem toOption_bind {ε α β : Type} (x : Except ε α) (f : α → Except ε β) :
    (x >>= f).toOption = x.toOption.bind fun a => (f a).toOption := by
  cases x <;> rfl

@[simp] theorem Value.print_text (t : Text) : (Value.text t).print = t := rfl

@[simp] theorem Value.print_natCast (n : Nat) : (Value.integer n).print = Text.ofNat n := rfl

/-- One text after another, if both are there. -/
def glue (s t : Option Text) : Option Text := s.bind fun s => t.map (s ++ ·)

@[simp] theorem glue_some (s t : Text) : glue (some s) (some t) = some (s ++ t) := rfl

@[simp] theorem glue_nil (s : Option Text) : glue s (some []) = s := by
  cases s with
  | none => rfl
  | some s => exact congrArg some (List.append_nil s)

theorem glue_assoc (s t u : Option Text) : glue (glue s t) u = glue s (glue t u) := by
  cases s with
  | none => rfl
  | some s =>
    cases t with
    | none => rfl
    | some t =>
      cases u with
      | none => rfl
      | some u => exact congrArg some (List.append_assoc s t u)

/-- Whether parts write a text, or fail where there is none, without an effect on the scope of what
follows. -/
def Writes (scope : Scope) (nodes : List Node) (t : Option Text) : Prop :=
  ∀ functions, (renderAll functions scope nodes).toOption = t.map (·, scope)

def Node.Writes (scope : Scope) (node : Node) (t : Option Text) : Prop :=
  ∀ functions, (node.render functions scope).toOption = t.map (·, scope)

variable {scope : Scope} {node : Node} {nodes : List Node} {s t : Option Text}

theorem Writes.of_eq (h : Writes scope nodes s) (he : s = t) : Writes scope nodes t := he ▸ h

theorem Node.Writes.of_eq (h : node.Writes scope s) (he : s = t) : node.Writes scope t := he ▸ h

theorem Writes.nil : Writes scope [] (some []) := fun _ => rfl

theorem Writes.cons (h : node.Writes scope s) (hrest : Writes scope nodes t) :
    Writes scope (node :: nodes) (glue s t) := by
  intro functions
  rw [renderAll, toOption_bind, h]
  cases s with
  | none => rfl
  | some s =>
    rw [Option.map_some, Option.bind_some, toOption_bind, hrest]
    cases t <;> rfl

theorem Writes.render (h : Writes scope nodes t) (functions : Functions) :
    (render scope nodes functions).toOption = t := by
  have hmap : (Template.render scope nodes functions).toOption =
      (renderAll functions scope nodes).toOption.map (·.1) := by
    unfold Template.render
    cases renderAll functions scope nodes <;> rfl
  rw [hmap, h, Option.map_map]
  exact Option.map_id'

namespace Node

theorem writes_text (t : Text) : (Node.text t).Writes scope (some t) := fun _ => rfl

theorem writes_print {test : Test} {v : Option Value}
    (h : ∀ functions, (test.eval functions scope).toOption = v) :
    (Node.print test).Writes scope (v.map Value.print) := by
  intro functions
  rw [← h functions, Node.render, toOption_bind]
  cases test.eval functions scope <;> rfl

theorem writes_path {keys : List Text} {v : Value} (h : scope.find? keys = some v) :
    (Node.print (.value (.path keys))).Writes scope (some v.print) := by
  refine writes_print (v := some v) fun functions => ?_
  rw [Test.eval, Expr.eval, h]
  rfl

theorem writes_filtered {keys : List Text} {v : Value} (filter : Text)
    (h : scope.find? keys = some v) :
    (Node.print (.value (.filtered (.path keys) filter))).Writes scope
      ((applyFilter filter v).toOption.map Value.print) := by
  refine writes_print fun functions => ?_
  rw [Test.eval, Expr.eval, Expr.eval, h]
  rfl

theorem writes_branch {test : Test} {yes no : List Node} {b : Bool}
    (htest : ∀ functions, test.holds functions scope = .ok b)
    (h : Template.Writes scope (if b then yes else no) t) :
    (Node.branch test yes no).Writes scope t := by
  intro functions
  rw [Node.render, htest, ← h (functions.under 1)]
  cases b <;> rfl

end Node

section Each
variable {α : Type} {f : α → Value} {g : α → Option Text} {name : Text} {body : List Node}

/-- What the turns of a repeated part write, when a turn writes the same however far it has come. -/
theorem renderEach_toOption
    (h : ∀ a n left, Writes ((name, f a) :: ("loop", progress n left) :: scope) body (g a))
    (functions : Functions) (as : List α) (n : Nat) :
    (renderEach (fun m inner => renderAll (functions.under (m + 1)) inner body) name scope n
      (as.map f)).toOption = (as.mapM g).map List.flatten := by
  induction as generalizing n with
  | nil => rfl
  | cons a as ih =>
    rw [List.map_cons, renderEach, toOption_bind, h, List.mapM_cons]
    cases g a with
    | none => rfl
    | some t =>
      rw [Option.map_some, Option.bind_some, toOption_bind, ih]
      cases as.mapM g <;> rfl

theorem Node.writes_each {items : Expr} {as : List α}
    (hitems : ∀ functions, items.eval functions scope = .ok (.list (as.map f)))
    (h : ∀ a n left,
      Template.Writes ((name, f a) :: ("loop", progress n left) :: scope) body (g a)) :
    (Node.each name items body).Writes scope ((as.mapM g).map List.flatten) := by
  intro functions
  rw [Node.render, hitems]
  change (renderEach _ name scope 0 (as.map f) >>= fun t => pure (t, scope)).toOption = _
  rw [toOption_bind, renderEach_toOption h]
  cases as.mapM g <;> rfl

end Each

end MapLoom.Template
