import MapLoom.Template.Bundled
import MapLoom.Template.Render

set_option autoImplicit false

/-!
# Templates that call no function

What a template renders to depends on what the functions give that it calls. One that calls none, as
the bundled ones do not, renders to the same in the same scope at any time.
-/
namespace MapLoom.Template

def Expr.callFree : Expr → Bool
  | .call _ _ => false
  | .filtered e _ => e.callFree
  | _ => true

def Test.callFree : Test → Bool
  | .value e => e.callFree
  | .compared _ a b => a.callFree && b.callFree
  | .negated t => t.callFree
  | .both s t => s.callFree && t.callFree
  | .either s t => s.callFree && t.callFree

mutual

def Node.callFree : Node → Bool
  | .text _ => true
  | .print t => t.callFree
  | .each _ items body => items.callFree && allCallFree body
  | .branch test yes no => test.callFree && (allCallFree yes && allCallFree no)
  | .assign _ t => t.callFree

def allCallFree : List Node → Bool
  | [] => true
  | n :: ns => n.callFree && allCallFree ns

end

section Expr
variable {e : Expr} (functions other : Functions) (scope : Scope)

theorem Expr.eval_congr (h : e.callFree = true) : e.eval functions scope = e.eval other scope := by
  induction e with
  | literal v => rfl
  | path keys => rfl
  | call name arguments => cases h
  | filtered e filter ih => rw [Expr.eval, Expr.eval, ih h]

theorem Expr.source_ne_call (h : e.callFree = true) (name : Text)
    (arguments : List (Text × Value)) : e.source ≠ .call name arguments := by
  induction e with
  | literal v => nofun
  | path keys => nofun
  | call name arguments => cases h
  | filtered e filter ih => exact ih h

theorem Expr.holds_congr (h : e.callFree = true) :
    e.holds functions scope = e.holds other scope := by
  unfold Expr.holds
  cases hsource : e.source with
  | call name arguments => exact absurd hsource (Expr.source_ne_call h name arguments)
  | _ => simp only [Expr.eval_congr functions other scope h]

theorem Expr.fails_congr (h : e.callFree = true) :
    e.fails functions scope = e.fails other scope := by
  unfold Expr.fails
  cases hsource : e.source with
  | call name arguments => exact absurd hsource (Expr.source_ne_call h name arguments)
  | _ => simp only [Expr.eval_congr functions other scope h]

end Expr

theorem Test.holds_congr {t : Test} (h : t.callFree = true) (functions other : Functions)
    (scope : Scope) : t.holds functions scope = t.holds other scope := by
  induction t generalizing functions other with
  | value e => exact Expr.holds_congr functions other scope h
  | compared c a b =>
    obtain ⟨ha, hb⟩ := Bool.and_eq_true_iff.1 h
    rw [Test.holds, Test.holds, Expr.eval_congr _ _ scope ha, Expr.eval_congr _ _ scope hb]
  | negated t ih =>
    cases t with
    | value e => exact Expr.fails_congr functions other scope h
    | _ => exact congrArg (fun asked => asked >>= fun b => pure !b) (ih h functions other)
  | both s t ihs iht =>
    obtain ⟨hs, ht⟩ := Bool.and_eq_true_iff.1 h
    rw [Test.holds, Test.holds, ihs hs _ (other.under 0), iht ht _ (other.under 1)]
  | either s t ihs iht =>
    obtain ⟨hs, ht⟩ := Bool.and_eq_true_iff.1 h
    rw [Test.holds, Test.holds, ihs hs _ (other.under 0), iht ht _ (other.under 1)]

theorem Test.eval_congr {t : Test} (h : t.callFree = true) (functions other : Functions)
    (scope : Scope) : t.eval functions scope = t.eval other scope := by
  cases t with
  | value e => exact Expr.eval_congr functions other scope h
  | _ =>
    rw [Test.eval, Test.eval, Test.holds_congr h functions other] <;> nofun

mutual

theorem Node.render_congr {n : Node} (h : n.callFree = true) (functions other : Functions)
    (scope : Scope) : n.render functions scope = n.render other scope := by
  cases n with
  | text t => rfl
  | print t => rw [Node.render, Node.render, Test.eval_congr h functions other]
  | each name items body =>
    obtain ⟨hitems, hbody⟩ := Bool.and_eq_true_iff.1 h
    have hturn : (fun n inner => renderAll (functions.under (n + 1)) inner body) =
        fun n inner => renderAll (other.under (n + 1)) inner body :=
      funext fun n => funext fun inner => renderAll_congr hbody _ _ inner
    rw [Node.render, Node.render, Expr.eval_congr _ (other.under 0) scope hitems]
    dsimp only
    rw [hturn]
  | branch test yes no =>
    obtain ⟨htest, hsides⟩ := Bool.and_eq_true_iff.1 h
    obtain ⟨hyes, hno⟩ := Bool.and_eq_true_iff.1 hsides
    rw [Node.render, Node.render, Test.holds_congr htest _ (other.under 0),
      renderAll_congr hyes _ (other.under 1), renderAll_congr hno _ (other.under 1)]
  | assign name t => rw [Node.render, Node.render, Test.eval_congr h functions other]

theorem renderAll_congr {ns : List Node} (h : allCallFree ns = true) (functions other : Functions)
    (scope : Scope) : renderAll functions scope ns = renderAll other scope ns := by
  cases ns with
  | nil => rfl
  | cons n ns =>
    obtain ⟨hnode, hrest⟩ := Bool.and_eq_true_iff.1 h
    rw [renderAll, renderAll, Node.render_congr hnode _ (other.under 0)]
    refine congrArg _ (funext fun result => ?_)
    dsimp only
    rw [renderAll_congr hrest _ (other.under 1)]

end

/-- A template that calls no function renders to the same whatever functions give. -/
theorem render_eq_of_callFree {nodes : List Node} (h : allCallFree nodes = true)
    (functions other : Functions) (scope : Scope) :
    render scope nodes functions = render scope nodes other := by
  rw [render, render, renderAll_congr h functions other]

example : Bundled.all.all (fun b => allCallFree b.nodes) = true := rfl

end MapLoom.Template
