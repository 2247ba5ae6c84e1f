import MapLoom.Command.Plain

set_option autoImplicit false

/-!
# Lines that are printed as they are

Output drops control characters that lay nothing out, and what they make an escape sequence of. A
line is printed as it is exactly if it has no such character.
-/
namespace MapLoom.Command

/-- Whether a text has no control character but those that lay text out. -/
def IsPlain (t : Text) : Prop := ∀ c ∈ t, isControl c = true → isLayout c = true

instance (t : Text) : Decidable (IsPlain t) :=
  List.decidableBAll (fun c => isControl c = true → isLayout c = true) t

variable {t u : Text} {c : Char}

theorem plainFrom_cons (state : EscapeState) (c : Char) (t : Text) : plainFrom state (c :: t) =
    if (state.next c).2 then c :: plainFrom (state.next c).1 t
    else plainFrom (state.next c).1 t := rfl

theorem next_outside (h : isControl c = true → isLayout c = true) :
    EscapeState.outside.next c = (.outside, true) := by
  have hstops : ∀ d ∈ ['\x1b', '\x18', '\x1a'], c ≠ d := by
    intro d hd hcd
    subst hcd
    simp only [List.mem_cons, List.not_mem_nil, or_false] at hd
    rcases hd with rfl | rfl | rfl <;> exact absurd (h (by decide)) (by decide)
  unfold EscapeState.next
  rw [if_neg (hstops _ (by simp)), if_neg (by simp [hstops])]
  cases hcontrol : isControl c with
  | false => simp
  | true => simp [h hcontrol]

theorem plainFrom_append (h : IsPlain t) :
    plainFrom .outside (t ++ u) = t ++ plainFrom .outside u := by
  induction t with
  | nil => rfl
  | cons c t ih =>
    obtain ⟨hc, ht⟩ := List.forall_mem_cons.1 h
    rw [List.cons_append, plainFrom_cons, next_outside hc, if_pos rfl, ih ht, List.cons_append]

theorem line_eq (h : IsPlain t) : line t = t ++ "\n" := plainFrom_append h

/-- The sequence at the end of a styled line is taken out of it. -/
theorem styledLine_eq (h : IsPlain t) : styledLine t = t ++ "\n" := plainFrom_append h

theorem length_plainFrom_le (state : EscapeState) (t : Text) :
    (plainFrom state t).length ≤ t.length := by
  induction t generalizing state with
  | nil => exact Nat.le_refl 0
  | cons c t ih =>
    rw [plainFrom_cons, List.length_cons]
    split
    · exact Nat.succ_le_succ (ih _)
    · exact Nat.le_succ_of_le (ih _)

theorem next_outside_of_dropped (hcontrol : isControl c = true) (hlayout : isLayout c = false) :
    (EscapeState.outside.next c).2 = false := by
  unfold EscapeState.next
  split
  · rfl
  · split
    · rfl
    · simp [hcontrol, hlayout]

theorem line_eq_iff : line t = t ++ "\n" ↔ IsPlain t := by
  refine ⟨fun h => ?_, line_eq⟩
  unfold line at h
  induction t with
  | nil => exact nofun
  | cons c t ih =>
    rw [List.cons_append, plainFrom_cons] at h
    by_cases hc : isControl c = true → isLayout c = true
    · rw [next_outside hc, if_pos rfl] at h
      exact List.forall_mem_cons.2 ⟨hc, ih (List.tail_eq_of_cons_eq h)⟩
    · -- a character is missing, so the line is shorter
      obtain ⟨hcontrol, hlayout⟩ : isControl c = true ∧ isLayout c = false := by simpa using hc
      rw [next_outside_of_dropped hcontrol hlayout, if_neg Bool.false_ne_true] at h
      have hle := length_plainFrom_le (EscapeState.outside.next c).1 (t ++ "\n")
      rw [h, List.length_cons] at hle
      omega

end MapLoom.Command
