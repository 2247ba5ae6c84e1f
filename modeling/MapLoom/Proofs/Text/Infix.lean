import Mathlib.Data.List.Infix
import MapLoom.Text.Basic

set_option autoImplicit false

/-!
# Pieces of a text

`hasInfix` decides whether a piece stands anywhere in a text, so it is the infix relation of lists.
A piece whose first character stands nowhere else in it cannot overlap itself, so a text is cut at
such a piece in one way only if it does not stand before the cut.
-/
namespace MapLoom.Text

theorem isPrefixOf?_eq_none_iff {piece t : Text} :
    List.isPrefixOf? piece t = none ↔ ¬ piece <+: t := by
  rw [Option.eq_none_iff_forall_ne_some]
  constructor
  · rintro h ⟨rest, rfl⟩
    exact h rest (List.isPrefixOf?_eq_some_iff_append_eq.2 rfl)
  · intro h rest hrest
    exact h ⟨rest, List.isPrefixOf?_eq_some_iff_append_eq.1 hrest⟩

theorem hasInfix_iff {piece t : Text} : hasInfix piece t = true ↔ piece <:+: t := by
  unfold hasInfix
  induction t with
  | nil =>
    rw [List.infix_nil]
    unfold cut?
    split <;> simp_all
  | cons c t ih =>
    rw [List.infix_cons_iff, ← ih, cut?]
    split
    · rename_i after h
      have hpre : piece <+: c :: t := ⟨after, List.isPrefixOf?_eq_some_iff_append_eq.1 h⟩
      simp [hpre]
    · rename_i h
      simp [isPrefixOf?_eq_none_iff.1 h]

theorem hasInfix_eq_false_iff {piece t : Text} : hasInfix piece t = false ↔ ¬ piece <:+: t := by
  rw [← hasInfix_iff, Bool.not_eq_true]

theorem prefix_append_cons_iff {piece a b : Text} {c : Char} (h : c ∉ piece) :
    piece <+: a ++ c :: b ↔ piece <+: a := by
  refine ⟨fun hp => ?_, fun hp => hp.trans (List.prefix_append a _)⟩
  have hc : a ++ [c] <+: a ++ c :: b := ⟨b, by simp⟩
  rcases List.prefix_or_prefix_of_prefix hp hc with hp | hp
  · rcases List.prefix_concat_iff.1 hp with rfl | hp
    · exact absurd (by simp) h
    · exact hp
  · exact absurd (hp.subset (by simp)) h

theorem infix_append_cons_iff {piece a b : Text} {c : Char} (h : c ∉ piece) :
    piece <:+: a ++ c :: b ↔ piece <:+: a ∨ piece <:+: b := by
  induction a with
  | nil =>
    rw [List.nil_append, List.infix_cons_iff, List.infix_nil]
    have hp := prefix_append_cons_iff (a := []) (b := b) h
    rw [List.nil_append, List.prefix_nil] at hp
    rw [hp]
  | cons d a ih =>
    have hp := prefix_append_cons_iff (a := d :: a) (b := b) h
    rw [List.cons_append] at hp ⊢
    rw [List.infix_cons_iff, List.infix_cons_iff, ih, hp, or_assoc]

/-- Whether the first character of a piece stands nowhere else in it. -/
def OneHead : Text → Prop
  | [] => False
  | c :: t => c ∉ t

instance (piece : Text) : Decidable (OneHead piece) :=
  match piece with
  | [] => inferInstanceAs (Decidable False)
  | c :: t => inferInstanceAs (Decidable (c ∉ t))

variable {piece a b p s t : Text}

theorem OneHead.append_inj_left {k : Text} (h : OneHead piece)
    (heq : piece ++ s = k ++ piece ++ b) (hk : k ≠ []) : piece <+: k := by
  cases piece with
  | nil => exact List.nil_prefix
  | cons c w =>
    cases k with
    | nil => exact absurd rfl hk
    | cons d k =>
      obtain ⟨rfl, hrest⟩ := List.cons.inj heq
      change w ++ s = k ++ c :: w ++ b at hrest
      rw [List.append_assoc] at hrest
      rcases List.append_eq_append_iff.1 hrest with ⟨k', hk', -⟩ | ⟨w', hw', hs'⟩
      · exact ⟨k', by rw [hk']; rfl⟩
      · cases w' with
        | nil =>
          rw [List.append_nil] at hw'
          exact ⟨[], by rw [hw', List.append_nil]⟩
        | cons d w' =>
          -- the later piece would begin within the earlier one, with the head that stands only once
          obtain ⟨rfl, -⟩ := List.cons.inj hs'
          exact absurd (by simp [hw']) h

theorem OneHead.append_inj (h : OneHead piece) (heq : p ++ piece ++ s = a ++ piece ++ b)
    (hp : ¬ piece <:+: p) (ha : ¬ piece <:+: a) : p = a ∧ s = b := by
  have hempty : ∀ {x y k : Text}, piece ++ x = k ++ piece ++ y → ¬ piece <:+: k → k = [] := by
    intro x y k hxy hk
    by_contra hne
    exact hk (h.append_inj_left hxy hne).isInfix
  rw [List.append_assoc, List.append_assoc] at heq
  rcases List.append_eq_append_iff.1 heq with ⟨k, rfl, hk⟩ | ⟨k, rfl, hk⟩
  · rw [← List.append_assoc] at hk
    have hnil := hempty hk fun hin => ha (hin.trans (List.suffix_append p k).isInfix)
    subst hnil
    exact ⟨(List.append_nil p).symm, List.append_cancel_left hk⟩
  · rw [← List.append_assoc] at hk
    have hnil := hempty hk fun hin => hp (hin.trans (List.suffix_append a k).isInfix)
    subst hnil
    exact ⟨List.append_nil a, (List.append_cancel_left hk).symm⟩

theorem cut?_eq_none_iff : cut? t piece = none ↔ ¬ piece <:+: t := by
  rw [← hasInfix_iff, hasInfix, Bool.not_eq_true, Option.isSome_eq_false_iff,
    Option.isNone_iff_eq_none]

theorem of_cut?_eq_some (hne : piece ≠ []) (h : cut? t piece = some (a, b)) :
    t = a ++ piece ++ b ∧ ¬ piece <:+: a := by
  induction t generalizing a with
  | nil => simp [cut?, hne] at h
  | cons c t ih =>
    unfold cut? at h
    split at h
    · rename_i after hpre
      cases h
      exact ⟨(List.isPrefixOf?_eq_some_iff_append_eq.1 hpre).symm, by simpa using hne⟩
    · rename_i hpre
      obtain ⟨⟨before, after⟩, hcut, hab⟩ := Option.map_eq_some_iff.1 h
      cases hab
      obtain ⟨ht, hbefore⟩ := ih hcut
      refine ⟨by rw [ht]; rfl, fun hin => ?_⟩
      rcases List.infix_cons_iff.1 hin with hhead | htail
      · have hlong : piece <+: c :: t := hhead.trans ⟨piece ++ b, by rw [ht]; simp⟩
        exact isPrefixOf?_eq_none_iff.1 hpre hlong
      · exact hbefore htail

theorem cut?_eq_some_iff (h : OneHead piece) :
    cut? t piece = some (a, b) ↔ t = a ++ piece ++ b ∧ ¬ piece <:+: a := by
  have hne : piece ≠ [] := by
    rintro rfl
    exact h
  refine ⟨of_cut?_eq_some hne, ?_⟩
  rintro ⟨rfl, ha⟩
  cases hcut : cut? (a ++ piece ++ b) piece with
  | none => exact absurd (List.infix_append a piece b) (cut?_eq_none_iff.1 hcut)
  | some found =>
    obtain ⟨p, s⟩ := found
    obtain ⟨heq, hp⟩ := of_cut?_eq_some hne hcut
    obtain ⟨rfl, rfl⟩ := h.append_inj heq ha hp
    rfl

end MapLoom.Text
