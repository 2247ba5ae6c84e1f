import MapLoom.Proofs.Text.Infix
import MapLoom.Proofs.Weave.Frame

set_option autoImplicit false

/-!
# The pattern of the gate

A sentinel without a line feed is found by the gate in one line or not at all, and a line in which
it is found has the sentinel. In a frame such a line is a marker, so other lines in the slots do not
change what the gate finds.
-/
namespace MapLoom
open Text

section
variable {sentinel : Text}

theorem not_mem_separated (hlf : '\n' ∉ sentinel) : '\n' ∉ (sentinel ++ " | " : Text) := by
  intro h
  rcases List.mem_append.1 h with h | h
  · exact hlf h
  · exact absurd h (by decide)

theorem startsMarker_eq_true_iff {t : Text} :
    startsMarker sentinel t = true ↔
      ∃ rest, t = (sentinel ++ " | " : Text) ++ rest ∧
        hasInfix " \x7b" (rest.takeWhile (· ≠ '\n')) = true := by
  unfold startsMarker
  split
  · rename_i rest h
    rw [List.isPrefixOf?_eq_some_iff_append_eq] at h
    subst h
    exact ⟨fun h => ⟨rest, rfl, h⟩, fun ⟨_, he, h⟩ => List.append_cancel_left he ▸ h⟩
  · rename_i h
    rw [isPrefixOf?_eq_none_iff] at h
    refine ⟨fun hf => absurd hf (by simp), fun ⟨rest, he, _⟩ => ?_⟩
    exact absurd ⟨rest, he.symm⟩ h

theorem takeWhile_line {body : Text} (h : '\n' ∉ body) : body.takeWhile (· ≠ '\n') = body := by
  have hpos : ∀ c ∈ body, decide (c ≠ '\n') = true := by
    intro c hc
    simpa using fun he : c = '\n' => h (he ▸ hc)
  have htake := @List.takeWhile_append_of_pos _ _ body [] hpos
  simpa using htake

theorem takeWhile_append_newline {body : Text} (h : '\n' ∉ body) (t : Text) :
    (body ++ '\n' :: t).takeWhile (· ≠ '\n') = body := by
  rw [List.takeWhile_append, takeWhile_line h]
  simp

theorem startsMarker_append_newline (hlf : '\n' ∉ sentinel) {body : Text} (h : '\n' ∉ body)
    (t : Text) : startsMarker sentinel (body ++ '\n' :: t) = startsMarker sentinel body := by
  rw [Bool.eq_iff_iff, startsMarker_eq_true_iff, startsMarker_eq_true_iff]
  constructor
  · rintro ⟨rest, he, hrest⟩
    obtain ⟨b, rfl⟩ := (prefix_append_cons_iff (not_mem_separated hlf)).1 ⟨rest, he.symm⟩
    have hb : '\n' ∉ b := fun hm => h (List.mem_append_right _ hm)
    rw [List.append_assoc, List.append_cancel_left_eq] at he
    rw [← he, takeWhile_append_newline hb] at hrest
    exact ⟨b, rfl, by rwa [takeWhile_line hb]⟩
  · rintro ⟨b, rfl, hrest⟩
    have hb : '\n' ∉ b := fun hm => h (List.mem_append_right _ hm)
    rw [takeWhile_line hb] at hrest
    exact ⟨b ++ '\n' :: t, by simp, by rwa [takeWhile_append_newline hb]⟩

@[simp] theorem startsMarker_nil : startsMarker sentinel [] = false := by
  rw [Bool.eq_false_iff, Ne, startsMarker_eq_true_iff]
  rintro ⟨rest, he, -⟩
  simp at he

theorem hasMarker_eq_true_iff {t : Text} :
    hasMarker sentinel t = true ↔
      ∃ before rest, t = before ++ rest ∧ startsMarker sentinel rest = true := by
  induction t with
  | nil =>
    constructor
    · intro h
      exact ⟨[], [], rfl, h⟩
    · rintro ⟨before, rest, he, h⟩
      rw [(List.append_eq_nil_iff.1 he.symm).2] at h
      exact h
  | cons c t ih =>
    rw [hasMarker, Bool.or_eq_true, ih]
    constructor
    · rintro (h | ⟨before, rest, rfl, h⟩)
      · exact ⟨[], _, rfl, h⟩
      · exact ⟨c :: before, rest, rfl, h⟩
    · rintro ⟨before, rest, he, h⟩
      cases before with
      | nil => exact .inl (he ▸ h)
      | cons b before =>
        obtain ⟨rfl, rfl⟩ := List.cons.inj he
        exact .inr ⟨before, rest, rfl, h⟩

theorem hasMarker_append_newline (hlf : '\n' ∉ sentinel) {body : Text} (h : '\n' ∉ body)
    (t : Text) : hasMarker sentinel (body ++ '\n' :: t) =
      (hasMarker sentinel body || hasMarker sentinel t) := by
  induction body with
  | nil =>
    have hstart := startsMarker_append_newline hlf h t
    change (startsMarker sentinel ([] ++ '\n' :: t) || hasMarker sentinel t) = _
    rw [hstart]
    rfl
  | cons c body ih =>
    have hstart := startsMarker_append_newline hlf h t
    simp only [List.mem_cons, not_or] at h
    rw [List.cons_append] at hstart ⊢
    rw [hasMarker, hstart, ih h.2, hasMarker, Bool.or_assoc]

/-- The gate's pattern is found in a text when it is found in one of its lines. -/
theorem hasMarker_eq_any_lines (hlf : '\n' ∉ sentinel) (t : Text) :
    hasMarker sentinel t = t.lines.any (hasMarker sentinel) := by
  induction t using line_induction with
  | nil => exact startsMarker_nil
  | last body hne hbody => simp [lines_of_not_mem hbody hne]
  | line body rest hbody ih =>
    have hline : hasMarker sentinel (body ++ ['\n']) = hasMarker sentinel body := by
      rw [hasMarker_append_newline hlf hbody, hasMarker, startsMarker_nil, Bool.or_false]
    rw [hasMarker_append_newline hlf hbody, lines_append_newline hbody, List.any_cons, hline, ih]

theorem hasInfix_of_hasMarker {t : Text} (h : hasMarker sentinel t = true) :
    hasInfix sentinel t = true := by
  have hstart : ∀ {u : Text}, startsMarker sentinel u = true → sentinel <:+: u := by
    intro u hu
    obtain ⟨rest, rfl, -⟩ := startsMarker_eq_true_iff.1 hu
    exact ⟨[], " | " ++ rest, by simp⟩
  rw [hasInfix_iff]
  induction t with
  | nil => exact hstart h
  | cons c t ih =>
    rw [hasMarker, Bool.or_eq_true] at h
    rcases h with h | h
    · exact hstart h
    · exact List.infix_cons (ih h)

theorem mem_fillFrom_of_hasInfix {slots : List (Slot sentinel)} {tail : List Text}
    {interiors interiors' : List (List Text)} (h : interiors.length = slots.length)
    (h' : interiors'.length = slots.length)
    (hplain : ∀ x ∈ interiors, ∀ line ∈ x, hasInfix sentinel line = false) {line : Text}
    (hline : hasInfix sentinel line = true)
    (hmem : line ∈ Frame.fillFrom (slots.zip interiors) tail) :
    line ∈ Frame.fillFrom (slots.zip interiors') tail := by
  rcases Frame.mem_fillFrom_cases h h' hmem with hfound | ⟨x, hx, hin⟩
  · exact hfound
  · have hfalse := hplain x hx line hin
    rw [hline] at hfalse
    cases hfalse

theorem hasMarker_of_fill (hlf : '\n' ∉ sentinel) {f : Frame sentinel} {t t' : Text}
    {interiors interiors' : List (List Text)} (ht : t.lines = f.fill interiors)
    (h : f.Fits interiors) (ht' : t'.lines = f.fill interiors')
    (h' : interiors'.length = f.slots.length) (hm : hasMarker sentinel t = true) :
    hasMarker sentinel t' = true := by
  rw [hasMarker_eq_any_lines hlf, List.any_eq_true] at hm ⊢
  obtain ⟨line, hline, hfound⟩ := hm
  rw [ht] at hline
  refine ⟨line, ?_, hfound⟩
  rw [ht']
  exact mem_fillFrom_of_hasInfix h.length_eq h' h.plain (hasInfix_of_hasMarker hfound) hline

end
end MapLoom
