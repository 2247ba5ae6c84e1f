import MapLoom.Text.Lines

set_option autoImplicit false

/-!
# The lines of joined texts

A text is empty, one line without an end, or a first line with its end and a rest. Lines of two
texts are those of the joined text when the first one stops at the end of a line, and the lines of a
text can be cut anywhere into the lines of two texts.
-/
namespace MapLoom.Text

/-- The text of lines, each of which gets its end. -/
def unlines (lines : List Text) : Text := lines.flatMap (· ++ ['\n'])

/-- The text of lines, each after a line feed. -/
def broken (lines : List Text) : Text := lines.flatMap ('\n' :: ·)

@[simp] theorem broken_nil : broken [] = [] := rfl

@[simp] theorem broken_cons (line : Text) (lines : List Text) :
    broken (line :: lines) = '\n' :: (line ++ broken lines) := rfl

@[simp] theorem broken_append (a b : List Text) : broken (a ++ b) = broken a ++ broken b :=
  List.flatMap_append

/-- A line feed after lines of the one kind makes them lines of the other kind, after an empty
one. -/
theorem broken_newline (lines : List Text) : broken lines ++ ['\n'] = unlines ([] :: lines) := by
  induction lines with
  | nil => rfl
  | cons line lines ih =>
    rw [broken, List.flatMap_cons, List.append_assoc, ← broken, ih]
    simp [unlines]

/-- Whether a text stops at the end of a line. -/
def Whole (t : Text) : Prop := t = [] ∨ t.getLast? = some '\n'

instance (t : Text) : Decidable (Whole t) := inferInstanceAs (Decidable (_ ∨ _))

theorem whole_nil : Whole [] := .inl rfl

theorem whole_append {a b : Text} (ha : Whole a) (hb : Whole b) : Whole (a ++ b) := by
  rcases hb with rfl | hb
  · simpa using ha
  · exact .inr (by simp [List.getLast?_append, hb])

theorem whole_of_append {a b : Text} (h : Whole (a ++ b)) : Whole b := by
  cases b with
  | nil => exact whole_nil
  | cons c b => exact .inr (by simpa [Whole, List.getLast?_append] using h)

theorem whole_line (body : Text) : Whole (body ++ ['\n']) := .inr (by simp)

theorem lines_of_not_mem {body : Text} (h : '\n' ∉ body) (hne : body ≠ []) :
    lines body = [body] := by
  induction body with
  | nil => exact absurd rfl hne
  | cons c body ih =>
    simp only [List.mem_cons, not_or] at h
    have hc : c ≠ '\n' := Ne.symm h.1
    cases body with
    | nil => simp [lines, hc]
    | cons d body =>
      have hrest := ih h.2 (by simp)
      rw [lines, if_neg hc, hrest]

theorem lines_append_newline {body : Text} (h : '\n' ∉ body) (t : Text) :
    lines (body ++ '\n' :: t) = (body ++ ['\n']) :: lines t := by
  induction body with
  | nil => simp [lines]
  | cons c body ih =>
    simp only [List.mem_cons, not_or] at h
    have hc : c ≠ '\n' := Ne.symm h.1
    rw [List.cons_append, lines, if_neg hc, ih h.2]
    rfl

theorem lines_line {body : Text} (h : '\n' ∉ body) : lines (body ++ ['\n']) = [body ++ ['\n']] := by
  rw [lines_append_newline h]
  rfl

theorem lines_ne_nil {t : Text} (h : t ≠ []) : lines t ≠ [] := by
  intro hnil
  have hflat := flatten_lines t
  rw [hnil] at hflat
  exact h hflat.symm

theorem lines_unlines {bodies : List Text} (h : ∀ body ∈ bodies, '\n' ∉ body) :
    lines (unlines bodies) = bodies.map (· ++ ['\n']) := by
  induction bodies with
  | nil => rfl
  | cons body bodies ih =>
    obtain ⟨hbody, hrest⟩ := List.forall_mem_cons.1 h
    have hsplit : unlines (body :: bodies) = body ++ '\n' :: unlines bodies := by simp [unlines]
    rw [hsplit, lines_append_newline hbody, ih hrest, List.map_cons]

/-- Every text is empty, one line without an end, or a line with its end before another text. -/
@[elab_as_elim]
theorem line_induction {motive : Text → Prop} (nil : motive [])
    (last : ∀ body, body ≠ [] → '\n' ∉ body → motive body)
    (line : ∀ body rest, '\n' ∉ body → motive rest → motive (body ++ '\n' :: rest))
    (t : Text) : motive t := by
  by_cases h : '\n' ∈ t
  · obtain ⟨body, rest, ht, hbody⟩ := List.eq_append_cons_of_mem h
    have hlt : rest.length < t.length := by simp [ht]; omega
    rw [ht]
    exact line body rest hbody (line_induction nil last line rest)
  · by_cases hne : t = []
    · exact hne ▸ nil
    · exact last t hne h
termination_by t.length

theorem exists_body_of_mem_lines {t line : Text} (h : line ∈ lines t) :
    ∃ body, '\n' ∉ body ∧ (line = body ∨ line = body ++ ['\n']) := by
  induction t using line_induction with
  | nil => cases h
  | last body hne hbody =>
    rw [lines_of_not_mem hbody hne, List.mem_singleton] at h
    exact ⟨body, hbody, .inl h⟩
  | line body rest hbody ih =>
    rw [lines_append_newline hbody] at h
    rcases List.mem_cons.1 h with rfl | h
    · exact ⟨body, hbody, .inr rfl⟩
    · exact ih h

theorem lines_append {a : Text} (h : Whole a) (b : Text) : lines (a ++ b) = lines a ++ lines b := by
  induction a using line_induction with
  | nil => rfl
  | last body hne hbody =>
    rcases h with rfl | h
    · exact absurd rfl hne
    · exact absurd (List.mem_of_getLast? h) hbody
  | line body rest hbody ih =>
    have hrest : Whole rest := by
      rw [List.append_cons] at h
      exact whole_of_append h
    rw [List.append_assoc, List.cons_append, lines_append_newline hbody,
      lines_append_newline hbody, ih hrest, List.cons_append]

/-- The lines of a text are cut into two lists only as the lines of two texts, the first of which
stops at the end of a line unless it is the whole text. -/
theorem lines_split {t : Text} {xs ys : List Text} (h : lines t = xs ++ ys) :
    lines xs.flatten = xs ∧ lines ys.flatten = ys ∧ (ys ≠ [] → Whole xs.flatten) := by
  induction xs generalizing t with
  | nil =>
    refine ⟨rfl, ?_, fun _ => whole_nil⟩
    rw [List.nil_append] at h
    rw [← h, flatten_lines]
  | cons x xs ih =>
    induction t using line_induction with
    | nil => simp [lines] at h
    | last body hne hbody =>
      rw [lines_of_not_mem hbody hne] at h
      simp only [List.cons_append, List.cons.injEq] at h
      obtain ⟨rfl, h⟩ := h
      obtain ⟨rfl, rfl⟩ := List.append_eq_nil_iff.1 h.symm
      simpa [lines] using lines_of_not_mem hbody hne
    | line body rest hbody _ =>
      rw [lines_append_newline hbody, List.cons_append, List.cons.injEq] at h
      obtain ⟨rfl, h⟩ := h
      obtain ⟨hxs, hys, hwhole⟩ := ih h
      refine ⟨?_, hys, fun hne => ?_⟩
      · rw [List.flatten_cons, List.append_assoc, List.singleton_append,
          lines_append_newline hbody, hxs]
      · exact whole_append (whole_line body) (hwhole hne)

end MapLoom.Text
