import MapLoom.Proofs.Weave.Gate

set_option autoImplicit false

/-!
# How marker lines are spelled

The gate wants blanks in a marker: one on each side of the separator, the first of them right after
the sentinel, and one before a brace. A scan names the generator of an opening marker without any of
them.
-/
namespace MapLoom
open Text

/-- Whether a line has the sentinel, a separator between blanks and then a brace after a blank. -/
def Spaced (sentinel line : Text) : Prop :=
  ∃ before middle after : Text,
    line = before ++ (sentinel ++ " | " ++ (middle ++ " \x7b" ++ after))

/-- Whether a line has one separator and lacks a blank that the gate looks for around it. -/
def Tight (sentinel line : Text) : Prop :=
  ∃ head rest : Text, line = head ++ '|' :: rest ∧ '|' ∉ head ∧ '|' ∉ rest ∧
    ¬ ((∃ before : Text, head = before ++ sentinel ++ " ") ∧
      ∃ middle after : Text, rest = " " ++ (middle ++ " \x7b" ++ after))

section
variable {sentinel line : Text}

theorem hasMarker_iff_spaced {body : Text} (h : '\n' ∉ body) :
    hasMarker sentinel body = true ↔ Spaced sentinel body := by
  rw [hasMarker_eq_true_iff]
  constructor
  · rintro ⟨before, rest, rfl, hstart⟩
    obtain ⟨tail, rfl, hbrace⟩ := startsMarker_eq_true_iff.1 hstart
    have htail : '\n' ∉ tail := fun hm =>
      h (List.mem_append_right _ (List.mem_append_right _ hm))
    rw [takeWhile_line htail, hasInfix_iff] at hbrace
    obtain ⟨middle, after, rfl⟩ := hbrace
    exact ⟨before, middle, after, rfl⟩
  · rintro ⟨before, middle, after, rfl⟩
    have htail : '\n' ∉ middle ++ " \x7b" ++ after := fun hm =>
      h (List.mem_append_right _ (List.mem_append_right _ hm))
    refine ⟨before, _, rfl, startsMarker_eq_true_iff.2 ⟨_, rfl, ?_⟩⟩
    rw [takeWhile_line htail, hasInfix_iff]
    exact ⟨middle, after, rfl⟩

theorem spaced_append_newline {body : Text} :
    Spaced sentinel (body ++ ['\n']) ↔ Spaced sentinel body := by
  constructor
  · rintro ⟨before, middle, after, he⟩
    -- the line feed is not the brace, so it stands after it
    rcases List.eq_nil_or_concat after with rfl | ⟨after, c, rfl⟩
    · have hbrace : body ++ ['\n'] =
          (before ++ (sentinel ++ " | " ++ (middle ++ [' ']))) ++ ['\x7b'] := by
        simpa using he
      have hlast := (List.append_inj' hbrace rfl).2
      simp at hlast
    · have hend : body ++ ['\n'] =
          (before ++ (sentinel ++ " | " ++ (middle ++ " \x7b" ++ after))) ++ [c] := by
        simpa using he
      exact ⟨before, middle, after, (List.append_inj' hend rfl).1⟩
  · rintro ⟨before, middle, after, rfl⟩
    exact ⟨before, middle, after ++ ['\n'], by simp⟩

/-- The gate's pattern is found in a text when one of its lines is spaced. -/
theorem hasMarker_iff_exists_spaced (hlf : '\n' ∉ sentinel) (t : Text) :
    hasMarker sentinel t = true ↔ ∃ line ∈ t.lines, Spaced sentinel line := by
  induction t using line_induction with
  | nil =>
    have hnil : hasMarker sentinel [] = false := startsMarker_nil
    simp [hnil, lines]
  | last body hne hbody =>
    simp [lines_of_not_mem hbody hne, hasMarker_iff_spaced hbody]
  | line body rest hbody ih =>
    rw [hasMarker_append_newline hlf hbody, lines_append_newline hbody, Bool.or_eq_true,
      List.exists_mem_cons_iff, ih, spaced_append_newline, hasMarker_iff_spaced hbody]

theorem spaced_iff_around {head rest : Text} (hhead : '|' ∉ head) (hrest : '|' ∉ rest) :
    Spaced sentinel (head ++ '|' :: rest) ↔
      (∃ before : Text, head = before ++ sentinel ++ " ") ∧
        ∃ middle after : Text, rest = " " ++ (middle ++ " \x7b" ++ after) := by
  constructor
  · rintro ⟨before, middle, after, he⟩
    have hsplit : head ++ '|' :: rest =
        (before ++ sentinel ++ [' ']) ++ '|' :: ([' '] ++ (middle ++ " \x7b" ++ after)) := by
      rw [he]
      simp
    obtain ⟨rfl, -, rfl⟩ := (List.append_cons_inj_of_notMem hhead hrest).1 hsplit
    exact ⟨⟨before, rfl⟩, middle, after, rfl⟩
  · rintro ⟨⟨before, rfl⟩, middle, after, rfl⟩
    exact ⟨before, middle, after, by simp⟩

theorem exists_bar_of_markerTag {tag : Text} (h : markerTag line = .ok tag) :
    ∃ head rest : Text, line = head ++ '|' :: rest ∧ '|' ∉ head ∧ '|' ∉ rest := by
  have hcount : line.count '|' = 1 := by
    by_contra hne
    rw [markerTag, if_pos hne] at h
    cases h
  have hmem : '|' ∈ line := List.count_pos_iff.1 (by omega)
  obtain ⟨head, rest, rfl, hhead⟩ := List.eq_append_cons_of_mem hmem
  refine ⟨head, rest, rfl, hhead, ?_⟩
  rw [List.count_append, List.count_cons_self] at hcount
  apply List.count_eq_zero.1
  omega

/-- A line that names a generator is tight or spaced, and not both. -/
theorem not_spaced_iff_tight {tag : Text} (h : markerTag line = .ok tag) :
    ¬ Spaced sentinel line ↔ Tight sentinel line := by
  constructor
  · intro hnot
    obtain ⟨head, rest, rfl, hhead, hrest⟩ := exists_bar_of_markerTag h
    exact ⟨head, rest, rfl, hhead, hrest, mt (spaced_iff_around hhead hrest).2 hnot⟩
  · rintro ⟨head, rest, rfl, hhead, hrest, hnot⟩
    exact mt (spaced_iff_around hhead hrest).1 hnot

end
end MapLoom
