import MapLoom.Proofs.Text.Blank
import MapLoom.Proofs.Text.Lines
import MapLoom.Weave.Assemble

set_option autoImplicit false

/-!
# Normalized texts

A normalized text has the lines of the text it was made from without the blanks at their ends, and a
line feed after each of them. A text without lines is normalized to one empty line.
-/
namespace MapLoom
open Text

theorem whole_normalize (t : Text) : Whole (normalize t) := .inr (by simp [normalize])

/-- The lines of a text without the blanks at their ends, or one empty line if there are none. -/
def trimmedLines : Text → List Text
  | [] => [[]]
  | c :: t => (lines (c :: t)).map trimEnd

theorem trimmedLines_of_ne_nil {t : Text} (h : t ≠ []) : trimmedLines t = t.lines.map trimEnd := by
  obtain ⟨c, rest, rfl⟩ := List.exists_cons_of_ne_nil h
  rw [trimmedLines]

theorem join_newline_append (line : Text) (lines : List Text) :
    join "\n" (line :: lines) ++ ['\n'] = unlines (line :: lines) := by
  induction lines generalizing line with
  | nil => simp [join, unlines]
  | cons next lines ih =>
    have hrest := ih next
    simp only [join, unlines, List.flatMap_cons] at hrest ⊢
    rw [List.intercalate_cons_cons, List.append_assoc, hrest]
    simp

theorem normalize_eq_unlines (t : Text) : normalize t = unlines (trimmedLines t) := by
  cases t with
  | nil => rfl
  | cons c t =>
    obtain ⟨line, lines, hlines⟩ :=
      List.exists_cons_of_ne_nil (lines_ne_nil (List.cons_ne_nil c t))
    rw [normalize, trimmedLines, hlines, List.map_cons]
    exact join_newline_append _ _

theorem not_mem_trimEnd_line {t line : Text} (h : line ∈ t.lines) : '\n' ∉ trimEnd line := by
  obtain ⟨body, hbody, rfl | rfl⟩ := exists_body_of_mem_lines h
  · exact fun hm => hbody ((trimEnd_isPrefix _).subset hm)
  · rw [trimEnd_append (List.forall_mem_singleton.2 rfl)]
    exact fun hm => hbody ((trimEnd_isPrefix _).subset hm)

theorem trimmed_of_mem_trimmedLines {t line : Text} (h : line ∈ trimmedLines t) :
    '\n' ∉ line ∧ ∀ c, line.getLast? = some c → isBlank c = false := by
  cases t with
  | nil =>
    rw [trimmedLines, List.mem_singleton] at h
    subst h
    exact ⟨List.not_mem_nil, nofun⟩
  | cons c t =>
    rw [trimmedLines] at h
    obtain ⟨full, hfull, rfl⟩ := List.mem_map.1 h
    exact ⟨not_mem_trimEnd_line hfull, fun c => not_isBlank_of_getLast?_trimEnd⟩

end MapLoom
