import MapLoom.Text.Basic

set_option autoImplicit false

/-!
# Pieces between separators

A text cut at one character has pieces without that character, and joining the pieces gives the text
back. Every list of such pieces, with one at least, comes from one text.
-/
namespace MapLoom.Text

theorem splitAt_eq_splitOn (sep : Char) (t : Text) : splitAt sep t = t.splitOn sep := by
  induction t with
  | nil => rfl
  | cons c t ih =>
    obtain ⟨piece, pieces, hpieces⟩ := List.exists_cons_of_ne_nil (List.splitOn_ne_nil sep t)
    rw [splitAt, ih, List.splitOn_cons_eq_if_modifyHead, hpieces]
    simp only [beq_iff_eq, List.modifyHead_cons]

theorem join_cons_append (sep s piece : Text) (pieces : List Text) :
    join sep ((s ++ piece) :: pieces) = s ++ join sep (piece :: pieces) := by
  cases pieces with
  | nil => simp [join]
  | cons next pieces => simp [join, List.intercalate_cons_cons]

section
variable (sep : Char)

theorem splitAt_ne_nil (t : Text) : splitAt sep t ≠ [] := by
  rw [splitAt_eq_splitOn]
  exact List.splitOn_ne_nil sep t

theorem splitAt_append (s t : Text) :
    splitAt sep (s ++ sep :: t) = splitAt sep s ++ splitAt sep t := by
  rw [splitAt_eq_splitOn, splitAt_eq_splitOn, splitAt_eq_splitOn, List.splitOn_append_cons_self]

@[simp] theorem join_splitAt (t : Text) : join [sep] (splitAt sep t) = t := by
  rw [splitAt_eq_splitOn, join, List.intercalate_splitOn]

end

section
variable {sep : Char} {t piece : Text} {pieces : List Text}

theorem splitAt_of_not_mem (h : sep ∉ t) : splitAt sep t = [t] := by
  rw [splitAt_eq_splitOn, List.splitOn_eq_singleton h]

theorem splitAt_join (h : ∀ piece ∈ pieces, sep ∉ piece) (hne : pieces ≠ []) :
    splitAt sep (join [sep] pieces) = pieces := by
  rw [splitAt_eq_splitOn, join, List.splitOn_intercalate sep h hne]

theorem join_concat (sep last : Text) (hne : pieces ≠ []) :
    join sep (pieces ++ [last]) = join sep pieces ++ sep ++ last := by
  induction pieces with
  | nil => exact absurd rfl hne
  | cons piece pieces ih =>
    cases pieces with
    | nil => simp [join, List.intercalate_cons_cons]
    | cons next pieces =>
      have hrest := ih (List.cons_ne_nil next pieces)
      simp only [join, List.cons_append, List.intercalate_cons_cons, List.append_assoc] at hrest ⊢
      rw [hrest]

theorem not_mem_of_mem_splitAt (h : piece ∈ splitAt sep t) : sep ∉ piece := by
  induction t generalizing piece with
  | nil =>
    rw [List.mem_singleton.1 h]
    exact List.not_mem_nil
  | cons c t ih =>
    obtain ⟨first, rest, hsplit⟩ := List.exists_cons_of_ne_nil (splitAt_ne_nil sep t)
    rw [splitAt, hsplit] at h
    rw [hsplit] at ih
    dsimp only at h
    split at h
    · rcases List.mem_cons.1 h with rfl | h
      · exact List.not_mem_nil
      · exact ih h
    · rename_i hc
      rcases List.mem_cons.1 h with rfl | h
      · exact List.not_mem_cons_of_ne_of_not_mem (Ne.symm hc) (ih List.mem_cons_self)
      · exact ih (List.mem_cons_of_mem _ h)

end

end MapLoom.Text
