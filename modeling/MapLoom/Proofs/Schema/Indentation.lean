import MapLoom.Proofs.Text.Blank
import MapLoom.Proofs.Text.Lines
import MapLoom.Proofs.Text.Pieces
import MapLoom.Schema.Listing

set_option autoImplicit false

/-!
# Indented texts

An indented text has four spaces before each line and none where there is no line, so it is clear
what stood there before. Blanks at the end of a text are blanks at the end of the indented one.
-/
namespace MapLoom
open Text

/-- The pieces between the line feeds of a text, each after four spaces. -/
def padded (t : Text) : Text := join "\n" ((t.splitAt '\n').map ("    " ++ ·))

/-- The lines of a text, each after four spaces. -/
def shifted (t : Text) : Text := t.lines.flatMap (("    " : Text) ++ ·)

/-- A piece between line feeds without the four spaces at its start, if they are there. -/
def unpadPiece (piece : Text) : Text := (("    " : Text).isPrefixOf? piece).getD piece

/-- A text without the four spaces at the start of each piece between line feeds. -/
def outdent (t : Text) : Text := join "\n" ((t.splitAt '\n').map unpadPiece)

def padFeed (c : Char) : Text := if c = '\n' then "\n    " else [c]

section
variable {t body : Text} {c : Char}

theorem padded_eq_flatMap (t : Text) : padded t = "    " ++ t.flatMap padFeed := by
  induction t with
  | nil => rfl
  | cons c t ih =>
    obtain ⟨piece, pieces, hpieces⟩ := List.exists_cons_of_ne_nil (splitAt_ne_nil '\n' t)
    rw [padded, hpieces, List.map_cons, join_cons_append, List.append_cancel_left_eq] at ih
    rw [padded, splitAt, hpieces, List.flatMap_cons, ← ih, padFeed]
    dsimp only
    split
    · simp [join, List.intercalate_cons_cons]
    · rw [List.map_cons, join_cons_append]
      exact congrArg _ (join_cons_append "\n" [c] piece _)

theorem padded_append (s t : Text) : padded (s ++ t) = padded s ++ t.flatMap padFeed := by
  rw [padded_eq_flatMap, padded_eq_flatMap, List.flatMap_append, List.append_assoc]

theorem padded_append_newline (s t : Text) :
    padded (s ++ '\n' :: t) = padded s ++ '\n' :: padded t := by
  rw [padded_append, padded_eq_flatMap t, List.flatMap_cons]
  rfl

theorem padded_concat (h : c ≠ '\n') (t : Text) : padded (t ++ [c]) = padded t ++ [c] := by
  rw [padded_append, List.flatMap_singleton, padFeed, if_neg h]

theorem padded_of_not_mem (h : '\n' ∉ body) : padded body = "    " ++ body := by
  rw [padded, splitAt_of_not_mem h, join, List.map_singleton, List.intercalate_singleton]

theorem indent_eq_padded (h : t.getLast? ≠ some '\n') : indent t = padded t := if_neg h

theorem indent_append_newline (t : Text) : indent (t ++ ['\n']) = padded t ++ ['\n'] := by
  have hlast : (t ++ ['\n']).getLast? = some '\n' := List.getLast?_concat
  have hpadded : padded (t ++ ['\n']) = padded t ++ ['\n'] ++ "    " := by
    rw [padded_append_newline, List.append_assoc]
    rfl
  have hindent : indent (t ++ ['\n']) =
      (padded (t ++ ['\n'])).take ((padded (t ++ ['\n'])).length - 4) := if_pos hlast
  rw [hindent, hpadded]
  exact List.take_left' (by simp)

theorem indent_cases (t : Text) : (t.getLast? ≠ some '\n' ∧ indent t = padded t) ∨
    ∃ init, t = init ++ ['\n'] ∧ indent t = padded init ++ ['\n'] := by
  by_cases h : t.getLast? = some '\n'
  · obtain ⟨init, rfl⟩ := List.getLast?_eq_some_iff.1 h
    exact .inr ⟨init, rfl, indent_append_newline init⟩
  · exact .inl ⟨h, indent_eq_padded h⟩

theorem padded_append_newline_eq_shifted (t : Text) :
    padded t ++ ['\n'] = shifted (t ++ ['\n']) := by
  induction t using line_induction with
  | nil => rfl
  | last body hne hbody =>
    rw [padded_of_not_mem hbody, shifted, lines_line hbody, List.flatMap_singleton,
      List.append_assoc]
  | line body rest hbody ih =>
    have hlines : shifted (body ++ '\n' :: (rest ++ ['\n'])) =
        ("    " ++ (body ++ ['\n'])) ++ shifted (rest ++ ['\n']) := by
      rw [shifted, lines_append_newline hbody, List.flatMap_cons, shifted]
    rw [padded_append_newline, padded_of_not_mem hbody, List.append_assoc, List.cons_append, ih,
      List.append_assoc body, List.cons_append, hlines]
    simp

theorem indent_eq_shifted (t : Text) : indent (t ++ ['\n']) = shifted (t ++ ['\n']) := by
  rw [indent_append_newline, padded_append_newline_eq_shifted]

theorem splitAt_padded (t : Text) :
    (padded t).splitAt '\n' = (t.splitAt '\n').map (("    " : Text) ++ ·) := by
  refine splitAt_join (fun piece hpiece => ?_) (by simpa using splitAt_ne_nil '\n' t)
  obtain ⟨old, hold, rfl⟩ := List.mem_map.1 hpiece
  simpa using not_mem_of_mem_splitAt hold

theorem getLast?_of_splitAt {before : List Text} (h : t.splitAt '\n' = before ++ [[]])
    (hne : before ≠ []) : t.getLast? = some '\n' := by
  have ht := join_splitAt '\n' t
  rw [h, join_concat _ _ hne, List.append_nil] at ht
  rw [← ht, List.getLast?_concat]

/-- Every piece between line feeds gets four spaces before it, but for an empty last one. -/
theorem splitAt_indent (t : Text) : ∃ before last, t.splitAt '\n' = before ++ [last] ∧
    (indent t).splitAt '\n' = before.map (("    " : Text) ++ ·) ++
      [if last = [] ∧ before ≠ [] then [] else ("    " : Text) ++ last] := by
  rcases indent_cases t with ⟨hlast, hindent⟩ | ⟨init, rfl, hindent⟩
  · obtain ⟨before, last, hsplit⟩ :=
      (List.eq_nil_or_concat' (t.splitAt '\n')).resolve_left (splitAt_ne_nil '\n' t)
    have hnot : ¬ (last = [] ∧ before ≠ []) := by
      rintro ⟨rfl, hne⟩
      exact hlast (getLast?_of_splitAt hsplit hne)
    refine ⟨before, last, hsplit, ?_⟩
    rw [hindent, splitAt_padded, hsplit, if_neg hnot, List.map_append, List.map_singleton]
  · have hne : init.splitAt '\n' ≠ [] := splitAt_ne_nil '\n' init
    refine ⟨init.splitAt '\n', [], splitAt_append '\n' init [], ?_⟩
    rw [hindent, splitAt_append, splitAt_padded, if_pos ⟨rfl, hne⟩]
    rfl

@[simp] theorem unpadPiece_append (piece : Text) : unpadPiece ("    " ++ piece) = piece := rfl

@[simp] theorem outdent_indent (t : Text) : outdent (indent t) = t := by
  obtain ⟨before, last, hsplit, hindent⟩ := splitAt_indent t
  have hbefore : (before.map (("    " : Text) ++ ·)).map unpadPiece = before := by
    rw [List.map_map]
    exact (List.map_congr_left fun piece _ => unpadPiece_append piece).trans (List.map_id' before)
  have hlast : unpadPiece (if last = [] ∧ before ≠ [] then [] else "    " ++ last) = last := by
    split
    · rename_i h
      rw [h.1]
      rfl
    · exact unpadPiece_append last
  rw [outdent, hindent, List.map_append, hbefore, List.map_singleton, hlast, ← hsplit]
  exact join_splitAt '\n' t

theorem isBlank_of_mem_padFeeds {blanks : Text} (h : ∀ c ∈ blanks, isBlank c = true) :
    ∀ c ∈ blanks.flatMap padFeed, isBlank c = true := by
  have hfeed : ∀ c ∈ ("\n    " : Text), isBlank c = true := List.all_eq_true.1 rfl
  intro c hc
  obtain ⟨d, hd, hc⟩ := List.mem_flatMap.1 hc
  unfold padFeed at hc
  split at hc
  · exact hfeed c hc
  · rw [List.mem_singleton.1 hc]
    exact h d hd

theorem exists_padded_eq (t : Text) :
    ∃ spaces, padded t = indent t ++ spaces ∧ ∀ c ∈ spaces, isBlank c = true := by
  rcases indent_cases t with ⟨-, hindent⟩ | ⟨init, rfl, hindent⟩
  · exact ⟨[], by rw [hindent, List.append_nil], nofun⟩
  · refine ⟨"    ", ?_, List.all_eq_true.1 rfl⟩
    rw [hindent, padded_append_newline, List.append_assoc]
    rfl

theorem trimEnd_append_indent (s t : Text) :
    trimEnd (s ++ indent t) = trimEnd (s ++ padded (trimEnd t)) := by
  obtain ⟨spaces, hspaces, hblank⟩ := exists_padded_eq t
  obtain ⟨blanks, ht, hblanks⟩ := (stripped_trimEnd t).blanks
  have hpadded : padded t = padded (trimEnd t) ++ blanks.flatMap padFeed := by
    rw [← padded_append, ← ht]
  calc trimEnd (s ++ indent t)
      = trimEnd (s ++ indent t ++ spaces) := (trimEnd_append hblank _).symm
    _ = trimEnd (s ++ padded (trimEnd t) ++ blanks.flatMap padFeed) := by
      rw [List.append_assoc, ← hspaces, hpadded, List.append_assoc]
    _ = trimEnd (s ++ padded (trimEnd t)) := trimEnd_append (isBlank_of_mem_padFeeds hblanks) _

end
end MapLoom
