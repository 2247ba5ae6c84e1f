import Mathlib.Data.List.DropRight
import MapLoom.Proofs.Weave.Homogeneous

set_option autoImplicit false

/-!
# What normalizing does to lines

A normalized text has the lines of the text before, each without the blanks at its end, so nothing
changes when it is normalized again. Blank lines at the end of a text stay as empty lines, so a
normalized text ends with one line feed only if the last line of the text before is not blank.
-/
namespace MapLoom
open Text

@[simp] theorem trimEnd_lineBody (line : Text) : trimEnd (lineBody line) = trimEnd line := by
  have hfeed : isBlank '\n' = true := by decide
  have hreturn : isBlank '\r' = true := by decide
  unfold lineBody
  split
  · rename_i body h
    rw [trimEnd, trimEnd, h, List.reverse_reverse]
    simp [hfeed, hreturn]
  · rename_i body _ h
    rw [trimEnd, trimEnd, h, List.reverse_reverse]
    simp [hfeed]
  · rfl

section
variable {t body : Text}

theorem lines_normalize (t : Text) : (normalize t).lines = (trimmedLines t).map (· ++ ['\n']) := by
  rw [normalize_eq_unlines, lines_unlines fun body h => (trimmed_of_mem_trimmedLines h).1]

theorem getElem?_lines_normalize {k : Nat} {line : Text} (h : t.lines[k]? = some line) :
    (normalize t).lines[k]? = some (trimEnd line ++ ['\n']) := by
  have hne : t ≠ [] := by
    rintro rfl
    cases h
  rw [lines_normalize, trimmedLines_of_ne_nil hne, List.getElem?_map, List.getElem?_map, h]
  rfl

theorem length_lines_normalize (t : Text) :
    (normalize t).lines.length = if t = [] then 1 else t.lines.length := by
  rw [lines_normalize, List.length_map]
  split
  · next hnil => rw [hnil]; rfl
  · next hne => rw [trimmedLines_of_ne_nil hne, List.length_map]

@[simp] theorem trimmedLines_normalize (t : Text) : trimmedLines (normalize t) = trimmedLines t := by
  have hne : normalize t ≠ [] := by simp [normalize]
  have hsame : ∀ body ∈ trimmedLines t, trimEnd (body ++ ['\n']) = body := fun body hbody =>
    trimEnd_line (trimmed_of_mem_trimmedLines hbody).2
  rw [trimmedLines_of_ne_nil hne, lines_normalize, List.map_map]
  exact (List.map_congr_left hsame).trans (List.map_id' _)

@[simp] theorem normalize_normalize (t : Text) : normalize (normalize t) = normalize t := by
  rw [normalize_eq_unlines (normalize t), trimmedLines_normalize, normalize_eq_unlines]

/-- A normalized text has the lines of the text before, or one if there are none, each without the
blanks at its end, and it is its own normalized text. -/
theorem normalize_strips_each_line (t : Text) :
    (normalize t).getLast? = some '\n' ∧
    (∀ line ∈ (normalize t).lines, ∃ body, line = body ++ ['\n'] ∧
      ∀ c, body.getLast? = some c → isBlank c = false) ∧
    NoCrBeforeLf (normalize t) ∧
    (normalize t).lines.length = (if t = [] then 1 else t.lines.length) ∧
    normalize [] = ['\n'] ∧
    (∀ (k : Nat) (line : Text), t.lines[k]? = some line → ∃ body, Stripped (lineBody line) body ∧
      (normalize t).lines[k]? = some (body ++ ['\n'])) ∧
    normalize (normalize t) = normalize t := by
  refine ⟨by simp [normalize], fun line hline => ?_, noCrBeforeLf_normalize t,
    length_lines_normalize t, rfl, fun k line hline => ?_, normalize_normalize t⟩
  · rw [lines_normalize] at hline
    obtain ⟨body, hbody, rfl⟩ := List.mem_map.1 hline
    exact ⟨body, rfl, (trimmed_of_mem_trimmedLines hbody).2⟩
  · have hstripped := stripped_trimEnd (lineBody line)
    rw [trimEnd_lineBody] at hstripped
    exact ⟨_, hstripped, getElem?_lines_normalize hline⟩

end

def unevenLines : Text := "a \t\r\n\n\u00a0 \nb\r"

theorem normalize_strips_uneven_lines :
    normalize unevenLines = "a\n\n\nb\n".toList ∧
    (normalize unevenLines).lines.length = 4 ∧
    ("b\n" : Text) ∈ (normalize unevenLines).lines ∧
    (∃ body, ("b\n" : Text) = body ++ ['\n'] ∧ ∀ c, body.getLast? = some c → isBlank c = false) ∧
    unevenLines.lines[0]? = some "a \t\r\n".toList ∧
    (∃ body, Stripped (lineBody "a \t\r\n") body ∧
      (normalize unevenLines).lines[0]? = some (body ++ ['\n'])) ∧
    normalize (normalize unevenLines) = normalize unevenLines := by
  obtain ⟨-, hends, -, hlength, -, hstripped, hagain⟩ := normalize_strips_each_line unevenLines
  have hmem : ("b\n" : Text) ∈ (normalize unevenLines).lines := by decide
  exact ⟨by decide, hlength, hmem, hends _ hmem, rfl, hstripped 0 _ rfl, hagain⟩

namespace Text

/-- The number of line feeds at the end of a text. -/
def endFeeds (t : Text) : Nat := (t.rtakeWhile (· = '\n')).length

/-- The number of lines at the end of a text that hold blanks only. -/
def endBlankLines (t : Text) : Nat := (t.lines.rtakeWhile (·.all isBlank)).length

variable {t : Text}

@[simp] theorem endFeeds_append_newline (t : Text) : endFeeds (t ++ ['\n']) = endFeeds t + 1 := by
  rw [endFeeds, List.rtakeWhile_concat_pos _ _ _ (by simp), List.length_append]
  rfl

theorem endFeeds_concat {c : Char} (h : c ≠ '\n') (t : Text) : endFeeds (t ++ [c]) = 0 := by
  rw [endFeeds, List.rtakeWhile_concat_neg _ _ _ (by simpa using h), List.length_nil]

theorem endsOnce_iff (h : ∃ c ∈ t, c ≠ '\n') : EndsOnce t ↔ endFeeds t = 1 := by
  constructor
  · rintro ⟨body, c, rfl, hc⟩
    rw [List.append_cons, endFeeds_append_newline, endFeeds_concat hc]
  · intro hone
    obtain ⟨d, hd, hne⟩ := h
    rcases List.eq_nil_or_concat' t with rfl | ⟨init, c, rfl⟩
    · cases hd
    by_cases hc : c = '\n'
    · subst hc
      rw [endFeeds_append_newline] at hone
      rcases List.eq_nil_or_concat' init with rfl | ⟨body, e, rfl⟩
      · exact absurd (List.mem_singleton.1 hd) hne
      · refine ⟨body, e, (List.append_cons body e _).symm, ?_⟩
        rintro rfl
        rw [endFeeds_append_newline] at hone
        omega
    · rw [endFeeds_concat hc] at hone
      omega

theorem unlines_concat (bodies : List Text) (body : Text) :
    unlines (bodies ++ [body]) = unlines bodies ++ body ++ ['\n'] := by
  simp [unlines]

/-- The line feeds at the end of lines are those of the last line that is not empty and of the empty
lines after it. -/
theorem endFeeds_unlines {bodies : List Text} (hbodies : ∀ body ∈ bodies, '\n' ∉ body)
    (h : ∃ body ∈ bodies, body ≠ []) :
    endFeeds (unlines bodies) = (bodies.rtakeWhile (·.isEmpty)).length + 1 := by
  -- From the end: an empty line adds its own line feed, and any other line stops both counts.
  induction bodies using List.reverseRecOn with
  | nil =>
    obtain ⟨body, hbody, -⟩ := h
    cases hbody
  | append_singleton bodies last ih =>
    rw [unlines_concat, endFeeds_append_newline]
    rcases List.eq_nil_or_concat' last with rfl | ⟨init, c, rfl⟩
    · have hrest : ∃ body ∈ bodies, body ≠ [] := by
        simpa using h
      have hfeeds := ih (fun body hbody => hbodies body (List.mem_append_left _ hbody)) hrest
      rw [List.append_nil, hfeeds, List.rtakeWhile_concat_pos _ _ _ rfl, List.length_append]
      rfl
    · have hc : c ≠ '\n' := by
        rintro rfl
        exact hbodies (init ++ ['\n']) (by simp) (by simp)
      rw [← List.append_assoc, endFeeds_concat hc, List.rtakeWhile_concat_neg _ _ _ (by simp)]
      rfl

theorem endBlankLines_eq_zero_iff (hne : t ≠ []) :
    endBlankLines t = 0 ↔ ∃ before line, t.lines = before ++ [line] ∧
      ∃ c ∈ line, isBlank c = false := by
  obtain ⟨before, line, hline⟩ := (List.eq_nil_or_concat' t.lines).resolve_left (lines_ne_nil hne)
  unfold endBlankLines
  rw [List.length_eq_zero_iff]
  rw [hline, List.rtakeWhile_concat]
  constructor
  · intro hzero
    refine ⟨before, line, rfl, ?_⟩
    simpa using hzero
  · rintro ⟨before', line', heq, c, hc, hblank⟩
    obtain ⟨rfl, hlast⟩ := List.append_inj' heq rfl
    obtain rfl := List.singleton_inj.1 hlast
    refine if_neg fun hall => ?_
    have hc' := List.all_eq_true.1 hall c hc
    rw [hblank] at hc'
    cases hc'

end Text

section
variable {t : Text}

theorem endBlankLines_eq (hne : t ≠ []) :
    endBlankLines t = ((trimmedLines t).rtakeWhile (·.isEmpty)).length := by
  have hempty : ∀ line : Text, (trimEnd line).isEmpty = line.all isBlank := by
    intro line
    rw [Bool.eq_iff_iff, List.isEmpty_iff, trimEnd_eq_nil_iff, List.all_eq_true]
  rw [endBlankLines, trimmedLines_of_ne_nil hne, List.rtakeWhile, List.rtakeWhile,
    ← List.map_reverse, List.takeWhile_map]
  simp [Function.comp_def, hempty]

theorem exists_trimmed_ne_nil (h : ∃ c ∈ t, isBlank c = false) :
    ∃ body ∈ trimmedLines t, body ≠ [] := by
  obtain ⟨c, hc, hblank⟩ := h
  have htrimmed := trimmedLines_of_ne_nil (List.ne_nil_of_mem hc)
  rw [← flatten_lines t] at hc
  obtain ⟨line, hline, hmem⟩ := List.mem_flatten.1 hc
  refine ⟨trimEnd line, htrimmed ▸ List.mem_map_of_mem hline, fun hnil => ?_⟩
  have hall := trimEnd_eq_nil_iff.1 hnil c hmem
  rw [hblank] at hall
  cases hall

theorem endFeeds_normalize (h : ∃ c ∈ t, isBlank c = false) :
    endFeeds (normalize t) = endBlankLines t + 1 := by
  have hne : t ≠ [] := by
    obtain ⟨c, hc, -⟩ := h
    exact List.ne_nil_of_mem hc
  rw [normalize_eq_unlines, endBlankLines_eq hne]
  exact endFeeds_unlines (fun body hbody => (trimmed_of_mem_trimmedLines hbody).1)
    (exists_trimmed_ne_nil h)

theorem exists_mem_normalize (h : ∃ c ∈ t, isBlank c = false) : ∃ c ∈ normalize t, c ≠ '\n' := by
  obtain ⟨body, hbody, hne⟩ := exists_trimmed_ne_nil h
  obtain ⟨c, rest, rfl⟩ := List.exists_cons_of_ne_nil hne
  refine ⟨c, ?_, ?_⟩
  · rw [normalize_eq_unlines]
    exact List.mem_flatMap.2 ⟨_, hbody, by simp⟩
  · rintro rfl
    exact (trimmed_of_mem_trimmedLines hbody).1 List.mem_cons_self

/-- A normalized text that is not blank ends with a line feed for each blank line at the end of the
text before and one more, so with a single one exactly if the last line is not blank. -/
theorem normalize_ends_once_iff (h : ∃ c ∈ t, isBlank c = false) :
    endFeeds (normalize t) = endBlankLines t + 1 ∧
    (EndsOnce (normalize t) ↔ ∃ before line, t.lines = before ++ [line] ∧
      ∃ c ∈ line, isBlank c = false) := by
  have hfeeds := endFeeds_normalize h
  have hne : t ≠ [] := by
    obtain ⟨c, hc, -⟩ := h
    exact List.ne_nil_of_mem hc
  refine ⟨hfeeds, ?_⟩
  rw [endsOnce_iff (exists_mem_normalize h), hfeeds, ← endBlankLines_eq_zero_iff hne]
  omega

theorem blank_lines_end_text :
    (∃ c ∈ ("x\r\n \t\n\n" : Text), isBlank c = false) ∧
    endBlankLines "x\r\n \t\n\n" = 2 ∧ endFeeds (normalize "x\r\n \t\n\n") = 3 ∧
    ¬ EndsOnce (normalize "x\r\n \t\n\n") ∧
    (∃ c ∈ ("\nx" : Text), isBlank c = false) ∧ EndsOnce (normalize "\nx") := by
  have hlong : ∃ c ∈ ("x\r\n \t\n\n" : Text), isBlank c = false := ⟨'x', by decide, by decide⟩
  have hshort : ∃ c ∈ ("\nx" : Text), isBlank c = false := ⟨'x', by decide, by decide⟩
  obtain ⟨hfeeds, -⟩ := normalize_ends_once_iff hlong
  obtain ⟨-, hlast⟩ := normalize_ends_once_iff hshort
  refine ⟨hlong, rfl, hfeeds, fun hends => ?_, hshort, ?_⟩
  · cases hfeeds.symm.trans ((endsOnce_iff (exists_mem_normalize hlong)).1 hends)
  · exact hlast.2 ⟨[['\n']], "x", rfl, 'x', by decide, by decide⟩

/-- A blank line at the end of a text leaves more than one line feed at the end. -/
theorem not_all_normalized_end_once :
    ¬ ∀ t : Text, (∃ c ∈ t, isBlank c = false) → EndsOnce (normalize t) := by
  intro h
  have hblank : ∃ c ∈ ("x\n\n" : Text), isBlank c = false := ⟨'x', by decide, by decide⟩
  have hone := (endsOnce_iff (exists_mem_normalize hblank)).1 (h _ hblank)
  have htwo : endFeeds (normalize "x\n\n") = 2 := rfl
  cases htwo.symm.trans hone

end

end MapLoom
