import Mathlib.Data.List.DropRight
import MapLoom.Text.Blank

set_option autoImplicit false

/-!
# Trimmed texts

Trimming takes the blanks around a text and keeps a text whose ends are not blank.
-/
namespace MapLoom.Text

theorem trimStart_append {before : Text} (h : ∀ c ∈ before, isBlank c = true) (t : Text) :
    trimStart (before ++ t) = trimStart t :=
  List.dropWhile_append_of_pos h

theorem trimEnd_append {after : Text} (h : ∀ c ∈ after, isBlank c = true) (t : Text) :
    trimEnd (t ++ after) = trimEnd t := by
  have hrev : ∀ c ∈ after.reverse, isBlank c = true := fun c hc => h c (List.mem_reverse.1 hc)
  rw [trimEnd, List.reverse_append, List.dropWhile_append_of_pos hrev, trimEnd]

theorem trimStart_eq_self {t : Text} (h : ∀ c ∈ t.head?, isBlank c = false) :
    trimStart t = t := by
  cases t with
  | nil => rfl
  | cons c t =>
    have hc := h c rfl
    rw [trimStart, List.dropWhile_cons_of_neg (by simp [hc])]

theorem trimEnd_eq_self {t : Text} (h : ∀ c ∈ t.getLast?, isBlank c = false) :
    trimEnd t = t := by
  have hrev := trimStart_eq_self (t := t.reverse) fun c hc => h c (by rwa [← List.head?_reverse])
  rw [trimStart] at hrev
  rw [trimEnd, hrev, List.reverse_reverse]

@[simp] theorem trimEnd_append_newline (t : Text) : trimEnd (t ++ ['\n']) = trimEnd t :=
  trimEnd_append (List.forall_mem_singleton.2 rfl) t

theorem trimEnd_line {body : Text} (h : ∀ c ∈ body.getLast?, isBlank c = false) :
    trimEnd (body ++ ['\n']) = body := by
  rw [trimEnd_append_newline, trimEnd_eq_self h]

theorem ne_newline_of_not_isBlank {c : Char} (h : isBlank c = false) : c ≠ '\n' := by
  rintro rfl
  exact absurd h (by decide)

theorem trim_padded {before t after : Text} (hb : ∀ c ∈ before, isBlank c = true)
    (ha : ∀ c ∈ after, isBlank c = true) (hne : t ≠ [])
    (hhead : ∀ c ∈ t.head?, isBlank c = false)
    (hlast : ∀ c ∈ t.getLast?, isBlank c = false) :
    trim (before ++ (t ++ after)) = t := by
  have hstart : ∀ c ∈ (t ++ after).head?, isBlank c = false := by
    intro c hc
    cases t with
    | nil => exact absurd rfl hne
    | cons d t => exact hhead c hc
  rw [trim, trimStart_append hb, trimStart_eq_self hstart, trimEnd_append ha,
    trimEnd_eq_self hlast]

theorem trimEnd_isPrefix (t : Text) : trimEnd t <+: t := by
  rw [trimEnd, ← List.reverse_suffix, List.reverse_reverse]
  exact List.dropWhile_suffix isBlank

theorem not_isBlank_of_getLast?_trimEnd {t : Text} {c : Char} (h : (trimEnd t).getLast? = some c) :
    isBlank c = false := by
  rw [trimEnd, List.getLast?_reverse] at h
  have hhead := List.head?_dropWhile_not isBlank t.reverse
  rwa [h] at hhead

theorem trimEnd_eq_nil_iff {t : Text} : trimEnd t = [] ↔ ∀ c ∈ t, isBlank c = true :=
  List.rdropWhile_eq_nil_iff

/-- Whether a text is what is left of another one without the blanks at its end. -/
structure Stripped (t rest : Text) : Prop where
  blanks : ∃ blanks, t = rest ++ blanks ∧ ∀ c ∈ blanks, isBlank c = true
  last : ∀ c, rest.getLast? = some c → isBlank c = false

theorem stripped_trimEnd (t : Text) : Stripped t (trimEnd t) where
  blanks := ⟨t.rtakeWhile isBlank, List.rdropWhile_append_rtakeWhile.symm,
    fun _ => List.mem_rtakeWhile_imp⟩
  last _ := not_isBlank_of_getLast?_trimEnd

theorem getLast?_trimEnd_line (body : Text) {c : Char} (hc : isBlank c = false) :
    (trimEnd (body ++ [c, '\n'])).getLast? = some c := by
  have hnewline : isBlank '\n' = true := by decide
  simp [trimEnd, hnewline, hc]

end MapLoom.Text
