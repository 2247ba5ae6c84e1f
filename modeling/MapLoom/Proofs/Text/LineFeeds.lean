import Mathlib.Data.List.Basic
import MapLoom.Proofs.Text.Lines

set_option autoImplicit false

/-!
# What stands before line feeds

A property of what stands right before each line feed of a text can be told line by line, as long as
it makes no difference to it whether a line feed stands there or nothing at all.
-/
namespace MapLoom.Text

/-- Whether what stands right before each line feed of a text, if anything does, has a property. -/
def BeforeLf (P : Option Char → Prop) (t : Text) : Prop :=
  ∀ before after, t = before ++ '\n' :: after → P before.getLast?

/-- Whether a text ends with a line feed and has something else before that. -/
def EndsOnce (t : Text) : Prop := ∃ body c, t = body ++ [c, '\n'] ∧ c ≠ '\n'

variable {P : Option Char → Prop} {t body : Text}

theorem beforeLf_of_not_mem (h : '\n' ∉ t) : BeforeLf P t := by
  rintro before after rfl
  exact absurd (by simp) h

theorem beforeLf_append_newline (hP : P none ↔ P (some '\n')) (h : '\n' ∉ body) (rest : Text) :
    BeforeLf P (body ++ '\n' :: rest) ↔ P body.getLast? ∧ BeforeLf P rest := by
  have hsame : ∀ k : Text, P (body ++ '\n' :: k).getLast? ↔ P k.getLast? := by
    intro k
    rw [List.getLast?_append_cons]
    cases k with
    | nil => exact hP.symm
    | cons c k => rw [List.getLast?_cons_cons]
  constructor
  · refine fun hlong => ⟨hlong body rest rfl, ?_⟩
    rintro before after rfl
    exact (hsame before).1 (hlong _ after (by simp))
  · rintro ⟨hbody, hrest⟩ before after he
    rcases List.append_eq_append_iff.1 he with ⟨k, rfl, hk⟩ | ⟨k, rfl, hk⟩
    · cases k with
      | nil => simpa using hbody
      | cons c k =>
        obtain ⟨rfl, rfl⟩ := List.cons.inj hk
        exact (hsame k).2 (hrest k after rfl)
    · cases k with
      | nil => simpa using hbody
      | cons c k =>
        -- the line feed would be one of the first line
        obtain ⟨rfl, -⟩ := List.cons.inj hk
        exact absurd (by simp) h

theorem beforeLf_line (hP : P none ↔ P (some '\n')) (h : '\n' ∉ body) :
    BeforeLf P (body ++ ['\n']) ↔ P body.getLast? := by
  rw [beforeLf_append_newline hP h]
  exact and_iff_left (beforeLf_of_not_mem List.not_mem_nil)

theorem beforeLf_iff_lines (hP : P none ↔ P (some '\n')) (t : Text) :
    BeforeLf P t ↔ ∀ line ∈ t.lines, BeforeLf P line := by
  induction t using line_induction with
  | nil => exact iff_of_true (beforeLf_of_not_mem List.not_mem_nil) nofun
  | last body hne hbody => rw [lines_of_not_mem hbody hne, List.forall_mem_singleton]
  | line body rest hbody ih =>
    rw [lines_append_newline hbody, List.forall_mem_cons, ← ih, beforeLf_line hP hbody,
      beforeLf_append_newline hP hbody]

theorem beforeLf_unlines (hP : P none ↔ P (some '\n')) {bodies : List Text}
    (h : ∀ body ∈ bodies, '\n' ∉ body ∧ P body.getLast?) : BeforeLf P (unlines bodies) := by
  induction bodies with
  | nil => exact beforeLf_of_not_mem List.not_mem_nil
  | cons body bodies ih =>
    obtain ⟨⟨hbody, hlast⟩, hrest⟩ := List.forall_mem_cons.1 h
    rw [unlines, List.flatMap_cons, List.append_assoc, List.singleton_append,
      beforeLf_append_newline hP hbody]
    exact ⟨hlast, ih hrest⟩

end MapLoom.Text
