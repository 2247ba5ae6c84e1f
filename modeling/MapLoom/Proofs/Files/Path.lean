import MapLoom.Files.Path
import MapLoom.Proofs.Text.Pieces

set_option autoImplicit false

/-!
# Paths under a directory

A path that is taken under a directory has the names of the directory and then its own. It ends with
the path itself, with one exception: a single dot that a relative path starts with is a component,
and is none any more under the directory.
-/
namespace MapLoom

namespace Files
variable {dir path last : Text}

/-- The names of a path that are no single dots. -/
def plainNames (path : Text) : List Text := (pathNames path).filter (· ≠ ".")

theorem pathNames_append (s t : Text) : pathNames (s ++ '/' :: t) = pathNames s ++ pathNames t := by
  simp only [pathNames, Text.splitAt_append, List.filter_append]

theorem pathNames_joinPath (h : isAbsolute path = false) :
    pathNames (joinPath dir path) = pathNames dir ++ pathNames path := by
  unfold joinPath
  rw [h, if_neg Bool.false_ne_true]
  split
  · rename_i hdir
    rcases hdir with rfl | hslash
    · rfl
    · obtain ⟨start, rfl⟩ := List.getLast?_eq_some_iff.1 hslash
      rw [List.append_assoc, List.singleton_append, pathNames_append, pathNames_append]
      simp [pathNames, Text.splitAt]
  · rw [pathNames_append]

theorem isAbsolute_joinPath (h : isAbsolute dir = true) :
    isAbsolute (joinPath dir path) = true := by
  unfold joinPath
  split
  · assumption
  · obtain ⟨rest, rfl⟩ : ∃ rest, dir = '/' :: rest := by
      simpa [isAbsolute, List.head?_eq_some_iff] using h
    split <;> rfl

def StartsWithDot (path : Text) : Prop :=
  isAbsolute path = false ∧ (pathNames path).head? = some ("." : Text)

instance (path : Text) : Decidable (StartsWithDot path) := inferInstanceAs (Decidable (_ ∧ _))

theorem components_of_isAbsolute (h : isAbsolute path = true) :
    components path = ("/" : Text) :: plainNames path := by
  unfold components
  rw [if_pos h]
  rfl

theorem components_of_relative (h : isAbsolute path = false) (hdot : ¬ StartsWithDot path) :
    components path = plainNames path := by
  unfold components plainNames
  rw [h, if_neg Bool.false_ne_true]
  cases hnames : pathNames path with
  | nil => rfl
  | cons name names =>
    have hname : name ≠ "." := by
      rintro rfl
      exact hdot ⟨h, by rw [hnames, List.head?_cons]⟩
    rw [List.filter_cons_of_pos (by simpa using hname)]

theorem endsWith_joinPath (hdir : isAbsolute dir = true) (hdot : ¬ StartsWithDot path) :
    endsWith (joinPath dir path) path = true := by
  rw [endsWith, List.isSuffixOf_iff_suffix]
  cases h : isAbsolute path with
  | true =>
    have hself : joinPath dir path = path := if_pos h
    exact hself.symm ▸ List.suffix_rfl
  | false =>
    rw [components_of_isAbsolute (isAbsolute_joinPath hdir), components_of_relative h hdot,
      plainNames, plainNames, pathNames_joinPath h, List.filter_append]
    exact List.suffix_append (_ :: _) _

theorem endsWith_eq_false (hpath : isAbsolute path = true) (hdot : StartsWithDot last) :
    endsWith path last = false := by
  obtain ⟨hlast, hhead⟩ := hdot
  obtain ⟨names, hnames⟩ := List.head?_eq_some_iff.1 hhead
  have hmem : (".".toList : Text) ∈ components last := by
    unfold components
    rw [hlast, if_neg Bool.false_ne_true, hnames]
    exact List.mem_cons_self
  rw [Bool.eq_false_iff, ne_eq, endsWith, List.isSuffixOf_iff_suffix]
  intro hsuffix
  have hmem' := hsuffix.mem hmem
  rw [components_of_isAbsolute hpath, plainNames] at hmem'
  simp at hmem'

end Files
end MapLoom
