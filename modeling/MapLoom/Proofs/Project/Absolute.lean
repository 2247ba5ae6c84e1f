import MapLoom.Proofs.Files.Dots
import MapLoom.Proofs.Project.Worklist

set_option autoImplicit false

/-!
# Processing a path that is made absolute

A path without its single dots names the same file and ends with the same entries of the worklist.
So processing it makes the same of the tree, unless the dot at the end of the path kept it from
naming a file.
-/
namespace MapLoom
open Files (Tree Location isAbsolute absolute EndsInDot)

namespace Project
variable {p : Project} {tree : Tree} {path other cwd : Text} {outcome : Outcome}

theorem ne_nil_of_isAbsolute (h : isAbsolute path = true) : path ≠ [] := by
  rintro rfl
  cases h

theorem inWorklist_absolute (h : isAbsolute path = true) :
    p.config.inWorklist (absolute cwd path) = p.config.inWorklist path := by
  unfold Config.inWorklist
  congr 1
  funext last
  rw [Files.endsWith, Files.endsWith, Files.components_absolute h]

/-- Where two paths lead to the same place, processing comes to the same, but for the path in an
error. -/
theorem process_eq_of_locate_eq (hlocate : tree.locate other = tree.locate path)
    (hlink : tree.isLink other = tree.isLink path)
    (hlist : p.config.inWorklist other = p.config.inWorklist path)
    (hok : (p.process tree path).result = .ok outcome) :
    (p.process tree other).result = .ok outcome ∧
      (p.process tree other).tree = (p.process tree path).tree := by
  have hpath : tree.hasPath other = tree.hasPath path := by
    rw [Tree.hasPath, Tree.hasPath, Tree.find?, Tree.find?, hlocate]
  have hread : tree.read other = tree.read path := by
    rw [Tree.read, Tree.read, hlocate]
  have hgate : ∀ {g}, p.gate tree path = .ok g → p.gate tree other = .ok g := by
    intro g hg
    unfold gate at hg ⊢
    rw [hpath, hlink, hlist, hread]
    cases hr : tree.read path with
    | ok t => rwa [hr] at hg
    | error failure =>
      rw [hr] at hg
      split_ifs at hg ⊢ <;> exact hg
  unfold process at hok ⊢
  cases hg : p.gate tree path with
  | error e =>
    rw [hg] at hok
    cases hok
  | ok g =>
    rw [hg] at hok
    rw [hgate hg]
    cases g with
    | skip o => exact ⟨hok, rfl⟩
    | pass t =>
      dsimp only at hok ⊢
      cases hweave : p.weave path t with
      | error e =>
        rw [hweave] at hok
        cases hok
      | ok result =>
        rw [hweave] at hok
        rw [weave_ok_congr hweave other]
        cases result with
        | none => exact ⟨hok, rfl⟩
        | some result =>
          refine ⟨hok, ?_⟩
          simp only [Tree.store_eq_write, Tree.write, hlocate]

/-- Whether the file that a path would name without a dot at its end is a directory, if it would
name one. -/
def DotAtDirectory (tree : Tree) (cwd path : Text) : Prop :=
  EndsInDot path → ∀ loc, tree.Names (absolute cwd path) loc → tree.item? loc = some .directory

section Directory
variable (h : ∀ loc, tree.Names path loc → tree.item? loc = some .directory)
include h

theorem process_tree_of_directory : (p.process tree path).tree = tree := by
  rcases p.process_cases tree path with ⟨htree, -⟩ | ⟨loc, _, _, _, _, hnames, hitem, -⟩
  · exact htree
  · rw [h loc hnames] at hitem
    cases hitem

theorem process_error_iff_of_directory : (∃ e, (p.process tree path).result = .error e) ↔
    p.config.inWorklist path = true ∧ ∃ loc, tree.Names path loc := by
  unfold process gate
  by_cases hpath : tree.hasPath path = true
  · by_cases hlink : tree.isLink path = true
    · have hnot : ¬ ∃ loc, tree.Names path loc := by
        rintro ⟨loc, hlink', -⟩
        rw [hlink] at hlink'
        cases hlink'
      simp [hpath, hlink, hnot]
    · by_cases hlist : p.config.inWorklist path = true
      · rw [Bool.not_eq_true] at hlink
        cases hlocate : tree.locate path with
        | error failure => simp [Tree.hasPath, Tree.find?, hlocate] at hpath
        | ok loc =>
          have hnames : tree.Names path loc := ⟨hlink, hlocate⟩
          have hread : tree.read path = .error .isDirectory := by
            simp only [Tree.read, hlocate, h loc hnames]
          have hexists : ∃ loc, tree.Names path loc := ⟨loc, hnames⟩
          simp [hpath, hlink, hlist, hread, hexists]
      · simp [hpath, hlink, hlist]
  · have hnot : ¬ ∃ loc, tree.Names path loc := by
      rintro ⟨loc, hnames⟩
      refine hpath ?_
      simp only [Tree.hasPath, Tree.find?, hnames.2, h loc hnames, Option.isSome_some]
    simp [hpath, hnot]

end Directory

/-- A path that is processed without an error can be processed as well when it is made absolute,
and comes to the same tree. -/
theorem process_absolute (hpath : isAbsolute path = true)
    (hdot : DotAtDirectory tree cwd path) (hok : (p.process tree path).result = .ok outcome) :
    (∃ o, (p.process tree (absolute cwd path)).result = .ok o) ∧
      (p.process tree (absolute cwd path)).tree = (p.process tree path).tree := by
  have hne := ne_nil_of_isAbsolute hpath
  have hne' : absolute cwd path ≠ [] := ne_nil_of_isAbsolute (Files.isAbsolute_absolute (.inr hpath))
  rcases Files.dotless_steps_absolute cwd hpath with hsteps | ⟨hends, hsteps⟩
  · have hsame := process_eq_of_locate_eq (p := p) (Tree.locate_eq_of_dotless hne' hne hsteps)
      (Tree.isLink_eq_of_dotless hsteps) (inWorklist_absolute hpath) hok
    exact ⟨⟨_, hsame.1⟩, hsame.2⟩
  · have hother := hdot hends
    have hself : ∀ loc, tree.Names path loc → tree.item? loc = some .directory :=
      fun loc hnames => ((Tree.locate_eq_ok_iff_of_dot hne hne' hsteps).1 hnames.2).2
    refine ⟨?_, (process_tree_of_directory hother).trans (process_tree_of_directory hself).symm⟩
    cases hresult : (p.process tree (absolute cwd path)).result with
    | ok o => exact ⟨o, rfl⟩
    | error e =>
      -- then the path with its dot names the same directory, and fails as well
      obtain ⟨hlist, loc, hnames⟩ := (process_error_iff_of_directory hother).1 ⟨e, hresult⟩
      rw [inWorklist_absolute hpath] at hlist
      have hnames' : tree.Names path loc := ⟨Tree.isLink_eq_false_of_dot hsteps,
        (Tree.locate_eq_ok_iff_of_dot hne hne' hsteps).2 ⟨hnames.2, hother loc hnames⟩⟩
      obtain ⟨e', herror⟩ := (process_error_iff_of_directory hself).2 ⟨hlist, loc, hnames'⟩
      rw [hok] at herror
      cases herror

end Project
end MapLoom
