import MapLoom.Proofs.Project.Runs

set_option autoImplicit false

/-!
# The order of files

Paths that name different files can be processed in any order: processing the one changes nothing
that processing the other reads, and the new texts go to different places.
-/
namespace MapLoom
open Files (Tree Location)

namespace Project
variable {p : Project} {a b tree : Tree} {path other : Text} {paths order : List Text}

/-- In two trees that are alike and have the same file under a path, processing the path leaves both
as they are or puts the same text in both. -/
theorem process_tree_cases (halike : a.Alike b)
    (hitem : ∀ loc, a.Names path loc → a.item? loc = b.item? loc) :
    ((p.process a path).tree = a ∧ (p.process b path).tree = b) ∨
    ∃ loc old mode new, a.Names path loc ∧ a.item? loc = some (.file old mode) ∧
      (p.process a path).tree = a.set loc (.file new mode) ∧
      (p.process b path).tree = b.set loc (.file new mode) := by
  have hgate : p.gate a path = p.gate b path := gate_congr halike fun _ => hitem
  rcases p.process_cases a path with ⟨htree, hresult⟩ |
    ⟨loc, old, mode, n, woven, hnames, hold, hpass, hweave, hprocess⟩
  · rcases p.process_cases b path with ⟨htree', -⟩ |
      ⟨_, _, _, n, _, -, -, -, -, hprocess'⟩
    · exact .inl ⟨htree, htree'⟩
    · refine absurd ?_ (hresult n)
      rw [(process_congr hgate).1, hprocess']
  · have hprocess' := process_of_weave (halike.names_iff.1 hnames)
      (hitem loc hnames ▸ hold) (hgate ▸ hpass) hweave
    exact .inr ⟨loc, _, mode, _, hnames, hold, by rw [hprocess], by rw [hprocess']⟩

theorem process_comm (hapart : ∀ loc, ¬ (tree.Names path loc ∧ tree.Names other loc)) :
    (p.process (p.process tree path).tree other).tree =
      (p.process (p.process tree other).tree path).tree := by
  have hfirst := process_tree_cases (p := p) (process_alike p tree other) fun loc hpath =>
    (item?_process_of_not_names fun hother => hapart loc ⟨hpath, hother⟩).symm
  have hsecond := process_tree_cases (p := p) (process_alike p tree path) fun loc hother =>
    (item?_process_of_not_names fun hpath => hapart loc ⟨hpath, hother⟩).symm
  rcases hfirst with ⟨hpath, hpath'⟩ | ⟨k, _, _, _, hpathNames, hk, hpath, hpath'⟩
  · rcases hsecond with ⟨hother, hother'⟩ | ⟨l, _, _, _, -, -, hother, hother'⟩
    · rw [hpath', hother', hpath, hother]
    · rw [hpath', hother', hpath, hother]
  · rcases hsecond with ⟨hother, hother'⟩ | ⟨l, _, _, _, hotherNames, hl, hother, hother'⟩
    · rw [hpath', hother', hpath, hother]
    · have hne : k ≠ l := by
        rintro rfl
        exact hapart k ⟨hpathNames, hotherNames⟩
      rw [hpath', hother', hpath, hother, Tree.set_comm hne hk hl]

theorem apart_congr (halike : a.Alike b) (h : Apart a paths) : Apart b paths :=
  h.imp fun hnot loc hnames => hnot loc ⟨halike.names_iff.2 hnames.1, halike.names_iff.2 hnames.2⟩

theorem Apart.perm (h : Apart tree paths) (hperm : paths.Perm order) : Apart tree order :=
  (hperm.pairwise_iff fun hnot loc hnames => hnot loc ⟨hnames.2, hnames.1⟩).1 h

/-- The tree after paths are processed one after another, whatever they come to. -/
def treeAfter (p : Project) : Tree → List Text → Tree
  | tree, [] => tree
  | tree, path :: paths => treeAfter p (p.process tree path).tree paths

theorem treeAfter_perm (hapart : Apart tree paths) (hperm : paths.Perm order) :
    treeAfter p tree paths = treeAfter p tree order := by
  induction hperm generalizing tree with
  | nil => rfl
  | cons path _ ih => exact ih (apart_congr (process_alike p tree path) hapart.of_cons)
  | swap path other paths =>
    have hpair := List.rel_of_pairwise_cons hapart List.mem_cons_self
    change treeAfter p (p.process (p.process tree other).tree path).tree paths = _
    rw [process_comm hpair]
    rfl
  | trans hfirst _ ih ih' => exact (ih hapart).trans (ih' (hapart.perm hfirst))

theorem runPaths_tree_of_ok {report : List (Text × Outcome)}
    (h : (p.runPaths tree paths).result = .ok report) :
    (p.runPaths tree paths).tree = treeAfter p tree paths := by
  induction paths generalizing tree report with
  | nil => rfl
  | cons path paths ih =>
    cases hresult : (p.process tree path).result with
    | error e =>
      rw [runPaths_cons_error hresult] at h
      cases h
    | ok outcome =>
      rw [runPaths_cons_ok hresult] at h ⊢
      dsimp only at h ⊢
      cases hrest : (p.runPaths (p.process tree path).tree paths).result with
      | error e =>
        rw [hrest] at h
        cases h
      | ok rest => exact ih hrest

end Project
end MapLoom
