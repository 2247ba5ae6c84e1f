import MapLoom.Proofs.Project.Process

set_option autoImplicit false

/-!
# Runs over files that are apart

Processing depends on the file that a path names and on nothing else that a run changes. So a run
over paths that name different files does to each of them what processing it alone does, up to the
first one that fails.
-/
namespace MapLoom
open Files (Tree Location)

namespace Project
variable {p : Project} {a b tree : Tree} {path : Text}

theorem process_alike (p : Project) (tree : Tree) (path : Text) :
    tree.Alike (p.process tree path).tree := by
  rcases p.process_cases tree path with ⟨htree, -⟩ |
    ⟨loc, old, mode, n, woven, -, hitem, -, -, hprocess⟩
  · rw [htree]
    exact Tree.Alike.refl tree
  · rw [hprocess]
    exact Tree.alike_set hitem _

@[simp] theorem keys_process (p : Project) (tree : Tree) (path : Text) :
    (p.process tree path).tree.items.map (·.1) = tree.items.map (·.1) := by
  rcases p.process_cases tree path with ⟨htree, -⟩ |
    ⟨loc, old, mode, n, woven, -, hitem, -, -, hprocess⟩
  · rw [htree]
  · rw [hprocess]
    exact Tree.keys_set (Tree.ne_nil_of_file hitem) (by simp [hitem]) _

theorem item?_process_of_not_names {loc : Location} (h : ¬ tree.Names path loc) :
    (p.process tree path).tree.item? loc = tree.item? loc := by
  rcases p.process_cases tree path with ⟨htree, -⟩ |
    ⟨l, old, mode, n, woven, hnames, hitem, -, -, hprocess⟩
  · rw [htree]
  · have hne : loc ≠ l := by
      rintro rfl
      exact h hnames
    rw [hprocess, Tree.item?_set_of_ne (Tree.ne_nil_of_file hitem) hne]

theorem process_tree_of_error {e : RunError} (h : (p.process tree path).result = .error e) :
    (p.process tree path).tree = tree := by
  rcases p.process_cases tree path with ⟨htree, -⟩ | ⟨_, _, _, _, _, -, -, -, -, hprocess⟩
  · exact htree
  · rw [hprocess] at h
    cases h

/-- The gate depends on the file that is named, and on that only for paths on the worklist. -/
theorem gate_congr (h : a.Alike b) (hitem : p.config.inWorklist path = true →
    ∀ loc, a.Names path loc → a.item? loc = b.item? loc) :
    p.gate a path = p.gate b path := by
  unfold gate
  rw [h.hasPath_eq, h.isLink_eq]
  split
  · rfl
  · split
    · rfl
    · rename_i hlink
      split
      · rfl
      · rename_i hlist
        have hread : a.read path = b.read path := h.read_eq fun loc hloc =>
          hitem (by simpa using hlist) loc ⟨by simpa [h.isLink_eq] using hlink, hloc⟩
        rw [hread]

theorem process_congr (h : p.gate a path = p.gate b path) :
    (p.process a path).result = (p.process b path).result ∧
    (p.process a path).events = (p.process b path).events := by
  unfold process
  rw [h]
  cases p.gate b path with
  | error e => exact ⟨rfl, rfl⟩
  | ok g =>
    cases g with
    | skip outcome => exact ⟨rfl, rfl⟩
    | pass t => cases hweave : p.weave path t with
      | error e => simp only [hweave, and_self]
      | ok result => cases result <;> simp only [hweave, and_self]

theorem item?_process_congr (h : a.Alike b) {loc : Location} (hnames : a.Names path loc)
    (hitem : a.item? loc = b.item? loc) :
    (p.process a path).tree.item? loc = (p.process b path).tree.item? loc := by
  have hgate : p.gate a path = p.gate b path := gate_congr h fun _ l hl => by
    cases hnames.2.symm.trans hl.2
    exact hitem
  unfold process
  rw [hgate]
  cases p.gate b path with
  | error e => exact hitem
  | ok g =>
    cases g with
    | skip outcome => exact hitem
    | pass t =>
      cases hweave : p.weave path t with
      | error e => simpa only [hweave] using hitem
      | ok result =>
        cases result with
        | none => simpa only [hweave] using hitem
        | some result =>
          simpa only [hweave, Tree.store_eq_write] using h.item?_write hnames.2 hitem result.2

/-- Whether paths name different files. -/
def Apart (tree : Tree) (paths : List Text) : Prop :=
  paths.Pairwise fun first second => ∀ loc, ¬ (tree.Names first loc ∧ tree.Names second loc)

theorem apart_of_nodup_locate {paths : List Text} (h : (paths.map tree.locate).Nodup) :
    Apart tree paths :=
  (List.pairwise_map.1 h).imp fun hne _ hnames => hne (hnames.1.2.trans hnames.2.2.symm)

/-- The place of the first path that fails when it is processed alone. -/
def firstFailure (p : Project) (tree : Tree) (paths : List Text) : Nat :=
  paths.findIdx fun path => !(p.process tree path).result.isOk

/-- Whether the paths that are still to be processed name the same files in another tree. -/
structure Awaits (tree current : Tree) (paths : List Text) : Prop where
  alike : tree.Alike current
  item_eq : ∀ path ∈ paths, ∀ loc, tree.Names path loc → tree.item? loc = current.item? loc

section
variable {current : Tree} {paths : List Text}

theorem Awaits.refl (tree : Tree) (paths : List Text) : Awaits tree tree paths :=
  ⟨Tree.Alike.refl tree, fun _ _ _ _ => rfl⟩

theorem Awaits.result_eq (p : Project) (h : Awaits tree current (path :: paths)) :
    (p.process tree path).result = (p.process current path).result :=
  (process_congr (gate_congr h.alike fun _ => h.item_eq path List.mem_cons_self)).1

theorem Awaits.step (p : Project) (h : Awaits tree current (path :: paths))
    (hapart : Apart tree (path :: paths)) :
    Awaits tree (p.process current path).tree paths := by
  refine ⟨h.alike.trans (process_alike p current path), fun other hother loc hnames => ?_⟩
  have hnot : ¬ current.Names path loc := fun hpath =>
    List.rel_of_pairwise_cons hapart hother loc ⟨h.alike.names_iff.2 hpath, hnames⟩
  rw [item?_process_of_not_names hnot]
  exact h.item_eq other (List.mem_cons_of_mem _ hother) loc hnames

theorem firstFailure_cons_error {e : RunError} (h : (p.process tree path).result = .error e) :
    p.firstFailure tree (path :: paths) = 0 := by
  simp [firstFailure, List.findIdx_cons, h, Except.isOk, Except.toBool]

theorem firstFailure_cons_ok {outcome : Outcome}
    (h : (p.process tree path).result = .ok outcome) :
    p.firstFailure tree (path :: paths) = p.firstFailure tree paths + 1 := by
  simp [firstFailure, List.findIdx_cons, h, Except.isOk, Except.toBool]

theorem runPaths_cons_error {e : RunError} (h : (p.process tree path).result = .error e) :
    p.runPaths tree (path :: paths) = ⟨.error e, (p.process tree path).events, tree⟩ := by
  rw [runPaths, h]
  simp only [process_tree_of_error h]

theorem runPaths_cons_ok {outcome : Outcome} (h : (p.process tree path).result = .ok outcome) :
    p.runPaths tree (path :: paths) =
      ⟨(p.runPaths (p.process tree path).tree paths).result.map ((path, outcome) :: ·),
        (p.process tree path).events ++ (p.runPaths (p.process tree path).tree paths).events,
        (p.runPaths (p.process tree path).tree paths).tree⟩ := by
  rw [runPaths, h]

end

theorem runPaths_preserves {P : Tree → Prop}
    (step : ∀ tree path, P tree → P (p.process tree path).tree) (paths : List Text)
    (h : P tree) : P (p.runPaths tree paths).tree := by
  induction paths generalizing tree with
  | nil => exact h
  | cons path paths ih =>
    cases hresult : (p.process tree path).result with
    | error e =>
      rw [runPaths_cons_error hresult]
      exact h
    | ok outcome =>
      rw [runPaths_cons_ok hresult]
      exact ih (step tree path h)

theorem runPaths_alike (p : Project) (tree : Tree) (paths : List Text) :
    tree.Alike (p.runPaths tree paths).tree :=
  runPaths_preserves (fun current path h => h.trans (process_alike p current path)) paths
    (Tree.Alike.refl tree)

@[simp] theorem keys_runPaths (p : Project) (tree : Tree) (paths : List Text) :
    (p.runPaths tree paths).tree.items.map (·.1) = tree.items.map (·.1) :=
  runPaths_preserves (P := fun current => current.items.map (·.1) = tree.items.map (·.1))
    (fun current path h => (keys_process p current path).trans h) paths rfl

section
variable {current : Tree} {paths : List Text}

theorem Awaits.item?_runPaths_of_not_names (h : Awaits tree current paths)
    (hapart : Apart tree paths) {loc : Location}
    (hnot : ∀ path ∈ paths.take (p.firstFailure tree paths), ¬ tree.Names path loc) :
    (p.runPaths current paths).tree.item? loc = current.item? loc := by
  induction paths generalizing current with
  | nil => rfl
  | cons path paths ih =>
    have hsame := h.result_eq p
    cases hresult : (p.process tree path).result with
    | error e => rw [runPaths_cons_error (hsame ▸ hresult)]
    | ok outcome =>
      rw [firstFailure_cons_ok hresult, List.take_succ_cons] at hnot
      have hhead : ¬ current.Names path loc := fun hnames =>
        hnot path List.mem_cons_self (h.alike.names_iff.2 hnames)
      have hrest := ih (h.step p hapart) hapart.of_cons
        fun other hother => hnot other (List.mem_cons_of_mem _ hother)
      rw [runPaths_cons_ok (hsame ▸ hresult)]
      exact hrest.trans (item?_process_of_not_names hhead)

theorem Awaits.item?_runPaths_of_names (h : Awaits tree current paths)
    (hapart : Apart tree paths) {loc : Location}
    (hmem : path ∈ paths.take (p.firstFailure tree paths)) (hnames : tree.Names path loc) :
    (p.runPaths current paths).tree.item? loc = (p.process tree path).tree.item? loc := by
  induction paths generalizing current with
  | nil => simp at hmem
  | cons head paths ih =>
    have hsame := h.result_eq p
    cases hresult : (p.process tree head).result with
    | error e => simp [firstFailure_cons_error hresult] at hmem
    | ok outcome =>
      rw [firstFailure_cons_ok hresult, List.take_succ_cons] at hmem
      rw [runPaths_cons_ok (hsame ▸ hresult)]
      rcases List.mem_cons.1 hmem with rfl | hmem
      · -- the file gets its text here, and no path after this one names it
        have hnot : ∀ other ∈ paths.take (p.firstFailure tree paths), ¬ tree.Names other loc :=
          fun other hother hother' =>
            List.rel_of_pairwise_cons hapart (List.mem_of_mem_take hother) loc ⟨hnames, hother'⟩
        have hrest := (h.step p hapart).item?_runPaths_of_not_names hapart.of_cons hnot
        have hhead := h.item_eq _ List.mem_cons_self loc hnames
        exact hrest.trans (item?_process_congr h.alike hnames hhead).symm
      · exact ih (h.step p hapart) hapart.of_cons hmem

theorem Awaits.runPaths_error (h : Awaits tree current paths) (hapart : Apart tree paths)
    (hk : p.firstFailure tree paths < paths.length) :
    ∃ e, (p.process tree paths[p.firstFailure tree paths]).result = .error e ∧
      (p.runPaths current paths).result = .error e := by
  induction paths generalizing current with
  | nil => simp at hk
  | cons path paths ih =>
    have hsame := h.result_eq p
    cases hresult : (p.process tree path).result with
    | error e =>
      have hzero : p.firstFailure tree (path :: paths) = 0 := firstFailure_cons_error hresult
      refine ⟨e, ?_, by rw [runPaths_cons_error (hsame ▸ hresult)]⟩
      simpa only [hzero, List.getElem_cons_zero] using hresult
    | ok outcome =>
      have hcount : p.firstFailure tree (path :: paths) = p.firstFailure tree paths + 1 :=
        firstFailure_cons_ok hresult
      rw [hcount, List.length_cons] at hk
      obtain ⟨e, hfails, hrest⟩ := ih (h.step p hapart) hapart.of_cons (Nat.lt_of_succ_lt_succ hk)
      refine ⟨e, by simpa only [hcount, List.getElem_cons_succ] using hfails, ?_⟩
      rw [runPaths_cons_ok (hsame ▸ hresult), hrest]
      rfl

theorem Awaits.runPaths_ok (h : Awaits tree current paths) (hapart : Apart tree paths)
    (hk : p.firstFailure tree paths = paths.length) :
    ∃ report, (p.runPaths current paths).result = .ok report ∧ report.map (·.1) = paths ∧
      ∀ entry ∈ report, (p.process tree entry.1).result = .ok entry.2 := by
  induction paths generalizing current with
  | nil => exact ⟨[], rfl, rfl, by simp⟩
  | cons path paths ih =>
    have hsame := h.result_eq p
    cases hresult : (p.process tree path).result with
    | error e => simp [firstFailure_cons_error hresult] at hk
    | ok outcome =>
      rw [firstFailure_cons_ok hresult, List.length_cons] at hk
      obtain ⟨report, hrest, hpaths, hentries⟩ :=
        ih (h.step p hapart) hapart.of_cons (Nat.succ.inj hk)
      refine ⟨(path, outcome) :: report, ?_, by rw [List.map_cons, hpaths], ?_⟩
      · rw [runPaths_cons_ok (hsame ▸ hresult), hrest]
        rfl
      · simpa using ⟨hresult, fun _ _ => hentries (_, _)⟩

end

/-- What a run does when it takes paths up to the `k`-th one, each as if it were alone. -/
structure StopsAt (p : Project) (tree : Tree) (paths : List Text) (k : Nat) (run : Run) :
    Prop where
  before : ∀ path ∈ paths.take k, tree.isLink path = false →
    run.tree.find? path = (p.process tree path).tree.find? path
  after : ∀ path ∈ paths.drop k, tree.isLink path = false →
    run.tree.find? path = tree.find? path
  others : ∀ loc, (∀ path ∈ paths.take k, ¬ tree.Names path loc) →
    run.tree.item? loc = tree.item? loc
  alike : tree.Alike run.tree
  locations : run.tree.items.map (·.1) = tree.items.map (·.1)
  error : ∀ h : k < paths.length, ∃ e, (p.process tree paths[k]).result = .error e ∧
    run.result = .error e
  report : k = paths.length → ∃ report, run.result = .ok report ∧ report.map (·.1) = paths ∧
    ∀ entry ∈ report, (p.process tree entry.1).result = .ok entry.2

/-- A run over paths that name different files does with each path before the first failure what
processing it alone does, and leaves everything else. -/
theorem run_stops_at_first_failure (p : Project) (tree : Tree)
    (h : Apart tree p.config.worklistPaths) :
    p.StopsAt tree p.config.worklistPaths (p.firstFailure tree p.config.worklistPaths)
      (p.run tree) ∧
    ∀ path e, (p.process tree path).result = .error e → (p.process tree path).tree = tree := by
  have hstart := Awaits.refl tree p.config.worklistPaths
  have halike := runPaths_alike p tree p.config.worklistPaths
  refine ⟨⟨?_, ?_, ?_, halike, keys_runPaths p tree _, hstart.runPaths_error h,
    hstart.runPaths_ok h⟩, fun path e => process_tree_of_error⟩
  · intro path hmem hlink
    have hprocess := process_alike p tree path
    refine (Tree.Alike.find?_eq (hprocess.symm.trans halike) ?_ fun loc hnames => ?_).symm
    · rw [← hprocess.isLink_eq, hlink]
    · exact (hstart.item?_runPaths_of_names h hmem (hprocess.names_iff.2 hnames)).symm
  · intro path hmem hlink
    refine (halike.find?_eq hlink fun loc hnames => ?_).symm
    refine (hstart.item?_runPaths_of_not_names h fun other hother hother' => ?_).symm
    have hsplit := List.take_append_drop (p.firstFailure tree p.config.worklistPaths)
      p.config.worklistPaths
    have hpair := h
    rw [← hsplit, Apart, List.pairwise_append] at hpair
    exact hpair.2.2 other hother path hmem loc ⟨hother', hnames⟩
  · exact fun loc hnot => hstart.item?_runPaths_of_not_names h hnot

theorem run_sample_stops_at_second :
    Apart sampleTree sample.config.worklistPaths ∧
    sample.firstFailure sampleTree sample.config.worklistPaths = 1 ∧
    sample.StopsAt sampleTree sample.config.worklistPaths 1 (sample.run sampleTree) := by
  have hapart : Apart sampleTree sample.config.worklistPaths := by
    have hlocate : sample.config.worklistPaths.map sampleTree.locate =
        [.ok ["a"], .ok ["b"], .ok ["c"]] := rfl
    apply apart_of_nodup_locate
    rw [hlocate]
    simp
  have hfirst : sample.firstFailure sampleTree sample.config.worklistPaths = 1 := rfl
  have h := (run_stops_at_first_failure sample sampleTree hapart).1
  rw [hfirst] at h
  exact ⟨hapart, hfirst, h⟩

end Project
end MapLoom
