import MapLoom.Proofs.Files.Path
import MapLoom.Proofs.Project.Runs

set_option autoImplicit false

/-!
# What a run passes over

A run takes its paths from the worklist, and the gate looks for them there again. The gate finds all
but those of entries that start with a single dot: these match no path from the root, so such a file
is passed over as if it were not on the worklist.
-/
namespace MapLoom
open Files (Tree isAbsolute endsWith StartsWithDot)

namespace Config
variable {c : Config} {path rel : Text}

theorem inWorklist_iff (hpath : isAbsolute path = true) : c.inWorklist path = true ↔
    ∃ rel ∈ c.worklist, ¬ StartsWithDot rel ∧ endsWith path rel = true := by
  rw [inWorklist, List.any_eq_true]
  refine exists_congr fun rel => and_congr_right fun _ => ⟨fun hends => ⟨?_, hends⟩, And.right⟩
  intro hdot
  rw [Files.endsWith_eq_false hpath hdot] at hends
  cases hends

theorem isAbsolute_resolve (hroot : isAbsolute c.projectRoot = true) :
    isAbsolute (c.resolve path) = true :=
  Files.isAbsolute_joinPath hroot

theorem inWorklist_resolve (hroot : isAbsolute c.projectRoot = true) (hrel : rel ∈ c.worklist)
    (hdot : ¬ StartsWithDot rel) : c.inWorklist (c.resolve rel) = true :=
  (inWorklist_iff (isAbsolute_resolve hroot)).2
    ⟨rel, hrel, hdot, Files.endsWith_joinPath hroot hdot⟩

end Config

namespace Project
variable {p : Project} {tree current : Tree} {path : Text}

/-- Whether a path is there, is no link, and is not on the worklist. -/
structure PassedOver (p : Project) (tree : Tree) (path : Text) : Prop where
  hasPath : tree.hasPath path = true
  isLink : tree.isLink path = false
  inWorklist : p.config.inWorklist path = false

/-- Whether a path is there, is no link, and is on the worklist. -/
structure Listed (p : Project) (tree : Tree) (path : Text) : Prop where
  hasPath : tree.hasPath path = true
  isLink : tree.isLink path = false
  inWorklist : p.config.inWorklist path = true

theorem gate_eq_skip_notInWorklist_iff :
    p.gate tree path = .ok (.skip .notInWorklist) ↔ p.PassedOver tree path := by
  unfold gate
  constructor
  · intro h
    split at h
    · cases h
    · rename_i hpath
      split at h
      · cases h
      · rename_i hlink
        split at h
        · rename_i hlist
          exact ⟨by simpa using hpath, by simpa using hlink, by simpa using hlist⟩
        · split at h
          · cases h
          · split at h <;> cases h
  · intro h
    simp [h.hasPath, h.isLink, h.inWorklist]

theorem process_eq_notInWorklist_iff :
    (p.process tree path).result = .ok .notInWorklist ↔ p.PassedOver tree path :=
  (process_eq_skip_iff (by simp) (by simp)).trans gate_eq_skip_notInWorklist_iff

theorem passedOver_congr (h : tree.Alike current) :
    p.PassedOver tree path ↔ p.PassedOver current path := by
  constructor
  · intro hover
    exact ⟨h.hasPath_eq path ▸ hover.hasPath, h.isLink_eq path ▸ hover.isLink, hover.inWorklist⟩
  · intro hover
    exact ⟨h.hasPath_eq path ▸ hover.hasPath, h.isLink_eq path ▸ hover.isLink, hover.inWorklist⟩

theorem mem_runPaths_report_iff (halike : tree.Alike current) {paths : List Text}
    {report : List (Text × Outcome)} (h : (p.runPaths current paths).result = .ok report) :
    (path, .notInWorklist) ∈ report ↔ path ∈ paths ∧ p.PassedOver tree path := by
  induction paths generalizing current report with
  | nil =>
    cases h
    simp
  | cons head paths ih =>
    cases hresult : (p.process current head).result with
    | error e =>
      rw [runPaths_cons_error hresult] at h
      cases h
    | ok outcome =>
      rw [runPaths_cons_ok hresult] at h
      dsimp only at h
      cases hrest : (p.runPaths (p.process current head).tree paths).result with
      | error e =>
        rw [hrest] at h
        cases h
      | ok rest =>
        rw [hrest] at h
        cases h
        -- the tree changes along the run, but in nothing that passing over looks at
        have hover : p.PassedOver tree head ↔ outcome = .notInWorklist := by
          rw [passedOver_congr halike, ← process_eq_notInWorklist_iff, hresult, Except.ok.injEq]
        rw [List.mem_cons, ih (halike.trans (process_alike p current head)) hrest, Prod.mk.injEq,
          List.mem_cons, or_and_right]
        refine or_congr_left ?_
        constructor
        · rintro ⟨rfl, houtcome⟩
          exact ⟨rfl, hover.2 houtcome.symm⟩
        · rintro ⟨rfl, hpassed⟩
          exact ⟨rfl, (hover.1 hpassed).symm⟩

/-- In a project with a root, a run passes over its own entries exactly where one starts with a
single dot and no other entry has the file. -/
theorem run_passes_over_dotted (p : Project) (hroot : isAbsolute p.config.projectRoot = true) :
    (∀ path, isAbsolute path = true → (p.config.inWorklist path = true ↔
      ∃ rel ∈ p.config.worklist, ¬ StartsWithDot rel ∧ endsWith path rel = true)) ∧
    (∀ rel ∈ p.config.worklist, ¬ StartsWithDot rel →
      p.config.inWorklist (p.config.resolve rel) = true) ∧
    ∀ tree report, (p.run tree).result = .ok report →
      ∀ path, (path, .notInWorklist) ∈ report ↔
        ∃ rel ∈ p.config.worklist, path = p.config.resolve rel ∧ StartsWithDot rel ∧
          p.PassedOver tree path := by
  refine ⟨fun path => Config.inWorklist_iff, fun rel => Config.inWorklist_resolve hroot, ?_⟩
  intro tree report h path
  rw [mem_runPaths_report_iff (Tree.Alike.refl tree) h, Config.worklistPaths, List.mem_map]
  constructor
  · rintro ⟨⟨rel, hrel, rfl⟩, hover⟩
    refine ⟨rel, hrel, rfl, ?_, hover⟩
    by_contra hdot
    have hlist := Config.inWorklist_resolve hroot hrel hdot
    rw [hover.inWorklist] at hlist
    cases hlist
  · rintro ⟨rel, hrel, rfl, -, hover⟩
    exact ⟨⟨rel, hrel, rfl⟩, hover⟩

def dottedSample : Project :=
  { sample with config := { sample.config with worklist := ["./a"] } }

theorem run_dotted_passes_over :
    isAbsolute dottedSample.config.projectRoot = true ∧
    (dottedSample.run sampleTree).result = .ok [("/./a", .notInWorklist)] ∧
    ∃ rel ∈ dottedSample.config.worklist, "/./a" = dottedSample.config.resolve rel ∧
      StartsWithDot rel ∧ dottedSample.PassedOver sampleTree "/./a" := by
  have hroot : isAbsolute dottedSample.config.projectRoot = true := rfl
  have hrun : (dottedSample.run sampleTree).result = .ok [("/./a", .notInWorklist)] := rfl
  have hover := (run_passes_over_dotted dottedSample hroot).2.2 sampleTree _ hrun "/./a"
  exact ⟨hroot, hrun, hover.1 List.mem_cons_self⟩

/-- The worklist of a project with a root need not have all paths that a run takes from it. -/
theorem not_all_worklist_paths_found :
    ¬ ∀ (p : Project) (tree : Tree) (report : List (Text × Outcome)),
      isAbsolute p.config.projectRoot = true →
      (∀ path ∈ p.config.worklistPaths, p.config.inWorklist path = true) ∧
      ((p.run tree).result = .ok report → ∀ path, (path, .notInWorklist) ∉ report) := by
  intro h
  obtain ⟨-, hrun⟩ := h dottedSample sampleTree [("/./a", .notInWorklist)] rfl
  exact hrun rfl "/./a" List.mem_cons_self

end Project
end MapLoom
