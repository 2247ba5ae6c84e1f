import MapLoom.Command.Perform
import MapLoom.Proofs.Command.Plain
import MapLoom.Proofs.Project.Worklist

set_option autoImplicit false

/-!
# What a full run tells

A full run takes the files of the worklist one after another and tells about each of them what the
gate finds: that it is absent, that it has no marker, or that it is processed. A banner ends a run
that is through with all files. The lines are printed as they are if no path has a control character.
-/
namespace MapLoom
open Files (Tree)

namespace Project
variable {p : Project} {tree : Tree} {c : Config} {functions : SourceFunctions}

theorem process_events (p : Project) (tree : Tree) (path : Text) : (p.process tree path).events =
    match p.gate tree path with
    | .error _ => []
    | .ok (.skip outcome) => skipEvents path outcome
    | .ok (.pass _) => [.autogenerating path] := by
  unfold process
  cases p.gate tree path with
  | error e => rfl
  | ok g =>
    cases g with
    | skip outcome => rfl
    | pass t =>
      cases hweave : p.weave path t with
      | error e => simp only [hweave]
      | ok result => cases result <;> simp only [hweave]

theorem load_eq_ok_iff : load tree c .builtin functions = .ok p ↔
    ∃ map ms, AddressMap.load tree c.yamlPath c.addressSpace = .ok map ∧
      Modules.load tree c.moduleDir .builtin functions = .ok ms ∧ p = ⟨c, ⟨c.yamlPath, map⟩, ms⟩ := by
  unfold load
  cases AddressMap.load tree c.yamlPath c.addressSpace with
  | error e => simp
  | ok map =>
    cases Modules.load tree c.moduleDir .builtin functions with
    | error e => simp
    | ok ms => simp [eq_comm]

theorem config_eq_of_load (h : load tree c .builtin functions = .ok p) : p.config = c := by
  obtain ⟨map, ms, -, -, rfl⟩ := load_eq_ok_iff.1 h
  rfl

end Project

namespace Command

inductive Notice
  | plain (t : Text)
  | styled (t : Text)

namespace Notice

def text : Notice → Text
  | .plain t => t
  | .styled t => t

def printed : Notice → Text
  | .plain t => line t
  | .styled t => styledLine t

def exact (n : Notice) : Text := n.text ++ "\n"

theorem printed_eq_exact {n : Notice} (h : IsPlain n.text) : n.printed = n.exact := by
  cases n with
  | plain t => exact line_eq h
  | styled t => exact styledLine_eq h

end Notice

def absentNotices (path : Text) : List Notice :=
  [.styled ("! No such file or directory: " ++ path),
    .styled ("Check if the project root directory is set correctly. " ++
      "See 'calgen-ctl --help' for more help.")]

/-- What is told about a file before it is woven. -/
inductive Progress (p : Project) (tree : Tree) (path : Text) : List Notice → Prop
  | absent (hpath : tree.hasPath path = false) : Progress p tree path (absentNotices path)
  | link (hpath : tree.hasPath path = true) (hlink : tree.isLink path = true) :
      Progress p tree path []
  | unlisted (h : p.PassedOver tree path) : Progress p tree path []
  | unreadable {failure : Files.Failure} (h : p.Listed tree path)
      (hread : tree.read path = .error failure) : Progress p tree path []
  | ignored {t : Text} (h : p.Listed tree path) (hread : tree.read path = .ok t)
      (hmarker : hasMarker p.config.sentinel t = false) :
      Progress p tree path [.plain ("Ignoring " ++ path)]
  | passed {t : Text} (h : p.Listed tree path) (hread : tree.read path = .ok t)
      (hmarker : hasMarker p.config.sentinel t = true) :
      Progress p tree path [.plain ("Autogenerating " ++ path)]

/-- Whether files are processed one after another without an error, with what is told. -/
inductive Passes (p : Project) : Tree → List Text → List Notice → Tree → Prop
  | nil (tree : Tree) : Passes p tree [] [] tree
  | cons {tree final : Tree} {path : Text} {paths : List Text} {told rest : List Notice}
      {outcome : Outcome} (hprogress : Progress p tree path told)
      (hresult : (p.process tree path).result = .ok outcome)
      (hrest : Passes p (p.process tree path).tree paths rest final) :
      Passes p tree (path :: paths) (told ++ rest) final

def bannerNotice : Notice := .plain "---------------------CALGEN COMPLETED---------------------"

/-- The four ways in which a full run can end, where each line is written in one way. -/
inductive FullRun (write : Notice → Text) (s : Surroundings) (tree : Tree) (options : Options)
    (functions : SourceFunctions) : Result → Prop
  | unconfigured {causes : List Text} (hconfig : configuration s tree options = .error causes) :
      FullRun write s tree options functions (.failed [] causes tree)
  | unprepared {c : Config} {e : RunError} (hconfig : configuration s tree options = .ok c)
      (hload : Project.load tree c .builtin functions = .error e) :
      FullRun write s tree options functions
        (.failed [] (("failed to prepare CalGen for " ++ c.projectRoot) :: e.causes) tree)
  | stopped {c : Config} {p : Project} {earlier later : List Text} {path : Text}
      {told last : List Notice} {current : Tree} {e : RunError}
      (hconfig : configuration s tree options = .ok c)
      (hload : Project.load tree c .builtin functions = .ok p)
      (hpaths : c.worklistPaths = earlier ++ path :: later)
      (hearlier : Passes p tree earlier told current)
      (hlast : Progress p current path last)
      (herror : (p.process current path).result = .error e) :
      FullRun write s tree options functions
        (.failed ((told ++ last).flatMap write) e.causes current)
  | completed {c : Config} {p : Project} {told : List Notice} {final : Tree}
      (hconfig : configuration s tree options = .ok c)
      (hload : Project.load tree c .builtin functions = .ok p)
      (hall : Passes p tree c.worklistPaths told final) :
      FullRun write s tree options functions
        (.success (told.flatMap write ++ write bannerNotice) final)

section Events
variable {p : Project} {tree current : Tree} {path : Text} {told : List Notice}

def noticesOf : Event → List Notice
  | .autogenerating path => [.plain ("Autogenerating " ++ path)]
  | .ignored path => [.plain ("Ignoring " ++ path)]
  | .missing path => absentNotices path

theorem eventsText_eq (events : List Event) :
    eventsText events = (events.flatMap noticesOf).flatMap Notice.printed := by
  rw [List.flatMap_assoc]
  refine List.flatMap_congr fun e _ => ?_
  cases e with
  | autogenerating path => exact (List.append_nil _).symm
  | ignored path => exact (List.append_nil _).symm
  | missing path =>
    change _ = _ ++ (_ ++ [])
    rw [List.append_nil]
    rfl

theorem Progress.eq (h : Progress p tree path told) :
    told = (p.process tree path).events.flatMap noticesOf := by
  rw [Project.process_events]
  cases h with
  | absent hpath => simp [Project.gate, hpath, Project.skipEvents, noticesOf]
  | link hpath hlink => simp [Project.gate, hpath, hlink, Project.skipEvents]
  | unlisted h =>
    simp [Project.gate, h.hasPath, h.isLink, h.inWorklist, Project.skipEvents]
  | unreadable h hread => simp [Project.gate, h.hasPath, h.isLink, h.inWorklist, hread]
  | ignored h hread hmarker =>
    simp [Project.gate, h.hasPath, h.isLink, h.inWorklist, hread, hmarker, Project.skipEvents,
      noticesOf]
  | passed h hread hmarker =>
    simp [Project.gate, h.hasPath, h.isLink, h.inWorklist, hread, hmarker, noticesOf]

theorem exists_progress (p : Project) (tree : Tree) (path : Text) :
    ∃ told, Progress p tree path told := by
  cases hpath : tree.hasPath path with
  | false => exact ⟨_, .absent hpath⟩
  | true =>
    cases hlink : tree.isLink path with
    | true => exact ⟨_, .link hpath hlink⟩
    | false =>
      cases hlist : p.config.inWorklist path with
      | false => exact ⟨_, .unlisted ⟨hpath, hlink, hlist⟩⟩
      | true =>
        cases hread : tree.read path with
        | error failure => exact ⟨_, .unreadable ⟨hpath, hlink, hlist⟩ hread⟩
        | ok t =>
          cases hmarker : hasMarker p.config.sentinel t with
          | false => exact ⟨_, .ignored ⟨hpath, hlink, hlist⟩ hread hmarker⟩
          | true => exact ⟨_, .passed ⟨hpath, hlink, hlist⟩ hread hmarker⟩

theorem progress_process (p : Project) (tree : Tree) (path : Text) :
    Progress p tree path ((p.process tree path).events.flatMap noticesOf) := by
  obtain ⟨told, h⟩ := exists_progress p tree path
  exact h.eq ▸ h

end Events

section Runs
variable {p : Project} {tree current : Tree} {paths earlier later : List Text} {path : Text}
  {told : List Notice}

theorem Passes.exists_runPaths (h : Passes p tree earlier told current) :
    ∃ report events, events.flatMap noticesOf = told ∧ ∀ later,
      p.runPaths tree (earlier ++ later) =
        ⟨(p.runPaths current later).result.map (report ++ ·),
          events ++ (p.runPaths current later).events, (p.runPaths current later).tree⟩ := by
  induction h with
  | nil tree =>
    refine ⟨[], [], rfl, fun later => ?_⟩
    rw [List.nil_append]
    rcases p.runPaths tree later with ⟨result, events, final⟩
    cases result <;> rfl
  | @cons tree final path paths told rest outcome hprogress hresult hrest ih =>
    obtain ⟨report, events, hevents, hruns⟩ := ih
    refine ⟨(path, outcome) :: report, (p.process tree path).events ++ events, ?_, fun later => ?_⟩
    · rw [List.flatMap_append, hevents, ← hprogress.eq]
    · rw [List.cons_append, Project.runPaths_cons_ok hresult, hruns, List.append_assoc]
      cases (p.runPaths final later).result <;> rfl

theorem passes_runPaths {report : List (Text × Outcome)}
    (h : (p.runPaths tree paths).result = .ok report) :
    Passes p tree paths ((p.runPaths tree paths).events.flatMap noticesOf)
      (p.runPaths tree paths).tree := by
  induction paths generalizing tree report with
  | nil => exact .nil tree
  | cons path paths ih =>
    cases hresult : (p.process tree path).result with
    | error e =>
      rw [Project.runPaths_cons_error hresult] at h
      cases h
    | ok outcome =>
      rw [Project.runPaths_cons_ok hresult] at h ⊢
      dsimp only at h ⊢
      cases hrest : (p.runPaths (p.process tree path).tree paths).result with
      | error e =>
        rw [hrest] at h
        cases h
      | ok rest =>
        rw [List.flatMap_append]
        exact .cons (progress_process p tree path) hresult (ih hrest)

theorem exists_stop {e : RunError} (h : (p.runPaths tree paths).result = .error e) :
    ∃ earlier path later told current, paths = earlier ++ path :: later ∧
      Passes p tree earlier told current ∧ (p.process current path).result = .error e ∧
      (p.runPaths tree paths).events.flatMap noticesOf =
        told ++ (p.process current path).events.flatMap noticesOf ∧
      (p.runPaths tree paths).tree = current := by
  induction paths generalizing tree with
  | nil => cases h
  | cons path paths ih =>
    cases hresult : (p.process tree path).result with
    | error e' =>
      rw [Project.runPaths_cons_error hresult] at h ⊢
      cases h
      exact ⟨[], path, paths, [], tree, rfl, .nil tree, hresult, rfl, rfl⟩
    | ok outcome =>
      rw [Project.runPaths_cons_ok hresult] at h ⊢
      dsimp only at h ⊢
      cases hrest : (p.runPaths (p.process tree path).tree paths).result with
      | ok rest =>
        rw [hrest] at h
        cases h
      | error e' =>
        rw [hrest] at h
        cases h
        obtain ⟨earlier, last, later, told, current, rfl, hpasses, herror, hevents, htree⟩ :=
          ih hrest
        refine ⟨path :: earlier, last, later, _, current, rfl,
          .cons (progress_process p tree path) hresult hpasses, herror, ?_, htree⟩
        rw [List.flatMap_append, hevents, List.append_assoc]

end Runs

section Results
variable {write : Notice → Text} {s : Surroundings} {tree : Tree} {options : Options}
  {functions : SourceFunctions} {r : Result} {c : Config} {p : Project}

/-- The lines of a run, with the banner if it is through with all files. -/
def runNotices (run : Run) : List Notice :=
  run.events.flatMap noticesOf ++
    match run.result with
    | .error _ => []
    | .ok _ => [bannerNotice]

def runResult (write : Notice → Text) (run : Run) : Result :=
  match run.result with
  | .error e => .failed ((runNotices run).flatMap write) e.causes run.tree
  | .ok _ => .success ((runNotices run).flatMap write) run.tree

def fullResult (write : Notice → Text) (s : Surroundings) (tree : Tree) (options : Options)
    (functions : SourceFunctions) : Result :=
  match configuration s tree options with
  | .error causes => .failed [] causes tree
  | .ok c =>
    match Project.load tree c .builtin functions with
    | .error e => .failed [] (("failed to prepare CalGen for " ++ c.projectRoot) :: e.causes) tree
    | .ok p => runResult write (p.run tree)

theorem fullResult_of_load (hconfig : configuration s tree options = .ok c)
    (hload : Project.load tree c .builtin functions = .ok p) :
    fullResult write s tree options functions = runResult write (p.run tree) := by
  simp only [fullResult, hconfig, hload]

theorem perform_eq_fullResult (s : Surroundings) (tree : Tree) (options : Options)
    (functions : SourceFunctions) :
    perform s tree options .generateAll functions =
      fullResult Notice.printed s tree options functions := by
  unfold perform fullResult
  cases configuration s tree options with
  | error causes => rfl
  | ok c =>
    dsimp only
    unfold generateAll prepare
    cases Project.load tree c .builtin functions with
    | error e => rfl
    | ok p =>
      dsimp only
      unfold runResult runNotices
      cases (p.run tree).result with
      | error e => simp only [eventsText_eq, List.append_nil]
      | ok report =>
        simp only [eventsText_eq, List.flatMap_append]
        rfl

theorem Passes.runResult_eq {told : List Notice} {final : Tree}
    (h : Passes p tree p.config.worklistPaths told final) :
    runResult write (p.run tree) =
      .success (told.flatMap write ++ write bannerNotice) final := by
  obtain ⟨report, events, rfl, hruns⟩ := h.exists_runPaths
  have hrun : p.run tree = ⟨.ok report, events, final⟩ := by
    have hnil := hruns []
    rw [List.append_nil] at hnil
    rw [Project.run, hnil, Project.runPaths]
    simp [Except.map]
  rw [hrun, runResult, runNotices]
  simp

theorem Passes.runResult_eq_of_error {earlier later : List Text} {path : Text}
    {told last : List Notice} {current : Tree} {e : RunError}
    (h : Passes p tree earlier told current)
    (hpaths : p.config.worklistPaths = earlier ++ path :: later)
    (hlast : Progress p current path last) (herror : (p.process current path).result = .error e) :
    runResult write (p.run tree) = .failed ((told ++ last).flatMap write) e.causes current := by
  obtain ⟨report, events, rfl, hruns⟩ := h.exists_runPaths
  have hrun : p.run tree =
      ⟨.error e, events ++ (p.process current path).events, current⟩ := by
    rw [Project.run, hpaths, hruns, Project.runPaths_cons_error herror]
    rfl
  rw [hrun, runResult, runNotices, hlast.eq]
  simp

theorem fullRun_iff :
    FullRun write s tree options functions r ↔ r = fullResult write s tree options functions := by
  constructor
  · intro h
    cases h with
    | unconfigured hconfig => simp only [fullResult, hconfig]
    | unprepared hconfig hload => simp only [fullResult, hconfig, hload]
    | stopped hconfig hload hpaths hearlier hlast herror =>
      rw [← Project.config_eq_of_load hload] at hpaths
      rw [fullResult_of_load hconfig hload, hearlier.runResult_eq_of_error hpaths hlast herror]
    | completed hconfig hload hall =>
      rw [← Project.config_eq_of_load hload] at hall
      rw [fullResult_of_load hconfig hload, hall.runResult_eq]
  · rintro rfl
    cases hconfig : configuration s tree options with
    | error causes =>
      simp only [fullResult, hconfig]
      exact .unconfigured hconfig
    | ok c =>
      cases hload : Project.load tree c .builtin functions with
      | error e =>
        simp only [fullResult, hconfig, hload]
        exact .unprepared hconfig hload
      | ok p =>
        have hc := Project.config_eq_of_load hload
        rw [fullResult_of_load hconfig hload]
        cases hrun : (p.run tree).result with
        | error e =>
          obtain ⟨earlier, path, later, told, current, hpaths, hearlier, herror, -⟩ :=
            exists_stop hrun
          have hlast := progress_process p current path
          rw [hearlier.runResult_eq_of_error hpaths hlast herror]
          exact .stopped hconfig hload (hc ▸ hpaths) hearlier hlast herror
        | ok report =>
          have hall := passes_runPaths hrun
          rw [hall.runResult_eq]
          exact .completed hconfig hload (hc ▸ hall)

theorem code_eq_zero_iff : (fullResult write s tree options functions).code = 0 ↔
    ∃ c map ms told final, configuration s tree options = .ok c ∧
      AddressMap.load tree c.yamlPath c.addressSpace = .ok map ∧
      Modules.load tree c.moduleDir .builtin functions = .ok ms ∧
      Passes ⟨c, ⟨c.yamlPath, map⟩, ms⟩ tree c.worklistPaths told final := by
  constructor
  · intro hcode
    have hrun :
        FullRun write s tree options functions (fullResult write s tree options functions) :=
      fullRun_iff.2 rfl
    generalize fullResult write s tree options functions = r at hcode hrun
    cases hrun with
    | unconfigured hconfig => cases hcode
    | unprepared hconfig hload => cases hcode
    | stopped hconfig hload hpaths hearlier hlast herror => cases hcode
    | @completed c p told final hconfig hload hall =>
      obtain ⟨map, ms, hmap, hms, rfl⟩ := Project.load_eq_ok_iff.1 hload
      exact ⟨c, map, ms, told, final, hconfig, hmap, hms, hall⟩
  · rintro ⟨c, map, ms, told, final, hconfig, hmap, hms, hall⟩
    have hload := Project.load_eq_ok_iff.2 ⟨map, ms, hmap, hms, rfl⟩
    rw [← fullRun_iff.1 (.completed hconfig hload hall)]
    rfl

end Results

section Exact
variable {p : Project} {tree final : Tree} {path : Text} {paths : List Text}
  {told : List Notice} {s : Surroundings} {options : Options} {functions : SourceFunctions}

theorem isPlain_append {t u : Text} (ht : IsPlain t) (hu : IsPlain u) : IsPlain (t ++ u) :=
  List.forall_mem_append.2 ⟨ht, hu⟩

theorem Progress.isPlain (h : Progress p tree path told) (hpath : IsPlain path) :
    ∀ n ∈ told, IsPlain n.text := by
  cases h with
  | absent hpath' =>
    refine List.forall_mem_cons.2 ⟨isPlain_append (by decide) hpath, ?_⟩
    exact List.forall_mem_singleton.2 (by decide)
  | link hpath hlink => exact nofun
  | unlisted h => exact nofun
  | unreadable h hread => exact nofun
  | ignored h hread hmarker =>
    exact List.forall_mem_singleton.2 (isPlain_append (by decide) hpath)
  | passed h hread hmarker =>
    exact List.forall_mem_singleton.2 (isPlain_append (by decide) hpath)

theorem Passes.isPlain (h : Passes p tree paths told final)
    (hpaths : ∀ path ∈ paths, IsPlain path) : ∀ n ∈ told, IsPlain n.text := by
  induction h with
  | nil tree => exact nofun
  | cons hprogress hresult hrest ih =>
    obtain ⟨hpath, hpaths⟩ := List.forall_mem_cons.1 hpaths
    exact List.forall_mem_append.2 ⟨hprogress.isPlain hpath, ih hpaths⟩

theorem flatMap_printed (h : ∀ n ∈ told, IsPlain n.text) :
    told.flatMap Notice.printed = told.flatMap Notice.exact :=
  List.flatMap_congr fun n hn => Notice.printed_eq_exact (h n hn)

theorem fullResult_printed (hplain : ∀ c, configuration s tree options = .ok c →
    ∀ path ∈ c.worklistPaths, IsPlain path) :
    fullResult Notice.printed s tree options functions =
      fullResult Notice.exact s tree options functions := by
  refine fullRun_iff.1 ?_
  have hrun : FullRun Notice.printed s tree options functions
      (fullResult Notice.printed s tree options functions) :=
    fullRun_iff.2 rfl
  generalize fullResult Notice.printed s tree options functions = r at hrun
  cases hrun with
  | unconfigured hconfig => exact .unconfigured hconfig
  | unprepared hconfig hload => exact .unprepared hconfig hload
  | stopped hconfig hload hpaths hearlier hlast herror =>
    have hall := hplain _ hconfig
    rw [hpaths, List.forall_mem_append, List.forall_mem_cons] at hall
    rw [flatMap_printed (List.forall_mem_append.2
      ⟨hearlier.isPlain hall.1, hlast.isPlain hall.2.1⟩)]
    exact .stopped hconfig hload hpaths hearlier hlast herror
  | completed hconfig hload hall =>
    have hbanner : bannerNotice.printed = bannerNotice.exact :=
      Notice.printed_eq_exact (by decide)
    rw [flatMap_printed (hall.isPlain (hplain _ hconfig)), hbanner]
    exact .completed hconfig hload hall

end Exact

/-- A full run ends in one of four ways, and with code zero exactly if the configuration, the schema
and the templates are loaded and all files are processed. A line is printed as it is exactly if it has
no control character but those that lay text out, so all lines are if no path of the worklist has. -/
theorem full_run_iff (s : Surroundings) (tree : Tree) (options : Options)
    (functions : SourceFunctions) :
    (∀ r, FullRun Notice.printed s tree options functions r ↔
      r = perform s tree options .generateAll functions) ∧
    ((perform s tree options .generateAll functions).code = 0 ↔ ∃ c map ms told final,
      configuration s tree options = .ok c ∧
      AddressMap.load tree c.yamlPath c.addressSpace = .ok map ∧
      Modules.load tree c.moduleDir .builtin functions = .ok ms ∧
      Passes ⟨c, ⟨c.yamlPath, map⟩, ms⟩ tree c.worklistPaths told final) ∧
    (∀ t, line t = t ++ "\n" ↔ IsPlain t) ∧
    ((∀ c, configuration s tree options = .ok c → ∀ path ∈ c.worklistPaths, IsPlain path) →
      ∀ r, FullRun Notice.exact s tree options functions r ↔
        r = perform s tree options .generateAll functions) := by
  rw [perform_eq_fullResult]
  refine ⟨fun r => fullRun_iff, code_eq_zero_iff, fun t => line_eq_iff, fun hplain r => ?_⟩
  rw [fullResult_printed hplain]
  exact fullRun_iff

def atRoot : Surroundings := ⟨"/", none⟩

def noOptions : Options := ⟨none, none, false⟩

def smallTree (worklist : Text) (files : List (Files.Location × Files.Item)) : Tree where
  items :=
    ([".calgen.toml"],
      .file (.text ("yaml-path = \"map\"\nworklist = [" ++ worklist ++ "]\n")) 0o644) ::
    (["map"], .file (.text "brief: map\nparameters: []\n") 0o644) :: files

def mixedTree : Tree :=
  smallTree "\"a\", \"b\", \"c\""
    [(["a"], .file (.text "x\n") 0o644),
      (["c"], .file (.text "// Impinj_calgen | gen_calibration_v5_h \x7b\n// Impinj_calgen \x7d\n")
        0o644)]

theorem mixed_printed_exactly :
    (∀ c, configuration atRoot mixedTree noOptions = .ok c →
      ∀ path ∈ c.worklistPaths, IsPlain path) ∧
    (perform atRoot mixedTree noOptions .generateAll).code = 0 ∧
    FullRun Notice.exact atRoot mixedTree noOptions (.random 0)
      (perform atRoot mixedTree noOptions .generateAll) := by
  have hplain : (configuration atRoot mixedTree noOptions).toOption.all
      (fun c => decide (∀ path ∈ c.worklistPaths, IsPlain path)) = true := by decide +kernel
  have hpaths : ∀ c, configuration atRoot mixedTree noOptions = .ok c →
      ∀ path ∈ c.worklistPaths, IsPlain path := by
    intro c hc
    rw [hc] at hplain
    exact of_decide_eq_true hplain
  refine ⟨hpaths, by decide +kernel, ?_⟩
  exact ((full_run_iff atRoot mixedTree noOptions (.random 0)).2.2.2 hpaths _).2 rfl

/-- A path with a control character is not printed as it is. -/
theorem not_all_paths_printed_exactly :
    ¬ ∀ (s : Surroundings) (tree : Tree) (options : Options) (functions : SourceFunctions),
      FullRun Notice.exact s tree options functions
        (perform s tree options .generateAll functions) := by
  intro h
  have hrun := fullRun_iff.1
    (h atRoot (smallTree "\"a\\u0007\"" [(["a\x07"], .file (.text "x\n") 0o644)]) noOptions
      (.random 0))
  have hprinted := congrArg Result.printed hrun
  exact absurd hprinted (by decide +kernel)

end Command
end MapLoom
