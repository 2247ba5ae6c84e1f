import MapLoom.Proofs.Command.Discovery
import MapLoom.Proofs.Command.FullRun
import MapLoom.Proofs.Project.Absolute
import MapLoom.Proofs.Project.Order
import MapLoom.Proofs.Project.Resolution
import MapLoom.Proofs.Schema.Reading

set_option autoImplicit false

/-!
# Files one by one

A project can be processed by a full run, or by one command for each file, which loads the project
anew. Both leave the same tree when the files are different and none of them is what the project is
loaded from.
-/
namespace MapLoom.Command
open Files (Tree Location isAbsolute absolute)
open Project (Apart Awaits DotAtDirectory treeAfter)

/-- Whether a project is loaded from the file that a path leads to. -/
inductive IsSource (s : Surroundings) (tree : Tree) (options : Options) (c : Config) : Text → Prop
  | config {path : Text} (h : configFile? s tree options = some path) : IsSource s tree options c path
  | schema : IsSource s tree options c c.yamlPath
  | template {n : Nat} {tag path : Text} (h : Wins tree (searchDirs tree c.moduleDir) n tag path) :
      IsSource s tree options c path

/-- Whether a project is loaded from the same in another tree. -/
structure SameSources (s : Surroundings) (options : Options) (c : Config) (tree current : Tree) :
    Prop where
  alike : tree.Alike current
  locations : tree.items.map (·.1) = current.items.map (·.1)
  item_eq : ∀ source, IsSource s tree options c source →
    ∀ loc, tree.locate source = .ok loc → tree.item? loc = current.item? loc

section Sources
variable {s : Surroundings} {options : Options} {c : Config} {tree current : Tree} {p : Project}
  {functions : SourceFunctions}

theorem SameSources.refl (tree : Tree) : SameSources s options c tree tree :=
  ⟨Tree.Alike.refl tree, rfl, fun _ _ _ _ => rfl⟩

theorem SameSources.read_eq (h : SameSources s options c tree current) {source : Text}
    (hsource : IsSource s tree options c source) : tree.read source = current.read source :=
  h.alike.read_eq (h.item_eq source hsource)

theorem SameSources.configFile?_eq (h : SameSources s options c tree current) :
    configFile? s tree options = configFile? s current options := by
  unfold configFile?
  cases options.config with
  | some path => rfl
  | none => exact congrArg (List.find? · _) (funext h.alike.isFile_eq)

theorem SameSources.configuration_eq (h : SameSources s options c tree current) :
    configuration s tree options = configuration s current options :=
  configuration_congr h.configFile?_eq fun _ hfile => h.read_eq (.config hfile)

theorem SameSources.load_eq (h : SameSources s options c tree current) :
    Project.load tree c .builtin functions = Project.load current c .builtin functions := by
  have hmap : AddressMap.load tree c.yamlPath c.addressSpace =
      AddressMap.load current c.yamlPath c.addressSpace := by
    rw [AddressMap.load, AddressMap.load, h.read_eq .schema]
  have hshape := Tree.sameShape_of_keys h.alike h.locations
  have hmodules : Modules.load tree c.moduleDir .builtin functions =
      Modules.load current c.moduleDir .builtin functions :=
    Modules.load_sameShape hshape _ _ _ fun n tag path hwins => h.read_eq (.template hwins)
  rw [Project.load, Project.load, hmap, hmodules]

theorem SameSources.process (h : SameSources s options c tree current) {path : Text}
    (hpath : ∀ source, IsSource s tree options c source →
      ∀ loc, ¬ (tree.Names path loc ∧ tree.locate source = .ok loc)) :
    SameSources s options c tree (p.process current path).tree := by
  refine ⟨h.alike.trans (Project.process_alike p current path),
    h.locations.trans (Project.keys_process p current path).symm, fun source hsource loc hloc => ?_⟩
  have hnot : ¬ current.Names path loc := fun hnames =>
    hpath source hsource loc ⟨h.alike.names_iff.2 hnames, hloc⟩
  rw [Project.item?_process_of_not_names hnot]
  exact h.item_eq source hsource loc hloc

end Sources

/-- Whether processing files by one command each succeeds every time, changes nothing but the file
that is named, and ends in a tree. -/
inductive PerformsEach (s : Surroundings) (options : Options) (functions : SourceFunctions) :
    Tree → List Text → Tree → Prop
  | nil (tree : Tree) : PerformsEach s options functions tree [] tree
  | cons {tree final : Tree} {path : Text} {paths : List Text}
      (hcode : (perform s tree options (.generateFile path) functions).code = 0)
      (hframe : ∀ loc, ¬ tree.Names path loc →
        (perform s tree options (.generateFile path) functions).tree.item? loc = tree.item? loc)
      (hrest : PerformsEach s options functions
        (perform s tree options (.generateFile path) functions).tree paths final) :
      PerformsEach s options functions tree (path :: paths) final

section Each
variable {s : Surroundings} {options : Options} {c : Config} {tree current : Tree} {p : Project}
  {functions : SourceFunctions} {path : Text} {paths : List Text}

theorem perform_generateFile (hconfig : configuration s current options = .ok c)
    (hload : Project.load current c .builtin functions = .ok p) (hpath : isAbsolute path = true)
    (hdot : DotAtDirectory current s.cwd path) {outcome : Outcome}
    (hok : (p.process current path).result = .ok outcome) :
    (perform s current options (.generateFile path) functions).code = 0 ∧
      (perform s current options (.generateFile path) functions).tree =
        (p.process current path).tree := by
  obtain ⟨⟨o, hresult⟩, htree⟩ := Project.process_absolute hpath hdot hok
  rw [← htree]
  unfold perform
  rw [hconfig]
  dsimp only
  unfold generateFile prepare
  rw [hload]
  dsimp only
  rw [hresult]
  exact ⟨rfl, rfl⟩

theorem dotAtDirectory_congr (h : tree.Alike current) {cwd : Text}
    (hdot : DotAtDirectory tree cwd path) : DotAtDirectory current cwd path := by
  intro hends loc hnames
  have hitem := hdot hends loc (h.names_iff.2 hnames)
  rcases h.item_cases loc with ⟨ha, -⟩ | ⟨_, _, _, ha, -⟩ | ⟨-, hb⟩ | ⟨_, ha, -⟩
  · rw [ha] at hitem
    cases hitem
  · rw [ha] at hitem
    cases hitem
  · exact hb
  · rw [ha] at hitem
    cases hitem

theorem performsEach_of_awaits (hconfig : configuration s tree options = .ok c)
    (hload : Project.load tree c .builtin functions = .ok p)
    (hsame : SameSources s options c tree current)
    (hawaits : Awaits tree current paths) (hapart : Apart tree paths)
    (hpaths : ∀ path ∈ paths, isAbsolute path = true ∧ DotAtDirectory tree s.cwd path ∧
      (∃ outcome, (p.process tree path).result = .ok outcome) ∧
      ∀ source, IsSource s tree options c source →
        ∀ loc, ¬ (tree.Names path loc ∧ tree.locate source = .ok loc)) :
    PerformsEach s options functions current paths (treeAfter p current paths) := by
  induction paths generalizing current with
  | nil => exact .nil current
  | cons path paths ih =>
    obtain ⟨⟨habs, hdot, ⟨outcome, hok⟩, hsources⟩, hrest⟩ := List.forall_mem_cons.1 hpaths
    rw [hawaits.result_eq p] at hok
    obtain ⟨hcode, htree⟩ := perform_generateFile (hsame.configuration_eq.symm.trans hconfig)
      (hsame.load_eq.symm.trans hload) habs (dotAtDirectory_congr hsame.alike hdot) hok
    refine .cons hcode (fun loc hnot => ?_) ?_
    · rw [htree, Project.item?_process_of_not_names hnot]
    · rw [htree]
      exact ih (hsame.process hsources) (hawaits.step p hapart) hapart.of_cons hrest

theorem isAbsolute_worklistPaths (hcwd : isAbsolute s.cwd = true)
    (hconfig : configuration s tree options = .ok c) :
    ∀ path ∈ c.worklistPaths, isAbsolute path = true := by
  have hroot : isAbsolute c.projectRoot = true := by
    unfold configuration at hconfig
    dsimp only at hconfig
    cases hsettings : settings s tree options (projectRoot s options) with
    | error causes =>
      rw [hsettings] at hconfig
      cases hconfig
    | ok found =>
      rw [hsettings] at hconfig
      cases hconfig
      change isAbsolute (projectRoot s options) = true
      unfold projectRoot
      split
      · exact Files.isAbsolute_absolute (.inl hcwd)
      · exact hcwd
  intro path hpath
  obtain ⟨rel, -, rfl⟩ := List.mem_map.1 hpath
  exact Config.isAbsolute_resolve hroot

theorem exists_outcome_of_run {report : List (Text × Outcome)}
    (hapart : Apart tree p.config.worklistPaths) (hrun : (p.run tree).result = .ok report) :
    ∀ path ∈ p.config.worklistPaths, ∃ outcome, (p.process tree path).result = .ok outcome := by
  have hstart := Awaits.refl tree p.config.worklistPaths
  have hle : p.firstFailure tree p.config.worklistPaths ≤ p.config.worklistPaths.length :=
    List.findIdx_le_length
  have hk : p.firstFailure tree p.config.worklistPaths = p.config.worklistPaths.length := by
    refine Nat.le_antisymm hle (Nat.le_of_not_lt fun hlt => ?_)
    obtain ⟨e, -, herror⟩ := hstart.runPaths_error hapart hlt
    rw [← Project.run, hrun] at herror
    cases herror
  obtain ⟨report, -, hpaths, hentries⟩ := hstart.runPaths_ok hapart hk
  intro path hpath
  rw [← hpaths] at hpath
  obtain ⟨entry, hentry, rfl⟩ := List.mem_map.1 hpath
  exact ⟨entry.2, hentries entry hentry⟩

theorem exists_run_of_code (hconfig : configuration s tree options = .ok c)
    (hcode : (perform s tree options .generateAll functions).code = 0) :
    ∃ p report, Project.load tree c .builtin functions = .ok p ∧ (p.run tree).result = .ok report ∧
      (perform s tree options .generateAll functions).tree = (p.run tree).tree := by
  rw [perform_eq_fullResult] at hcode ⊢
  cases hload : Project.load tree c .builtin functions with
  | error e =>
    simp only [fullResult, hconfig, hload] at hcode
    cases hcode
  | ok p =>
    rw [fullResult_of_load hconfig hload] at hcode ⊢
    unfold runResult at hcode ⊢
    cases hrun : (p.run tree).result with
    | error e =>
      rw [hrun] at hcode
      cases hcode
    | ok report => exact ⟨p, report, rfl, hrun, by simp only [Result.success]⟩

end Each

section Small
variable {tree : Tree} {worklist : Text} {files : List (Location × Files.Item)} {paths : List Text}

/-- What a small project comes to: where its files are, and that it has no templates. -/
structure SmallProject (tree : Tree) (paths : List Text) (c : Config) : Prop where
  config : configuration atRoot tree noOptions = .ok c
  worklistPaths : c.worklistPaths = paths
  yamlPath : c.yamlPath = "/map"
  searchDirs : MapLoom.searchDirs tree c.moduleDir = []

theorem exists_smallProject (h : (configuration atRoot tree noOptions).toOption.any (fun c =>
    decide (c.worklistPaths = paths ∧ c.yamlPath = ("/map" : Text) ∧
      searchDirs tree c.moduleDir = [])) = true) : ∃ c, SmallProject tree paths c := by
  obtain ⟨c, hconfig, hparts⟩ := exists_ok_of_any h
  obtain ⟨hpaths, hyaml, hdirs⟩ := of_decide_eq_true hparts
  exact ⟨c, hconfig, hpaths, hyaml, hdirs⟩

theorem SmallProject.sources {c : Config} (h : SmallProject tree paths c)
    (hfile : configFile? atRoot tree noOptions = some "/.calgen.toml")
    (hlocate : ∀ path ∈ paths, ∀ source ∈ [("/.calgen.toml" : Text), "/map"],
      tree.locate path ≠ tree.locate source) :
    ∀ path ∈ c.worklistPaths, ∀ source, IsSource atRoot tree noOptions c source →
      ∀ loc, ¬ (tree.Names path loc ∧ tree.locate source = .ok loc) := by
  rintro path hpath source hsource loc ⟨hnames, hloc⟩
  rw [h.worklistPaths] at hpath
  have hmem : source ∈ [("/.calgen.toml" : Text), "/map"] := by
    cases hsource with
    | config hsource =>
      rw [hfile] at hsource
      cases hsource
      exact List.mem_cons_self
    | schema =>
      rw [h.yamlPath]
      exact List.mem_cons_of_mem _ List.mem_cons_self
    | template hwins =>
      obtain ⟨⟨dir, hdir, -⟩, -⟩ := hwins
      rw [h.searchDirs] at hdir
      cases hdir
  exact hlocate path hpath source hmem (hnames.2.trans hloc.symm)

end Small

def openBlock : Text := "// Impinj_calgen | gen_calibration_v5_c \x7b\n// Impinj_calgen \x7d\n"

def twoTargets : Tree :=
  smallTree "\"a\", \"./d/.\", \"x\", \"b\""
    [(["a"], .file (.text openBlock) 0o644), (["d"], .directory),
      (["b"], .file (.text openBlock) 0o644)]

end MapLoom.Command
