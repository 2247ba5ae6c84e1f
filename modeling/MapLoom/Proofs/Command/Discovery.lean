import MapLoom.Command.Perform
import MapLoom.Proofs.Project.Overlay

set_option autoImplicit false

/-!
# Where the configuration comes from

One file decides the configuration: the one that is named, or the first of three places that holds a
regular file. A named file must be usable, and one that was found and is not counts as none at all.
No other file makes a difference.
-/
namespace MapLoom.Command
open Files (Tree isAbsolute)

def configFile? (s : Surroundings) (tree : Tree) (options : Options) : Option Text :=
  match options.config with
  | some path => some (Files.joinPath s.cwd path)
  | none => (configPaths s (projectRoot s options)).find? tree.isFile

/-- Whether a path is that of the configuration file: the one that is named, or the first place that
holds a regular file. -/
inductive IsConfigFile (s : Surroundings) (tree : Tree) (options : Options) : Text → Prop
  | named {path : Text} (hname : options.config = some path) :
      IsConfigFile s tree options (Files.joinPath s.cwd path)
  | found {path : Text} {higher lower : List Text} (hnone : options.config = none)
      (hpaths : configPaths s (projectRoot s options) = higher ++ path :: lower)
      (hhigher : ∀ other ∈ higher, tree.isFile other = false) (hfile : tree.isFile path = true) :
      IsConfigFile s tree options path

inductive Unusable (tree : Tree) (path : Text) : Prop
  | unreadable {failure : Files.Failure} (hread : tree.read path = .error failure)
  | malformed {t : Text} (hread : tree.read path = .ok t) (hsettings : Settings.ofText? t = none)

def HoldsSettings (tree : Tree) (path : Text) (found : Settings) : Prop :=
  ∃ t, tree.read path = .ok t ∧ Settings.ofText? t = some found

def fileSettings? (tree : Tree) (path : Text) : Option Settings :=
  (tree.read path).toOption.bind Settings.ofText?

section
variable {s : Surroundings} {options : Options} {tree current : Tree} {path : Text}
  {found : Settings}

theorem configFile?_eq_some_iff :
    configFile? s tree options = some path ↔ IsConfigFile s tree options path := by
  unfold configFile?
  constructor
  · intro h
    cases hconfig : options.config with
    | some name =>
      rw [hconfig] at h
      cases h
      exact .named hconfig
    | none =>
      rw [hconfig] at h
      obtain ⟨hfile, higher, lower, hpaths, hhigher⟩ := List.find?_eq_some_iff_append.1 h
      exact .found hconfig hpaths (fun other hother => by simpa using hhigher other hother) hfile
  · intro h
    cases h with
    | named hname => rw [hname]
    | found hnone hpaths hhigher hfile =>
      rw [hnone]
      refine List.find?_eq_some_iff_append.2 ⟨hfile, _, _, hpaths, fun other hother => ?_⟩
      rw [hhigher other hother]
      rfl

theorem IsConfigFile.unique {other : Text} (h : IsConfigFile s tree options path)
    (hother : IsConfigFile s tree options other) : path = other :=
  Option.some.inj ((configFile?_eq_some_iff.2 h).symm.trans (configFile?_eq_some_iff.2 hother))

theorem fileSettings?_of_holds (h : HoldsSettings tree path found) :
    fileSettings? tree path = some found := by
  obtain ⟨t, hread, hsettings⟩ := h
  rw [fileSettings?, hread]
  exact hsettings

theorem fileSettings?_of_unusable (h : Unusable tree path) : fileSettings? tree path = none := by
  unfold fileSettings?
  cases h with
  | unreadable hread => rw [hread]; rfl
  | malformed hread hsettings => rw [hread]; exact hsettings

theorem namedSettings_of_holds (h : HoldsSettings tree (Files.joinPath s.cwd path) found) :
    namedSettings s tree path = .ok found := by
  obtain ⟨t, hread, hsettings⟩ := h
  simp only [namedSettings, hread, hsettings]

theorem namedSettings_of_unusable (h : Unusable tree (Files.joinPath s.cwd path)) :
    ∃ causes, namedSettings s tree path = .error causes := by
  cases h with
  | unreadable hread => exact ⟨_, by rw [namedSettings, hread]⟩
  | malformed hread hsettings => exact ⟨_, by simp only [namedSettings, hread, hsettings]; rfl⟩

theorem settings_of_none (hnone : options.config = none) :
    settings s tree options (projectRoot s options) =
      .ok (((configFile? s tree options).bind (fileSettings? tree)).getD .none) := by
  unfold settings configFile? discoveredSettings
  rw [hnone]
  dsimp only
  cases (configPaths s (projectRoot s options)).find? tree.isFile with
  | none => rfl
  | some path =>
    dsimp only [Option.bind_some, fileSettings?]
    cases tree.read path <;> rfl

theorem configuration_congr (hfile : configFile? s tree options = configFile? s current options)
    (hread : ∀ path, configFile? s tree options = some path → tree.read path = current.read path) :
    configuration s tree options = configuration s current options := by
  have hsettings : settings s tree options (projectRoot s options) =
      settings s current options (projectRoot s options) := by
    cases hoption : options.config with
    | some name =>
      have hpath : configFile? s tree options = some (Files.joinPath s.cwd name) := by
        rw [configFile?, hoption]
      unfold settings
      rw [hoption]
      dsimp only
      rw [namedSettings, namedSettings, hread _ hpath]
    | none =>
      rw [settings_of_none hoption, settings_of_none hoption, ← hfile]
      cases hpath : configFile? s tree options with
      | none => rfl
      | some path => simp only [Option.bind_some, fileSettings?, hread path hpath]
  rw [configuration, configuration, hsettings]

theorem configuration_of_settings
    (h : settings s tree options (projectRoot s options) = .ok found) :
    configuration s tree options = .ok (found.apply s.home (.forRoot (projectRoot s options))) := by
  rw [configuration, h]
  rfl

theorem configuration_of_holds (hfile : IsConfigFile s tree options path)
    (h : HoldsSettings tree path found) :
    configuration s tree options = .ok (found.apply s.home (.forRoot (projectRoot s options))) := by
  refine configuration_of_settings ?_
  cases hfile with
  | named hname =>
    rw [settings, hname]
    exact namedSettings_of_holds h
  | found hnone hpaths hhigher hfile =>
    have hpath := configFile?_eq_some_iff.2 (.found hnone hpaths hhigher hfile)
    rw [settings_of_none hnone, hpath, Option.bind_some, fileSettings?_of_holds h, Option.getD_some]

/-- A file that was found and cannot be used is as good as none. -/
theorem configuration_of_unused (hnone : options.config = none)
    (h : ∀ path, IsConfigFile s tree options path → Unusable tree path) :
    configuration s tree options = .ok (.forRoot (projectRoot s options)) := by
  have hsettings : (configFile? s tree options).bind (fileSettings? tree) = none := by
    cases hpath : configFile? s tree options with
    | none => rfl
    | some path => exact fileSettings?_of_unusable (h path (configFile?_eq_some_iff.1 hpath))
  rw [configuration_of_settings (settings_of_none hnone), hsettings, Option.getD_none,
    Settings.apply_none]

theorem configuration_of_unusable {name : Text} (hname : options.config = some name)
    (h : Unusable tree (Files.joinPath s.cwd name)) :
    ∃ causes, configuration s tree options = .error causes := by
  obtain ⟨causes, hsettings⟩ := namedSettings_of_unusable h
  refine ⟨causes, ?_⟩
  rw [configuration, settings, hname]
  dsimp only
  rw [hsettings]
  rfl

theorem perform_of_error {causes : List Text} (h : configuration s tree options = .error causes)
    (task : Task) (functions : SourceFunctions) :
    perform s tree options task functions = .failed [] causes tree := by
  rw [perform, h]

end

/-- The configuration depends on one file only. If that file was named and cannot be used, the
command fails and changes nothing; if it was found and cannot be used, the configuration is that
without a file. What a usable file sets is laid over the defaults, key by key. -/
theorem configuration_from_one_file (s : Surroundings) (options : Options) :
    (∀ tree current path, IsConfigFile s tree options path → IsConfigFile s current options path →
      tree.read path = current.read path →
        configuration s tree options = configuration s current options) ∧
    (∀ tree name, options.config = some name → Unusable tree (Files.joinPath s.cwd name) →
      ∀ task functions, (perform s tree options task functions).code ≠ 0 ∧
        (perform s tree options task functions).tree = tree) ∧
    (∀ tree current path, options.config = none → IsConfigFile s tree options path →
      Unusable tree path → (∀ other, ¬ IsConfigFile s current options other) →
        configuration s tree options = configuration s current options ∧
        configuration s current options = .ok (.forRoot (projectRoot s options))) ∧
    (∀ tree path found, IsConfigFile s tree options path → HoldsSettings tree path found →
      configuration s tree options =
        .ok (found.apply s.home (.forRoot (projectRoot s options)))) ∧
    (∀ (settings : Settings) home, settings.LiesOver home) ∧
    (∀ entries others settings changed k, Settings.ofTable? entries = some settings →
      Settings.ofTable? others = some changed → entries.lookup k.text = others.lookup k.text →
        settings.SameAt changed k) := by
  refine ⟨fun tree current path hfile hcurrent hread => ?_,
    fun tree name hname h task functions => ?_, fun tree current path hnone hfile h hno => ?_,
    fun _ _ _ hfile hholds => configuration_of_holds hfile hholds,
    fun settings home => settings.liesOver home,
    fun _ _ _ _ _ => Settings.sameAt_of_lookup_eq⟩
  · have hpath := configFile?_eq_some_iff.2 hfile
    refine configuration_congr (hpath.trans (configFile?_eq_some_iff.2 hcurrent).symm)
      fun other hother => ?_
    obtain rfl := hfile.unique (configFile?_eq_some_iff.1 hother)
    exact hread
  · obtain ⟨causes, hcauses⟩ := configuration_of_unusable hname h
    rw [perform_of_error hcauses]
    exact ⟨Nat.one_ne_zero, rfl⟩
  · have hunused := configuration_of_unused hnone fun other hother => by
      obtain rfl := hfile.unique hother
      exact h
    have hdefault := configuration_of_unused hnone fun other hother => absurd hother (hno other)
    exact ⟨hunused.trans hdefault.symm, hdefault⟩

def betweenPlaces : Surroundings := ⟨"/w", some "/h"⟩

def atProject : Options := ⟨some "/p", none, false⟩

def twoPlaces (second third : Text) : Tree where
  items :=
    [(["p"], .directory), (["w"], .directory),
      (["w", ".calgen.toml"], .file (.text second) 0o644), (["h"], .directory),
      (["h", ".config"], .directory),
      (["h", ".config", "calgen.toml"], .file (.text third) 0o644)]

theorem read_twoPlaces (second third : Text) :
    (twoPlaces second third).read "/w/.calgen.toml" = .ok second := rfl

theorem isConfigFile_twoPlaces (second third : Text) :
    IsConfigFile betweenPlaces (twoPlaces second third) atProject "/w/.calgen.toml" := by
  refine configFile?_eq_some_iff.1 ?_
  rfl

theorem not_isConfigFile_empty (path : Text) :
    ¬ IsConfigFile betweenPlaces ⟨[]⟩ atProject path := by
  intro h
  cases configFile?_eq_some_iff.2 h

def markedText : Text := "sentinel = \"a\"\nmodule-dir = \"~/m\"\n"

def markedSettings : Settings := { Settings.none with moduleDir := some "~/m", sentinel := some "a" }

theorem second_place_decides :
    configuration betweenPlaces (twoPlaces markedText "sentinel = \"b\"\n") atProject =
      configuration betweenPlaces (twoPlaces markedText "sentinel = [") atProject ∧
    (perform betweenPlaces ⟨[]⟩ ⟨none, some "c", false⟩ .generateAll).code ≠ 0 ∧
    configuration betweenPlaces (twoPlaces "sentinel = [" markedText) atProject =
      configuration betweenPlaces ⟨[]⟩ atProject ∧
    configuration betweenPlaces (twoPlaces markedText []) atProject =
      .ok (markedSettings.apply (some "/h") (.forRoot "/p")) ∧
    isAbsolute (markedSettings.apply (some "/h") (.forRoot "/p")).moduleDir = true ∧
    markedSettings.SameAt { Settings.none with sentinel := some "a" } .sentinel := by
  have found := configuration_from_one_file betweenPlaces atProject
  have named := configuration_from_one_file betweenPlaces ⟨none, some "c", false⟩
  have hfile := isConfigFile_twoPlaces
  refine ⟨?agree, ?fails, ?malformed, ?usable, ?absolute, ?key⟩
  case agree => exact found.1 _ _ _ (hfile _ _) (hfile _ _) rfl
  case fails => exact (named.2.1 ⟨[]⟩ "c" rfl (.unreadable rfl) .generateAll (.random 0)).1
  case malformed =>
    exact (found.2.2.1 _ ⟨[]⟩ _ rfl (hfile _ _)
      (.malformed (read_twoPlaces _ _) (by decide +kernel)) not_isConfigFile_empty).1
  case usable =>
    exact found.2.2.2.1 _ _ _ (hfile _ _) ⟨markedText, read_twoPlaces _ _, by decide +kernel⟩
  case absolute => exact ((found.2.2.2.2.1 markedSettings (some "/h")).absolute "/p" rfl).1
  case key =>
    exact found.2.2.2.2.2 [("sentinel", .text "a"), ("module-dir", .text "~/m")]
      [("sentinel", .text "a")] _ _ .sentinel rfl rfl rfl

end MapLoom.Command
