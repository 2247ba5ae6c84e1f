import MapLoom.Command.Arguments
import MapLoom.Command.Plain
import MapLoom.Project.Run
import MapLoom.Project.Settings
import MapLoom.Schema.Listing

set_option autoImplicit false

/-!
# Performing a command

A command sees a file tree, its working directory and the home directory. It comes to an exit code,
what it prints, the messages of the error that stopped it, and the tree it leaves.
-/
namespace MapLoom.Command
open Files (Tree)

structure Surroundings where
  cwd : Text
  home : Option Text

structure Result where
  code : Nat
  printed : Text
  /-- The error and its causes, from the outside in. -/
  failure : Option (List Text)
  tree : Tree

namespace Result

def success (printed : Text) (tree : Tree) : Result := ⟨0, printed, none, tree⟩

def failed (printed : Text) (causes : List Text) (tree : Tree) : Result :=
  ⟨1, printed, some causes, tree⟩

def errorText (r : Result) : Option Text :=
  r.failure.map fun causes => styledLine ("✗ " ++ Text.join ": " causes)

end Result

def eventText : Event → Text
  | .autogenerating path => line ("Autogenerating " ++ path)
  | .ignored path => line ("Ignoring " ++ path)
  | .missing path =>
    styledLine ("! No such file or directory: " ++ path) ++
      styledLine ("Check if the project root directory is set correctly. " ++
        "See 'calgen-ctl --help' for more help.")

def eventsText (events : List Event) : Text := events.flatMap eventText

def outcomeText (path : Text) : Outcome → Text
  | .generated blocks => styledLine ("✓ Regenerated " ++ Text.ofNat blocks ++ " block(s)")
  | .unclosed =>
    styledLine ("! " ++ path ++ " has a CalGen block without an end marker; file left unchanged")
  | .notInWorklist => styledLine ("! " ++ path ++ " is not on the CalGen worklist")
  | .symlink => styledLine ("Skipping symlink " ++ path)
  | .ignored => []
  | .missing => []

def banner : Text := line "---------------------CALGEN COMPLETED---------------------"

def configName : Text := ".calgen.toml"

def configPaths (s : Surroundings) (root : Text) : List Text :=
  [Files.joinPath root configName, Files.joinPath s.cwd configName] ++
    match s.home with
    | some home =>
      [Files.joinPath s.cwd (Files.joinPath (Files.joinPath home ".config") "calgen.toml")]
    | none => []

/-- The settings of the first configuration file that is there; one that cannot be used counts as
empty. -/
def discoveredSettings (s : Surroundings) (tree : Tree) (root : Text) : Settings :=
  match (configPaths s root).find? tree.isFile with
  | none => .none
  | some path =>
    match tree.read path with
    | .error _ => .none
    | .ok t => (Settings.ofText? t).getD .none

def namedSettings (s : Surroundings) (tree : Tree) (path : Text) : Except (List Text) Settings :=
  match tree.read (Files.joinPath s.cwd path) with
  | .error failure => .error ["failed to read config file " ++ path, failure.message]
  | .ok t =>
    match Settings.ofText? t with
    | some settings => .ok settings
    | none => .error ["failed to parse config file " ++ path]

def settings (s : Surroundings) (tree : Tree) (options : Options) (root : Text) :
    Except (List Text) Settings :=
  match options.config with
  | some path => namedSettings s tree path
  | none => .ok (discoveredSettings s tree root)

def projectRoot (s : Surroundings) (options : Options) : Text :=
  match options.root with
  | some root => Files.absolute s.cwd root
  | none => s.cwd

def configuration (s : Surroundings) (tree : Tree) (options : Options) :
    Except (List Text) Config :=
  let root := projectRoot s options
  (settings s tree options root).map fun settings => settings.apply s.home (.forRoot root)

def prepare (tree : Tree) (c : Config) (functions : SourceFunctions) : Except (List Text) Project :=
  match Project.load tree c .builtin functions with
  | .ok p => .ok p
  | .error e => .error (("failed to prepare CalGen for " ++ c.projectRoot) :: e.causes)

def generateAll (tree : Tree) (c : Config) (functions : SourceFunctions) : Result :=
  match prepare tree c functions with
  | .error causes => .failed [] causes tree
  | .ok p =>
    let run := p.run tree
    match run.result with
    | .error e => .failed (eventsText run.events) e.causes run.tree
    | .ok _ => .success (eventsText run.events ++ banner) run.tree

def generateFile (s : Surroundings) (tree : Tree) (c : Config) (path : Text)
    (functions : SourceFunctions) : Result :=
  let path := Files.absolute s.cwd path
  match prepare tree c functions with
  | .error causes => .failed [] causes tree
  | .ok p =>
    let file := p.process tree path
    match file.result with
    | .error e => .failed (eventsText file.events) e.causes file.tree
    | .ok outcome => .success (eventsText file.events ++ outcomeText path outcome) file.tree

def loadCauses : LoadError → List Text
  | .schema .notYaml => [SchemaError.notYaml.message]
  | .schema e => e.causes
  | .range e => [e.message]

def entryText (e : Entry) : Text :=
  "\n" ++ styledLine e.rangeText ++ line e.listing.trimEnd

def schemaText (path : Text) (m : AddressMap) : Text :=
  styledLine m.brief ++ line ("  Schema: " ++ path) ++
    line ("  Entries: " ++ Text.ofNat m.entries.length) ++
    line ("  Total length: 0x" ++ Text.upperHex 4 m.totalLength.toNat) ++
    m.entries.flatMap entryText

def schemaPath (s : Surroundings) (c : Config) (file : Option Text) : Text :=
  match file with
  | some file => Files.absolute s.cwd file
  | none => c.yamlPath

def dumpSchema (s : Surroundings) (tree : Tree) (c : Config) (file : Option Text) : Result :=
  let path := schemaPath s c file
  match AddressMap.load tree path c.addressSpace with
  | .error e => .failed [] (("invalid calibration schema " ++ path) :: loadCauses e) tree
  | .ok m => .success (schemaText path m) tree

def perform (s : Surroundings) (tree : Tree) (options : Options) (task : Task)
    (functions : SourceFunctions := .random 0) : Result :=
  match configuration s tree options with
  | .error causes => .failed [] causes tree
  | .ok c =>
    match task with
    | .generateAll => generateAll tree c functions
    | .generateFile path => generateFile s tree c path functions
    | .dumpSchema file => dumpSchema s tree c file

def versionText : Text := line "calgen-ctl 1.2.14"

def usageText : Text :=
  line "Usage: calgen-ctl [--root DIR] [--config FILE] [--verbose] [file PATH]" ++
    line "       calgen-ctl [--root DIR] [--config FILE] [--verbose] dump-schema [--file YAML]"

def misuseCode : Nat := 2

end MapLoom.Command
