import MapLoom.Files.Store
import MapLoom.Project.Config
import MapLoom.Project.Modules
import MapLoom.Schema.Load

set_option autoImplicit false

/-!
# Runs

A run goes through the target files in order and stops at the first error. A file is replaced only
when every one of its blocks has been rendered, so an error leaves the file it concerns, and all
later files, as they were.
-/
namespace MapLoom
open Files (Tree)

inductive Outcome
  | generated (blocks : Nat)
  | unclosed
  | ignored
  | notInWorklist
  | symlink
  | missing
  deriving DecidableEq

def Outcome.blocks : Outcome → Nat
  | .generated blocks => blocks
  | _ => 0

inductive Event
  | autogenerating (path : Text)
  | ignored (path : Text)
  | missing (path : Text)
  deriving DecidableEq

structure Project where
  config : Config
  source : SchemaSource
  modules : Modules

inductive Gate
  | pass (t : Text)
  | skip (outcome : Outcome)
  deriving DecidableEq

structure FileRun where
  result : Except RunError Outcome
  events : List Event
  tree : Tree

/-- What a run comes to; its report lists the files in order. -/
structure Run where
  result : Except RunError (List (Text × Outcome))
  events : List Event
  tree : Tree

namespace Project

def load (tree : Tree) (config : Config) (registry : Registry)
    (functions : SourceFunctions := .random 0) : Except RunError Project :=
  match AddressMap.load tree config.yamlPath config.addressSpace with
  | .error e => .error (.ofLoadError e)
  | .ok map =>
    match Modules.load tree config.moduleDir registry functions with
    | .error e => .error e
    | .ok modules => .ok ⟨config, ⟨config.yamlPath, map⟩, modules⟩

/-- The project at another time, when functions give something else. -/
def later (p : Project) (functions : SourceFunctions) : Project :=
  { p with modules := { p.modules with functions } }

/-- Decides on a file: it must be there, be no link, be on the worklist and have a marker. -/
def gate (p : Project) (tree : Tree) (path : Text) : Except RunError Gate :=
  if !tree.hasPath path then .ok (.skip .missing)
  else if tree.isLink path then .ok (.skip .symlink)
  else if !p.config.inWorklist path then .ok (.skip .notInWorklist)
  else
    match tree.read path with
    | .error failure => .error (.access path failure)
    | .ok t => .ok (if hasMarker p.config.sentinel t then .pass t else .skip .ignored)

def renderBlocks (p : Project) : List Block → Except RunError (List Text)
  | [] => .ok []
  | b :: blocks => do
    let content ← p.modules.render b.tag p.source
    let contents ← renderBlocks p blocks
    return content :: contents

/-- The number of blocks of a text and the text with their contents renewed. There is nothing to
renew when the last block is never closed. -/
def weave (p : Project) (path t : Text) : Except RunError (Option (Nat × Text)) :=
  match scan p.config.sentinel t with
  | .error e => .error (.block path e)
  | .ok scanned =>
    if scanned.blocks = [] then .ok none
    else
      match p.renderBlocks scanned.blocks with
      | .error e => .error e
      | .ok contents => .ok (some (scanned.blocks.length, assemble scanned.spans contents))

def skipEvents (path : Text) : Outcome → List Event
  | .ignored => [.ignored path]
  | .missing => [.missing path]
  | _ => []

def process (p : Project) (tree : Tree) (path : Text) : FileRun :=
  match p.gate tree path with
  | .error e => ⟨.error e, [], tree⟩
  | .ok (.skip outcome) => ⟨.ok outcome, skipEvents path outcome, tree⟩
  | .ok (.pass t) =>
    match p.weave path t with
    | .error e => ⟨.error e, [.autogenerating path], tree⟩
    | .ok none => ⟨.ok .unclosed, [.autogenerating path], tree⟩
    | .ok (some (blocks, woven)) =>
      ⟨.ok (.generated blocks), [.autogenerating path],
        tree.store p.config.atomicWrite path woven⟩

def runPaths (p : Project) (tree : Tree) : List Text → Run
  | [] => ⟨.ok [], [], tree⟩
  | path :: paths =>
    let file := p.process tree path
    match file.result with
    | .error e => ⟨.error e, file.events, file.tree⟩
    | .ok outcome =>
      let rest := runPaths p file.tree paths
      ⟨rest.result.map ((path, outcome) :: ·), file.events ++ rest.events, rest.tree⟩

def run (p : Project) (tree : Tree) : Run := p.runPaths tree p.config.worklistPaths

end Project

def blockCount (report : List (Text × Outcome)) : Nat :=
  report.foldl (fun total (_, outcome) => total + outcome.blocks) 0

def pathsWith (kind : Outcome → Bool) (report : List (Text × Outcome)) : List Text :=
  (report.filter fun (_, outcome) => kind outcome).map (·.1)

end MapLoom
