import MapLoom.Project.Config
import MapLoom.Toml.Document

set_option autoImplicit false

/-!
# Configuration files

A configuration file may set some of the configuration; what it leaves out keeps its default. Paths
in it are relative to the project's root, or to the home directory after a tilde and a slash.
-/
namespace MapLoom
open Files

structure Settings where
  moduleDir : Option Text
  yamlPath : Option Text
  sentinel : Option Text
  /-- Replaces the worklist unless it is empty. -/
  worklist : List Text
  atomicWrite : Option Bool
  addressSpace : Option UInt64
  deriving DecidableEq

namespace Settings

def none : Settings := ⟨.none, .none, .none, [], .none, .none⟩

/-- A setting that may be left out but must not have a value of another type. -/
def optional? {α : Type} (entries : List (Text × Toml.Value)) (key : Text)
    (read : Toml.Value → Option α) : Option (Option α) :=
  match entries.lookup key with
  | .none => some .none
  | some v => (read v).map some

def text? : Toml.Value → Option Text
  | .text t => some t
  | _ => .none

def texts? : Toml.Value → Option (List Text)
  | .list items => items.mapM text?
  | _ => .none

def bool? : Toml.Value → Option Bool
  | .bool b => some b
  | _ => .none

def natural64? : Toml.Value → Option UInt64
  | .integer n => if fitsUnsigned 64 n then some (.ofNat n.toNat) else .none
  | _ => .none

/-- The settings of a table; keys that are no settings are ignored. -/
def ofTable? (entries : List (Text × Toml.Value)) : Option Settings := do
  let moduleDir ← optional? entries "module-dir" text?
  let yamlPath ← optional? entries "yaml-path" text?
  let sentinel ← optional? entries "sentinel" text?
  let worklist ← optional? entries "worklist" texts?
  let atomicWrite ← optional? entries "atomic-write" bool?
  let addressSpace ← optional? entries "address-space-size" natural64?
  return { moduleDir, yamlPath, sentinel, worklist := worklist.getD [], atomicWrite, addressSpace }

def ofText? (t : Text) : Option Settings := (Toml.table? t).bind ofTable?

/-- A path with a leading tilde and slash taken from the home directory, if there is one. -/
def expand (home : Option Text) (path : Text) : Text :=
  match home, path with
  | some home, '~' :: '/' :: rest => joinPath home rest
  | _, path => path

def apply (s : Settings) (home : Option Text) (c : Config) : Config :=
  { c with
    moduleDir :=
      match s.moduleDir with
      | some dir => c.resolve (expand home dir)
      | .none => c.moduleDir
    yamlPath :=
      match s.yamlPath with
      | some path => c.resolve (expand home path)
      | .none => c.yamlPath
    sentinel := s.sentinel.getD c.sentinel
    worklist := if s.worklist = [] then c.worklist else s.worklist.map (expand home)
    atomicWrite := s.atomicWrite.getD c.atomicWrite
    addressSpace := s.addressSpace <|> c.addressSpace }

end Settings
end MapLoom
