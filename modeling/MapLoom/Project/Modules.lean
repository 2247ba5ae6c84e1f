import MapLoom.Files.Tree
import MapLoom.Project.Registry
import MapLoom.Template.Reading
import MapLoom.Weave.Assemble

set_option autoImplicit false

/-!
# Template modules

Templates are files in the module directory and in its subdirectories, which are searched in order
of name. The first directory with a template for a tag wins, and within one directory the preferred
extension; bundled templates stand in for tags without a file. Only winning files are read, and all
of them must be templates.
-/
namespace MapLoom
open Files (Tree)
open Template (Bundled)

/-- The module directory and its subdirectories in order of name. -/
def searchDirs (tree : Tree) (moduleDir : Text) : List Text :=
  if tree.isDirectory moduleDir then
    let below := (tree.entries moduleDir).filter fun name =>
      tree.isDirectory (Files.joinPath moduleDir name)
    let sorted := below.foldl (fun sorted name => Text.insertKey name () sorted) []
    moduleDir :: sorted.map fun (name, _) => Files.joinPath moduleDir name
  else []

def extensionRank? (extension : Text) : Option Nat :=
  if extension = "tera" then some 0 else if extension = "jinja2" then some 1 else none

/-- Takes a template file for its tag unless one is there that is at least as good. -/
def offer (tag : Text) (rank : Nat) (path : Text) (found : List (Text × Nat × Text)) :
    List (Text × Nat × Text) :=
  match found.lookup tag with
  | some (best, _) => if best ≤ rank then found else Text.insertKey tag (rank, path) found
  | none => Text.insertKey tag (rank, path) found

def templateName? (name : Text) : Option (Text × Nat) :=
  (Files.stemAndExtension? name).bind fun (tag, extension) =>
    (extensionRank? extension).map fun rank => (tag, rank)

def offerFile (tree : Tree) (dir : Text) (found : List (Text × Nat × Text)) (name : Text) :
    List (Text × Nat × Text) :=
  match templateName? name with
  | some (tag, rank) =>
    let path := Files.joinPath dir name
    if tree.isFile path then offer tag rank path found else found
  | none => found

/-- The template files directly in a directory, one for each tag, in order of tags. -/
def templatesIn (tree : Tree) (dir : Text) : List (Text × Text) :=
  ((tree.entries dir).foldl (offerFile tree dir) []).map fun (tag, _, path) => (tag, path)

inductive TemplateSource
  | file (path : Text)
  | bundled
  deriving DecidableEq

structure LoadedTemplate where
  source : TemplateSource
  nodes : List Template.Node

abbrev Templates := List (Text × LoadedTemplate)

def loadTemplate (tree : Tree) (path : Text) : Except RunError LoadedTemplate :=
  match tree.read path with
  | .error _ => .error (.templateLoad path)
  | .ok t =>
    match Template.ofText? t with
    | some nodes => .ok ⟨.file path, nodes⟩
    | none => .error (.templateLoad path)

/-- Loads template files in order, except those whose tag already has a template. -/
def loadFiles (tree : Tree) : List (Text × Text) → Templates → Except RunError Templates
  | [], loaded => .ok loaded
  | (tag, path) :: files, loaded =>
    if (loaded.lookup tag).isSome then loadFiles tree files loaded
    else
      match loadTemplate tree path with
      | .ok template => loadFiles tree files (Text.insertKey tag template loaded)
      | .error e => .error e

/-- Adds a bundled template unless its tag has a template. -/
def addBundled (loaded : Templates) (b : Bundled) : Templates :=
  if (loaded.lookup b.tag).isSome then loaded
  else Text.insertKey b.tag ⟨.bundled, b.nodes⟩ loaded

/-- The templates of a search path, with bundled ones for the tags that no file stands for. -/
def loadTemplates (tree : Tree) (dirs : List Text) : Except RunError Templates :=
  match loadFiles tree (dirs.flatMap (templatesIn tree)) [] with
  | .ok templates => .ok (Bundled.all.foldl addBundled templates)
  | .error e => .error e

/-- Where each template came from, and the templates themselves, in a table each. -/
structure Tables where
  sources : List (Text × TemplateSource)
  engine : List (Text × List Template.Node)

namespace Tables

def empty : Tables := ⟨[], []⟩

def add (tables : Tables) (tag : Text) (source : TemplateSource) (nodes : List Template.Node) :
    Tables :=
  ⟨Text.insertKey tag source tables.sources, Text.insertKey tag nodes tables.engine⟩

def loadFiles (tree : Tree) : List (Text × Text) → Tables → Except RunError Tables
  | [], tables => .ok tables
  | (tag, path) :: files, tables =>
    if (tables.sources.lookup tag).isSome then loadFiles tree files tables
    else
      match loadTemplate tree path with
      | .ok template => loadFiles tree files (tables.add tag (.file path) template.nodes)
      | .error e => .error e

def addBundled (tables : Tables) (b : Bundled) : Tables :=
  if (tables.sources.lookup b.tag).isSome then tables else tables.add b.tag .bundled b.nodes

def load (tree : Tree) (dirs : List Text) : Except RunError Tables :=
  match loadFiles tree (dirs.flatMap (templatesIn tree)) empty with
  | .ok tables => .ok (Bundled.all.foldl addBundled tables)
  | .error e => .error e

end Tables

/-- What functions give when the template from a source calls them. At one place of a template they
give the same at each rendering with these functions; at another time others take their place. -/
abbrev SourceFunctions := TemplateSource → Template.Functions

def SourceFunctions.random (seed : Nat) : SourceFunctions := fun _ => .random seed

structure Modules where
  searchDirs : List Text
  registry : Registry
  templates : Templates
  functions : SourceFunctions

namespace Modules

def load (tree : Tree) (moduleDir : Text) (registry : Registry)
    (functions : SourceFunctions := .random 0) : Except RunError Modules :=
  let dirs := MapLoom.searchDirs tree moduleDir
  match loadTemplates tree dirs with
  | .ok templates => .ok ⟨dirs, registry, templates, functions⟩
  | .error e => .error e

def hasTemplate (m : Modules) (tag : Text) : Bool := (m.templates.lookup tag).isSome

def resolve (m : Modules) (tag : Text) : Except RunError (Generator × LoadedTemplate) :=
  match m.registry.get? tag, m.templates.lookup tag with
  | some g, some template => .ok (g, template)
  | _, _ => .error (.noModule tag m.searchDirs)

def render (m : Modules) (tag : Text) (source : SchemaSource) : Except RunError Text :=
  match m.resolve tag with
  | .error e => .error e
  | .ok (g, template) =>
    match g source with
    | .error e => .error e
    | .ok scope =>
      match Template.render scope template.nodes (m.functions template.source) with
      | .ok t => .ok (normalize t)
      | .error fault => .error (.templateRender tag fault)

end Modules
end MapLoom
