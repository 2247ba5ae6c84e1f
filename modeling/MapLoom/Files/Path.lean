import MapLoom.Text.Basic

set_option autoImplicit false

/-!
# Paths

A path is a text; how it is written shows in messages. Two paths are compared by their components,
for which repeated and final slashes and inner single dots do not count.
-/
namespace MapLoom.Files

def isAbsolute (path : Text) : Bool := path.head? = some '/'

/-- A path under a directory; an absolute one stands for itself. -/
def joinPath (dir path : Text) : Text :=
  if isAbsolute path then path
  else if dir = [] ∨ dir.getLast? = some '/' then dir ++ path
  else dir ++ '/' :: path

/-- The names between the slashes of a path, without empty ones. -/
def pathNames (path : Text) : List Text := (path.splitAt '/').filter (· ≠ [])

/-- The components of a path: the root, a first single dot of a relative path, names and double
dots. -/
def components (path : Text) : List Text :=
  if isAbsolute path then "/" :: (pathNames path).filter (· ≠ ".")
  else
    match pathNames path with
    | [] => []
    | name :: names => name :: names.filter (· ≠ ".")

def endsWith (path last : Text) : Bool := (components last).isSuffixOf (components path)

/-- Where an absolute path starts: exactly two slashes are kept. -/
def pathRoot (path : Text) : Text :=
  if (path.takeWhile (· = '/')).length = 2 then "//" else "/"

/-- A path from the root, for one taken in a working directory. Single dots and repeated slashes are
left out; double dots and a final slash stay. -/
def absolute (cwd path : Text) : Text :=
  let start := if isAbsolute path then pathRoot path else cwd
  let full := ((pathNames path).filter (fun name => name ≠ ("." : Text))).foldl joinPath start
  if path.getLast? = some '/' then joinPath full [] else full

/-- The name of a file without its last extension, and that extension. A name that starts with its
only dot has none. -/
def stemAndExtension? (name : Text) : Option (Text × Text) :=
  match name.cutLast? '.' with
  | some ([], _) => none
  | found => found

end MapLoom.Files
