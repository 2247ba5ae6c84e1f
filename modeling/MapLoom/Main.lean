import MapLoom.Command.Reach

set_option autoImplicit false

/-!
# The command line

Looks at the files that a command may read, performs the command on the tree of what was seen,
saves the files that it changed, and prints. A file is saved in place, which keeps its mode.
-/
namespace MapLoom
open Files

/-- What stands at a location, if anything does; a link is not followed. -/
def typeAt? (loc : Location) : IO (Option IO.FS.FileType) := do
  let path := (← IO.currentDir) / String.ofList (pathOf loc)
  try
    return some (← path.symlinkMetadata).type
  catch _ =>
    return none

def fileAt (loc : Location) : IO Item := do
  let bytes ← IO.FS.readBinFile (String.ofList (pathOf loc))
  return .file (Content.ofBytes bytes.toList) 0

/-- Where a link ends, or a name that no file has when it ends nowhere. -/
def targetAt (loc : Location) : IO Text := do
  try
    let target ← IO.FS.realPath (String.ofList (pathOf loc))
    return target.toString.toList
  catch _ =>
    return ['\x00']

/-- Adds what stands at a location that no link leads to. -/
def seePlain (tree : Tree) (loc : Location) : IO Tree := do
  match ← typeAt? loc with
  | none => return tree
  | some .dir => return tree.put loc .directory
  | some _ => return tree.put loc (← fileAt loc)

/-- Adds what stands on the way from a location along names, also where links lead. -/
def seeNames (tree : Tree) (loc : Location) : List Text → IO Tree
  | [] => return tree
  | name :: names => do
    if name = "." then seeNames tree loc names
    else if name = ".." then seeNames tree loc.dropLast names
    else
      let here := loc ++ [name]
      match ← typeAt? here with
      | none => return tree
      | some .dir => seeNames (tree.put here .directory) here names
      | some .symlink =>
        let target ← targetAt here
        let tree := tree.put here (.link target)
        let tree ← seePlain tree (pathNames target)
        seeNames tree (pathNames target) names
      | some _ => return tree.put here (← fileAt here)

def see (tree : Tree) (path : Text) : IO Tree := seeNames tree [] (pathNames path)

def seeBelow (tree : Tree) (path : Text) : IO Tree := do
  if tree.isDirectory path then
    let directory := (← IO.currentDir) / String.ofList path
    (← directory.readDir).foldlM (fun tree entry => see tree (joinPath path entry.fileName.toList))
      tree
  else return tree

def seeTemplates (tree : Tree) (path : Text) : IO Tree := do
  let tree ← seeBelow (← see tree path) path
  (searchDirs tree path).foldlM seeBelow tree

def seeCommand (s : Command.Surroundings) (options : Command.Options) (task : Command.Task) :
    IO Tree := do
  let tree ← (Command.configReach s options).foldlM see ⟨[]⟩
  match Command.configuration s tree options with
  | .error _ => return tree
  | .ok c =>
    let tree ← (Command.fileReach s c task).foldlM see tree
    match Command.templateReach c task with
    | some dir => seeTemplates tree dir
    | none => return tree

def saveChanged (seen left : Tree) : IO Unit :=
  left.items.forM fun (loc, item) => do
    match item with
    | .file (.text t) _ =>
      if seen.item? loc ≠ some item then
        IO.FS.writeFile (String.ofList (pathOf loc)) (String.ofList t)
    | _ => pure ()

def performCommand (options : Command.Options) (task : Command.Task) : IO UInt32 := do
  let cwd ← IO.currentDir
  let home ← IO.getEnv "HOME"
  let s : Command.Surroundings := ⟨cwd.toString.toList, home.map String.toList⟩
  let tree ← seeCommand s options task
  let result := Command.perform s tree options task
  saveChanged tree result.tree
  IO.print (String.ofList result.printed)
  match result.errorText with
  | some message => IO.eprint (String.ofList message)
  | none => pure ()
  return .ofNat result.code

end MapLoom

open MapLoom in
def main (args : List String) : IO UInt32 := do
  match Command.Request.ofArguments (args.map String.toList) with
  | .perform options task => performCommand options task
  | .version =>
    IO.print (String.ofList Command.versionText)
    return 0
  | .help =>
    IO.print (String.ofList Command.usageText)
    return 0
  | .misuse =>
    IO.eprint (String.ofList Command.usageText)
    return .ofNat Command.misuseCode
