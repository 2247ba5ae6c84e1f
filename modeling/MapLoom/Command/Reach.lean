import MapLoom.Command.Perform

set_option autoImplicit false

/-!
# What a command looks at

The paths of the files and of the template directory that a command may read. First those that the
configuration may be in, then those that the configuration names.
-/
namespace MapLoom.Command
open Files

def configReach (s : Surroundings) (options : Options) : List Text :=
  match options.config with
  | some path => [joinPath s.cwd path]
  | none => configPaths s (projectRoot s options)

def fileReach (s : Surroundings) (c : Config) : Task → List Text
  | .generateAll => c.yamlPath :: c.worklistPaths
  | .generateFile path => [c.yamlPath, absolute s.cwd path]
  | .dumpSchema file => [schemaPath s c file]

def templateReach (c : Config) : Task → Option Text
  | .dumpSchema _ => none
  | _ => some c.moduleDir

end MapLoom.Command
