import MapLoom.Schema.Load
import MapLoom.Template.Render
import MapLoom.Weave.Scan

set_option autoImplicit false

/-!
# What can stop a run
-/
namespace MapLoom

inductive RunError
  | schema (e : SchemaError)
  | range (e : RangeError)
  | block (file : Text) (e : BlockError)
  /-- No generator, or no template for one, in any of the directories. -/
  | noModule (tag : Text) (searched : List Text)
  | context (tag message : Text)
  | templateLoad (file : Text)
  | templateRender (tag : Text) (fault : Template.Fault)
  | access (file : Text) (failure : Files.Failure)
  deriving DecidableEq

def RunError.ofLoadError : LoadError → RunError
  | .schema e => .schema e
  | .range e => .range e

def RunError.message : RunError → Text
  | .schema e => "schema error: " ++ e.message
  | .range e => "address map error: " ++ e.message
  | .block file e => e.message file
  | .noModule tag searched =>
    "no generator module '" ++ tag ++ "' (searched: " ++
      Text.join ", " (searched.concat "bundled templates") ++ ")"
  | .context tag message =>
    "generator '" ++ tag ++ "' failed to build its context: " ++ message
  | .templateLoad file => "template load error for " ++ file
  | .templateRender tag _ =>
    "render error for '" ++ tag ++ "': Failed to render '" ++ tag ++ "'"
  | .access file failure => "failed to access " ++ file ++ ": " ++ failure.message

def SchemaError.causes (e : SchemaError) : List Text :=
  match e with
  | .unreadable _ failure => [e.message, failure.message]
  | .notYaml => []
  | e => [e.message]

/-- The messages from the error itself down to its causes, as far as they are fixed. -/
def RunError.causes (e : RunError) : List Text :=
  match e with
  | .schema cause => e.message :: cause.causes
  | .range cause => [e.message, cause.message]
  | .templateRender tag _ => ["render error for '" ++ tag ++ "'"]
  | .access _ failure => [e.message, failure.message]
  | e => [e.message]

end MapLoom
