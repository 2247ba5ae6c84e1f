import MapLoom.Files.Tree
import MapLoom.Schema.Ranges
import MapLoom.Schema.Reading
import MapLoom.Yaml.Document

set_option autoImplicit false

/-!
# Loading a schema

A schema file is read, typed and then checked: its entries must not overlap, and must fit the
address space if its size is given.
-/
namespace MapLoom

inductive LoadError
  | schema (e : SchemaError)
  | range (e : RangeError)
  deriving DecidableEq

namespace AddressMap

def ofYaml (t : Text) : Except SchemaError AddressMap :=
  match Yaml.Value.ofYaml? t with
  | some v => ofValue v
  | none => .error .notYaml

def validate (m : AddressMap) (size : Option UInt64) : Except RangeError Unit :=
  match checkOverlap m.entries with
  | .error e => .error e
  | .ok () =>
    match size with
    | some size => checkBounds m.entries size
    | none => .ok ()

def ofValidValue (v : Yaml.Value) (size : Option UInt64) : Except LoadError AddressMap :=
  match ofValue v with
  | .error e => .error (.schema e)
  | .ok m =>
    match m.validate size with
    | .error e => .error (.range e)
    | .ok () => .ok m

def load (tree : Files.Tree) (path : Text) (size : Option UInt64) : Except LoadError AddressMap :=
  match tree.read path with
  | .error failure => .error (.schema (.unreadable path failure))
  | .ok t =>
    match Yaml.Value.ofYaml? t with
    | none => .error (.schema .notYaml)
    | some v => ofValidValue v size

end AddressMap
end MapLoom
