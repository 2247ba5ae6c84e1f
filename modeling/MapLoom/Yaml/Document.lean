import MapLoom.Yaml.Layout
import MapLoom.Yaml.Node
import MapLoom.Yaml.Scalar

set_option autoImplicit false

/-!
# The value of a document

Aliases are followed, plain scalars typed, and the keys of a mapping kept apart. Collections nest at
most 128 deep, and aliases are followed at most a hundred times for each event of the document.
-/
namespace MapLoom.Yaml

namespace Node

/-- The numbered nodes of a tree in the order in which they start. -/
def numbered : Node → List (Nat × Node)
  | .alias _ => []
  | .scalar anchor tag plain text =>
    match anchor with
    | some number => [(number, .scalar anchor tag plain text)]
    | none => []
  | .list anchor tag items =>
    let below := inItems items
    match anchor with
    | some number => (number, .list anchor tag items) :: below
    | none => below
  | .map anchor tag entries =>
    let below := inEntries entries
    match anchor with
    | some number => (number, .map anchor tag entries) :: below
    | none => below
where
  inItems : List Node → List (Nat × Node)
    | [] => []
    | n :: ns => numbered n ++ inItems ns
  inEntries : List (Node × Node) → List (Nat × Node)
    | [] => []
    | (k, v) :: es => numbered k ++ numbered v ++ inEntries es

/-- One event for a scalar or an alias, and two for a collection besides those within it. -/
def events : Node → Nat
  | .alias _ => 1
  | .scalar .. => 1
  | .list _ _ items => inItems items + 2
  | .map _ _ entries => inEntries entries + 2
where
  inItems : List Node → Nat
    | [] => 0
    | n :: ns => events n + inItems ns
  inEntries : List (Node × Node) → Nat
    | [] => 0
    | (k, v) :: es => events k + events v + inEntries es

end Node

/-- Counts the aliases that may still be followed. -/
abbrev Bounded := StateT Nat Option

namespace Value

def localTag? : Option Text → Option (Option Text)
  | some ['!'] => none
  | some ('!' :: name) => some (some name)
  | _ => some none

def ofScalar? (plain : Bool) (written : Text) : Option Value :=
  if plain then ofPlain? written else some (.text written)

def withTag (name : Option Text) (v : Value) : Value :=
  match name with
  | some name => .tagged name v
  | none => v

def resolveItems (resolve : Bool → Node → Bounded Value) : List Node → Bounded (List Value)
  | [] => return []
  | n :: ns => do
    let v ← resolve false n
    return v :: (← resolveItems resolve ns)

/-- Resolves the entries of a mapping in order; no key may come twice. Tags on keys are passed over
where `bare` says so. -/
def resolveEntries (resolve : Bool → Node → Bounded Value) (bare : Bool) :
    List (Value × Value) → List (Node × Node) → Bounded (List (Value × Value))
  | done, [] => return done
  | done, (k, v) :: rest => do
    let key ← resolve bare k
    if done.any fun e => same key e.1 then failure
    let value ← resolve false v
    resolveEntries resolve bare (insert key value done) rest

/-- Resolves a node that is no alias. There is no `below` at the greatest depth. The tag of a node
is passed over if it is `bare`. -/
def resolveNode (below : Option (Bool → Node → Bounded Value)) (bare : Bool) :
    Node → Bounded Value
  | .alias _ => failure
  | .scalar _ tag plain written =>
    if bare then StateT.lift (ofScalar? plain written)
    else
      match localTag? tag, tag with
      | none, _ => failure
      | some (some name), _ => StateT.lift ((ofScalar? plain written).map (.tagged name))
      | some none, some tag => StateT.lift (ofTagged? tag written)
      | some none, none => StateT.lift (ofScalar? plain written)
  | .list _ tag items => do
    let name ← if bare then pure none else StateT.lift (localTag? tag)
    match below with
    | none => failure
    | some resolve => return withTag name (.list (← resolveItems resolve items))
  | .map _ tag entries => do
    let name ← if bare then pure none else StateT.lift (localTag? tag)
    match below with
    | none => failure
    | some resolve =>
      return withTag name (.map (← resolveEntries resolve (bare || name.isSome) [] entries))

/-- Follows an alias first, to the last node that has its number. -/
def resolveAlias (targets : List (Nat × Node)) (below : Option (Bool → Node → Bounded Value))
    (bare : Bool) (n : Node) : Bounded Value :=
  match n with
  | .alias number => do
    match ← get with
    | 0 => failure
    | left + 1 =>
      set left
      match targets.lookup number with
      | some target => resolveNode below false target
      | none => failure
  | n => resolveNode below bare n

/-- Resolves a node with so many levels of collections allowed; `targets` has later nodes first. -/
def resolve (targets : List (Nat × Node)) : Nat → Bool → Node → Bounded Value
  | 0, bare, n => resolveAlias targets none bare n
  | depth + 1, bare, n => resolveAlias targets (some (resolve targets depth)) bare n

def ofNode? (root : Node) : Option Value :=
  ((resolve root.numbered.reverse 128 false root).run (100 * root.events)).map (·.1)

/-- Reads a text of one document; a text without any is null. -/
def ofYaml? (t : Text) : Option Value :=
  match (tokens? t).bind Node.ofTokens? with
  | none => none
  | some none => some .null
  | some (some root) => ofNode? root

end Value
end MapLoom.Yaml
