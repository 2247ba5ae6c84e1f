import MapLoom.Template.Tree

set_option autoImplicit false

/-!
# Rendering

A scope binds names to values, the innermost binding first; a path leads from the first binding
under which it can be followed to its end. Each turn of a repeated part has a scope of its own.
Rendering fails at an unknown variable or filter, except that a test takes a value it cannot find as
false. What a function gives is not settled by the template: a random number is another one at each
place and each time.
-/
namespace MapLoom.Template

inductive Fault
  | unknownVariable (keys : List Text)
  | unknownFilter (name : Text)
  | filter (fault : FilterFault)
  | function (name : Text)
  | notBool (name : Text)
  | notNumbers
  | notIterable
  deriving DecidableEq

/-- What the functions that a template may call give. A place says where in the rendering a call is
evaluated, and is different for any two evaluations. -/
abbrev Functions := List Nat → Text → List (Text × Value) → Except Fault Value

namespace Functions

def under (functions : Functions) (n : Nat) : Functions := fun place => functions (n :: place)

/-- A number below `bound` that another seed makes another one. -/
def draw (seed bound : Nat) (place : List Nat) : Nat :=
  let step (state n : Nat) := (6364136223846793005 * state + 2 * n + 1) % twoTo 64
  step (place.foldl step seed) place.length / twoTo 20 % bound

/-- Random numbers from a range of 32-bit integers; no other function is known. -/
def random (seed : Nat) : Functions := fun place name arguments =>
  let number? (key : Text) (default : Option Int) : Option Int :=
    match arguments.lookup key with
    | some (.integer n) => if -twoTo 31 ≤ n ∧ n < twoTo 31 then some n else none
    | some _ => none
    | none => default
  match number? "start" (some 0), number? "end" none with
  | some start, some stop =>
    if name = "get_random" ∧ start < stop then
      .ok (.integer (start + draw seed (stop - start).toNat place))
    else .error (.function name)
  | _, _ => .error (.function name)

end Functions

abbrev Scope := List (Text × Value)

def follow : List Text → Value → Option Value
  | [], v => some v
  | key :: keys, v =>
    match v.member? key with
    | some w => follow keys w
    | none => none

def Scope.find? (scope : Scope) (keys : List Text) : Option Value :=
  match keys with
  | [] => none
  | name :: keys =>
    scope.findSome? fun binding => if binding.1 = name then follow keys binding.2 else none

def applyFilter (name : Text) (v : Value) : Except Fault Value :=
  match Filter.ofName? name with
  | none => .error (.unknownFilter name)
  | some filter =>
    match filter.apply v with
    | .ok w => .ok w
    | .error fault => .error (.filter fault)

def Expr.eval (functions : Functions) (scope : Scope) : Expr → Except Fault Value
  | .literal v => .ok v
  | .path keys =>
    match scope.find? keys with
    | some v => .ok v
    | none => .error (.unknownVariable keys)
  | .call name arguments => functions [] name arguments
  | .filtered e filter => do applyFilter filter (← e.eval functions scope)

def ordered (c : Comparison) (x y : Binary64) : Bool :=
  match c with
  | .eq => x.equal y
  | .ne => !x.equal y
  | .lt => x.lt y
  | .le => x.lt y || x.equal y
  | .gt => y.lt x
  | .ge => y.lt x || x.equal y

/-- Compares two values. Values of which only one is a number are neither equal nor different. -/
def compareValues (c : Comparison) (a b : Value) : Except Fault Bool :=
  match a.asNumber?, b.asNumber? with
  | some x, some y => .ok (ordered c x y)
  | none, none =>
    match c with
    | .eq => .ok (a.same b)
    | .ne => .ok (!a.same b)
    | _ => .error .notNumbers
  | _, _ =>
    match c with
    | .eq => .ok false
    | .ne => .ok false
    | _ => .error .notNumbers

def Expr.source : Expr → Expr
  | .filtered e _ => e.source
  | e => e

/-- What a function that is called in a test gives, which must be a truth value. -/
def asked (functions : Functions) (name : Text) (arguments : List (Text × Value)) :
    Except Fault Bool := do
  match ← functions [] name arguments with
  | .bool b => return b
  | _ => .error (.notBool name)

/-- Whether a value counts as true in a test: a literal and what a function gives by itself, whatever
filters follow, and anything else unless it cannot be computed. -/
def Expr.holds (functions : Functions) (scope : Scope) (e : Expr) : Except Fault Bool :=
  match e.source with
  | .literal v => .ok v.isTruthy
  | .call name arguments => asked functions name arguments
  | _ =>
    match e.eval functions scope with
    | .ok v => .ok v.isTruthy
    | .error _ => .ok false

/-- Whether a value counts as false in a test. An unknown variable does, but neither does a value
that a filter refuses. -/
def Expr.fails (functions : Functions) (scope : Scope) (e : Expr) : Except Fault Bool :=
  match e.source with
  | .literal v => .ok (!v.isTruthy)
  | .call name arguments => do return !(← asked functions name arguments)
  | _ =>
    match e.eval functions scope with
    | .ok v => .ok (!v.isTruthy)
    | .error (.unknownVariable _) => .ok true
    | .error _ => .ok false

def Test.holds (functions : Functions) (scope : Scope) : Test → Except Fault Bool
  | .value e => e.holds functions scope
  | .compared c a b => do
    compareValues c (← a.eval (functions.under 0) scope) (← b.eval (functions.under 1) scope)
  | .negated (.value e) => e.fails functions scope
  | .negated t => do return !(← t.holds functions scope)
  | .both s t => do
    if ← s.holds (functions.under 0) scope then t.holds (functions.under 1) scope else return false
  | .either s t => do
    if ← s.holds (functions.under 0) scope then return true else t.holds (functions.under 1) scope

def Test.eval (functions : Functions) (scope : Scope) : Test → Except Fault Value
  | .value e => e.eval functions scope
  | t => do return .bool (← t.holds functions scope)

/-- What a repeated part goes through: the elements of a list or the characters of a text. -/
def Value.elements? : Value → Option (List Value)
  | .list items => some items
  | .text t => some (t.map fun c => .text [c])
  | _ => none

/-- How far a repeated part has come, with `left` elements after this one. -/
def progress (index left : Nat) : Value :=
  .object
    [("index", .integer (index + 1)), ("index0", .integer index), ("first", .bool (index = 0)),
      ("last", .bool (left = 0))]

def renderEach (body : Nat → Scope → Except Fault (Text × Scope)) (name : Text) (scope : Scope) :
    Nat → List Value → Except Fault Text
  | _, [] => .ok []
  | index, v :: vs => do
    let (t, _) ← body index ((name, v) :: ("loop", progress index vs.length) :: scope)
    let rest ← renderEach body name scope (index + 1) vs
    return t ++ rest

mutual

/-- Renders one part; an assignment adds to the scope of what follows. -/
def Node.render (functions : Functions) (scope : Scope) : Node → Except Fault (Text × Scope)
  | .text t => .ok (t, scope)
  | .print t => do return ((← t.eval functions scope).print, scope)
  | .each name items body => do
    match (← items.eval (functions.under 0) scope).elements? with
    | none => .error .notIterable
    | some vs =>
      let turn (n : Nat) (inner : Scope) := renderAll (functions.under (n + 1)) inner body
      return (← renderEach turn name scope 0 vs, scope)
  | .branch test yes no => do
    if ← test.holds (functions.under 0) scope then renderAll (functions.under 1) scope yes
    else renderAll (functions.under 1) scope no
  | .assign name t => do return ([], (name, ← t.eval functions scope) :: scope)

def renderAll (functions : Functions) (scope : Scope) : List Node → Except Fault (Text × Scope)
  | [] => .ok ([], scope)
  | n :: ns => do
    let (t, scope) ← n.render (functions.under 0) scope
    let (rest, scope) ← renderAll (functions.under 1) scope ns
    return (t ++ rest, scope)

end

def render (scope : Scope) (nodes : List Node) (functions : Functions := .random 0) :
    Except Fault Text :=
  (renderAll functions scope nodes).map (·.1)

end MapLoom.Template
