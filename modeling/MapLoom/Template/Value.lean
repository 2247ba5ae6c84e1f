import MapLoom.Decimal.Layout
import MapLoom.Text.Integer

set_option autoImplicit false

/-!
# Values that templates print
-/
namespace MapLoom.Template

inductive Value
  | null
  | bool (b : Bool)
  | integer (n : Int)
  | float (x : Binary64)
  | text (t : Text)
  | list (items : List Value)
  | object (members : List (Text × Value))

namespace Value

instance : Inhabited Value := ⟨.null⟩

/-- A float, or null for one that is not finite. -/
def ofFloat (x : Binary64) : Value := if x.isFinite then .float x else .null

/-- The printed form: null prints as nothing and a list in brackets. -/
def print : Value → Text
  | .null => []
  | .bool b => if b then "true" else "false"
  | .integer n => Text.ofInt n
  | .float x => Decimal.write .printed x
  | .text t => t
  | .list items => "[" ++ Text.join ", " (printAll items) ++ "]"
  | .object _ => "[object]"
where
  printAll : List Value → List Text
    | [] => []
    | v :: vs => print v :: printAll vs

/-- Whether a value counts as true: neither null, false, zero nor empty. -/
def isTruthy : Value → Bool
  | .null => false
  | .bool b => b
  | .integer n => n ≠ 0
  | .float x => !(x.equal .zero || x == .nan)
  | .text t => t ≠ []
  | .list items => !items.isEmpty
  | .object members => !members.isEmpty

def asNumber? : Value → Option Binary64
  | .integer n => some (.ofInt n)
  | .float x => some x
  | _ => none

/-- Whether two values are the same; no integer is the same as a float. -/
def same : Value → Value → Bool
  | .null, .null => true
  | .bool a, .bool b => a == b
  | .integer m, .integer n => m == n
  | .float x, .float y => x.equal y
  | .text s, .text t => s == t
  | .list xs, .list ys => sameItems xs ys
  | .object ms, .object ns => ms.length == ns.length && sameMembers ms ns
  | _, _ => false
where
  sameItems : List Value → List Value → Bool
    | [], [] => true
    | x :: xs, y :: ys => same x y && sameItems xs ys
    | _, _ => false
  sameMembers : List (Text × Value) → List (Text × Value) → Bool
    | [], _ => true
    | (k, v) :: ms, ns =>
      (match ns.lookup k with
        | some w => same v w
        | none => false) && sameMembers ms ns

/-- The member of an object, or the element of a list at a written index. -/
def member? (v : Value) (key : Text) : Option Value :=
  match v with
  | .object members => members.lookup key
  | .list items =>
    if key = "0" ∨ key.head?.all (· ≠ '0') then
      (Text.natural? 10 key).bind (items[·]?)
    else none
  | _ => none

end Value
end MapLoom.Template
