import MapLoom.Decimal.Layout

set_option autoImplicit false

/-!
# Document values

What a document says once aliases are followed and plain scalars are typed. Mappings keep the order
of their entries and may have any value as a key. A local tag stays on the value it stands before.
-/
namespace MapLoom.Yaml

inductive Value
  | null
  | bool (b : Bool)
  | integer (n : Int)
  | float (x : Binary64)
  | text (t : Text)
  | list (items : List Value)
  | map (entries : List (Value × Value))
  | tagged (tag : Text) (value : Value)

namespace Value

instance : Inhabited Value := ⟨.null⟩

/-- The value under all local tags. -/
def untagged : Value → Value
  | .tagged _ v => v.untagged
  | v => v

def isNull (v : Value) : Bool :=
  match v.untagged with
  | .null => true
  | _ => false

def asList? (v : Value) : Option (List Value) :=
  match v.untagged with
  | .list items => some items
  | _ => none

def asMap? (v : Value) : Option (List (Value × Value)) :=
  match v.untagged with
  | .map entries => some entries
  | _ => none

/-- The value under an untagged text key. -/
def lookup (key : Text) : List (Value × Value) → Option Value
  | [] => none
  | (.text k, v) :: entries => if k = key then some v else lookup key entries
  | _ :: entries => lookup key entries

/-- Numbers without a value are the same key; otherwise floats are compared as numbers. -/
def sameFloat : Binary64 → Binary64 → Bool
  | .nan, .nan => true
  | x, y => x.equal y

/-- Whether two values are the same key: the order of a mapping's entries does not count, nor does
the mark before a tag's name. -/
def same : Value → Value → Bool
  | .null, .null => true
  | .bool a, .bool b => a == b
  | .integer m, .integer n => m == n
  | .float x, .float y => sameFloat x y
  | .text s, .text t => s == t
  | .list xs, .list ys => sameItems xs ys
  | .map es, .map fs => es.length == fs.length && allIn es fs
  | .tagged a v, .tagged b w => (a == b || '!' :: a == b || a == '!' :: b) && same v w
  | _, _ => false
where
  sameItems : List Value → List Value → Bool
    | [], [] => true
    | x :: xs, y :: ys => same x y && sameItems xs ys
    | _, _ => false
  allIn : List (Value × Value) → List (Value × Value) → Bool
    | [], _ => true
    | (k, v) :: es, fs => fs.any (fun f => same k f.1 && same v f.2) && allIn es fs

def insert (key value : Value) : List (Value × Value) → List (Value × Value)
  | [] => [(key, value)]
  | (k, v) :: entries =>
    if same key k then (k, value) :: entries else (k, v) :: insert key value entries

end Value
end MapLoom.Yaml
