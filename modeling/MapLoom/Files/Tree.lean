import MapLoom.Files.Failure
import MapLoom.Files.Path

set_option autoImplicit false

/-!
# File trees

A tree says what stands at each location, where a location is the list of names on the way from the
root. A path is followed name by name through links, of which at most forty are followed.
-/
namespace MapLoom.Files

abbrev Location := List Text

/-- What a file holds: a text, or bytes that are no UTF-8 text. -/
inductive Content
  | text (t : Text)
  | bytes (bytes : List UInt8)
  deriving DecidableEq

inductive Item
  | file (content : Content) (mode : Nat)
  | directory
  | link (target : Text)
  deriving DecidableEq

def pathOf (loc : Location) : Text := '/' :: Text.join "/" loc

def Content.ofBytes (bytes : List UInt8) : Content :=
  match String.fromUTF8? ⟨bytes.toArray⟩ with
  | some t => .text t.toList
  | none => .bytes bytes

structure Tree where
  items : List (Location × Item)

namespace Tree

/-- What stands at a location; the root is a directory. -/
def item? (tree : Tree) (loc : Location) : Option Item :=
  if loc = [] then some .directory else tree.items.lookup loc

def replace (loc : Location) (item : Item) : List (Location × Item) → List (Location × Item)
  | [] => [(loc, item)]
  | (l, i) :: items => if l = loc then (loc, item) :: items else (l, i) :: replace loc item items

def set (tree : Tree) (loc : Location) (item : Item) : Tree := ⟨replace loc item tree.items⟩

def makeParents (tree : Tree) (loc : Location) : Tree :=
  (List.range loc.length).foldl
    (fun tree n =>
      if (tree.item? (loc.take n)).isSome then tree else tree.set (loc.take n) .directory)
    tree

def put (tree : Tree) (loc : Location) (item : Item) : Tree := (tree.makeParents loc).set loc item

def names (tree : Tree) (loc : Location) : List Text :=
  tree.items.filterMap fun (l, _) => if l.dropLast = loc then l.getLast? else none

/-- How far a path leads: to a location, to a failure, or to a link with names left to follow. -/
inductive Walk
  | arrived (loc : Location)
  | failed (failure : Failure)
  | linked (loc : Location) (names : List Text)

/-- The names that a path is followed by; a final slash asks for a directory. -/
def steps (path : Text) : List Text :=
  if path.getLast? = some '/' then pathNames path ++ [['.']] else pathNames path

/-- Follows names from a location up to the first link. The last name may be left a link. -/
def walk (tree : Tree) (keepLink : Bool) : Location → List Text → Walk
  | loc, [] => .arrived loc
  | loc, name :: names =>
    match tree.item? loc with
    | some .directory =>
      if name = "." then walk tree keepLink loc names
      else if name = ".." then walk tree keepLink loc.dropLast names
      else
        match tree.item? (loc ++ [name]) with
        | none => .failed .notFound
        | some (.link target) =>
          if keepLink ∧ names = [] then .arrived (loc ++ [name])
          else if isAbsolute target then .linked [] (steps target ++ names)
          else .linked loc (steps target ++ names)
        | some _ => walk tree keepLink (loc ++ [name]) names
    | _ => .failed .notDirectory

/-- Follows names through at most so many links. -/
def follow (tree : Tree) (keepLink : Bool) : Nat → Location → List Text → Except Failure Location
  | links, loc, names =>
    match tree.walk keepLink loc names with
    | .arrived loc => .ok loc
    | .failed failure => .error failure
    | .linked loc names =>
      match links with
      | 0 => .error .tooManyLinks
      | links + 1 => follow tree keepLink links loc names

/-- The location that a path from the root leads to; an empty path leads nowhere. -/
def locate (tree : Tree) (path : Text) : Except Failure Location :=
  if path = [] then .error .notFound else tree.follow false 40 [] (steps path)

def find? (tree : Tree) (path : Text) : Option Item :=
  match tree.locate path with
  | .ok loc => tree.item? loc
  | .error _ => none

def hasPath (tree : Tree) (path : Text) : Bool := (tree.find? path).isSome

def isLink (tree : Tree) (path : Text) : Bool :=
  match tree.follow true 40 [] (steps path) with
  | .ok loc =>
    match tree.item? loc with
    | some (.link _) => true
    | _ => false
  | .error _ => false

def isDirectory (tree : Tree) (path : Text) : Bool := tree.find? path = some .directory

def isFile (tree : Tree) (path : Text) : Bool :=
  match tree.find? path with
  | some (.file ..) => true
  | _ => false

def read (tree : Tree) (path : Text) : Except Failure Text :=
  match tree.locate path with
  | .error failure => .error failure
  | .ok loc =>
    match tree.item? loc with
    | some (.file (.text t) _) => .ok t
    | some (.file (.bytes _) _) => .error .notText
    | some _ => .error .isDirectory
    | none => .error .notFound

/-- Gives the file that a path leads to another text; its mode stays. -/
def write (tree : Tree) (path t : Text) : Tree :=
  match tree.locate path with
  | .error _ => tree
  | .ok loc =>
    match tree.item? loc with
    | some (.file _ mode) => tree.set loc (.file (.text t) mode)
    | _ => tree

def entries (tree : Tree) (path : Text) : List Text :=
  match tree.locate path with
  | .ok loc => tree.names loc
  | .error _ => []

end Tree
end MapLoom.Files
