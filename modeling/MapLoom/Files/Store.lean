import MapLoom.Files.Tree

set_option autoImplicit false

/-!
# Storing a text

A file gets another text in place or as a whole. As a whole means that a new file beside it takes
the text and the mode of the file, and is then moved over it.
-/
namespace MapLoom.Files.Tree

/-- A name that nothing directly below a location has: it is longer than all names there. -/
def freshName (tree : Tree) (loc : Location) : Text :=
  '.' :: List.replicate ((tree.names loc).foldr (fun name n => max name.length n) 0) 't'

def remove (tree : Tree) (loc : Location) : Tree := ⟨tree.items.filter (·.1 ≠ loc)⟩

def move (tree : Tree) (source target : Location) : Tree :=
  match tree.item? source with
  | some item => (tree.remove source).set target item
  | none => tree

def privateMode : Nat := 0o600

/-- Puts a file with a text and a mode over the file at a location: a new file beside it is made,
filled, given the mode, and moved. -/
def overwrite (tree : Tree) (loc : Location) (t : Text) (mode : Nat) : Tree :=
  let beside := loc.dropLast ++ [tree.freshName loc.dropLast]
  let made := tree.set beside (.file (.text []) privateMode)
  let filled := made.set beside (.file (.text t) privateMode)
  let allowed := filled.set beside (.file (.text t) mode)
  allowed.move beside loc

/-- Gives the file that a path leads to another text, as a whole; its mode stays. -/
def replaceFile (tree : Tree) (path t : Text) : Tree :=
  match tree.locate path with
  | .error _ => tree
  | .ok loc =>
    match tree.item? loc with
    | some (.file _ mode) => tree.overwrite loc t mode
    | _ => tree

def store (tree : Tree) (atomic : Bool) (path t : Text) : Tree :=
  if atomic then tree.replaceFile path t else tree.write path t

end MapLoom.Files.Tree
