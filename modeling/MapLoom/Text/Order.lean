import MapLoom.Text.Basic

set_option autoImplicit false

/-!
# The order of texts

Texts are ordered by code points, and association lists with text keys are kept in that order.
-/
namespace MapLoom.Text

/-- Strictly smaller at the first difference; a shorter text comes before its continuations. -/
def before : Text → Text → Bool
  | _, [] => false
  | [], _ :: _ => true
  | c :: s, d :: t => c.toNat < d.toNat || (c = d && before s t)

/-- Puts a value under a key of a list in order, over the value that was there. -/
def insertKey {α : Type} (key : Text) (a : α) : List (Text × α) → List (Text × α)
  | [] => [(key, a)]
  | (k, b) :: rest =>
    if key = k then (key, a) :: rest
    else if before key k then (key, a) :: (k, b) :: rest
    else (k, b) :: insertKey key a rest

end MapLoom.Text
