import MapLoom.Text.Basic

set_option autoImplicit false

/-!
# Node paths

Where in a schema document a node stands: the steps taken below the document's root, outermost
first.
-/
namespace MapLoom

structure NodePath where
  steps : List Text
  deriving DecidableEq

namespace NodePath

def root : NodePath := ⟨[]⟩

def child (p : NodePath) (step : Text) : NodePath := ⟨p.steps ++ [step]⟩

def indexed (p : NodePath) (list : Text) (i : Nat) : NodePath :=
  p.child (list ++ "[" ++ Text.ofNat i ++ "]")

/-- Replaces the last step; the root itself is never replaced. -/
def renamed (p : NodePath) (step : Text) : NodePath := ⟨p.steps.dropLast ++ [step]⟩

def segments (p : NodePath) : List Text := "MapTop" :: p.steps

def text (p : NodePath) : Text := Text.join "." p.segments

end NodePath
end MapLoom
