import MapLoom.Project.Context
import MapLoom.Project.Error
import MapLoom.Template.Bundled
import MapLoom.Text.Order

set_option autoImplicit false

/-!
# Generators

A generator makes the scope in which the template of its tag is rendered. The bundled tags have the
calibration generator until another takes their place.
-/
namespace MapLoom
open Template (Bundled Scope)

abbrev Generator := SchemaSource → Except RunError Scope

def calibration : Generator := fun source => .ok source.scope

structure Registry where
  generators : List (Text × Generator)

namespace Registry

def empty : Registry := ⟨[]⟩

def register (r : Registry) (tag : Text) (g : Generator) : Registry :=
  ⟨Text.insertKey tag g r.generators⟩

def builtin : Registry := Bundled.all.foldl (fun r b => r.register b.tag calibration) empty

def get? (r : Registry) (tag : Text) : Option Generator := r.generators.lookup tag

def tags (r : Registry) : List Text := r.generators.map (·.1)

end Registry
end MapLoom
