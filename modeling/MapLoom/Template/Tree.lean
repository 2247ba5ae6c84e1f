import MapLoom.Template.Filter

set_option autoImplicit false

/-!
# Templates

A template is text with values printed into it, repeated parts, alternatives and assignments. Values
come from paths into the scope, from literals and from calls, with filters applied in order.
-/
namespace MapLoom.Template

inductive Expr
  | literal (v : Value)
  | path (keys : List Text)
  | call (name : Text) (arguments : List (Text × Value))
  | filtered (e : Expr) (filter : Text)

inductive Comparison
  | eq
  | ne
  | lt
  | le
  | gt
  | ge
  deriving DecidableEq

inductive Test
  | value (e : Expr)
  | compared (c : Comparison) (a b : Expr)
  | negated (t : Test)
  | both (s t : Test)
  | either (s t : Test)

inductive Node
  | text (t : Text)
  | print (t : Test)
  | each (name : Text) (items : Expr) (body : List Node)
  | branch (test : Test) (yes no : List Node)
  | assign (name : Text) (t : Test)

end MapLoom.Template
