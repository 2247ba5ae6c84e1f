import MapLoom.Text.Basic

set_option autoImplicit false

/-!
# Tokens of a document

Indentation appears as the tokens that open and close block lists and block mappings. A document
ends where its tokens do.
-/
namespace MapLoom.Yaml

inductive Token
  | version (major minor : Nat)
  | handle (name start : Text)
  | documentStart
  | documentEnd
  | blockList
  | blockMap
  | blockEnd
  | listOpen
  | listClose
  | mapOpen
  | mapClose
  | item
  | comma
  | key
  | value
  | alias (name : Text)
  | anchor (name : Text)
  | tag (handle suffix : Text)
  | scalar (plain : Bool) (text : Text)
  deriving DecidableEq

end MapLoom.Yaml
