import MapLoom.Text.Case

set_option autoImplicit false

/-!
# Derived names

Generated code names an entry in snake case, and two entries that differ only in their band share
one type, which the upper band (or an entry without a band) owns.
-/
namespace MapLoom

/-- The rest of a snake-case name, where `last` is the character read before it. -/
def snakeRest (last : Char) : Text → Text
  | [] => []
  | c :: t =>
    let separator := if last = '_' then [] else ['_']
    (if Letter.isUpper c then separator ++ Letter.lower c else [c]) ++ snakeRest c t

/-- Writes each capital in lower case, with an underscore before it unless it comes first or after
an underscore. -/
def snakeName : Text → Text
  | [] => []
  | c :: t => (if Letter.isUpper c then Letter.lower c else [c]) ++ snakeRest c t

/-- A name with its band taken out, and whether its bearer declares the type of that name. -/
structure BandName where
  name : Text
  isOwner : Bool
  deriving DecidableEq

/-- Replaces the first upper band, or else the first lower band, in place. -/
def bandName (name : Text) : BandName :=
  match name.cut? "UpperBand" with
  | some (before, after) => ⟨before ++ "PerBand" ++ after, true⟩
  | none =>
    match name.cut? "LowerBand" with
    | some (before, after) => ⟨before ++ "PerBand" ++ after, false⟩
    | none => ⟨name, true⟩

end MapLoom
