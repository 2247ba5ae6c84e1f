import MapLoom.Text.Blank
import MapLoom.Text.Lines

set_option autoImplicit false

/-!
# Marker lines

A generator block stands between two marker lines. Every line with the sentinel is a marker, and its
last visible character says which: an opening brace, a closing brace, or neither. An opening marker
names the generator after its only separator.
-/
namespace MapLoom

inductive LineKind
  | hand
  | opening
  | closing
  | malformed
  deriving DecidableEq

def LineKind.ofLine (sentinel line : Text) : LineKind :=
  if !Text.hasInfix sentinel line then .hand
  else
    match line.trimEnd.getLast? with
    | some '\x7b' => .opening
    | some '\x7d' => .closing
    | _ => .malformed

inductive BlockFault
  | separators (count : Nat)
  | noTag
  | nested (openedAt : Nat)
  | neverOpened
  | noBrace
  deriving DecidableEq

def BlockFault.reason : BlockFault → Text
  | .separators count =>
    "CalGen block arity mismatch (" ++ Text.ofNat count ++
      " separators). Blocks must be in the form: <sentinel> | <CalGen context> \x7b"
  | .noTag => "CalGen block has an empty module name"
  | .nested openedAt =>
    "nested CalGen block (block opened at line " ++ Text.ofNat openedAt ++ " is still open)"
  | .neverOpened => "CalGen End statement with no beginning"
  | .noBrace => "missing end character"

/-- The generator that an opening marker names: what follows the separator, without any opening
brace and without blanks around it. -/
def markerTag (line : Text) : Except BlockFault Text :=
  if line.count '|' ≠ 1 then .error (.separators (line.count '|'))
  else
    let tag := Text.trim (((line.dropWhile (· ≠ '|')).drop 1).filter (· ≠ '\x7b'))
    if tag = [] then .error .noTag else .ok tag

/-- Whether a text starts with the sentinel and a separator, and a brace follows a blank later on
the same line. -/
def startsMarker (sentinel t : Text) : Bool :=
  match List.isPrefixOf? (sentinel ++ " | " : Text) t with
  | some rest => Text.hasInfix " \x7b" (rest.takeWhile (· ≠ '\n'))
  | none => false

def hasMarker (sentinel : Text) : Text → Bool
  | [] => startsMarker sentinel []
  | c :: t => startsMarker sentinel (c :: t) || hasMarker sentinel t

end MapLoom
