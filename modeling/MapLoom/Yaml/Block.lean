import MapLoom.Text.Integer
import MapLoom.Yaml.Cursor

set_option autoImplicit false

/-!
# Block scalars

The lines of a block scalar start at one column, given in its header or by its first line. A folded
scalar joins neighbouring lines unless one of them starts with a blank. The header also says what is
kept of the breaks at the end.
-/
namespace MapLoom.Yaml

/-- What is kept of the line breaks that end a block scalar. -/
inductive Chomp
  | strip
  | clip
  | keep
  deriving DecidableEq

def chomp? (c : Char) : Option Chomp :=
  if c = '-' then some .strip else if c = '+' then some .keep else none

def headerDigit : Text → Option (Option Nat × Text)
  | c :: t =>
    if c = '0' then none
    else if Text.isDigit c then some (Text.digit? 10 c, t)
    else some (none, c :: t)
  | [] => some (none, [])

/-- How a block scalar ends, how much further than its parent it is indented if that is said, and
the text after the header's marks. -/
def blockHeader (t : Text) : Option (Chomp × Option Nat × Text) :=
  match t with
  | [] => some (.clip, none, [])
  | c :: rest =>
    match chomp? c with
    | some chomp => (headerDigit rest).map fun (digit, rest) => (chomp, digit, rest)
    | none =>
      match headerDigit t with
      | none => none
      | some (none, rest) => some (.clip, none, rest)
      | some (some digit, []) => some (.clip, some digit, [])
      | some (some digit, c :: rest) =>
        match chomp? c with
        | some chomp => some (chomp, some digit, rest)
        | none => some (.clip, some digit, c :: rest)

/-- Reads indentation and empty lines: what the breaks leave and the greatest column seen. An
indentation of zero is one that the first line has yet to give; no tab may stand in it. -/
def blockBreaks (indent : Nat) : Nat → Text → Nat → Cursor → Option (Text × Nat × Cursor)
  | 0, _, _, _ => none
  | fuel + 1, breaks, widest, cur =>
    let spaces := (cur.rest.takeWhile (· = ' ')).length
    let cur := cur.advance (if indent = 0 then spaces else min spaces (indent - cur.column))
    let widest := max widest cur.column
    if (indent = 0 || cur.column < indent) && startsWith (· = '\t') cur.rest then none
    else if startsWith isBreak cur.rest then
      let (kept, next) := cur.readBreak
      blockBreaks indent fuel (breaks ++ kept) widest next
    else some (breaks, widest, cur)

/-- What joins two lines: `last` is the break after the first and `more` those that follow. -/
def blockJoint (folded afterBlank beforeBlank : Bool) (last more : Text) : Text :=
  if folded && last = "\n" && !afterBlank && !beforeBlank then
    if more = [] then " " else more
  else last ++ more

/-- Reads the lines at one column; `last` and `more` are the breaks before them. The breaks after
the last line come apart. -/
def blockLines (folded : Bool) (indent : Nat) :
    Nat → Text → Text → Bool → Cursor → Option (Text × Text × Text × Cursor)
  | 0, _, _, _, _ => none
  | fuel + 1, last, more, afterBlank, cur =>
    if cur.column = indent ∧ cur.rest ≠ [] then
      let blank := startsWith isSpace cur.rest
      let line := cur.rest.takeWhile (!isBreak ·)
      let read := blockJoint folded afterBlank blank last more ++ line
      let (last, next) := (cur.advance line.length).readBreak
      match blockBreaks indent fuel [] 0 next with
      | some (more, _, next) =>
        (blockLines folded indent fuel last more blank next).map fun (text, rest) =>
          (read ++ text, rest)
      | none => none
    else some ([], last, more, cur)

/-- Reads a block scalar from its indicator on; `parent` is the column of what holds it, if any. -/
def readBlock (fuel : Nat) (folded : Bool) (parent : Option Nat) (cur : Cursor) :
    Option (Text × Cursor) := do
  let cur := cur.advance 1
  let (chomp, increment, rest) ← blockHeader cur.rest
  let cur := (cur.moveTo rest).skipWhile isSpace
  let cur := if startsWith (· = '#') cur.rest then cur.skipWhile (!isBreak ·) else cur
  if cur.rest ≠ [] ∧ !startsWith isBreak cur.rest then none
  let cur := cur.nextLine
  let given := match increment with
    | some n => parent.getD 0 + n
    | none => 0
  let (more, widest, cur) ← blockBreaks given fuel [] 0 cur
  let least := match parent with
    | some column => column + 1
    | none => 1
  let indent := if given = 0 then max widest least else given
  let (text, last, more, cur) ← blockLines folded indent fuel [] more false cur
  let last := if chomp = .strip then [] else last
  let more := if chomp = .keep then more else []
  return (text ++ last ++ more, cur)

end MapLoom.Yaml
