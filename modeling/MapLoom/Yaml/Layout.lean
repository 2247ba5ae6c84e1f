import MapLoom.Yaml.Block
import MapLoom.Yaml.Plain
import MapLoom.Yaml.Quoted
import MapLoom.Yaml.Tag

set_option autoImplicit false

/-!
# From text to tokens

Outside brackets the column of a token opens and closes block lists and mappings. Whatever may turn
out to be a key is remembered until a colon follows it on the same line within 1024 characters; the
tokens that make it a key then go before it.
-/
namespace MapLoom.Yaml

/-- A token that a colon would turn into a key. -/
structure KeyCandidate where
  /-- Whether nothing but a key can stand here. -/
  required : Bool
  /-- The number of tokens before it. -/
  position : Nat
  index : Nat
  line : Nat
  column : Nat

structure Layout where
  cursor : Cursor
  /-- The tokens so far, the last one first. -/
  tokens : List Token
  count : Nat
  /-- The columns of the open block collections, the innermost first. -/
  columns : List Nat
  keyAllowed : Bool
  /-- The candidate outside all brackets or within the innermost ones. -/
  candidate : Option KeyCandidate
  /-- The candidates around each open bracket, the innermost first. -/
  outer : List (Option KeyCandidate)

namespace Layout

def start (t : Text) : Layout := ⟨.start t, [], 0, [], true, none, []⟩

def inFlow (s : Layout) : Bool := s.outer ≠ []

def emit (s : Layout) (token : Token) : Layout :=
  { s with tokens := token :: s.tokens, count := s.count + 1 }

/-- Puts a token after the first `position` tokens. -/
def emitAt (s : Layout) (position : Nat) (token : Token) : Layout :=
  let later := s.count - position
  { s with tokens := s.tokens.take later ++ token :: s.tokens.drop later, count := s.count + 1 }

def take (s : Layout) (count : Nat) (token : Token) : Layout :=
  { s with cursor := s.cursor.advance count }.emit token

def opens (s : Layout) (column : Nat) : Bool :=
  !s.inFlow && s.columns.head?.all (· < column)

/-- Opens a block collection at a column that none has reached. -/
def roll (s : Layout) (column position : Nat) (token : Token) : Layout :=
  if s.opens column then { s.emitAt position token with columns := column :: s.columns } else s

def rollHere (s : Layout) (token : Token) : Layout :=
  s.roll s.cursor.column s.count token

/-- Closes the block collections further in than a column, or all of them. -/
def unroll (s : Layout) (column : Option Nat) : Layout :=
  if s.inFlow then s
  else
    let closed := s.columns.takeWhile fun c => column.all (· < c)
    closed.foldl (fun s _ => { s with columns := s.columns.drop 1 }.emit .blockEnd) s

/-- Gives a candidate up, which fails where nothing but a key can stand. -/
def dropCandidate (s : Layout) : Option Layout :=
  match s.candidate with
  | some key => if key.required then none else some { s with candidate := none }
  | none => some s

def noteCandidate (s : Layout) : Option Layout :=
  if s.keyAllowed then
    s.dropCandidate.map fun s =>
      { s with
        candidate := some
          { required := !s.inFlow && s.columns.head? = some s.cursor.column
            position := s.count
            index := s.cursor.index
            line := s.cursor.line
            column := s.cursor.column } }
  else some s

/-- Gives up a candidate that a colon can no longer follow. -/
def expire (cur : Cursor) : Option KeyCandidate → Option (Option KeyCandidate)
  | none => some none
  | some key =>
    if key.line < cur.line ∨ key.index + 1024 < cur.index then
      if key.required then none else some none
    else some (some key)

def expireAll (s : Layout) : Option Layout := do
  let candidate ← expire s.cursor s.candidate
  let outer ← s.outer.mapM (expire s.cursor)
  return { s with candidate, outer }

/-- Moves over blanks, comments and line breaks. A tab counts as a blank where no key can start, and
within brackets. -/
def skipGap : Nat → Layout → Layout
  | 0, s => s
  | fuel + 1, s =>
    let tabs := s.inFlow || !s.keyAllowed
    let cur := s.cursor.skipWhile fun c => c = ' ' || (tabs && c = '\t')
    let cur := if startsWith (· = '#') cur.rest then cur.skipWhile (!isBreak ·) else cur
    if startsWith isBreak cur.rest then
      skipGap fuel { s with cursor := cur.nextLine, keyAllowed := s.keyAllowed || !s.inFlow }
    else { s with cursor := cur }

def documentMark (s : Layout) (token : Token) : Option Layout := do
  let s ← (s.unroll none).dropCandidate
  return { s with keyAllowed := false }.take 3 token

def openBracket (s : Layout) (token : Token) : Option Layout := do
  let s ← s.noteCandidate
  let outer := s.candidate :: s.outer
  return { s with outer, candidate := none, keyAllowed := true }.take 1 token

def closeBracket (s : Layout) (token : Token) : Option Layout := do
  let s ← s.dropCandidate
  let s : Layout :=
    match s.outer with
    | [] => s
    | candidate :: outer => { s with candidate, outer }
  return { s with keyAllowed := false }.take 1 token

def comma (s : Layout) : Option Layout := do
  let s ← s.dropCandidate
  return { s with keyAllowed := true }.take 1 .comma

/-- The dash of a block list. Within brackets it is left to be refused with its context. -/
def item (s : Layout) : Option Layout := do
  if !s.inFlow && !s.keyAllowed then none
  let s ← (s.rollHere .blockList).dropCandidate
  return { s with keyAllowed := true }.take 1 .item

def keyMark (s : Layout) : Option Layout := do
  if !s.inFlow && !s.keyAllowed then none
  let s ← (s.rollHere .blockMap).dropCandidate
  return { s with keyAllowed := !s.inFlow }.take 1 .key

/-- The colon before a value, which makes a key of the candidate if there is one. -/
def valueMark (s : Layout) : Option Layout :=
  match s.candidate with
  | some key =>
    let s := (s.emitAt key.position .key).roll key.column key.position .blockMap
    some ({ s with candidate := none, keyAllowed := false }.take 1 .value)
  | none =>
    if !s.inFlow && !s.keyAllowed then none
    else some ({ s.rollHere .blockMap with keyAllowed := !s.inFlow }.take 1 .value)

def word (s : Layout) (read : Text → Option (Token × Text)) : Option Layout := do
  let s ← s.noteCandidate
  let (token, rest) ← read s.cursor.rest
  return { s with cursor := s.cursor.moveTo rest, keyAllowed := false }.emit token

def directive (s : Layout) : Option Layout := do
  let s ← (s.unroll none).dropCandidate
  let (token, rest) ← readDirective s.cursor.rest
  return { s with cursor := (s.cursor.moveTo rest).nextLine, keyAllowed := false }.emit token

def quoted (s : Layout) (fuel : Nat) (quote : Char) : Option Layout := do
  let s ← s.noteCandidate
  let (text, cursor) ← readQuoted fuel quote s.cursor
  return { s with cursor, keyAllowed := false }.emit (.scalar false text)

def block (s : Layout) (fuel : Nat) (folded : Bool) : Option Layout := do
  let s ← s.dropCandidate
  let (text, cursor) ← readBlock fuel folded s.columns.head? s.cursor
  return { s with cursor, keyAllowed := true }.emit (.scalar false text)

def plain (s : Layout) (fuel : Nat) : Option Layout := do
  let s ← s.noteCandidate
  let indent := match s.columns with
    | [] => 0
    | column :: _ => column + 1
  let (text, broken, cursor) ← readPlain fuel s.inFlow indent s.cursor
  return { s with cursor, keyAllowed := broken }.emit (.scalar true text)

def startsPlain (inFlow : Bool) (c : Char) (t : Text) : Bool :=
  if isSpaceOrBreak c then false
  else if "-?:,[]\x7b\x7d#&*!|>'\"%@`".toList.contains c then
    (c = '-' && !startsWith isSpace t) || (!inFlow && (c = '?' || c = ':') && !endsWord t)
  else true

/-- Reads the token that starts with `c`, and what its place adds before it; `fuel` is more than the
length of what is left. -/
def next (s : Layout) (fuel : Nat) (c : Char) (t : Text) : Option Layout :=
  if s.cursor.column = 0 && c = '%' then s.directive
  else if s.cursor.atLineMark '-' then s.documentMark .documentStart
  else if s.cursor.atLineMark '.' then s.documentMark .documentEnd
  else if c = '[' then s.openBracket .listOpen
  else if c = '\x7b' then s.openBracket .mapOpen
  else if c = ']' then s.closeBracket .listClose
  else if c = '\x7d' then s.closeBracket .mapClose
  else if c = ',' then s.comma
  else if c = '-' && endsWord t then s.item
  else if c = '?' && (s.inFlow || endsWord t) then s.keyMark
  else if c = ':' && (s.inFlow || endsWord t) then s.valueMark
  else if c = '*' then s.word fun t => (readName t).map fun (name, rest) => (.alias name, rest)
  else if c = '&' then s.word fun t => (readName t).map fun (name, rest) => (.anchor name, rest)
  else if c = '!' then s.word (readTag s.inFlow)
  else if c = '|' && !s.inFlow then s.block fuel false
  else if c = '>' && !s.inFlow then s.block fuel true
  else if c = '\'' || c = '"' then s.quoted fuel c
  else if startsPlain s.inFlow c t then s.plain fuel
  else none

def run : Nat → Layout → Option (List Token)
  | 0, _ => none
  | fuel + 1, s =>
    match (skipGap (fuel + 1) s).expireAll with
    | none => none
    | some s =>
      let s := s.unroll (some s.cursor.column)
      match s.cursor.rest with
      | [] => ((s.unroll none).dropCandidate).map (·.tokens.reverse)
      | c :: t =>
        match s.next (fuel + 1) c t with
        | none => none
        | some s => run fuel s

end Layout

def tokens? (t : Text) : Option (List Token) :=
  if t.all isPrintable then Layout.run (t.length + 1) (.start t) else none

end MapLoom.Yaml
