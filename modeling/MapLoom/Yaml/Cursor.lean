import MapLoom.Text.Basic

set_option autoImplicit false

/-!
# Places in a document text

A cursor is the text that is still to be read together with the line and the column it starts at.
Lines end with a line feed, a carriage return, both, or one of three other breaks; a scalar keeps
the first three as line feeds.
-/
namespace MapLoom.Yaml

def isPrintable (c : Char) : Bool :=
  let n := c.toNat
  n = 9 || n = 10 || n = 13 || (0x20 ≤ n && n ≤ 0x7E) || n = 0x85 || (0xA0 ≤ n && n ≤ 0xD7FF) ||
    (0xE000 ≤ n && n ≤ 0xFFFD && n ≠ 0xFEFF) || 0x10000 ≤ n

def isSpace (c : Char) : Bool := c = ' ' || c = '\t'

def isBreak (c : Char) : Bool :=
  c = '\n' || c = '\r' || c = '\u0085' || c = '\u2028' || c = '\u2029'

def isSpaceOrBreak (c : Char) : Bool := isSpace c || isBreak c

def endsWord : Text → Bool
  | [] => true
  | c :: _ => isSpaceOrBreak c

def startsWith (p : Char → Bool) : Text → Bool
  | [] => false
  | c :: _ => p c

/-- Characters of anchors, aliases, tag handles and directive names. -/
def isWordChar (c : Char) : Bool := c.isAlphanum || c = '_' || c = '-'

structure Cursor where
  rest : Text
  index : Nat
  line : Nat
  column : Nat

namespace Cursor

def start (t : Text) : Cursor := ⟨t, 0, 0, 0⟩

def advance (cur : Cursor) (n : Nat) : Cursor :=
  { cur with rest := cur.rest.drop n, index := cur.index + n, column := cur.column + n }

def moveTo (cur : Cursor) (rest : Text) : Cursor := cur.advance (cur.rest.length - rest.length)

def skipWhile (cur : Cursor) (p : Char → Bool) : Cursor :=
  cur.advance (cur.rest.takeWhile p).length

/-- Moves over a line break, and says what a scalar keeps of it. -/
def readBreak (cur : Cursor) : Text × Cursor :=
  match cur.rest with
  | '\r' :: '\n' :: t => ("\n", ⟨t, cur.index + 2, cur.line + 1, 0⟩)
  | c :: t =>
    if isBreak c then
      (if c = '\u2028' ∨ c = '\u2029' then [c] else "\n", ⟨t, cur.index + 1, cur.line + 1, 0⟩)
    else ([], cur)
  | [] => ([], cur)

def nextLine (cur : Cursor) : Cursor := cur.readBreak.2

/-- Whether a line starts here with three equal marks that stand alone. -/
def atLineMark (cur : Cursor) (mark : Char) : Bool :=
  cur.column = 0 &&
    match cur.rest with
    | a :: b :: c :: t => a = mark && b = mark && c = mark && endsWord t
    | _ => false

def atDocumentMark (cur : Cursor) : Bool := cur.atLineMark '-' || cur.atLineMark '.'

end Cursor
end MapLoom.Yaml
