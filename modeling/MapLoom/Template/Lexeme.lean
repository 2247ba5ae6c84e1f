import MapLoom.Decimal.Reading
import MapLoom.Template.Value
import MapLoom.Text.Blank

set_option autoImplicit false

/-!
# The pieces of a template text

Tags stand in doubled braces or in braces with percent signs, comments in braces with number signs.
A hyphen inside either end of a tag takes the blanks off the text next to it.
-/
namespace MapLoom.Template

inductive Lexeme
  | word (path : List Text)
  | integer (n : Int)
  | float (x : Binary64)
  | quoted (t : Text)
  | symbol (t : Text)
  deriving DecidableEq

/-- What a template text consists of: text, a printed value, or a statement. -/
inductive Piece
  | text (t : Text)
  | print (lexemes : List Lexeme)
  | statement (lexemes : List Lexeme)
  deriving DecidableEq

def isTagSpace (c : Char) : Bool := c = ' ' || c = '\t' || c = '\r' || c = '\n'

def isWordStart (c : Char) : Bool := c.isAlpha || c = '_'

def isWordChar (c : Char) : Bool := c.isAlphanum || c = '_'

def pathKeys : Nat → Text → Option (List Text × Text)
  | 0, t => some ([], t)
  | fuel + 1, '.' :: t =>
    match t.takeWhile isWordChar with
    | [] => none
    | key => (pathKeys fuel (t.dropWhile isWordChar)).map fun (keys, rest) => (key :: keys, rest)
  | _ + 1, t => some ([], t)

/-- An integer without leading zeros that fits 64 bits with a sign, or digits with a point
between. -/
def numberLexeme? (negative : Bool) (t : Text) : Option (Lexeme × Text) :=
  let digits := t.takeWhile Text.isDigit
  let rest := t.dropWhile Text.isDigit
  if digits ≠ ['0'] ∧ digits.head? = some '0' then none
  else
    match rest with
    | '.' :: rest =>
      match rest.takeWhile Text.isDigit with
      | [] => none
      | fraction =>
        (Decimal.unsigned? negative (digits ++ '.' :: fraction)).map fun x =>
          (.float x, rest.dropWhile Text.isDigit)
    | _ =>
      match Text.natural? 10 digits with
      | none => none
      | some n =>
        let n : Int := if negative then -(n : Int) else n
        if fitsSigned 64 n then some (.integer n, rest) else none

def symbols : List Text := ["==", "!=", ">=", "<=", ">", "<", "=", "|", "(", ")", ","]

def symbolLexeme? (t : Text) : Option (Lexeme × Text) :=
  symbols.findSome? fun s => (List.isPrefixOf? s t).map fun rest => (.symbol s, rest)

def lexeme? (c : Char) (t : Text) : Option (Lexeme × Text) :=
  if isWordStart c then
    let name := (c :: t).takeWhile isWordChar
    (pathKeys t.length ((c :: t).dropWhile isWordChar)).map fun (keys, rest) =>
      (.word (name :: keys), rest)
  else if Text.isDigit c then numberLexeme? false (c :: t)
  else if c = '-' then if t.head?.any Text.isDigit then numberLexeme? true t else none
  else if c = '"' ∨ c = '\'' ∨ c = '\x60' then
    match t.dropWhile (· ≠ c) with
    | _ :: rest => some (.quoted (t.takeWhile (· ≠ c)), rest)
    | [] => none
  else symbolLexeme? (c :: t)

/-- The lexemes of a tag that ends with the character `close` and a brace, whether its end takes
blanks off the text after it, and that text. -/
def tagLexemes (close : Char) : Nat → Text → Option (List Lexeme × Bool × Text)
  | 0, _ => none
  | fuel + 1, t =>
    match t.dropWhile isTagSpace with
    | [] => none
    | c :: t =>
      match List.isPrefixOf? ['-', close, '\x7d'] (c :: t) with
      | some rest => some ([], true, rest)
      | none =>
        match List.isPrefixOf? [close, '\x7d'] (c :: t) with
        | some rest => some ([], false, rest)
        | none =>
          match lexeme? c t with
          | some (lexeme, rest) =>
            (tagLexemes close fuel rest).map fun (lexemes, found) => (lexeme :: lexemes, found)
          | none => none

def plainText : Text → Text × Text
  | [] => ([], [])
  | '\x7b' :: c :: t =>
    if c = '\x7b' ∨ c = '%' ∨ c = '#' then ([], '\x7b' :: c :: t)
    else let (text, rest) := plainText (c :: t); ('\x7b' :: text, rest)
  | c :: t => let (text, rest) := plainText t; (c :: text, rest)

def dropHyphen : Text → Bool × Text
  | '-' :: t => (true, t)
  | t => (false, t)

/-- Takes blanks off the start and the end of a text where hyphens ask for it. -/
def trimmed (start stop : Bool) (t : Text) : Text :=
  let t := if start then t.trimStart else t
  if stop then t.trimEnd else t

/-- Whether the statement that ends literal text stands at the start of a text; its hyphens and the
text after it. -/
def endRaw? (t : Text) : Option (Bool × Bool × Text) :=
  match t with
  | '\x7b' :: '%' :: t =>
    let (before, t) := dropHyphen t
    match tagLexemes '%' 2 t with
    | some (lexemes, after, rest) =>
      if lexemes = [.word ["endraw"]] then some (before, after, rest) else none
    | none => none
  | _ => none

def rawText : Text → Option (Text × Bool × Bool × Text)
  | [] => none
  | c :: t =>
    match endRaw? (c :: t) with
    | some found => some ([], found)
    | none => (rawText t).map fun (text, found) => (c :: text, found)

def textBefore (t : Text) (pieces : List Piece) : List Piece :=
  if t = [] then pieces else .text t :: pieces

/-- Cuts a template text into pieces; `start` tells whether its first blanks are taken off. -/
def piecesFrom : Nat → Bool → Text → Option (List Piece)
  | 0, _, _ => none
  | fuel + 1, start, t =>
    match plainText t with
    | (text, '\x7b' :: kind :: rest) =>
      let (hyphen, rest) := dropHyphen rest
      let text := trimmed start hyphen text
      if kind = '#' then
        match rest.cut? "#\x7d" with
        | some (comment, rest) =>
          (piecesFrom fuel (comment.getLast? = some '-') rest).map (textBefore text)
        | none => none
      else if kind = '%' then
        match tagLexemes '%' (rest.length + 1) rest with
        | some (lexemes, after, rest) =>
          if lexemes = [.word ["raw"]] then
            match rawText rest with
            | some (raw, before, next, rest) =>
              (piecesFrom fuel next rest).map fun pieces =>
                textBefore text (textBefore (trimmed after before raw) pieces)
            | none => none
          else
            (piecesFrom fuel after rest).map fun pieces =>
              textBefore text (.statement lexemes :: pieces)
        | none => none
      else
        match tagLexemes '\x7d' (rest.length + 1) rest with
        | some (lexemes, after, rest) =>
          (piecesFrom fuel after rest).map fun pieces =>
            textBefore text (.print lexemes :: pieces)
        | none => none
    | (text, _) => some (textBefore (trimmed start false text) [])

def pieces? (t : Text) : Option (List Piece) := piecesFrom (t.length + 1) false t

end MapLoom.Template
