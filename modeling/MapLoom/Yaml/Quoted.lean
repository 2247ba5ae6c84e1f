import MapLoom.Text.Integer
import MapLoom.Yaml.Gap

set_option autoImplicit false

/-!
# Quoted scalars

Between single quotes only the quote itself is written twice; between double quotes a backslash
starts an escape, also of a line break.
-/
namespace MapLoom.Yaml

def escapeLetter? (c : Char) : Option Char :=
  match c with
  | '0' => some '\x00'
  | 'a' => some '\x07'
  | 'b' => some '\x08'
  | 't' => some '\t'
  | '\t' => some '\t'
  | 'n' => some '\n'
  | 'v' => some '\x0b'
  | 'f' => some '\x0c'
  | 'r' => some '\r'
  | 'e' => some '\x1b'
  | ' ' => some ' '
  | '"' => some '"'
  | '/' => some '/'
  | '\\' => some '\\'
  | 'N' => some '\u0085'
  | '_' => some '\u00a0'
  | 'L' => some '\u2028'
  | 'P' => some '\u2029'
  | _ => none

def escapeDigits? (c : Char) : Option Nat :=
  match c with
  | 'x' => some 2
  | 'u' => some 4
  | 'U' => some 8
  | _ => none

def isCodePoint (n : Nat) : Bool := n < 0xD800 || (0xDFFF < n && n ≤ 0x10FFFF)

def codePoint? (count : Nat) (t : Text) : Option Char :=
  let digits := t.take count
  if digits.length < count then none
  else
    match Text.natural? 16 digits with
    | some n => if isCodePoint n then some (Char.ofNat n) else none
    | none => none

/-- The character of an escape, and how many characters write it after its backslash. -/
def escape? : Text → Option (Char × Nat)
  | [] => none
  | c :: t =>
    match escapeLetter? c with
    | some d => some (d, 1)
    | none => (escapeDigits? c).bind fun count => (codePoint? count t).map (·, count + 1)

/-- What is read up to a blank, a line break or the closing quote, and its length as written. -/
def singleRun : Text → Text × Nat
  | [] => ([], 0)
  | '\'' :: '\'' :: t => let (run, length) := singleRun t; ('\'' :: run, length + 2)
  | c :: t =>
    if c = '\'' || isSpaceOrBreak c then ([], 0)
    else let (run, length) := singleRun t; (c :: run, length + 1)

/-- What is read up to a blank, a line break, an escaped line break or the closing quote, and its
length as written. The first characters may be passed over. -/
def doubleRun : Nat → Text → Option (Text × Nat)
  | _, [] => some ([], 0)
  | pass + 1, _ :: t => (doubleRun pass t).map fun (run, length) => (run, length + 1)
  | 0, c :: t =>
    if c = '\\' then
      if startsWith isBreak t then some ([], 0)
      else
        match escape? t with
        | some (d, pass) => (doubleRun pass t).map fun (run, length) => (d :: run, length + 1)
        | none => none
    else if c = '"' || isSpaceOrBreak c then some ([], 0)
    else (doubleRun 0 t).map fun (run, length) => (c :: run, length + 1)

def quotedRun (quote : Char) (t : Text) : Option (Text × Nat) :=
  if quote = '\'' then some (singleRun t) else doubleRun 0 t

def quotedFrom (quote : Char) : Nat → Cursor → Option (Text × Cursor)
  | 0, _ => none
  | fuel + 1, cur =>
    if cur.atDocumentMark then none
    else
      match quotedRun quote cur.rest with
      | none => none
      | some (run, length) =>
        let cur := cur.advance length
        match cur.rest with
        | [] => none
        | c :: _ =>
          if c = quote then some (run, cur.advance 1)
          else
            let (gap, cur) :=
              if c = '\\' then (Gap.escapedBreak, (cur.advance 1).nextLine) else (Gap.none, cur)
            match Gap.read 0 fuel gap cur with
            | none => none
            | some (gap, cur) =>
              (quotedFrom quote fuel cur).map fun (more, cur) => (run ++ gap.text ++ more, cur)

def readQuoted (fuel : Nat) (quote : Char) (cur : Cursor) : Option (Text × Cursor) :=
  quotedFrom quote fuel (cur.advance 1)

end MapLoom.Yaml
