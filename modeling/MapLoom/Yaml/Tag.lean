import MapLoom.Text.Integer
import MapLoom.Yaml.Cursor
import MapLoom.Yaml.Token

set_option autoImplicit false

/-!
# Tags, anchors and directives

Each reader takes the text from its mark on and gives a token and the text after it.
-/
namespace MapLoom.Yaml

/-- A handle: an exclamation mark, alone or with a name and a second mark after it. A directive may
not leave the second mark out after a name. -/
def tagHandle (inDirective : Bool) : Text → Option (Text × Text)
  | '!' :: t =>
    let name := t.takeWhile isWordChar
    match t.dropWhile isWordChar with
    | '!' :: rest => some ('!' :: name ++ "!", rest)
    | rest => if inDirective ∧ name ≠ [] then none else some ('!' :: name, rest)
  | _ => none

def isTagChar (verbatim : Bool) (c : Char) : Bool :=
  isWordChar c || ";/?:@&=+$.%!~*'()".toList.contains c || (verbatim && ",[]".toList.contains c)

def percentByte? : Text → Option (Nat × Text)
  | '%' :: a :: b :: t => (Text.natural? 16 [a, b]).map (·, t)
  | _ => none

/-- Appends the low bits of so many continuation bytes to the bits of a code point. -/
def continuation? : Nat → Nat → Text → Option (Nat × Text)
  | 0, n, t => some (n, t)
  | count + 1, n, t =>
    match percentByte? t with
    | some (byte, rest) =>
      if byte / 64 = 2 then continuation? count (n * 64 + byte % 64) rest else none
    | none => none

def percentChar? (t : Text) : Option (Char × Text) := do
  let (byte, t) ← percentByte? t
  let (n, t) ←
    if byte < 0x80 then some (byte, t)
    else if byte / 32 = 6 then continuation? 1 (byte % 32) t
    else if byte / 16 = 14 then continuation? 2 (byte % 16) t
    else if byte / 8 = 30 then continuation? 3 (byte % 8) t
    else none
  if n < 0xD800 ∨ (0xDFFF < n ∧ n ≤ 0x10FFFF) then some (Char.ofNat n, t) else none

/-- The longest run of characters that a tag may hold, with its escapes decoded. -/
def tagChars (verbatim : Bool) : Nat → Text → Option (Text × Text)
  | 0, t => some ([], t)
  | _ + 1, [] => some ([], [])
  | fuel + 1, c :: t =>
    if c = '%' then
      match percentChar? (c :: t) with
      | some (d, rest) => (tagChars verbatim fuel rest).map fun (s, rest) => (d :: s, rest)
      | none => none
    else if isTagChar verbatim c then
      (tagChars verbatim fuel t).map fun (s, rest) => (c :: s, rest)
    else some ([], c :: t)

/-- As `tagChars`, but the run must not be empty. -/
def tagChars? (verbatim : Bool) (t : Text) : Option (Text × Text) :=
  match tagChars verbatim t.length t with
  | some ([], _) => none
  | found => found

/-- A tag in angle brackets, with a handle, or local with a single mark. -/
def tagToken? (t : Text) : Option (Token × Text) :=
  match t with
  | '!' :: '<' :: t =>
    match tagChars? true t with
    | some (name, '>' :: rest) => some (.tag [] name, rest)
    | _ => none
  | _ =>
    match tagHandle false t with
    | none => none
    | some (handle, rest) =>
      if 1 < handle.length ∧ handle.getLast? = some '!' then
        (tagChars? false rest).map fun (suffix, rest) => (.tag handle suffix, rest)
      else
        (tagChars false rest.length rest).map fun (more, rest) =>
          match handle.drop 1 ++ more with
          | [] => (.tag [] "!", rest)
          | suffix => (.tag "!" suffix, rest)

/-- Reads a tag, which must stand alone or, within brackets, before a comma. -/
def readTag (inFlow : Bool) (t : Text) : Option (Token × Text) :=
  (tagToken? t).filter fun (_, rest) => endsWord rest || (inFlow && startsWith (· = ',') rest)

def readName (t : Text) : Option (Text × Text) :=
  let name := (t.drop 1).takeWhile isWordChar
  let rest := (t.drop 1).dropWhile isWordChar
  if name ≠ [] ∧ (endsWord rest || startsWith ("?:,]\x7d%@`".toList.contains ·) rest) then
    some (name, rest)
  else none

def versionNumber? (t : Text) : Option (Nat × Text) :=
  let digits := t.takeWhile Text.isDigit
  if 9 < digits.length then none
  else (Text.natural? 10 digits).map (·, t.dropWhile Text.isDigit)

def versionDirective? (t : Text) : Option (Token × Text) :=
  match versionNumber? (t.dropWhile isSpace) with
  | some (major, '.' :: t) => (versionNumber? t).map fun (minor, t) => (.version major minor, t)
  | _ => none

def handleDirective? (t : Text) : Option (Token × Text) := do
  let (name, t) ← tagHandle true (t.dropWhile isSpace)
  if !startsWith isSpace t then none
  let (start, t) ← tagChars? true (t.dropWhile isSpace)
  if endsWord t then some (.handle name start, t) else none

def readDirective (t : Text) : Option (Token × Text) := do
  let name := (t.drop 1).takeWhile isWordChar
  let rest := (t.drop 1).dropWhile isWordChar
  if !endsWord rest then none
  let (token, rest) ←
    if name = "YAML" then versionDirective? rest
    else if name = "TAG" then handleDirective? rest
    else none
  let rest := rest.dropWhile isSpace
  let rest := if startsWith (· = '#') rest then rest.dropWhile (!isBreak ·) else rest
  if rest = [] ∨ startsWith isBreak rest then some (token, rest) else none

end MapLoom.Yaml
