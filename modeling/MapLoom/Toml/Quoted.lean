import MapLoom.Text.Integer

set_option autoImplicit false

/-!
# Quoted texts of a configuration text

A basic text has escapes and a literal one has none; three quotes open a text of several lines,
whose first line break does not count and which may end in up to two quotes of its own.
-/
namespace MapLoom.Toml

def isAllowed (c : Char) : Bool := c = '\t' || (0x20 ≤ c.toNat && c.toNat ≠ 0x7F)

def isSpace (c : Char) : Bool := c = ' ' || c = '\t'

def lineBreak? : Text → Option Text
  | '\n' :: t => some t
  | '\r' :: '\n' :: t => some t
  | _ => none

def codePoint? (count : Nat) (t : Text) : Option (Char × Text) :=
  if t.length < count then none
  else
    match Text.natural? 16 (t.take count) with
    | some n =>
      if n < 0xD800 ∨ (0xDFFF < n ∧ n ≤ 0x10FFFF) then some (Char.ofNat n, t.drop count) else none
    | none => none

def escape? : Text → Option (Char × Text)
  | 'b' :: t => some ('\x08', t)
  | 't' :: t => some ('\t', t)
  | 'n' :: t => some ('\n', t)
  | 'f' :: t => some ('\x0c', t)
  | 'r' :: t => some ('\r', t)
  | 'e' :: t => some ('\x1b', t)
  | '"' :: t => some ('"', t)
  | '\\' :: t => some ('\\', t)
  | 'x' :: t => codePoint? 2 t
  | 'u' :: t => codePoint? 4 t
  | 'U' :: t => codePoint? 8 t
  | _ => none

def oneLine (quote : Char) : Nat → Text → Option (Text × Text)
  | 0, _ => none
  | _ + 1, [] => none
  | fuel + 1, c :: t =>
    if c = quote then some ([], t)
    else if quote = '"' ∧ c = '\\' then
      match escape? t with
      | some (d, t) => (oneLine quote fuel t).map fun (s, rest) => (d :: s, rest)
      | none => none
    else if isAllowed c then (oneLine quote fuel t).map fun (s, rest) => (c :: s, rest)
    else none

def skipBlanks : Nat → Text → Text
  | 0, t => t
  | fuel + 1, t =>
    match lineBreak? (t.dropWhile isSpace) with
    | some rest => skipBlanks fuel rest
    | none => t.dropWhile isSpace

def severalLines (quote : Char) : Nat → Text → Option (Text × Text)
  | 0, _ => none
  | _ + 1, [] => none
  | fuel + 1, c :: t =>
    if c = quote then
      let quotes := ((c :: t).takeWhile (· = quote)).length
      if 5 < quotes then none
      else if 3 ≤ quotes then some (List.replicate (quotes - 3) quote, (c :: t).drop quotes)
      else (severalLines quote fuel t).map fun (s, rest) => (c :: s, rest)
    else if quote = '"' ∧ c = '\\' then
      match lineBreak? (t.dropWhile isSpace) with
      | some rest => severalLines quote fuel (skipBlanks rest.length rest)
      | none =>
        match escape? t with
        | some (d, t) => (severalLines quote fuel t).map fun (s, rest) => (d :: s, rest)
        | none => none
    else
      match lineBreak? (c :: t) with
      | some rest => (severalLines quote fuel rest).map fun (s, rest) => ('\n' :: s, rest)
      | none =>
        if isAllowed c then (severalLines quote fuel t).map fun (s, rest) => (c :: s, rest)
        else none

def quotedLine (quote : Char) (t : Text) : Option (Text × Text) := oneLine quote (t.length + 1) t

def quoted (quote : Char) (t : Text) : Option (Text × Text) :=
  match t with
  | a :: b :: rest =>
    if a = quote ∧ b = quote then
      severalLines quote (rest.length + 1) ((lineBreak? rest).getD rest)
    else quotedLine quote t
  | _ => quotedLine quote t

end MapLoom.Toml
