import MapLoom.Toml.Quoted
import MapLoom.Toml.Scalar

set_option autoImplicit false

/-!
# Configuration texts

A text is a list of lines: settings, table headings and headings of table lists. No key is given a
value twice, no table is opened twice, and settings with dotted keys do not reach into tables that
have a heading. Values nest at most eighty deep.
-/
namespace MapLoom.Toml

/-- How a table came to be: on the way to a heading, by its own heading, or by a dotted key. -/
inductive TableOrigin
  | implied
  | heading
  | dotted
  deriving DecidableEq

inductive Item
  | value (v : Value)
  | table (origin : TableOrigin) (entries : List (Text × Item))
  | tables (earlier : List (List (Text × Item))) (last : List (Text × Item))

abbrev Items := List (Text × Item)

def put (key : Text) (item : Item) : Items → Items
  | [] => [(key, item)]
  | (k, i) :: items => if k = key then (key, item) :: items else (k, i) :: put key item items

/-- Follows keys, the last one excepted, and edits what is there. Along a dotted key tables are made
as needed and those with a heading are closed. -/
def editAt (dotted : Bool) (edit : Text → Items → Option Items) : List Text → Items → Option Items
  | [], _ => none
  | [key], items => edit key items
  | key :: keys, items =>
    match items.lookup key with
    | none =>
      (editAt dotted edit keys []).map fun inner =>
        put key (.table (if dotted then .dotted else .implied) inner) items
    | some (.table origin inner) =>
      if dotted ∧ origin = .heading then none
      else (editAt dotted edit keys inner).map fun inner => put key (.table origin inner) items
    | some (.tables earlier last) =>
      if dotted then none
      else (editAt dotted edit keys last).map fun last => put key (.tables earlier last) items
    | some (.value _) => none

def setValue (v : Value) (key : Text) (items : Items) : Option Items :=
  if (items.lookup key).isSome then none else some (put key (.value v) items)

def openTable (key : Text) (items : Items) : Option Items :=
  match items.lookup key with
  | none => some (put key (.table .heading []) items)
  | some (.table .implied inner) => some (put key (.table .heading inner) items)
  | _ => none

def addTable (key : Text) (items : Items) : Option Items :=
  match items.lookup key with
  | none => some (put key (.tables [] []) items)
  | some (.tables earlier last) => some (put key (.tables (earlier ++ [last]) []) items)
  | _ => none

def within (edit : Items → Option Items) : List Text → Items → Option Items
  | [], items => edit items
  | key :: keys, items =>
    match items.lookup key with
    | some (.table origin inner) =>
      (within edit keys inner).map fun inner => put key (.table origin inner) items
    | some (.tables earlier last) =>
      (within edit keys last).map fun last => put key (.tables earlier last) items
    | _ => none

def Item.toValue : Item → Value
  | .value v => v
  | .table _ entries => .table (members entries)
  | .tables earlier last => .list (tableValues earlier ++ [.table (members last)])
where
  members : List (Text × Item) → List (Text × Value)
    | [] => []
    | (k, i) :: entries => (k, i.toValue) :: members entries
  tableValues : List (List (Text × Item)) → List Value
    | [] => []
    | entries :: rest => .table (members entries) :: tableValues rest

def isKeyChar (c : Char) : Bool := c.isAlphanum || c = '_' || c = '-'

/-- One part of a key: a bare word or a quoted text on one line. -/
def keyPart? (t : Text) : Option (Text × Text) :=
  match t with
  | '"' :: t => quotedLine '"' t
  | '\'' :: t => quotedLine '\'' t
  | t =>
    match t.takeWhile isKeyChar with
    | [] => none
    | key => some (key, t.dropWhile isKeyChar)

def key? : Nat → Text → Option (List Text × Text)
  | 0, _ => none
  | fuel + 1, t =>
    match keyPart? t with
    | none => none
    | some (part, rest) =>
      match rest.dropWhile isSpace with
      | '.' :: t => (key? fuel (t.dropWhile isSpace)).map fun (parts, rest) => (part :: parts, rest)
      | rest => some ([part], rest)

/-- The text after a comment, which must hold no control characters. -/
def skipComment (t : Text) : Option Text :=
  match t with
  | '#' :: t =>
    match t.dropWhile isAllowed with
    | [] => some []
    | rest => if (lineBreak? rest).isSome then some rest else none
  | t => some t

def skipLines : Nat → Text → Option Text
  | 0, t => some t
  | fuel + 1, t =>
    match skipComment (t.dropWhile isSpace) with
    | none => none
    | some rest =>
      match lineBreak? rest with
      | some rest => skipLines fuel rest
      | none => some rest

def skipAll (t : Text) : Option Text := skipLines (t.length + 1) t

def listFrom (value : Text → Option (Value × Text)) : Nat → Text → Option (List Value × Text)
  | 0, _ => none
  | fuel + 1, t => do
    match ← skipAll t with
    | ']' :: rest => return ([], rest)
    | t =>
      let (v, rest) ← value t
      match ← skipAll rest with
      | ',' :: rest =>
        let (vs, rest) ← listFrom value fuel rest
        return (v :: vs, rest)
      | ']' :: rest => return ([v], rest)
      | _ => none

def setting (value : Text → Option (Value × Text)) (t : Text) :
    Option (List Text × Value × Text) := do
  match ← key? (t.length + 1) t with
  | (keys, '=' :: rest) =>
    let (v, rest) ← value (rest.dropWhile isSpace)
    return (keys, v, rest)
  | _ => none

def tableFrom (value : Text → Option (Value × Text)) : Nat → Items → Text → Option (Items × Text)
  | 0, _, _ => none
  | fuel + 1, items, t => do
    match ← skipAll t with
    | '\x7d' :: rest => return (items, rest)
    | t =>
      let (keys, v, rest) ← setting value t
      let items ← editAt true (setValue v) keys items
      match ← skipAll rest with
      | ',' :: rest => tableFrom value fuel items rest
      | '\x7d' :: rest => return (items, rest)
      | _ => none

/-- A value within so many levels of lists and inline tables. -/
def value : Nat → Text → Option (Value × Text)
  | _, '"' :: t => (quoted '"' t).map fun (s, rest) => (.text s, rest)
  | _, '\'' :: t => (quoted '\'' t).map fun (s, rest) => (.text s, rest)
  | depth + 1, '[' :: t =>
    (listFrom (value depth) (t.length + 1) t).map fun (vs, rest) => (.list vs, rest)
  | depth + 1, '\x7b' :: t =>
    (tableFrom (value depth) (t.length + 1) [] t).map fun (items, rest) =>
      (.table (Item.toValue.members items), rest)
  | _, t => (Value.ofWord? (word t).1).map (·, (word t).2)

def lineEnd? (t : Text) : Option Text :=
  match skipComment (t.dropWhile isSpace) with
  | none => none
  | some [] => some []
  | some rest => lineBreak? rest

def heading? (t : Text) : Option (List Text × Text) :=
  key? (t.length + 1) (t.dropWhile isSpace)

/-- Reads lines from `t` on into items, under the heading with the keys `under`. -/
def linesFrom : Nat → List Text → Items → Text → Option Items
  | 0, _, _, _ => none
  | fuel + 1, under, items, t => do
    match ← skipAll t with
    | [] => return items
    | '[' :: '[' :: t =>
      match ← heading? t with
      | (keys, ']' :: ']' :: rest) =>
        let items ← editAt false addTable keys items
        linesFrom fuel keys items (← lineEnd? rest)
      | _ => none
    | '[' :: t =>
      match ← heading? t with
      | (keys, ']' :: rest) =>
        let items ← editAt false openTable keys items
        linesFrom fuel keys items (← lineEnd? rest)
      | _ => none
    | t =>
      let (keys, v, rest) ← setting (value 80) t
      let items ← within (editAt true (setValue v) keys) under items
      linesFrom fuel under items (← lineEnd? rest)

def table? (t : Text) : Option (List (Text × Value)) :=
  let t := match t with
    | '\ufeff' :: t => t
    | t => t
  (linesFrom (t.length + 1) [] [] t).map Item.toValue.members

end MapLoom.Toml
