import MapLoom.Yaml.Token

set_option autoImplicit false

/-!
# Nodes of a document

The tree that the tokens of one document form. Anchors are numbered where their node starts: by how
many names there are before, so that a name given twice shares its second number with the next new
name. An alias has the last number that its name was given.
-/
namespace MapLoom.Yaml

inductive Node
  | alias (number : Nat)
  | scalar (anchor : Option Nat) (tag : Option Text) (plain : Bool) (text : Text)
  | list (anchor : Option Nat) (tag : Option Text) (items : List Node)
  | map (anchor : Option Nat) (tag : Option Text) (entries : List (Node × Node))

structure Source where
  tokens : List Token
  anchors : List (Text × Nat)
  handles : List (Text × Text)

abbrev Reader := StateT Source Option

namespace Node

/-- A plain scalar without text, which stands where a node is left out. -/
def empty : Node := .scalar none none true []

def peek : Reader (Option Token) := return (← get).tokens.head?

def drop : Reader Unit := modify fun s => { s with tokens := s.tokens.drop 1 }

def takes (token : Token) : Reader Bool := do
  if (← peek) = some token then
    drop
    return true
  else return false

def expect (token : Token) : Reader Unit := do
  if !(← takes token) then failure

def nextIsNot (tokens : List Token) : Reader Bool := do
  return ((← peek).all (!tokens.contains ·))

/-- The anchor and the tag before a node, in either order. -/
def properties : Reader (Option Text × Option (Text × Text)) := do
  match ← peek with
  | some (.anchor name) =>
    drop
    match ← peek with
    | some (.tag handle suffix) =>
      drop
      return (some name, some (handle, suffix))
    | _ => return (some name, none)
  | some (.tag handle suffix) =>
    drop
    match ← peek with
    | some (.anchor name) =>
      drop
      return (some name, some (handle, suffix))
    | _ => return (none, some (handle, suffix))
  | _ => return (none, none)

def fullTag : Option (Text × Text) → Reader (Option Text)
  | none => return none
  | some ([], suffix) => return some suffix
  | some (handle, suffix) => do
    match (← get).handles.lookup handle with
    | some start => return some (start ++ suffix)
    | none => failure

def nameAnchor : Option Text → Reader (Option Nat)
  | none => return none
  | some name => do
    let anchors := (← get).anchors
    let number := anchors.length
    let others := anchors.filter (·.1 ≠ name)
    modify fun s => { s with anchors := (name, number) :: others }
    return some number

mutual

/-- Reads a node. In a block it may be a block collection, and after a key also a list whose dashes
are not indented. -/
def read : Nat → Bool → Bool → Reader Node
  | 0, _, _ => failure
  | fuel + 1, inBlock, undented => do
    match ← peek with
    | some (.alias name) =>
      drop
      match (← get).anchors.lookup name with
      | some number => return .alias number
      | none => failure
    | _ =>
      let (name, written) ← properties
      let tag ← fullTag written
      match ← peek with
      | some (.scalar plain text) =>
        drop
        let anchor ← nameAnchor name
        return .scalar anchor (tag.filter (· ≠ "!")) plain text
      | some .listOpen =>
        drop
        let anchor ← nameAnchor name
        return .list anchor tag (← flowItems fuel true)
      | some .mapOpen =>
        drop
        let anchor ← nameAnchor name
        return .map anchor tag (← flowEntries fuel true)
      | token =>
        if undented && token = some .item then
          let anchor ← nameAnchor name
          return .list anchor tag (← undentedItems fuel)
        else if inBlock && token = some .blockList then
          drop
          let anchor ← nameAnchor name
          return .list anchor tag (← blockItems fuel)
        else if inBlock && token = some .blockMap then
          drop
          let anchor ← nameAnchor name
          return .map anchor tag (← blockEntries fuel)
        else if name.isSome || tag.isSome then
          return .scalar (← nameAnchor name) tag true []
        else failure

def blockItems : Nat → Reader (List Node)
  | 0 => failure
  | fuel + 1 => do
    if ← takes .item then
      let item ← if ← nextIsNot [.item, .blockEnd] then read fuel true false else pure empty
      return item :: (← blockItems fuel)
    else
      expect .blockEnd
      return []

def undentedItems : Nat → Reader (List Node)
  | 0 => failure
  | fuel + 1 => do
    if ← takes .item then
      let item ←
        if ← nextIsNot [.item, .key, .value, .blockEnd] then read fuel true false else pure empty
      return item :: (← undentedItems fuel)
    else return []

def blockEntries : Nat → Reader (List (Node × Node))
  | 0 => failure
  | fuel + 1 => do
    if ← takes .key then
      let key ← if ← nextIsNot [.key, .value, .blockEnd] then read fuel true true else pure empty
      let value ← blockValue fuel
      return (key, value) :: (← blockEntries fuel)
    else
      expect .blockEnd
      return []

def blockValue : Nat → Reader Node
  | 0 => failure
  | fuel + 1 => do
    if ← takes .value then
      if ← nextIsNot [.key, .value, .blockEnd] then read fuel true true else return empty
    else return empty

/-- Reads the rest of a list in brackets. An element with a colon, or with a question mark before
it, is a mapping of one entry. -/
def flowItems : Nat → Bool → Reader (List Node)
  | 0, _ => failure
  | fuel + 1, first => do
    if ← takes .listClose then return []
    if !first then expect .comma
    if ← takes .key then
      let item ← flowPair fuel
      return item :: (← flowItems fuel false)
    else if ← takes .listClose then return []
    else
      let item ← read fuel false false
      return item :: (← flowItems fuel false)

/-- Reads a mapping of one entry. Where its key is left out, the token that shows this is passed
over. -/
def flowPair : Nat → Reader Node
  | 0 => failure
  | fuel + 1 => do
    let key ←
      if ← nextIsNot [.value, .comma, .listClose] then read fuel false false
      else
        drop
        pure empty
    let value ←
      if ← takes .value then
        if ← nextIsNot [.comma, .listClose] then read fuel false false else pure empty
      else pure empty
    return .map none none [(key, value)]

def flowEntries : Nat → Bool → Reader (List (Node × Node))
  | 0, _ => failure
  | fuel + 1, first => do
    if ← takes .mapClose then return []
    if !first then expect .comma
    if ← takes .key then
      let key ←
        if ← nextIsNot [.value, .comma, .mapClose] then read fuel false false else pure empty
      let value ←
        if ← takes .value then
          if ← nextIsNot [.comma, .mapClose] then read fuel false false else pure empty
        else pure empty
      return (key, value) :: (← flowEntries fuel false)
    else if ← takes .mapClose then return []
    else
      let key ← read fuel false false
      return (key, empty) :: (← flowEntries fuel false)

end

/-- Reads the directives before a document: one version at most, and no handle twice. -/
def directives : Nat → Bool → List (Text × Text) → Reader Unit
  | 0, _, _ => failure
  | fuel + 1, versioned, handles => do
    match ← peek with
    | some (.version major minor) =>
      drop
      if versioned || major ≠ 1 || (minor ≠ 1 && minor ≠ 2) then failure
      directives fuel true handles
    | some (.handle name start) =>
      drop
      if (handles.lookup name).isSome then failure
      directives fuel versioned ((name, start) :: handles)
    | _ => modify fun s => { s with handles := handles ++ s.handles }

def isExplicit : Option Token → Bool
  | some (.version ..) => true
  | some (.handle ..) => true
  | some .documentStart => true
  | _ => false

def content (fuel : Nat) : Reader Node := do
  let next ← peek
  if next.isNone || next = some .documentEnd || isExplicit next then return empty
  else read fuel true false

/-- Reads the only document. There may be nothing but end marks after it. -/
def document (fuel : Nat) : Reader Node := do
  let root ←
    if isExplicit (← peek) then do
      directives fuel false []
      expect .documentStart
      content fuel
    else read fuel true false
  if (← get).tokens.all (· = .documentEnd) then return root else failure

/-- The tree of a token list with one document; `none` inside where there is no document at all. -/
def ofTokens? (tokens : List Token) : Option (Option Node) :=
  match tokens with
  | [] => some none
  | _ =>
    let source : Source := ⟨tokens, [], [("!", "!"), ("!!", "tag:yaml.org,2002:")]⟩
    ((document (4 * tokens.length + 4)).run source).map (some ·.1)

end Node
end MapLoom.Yaml
