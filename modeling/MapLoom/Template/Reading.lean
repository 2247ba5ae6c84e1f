import MapLoom.Template.Lexeme
import MapLoom.Template.Tree

set_option autoImplicit false

/-!
# Reading templates

Conditions bind `or` weakest, then `and`, then `not`, then comparisons, then filters. An alternative
with a condition of its own is a branch within the other side of the branch before it.
-/
namespace MapLoom.Template

def isReserved (name : Text) : Bool := name = "and" || name = "or" || name = "not" || name = "in"

def literalOrPath? : Lexeme → Option Expr
  | .integer n => some (.literal (.integer n))
  | .float x => some (.literal (.float x))
  | .quoted t => some (.literal (.text t))
  | .symbol _ => none
  | .word keys =>
    match keys with
    | [name] =>
      if name = "true" ∨ name = "True" then some (.literal (.bool true))
      else if name = "false" ∨ name = "False" then some (.literal (.bool false))
      else if isReserved name then none
      else some (.path [name])
    | keys => some (.path keys)

def withFilters (e : Expr) : List Lexeme → Option (Expr × List Lexeme)
  | .symbol s :: .word [name] :: rest =>
    if s = "|" then withFilters (.filtered e name) rest
    else some (e, .symbol s :: .word [name] :: rest)
  | .symbol s :: rest => if s = "|" then none else some (e, .symbol s :: rest)
  | rest => some (e, rest)

def literal? (lexeme : Lexeme) : Option Value :=
  match literalOrPath? lexeme with
  | some (.literal v) => some v
  | _ => none

/-- The arguments of a call, each a name and a literal, up to the parenthesis that closes them. -/
def arguments? : List Lexeme → Option (List (Text × Value) × List Lexeme)
  | .symbol s :: rest => if s = ")" then some ([], rest) else none
  | .word [name] :: .symbol equals :: lexeme :: .symbol s :: rest =>
    if equals = "=" then
      (literal? lexeme).bind fun v =>
        if s = "," then (arguments? rest).map fun (found, rest) => ((name, v) :: found, rest)
        else if s = ")" then some ([(name, v)], rest)
        else none
    else none
  | _ => none

def source? : List Lexeme → Option (Expr × List Lexeme)
  | [] => none
  | lexeme :: rest =>
    match literalOrPath? lexeme, rest with
    | some (.path [name]), .symbol s :: after =>
      if s = "(" then (arguments? after).map fun (found, rest) => (.call name found, rest)
      else some (.path [name], rest)
    | found, _ => found.map (·, rest)

def expr? (lexemes : List Lexeme) : Option (Expr × List Lexeme) :=
  (source? lexemes).bind fun (e, rest) => withFilters e rest

def comparison? (s : Text) : Option Comparison :=
  if s = "==" then some .eq
  else if s = "!=" then some .ne
  else if s = "<" then some .lt
  else if s = "<=" then some .le
  else if s = ">" then some .gt
  else if s = ">=" then some .ge
  else none

def compared? (lexemes : List Lexeme) : Option (Test × List Lexeme) :=
  match expr? lexemes with
  | none => none
  | some (a, .symbol s :: rest) =>
    match comparison? s with
    | some c => (expr? rest).map fun (b, rest) => (.compared c a b, rest)
    | none => some (.value a, .symbol s :: rest)
  | some (a, rest) => some (.value a, rest)

def after? (name : Text) : List Lexeme → Option (List Lexeme)
  | .word [w] :: rest => if w = name then some rest else none
  | _ => none

def negated? (lexemes : List Lexeme) : Option (Test × List Lexeme) :=
  match after? "not" lexemes with
  | some rest => (compared? rest).map fun (t, rest) => (.negated t, rest)
  | none => compared? lexemes

def bothFrom : Nat → Test → List Lexeme → Option (Test × List Lexeme)
  | 0, s, lexemes => some (s, lexemes)
  | fuel + 1, s, lexemes =>
    match after? "and" lexemes with
    | none => some (s, lexemes)
    | some rest =>
      match negated? rest with
      | some (t, rest) => bothFrom fuel (.both s t) rest
      | none => none

def both? (lexemes : List Lexeme) : Option (Test × List Lexeme) :=
  (negated? lexemes).bind fun (t, rest) => bothFrom rest.length t rest

def eitherFrom : Nat → Test → List Lexeme → Option (Test × List Lexeme)
  | 0, s, lexemes => some (s, lexemes)
  | fuel + 1, s, lexemes =>
    match after? "or" lexemes with
    | none => some (s, lexemes)
    | some rest =>
      match both? rest with
      | some (t, rest) => eitherFrom fuel (.either s t) rest
      | none => none

def test? (lexemes : List Lexeme) : Option Test :=
  match (both? lexemes).bind fun (t, rest) => eitherFrom rest.length t rest with
  | some (t, []) => some t
  | _ => none

def wholeExpr? (lexemes : List Lexeme) : Option Expr :=
  match expr? lexemes with
  | some (e, []) => some e
  | _ => none

inductive Stop
  | textEnd
  | elseIf (test : Test)
  | otherwise
  | endIf
  | endFor

/-- What a statement says: it opens a part, assigns, or ends a part. -/
inductive Statement
  | opensIf (test : Test)
  | opensFor (name : Text) (items : Expr)
  | set (name : Text) (t : Test)
  | stops (stop : Stop)

def statementAfter? (word : Text) (rest : List Lexeme) : Option Statement :=
  if word = "if" then (test? rest).map .opensIf
  else if word = "elif" then (test? rest).map fun t => .stops (.elseIf t)
  else if word = "else" then if rest.isEmpty then some (.stops .otherwise) else none
  else if word = "endif" then if rest.isEmpty then some (.stops .endIf) else none
  else if word = "endfor" then if rest.isEmpty then some (.stops .endFor) else none
  else if word = "for" then
    match rest with
    | .word [name] :: rest => ((after? "in" rest).bind wholeExpr?).map (.opensFor name)
    | _ => none
  else if word = "set" then
    match rest with
    | .word [name] :: .symbol s :: rest => if s = "=" then (test? rest).map (.set name) else none
    | _ => none
  else none

def statement? : List Lexeme → Option Statement
  | .word [word] :: rest => statementAfter? word rest
  | _ => none

mutual

/-- Reads the parts up to the next statement that ends them, which may be left for the caller. -/
def nodes? : Nat → List Piece → Option (List Node × Stop × List Piece)
  | 0, _ => none
  | _ + 1, [] => some ([], .textEnd, [])
  | fuel + 1, .text t :: pieces =>
    (nodes? fuel pieces).map fun (nodes, found) => (.text t :: nodes, found)
  | fuel + 1, .print lexemes :: pieces => do
    let t ← test? lexemes
    let (nodes, found) ← nodes? fuel pieces
    return (.print t :: nodes, found)
  | fuel + 1, .statement lexemes :: pieces => do
    match ← statement? lexemes with
    | .opensIf test =>
      let (node, pieces) ← branch? fuel test pieces
      let (nodes, found) ← nodes? fuel pieces
      return (node :: nodes, found)
    | .opensFor name items =>
      let (body, stop, pieces) ← nodes? fuel pieces
      match stop with
      | .endFor =>
        let (nodes, found) ← nodes? fuel pieces
        return (.each name items body :: nodes, found)
      | _ => none
    | .set name t =>
      let (nodes, found) ← nodes? fuel pieces
      return (.assign name t :: nodes, found)
    | .stops stop => return ([], stop, pieces)

def branch? : Nat → Test → List Piece → Option (Node × List Piece)
  | 0, _, _ => none
  | fuel + 1, test, pieces => do
    let (yes, stop, pieces) ← nodes? fuel pieces
    match stop with
    | .endIf => return (.branch test yes [], pieces)
    | .elseIf other =>
      let (node, pieces) ← branch? fuel other pieces
      return (.branch test yes [node], pieces)
    | .otherwise =>
      let (no, stop, pieces) ← nodes? fuel pieces
      match stop with
      | .endIf => return (.branch test yes no, pieces)
      | _ => none
    | _ => none

end

def ofText? (t : Text) : Option (List Node) := do
  let pieces ← pieces? t
  match ← nodes? (2 * pieces.length + 2) pieces with
  | (nodes, .textEnd, _) => return nodes
  | _ => none

end MapLoom.Template
