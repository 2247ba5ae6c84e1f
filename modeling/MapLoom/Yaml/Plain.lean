import MapLoom.Yaml.Gap

set_option autoImplicit false

/-!
# Plain scalars

A plain scalar ends at a colon before a blank, at a comment, at a line that is not indented enough,
and within brackets also at a comma or a bracket.
-/
namespace MapLoom.Yaml

def isBracket (c : Char) : Bool := c = '[' || c = ']' || c = '\x7b' || c = '\x7d'

/-- The characters up to a blank or the end of the scalar. Within brackets a colon must not stand
before a comma, a question mark or a bracket. -/
def plainRun (inFlow : Bool) : Text → Option (Text × Text)
  | [] => some ([], [])
  | c :: t =>
    if isSpaceOrBreak c then some ([], c :: t)
    else if inFlow && c = ':' && startsWith (fun d => d = ',' || d = '?' || isBracket d) t then none
    else if (c = ':' && endsWord t) || (inFlow && (c = ',' || isBracket c)) then some ([], c :: t)
    else (plainRun inFlow t).map fun (run, rest) => (c :: run, rest)

/-- Reads on in a plain scalar whose further lines need so much indentation; `gap` is what stands
before the cursor. The answer also tells whether a line break was read after the text. -/
def plainFrom (inFlow : Bool) (indent : Nat) : Nat → Gap → Cursor → Option (Text × Bool × Cursor)
  | 0, _, _ => none
  | fuel + 1, gap, cur =>
    if cur.atDocumentMark || startsWith (· = '#') cur.rest then some ([], gap.broken, cur)
    else
      match plainRun inFlow cur.rest with
      | none => none
      | some ([], _) => some ([], gap.broken, cur)
      | some (run, rest) =>
        let read := gap.text ++ run
        let cur := cur.advance run.length
        if startsWith isSpaceOrBreak rest then
          match Gap.read indent fuel .none cur with
          | none => none
          | some (gap, cur) =>
            if !inFlow && cur.column < indent then some (read, gap.broken, cur)
            else
              (plainFrom inFlow indent fuel gap cur).map fun (more, broken, cur) =>
                (read ++ more, broken, cur)
        else some (read, false, cur)

def readPlain (fuel : Nat) (inFlow : Bool) (indent : Nat) (cur : Cursor) :
    Option (Text × Bool × Cursor) :=
  plainFrom inFlow indent fuel .none cur

end MapLoom.Yaml
