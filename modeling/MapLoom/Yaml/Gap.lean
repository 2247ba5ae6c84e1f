import MapLoom.Yaml.Cursor

set_option autoImplicit false

/-!
# Folded gaps

Between two pieces of a quoted or plain scalar there are blanks and line breaks. Blanks within a
line are kept; a single break becomes a space and further breaks are kept.
-/
namespace MapLoom.Yaml

structure Gap where
  /-- The blanks, when there is no break. -/
  blanks : Text
  /-- What the first break leaves. -/
  firstBreak : Text
  moreBreaks : Text
  broken : Bool

namespace Gap

def none : Gap := ⟨[], [], [], false⟩

/-- The gap after an escaped line break, which leaves nothing. -/
def escapedBreak : Gap := ⟨[], [], [], true⟩

def text (g : Gap) : Text :=
  if g.broken then
    if g.firstBreak = "\n" then if g.moreBreaks = [] then " " else g.moreBreaks
    else g.firstBreak ++ g.moreBreaks
  else g.blanks

/-- Reads the rest of a gap. A tab must not stand for indentation that is still due. -/
def read (indent : Nat) : Nat → Gap → Cursor → Option (Gap × Cursor)
  | 0, g, cur => some (g, cur)
  | fuel + 1, g, cur =>
    match cur.rest with
    | [] => some (g, cur)
    | c :: _ =>
      if isSpace c then
        if g.broken then
          if c = '\t' ∧ cur.column < indent then .none else read indent fuel g (cur.advance 1)
        else read indent fuel { g with blanks := g.blanks ++ [c] } (cur.advance 1)
      else if isBreak c then
        let (kept, next) := cur.readBreak
        if g.broken then read indent fuel { g with moreBreaks := g.moreBreaks ++ kept } next
        else read indent fuel ⟨[], kept, [], true⟩ next
      else some (g, cur)

end Gap
end MapLoom.Yaml
