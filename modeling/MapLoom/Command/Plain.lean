import MapLoom.Text.Basic

set_option autoImplicit false

/-!
# Plain output

Output goes to a file or a pipe, so escape sequences for a terminal are taken out of it, and so are
control characters other than tabs and line ends. A tab or a line end cuts a short sequence off.
-/
namespace MapLoom.Command

inductive EscapeState
  | outside
  | opened
  | marked
  | parameters
  | titled
  | enclosed
  deriving DecidableEq

/-- A control character that lays text out. -/
def isLayout (c : Char) : Bool := c = '\t' || c = '\n' || c = '\x0c' || c = '\r'

def isControl (c : Char) : Bool := c.toNat < 0x20 || c.toNat = 0x7F

/-- The state after a character within a sequence that a tab or a line end cuts off. -/
def EscapeState.inShort (state : EscapeState) (c : Char) : EscapeState :=
  if isControl c || 0x80 ≤ c.toNat then state
  else
    match state with
    | .opened =>
      if c.toNat < 0x30 then .marked
      else if c = '[' then .parameters
      else if c = ']' then .titled
      else if c = 'P' ∨ c = 'X' ∨ c = '^' ∨ c = '_' then .enclosed
      else .outside
    | .marked => if c.toNat < 0x30 then .marked else .outside
    | .parameters => if c.toNat < 0x40 then .parameters else .outside
    | state => state

/-- The state after a character, and whether the character is kept. -/
def EscapeState.next (state : EscapeState) (c : Char) : EscapeState × Bool :=
  if c = '\x1b' then (.opened, false)
  else if c = '\x18' ∨ c = '\x1a' then (.outside, false)
  else
    match state with
    | .outside => (.outside, isLayout c || !isControl c)
    | .titled => (if c = '\x07' then .outside else .titled, false)
    | .enclosed => (.enclosed, false)
    | state => if isLayout c then (.outside, true) else (state.inShort c, false)

def plainFrom : EscapeState → Text → Text
  | _, [] => []
  | state, c :: t =>
    let (state, kept) := state.next c
    if kept then c :: plainFrom state t else plainFrom state t

def line (t : Text) : Text := plainFrom .outside (t ++ "\n")

/-- A line that a terminal shows in a style, which ends with a sequence of its own. -/
def styledLine (t : Text) : Text := plainFrom .outside (t ++ "\x1b[0m\n")

end MapLoom.Command
