import MapLoom.Text.Basic

set_option autoImplicit false

/-!
# Lines

A line keeps the line feed that ends it; only the last line of a text may lack one. Joining the
lines gives the text back.
-/
namespace MapLoom.Text

def lines : Text → List Text
  | [] => []
  | c :: t =>
    if c = '\n' then [c] :: lines t
    else
      match lines t with
      | [] => [[c]]
      | line :: rest => (c :: line) :: rest

@[simp] theorem flatten_lines (t : Text) : (lines t).flatten = t := by
  induction t with
  | nil => rfl
  | cons c t ih =>
    unfold lines
    split
    · simp [ih]
    · split
      · rename_i h
        simp_all
      · rename_i h
        simp_all

/-- A line without its line feed and without one carriage return before that. -/
def lineBody (line : Text) : Text :=
  match line.reverse with
  | '\n' :: '\r' :: body => body.reverse
  | '\n' :: body => body.reverse
  | _ => line

end MapLoom.Text
