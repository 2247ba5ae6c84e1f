import MapLoom.Text.Blank
import MapLoom.Text.Lines

set_option autoImplicit false

/-!
# Assembling a text

Spans and block contents alternate. A content takes the line ends of the marker line before it.
-/
namespace MapLoom

/-- Ends every line with a carriage return and a line feed; a last line without an end
keeps none. -/
def toCrlf (content : Text) : Text :=
  content.lines.flatMap fun line =>
    if line.getLast? = some '\n' then Text.lineBody line ++ ['\r', '\n'] else line

/-- A content with the line ends of the span before it. -/
def adapted (span content : Text) : Text :=
  if List.isSuffixOf ['\r', '\n'] span then toCrlf content else content

/-- Alternates spans and contents; spans left over follow in order. -/
def assemble : List Text → List Text → Text
  | [], _ => []
  | span :: spans, [] => span ++ assemble spans []
  | span :: spans, content :: contents =>
    span ++ adapted span content ++ assemble spans contents

/-- Drops the blanks at the end of every line, and ends the last line with a line feed. -/
def normalize (t : Text) : Text := Text.join "\n" (t.lines.map Text.trimEnd) ++ "\n"

end MapLoom
