import MapLoom.Weave.Marker

set_option autoImplicit false

/-!
# Scanning for blocks

A text is cut into hand-written spans and the blocks between them. The marker lines belong to the
spans, so a block is only what stands between two markers. When the last block is never closed the
whole text is one span.
-/
namespace MapLoom

/-- The lines of a block's markers, counted from zero, and the generator it names. -/
structure Block where
  start : Nat
  stop : Nat
  tag : Text
  deriving DecidableEq

def Block.listing (file : Text) (b : Block) : Text :=
  List.replicate 20 '-' ++ "\nCalGen Module: " ++ b.tag ++ "\nFile:" ++ file ++ "\nLines: " ++
    Text.ofNat (b.start + 1) ++ " - " ++ Text.ofNat (b.stop + 1) ++ "\nargs: \x7b\x7d\n"

/-- Blocks and the spans around them, of which there is one more. -/
structure Scanned where
  blocks : List Block
  spans : List Text
  deriving DecidableEq

/-- A fault in a text and the line it was found at, counted from zero. -/
structure BlockError where
  line : Nat
  fault : BlockFault
  deriving DecidableEq

def BlockError.message (file : Text) (e : BlockError) : Text :=
  "CalGen Error - " ++ file ++ ":" ++ Text.ofNat e.line ++ ": " ++ e.fault.reason

inductive ScanState
  | outside
  | inside (start : Nat) (tag : Text)
  deriving DecidableEq

namespace Scanned

def prepend (line : Text) (s : Scanned) : Scanned :=
  match s.spans with
  | [] => { s with spans := [line] }
  | span :: spans => { s with spans := (line ++ span) :: spans }

def prependSpan (line : Text) (s : Scanned) : Scanned := { s with spans := line :: s.spans }

def prependBlock (b : Block) (s : Scanned) : Scanned := { s with blocks := b :: s.blocks }

/-- Scans the lines from the `i`-th on. There is no result when a block stays open. -/
def ofLines (sentinel : Text) :
    ScanState → Nat → List Text → Except BlockError (Option Scanned)
  | .outside, _, [] => .ok (some ⟨[], [[]]⟩)
  | .inside .., _, [] => .ok none
  | .outside, i, line :: lines =>
    match LineKind.ofLine sentinel line with
    | .hand => (ofLines sentinel .outside (i + 1) lines).map (·.map (prepend line))
    | .opening =>
      match markerTag line with
      | .error fault => .error ⟨i, fault⟩
      | .ok tag => (ofLines sentinel (.inside i tag) (i + 1) lines).map (·.map (prependSpan line))
    | .closing => .error ⟨i, .neverOpened⟩
    | .malformed => .error ⟨i, .noBrace⟩
  | .inside start tag, i, line :: lines =>
    match LineKind.ofLine sentinel line with
    | .hand => ofLines sentinel (.inside start tag) (i + 1) lines
    | .opening => .error ⟨i, .nested start⟩
    | .closing =>
      (ofLines sentinel .outside (i + 1) lines).map
        (·.map fun s => (s.prepend line).prependBlock ⟨start, i, tag⟩)
    | .malformed => .error ⟨i, .noBrace⟩

end Scanned

def scan (sentinel t : Text) : Except BlockError Scanned :=
  (Scanned.ofLines sentinel .outside 0 t.lines).map (·.getD ⟨[], [t]⟩)

/-- What stands in each block of the text that was scanned. -/
def Scanned.interiors (s : Scanned) (t : Text) : List Text :=
  s.blocks.map fun b => ((t.lines.take b.stop).drop (b.start + 1)).flatten

end MapLoom
