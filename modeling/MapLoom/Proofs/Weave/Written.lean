import MapLoom.Proofs.Text.Blank
import MapLoom.Proofs.Weave.Gate
import MapLoom.Proofs.Weave.Rescan

set_option autoImplicit false

/-!
# Written files

A file is written in pieces, each a hand-written text and a block between its markers. What is
written is a frame, so a scan gives the pieces back.
-/
namespace MapLoom
open Text

/-- How the marker lines of a file begin: a comment leader, and the sentinel. -/
structure MarkerStyle where
  leader : Text
  sentinel : Text
  leader_bar : '|' ∉ leader
  leader_newline : '\n' ∉ leader
  sentinel_bar : '|' ∉ sentinel
  sentinel_newline : '\n' ∉ sentinel

/-- A hand-written text, and a block after it. -/
structure Piece (sentinel : Text) where
  hand : Text
  tag : Text
  interior : Text
  hand_whole : Whole hand
  hand_plain : ∀ line ∈ hand.lines, hasInfix sentinel line = false
  interior_whole : Whole interior
  interior_plain : ∀ line ∈ interior.lines, hasInfix sentinel line = false
  tag_ne : tag ≠ []
  tag_head : ∀ c ∈ tag.head?, isBlank c = false
  tag_last : ∀ c ∈ tag.getLast?, isBlank c = false
  tag_bar : '|' ∉ tag
  tag_brace : '\x7b' ∉ tag
  tag_newline : '\n' ∉ tag

namespace MarkerStyle

def opening (m : MarkerStyle) (tag : Text) : Text :=
  m.leader ++ m.sentinel ++ " | " ++ tag ++ " \x7b\n"

def closing (m : MarkerStyle) : Text := m.leader ++ m.sentinel ++ " \x7d\n"

def write (m : MarkerStyle) (pieces : List (Piece m.sentinel)) (tail : Text) : Text :=
  match pieces with
  | [] => tail
  | p :: pieces => p.hand ++ m.opening p.tag ++ p.interior ++ m.closing ++ m.write pieces tail

/-- The hand-written texts with the marker lines around them, where `lead` stands before the first
one. -/
def spansFrom (m : MarkerStyle) (lead : Text) (pieces : List (Piece m.sentinel)) (tail : Text) :
    List Text :=
  match pieces with
  | [] => [lead ++ tail]
  | p :: pieces => (lead ++ p.hand ++ m.opening p.tag) :: m.spansFrom m.closing pieces tail

end MarkerStyle

namespace MarkerStyle
variable (m : MarkerStyle) {tag : Text}

theorem sentinel_infix (before after : Text) :
    hasInfix m.sentinel (before ++ m.sentinel ++ after) = true :=
  hasInfix_iff.2 ⟨before, after, rfl⟩

@[simp] theorem kind_opening (tag : Text) :
    LineKind.ofLine m.sentinel (m.opening tag) = .opening := by
  have hin : hasInfix m.sentinel (m.opening tag) = true := by
    rw [opening]
    simp only [List.append_assoc]
    rw [← List.append_assoc]
    exact m.sentinel_infix _ _
  have hlast : (m.opening tag).trimEnd.getLast? = some '\x7b' := by
    have hbrace := getLast?_trimEnd_line (m.leader ++ m.sentinel ++ " | " ++ tag ++ [' '])
      (show isBlank '\x7b' = false by decide)
    simpa [opening] using hbrace
  simp [LineKind.ofLine, hin, hlast]

@[simp] theorem kind_closing : LineKind.ofLine m.sentinel m.closing = .closing := by
  have hin : hasInfix m.sentinel m.closing = true := m.sentinel_infix _ _
  have hlast : m.closing.trimEnd.getLast? = some '\x7d' := by
    have hbrace := getLast?_trimEnd_line (m.leader ++ m.sentinel ++ [' '])
      (show isBlank '\x7d' = false by decide)
    simpa [closing] using hbrace
  simp [LineKind.ofLine, hin, hlast]

@[simp] theorem markerTag_opening (p : Piece m.sentinel) :
    markerTag (m.opening p.tag) = .ok p.tag := by
  have hcount : (m.opening p.tag).count '|' = 1 := by
    have hleader := List.count_eq_zero.2 m.leader_bar
    have hsentinel := List.count_eq_zero.2 m.sentinel_bar
    have htag := List.count_eq_zero.2 p.tag_bar
    simp [opening, List.count_append, hleader, hsentinel, htag]
  have hbefore : ∀ c ∈ m.leader ++ m.sentinel ++ [' '], decide (c ≠ '|') = true := by
    intro c hc
    have hne : c ≠ '|' := by
      rintro rfl
      simp [m.leader_bar, m.sentinel_bar] at hc
    simpa using hne
  have hline : m.opening p.tag =
      (m.leader ++ m.sentinel ++ [' ']) ++ '|' :: ([' '] ++ (p.tag ++ [' ', '\x7b', '\n'])) := by
    simp [opening]
  have hrest : ((m.opening p.tag).dropWhile (· ≠ '|')).drop 1 =
      [' '] ++ (p.tag ++ [' ', '\x7b', '\n']) := by
    rw [hline, List.dropWhile_append_of_pos hbefore, List.dropWhile_cons_of_neg (by simp)]
    rfl
  have hkept : p.tag.filter (· ≠ '\x7b') = p.tag := by
    rw [List.filter_eq_self]
    intro c hc
    have hne : c ≠ '\x7b' := fun he => p.tag_brace (he ▸ hc)
    simpa using hne
  have hfilter : ([' '] ++ (p.tag ++ [' ', '\x7b', '\n'])).filter (· ≠ '\x7b') =
      [' '] ++ (p.tag ++ [' ', '\n']) := by
    rw [List.filter_append, List.filter_append, hkept]
    rfl
  have htrim : trim ([' '] ++ (p.tag ++ [' ', '\n'])) = p.tag :=
    trim_padded (by simp [isBlank]) (by simp [isBlank]) p.tag_ne p.tag_head p.tag_last
  unfold markerTag
  rw [if_neg (by simp [hcount]), hrest, hfilter, htrim]
  exact if_neg p.tag_ne

@[simp] theorem lines_opening (p : Piece m.sentinel) :
    (m.opening p.tag).lines = [m.opening p.tag] := by
  have hbody : '\n' ∉ m.leader ++ m.sentinel ++ " | " ++ p.tag ++ [' ', '\x7b'] := by
    simp [m.leader_newline, m.sentinel_newline, p.tag_newline]
  have hline := lines_line hbody
  simpa [opening] using hline

@[simp] theorem lines_closing : m.closing.lines = [m.closing] := by
  have hbody : '\n' ∉ m.leader ++ m.sentinel ++ [' ', '\x7d'] := by
    simp [m.leader_newline, m.sentinel_newline]
  have hline := lines_line hbody
  simpa [closing] using hline

theorem whole_opening (tag : Text) : Whole (m.opening tag) := by
  have hline := whole_line (m.leader ++ m.sentinel ++ " | " ++ tag ++ [' ', '\x7b'])
  simpa [opening] using hline

theorem whole_closing : Whole m.closing := by
  have hline := whole_line (m.leader ++ m.sentinel ++ [' ', '\x7d'])
  simpa [closing] using hline

def slot (p : Piece m.sentinel) : Slot m.sentinel where
  hand := p.hand.lines
  opening := m.opening p.tag
  tag := p.tag
  closing := m.closing
  hand_plain := p.hand_plain
  opening_kind := m.kind_opening p.tag
  opening_tag := m.markerTag_opening p
  closing_kind := m.kind_closing

def frame (pieces : List (Piece m.sentinel)) (tail : Text)
    (htail : ∀ line ∈ tail.lines, hasInfix m.sentinel line = false) : Frame m.sentinel :=
  ⟨pieces.map m.slot, tail.lines, htail⟩

theorem lines_write (pieces : List (Piece m.sentinel)) (tail : Text) :
    (m.write pieces tail).lines =
      Frame.fillFrom (pieces.map fun p => (m.slot p, p.interior.lines)) tail.lines := by
  induction pieces with
  | nil => rfl
  | cons p pieces ih =>
    have hopening := whole_append p.hand_whole (m.whole_opening p.tag)
    have hinterior := whole_append hopening p.interior_whole
    have hclosing := whole_append hinterior m.whole_closing
    rw [write, lines_append hclosing, ih, lines_append hinterior, lines_append hopening,
      lines_append p.hand_whole, m.lines_opening, m.lines_closing]
    simp [Frame.fillFrom, Slot.fill, slot]

theorem spansFrom_eq (lead : List Text) (pieces : List (Piece m.sentinel)) (tail : Text) :
    Frame.spansFrom lead (pieces.map m.slot) tail.lines =
      m.spansFrom lead.flatten pieces tail := by
  induction pieces generalizing lead with
  | nil => simp [Frame.spansFrom, spansFrom]
  | cons p pieces ih =>
    have hrest := ih [m.closing]
    rw [List.flatten_singleton] at hrest
    rw [List.map_cons, Frame.spansFrom, spansFrom, ← hrest]
    simp [slot]

theorem startsMarker_opening (p : Piece m.sentinel) (rest : Text) :
    startsMarker m.sentinel (m.sentinel ++ " | " ++ p.tag ++ " \x7b\n" ++ rest) = true := by
  have hbody : '\n' ∉ p.tag ++ [' ', '\x7b'] := by
    simp [p.tag_newline]
  have hline : (p.tag ++ [' ', '\x7b'] ++ '\n' :: rest).takeWhile (· ≠ '\n') =
      p.tag ++ [' ', '\x7b'] := takeWhile_append_newline hbody rest
  rw [startsMarker_eq_true_iff]
  refine ⟨p.tag ++ [' ', '\x7b'] ++ '\n' :: rest, by simp, ?_⟩
  rw [hline, hasInfix_iff]
  exact ⟨p.tag, [], by simp⟩

end MarkerStyle

theorem hasMarker_write (m : MarkerStyle) {pieces : List (Piece m.sentinel)} (hne : pieces ≠ [])
    (tail : Text) : hasMarker m.sentinel (m.write pieces tail) = true := by
  obtain ⟨p, pieces, rfl⟩ := List.exists_cons_of_ne_nil hne
  have hstart := m.startsMarker_opening p (p.interior ++ m.closing ++ m.write pieces tail)
  refine hasMarker_eq_true_iff.2 ⟨p.hand ++ m.leader, _, ?_, hstart⟩
  simp [MarkerStyle.write, MarkerStyle.opening]

/-- A file that is written in pieces is scanned into those pieces, and passes the gate if it has
a block. -/
theorem scan_write (m : MarkerStyle) (pieces : List (Piece m.sentinel)) (tail : Text)
    (htail : ∀ line ∈ tail.lines, hasInfix m.sentinel line = false) :
    ∃ s, scan m.sentinel (m.write pieces tail) = .ok s ∧
      s.blocks.length = pieces.length ∧
      s.blocks.map Block.tag = pieces.map Piece.tag ∧
      s.interiors (m.write pieces tail) = pieces.map Piece.interior ∧
      s.spans = m.spansFrom [] pieces tail ∧
      (pieces ≠ [] → hasMarker m.sentinel (m.write pieces tail) = true) := by
  let f := m.frame pieces tail htail
  let interiors := pieces.map fun p => p.interior.lines
  have hfits : f.Fits interiors := by
    refine ⟨by simp [f, interiors, MarkerStyle.frame], fun x hx => ?_⟩
    obtain ⟨p, -, rfl⟩ := List.mem_map.1 hx
    exact p.interior_plain
  have hlines : (m.write pieces tail).lines = f.fill interiors := by
    rw [m.lines_write, Frame.fill]
    simp only [f, interiors, MarkerStyle.frame, List.zip_map']
  have hlength := hfits.length_blocks
  have htags := hfits.tags_blocks
  have hinteriors := Frame.interiors_fill hlines hfits
  have hspans := m.spansFrom_eq [] pieces tail
  refine ⟨_, scan_of_lines_eq_fill hlines hfits, ?_, ?_, ?_, hspans,
    fun hne => hasMarker_write m hne tail⟩
  · simpa [f, MarkerStyle.frame] using hlength
  · simpa [f, MarkerStyle.frame, MarkerStyle.slot, Function.comp_def] using htags
  · simpa [interiors, Function.comp_def] using hinteriors

theorem scan_write_two_blocks :
    ∃ s, scan "cal"
      "a\r\n# cal | g 1 \x7b\nx\r\n\n# cal \x7d\n# cal | h \x7b\n# cal \x7d\nend" = .ok s ∧
      s.blocks.map Block.tag = (["g 1", "h"] : List Text) ∧
      s.interiors "a\r\n# cal | g 1 \x7b\nx\r\n\n# cal \x7d\n# cal | h \x7b\n# cal \x7d\nend" =
        (["x\r\n\n", []] : List Text) ∧
      s.spans = (["a\r\n# cal | g 1 \x7b\n", "# cal \x7d\n# cal | h \x7b\n", "# cal \x7d\nend"] :
        List Text) := by
  let m : MarkerStyle := ⟨"# ", "cal", by decide, by decide, by decide, by decide⟩
  let first : Piece m.sentinel :=
    { hand := "a\r\n", tag := "g 1", interior := "x\r\n\n"
      hand_whole := by decide, hand_plain := by decide
      interior_whole := by decide, interior_plain := by decide
      tag_ne := by decide, tag_head := by simp [isBlank], tag_last := by simp [isBlank]
      tag_bar := by decide, tag_brace := by decide, tag_newline := by decide }
  let second : Piece m.sentinel :=
    { hand := [], tag := "h", interior := []
      hand_whole := by decide, hand_plain := by decide
      interior_whole := by decide, interior_plain := by decide
      tag_ne := by decide, tag_head := by simp [isBlank], tag_last := by simp [isBlank]
      tag_bar := by decide, tag_brace := by decide, tag_newline := by decide }
  obtain ⟨s, hs, -, htags, hinteriors, hspans, -⟩ :=
    scan_write m [first, second] "end" (by decide)
  exact ⟨s, hs, htags, hinteriors, hspans⟩

end MapLoom
