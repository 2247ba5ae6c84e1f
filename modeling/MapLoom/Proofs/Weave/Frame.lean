import MapLoom.Proofs.Text.Lines
import MapLoom.Weave.Scan

set_option autoImplicit false

/-!
# Frames

A frame is what people wrote of a text: hand-written lines and marker lines, with a slot between
the two markers of each block. A scan that finds blocks takes a text apart into a frame and the
lines in its slots, and a frame with any lines without the sentinel in its slots scans to itself.
-/
namespace MapLoom

/-- The hand-written lines before a block, and the markers of the block. -/
structure Slot (sentinel : Text) where
  hand : List Text
  opening : Text
  tag : Text
  closing : Text
  hand_plain : ∀ line ∈ hand, Text.hasInfix sentinel line = false
  opening_kind : LineKind.ofLine sentinel opening = .opening
  opening_tag : markerTag opening = .ok tag
  closing_kind : LineKind.ofLine sentinel closing = .closing

/-- Slots, and the hand-written lines after the last one. -/
structure Frame (sentinel : Text) where
  slots : List (Slot sentinel)
  tail : List Text
  tail_plain : ∀ line ∈ tail, Text.hasInfix sentinel line = false

/-- Spans and what stands between them, one after the other. -/
def interleave : List Text → List Text → Text
  | [], _ => []
  | span :: spans, [] => span ++ interleave spans []
  | span :: spans, x :: xs => span ++ x ++ interleave spans xs

section
variable {sentinel : Text}

def Slot.fill (s : Slot sentinel) (interior : List Text) : List Text :=
  s.hand ++ s.opening :: (interior ++ [s.closing])

@[simp] theorem Slot.length_fill (s : Slot sentinel) (interior : List Text) :
    (s.fill interior).length = s.hand.length + 1 + interior.length + 1 := by
  simp only [Slot.fill, List.length_append, List.length_cons, List.length_nil]
  omega

namespace Frame

def fillFrom : List (Slot sentinel × List Text) → List Text → List Text
  | [], tail => tail
  | (s, interior) :: filled, tail => s.fill interior ++ fillFrom filled tail

def fill (f : Frame sentinel) (interiors : List (List Text)) : List Text :=
  fillFrom (f.slots.zip interiors) f.tail

/-- The spans from some slots on, where `lead` holds the lines since the last block. -/
def spansFrom (lead : List Text) : List (Slot sentinel) → List Text → List Text
  | [], tail => [(lead ++ tail).flatten]
  | s :: slots, tail =>
    (lead ++ s.hand ++ [s.opening]).flatten :: spansFrom [s.closing] slots tail

/-- The spans of a frame: each but the last ends with an opening marker, and each but the first
starts with the closing marker of the same block. -/
def spans (f : Frame sentinel) : List Text := spansFrom [] f.slots f.tail

def blocksFrom (i : Nat) : List (Slot sentinel × List Text) → List Block
  | [] => []
  | (s, interior) :: filled =>
    ⟨i + s.hand.length, i + s.hand.length + 1 + interior.length, s.tag⟩ ::
      blocksFrom (i + s.hand.length + 1 + interior.length + 1) filled

def blocks (f : Frame sentinel) (interiors : List (List Text)) : List Block :=
  blocksFrom 0 (f.slots.zip interiors)

/-- Whether there are lines for every slot, none of them with the sentinel. -/
structure Fits (f : Frame sentinel) (interiors : List (List Text)) : Prop where
  length_eq : interiors.length = f.slots.length
  plain : ∀ x ∈ interiors, ∀ line ∈ x, Text.hasInfix sentinel line = false

theorem Fits.map_fst_zip {f : Frame sentinel} {interiors : List (List Text)}
    (h : f.Fits interiors) : (f.slots.zip interiors).map (·.1) = f.slots :=
  List.map_fst_zip (Nat.le_of_eq h.length_eq.symm)

theorem Fits.map_snd_zip {f : Frame sentinel} {interiors : List (List Text)}
    (h : f.Fits interiors) : (f.slots.zip interiors).map (·.2) = interiors :=
  List.map_snd_zip (Nat.le_of_eq h.length_eq)

/-- A line of filled slots is a line of the frame, which other lines in the slots do not change, or a
line in a slot. -/
theorem mem_fillFrom_cases {slots : List (Slot sentinel)} {tail : List Text}
    {interiors others : List (List Text)} (h : interiors.length = slots.length)
    (h' : others.length = slots.length) {line : Text}
    (hmem : line ∈ fillFrom (slots.zip interiors) tail) :
    line ∈ fillFrom (slots.zip others) tail ∨ ∃ x ∈ interiors, line ∈ x := by
  induction slots generalizing interiors others with
  | nil => exact .inl hmem
  | cons s slots ih =>
    obtain ⟨x, interiors, rfl⟩ := List.exists_cons_of_length_eq_add_one h
    obtain ⟨y, others, rfl⟩ := List.exists_cons_of_length_eq_add_one h'
    simp only [List.zip_cons_cons, fillFrom, Slot.fill, List.mem_append, List.mem_cons,
      List.not_mem_nil, or_false] at hmem ⊢
    rcases hmem with (hm | hm | hm | hm) | hm
    · exact .inl (.inl (.inl hm))
    · exact .inl (.inl (.inr (.inl hm)))
    · exact .inr ⟨x, .inl rfl, hm⟩
    · exact .inl (.inl (.inr (.inr (.inr hm))))
    · rcases ih (Nat.succ.inj h) (Nat.succ.inj h') hm with hrest | ⟨z, hz, hline⟩
      · exact .inl (.inr hrest)
      · exact .inr ⟨z, .inr hz, hline⟩

theorem exists_fillFrom_opening {slots : List (Slot sentinel)} {interiors : List (List Text)}
    (h : interiors.length = slots.length) (tail : List Text) {s : Slot sentinel} (hs : s ∈ slots) :
    ∃ before after, after ≠ [] ∧
      fillFrom (slots.zip interiors) tail = before ++ [s.opening] ++ after := by
  induction slots generalizing interiors with
  | nil => cases hs
  | cons r slots ih =>
    obtain ⟨x, interiors, rfl⟩ := List.exists_cons_of_length_eq_add_one h
    rcases List.mem_cons.1 hs with rfl | hs
    · refine ⟨s.hand, x ++ s.closing :: fillFrom (slots.zip interiors) tail, by simp, ?_⟩
      simp [fillFrom, Slot.fill]
    · obtain ⟨before, after, hne, hrest⟩ := ih (Nat.succ.inj h) hs
      refine ⟨r.fill x ++ before, after, hne, ?_⟩
      simp [fillFrom, hrest]

end Frame

theorem LineKind.ofLine_eq_hand_iff {line : Text} :
    LineKind.ofLine sentinel line = .hand ↔ Text.hasInfix sentinel line = false := by
  unfold LineKind.ofLine
  split
  · rename_i h
    simpa using h
  · rename_i h
    simp only [Bool.not_eq_true', Bool.not_eq_false] at h
    split <;> simp [h]

namespace Scanned

theorem foldr_prepend {blocks : List Block} {span : Text} {spans : List Text} (hand : List Text) :
    hand.foldr prepend ⟨blocks, span :: spans⟩ = ⟨blocks, (hand.flatten ++ span) :: spans⟩ := by
  induction hand with
  | nil => rfl
  | cons line hand ih => simp [ih, prepend]

theorem ofLines_outside_append {hand : List Text}
    (h : ∀ line ∈ hand, Text.hasInfix sentinel line = false) (i : Nat) (lines : List Text) :
    ofLines sentinel .outside i (hand ++ lines) =
      (ofLines sentinel .outside (i + hand.length) lines).map
        (·.map fun s => hand.foldr prepend s) := by
  induction hand generalizing i with
  | nil =>
    rw [List.nil_append, List.length_nil, Nat.add_zero]
    cases ofLines sentinel .outside i lines with
    | error e => rfl
    | ok s => cases s <;> rfl
  | cons line hand ih =>
    have hline := LineKind.ofLine_eq_hand_iff.2 (h line (by simp))
    have hrest := ih (fun l hl => h l (by simp [hl])) (i + 1)
    rw [List.cons_append, ofLines, hline]
    simp only [hrest, List.length_cons, Nat.add_right_comm i 1, ← Nat.add_assoc]
    cases ofLines sentinel .outside (i + hand.length + 1) lines with
    | error e => rfl
    | ok s => cases s <;> rfl

theorem ofLines_inside_append {interior : List Text}
    (h : ∀ line ∈ interior, Text.hasInfix sentinel line = false) (start : Nat) (tag : Text)
    (i : Nat) (lines : List Text) :
    ofLines sentinel (.inside start tag) i (interior ++ lines) =
      ofLines sentinel (.inside start tag) (i + interior.length) lines := by
  induction interior generalizing i with
  | nil => rfl
  | cons line interior ih =>
    have hline := LineKind.ofLine_eq_hand_iff.2 (h line (by simp))
    have hrest := ih (fun l hl => h l (by simp [hl])) (i + 1)
    rw [List.cons_append, ofLines, hline]
    simp only [hrest, List.length_cons, Nat.add_right_comm i 1, ← Nat.add_assoc]

theorem prepend_spansFrom (line : Text) (blocks : List Block) (lead : List Text)
    (slots : List (Slot sentinel)) (tail : List Text) :
    prepend line ⟨blocks, Frame.spansFrom lead slots tail⟩ =
      ⟨blocks, Frame.spansFrom (line :: lead) slots tail⟩ := by
  cases slots <;> simp [Frame.spansFrom, prepend]

/-- One filled slot is one block and one span; its closing marker goes to the next span. -/
theorem ofLines_fill_append (s : Slot sentinel) {interior : List Text}
    (h : ∀ line ∈ interior, Text.hasInfix sentinel line = false) (i : Nat) (lines : List Text) :
    ofLines sentinel .outside i (s.fill interior ++ lines) =
      (ofLines sentinel .outside (i + s.hand.length + 1 + interior.length + 1) lines).map
        (·.map fun r =>
          let stop := i + s.hand.length + 1 + interior.length
          let closed := (r.prepend s.closing).prependBlock ⟨i + s.hand.length, stop, s.tag⟩
          s.hand.foldr prepend (closed.prependSpan s.opening)) := by
  have hopen : ofLines sentinel .outside (i + s.hand.length)
      (s.opening :: (interior ++ s.closing :: lines)) =
      (ofLines sentinel (.inside (i + s.hand.length) s.tag) (i + s.hand.length + 1)
        (interior ++ s.closing :: lines)).map (·.map (prependSpan s.opening)) := by
    rw [ofLines, s.opening_kind, s.opening_tag]
  have hclose : ofLines sentinel (.inside (i + s.hand.length) s.tag)
      (i + s.hand.length + 1 + interior.length) (s.closing :: lines) =
      (ofLines sentinel .outside (i + s.hand.length + 1 + interior.length + 1) lines).map
        (·.map fun r => (r.prepend s.closing).prependBlock
          ⟨i + s.hand.length, i + s.hand.length + 1 + interior.length, s.tag⟩) := by
    rw [ofLines, s.closing_kind]
  have hlines : s.fill interior ++ lines =
      s.hand ++ s.opening :: (interior ++ s.closing :: lines) := by
    simp [Slot.fill]
  rw [hlines, ofLines_outside_append s.hand_plain, hopen, ofLines_inside_append h, hclose]
  cases ofLines sentinel .outside (i + s.hand.length + 1 + interior.length + 1) lines with
  | error e => rfl
  | ok r => cases r <;> rfl

theorem ofLines_fillFrom {filled : List (Slot sentinel × List Text)} {tail : List Text}
    (htail : ∀ line ∈ tail, Text.hasInfix sentinel line = false)
    (h : ∀ p ∈ filled, ∀ line ∈ p.2, Text.hasInfix sentinel line = false) (i : Nat) :
    ofLines sentinel .outside i (Frame.fillFrom filled tail) =
      .ok (some ⟨Frame.blocksFrom i filled, Frame.spansFrom [] (filled.map (·.1)) tail⟩) := by
  induction filled generalizing i with
  | nil =>
    have ht := ofLines_outside_append htail i []
    rw [List.append_nil] at ht
    rw [Frame.fillFrom, ht, ofLines]
    simp [Except.map, foldr_prepend, Frame.blocksFrom, Frame.spansFrom]
  | cons p filled ih =>
    obtain ⟨s, interior⟩ := p
    rw [Frame.fillFrom, ofLines_fill_append s (h _ List.mem_cons_self),
      ih fun p hp => h p (List.mem_cons_of_mem _ hp)]
    simp [Except.map, prepend_spansFrom, prependBlock, prependSpan, foldr_prepend,
      Frame.blocksFrom, Frame.spansFrom]

end Scanned

def Framed (sentinel : Text) (lines : List Text) : Prop :=
  ∃ (f : Frame sentinel) (interiors : List (List Text)), f.Fits interiors ∧ lines = f.fill interiors

/-- Whether lines go on inside a block to its closing marker, and from there as those of a frame. -/
def Closes (sentinel : Text) (lines : List Text) : Prop :=
  ∃ interior closing rest, (∀ line ∈ interior, Text.hasInfix sentinel line = false) ∧
    LineKind.ofLine sentinel closing = .closing ∧ Framed sentinel rest ∧
    lines = interior ++ closing :: rest

theorem framed_nil : Framed sentinel [] :=
  ⟨⟨[], [], by simp⟩, [], ⟨rfl, by simp⟩, rfl⟩

theorem Framed.cons_hand {line : Text} {lines : List Text} (h : Framed sentinel lines)
    (hline : Text.hasInfix sentinel line = false) : Framed sentinel (line :: lines) := by
  obtain ⟨⟨slots, tail, htail⟩, interiors, ⟨hlen, hplain⟩, rfl⟩ := h
  match slots, interiors, hlen with
  | [], [], _ => exact ⟨⟨[], line :: tail, by simpa [hline] using htail⟩, [], ⟨rfl, by simp⟩, rfl⟩
  | s :: slots, x :: interiors, hlen =>
    exact ⟨⟨⟨line :: s.hand, s.opening, s.tag, s.closing, by simpa [hline] using s.hand_plain,
      s.opening_kind, s.opening_tag, s.closing_kind⟩ :: slots, tail, htail⟩, x :: interiors,
      ⟨hlen, hplain⟩, rfl⟩

theorem Closes.cons_opening {line tag : Text} {lines : List Text} (h : Closes sentinel lines)
    (hkind : LineKind.ofLine sentinel line = .opening) (htag : markerTag line = .ok tag) :
    Framed sentinel (line :: lines) := by
  obtain ⟨interior, closing, _, hplain, hclosing, ⟨f, interiors, hfits, rfl⟩, rfl⟩ := h
  refine ⟨⟨⟨[], line, tag, closing, by simp, hkind, htag, hclosing⟩ :: f.slots, f.tail,
    f.tail_plain⟩, interior :: interiors, ⟨?_, ?_⟩, ?_⟩
  · simp [hfits.length_eq]
  · simpa using ⟨hplain, hfits.plain⟩
  · simp [Frame.fill, Frame.fillFrom, Slot.fill]

theorem Closes.cons_hand {line : Text} {lines : List Text} (h : Closes sentinel lines)
    (hline : Text.hasInfix sentinel line = false) : Closes sentinel (line :: lines) := by
  obtain ⟨interior, closing, rest, hplain, hclosing, hrest, rfl⟩ := h
  exact ⟨line :: interior, closing, rest, by simpa [hline] using hplain, hclosing, hrest, rfl⟩

theorem Framed.cons_closing {line : Text} {lines : List Text} (h : Framed sentinel lines)
    (hkind : LineKind.ofLine sentinel line = .closing) : Closes sentinel (line :: lines) :=
  ⟨[], line, lines, by simp, hkind, h, rfl⟩

namespace Scanned

theorem eq_ok_some_of_map {x : Except BlockError (Option Scanned)} {g : Scanned → Scanned}
    {r : Scanned} (h : x.map (·.map g) = .ok (some r)) : ∃ r', x = .ok (some r') := by
  match x, h with
  | .ok (some r'), _ => exact ⟨r', rfl⟩

/-- What the lines still to come are when a scan in a state comes to blocks. -/
def Resumes (sentinel : Text) : ScanState → List Text → Prop
  | .outside, lines => Framed sentinel lines
  | .inside .., lines => Closes sentinel lines

theorem resumes_of_ofLines {st : ScanState} {i : Nat} {lines : List Text} {r : Scanned}
    (h : ofLines sentinel st i lines = .ok (some r)) : Resumes sentinel st lines := by
  -- for both states at once, since the markers of a block lead from one to the other and back
  induction lines generalizing st i r with
  | nil =>
    cases st with
    | outside => exact framed_nil
    | inside => simp [ofLines] at h
  | cons line lines ih =>
    cases st with
    | outside =>
      rw [ofLines] at h
      cases hkind : LineKind.ofLine sentinel line with
      | hand =>
        rw [hkind] at h
        obtain ⟨r', hr'⟩ := eq_ok_some_of_map h
        exact Framed.cons_hand (ih hr') (LineKind.ofLine_eq_hand_iff.1 hkind)
      | opening =>
        rw [hkind] at h
        cases htag : markerTag line with
        | error fault => simp [htag] at h
        | ok tag =>
          simp only [htag] at h
          obtain ⟨r', hr'⟩ := eq_ok_some_of_map h
          exact Closes.cons_opening (ih hr') hkind htag
      | closing => simp [hkind] at h
      | malformed => simp [hkind] at h
    | inside start tag =>
      rw [ofLines] at h
      cases hkind : LineKind.ofLine sentinel line with
      | hand =>
        rw [hkind] at h
        exact Closes.cons_hand (ih h) (LineKind.ofLine_eq_hand_iff.1 hkind)
      | opening => simp [hkind] at h
      | closing =>
        rw [hkind] at h
        obtain ⟨r', hr'⟩ := eq_ok_some_of_map h
        exact Framed.cons_closing (ih hr') hkind
      | malformed => simp [hkind] at h

end Scanned

namespace Frame

theorem ofLines_fill {f : Frame sentinel} {interiors : List (List Text)} (h : f.Fits interiors) :
    Scanned.ofLines sentinel .outside 0 (f.fill interiors) =
      .ok (some ⟨f.blocks interiors, f.spans⟩) := by
  rw [fill, Scanned.ofLines_fillFrom f.tail_plain, h.map_fst_zip]
  · rfl
  · intro p hp
    exact h.plain _ (List.of_mem_zip hp).2

end Frame

/-- A frame with lines in its slots scans to its own spans and blocks. -/
theorem scan_of_lines_eq_fill {t : Text} {f : Frame sentinel} {interiors : List (List Text)}
    (ht : t.lines = f.fill interiors) (h : f.Fits interiors) :
    scan sentinel t = .ok ⟨f.blocks interiors, f.spans⟩ := by
  rw [scan, ht, Frame.ofLines_fill h]
  rfl

/-- A scan takes a text apart into a frame and the lines in it, unless a block stays open. -/
theorem scan_cases {t : Text} {s : Scanned} (h : scan sentinel t = .ok s) :
    (∃ (f : Frame sentinel) (interiors : List (List Text)), f.Fits interiors ∧
      t.lines = f.fill interiors ∧ s = ⟨f.blocks interiors, f.spans⟩) ∨ s = ⟨[], [t]⟩ := by
  cases hl : Scanned.ofLines sentinel .outside 0 t.lines with
  | error e => simp [scan, hl, Except.map] at h
  | ok r =>
    cases r with
    | none => exact .inr (by simpa [scan, hl, Except.map] using h.symm)
    | some r =>
      obtain ⟨f, interiors, hfits, ht⟩ := Scanned.resumes_of_ofLines hl
      rw [scan_of_lines_eq_fill ht hfits, Except.ok.injEq] at h
      exact .inl ⟨f, interiors, hfits, ht, h.symm⟩

end
end MapLoom
