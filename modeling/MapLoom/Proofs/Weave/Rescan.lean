import MapLoom.Proofs.Weave.Inserted

set_option autoImplicit false

/-!
# Scanning an assembled text

Spans of a frame and new contents assemble to the same frame with other lines in its slots, so a
scan of the new text finds the same spans and tags, and between the markers what was put there.
-/
namespace MapLoom
open Text

section
variable {sentinel : Text}

namespace Frame

@[simp] theorem length_spansFrom (lead : List Text) (slots : List (Slot sentinel))
    (tail : List Text) : (spansFrom lead slots tail).length = slots.length + 1 := by
  induction slots generalizing lead with
  | nil => rfl
  | cons s slots ih => simp [spansFrom, ih]

theorem length_inserted_spans (f : Frame sentinel) {contents : List Text}
    (h : contents.length = f.slots.length) :
    (inserted f.spans contents).length = f.slots.length := by
  rw [inserted, List.length_zipWith, spans, length_spansFrom]
  omega

@[simp] theorem length_blocksFrom (i : Nat) (filled : List (Slot sentinel × List Text)) :
    (blocksFrom i filled).length = filled.length := by
  induction filled generalizing i with
  | nil => rfl
  | cons p filled ih => simp [blocksFrom, ih]

@[simp] theorem tags_blocksFrom (i : Nat) (filled : List (Slot sentinel × List Text)) :
    (blocksFrom i filled).map Block.tag = filled.map fun p => p.1.tag := by
  induction filled generalizing i with
  | nil => rfl
  | cons p filled ih => simp [blocksFrom, ih]

namespace Fits

variable {f : Frame sentinel} {interiors : List (List Text)}

theorem length_blocks (h : f.Fits interiors) : (f.blocks interiors).length = f.slots.length := by
  rw [blocks, length_blocksFrom, List.length_zip, h.length_eq, Nat.min_self]

theorem tags_blocks (h : f.Fits interiors) :
    (f.blocks interiors).map Block.tag = f.slots.map Slot.tag := by
  have htags := congrArg (List.map Slot.tag) h.map_fst_zip
  rw [List.map_map] at htags
  rw [blocks, tags_blocksFrom, ← htags]
  rfl

end Fits

theorem interiors_blocksFrom (before : List Text) (filled : List (Slot sentinel × List Text))
    (tail : List Text) :
    (blocksFrom before.length filled).map (fun b =>
      (((before ++ fillFrom filled tail).take b.stop).drop (b.start + 1)).flatten) =
      filled.map fun p => p.2.flatten := by
  induction filled generalizing before with
  | nil => rfl
  | cons p filled ih =>
    obtain ⟨s, interior⟩ := p
    have hrest := ih (before ++ s.fill interior)
    have hcount : (before ++ s.fill interior).length =
        before.length + s.hand.length + 1 + interior.length + 1 := by
      rw [List.length_append, s.length_fill]
      omega
    have hmarked : before ++ (s.fill interior ++ fillFrom filled tail) =
        (before ++ s.hand ++ [s.opening]) ++ (interior ++ s.closing :: fillFrom filled tail) := by
      simp [Slot.fill]
    have hstart : before.length + s.hand.length + 1 =
        (before ++ s.hand ++ [s.opening]).length := by
      simp
      omega
    rw [hcount, List.append_assoc] at hrest
    rw [blocksFrom, fillFrom, List.map_cons, List.map_cons, hrest]
    congr 1
    rw [hmarked, hstart, List.take_length_add_append, List.drop_left, List.take_left]

theorem interiors_fill {t : Text} {f : Frame sentinel} {interiors : List (List Text)}
    (ht : t.lines = f.fill interiors) (h : f.Fits interiors) :
    Scanned.interiors ⟨f.blocks interiors, f.spans⟩ t = interiors.map List.flatten := by
  have htexts := congrArg (List.map List.flatten) h.map_snd_zip
  rw [List.map_map] at htexts
  have hslices := interiors_blocksFrom [] (f.slots.zip interiors) f.tail
  rw [List.length_nil, List.nil_append] at hslices
  rw [Scanned.interiors, ht, fill, blocks, hslices, ← htexts]
  rfl

theorem flatten_fillFrom (lead : List Text) {slots : List (Slot sentinel)} (tail : List Text)
    {interiors : List (List Text)} (h : interiors.length = slots.length) :
    (lead ++ fillFrom (slots.zip interiors) tail).flatten =
      interleave (spansFrom lead slots tail) (interiors.map List.flatten) := by
  induction slots generalizing lead interiors with
  | nil =>
    rw [List.eq_nil_of_length_eq_zero h]
    simp [fillFrom, spansFrom, interleave]
  | cons s slots ih =>
    obtain ⟨x, interiors, rfl⟩ := List.exists_cons_of_length_eq_add_one h
    have hrest := ih [s.closing] (Nat.succ.inj h)
    simp [fillFrom, Slot.fill, spansFrom, interleave, ← hrest]

theorem lines_interleave {lead : List Text} {slots : List (Slot sentinel)} {tail : List Text}
    {interiors : List (List Text)} {texts : List Text} (h : interiors.length = slots.length)
    (hlines : lines (lead ++ fillFrom (slots.zip interiors) tail).flatten =
      lead ++ fillFrom (slots.zip interiors) tail)
    (htexts : texts.length = slots.length) (hwhole : ∀ t ∈ texts, Whole t) :
    (interleave (spansFrom lead slots tail) texts).lines =
      lead ++ fillFrom (slots.zip (texts.map lines)) tail := by
  -- on the slots; `lead` takes the closing marker of a slot over to the span after it
  induction slots generalizing lead interiors texts with
  | nil =>
    rw [List.eq_nil_of_length_eq_zero htexts]
    simpa [fillFrom, spansFrom, interleave] using hlines
  | cons s slots ih =>
    obtain ⟨x, interiors, rfl⟩ := List.exists_cons_of_length_eq_add_one h
    obtain ⟨t, texts, rfl⟩ := List.exists_cons_of_length_eq_add_one htexts
    have hcut : lead ++ fillFrom ((s :: slots).zip (x :: interiors)) tail =
        (lead ++ s.hand ++ [s.opening]) ++
          (x ++ ([s.closing] ++ fillFrom (slots.zip interiors) tail)) := by
      simp [fillFrom, Slot.fill]
    rw [hcut] at hlines
    obtain ⟨hspan, hrest, hspanWhole⟩ := lines_split hlines
    obtain ⟨_, hrest, _⟩ := lines_split hrest
    have htail := ih (Nat.succ.inj h) hrest (Nat.succ.inj htexts)
      fun t ht => hwhole t (List.mem_cons_of_mem _ ht)
    rw [spansFrom, interleave, List.append_assoc, lines_append (hspanWhole (by simp)), hspan,
      lines_append (hwhole t List.mem_cons_self), htail]
    simp [fillFrom, Slot.fill]

section
variable {t : Text} {f : Frame sentinel} {interiors : List (List Text)}

theorem eq_interleave_spans (ht : t.lines = f.fill interiors) (h : f.Fits interiors) :
    t = interleave f.spans (interiors.map List.flatten) := by
  rw [← flatten_lines t, ht]
  exact flatten_fillFrom [] f.tail h.length_eq

theorem lines_interleave_spans (ht : t.lines = f.fill interiors) (h : f.Fits interiors)
    {texts : List Text} (hlen : texts.length = f.slots.length) (hwhole : ∀ x ∈ texts, Whole x) :
    (interleave f.spans texts).lines = f.fill (texts.map lines) := by
  have hlines : lines ([] ++ fillFrom (f.slots.zip interiors) f.tail).flatten =
      [] ++ fillFrom (f.slots.zip interiors) f.tail := by
    change lines (f.fill interiors).flatten = f.fill interiors
    rw [← ht, flatten_lines]
  exact lines_interleave h.length_eq hlines hlen hwhole

theorem fits_lines {texts : List Text} (hlen : texts.length = f.slots.length)
    (hplain : ∀ x ∈ texts, ∀ line ∈ x.lines, hasInfix sentinel line = false) :
    f.Fits (texts.map lines) := by
  refine ⟨by simpa using hlen, fun x hx => ?_⟩
  obtain ⟨text, htext, rfl⟩ := List.mem_map.1 hx
  exact hplain text htext

end

end Frame

/-- Scanning undoes assembling: the spans and the tags come back, and the interiors of the new text
are the contents with the line ends they took. -/
theorem scan_assemble {t : Text} {s : Scanned} {contents : List Text}
    (h : scan sentinel t = .ok s) (hlen : contents.length = s.blocks.length)
    (hwhole : ∀ c ∈ contents, c = [] ∨ c.getLast? = some '\n')
    (hplain : ∀ x ∈ inserted s.spans contents, ∀ line ∈ x.lines, hasInfix sentinel line = false) :
    ∃ s', scan sentinel (assemble s.spans contents) = .ok s' ∧ s'.spans = s.spans ∧
      s'.blocks.map Block.tag = s.blocks.map Block.tag ∧
      s'.interiors (assemble s.spans contents) = inserted s.spans contents ∧
      assemble s'.spans contents = assemble s.spans contents := by
  rw [assemble_eq_interleave]
  rcases scan_cases h with ⟨f, interiors, hfits, ht, rfl⟩ | rfl
  · have hslots : contents.length = f.slots.length := hlen.trans hfits.length_blocks
    have hin := f.length_inserted_spans hslots
    have hinWhole := whole_inserted hwhole f.spans
    have hlines := Frame.lines_interleave_spans ht hfits hin hinWhole
    have hfits' := Frame.fits_lines hin hplain
    refine ⟨_, scan_of_lines_eq_fill hlines hfits', rfl, ?_, ?_, assemble_eq_interleave _ _⟩
    · rw [hfits'.tags_blocks, hfits.tags_blocks]
    · rw [Frame.interiors_fill hlines hfits', List.map_map]
      simp [Function.comp_def]
  · obtain rfl := List.eq_nil_of_length_eq_zero hlen
    refine ⟨⟨[], [t]⟩, ?_, rfl, rfl, rfl, assemble_eq_interleave _ _⟩
    simpa [inserted, interleave] using h

end

theorem scan_assemble_two_blocks :
    ∃ s, scan "@" "a\n@ | g \x7b\r\nx\n@ \x7d\r\n@ | h \x7b\n@ \x7d" = .ok s ∧ s.blocks.length = 2 ∧
      ∃ s', scan "@" (assemble s.spans ["1\n2\r\n", []]) = .ok s' ∧ s'.spans = s.spans := by
  have h : scan "@" "a\n@ | g \x7b\r\nx\n@ \x7d\r\n@ | h \x7b\n@ \x7d" =
      .ok ⟨[⟨1, 3, "g"⟩, ⟨4, 5, "h"⟩],
        ["a\n@ | g \x7b\r\n", "@ \x7d\r\n@ | h \x7b\n", "@ \x7d"]⟩ := by rfl
  obtain ⟨s', hs', hspans, -⟩ :=
    @scan_assemble "@" _ _ ["1\n2\r\n", []] h rfl (by decide) (by decide)
  exact ⟨_, h, rfl, s', hs', hspans⟩

end MapLoom
