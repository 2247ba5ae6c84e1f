import Mathlib.Data.List.Forall2
import MapLoom.Proofs.Weave.Rescan

set_option autoImplicit false

/-!
# The parts of a scanned text

The lines that the blocks count and the spans that were collected are two views of one text, and
part it without a gap. Assembling puts the parts together again, unless a block has line ends that
its opening marker does not have.
-/
namespace MapLoom
open Text

section
variable {sentinel : Text}

theorem length_interleave_le {xs ys : List Text}
    (h : List.Forall₂ (fun x y => x.length ≤ y.length) xs ys) (spans : List Text) :
    (interleave spans xs).length ≤ (interleave spans ys).length := by
  induction h generalizing spans with
  | nil => exact Nat.le_refl _
  | cons hxy _ ih =>
    cases spans with
    | nil => exact Nat.le_refl _
    | cons span spans =>
      have hrest := ih spans
      simp only [interleave, List.length_append]
      omega

theorem eq_of_interleave_eq {spans xs ys : List Text}
    (h : List.Forall₂ (fun x y => x.length ≤ y.length) xs ys) (hspans : xs.length ≤ spans.length)
    (he : interleave spans xs = interleave spans ys) : xs = ys := by
  induction h generalizing spans with
  | nil => rfl
  | @cons x y xs ys hxy hrest ih =>
    cases spans with
    | nil => simp at hspans
    | cons span spans =>
      have hlen := length_interleave_le hrest spans
      simp only [interleave, List.append_assoc, List.append_cancel_left_eq] at he
      have htotal := congrArg List.length he
      simp only [List.length_append] at htotal
      have hsame : x.length = y.length := by omega
      obtain ⟨rfl, htail⟩ := List.append_inj he hsame
      rw [ih (by simpa using hspans) htail]

namespace Slot

theorem length_le_length_adapt (s : Slot sentinel) (content : Text) :
    content.length ≤ (s.adapt content).length := by
  unfold adapt
  split
  · exact length_le_length_crlf content
  · exact Nat.le_refl _

theorem adapt_eq_self_iff (s : Slot sentinel) (content : Text) :
    s.adapt content = content ↔ (['\r', '\n'] <:+ s.opening → CrBeforeLf content) := by
  unfold adapt
  split
  · rename_i h
    rw [List.isSuffixOf_iff_suffix] at h
    rw [crlf_eq_self_iff, forall_prop_of_true h]
  · rename_i h
    rw [List.isSuffixOf_iff_suffix] at h
    exact iff_of_true rfl fun hs => absurd hs h

end Slot

namespace Frame

theorem bounds_of_mem_blocksFrom {i : Nat} {filled : List (Slot sentinel × List Text)}
    {tail : List Text} {b : Block} (h : b ∈ blocksFrom i filled) :
    i ≤ b.start ∧ b.start < b.stop ∧ b.stop < i + (fillFrom filled tail).length := by
  induction filled generalizing i with
  | nil => simp [blocksFrom] at h
  | cons p filled ih =>
    obtain ⟨s, interior⟩ := p
    rw [fillFrom, List.length_append, s.length_fill]
    rcases List.mem_cons.1 h with rfl | h
    · dsimp only
      omega
    · have hrest := ih h
      omega

theorem pairwise_blocksFrom (i : Nat) (filled : List (Slot sentinel × List Text)) :
    (blocksFrom i filled).Pairwise fun b c => b.stop < c.start := by
  induction filled generalizing i with
  | nil => exact List.Pairwise.nil
  | cons p filled ih =>
    refine List.pairwise_cons.2 ⟨fun c hc => ?_, ih _⟩
    have hbounds := (@bounds_of_mem_blocksFrom _ _ _ [] _ hc).1
    dsimp only
    omega

theorem openings_blocksFrom (before : List Text) (filled : List (Slot sentinel × List Text))
    (tail : List Text) :
    (blocksFrom before.length filled).map (fun b => (before ++ fillFrom filled tail)[b.start]?) =
      filled.map fun p => some p.1.opening := by
  induction filled generalizing before with
  | nil => rfl
  | cons p filled ih =>
    obtain ⟨s, interior⟩ := p
    have hrest := ih (before ++ s.fill interior)
    have hcount : (before ++ s.fill interior).length =
        before.length + s.hand.length + 1 + interior.length + 1 := by
      rw [List.length_append, s.length_fill]
      omega
    have hmarked : before ++ (s.fill interior ++ fillFrom filled tail) =
        (before ++ s.hand) ++ s.opening :: (interior ++ s.closing :: fillFrom filled tail) := by
      simp [Slot.fill]
    rw [hcount, List.append_assoc] at hrest
    rw [blocksFrom, fillFrom, List.map_cons, List.map_cons, hrest]
    congr 1
    dsimp only
    rw [hmarked, ← List.length_append, List.getElem?_append_right (Nat.le_refl _), Nat.sub_self]
    rfl

theorem forall₂_adapt {slots : List (Slot sentinel)} {contents : List Text}
    (h : contents.length = slots.length) :
    List.Forall₂ (fun x y => x.length ≤ y.length) contents
      (List.zipWith Slot.adapt slots contents) := by
  induction slots generalizing contents with
  | nil =>
    rw [List.eq_nil_of_length_eq_zero h]
    exact .nil
  | cons s slots ih =>
    obtain ⟨c, contents, rfl⟩ := List.exists_cons_of_length_eq_add_one h
    exact .cons (s.length_le_length_adapt c) (ih (Nat.succ.inj h))

theorem zipWith_adapt_eq_iff {slots : List (Slot sentinel)} {interiors : List (List Text)}
    (h : interiors.length = slots.length) :
    List.zipWith Slot.adapt slots (interiors.map List.flatten) = interiors.map List.flatten ↔
      ∀ p ∈ slots.zip interiors, ['\r', '\n'] <:+ p.1.opening → CrBeforeLf p.2.flatten := by
  induction slots generalizing interiors with
  | nil =>
    rw [List.eq_nil_of_length_eq_zero h]
    simp
  | cons s slots ih =>
    obtain ⟨x, interiors, rfl⟩ := List.exists_cons_of_length_eq_add_one h
    rw [List.map_cons, List.zipWith_cons_cons, List.cons.injEq, s.adapt_eq_self_iff,
      ih (Nat.succ.inj h), List.zip_cons_cons, List.forall_mem_cons]

section
variable {t : Text} {f : Frame sentinel} {interiors : List (List Text)}

theorem views_fill (ht : t.lines = f.fill interiors) (h : f.Fits interiors) :
    ((f.blocks interiors).zip (interiors.map List.flatten)).map
        (Prod.map (fun b => t.lines[b.start]?) id) =
      (f.slots.zip interiors).map fun p => (some p.1.opening, p.2.flatten) := by
  have hopenings := openings_blocksFrom [] (f.slots.zip interiors) f.tail
  have htexts := congrArg (List.map List.flatten) h.map_snd_zip
  have hlines : ([] ++ fillFrom (f.slots.zip interiors) f.tail) = t.lines := ht.symm
  rw [List.map_map] at htexts
  rw [hlines] at hopenings
  rw [← List.zip_map, List.map_id, ← htexts, ← List.zip_map', ← hopenings]
  rfl

theorem assemble_eq_iff (ht : t.lines = f.fill interiors) (h : f.Fits interiors) :
    assemble f.spans (interiors.map List.flatten) = t ↔
      ∀ p ∈ (f.blocks interiors).zip (interiors.map List.flatten), ∀ line,
        t.lines[p.1.start]? = some line → ['\r', '\n'] <:+ line → CrBeforeLf p.2 := by
  have hlen : (interiors.map List.flatten).length = f.slots.length := by
    rw [List.length_map, h.length_eq]
  have hparts := eq_interleave_spans ht h
  have hsame : assemble f.spans (interiors.map List.flatten) = t ↔
      List.zipWith Slot.adapt f.slots (interiors.map List.flatten) =
        interiors.map List.flatten := by
    rw [assemble_eq_interleave, spans, inserted_spansFrom [] f.slots f.tail hlen]
    rw [spans] at hparts
    constructor
    · intro he
      have hcount : (interiors.map List.flatten).length ≤
          (spansFrom [] f.slots f.tail).length := by
        rw [length_spansFrom]
        omega
      exact (eq_of_interleave_eq (forall₂_adapt hlen) hcount (hparts.symm.trans he.symm)).symm
    · intro he
      rw [he, ← hparts]
  have hviews : (∀ p ∈ (f.blocks interiors).zip (interiors.map List.flatten), ∀ line,
        t.lines[p.1.start]? = some line → ['\r', '\n'] <:+ line → CrBeforeLf p.2) ↔
      ∀ v ∈ ((f.blocks interiors).zip (interiors.map List.flatten)).map
        (Prod.map (fun b => t.lines[b.start]?) id),
        ∀ line, v.1 = some line → ['\r', '\n'] <:+ line → CrBeforeLf v.2 := by
    rw [List.forall_mem_map]
    rfl
  rw [hsame, hviews, views_fill ht h, List.forall_mem_map, zipWith_adapt_eq_iff h.length_eq]
  simp

end
end Frame

/-- Blocks count lines of the text in order, and spans and interiors part the text. They assemble to
it when every line feed in a block has a carriage return, as far as the line end of the opening
marker has one. -/
theorem scan_parts_text {t : Text} {s : Scanned} (h : scan sentinel t = .ok s) :
    s.spans.length = s.blocks.length + 1 ∧
    (∀ b ∈ s.blocks, b.start < b.stop ∧ b.stop < t.lines.length) ∧
    (s.blocks.Pairwise fun b c => b.stop < c.start) ∧
    interleave s.spans (s.interiors t) = t ∧
    (assemble s.spans (s.interiors t) = t ↔
      ∀ p ∈ s.blocks.zip (s.interiors t), ∀ line, t.lines[p.1.start]? = some line →
        ['\r', '\n'] <:+ line → CrBeforeLf p.2) := by
  rcases scan_cases h with ⟨f, interiors, hfits, ht, rfl⟩ | rfl
  · have hlines : t.lines.length = 0 + (Frame.fillFrom (f.slots.zip interiors) f.tail).length := by
      rw [ht, Frame.fill, Nat.zero_add]
    have htexts := Frame.interiors_fill ht hfits
    refine ⟨?_, fun b hb => ?_, Frame.pairwise_blocksFrom 0 _, ?_, ?_⟩
    · rw [hfits.length_blocks, Frame.spans, Frame.length_spansFrom]
    · rw [hlines]
      exact (Frame.bounds_of_mem_blocksFrom hb).2
    · rw [htexts]
      exact (Frame.eq_interleave_spans ht hfits).symm
    · rw [htexts]
      exact Frame.assemble_eq_iff ht hfits
  · have hwhole : assemble [t] [] = t := by simp [assemble]
    refine ⟨rfl, by simp, List.Pairwise.nil, ?_, ?_⟩
    · simp [Scanned.interiors, interleave]
    · exact iff_of_true hwhole (by simp)

end

theorem scan_parts_mixed_ends :
    ∃ s, scan "@" "a\n@ | g \x7b\r\nx\n@ \x7d\r\n@ | h \x7b\n@ \x7d" = .ok s ∧
      s.spans.length = 3 ∧
      interleave s.spans (s.interiors "a\n@ | g \x7b\r\nx\n@ \x7d\r\n@ | h \x7b\n@ \x7d") =
        "a\n@ | g \x7b\r\nx\n@ \x7d\r\n@ | h \x7b\n@ \x7d" ∧
      assemble s.spans (s.interiors "a\n@ | g \x7b\r\nx\n@ \x7d\r\n@ | h \x7b\n@ \x7d") ≠
        "a\n@ | g \x7b\r\nx\n@ \x7d\r\n@ | h \x7b\n@ \x7d" := by
  have h : scan "@" "a\n@ | g \x7b\r\nx\n@ \x7d\r\n@ | h \x7b\n@ \x7d" =
      .ok ⟨[⟨1, 3, "g"⟩, ⟨4, 5, "h"⟩],
        ["a\n@ | g \x7b\r\n", "@ \x7d\r\n@ | h \x7b\n", "@ \x7d"]⟩ := by rfl
  obtain ⟨hspans, -, -, hparts, hassemble⟩ := scan_parts_text h
  refine ⟨_, h, hspans, hparts, fun he => ?_⟩
  -- the first block has a line feed alone under a marker that ends with both
  have hends := hassemble.1 he (⟨1, 3, "g"⟩, "x\n") (by decide) "@ | g \x7b\r\n" rfl (by decide)
  have hlast := hends "x" [] rfl
  simp at hlast

end MapLoom
