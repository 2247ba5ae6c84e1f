import MapLoom.Proofs.Text.LineFeeds
import MapLoom.Proofs.Weave.Normalize
import MapLoom.Proofs.Weave.Rescan

set_option autoImplicit false

/-!
# Homogeneous line ends

The lines of a woven text are lines of the text before and lines of what was inserted, and the
latter end like the opening marker before them. So a text in which all lines end alike keeps that
when normalized contents are woven into it.
-/
namespace MapLoom
open Text

/-- Whether no line feed of a text stands right after a carriage return. -/
def NoCrBeforeLf (t : Text) : Prop :=
  ∀ before after, t = before ++ '\n' :: after → before.getLast? ≠ some '\r'

theorem noCrBeforeLf_iff {t : Text} : NoCrBeforeLf t ↔ ¬ ['\r', '\n'] <:+: t := by
  constructor
  · rintro h ⟨before, after, rfl⟩
    exact h (before ++ ['\r']) after (by simp) (by simp)
  · rintro h before after rfl hlast
    obtain ⟨body, rfl⟩ := List.getLast?_eq_some_iff.1 hlast
    exact h ⟨body, after, by simp⟩

theorem head?_crlf_ne_newline (t : Text) : (crlf t).head? ≠ some '\n' := by
  fun_cases crlf t with
  | case1 => simp
  | case2 t => simp
  | case3 t => simp
  | case4 c t _ hc => simpa using hc

@[simp] theorem crlf_crlf (t : Text) : crlf (crlf t) = crlf t := by
  fun_induction crlf t with
  | case1 => rfl
  | case2 t ih => rw [crlf, ih]
  | case3 t ih => rw [crlf, ih]
  | case4 c t _ hc ih => rw [crlf_cons hc fun _ => head?_crlf_ne_newline t, ih]

theorem crBeforeLf_crlf (t : Text) : CrBeforeLf (crlf t) :=
  (crlf_eq_self_iff (crlf t)).1 (crlf_crlf t)

@[simp] theorem toCrlf_toCrlf (t : Text) : toCrlf (toCrlf t) = toCrlf t := by
  rw [toCrlf_eq_crlf, toCrlf_eq_crlf, crlf_crlf]

@[simp] theorem adapted_adapted (span content : Text) :
    adapted span (adapted span content) = adapted span content := by
  unfold adapted
  split
  · exact toCrlf_toCrlf content
  · rfl

theorem noCrBeforeLf_normalize (t : Text) : NoCrBeforeLf (normalize t) := by
  rw [normalize_eq_unlines]
  refine beforeLf_unlines (P := (· ≠ some '\r')) (by simp) fun line hline => ?_
  obtain ⟨hbody, hlast⟩ := trimmed_of_mem_trimmedLines hline
  refine ⟨hbody, fun hcr => ?_⟩
  have hblank := hlast '\r' hcr
  exact absurd hblank (by decide)

theorem crlf_suffix_of_crBeforeLf {line : Text} (h : CrBeforeLf line)
    (hline : line.getLast? = some '\n') : ['\r', '\n'] <:+ line := by
  obtain ⟨body, rfl⟩ := List.getLast?_eq_some_iff.1 hline
  obtain ⟨body, rfl⟩ := List.getLast?_eq_some_iff.1 (h body [] rfl)
  exact ⟨body, by simp⟩

section
variable {sentinel t : Text} {f : Frame sentinel} {interiors : List (List Text)}
  {contents : List Text} {P : Option Char → Prop}

theorem Slot.opening_mem_lines (s : Slot sentinel) (ht : t.lines = f.fill interiors)
    (h : f.Fits interiors) (hs : s ∈ f.slots) :
    s.opening ∈ t.lines ∧ s.opening.getLast? = some '\n' := by
  obtain ⟨before, after, hne, hfill⟩ := Frame.exists_fillFrom_opening h.length_eq f.tail hs
  have hlines := ht.trans hfill
  obtain ⟨-, -, hwhole⟩ := lines_split hlines
  have hstop := hwhole hne
  rw [List.flatten_append, List.flatten_singleton] at hstop
  refine ⟨by simp [hlines], (whole_of_append hstop).resolve_left ?_⟩
  exact List.ne_nil_of_mem (brace_mem_of_opening s.opening_kind)

theorem Slot.crBeforeLf_adapt (s : Slot sentinel) (h : CrBeforeLf s.opening)
    (hline : s.opening.getLast? = some '\n') (content : Text) :
    CrBeforeLf (s.adapt content) := by
  have hsuffix := List.isSuffixOf_iff_suffix.2 (crlf_suffix_of_crBeforeLf h hline)
  rw [Slot.adapt, if_pos hsuffix]
  exact crBeforeLf_crlf content

theorem Slot.adapt_of_noCrBeforeLf (s : Slot sentinel) (h : NoCrBeforeLf s.opening)
    (content : Text) : s.adapt content = content := by
  have hsuffix : ¬ ['\r', '\n'] <:+ s.opening := fun hs => noCrBeforeLf_iff.1 h hs.isInfix
  exact if_neg (mt List.isSuffixOf_iff_suffix.1 hsuffix)

/-- What stands before the line feeds of a woven text stands so in the text before or in a content
as it was inserted. -/
theorem beforeLf_assemble (hP : P none ↔ P (some '\n')) (ht : t.lines = f.fill interiors)
    (h : f.Fits interiors) (hlen : contents.length = f.slots.length)
    (hwhole : ∀ c ∈ contents, Whole c) (hbefore : BeforeLf P t)
    (hslot : ∀ s ∈ f.slots, BeforeLf P s.opening → s.opening.getLast? = some '\n' →
      ∀ c ∈ contents, BeforeLf P (s.adapt c)) :
    BeforeLf P (assemble f.spans contents) := by
  have hframe := (beforeLf_iff_lines hP t).1 hbefore
  have hin := f.length_inserted_spans hlen
  have hlines := Frame.lines_interleave_spans ht h hin (whole_inserted hwhole f.spans)
  have hslots : ∀ x ∈ inserted f.spans contents, BeforeLf P x := by
    intro x hx
    rw [Frame.spans, inserted_spansFrom [] f.slots f.tail hlen] at hx
    obtain ⟨s, hs, c, hc, rfl⟩ := exists_of_mem_zipWith hx
    obtain ⟨hmem, hlast⟩ := s.opening_mem_lines ht h hs
    exact hslot s hs (hframe s.opening hmem) hlast c hc
  rw [assemble_eq_interleave, beforeLf_iff_lines hP, hlines]
  intro line hline
  rcases Frame.mem_fillFrom_cases (by simpa using hin) h.length_eq hline with
    hfill | ⟨x, hx, hmem⟩
  · exact hframe line (ht ▸ hfill)
  · obtain ⟨text, htext, rfl⟩ := List.mem_map.1 hx
    exact (beforeLf_iff_lines hP text).1 (hslots text htext) line hmem

/-- A text in which every line feed has a carriage return before it, or none has, keeps that when
normalized contents are woven into it, and adapting an adapted content changes nothing. -/
theorem assemble_keeps_line_ends {s : Scanned} (h : scan sentinel t = .ok s)
    (hlen : contents.length = s.blocks.length)
    (hnormal : ∀ content ∈ contents, ∃ rendered, content = normalize rendered) :
    (CrBeforeLf t → CrBeforeLf (assemble s.spans contents)) ∧
    (NoCrBeforeLf t → NoCrBeforeLf (assemble s.spans contents)) ∧
    (∀ content, toCrlf (toCrlf content) = toCrlf content) ∧
    ∀ span content, adapted span (adapted span content) = adapted span content := by
  have hwhole : ∀ c ∈ contents, Whole c := by
    intro c hc
    obtain ⟨rendered, rfl⟩ := hnormal c hc
    exact whole_normalize rendered
  rcases scan_cases h with ⟨f, interiors, hfits, ht, rfl⟩ | rfl
  · have hslots : contents.length = f.slots.length := hlen.trans hfits.length_blocks
    refine ⟨fun hcr => ?_, fun hno => ?_, toCrlf_toCrlf, adapted_adapted⟩
    · exact beforeLf_assemble (P := (· = some '\r')) (by simp) ht hfits hslots hwhole hcr
        fun s _ hopening hlast c _ => s.crBeforeLf_adapt hopening hlast c
    · refine beforeLf_assemble (P := (· ≠ some '\r')) (by simp) ht hfits hslots hwhole hno
        fun s _ hopening _ c hc => ?_
      obtain ⟨rendered, rfl⟩ := hnormal c hc
      rw [s.adapt_of_noCrBeforeLf hopening]
      exact noCrBeforeLf_normalize rendered
  · obtain rfl := List.eq_nil_of_length_eq_zero hlen
    have hsame : assemble [t] [] = t := by simp [assemble]
    rw [hsame]
    exact ⟨id, id, toCrlf_toCrlf, adapted_adapted⟩

end

def twoCrlfBlocks : Text := "a\r\n@ | g \x7b\r\nold\r\n@ \x7d\r\n@ | h \x7b\r\n@ \x7d"

def oneLfBlock : Text := "@ | g \x7b\nol\rd\n@ \x7d"

theorem assemble_keeps_both_ends :
    (∃ s, scan "@" twoCrlfBlocks = .ok s ∧ s.blocks.length = 2 ∧ CrBeforeLf twoCrlfBlocks ∧
      CrBeforeLf (assemble s.spans [normalize "x \r\n\ny\r", normalize []])) ∧
    ∃ s, scan "@" oneLfBlock = .ok s ∧ s.blocks.length = 1 ∧ NoCrBeforeLf oneLfBlock ∧
      NoCrBeforeLf (assemble s.spans [normalize "x \r\n\ny\r"]) := by
  have hcrlf : scan "@" twoCrlfBlocks = .ok ⟨[⟨1, 3, "g"⟩, ⟨4, 5, "h"⟩],
      ["a\r\n@ | g \x7b\r\n", "@ \x7d\r\n@ | h \x7b\r\n", "@ \x7d"]⟩ := rfl
  have hlf : scan "@" oneLfBlock = .ok ⟨[⟨0, 2, "g"⟩], ["@ | g \x7b\n", "@ \x7d"]⟩ := rfl
  have hcr : CrBeforeLf twoCrlfBlocks := (crlf_eq_self_iff _).1 rfl
  have hno : NoCrBeforeLf oneLfBlock := noCrBeforeLf_iff.2 (by decide)
  obtain ⟨hkeepsCr, -⟩ := @assemble_keeps_line_ends "@" _ [normalize "x \r\n\ny\r", normalize []]
    _ hcrlf rfl (by simp)
  obtain ⟨-, hkeepsNo, -⟩ := @assemble_keeps_line_ends "@" _ [normalize "x \r\n\ny\r"]
    _ hlf rfl (by simp)
  exact ⟨⟨_, hcrlf, rfl, hcr, hkeepsCr hcr⟩, _, hlf, rfl, hno, hkeepsNo hno⟩

end MapLoom
