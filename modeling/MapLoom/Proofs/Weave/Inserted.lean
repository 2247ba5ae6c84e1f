import Mathlib.Data.List.Zip
import MapLoom.Proofs.Weave.Frame
import MapLoom.Proofs.Weave.LineEnds

set_option autoImplicit false

/-!
# What is inserted

Assembling puts contents between spans with the line ends of the span before. In a frame these are
the line ends of the opening marker, since a span stops with it.
-/
namespace MapLoom
open Text

/-- Contents with the line ends that they take from the spans before them. -/
def inserted (spans contents : List Text) : List Text := List.zipWith adapted spans contents

theorem assemble_eq_interleave (spans contents : List Text) :
    assemble spans contents = interleave spans (inserted spans contents) := by
  induction spans generalizing contents with
  | nil => cases contents <;> rfl
  | cons span spans ih =>
    cases contents with
    | nil =>
      have hrest := ih []
      simp only [inserted, List.zipWith_nil_right] at hrest
      simp [assemble, inserted, interleave, hrest]
    | cons content contents =>
      rw [assemble, ih]
      rfl

theorem exists_of_mem_zipWith {α β γ : Type} {g : α → β → γ} {as : List α} {bs : List β} {x : γ}
    (h : x ∈ List.zipWith g as bs) : ∃ a ∈ as, ∃ b ∈ bs, x = g a b := by
  rw [← List.map_uncurry_zip_eq_zipWith] at h
  obtain ⟨⟨a, b⟩, hab, rfl⟩ := List.mem_map.1 h
  obtain ⟨ha, hb⟩ := List.of_mem_zip hab
  exact ⟨a, ha, b, hb, rfl⟩

theorem mem_inserted {spans contents : List Text} {x : Text} (h : x ∈ inserted spans contents) :
    ∃ span, ∃ content ∈ contents, x = adapted span content := by
  obtain ⟨span, -, hcontent⟩ := exists_of_mem_zipWith h
  exact ⟨span, hcontent⟩

theorem whole_inserted {contents : List Text} (h : ∀ c ∈ contents, Whole c) (spans : List Text) :
    ∀ x ∈ inserted spans contents, Whole x := by
  intro x hx
  obtain ⟨span, content, hmem, rfl⟩ := mem_inserted hx
  exact whole_adapted (h content hmem) span

theorem plain_adapted {sentinel content : Text} (hcr : '\r' ∉ sentinel) (hlf : '\n' ∉ sentinel)
    (h : ∀ line ∈ content.lines, hasInfix sentinel line = false) (span : Text) :
    ∀ line ∈ (adapted span content).lines, hasInfix sentinel line = false := by
  unfold adapted
  split
  · exact plain_toCrlf hcr hlf h
  · exact h

theorem plain_inserted {sentinel : Text} {contents : List Text} (hcr : '\r' ∉ sentinel)
    (hlf : '\n' ∉ sentinel)
    (h : ∀ c ∈ contents, ∀ line ∈ c.lines, hasInfix sentinel line = false)
    (spans : List Text) :
    ∀ x ∈ inserted spans contents, ∀ line ∈ x.lines, hasInfix sentinel line = false := by
  intro x hx
  obtain ⟨span, content, hmem, rfl⟩ := mem_inserted hx
  exact plain_adapted hcr hlf (h content hmem) span

/-- A content with the line ends that an opening marker asks for: all of them carriage return and
line feed when the marker ends so, and its own ones otherwise. -/
def Slot.adapt {sentinel : Text} (s : Slot sentinel) (content : Text) : Text :=
  if List.isSuffixOf ['\r', '\n'] s.opening then crlf content else content

theorem crlf_suffix_append {line : Text} (h : line ≠ []) (h' : line ≠ ['\n']) (before : Text) :
    ['\r', '\n'] <:+ before ++ line ↔ ['\r', '\n'] <:+ line := by
  rcases List.eq_nil_or_concat line with rfl | ⟨body, c, rfl⟩
  · exact absurd rfl h
  · rcases List.eq_nil_or_concat body with rfl | ⟨body, d, rfl⟩
    · have hc : '\n' ≠ c := fun he => h' (by simpa using he.symm)
      simp [← List.reverse_prefix, List.cons_prefix_cons, hc]
    · simp [← List.reverse_prefix, List.cons_prefix_cons]

theorem brace_mem_of_opening {sentinel line : Text}
    (h : LineKind.ofLine sentinel line = .opening) : '\x7b' ∈ line := by
  unfold LineKind.ofLine at h
  split at h
  · cases h
  · split at h
    · rename_i hlast
      have hmem := List.mem_of_getLast? hlast
      rw [Text.trimEnd, List.mem_reverse] at hmem
      exact List.mem_reverse.1 ((List.dropWhile_suffix _).subset hmem)
    · cases h
    · cases h

theorem adapted_span {sentinel : Text} (s : Slot sentinel) (lead : List Text) (content : Text) :
    adapted (lead ++ s.hand ++ [s.opening]).flatten content = s.adapt content := by
  -- a marker has a brace, so the last two characters of the span are the marker's own
  have hbrace := brace_mem_of_opening s.opening_kind
  have hne : s.opening ≠ [] := List.ne_nil_of_mem hbrace
  have hne' : s.opening ≠ ['\n'] := by
    intro h
    simp [h] at hbrace
  have hspan : (lead ++ s.hand ++ [s.opening]).flatten =
      (lead ++ s.hand).flatten ++ s.opening := by
    simp
  have hsuffix : List.isSuffixOf ['\r', '\n'] (lead ++ s.hand ++ [s.opening]).flatten =
      List.isSuffixOf ['\r', '\n'] s.opening := by
    rw [Bool.eq_iff_iff, List.isSuffixOf_iff_suffix, List.isSuffixOf_iff_suffix, hspan,
      crlf_suffix_append hne hne']
  rw [adapted, Slot.adapt, hsuffix, toCrlf_eq_crlf]

theorem inserted_spansFrom {sentinel : Text} (lead : List Text) (slots : List (Slot sentinel))
    (tail : List Text) {contents : List Text} (h : contents.length = slots.length) :
    inserted (Frame.spansFrom lead slots tail) contents =
      List.zipWith Slot.adapt slots contents := by
  induction slots generalizing lead contents with
  | nil =>
    rw [List.eq_nil_of_length_eq_zero h]
    rfl
  | cons s slots ih =>
    obtain ⟨c, contents, rfl⟩ := List.exists_cons_of_length_eq_add_one h
    have hrest := ih [s.closing] (Nat.succ.inj h)
    rw [inserted] at hrest
    simp only [inserted, Frame.spansFrom, List.zipWith_cons_cons, adapted_span, hrest]

end MapLoom
