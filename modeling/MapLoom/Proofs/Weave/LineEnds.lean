import MapLoom.Proofs.Text.Infix
import MapLoom.Proofs.Text.Lines
import MapLoom.Weave.Assemble

set_option autoImplicit false

/-!
# Line ends of contents

`toCrlf` goes line by line; character by character it puts a carriage return before every line feed
that has none, and so it changes nothing when every line feed has one. A content keeps its lines
that way, up to their ends.
-/
namespace MapLoom
open Text

/-- Puts a carriage return before every line feed that has none. -/
def crlf : Text → Text
  | [] => []
  | '\r' :: '\n' :: t => '\r' :: '\n' :: crlf t
  | '\n' :: t => '\r' :: '\n' :: crlf t
  | c :: t => c :: crlf t

theorem crlf_cons {c : Char} {t : Text} (hc : c ≠ '\n') (ht : c = '\r' → t.head? ≠ some '\n') :
    crlf (c :: t) = c :: crlf t := by
  rw [crlf.eq_4]
  · rintro rest rfl rfl
    exact ht rfl rfl
  · exact hc

theorem crlf_append_cr {body : Text} (h : '\n' ∉ body) (t : Text) :
    crlf (body ++ '\r' :: '\n' :: t) = body ++ '\r' :: '\n' :: crlf t := by
  induction body with
  | nil => rfl
  | cons c body ih =>
    simp only [List.mem_cons, not_or] at h
    rw [List.cons_append, crlf_cons (Ne.symm h.1), ih h.2, List.cons_append]
    intro _
    cases body with
    | nil => simp
    | cons d body => simpa using fun he : d = '\n' => h.2 (by simp [he])

theorem crlf_append_newline {body : Text} (h : '\n' ∉ body) (hcr : body.getLast? ≠ some '\r')
    (t : Text) : crlf (body ++ '\n' :: t) = body ++ '\r' :: '\n' :: crlf t := by
  induction body with
  | nil => rfl
  | cons c body ih =>
    simp only [List.mem_cons, not_or] at h
    cases body with
    | nil =>
      have hc : c ≠ '\r' := by simpa using hcr
      rw [List.singleton_append, crlf_cons (Ne.symm h.1) fun he => absurd he hc]
      rfl
    | cons d body =>
      have hd : d ≠ '\n' := fun he => h.2 (by simp [he])
      rw [List.cons_append, crlf_cons (Ne.symm h.1) (by simp [hd]),
        ih h.2 (by simpa using hcr)]
      rfl

theorem crlf_of_not_mem {body : Text} (h : '\n' ∉ body) : crlf body = body := by
  induction body with
  | nil => rfl
  | cons c body ih =>
    simp only [List.mem_cons, not_or] at h
    rw [crlf_cons (Ne.symm h.1), ih h.2]
    intro _ hn
    exact h.2 (List.mem_of_mem_head? hn)

/-- Whether every line feed of a text stands right after a carriage return. -/
def CrBeforeLf (t : Text) : Prop :=
  ∀ before after, t = before ++ '\n' :: after → before.getLast? = some '\r'

theorem crBeforeLf_nil : CrBeforeLf [] := by
  intro before after h
  simp at h

theorem not_crBeforeLf_newline (t : Text) : ¬ CrBeforeLf ('\n' :: t) := by
  intro h
  have hlast := h [] t rfl
  simp at hlast

theorem crBeforeLf_cons_iff {c : Char} {t : Text} (hc : c ≠ '\n')
    (ht : c = '\r' → t.head? ≠ some '\n') : CrBeforeLf (c :: t) ↔ CrBeforeLf t := by
  constructor
  · intro h before after he
    have hlast := h (c :: before) after (by rw [he, List.cons_append])
    cases before with
    | nil =>
      have hcr : c = '\r' := by simpa using hlast
      exact absurd (by rw [he]; rfl) (ht hcr)
    | cons d before => simpa using hlast
  · intro h before after he
    cases before with
    | nil => exact absurd (List.cons.inj he).1 hc
    | cons d before =>
      have hlast := h before after (List.cons.inj he).2
      rw [List.getLast?_cons, hlast]
      rfl

theorem crBeforeLf_crlf_iff (t : Text) : CrBeforeLf ('\r' :: '\n' :: t) ↔ CrBeforeLf t := by
  constructor
  · intro h before after he
    have hlast := h ('\r' :: '\n' :: before) after (by rw [he]; rfl)
    cases before with
    | nil => simp at hlast
    | cons d before => simpa using hlast
  · intro h before after he
    rcases before with _ | ⟨c, _ | ⟨d, before⟩⟩
    · simp at he
    · have hc : '\r' = c := (List.cons.inj he).1
      simp [← hc]
    · simp only [List.cons_append, List.cons.injEq] at he
      have hlast := h before after he.2.2
      simp [List.getLast?_cons, hlast]

theorem length_le_length_crlf (t : Text) : t.length ≤ (crlf t).length := by
  fun_induction crlf t with
  | case1 => exact Nat.le_refl 0
  | case2 t ih =>
    simp only [List.length_cons]
    omega
  | case3 t ih =>
    simp only [List.length_cons]
    omega
  | case4 c t _ _ ih =>
    simp only [List.length_cons]
    omega

theorem crlf_eq_self_iff (t : Text) : crlf t = t ↔ CrBeforeLf t := by
  fun_induction crlf t with
  | case1 => exact iff_of_true rfl crBeforeLf_nil
  | case2 t ih => rw [List.cons.injEq, List.cons.injEq, ih, crBeforeLf_crlf_iff]; simp
  | case3 t ih =>
    refine iff_of_false ?_ (not_crBeforeLf_newline t)
    simp
  | case4 c t hpair hc ih =>
    have hhead : c = '\r' → t.head? ≠ some '\n' := by
      intro hcr hn
      obtain ⟨rest, hrest⟩ := List.head?_eq_some_iff.1 hn
      exact hpair rest hcr hrest
    rw [List.cons.injEq, ih, crBeforeLf_cons_iff hc hhead]
    exact and_iff_right rfl

theorem lineBody_cases (body : Text) :
    (∃ b, body = b ++ ['\r'] ∧ lineBody (body ++ ['\n']) = b) ∨
      (body.getLast? ≠ some '\r' ∧ lineBody (body ++ ['\n']) = body) := by
  rcases List.eq_nil_or_concat body with rfl | ⟨b, c, rfl⟩
  · exact .inr ⟨by simp, rfl⟩
  · by_cases hc : c = '\r'
    · subst hc
      exact .inl ⟨b, by simp, by simp [lineBody]⟩
    · exact .inr ⟨by simpa using hc, by simp [lineBody, hc]⟩

theorem lineBody_prefix (body : Text) : lineBody (body ++ ['\n']) <+: body := by
  rcases lineBody_cases body with ⟨b, hb, hline⟩ | ⟨_, hline⟩
  · rw [hline, hb]
    exact List.prefix_append b ['\r']
  · exact ⟨[], by rw [hline, List.append_nil]⟩

theorem toCrlf_append_newline {body : Text} (h : '\n' ∉ body) (t : Text) :
    toCrlf (body ++ '\n' :: t) = lineBody (body ++ ['\n']) ++ '\r' :: '\n' :: toCrlf t := by
  simp [toCrlf, lines_append_newline h]

theorem toCrlf_eq_crlf (t : Text) : toCrlf t = crlf t := by
  induction t using line_induction with
  | nil => rfl
  | last body hne hbody =>
    have hlast : body.getLast? ≠ some '\n' := fun h => hbody (List.mem_of_getLast? h)
    rw [crlf_of_not_mem hbody]
    simp [toCrlf, lines_of_not_mem hbody hne, hlast]
  | line body rest hbody ih =>
    rw [toCrlf_append_newline hbody, ih]
    rcases lineBody_cases body with ⟨b, rfl, hb⟩ | ⟨hcr, hb⟩
    · rw [hb, List.append_assoc, List.singleton_append,
        crlf_append_cr fun hm => hbody (List.mem_append_left _ hm)]
    · rw [hb, crlf_append_newline hbody hcr]

theorem whole_toCrlf {t : Text} (h : Whole t) : Whole (toCrlf t) := by
  induction t using line_induction with
  | nil => exact whole_nil
  | last body hne hbody =>
    rcases h with rfl | h
    · exact absurd rfl hne
    · exact absurd (List.mem_of_getLast? h) hbody
  | line body rest hbody ih =>
    rw [List.append_cons] at h
    rw [toCrlf_append_newline hbody, List.append_cons, List.append_cons]
    exact whole_append (whole_line _) (ih (whole_of_append h))

theorem plain_toCrlf {sentinel t : Text} (hcr : '\r' ∉ sentinel) (hlf : '\n' ∉ sentinel)
    (h : ∀ line ∈ t.lines, hasInfix sentinel line = false) :
    ∀ line ∈ (toCrlf t).lines, hasInfix sentinel line = false := by
  induction t using line_induction with
  | nil => exact h
  | last body hne hbody =>
    rwa [toCrlf_eq_crlf, crlf_of_not_mem hbody]
  | line body rest hbody ih =>
    rw [lines_append_newline hbody] at h
    have hline := h _ List.mem_cons_self
    have hsub := lineBody_prefix body
    have hnot : '\n' ∉ lineBody (body ++ ['\n']) ++ ['\r'] := by
      simpa using fun hm => hbody (hsub.subset hm)
    rw [toCrlf_append_newline hbody, List.append_cons, lines_append_newline hnot]
    intro line hm
    rcases List.mem_cons.1 hm with rfl | hm
    · rw [hasInfix_eq_false_iff] at hline ⊢
      rw [infix_append_cons_iff hlf] at hline ⊢
      rw [infix_append_cons_iff hcr]
      rintro ((hi | hi) | hi)
      · exact hline (.inl (hi.trans hsub.isInfix))
      · exact hline (.inr hi)
      · exact hline (.inr hi)
    · exact ih (fun l hl => h l (List.mem_cons_of_mem _ hl)) line hm

theorem whole_adapted {content : Text} (h : Whole content) (span : Text) :
    Whole (adapted span content) := by
  unfold adapted
  split
  · exact whole_toCrlf h
  · exact h

end MapLoom
