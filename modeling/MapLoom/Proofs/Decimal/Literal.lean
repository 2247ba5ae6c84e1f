import Mathlib.Data.List.TakeDrop
import Mathlib.Data.List.TakeWhile
import MapLoom.Decimal.Reading
import MapLoom.Proofs.Text.Numeral

set_option autoImplicit false

/-!
# Decimal literals

A decimal literal is a word for infinity or for what is no number, in any case, or digits with at
most one point among or around them and an optional exponent, with at most one sign before all that.
The reader of decimals accepts these texts, and a float stands for an integer when its units are a
multiple of those of one.
-/
namespace MapLoom

/-- Whether a float is finite and equal to an integer. -/
def Binary64.StandsFor (x : Binary64) (n : Int) : Prop :=
  ∃ negative mantissa scale, x = .finite negative mantissa scale ∧
    signedUnits negative mantissa scale = n * unitsOfOne

theorem twoTo_pos (n : Nat) : 0 < twoTo n := Nat.pow_pos (by decide)

theorem Binary64.unitsOfOne_pos : 0 < unitsOfOne := twoTo_pos 1074

/-- A signed quotient without a remainder is the integer whose multiple is divided. -/
theorem signed_div_eq_some_iff {magnitude one : Nat} (hone : 0 < one) (negative : Bool) (n : Int) :
    (if magnitude % one = 0 then
      some (if negative then -((magnitude / one : Nat) : Int) else (magnitude / one : Nat))
      else none) = some n ↔
    (if negative then -(magnitude : Int) else magnitude) = n * one := by
  constructor
  · intro h
    split at h
    · rename_i hdvd
      have hmul : (magnitude : Int) = (magnitude / one : Nat) * one := by
        exact_mod_cast (Nat.div_mul_cancel (Nat.dvd_of_mod_eq_zero hdvd)).symm
      obtain rfl := Option.some.inj h
      rw [hmul]
      cases negative
      · rfl
      · exact (Int.neg_mul _ _).symm
    · cases h
  · intro h
    have habs : magnitude = n.natAbs * one := by
      have hnat := congrArg Int.natAbs h
      rw [Int.natAbs_mul, Int.natAbs_natCast] at hnat
      rw [← hnat]
      cases negative <;> simp
    have hn : (if negative then -(n.natAbs : Int) else n.natAbs) = n := by
      rw [habs] at h
      refine Int.eq_of_mul_eq_mul_right (Int.ne_of_gt (Int.natCast_pos.2 hone)) (Eq.trans ?_ h)
      rw [Int.natCast_mul]
      cases negative
      · rfl
      · exact Int.neg_mul _ _
    rw [habs, if_pos (Nat.mul_mod_left _ _), Nat.mul_div_cancel _ hone, hn]

theorem Binary64.toInt?_eq_some_iff {x : Binary64} {n : Int} :
    x.toInt? = some n ↔ x.StandsFor n := by
  cases x with
  | nan => exact iff_of_false (by simp [toInt?]) (by rintro ⟨_, _, _, ⟨⟩, -⟩)
  | infinite negative => exact iff_of_false (by simp [toInt?]) (by rintro ⟨_, _, _, ⟨⟩, -⟩)
  | finite negative mantissa scale =>
    refine (signed_div_eq_some_iff unitsOfOne_pos negative n).trans ⟨fun h => ⟨_, _, _, rfl, h⟩, ?_⟩
    rintro ⟨_, _, _, ⟨⟩, h⟩
    exact h

namespace Decimal
open Text (Numeral SignedNumeral isDigit)

inductive Exponent : Text → Int → Prop
  | none : Exponent [] 0
  | marked {c : Char} {t : Text} {e : Int} (mark : c = 'e' ∨ c = 'E')
      (value : SignedNumeral 10 t e) : Exponent (c :: t) e

inductive Magnitude : Text → Nat → Int → Prop
  | whole {w t : Text} {n : Nat} {e : Int} (digits : Numeral 10 w n) (tail : Exponent t e) :
      Magnitude (w ++ t) n e
  | pointed {w f t : Text} {n : Nat} {e : Int} (digits : Numeral 10 (w ++ f) n)
      (tail : Exponent t e) : Magnitude (w ++ '.' :: (f ++ t)) n (e - f.length)

inductive Unsigned (negative : Bool) : Text → Binary64 → Prop
  | infinity {t : Text} (word : t.map Char.toLower = "inf".toList ∨
      t.map Char.toLower = "infinity".toList) : Unsigned negative t (.infinite negative)
  | nan {t : Text} (word : t.map Char.toLower = "nan".toList) : Unsigned negative t .nan
  | decimal {t : Text} {n : Nat} {e : Int} (value : Magnitude t n e) :
      Unsigned negative t (.ofDecimal negative n e)

/-- Whether a text spells a float. -/
inductive Literal : Text → Binary64 → Prop
  | bare {t : Text} {x : Binary64} (value : Unsigned false t x) : Literal t x
  | plus {t : Text} {x : Binary64} (value : Unsigned false t x) : Literal ('+' :: t) x
  | minus {t : Text} {x : Binary64} (value : Unsigned true t x) : Literal ('-' :: t) x

section
variable {w f t : Text} {n : Nat} {e : Int}

theorem isDigit_of_digit? {c : Char} (h : (Text.digit? 10 c).isSome) : isDigit c = true := by
  obtain ⟨d, hd⟩ := Option.isSome_iff_exists.1 h
  obtain ⟨hvalue, hlt⟩ := Option.filter_eq_some_iff.1 hd
  have hten : d < 10 := by simpa using hlt
  by_cases hdigit : '0' ≤ c ∧ c ≤ '9'
  · simp [isDigit, hdigit]
  · -- the letters that are digits in other bases count ten at least
    rw [if_neg hdigit] at hvalue
    split at hvalue
    · obtain rfl := Option.some.inj hvalue
      omega
    · split at hvalue
      · obtain rfl := Option.some.inj hvalue
        omega
      · cases hvalue

theorem isDigit_of_numeral (h : Numeral 10 t n) : ∀ c ∈ t, isDigit c = true := fun c hc =>
  isDigit_of_digit? (h.isSome_digit? c hc)

theorem span_digits (hw : ∀ c ∈ w, isDigit c = true) (ht : ∀ c ∈ t.head?, isDigit c = false) :
    (w ++ t).span isDigit = (w, t) := by
  rw [List.span_eq_takeWhile_dropWhile, List.takeWhile_append_of_pos hw,
    List.dropWhile_append_of_pos hw]
  cases t with
  | nil => simp
  | cons c t =>
    have hc : isDigit c = false := ht c rfl
    simp [hc]

theorem exponent?_eq_some_iff : exponent? t = some e ↔ Exponent t e := by
  cases t with
  | nil =>
    constructor
    · rintro ⟨⟩
      exact .none
    · rintro ⟨⟩
      rfl
  | cons c t =>
    rw [exponent?]
    constructor
    · intro h
      split at h
      · rename_i hmark
        exact .marked hmark (Text.integer?_eq_some_iff.1 h)
      · cases h
    · rintro (_ | ⟨hmark, hvalue⟩)
      rw [if_pos hmark]
      exact Text.integer?_eq_some_iff.2 hvalue

/-- An exponent does not continue the digits before it, nor is it a point. -/
theorem Exponent.head (h : Exponent t e) : ∀ c ∈ t.head?, isDigit c = false ∧ c ≠ '.' := by
  rintro c hc
  cases h with
  | none => cases hc
  | marked mark value =>
    cases hc
    rcases mark with rfl | rfl <;> decide

theorem split_digits (t : Text) : ∃ w r, t = w ++ r ∧ (∀ c ∈ w, isDigit c = true) ∧
    ∀ c ∈ r.head?, isDigit c = false := by
  refine ⟨t.takeWhile isDigit, t.dropWhile isDigit, List.takeWhile_append_dropWhile.symm,
    fun c => List.mem_takeWhile_imp, fun c hc => ?_⟩
  rw [← List.find?_not_eq_head?_dropWhile] at hc
  simpa using List.find?_some hc

theorem magnitude?_whole (hw : ∀ c ∈ w, isDigit c = true)
    (ht : ∀ c ∈ t.head?, isDigit c = false ∧ c ≠ '.') :
    magnitude? (w ++ t) = some (n, e) ↔ Numeral 10 w n ∧ Exponent t e := by
  rw [← Text.natural?_eq_some_iff, ← exponent?_eq_some_iff, magnitude?,
    span_digits hw fun c hc => (ht c hc).1]
  cases t with
  | nil =>
    simp only [List.append_nil]
    cases Text.natural? 10 w <;> simp [exponent?]
  | cons c t =>
    have hc : c ≠ '.' := (ht c rfl).2
    simp only [hc, List.cons.injEq, false_and, imp_self, implies_true, List.append_nil,
      List.length_nil]
    cases Text.natural? 10 w <;> cases exponent? (c :: t) <;> simp

theorem magnitude?_pointed (hw : ∀ c ∈ w, isDigit c = true) (hf : ∀ c ∈ f, isDigit c = true)
    (ht : ∀ c ∈ t.head?, isDigit c = false) :
    magnitude? (w ++ '.' :: (f ++ t)) = some (n, e) ↔
      Numeral 10 (w ++ f) n ∧ ∃ e', Exponent t e' ∧ e = e' - f.length := by
  have hpoint : ∀ c ∈ ('.' :: (f ++ t)).head?, isDigit c = false := by
    rintro c ⟨⟩
    decide
  simp only [← Text.natural?_eq_some_iff, ← exponent?_eq_some_iff]
  rw [magnitude?, span_digits hw hpoint]
  simp only [span_digits hf ht]
  cases Text.natural? 10 (w ++ f) <;> cases exponent? t <;> simp [eq_comm]

theorem magnitude?_eq_some_iff : magnitude? t = some (n, e) ↔ Magnitude t n e := by
  constructor
  · intro h
    obtain ⟨w, r, rfl, hw, hr⟩ := split_digits t
    by_cases hpoint : r.head? = some '.'
    · obtain ⟨r, rfl⟩ := List.head?_eq_some_iff.1 hpoint
      obtain ⟨f, t, rfl, hf, ht⟩ := split_digits r
      obtain ⟨digits, _, tail, rfl⟩ := (magnitude?_pointed hw hf ht).1 h
      exact .pointed digits tail
    · have hhead : ∀ c ∈ r.head?, isDigit c = false ∧ c ≠ '.' := by
        intro c hc
        refine ⟨hr c hc, ?_⟩
        rintro rfl
        exact hpoint hc
      obtain ⟨digits, tail⟩ := (magnitude?_whole hw hhead).1 h
      exact .whole digits tail
  · rintro (⟨digits, tail⟩ | ⟨digits, tail⟩)
    · exact (magnitude?_whole (isDigit_of_numeral digits) tail.head).2 ⟨digits, tail⟩
    · have hdigits := isDigit_of_numeral digits
      exact (magnitude?_pointed (fun c hc => hdigits c (List.mem_append_left _ hc))
        (fun c hc => hdigits c (List.mem_append_right _ hc)) fun c hc => (tail.head c hc).1).2
        ⟨digits, _, tail, rfl⟩

/-- The first character of a magnitude is a digit or the point, so no word and no sign is one. -/
theorem Magnitude.head (h : Magnitude t n e) :
    ∃ c, t.head? = some c ∧ (isDigit c = true ∨ c = '.') := by
  rcases h with ⟨digits, tail⟩ | ⟨digits, tail⟩
  · rename_i w t
    cases w with
    | nil => exact absurd rfl digits.ne_nil
    | cons c w => exact ⟨c, rfl, .inl (isDigit_of_numeral digits c List.mem_cons_self)⟩
  · rename_i w f t e
    cases w with
    | nil => exact ⟨'.', rfl, .inr rfl⟩
    | cons c w => exact ⟨c, rfl, .inl (isDigit_of_numeral digits c List.mem_cons_self)⟩

theorem toLower_of_isDigit {c : Char} (h : isDigit c = true) : c.toLower = c := by
  simp only [isDigit, Bool.and_eq_true, decide_eq_true_eq, Char.le_def] at h
  have hbelow : ¬ (c.val ≥ 'A'.val ∧ c.val ≤ 'Z'.val) := fun hupper =>
    absurd (UInt32.le_trans hupper.1 h.2) (by decide)
  exact dif_neg hbelow

theorem Magnitude.not_word (h : Magnitude t n e) {c : Char} {word : Text}
    (hc : c = 'i' ∨ c = 'n') : t.map Char.toLower ≠ c :: word := by
  obtain ⟨d, hd, hdigit⟩ := h.head
  obtain ⟨t, rfl⟩ := List.head?_eq_some_iff.1 hd
  intro hword
  obtain rfl : d.toLower = c := (List.cons.inj hword).1
  rcases hdigit with hdigit | rfl
  · rw [toLower_of_isDigit hdigit] at hc
    rcases hc with rfl | rfl <;> simp [isDigit] at hdigit
  · revert hc
    decide

theorem unsigned?_eq_some_iff {negative : Bool} {x : Binary64} :
    unsigned? negative t = some x ↔ Unsigned negative t x := by
  rw [unsigned?]
  constructor
  · intro h
    dsimp only at h
    split at h
    · rename_i hword
      cases h
      exact .infinity hword
    · split at h
      · rename_i hword
        cases h
        exact .nan hword
      · obtain ⟨⟨n, e⟩, hvalue, rfl⟩ := Option.map_eq_some_iff.1 h
        exact .decimal (magnitude?_eq_some_iff.1 hvalue)
  · rintro (hword | hword | hvalue)
    · exact if_pos hword
    · simp only [hword]
      rfl
    · have hinf : ¬ (t.map Char.toLower = "inf".toList ∨ t.map Char.toLower = "infinity".toList) :=
        not_or.2 ⟨hvalue.not_word (.inl rfl), hvalue.not_word (.inl rfl)⟩
      have hnan : t.map Char.toLower ≠ "nan".toList := hvalue.not_word (.inr rfl)
      simp only [if_neg hinf, if_neg hnan, magnitude?_eq_some_iff.2 hvalue, Option.map_some]

theorem Unsigned.head_ne {negative : Bool} {x : Binary64} (h : Unsigned negative t x) :
    t.head? ≠ some '-' ∧ t.head? ≠ some '+' := by
  have hword : ∀ {c : Char} {word : Text}, c = 'i' ∨ c = 'n' → t.map Char.toLower = c :: word →
      t.head? ≠ some '-' ∧ t.head? ≠ some '+' := by
    intro c word hc hmap
    obtain ⟨d, t, rfl, rfl, -⟩ := List.map_eq_cons_iff.1 hmap
    constructor
    all_goals
      rintro ⟨⟩
      revert hc
      decide
  rcases h with (hmap | hmap) | hmap | hvalue
  · exact hword (.inl rfl) hmap
  · exact hword (.inl rfl) hmap
  · exact hword (.inr rfl) hmap
  · obtain ⟨c, hc, hdigit⟩ := hvalue.head
    rw [hc]
    constructor
    all_goals
      rintro ⟨⟩
      revert hdigit
      decide

theorem read?_eq_some_iff {x : Binary64} : read? t = some x ↔ Literal t x := by
  unfold read?
  split
  · rw [unsigned?_eq_some_iff]
    refine ⟨.minus, ?_⟩
    rintro (hbare | _ | hminus)
    · exact absurd rfl hbare.head_ne.1
    · exact hminus
  · rw [unsigned?_eq_some_iff]
    refine ⟨.plus, ?_⟩
    rintro (hbare | hplus)
    · exact absurd rfl hbare.head_ne.2
    · exact hplus
  · rename_i hminus hplus
    rw [unsigned?_eq_some_iff]
    refine ⟨.bare, ?_⟩
    rintro (hbare | _ | _)
    · exact hbare
    · exact absurd rfl (hplus _)
    · exact absurd rfl (hminus _)

end
end Decimal
end MapLoom
