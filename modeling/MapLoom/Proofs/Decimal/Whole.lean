import MapLoom.Proofs.Decimal.Literal

set_option autoImplicit false

/-!
# Whole numbers as binary floating-point numbers

Rounding keeps the sign of a whole number: zero is the number of no units, and every positive one
has units, however large it is.
-/
namespace MapLoom.Binary64

theorem le_divideToEven (num den : Nat) : num / den ≤ divideToEven num den := by
  unfold divideToEven
  dsimp only
  split
  · exact Nat.le_refl _
  · split
    · exact Nat.le_succ _
    · split
      · exact Nat.le_refl _
      · exact Nat.le_succ _

/-- A quotient by the power of two at which its mantissa starts is not rounded to zero. -/
theorem divideToEven_twoTo_pos {units : Nat} (h : 0 < units) :
    0 < divideToEven units (twoTo (units.log2 + 1 - 53)) := by
  have hle : twoTo (units.log2 + 1 - 53) ≤ units :=
    calc 2 ^ (units.log2 + 1 - 53) ≤ 2 ^ units.log2 :=
          Nat.pow_le_pow_right Nat.two_pos (by omega)
      _ ≤ units := Nat.log2_self_le (Nat.ne_of_gt h)
  exact Nat.lt_of_lt_of_le (Nat.div_pos hle (twoTo_pos _)) (le_divideToEven _ _)

theorem zero_lt_bounded {m : Nat} (s : Nat) (h : 0 < m) :
    zero.lt (if 2045 < s then .infinite false else .finite false m s) = true := by
  split
  · rfl
  · have hunits : 0 < m * twoTo s := Nat.mul_pos h (twoTo_pos s)
    simp only [lt, zero, signedUnits, units, Nat.zero_mul, decide_eq_true_eq]
    exact Int.natCast_pos.2 hunits

def ofUnits (negative : Bool) (units den : Nat) : Binary64 :=
  let scale := (units / den).log2 + 1 - 53
  let mantissa := divideToEven units (den * twoTo scale)
  let (mantissa, scale) := if mantissa = twoTo 53 then (twoTo 52, scale + 1) else (mantissa, scale)
  if 2045 < scale then .infinite negative else .finite negative mantissa scale

-- The units of one are far too many for a proof to compute with, and stay a name from here on.
theorem ofInt_natCast (n : Nat) : ofInt n = ofUnits false (n * unitsOfOne) 1 := by
  have hsign : decide ((n : Int) < 0) = false := by simp
  have hratio (negative : Bool) (num : Nat) :
      ofRatio negative num 1 = ofUnits negative (num * unitsOfOne) 1 := rfl
  rw [ofInt, hsign, hratio, Int.natAbs_natCast]

theorem ofInt_zero : ofInt 0 = zero := by
  have h := ofInt_natCast 0
  rw [Nat.zero_mul] at h
  exact h

theorem zero_lt_ofUnits {units : Nat} (h : 0 < units) :
    zero.lt (ofUnits false units 1) = true := by
  have hmantissa := divideToEven_twoTo_pos h
  unfold ofUnits
  simp only [Nat.div_one, Nat.one_mul]
  split
  · exact zero_lt_bounded _ (twoTo_pos 52)
  · exact zero_lt_bounded _ hmantissa

theorem zero_lt_ofInt (n : Nat) : (ofInt 0).lt (ofInt n) = decide (0 < n) := by
  rw [ofInt_zero]
  by_cases hn : 0 < n
  · rw [ofInt_natCast, zero_lt_ofUnits (Nat.mul_pos hn unitsOfOne_pos), decide_eq_true hn]
  · obtain rfl : n = 0 := by omega
    exact congrArg zero.lt ofInt_zero

end MapLoom.Binary64
