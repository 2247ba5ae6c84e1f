import MapLoom.Proofs.Decimal.Literal
import MapLoom.Proofs.Schema.Reading

set_option autoImplicit false

/-!
# Scalars of a schema

What counts as a text, an integer and a float is said here by rules over the forms of values, and
the readers of scalars accept what the rules say, with that value. A tagged scalar is none of them.
-/
namespace MapLoom
open Text (SignedNumeral)

/-- Whether an integer has 64 bits with a sign. -/
def InInt64 (n : Int) : Prop := -(twoTo 63 : Int) ≤ n ∧ n < twoTo 63

/-- Whether a text spells an integer: in decimal digits, or in hexadecimal ones after `0x`. -/
inductive IntegerLiteral : Text → Int → Prop
  | decimal {t : Text} {n : Int} (value : SignedNumeral 10 t n) : IntegerLiteral t n
  | hex {x : Char} {t : Text} {n : Int} (mark : x = 'x' ∨ x = 'X') (value : SignedNumeral 16 t n) :
      IntegerLiteral ('0' :: x :: t) n

theorem inInt64?_eq_some_iff {m n : Int} : inInt64? m = some n ↔ m = n ∧ InInt64 n := by
  unfold inInt64? InInt64 fitsSigned
  constructor
  · intro h
    split at h
    · rename_i hfits
      cases h
      exact ⟨rfl, by simpa using hfits⟩
    · cases h
  · rintro ⟨rfl, hfits⟩
    exact if_pos (by simpa using hfits)

theorem not_signedNumeral_mark {x : Char} {t : Text} {n : Int} (hx : x = 'x' ∨ x = 'X') :
    ¬ SignedNumeral 10 ('0' :: x :: t) n := by
  rintro (hdigits | _ | _)
  have hdigit := hdigits.isSome_digit? x (by simp)
  rcases hx with rfl | rfl <;> cases hdigit

theorem integerLiteral?_eq_some_iff {t : Text} {n : Int} :
    integerLiteral? t = some n ↔ IntegerLiteral t n ∧ InInt64 n := by
  have hread : ∀ (base : Nat) (t : Text), (Text.integer? base t).bind inInt64? = some n ↔
      SignedNumeral base t n ∧ InInt64 n := by
    intro base t
    simp only [Option.bind_eq_some_iff, Text.integer?_eq_some_iff, inInt64?_eq_some_iff]
    constructor
    · rintro ⟨_, hvalue, rfl, hrange⟩
      exact ⟨hvalue, hrange⟩
    · rintro ⟨hvalue, hrange⟩
      exact ⟨_, hvalue, rfl, hrange⟩
  have hmark : ∀ {x : Char} {t : Text}, x = 'x' ∨ x = 'X' →
      (IntegerLiteral ('0' :: x :: t) n ↔ SignedNumeral 16 t n) := by
    intro x t hx
    refine ⟨?_, .hex hx⟩
    rintro (hdecimal | ⟨-, hhex⟩)
    · exact absurd hdecimal (not_signedNumeral_mark hx)
    · exact hhex
  unfold integerLiteral?
  split
  · rw [hread, hmark (.inl rfl)]
  · rw [hread, hmark (.inr rfl)]
  · rename_i hlower hupper
    rw [hread]
    refine and_congr_left fun _ => ⟨.decimal, ?_⟩
    rintro (hdecimal | ⟨rfl | rfl, -⟩)
    · exact hdecimal
    · exact absurd rfl (hlower _)
    · exact absurd rfl (hupper _)

namespace Yaml.Value

/-- Whether a value counts as a text: numbers and truth values count as their written form. -/
inductive IsText : Value → Text → Prop
  | text (t : Text) : IsText (.text t) t
  | integer (n : Int) : IsText (.integer n) (Text.ofInt n)
  | float (x : Binary64) : IsText (.float x) (Decimal.write .scalar x)
  | true : IsText (.bool .true) "true"
  | false : IsText (.bool .false) "false"

/-- Whether a value counts as an integer: a float without fraction does, and a text that spells
one between blanks. -/
inductive IsInteger : Value → Int → Prop
  | integer {n : Int} (range : InInt64 n) : IsInteger (.integer n) n
  | float {x : Binary64} {n : Int} (value : x.StandsFor n) (bound : n.natAbs < twoTo 63) :
      IsInteger (.float x) n
  | text {t : Text} {n : Int} (literal : IntegerLiteral t.trim n) (range : InInt64 n) :
      IsInteger (.text t) n

/-- Whether a value counts as a float: any number does, and a text that spells one between
blanks. -/
inductive IsFloat : Value → Binary64 → Prop
  | integer (n : Int) : IsFloat (.integer n) (.ofInt n)
  | float (x : Binary64) : IsFloat (.float x) x
  | text {t : Text} {x : Binary64} (literal : Decimal.Literal t.trim x) : IsFloat (.text t) x

def IsNatural32 (v : Value) (n : UInt32) : Prop := IsInteger v n.toNat

def IsNatural64 (v : Value) (n : UInt64) : Prop := IsInteger v n.toNat

def IsPositive64 (v : Value) (n : UInt64) : Prop := IsInteger v n.toNat ∧ 0 < n.toNat

def IsList (v : Value) (items : List Value) : Prop := v.untagged = .list items

theorem asText?_eq_some_iff (v : Value) (t : Text) : v.asText? = some t ↔ IsText v t := by
  constructor
  · intro h
    unfold asText? at h
    split at h
    all_goals cases h
    · exact .text _
    · exact .integer _
    · exact .float _
    · exact .true
    · exact .false
  · rintro (_ | _ | _ | _ | _) <;> rfl

theorem asInteger?_eq_some_iff (v : Value) (n : Int) : v.asInteger? = some n ↔ IsInteger v n := by
  constructor
  · intro h
    unfold asInteger? at h
    split at h
    · obtain ⟨rfl, hrange⟩ := inInt64?_eq_some_iff.1 h
      exact .integer hrange
    · obtain ⟨hvalue, hbound⟩ := Option.filter_eq_some_iff.1 h
      exact .float (Binary64.toInt?_eq_some_iff.1 hvalue) (by simpa using hbound)
    · obtain ⟨hliteral, hrange⟩ := integerLiteral?_eq_some_iff.1 h
      exact .text hliteral hrange
    · cases h
  · rintro (hrange | ⟨hvalue, hbound⟩ | ⟨hliteral, hrange⟩)
    · exact inInt64?_eq_some_iff.2 ⟨rfl, hrange⟩
    · exact Option.filter_eq_some_iff.2
        ⟨Binary64.toInt?_eq_some_iff.2 hvalue, by simpa using hbound⟩
    · exact integerLiteral?_eq_some_iff.2 ⟨hliteral, hrange⟩

theorem IsInteger.unique {v : Value} {m n : Int} (h : IsInteger v m) (h' : IsInteger v n) :
    m = n :=
  Option.some.inj
    (((asInteger?_eq_some_iff v m).2 h).symm.trans ((asInteger?_eq_some_iff v n).2 h'))

theorem IsText.unique {v : Value} {t u : Text} (h : IsText v t) (h' : IsText v u) : t = u :=
  Option.some.inj
    (((asText?_eq_some_iff v t).2 h).symm.trans ((asText?_eq_some_iff v u).2 h'))

theorem asFloat?_eq_some_iff (v : Value) (x : Binary64) : v.asFloat? = some x ↔ IsFloat v x := by
  constructor
  · intro h
    unfold asFloat? at h
    split at h
    · cases h
      exact .integer _
    · cases h
      exact .float _
    · exact .text (Decimal.read?_eq_some_iff.1 h)
    · cases h
  · rintro (_ | _ | hliteral)
    · rfl
    · rfl
    · exact Decimal.read?_eq_some_iff.2 hliteral

theorem natural32?_eq_some_iff {z : Int} {n : UInt32} :
    natural32? z = some n ↔ (n.toNat : Int) = z := by
  have hsize : twoTo 32 = 2 ^ 32 := rfl
  have hlt := n.toNat_lt
  unfold natural32? fitsUnsigned
  constructor
  · intro h
    split at h
    · rename_i hfits
      obtain rfl := Option.some.inj h
      have hrange : 0 ≤ z ∧ z < (twoTo 32 : Int) := by simpa using hfits
      rw [UInt32.toNat_ofNat', Nat.mod_eq_of_lt (by omega)]
      omega
    · cases h
  · rintro rfl
    have hfits : (0 : Int) ≤ n.toNat ∧ (n.toNat : Int) < (twoTo 32 : Int) := by omega
    rw [if_pos (by simpa using hfits), Int.toNat_natCast, UInt32.ofNat_toNat]

theorem asNatural32?_eq_some_iff (v : Value) (n : UInt32) :
    v.asNatural32? = some n ↔ IsNatural32 v n := by
  simp only [asNatural32?, Option.bind_eq_some_iff, asInteger?_eq_some_iff, natural32?_eq_some_iff,
    exists_eq_right', IsNatural32]

theorem asNatural64?_eq_some_iff (v : Value) (n : UInt64) :
    v.asNatural64? = some n ↔ IsNatural64 v n := by
  unfold asNatural64? IsNatural64
  rw [Option.bind_eq_some_iff]
  constructor
  · rintro ⟨z, hz, h⟩
    have hlt := asInteger?_lt hz
    have hhalf : twoTo 63 < 2 ^ 64 := by decide
    split at h
    · obtain rfl := Option.some.inj h
      rw [UInt64.toNat_ofNat', Nat.mod_eq_of_lt (by omega), Int.toNat_of_nonneg ‹_›]
      exact (asInteger?_eq_some_iff _ _).1 hz
    · cases h
  · intro h
    refine ⟨_, (asInteger?_eq_some_iff _ _).2 h, ?_⟩
    rw [if_pos (Int.natCast_nonneg _), Int.toNat_natCast, UInt64.ofNat_toNat]

theorem asPositive64?_eq_some_iff (v : Value) (n : UInt64) :
    v.asPositive64? = some n ↔ IsPositive64 v n := by
  unfold asPositive64? IsPositive64
  rw [Option.filter_eq_some_iff, asNatural64?_eq_some_iff, decide_eq_true_iff,
    UInt64.lt_iff_toNat_lt]
  rfl

theorem asList?_eq_some_iff (v : Value) (items : List Value) :
    v.asList? = some items ↔ IsList v items := by
  unfold asList? IsList
  constructor
  · intro h
    split at h
    · rename_i hlist
      cases h
      exact hlist
    · cases h
  · intro h
    rw [h]

theorem IsList.unique {v : Value} {items others : List Value} (h : IsList v items)
    (h' : IsList v others) : items = others := by
  cases h.symm.trans h'
  rfl

end Yaml.Value
end MapLoom
