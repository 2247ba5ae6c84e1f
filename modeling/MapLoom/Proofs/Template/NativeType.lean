import Mathlib.Data.List.Infix
import MapLoom.Proofs.Text.Numeral
import MapLoom.Template.Filter

set_option autoImplicit false

/-!
# Native types

The `ctypes` names of scalar types by rules: the two float types have one each, and an integer type
of 1 to 64 bits has that of the least machine integer that holds it.
-/
namespace MapLoom.Template
open Text (Numeral)

/-- Whether a text writes a number of bits: its digits, with or without a plus sign. -/
inductive BitCount : Text → Nat → Prop
  | bare {t : Text} {n : Nat} (digits : Numeral 10 t n) : BitCount t n
  | plus {t : Text} {n : Nat} (digits : Numeral 10 t n) : BitCount ('+' :: t) n

/-- Whether a width is that of the least machine integer with at least so many bits. -/
structure NativeWidth (bits native : Nat) : Prop where
  pos : 1 ≤ bits
  mem : native ∈ [8, 16, 32, 64]
  le : bits ≤ native
  least : ∀ width ∈ [8, 16, 32, 64], bits ≤ width → native ≤ width

/-- Whether a scalar type has a `ctypes` name. -/
inductive NativeType : Text → Text → Prop
  | float : NativeType "float" "c_float"
  | double : NativeType "double" "c_double"
  | unsigned {digits : Text} {bits native : Nat} (count : BitCount digits bits)
      (width : NativeWidth bits native) :
      NativeType ("uint" ++ digits ++ "_t") ("c_uint" ++ Text.ofNat native)
  | signed {digits : Text} {bits native : Nat} (count : BitCount digits bits)
      (width : NativeWidth bits native) :
      NativeType ("int" ++ digits ++ "_t") ("c_int" ++ Text.ofNat native)

/-- Whether a type is a float type or an integer type of 1 to 64 bits. -/
def IsScalar (type : Text) : Prop :=
  type = "float" ∨ type = "double" ∨ ∃ digits bits, BitCount digits bits ∧ 1 ≤ bits ∧ bits ≤ 64 ∧
    (type = "uint" ++ digits ++ "_t" ∨ type = "int" ++ digits ++ "_t")

variable {type name t : Text} {bits native : Nat}

theorem bitCount?_eq_some_iff : bitCount? t = some bits ↔ BitCount t bits ∧ bits < twoTo 32 := by
  have hplus := (Text.digit?_sign 10).2
  unfold bitCount?
  rw [Option.filter_eq_some_iff, Text.natural?_eq_some_iff, decide_eq_true_iff]
  refine and_congr_left fun _ => ?_
  split
  · refine ⟨.plus, fun h => ?_⟩
    cases h with
    | bare digits => exact absurd digits (Text.not_numeral_cons hplus)
    | plus digits => exact digits
  · rename_i hbare
    refine ⟨.bare, fun h => ?_⟩
    cases h with
    | bare digits => exact digits
    | plus digits => exact absurd rfl (hbare _)

theorem nativeWidth?_eq_some_iff : nativeWidth? bits = some native ↔ NativeWidth bits native := by
  constructor
  · intro h
    have hband : 1 ≤ bits ∧ bits ≤ native ∧ (native = 8 ∨ native = 16 ∧ 8 < bits ∨
        native = 32 ∧ 16 < bits ∨ native = 64 ∧ 32 < bits) := by
      unfold nativeWidth? at h
      split_ifs at h <;> cases h <;> omega
    obtain ⟨hpos, hle, hband⟩ := hband
    refine ⟨hpos, ?_, hle, fun width hwidth hbits => ?_⟩
    · rcases hband with rfl | ⟨rfl, -⟩ | ⟨rfl, -⟩ | ⟨rfl, -⟩ <;> simp
    · simp only [List.mem_cons, List.not_mem_nil, or_false] at hwidth
      omega
  · rintro ⟨hpos, hmem, hle, hleast⟩
    have h8 := hleast 8 (by simp)
    have h16 := hleast 16 (by simp)
    have h32 := hleast 32 (by simp)
    simp only [List.mem_cons, List.not_mem_nil, or_false] at hmem
    unfold nativeWidth?
    rcases hmem with rfl | rfl | rfl | rfl <;> split_ifs <;> first | rfl | omega

theorem sizedName?_eq_some_iff {kind width : Text} :
    sizedName? kind width = some name ↔ ∃ digits bits native, BitCount digits bits ∧
      NativeWidth bits native ∧ width = digits ++ "_t" ∧ name = kind ++ Text.ofNat native := by
  have hsmall : 64 < twoTo 32 := by decide
  simp only [sizedName?, Option.map_eq_some_iff, Option.bind_eq_some_iff,
    List.isSuffixOf?_eq_some_iff_append_eq, bitCount?_eq_some_iff, nativeWidth?_eq_some_iff]
  constructor
  · rintro ⟨native, ⟨digits, hwidth, bits, ⟨hcount, -⟩, hnative⟩, hname⟩
    exact ⟨digits, bits, native, hcount, hnative, hwidth.symm, hname.symm⟩
  · rintro ⟨digits, bits, native, hcount, hnative, rfl, rfl⟩
    have hle : bits ≤ 64 := by
      have hmem := hnative.mem
      have hle := hnative.le
      simp only [List.mem_cons, List.not_mem_nil, or_false] at hmem
      omega
    exact ⟨native, ⟨digits, rfl, bits, ⟨hcount, by omega⟩, hnative⟩, rfl⟩

theorem ctypeName?_eq_some_iff : ctypeName? type = some name ↔ NativeType type name := by
  constructor
  · intro h
    unfold ctypeName? at h
    split_ifs at h with hfloat hdouble
    · cases h
      exact hfloat ▸ .float
    · cases h
      exact hdouble ▸ .double
    · split at h
      · rename_i width hprefix
        obtain rfl := List.isPrefixOf?_eq_some_iff_append_eq.1 hprefix
        obtain ⟨digits, bits, native, hcount, hwidth, rfl, rfl⟩ := sizedName?_eq_some_iff.1 h
        rw [← List.append_assoc]
        exact .unsigned hcount hwidth
      · obtain ⟨width, hprefix, hsized⟩ := Option.bind_eq_some_iff.1 h
        obtain rfl := List.isPrefixOf?_eq_some_iff_append_eq.1 hprefix
        obtain ⟨digits, bits, native, hcount, hwidth, rfl, rfl⟩ := sizedName?_eq_some_iff.1 hsized
        rw [← List.append_assoc]
        exact .signed hcount hwidth
  · intro h
    cases h with
    | float => rfl
    | double => rfl
    | @unsigned digits _ native count width =>
      have hsized : sizedName? "c_uint" (digits ++ "_t") = some ("c_uint" ++ Text.ofNat native) :=
        sizedName?_eq_some_iff.2 ⟨_, _, _, count, width, rfl, rfl⟩
      exact hsized
    | @signed digits _ native count width =>
      have hsized : sizedName? "c_int" (digits ++ "_t") = some ("c_int" ++ Text.ofNat native) :=
        sizedName?_eq_some_iff.2 ⟨_, _, _, count, width, rfl, rfl⟩
      exact hsized

theorem exists_nativeWidth_iff : (∃ native, NativeWidth bits native) ↔ 1 ≤ bits ∧ bits ≤ 64 := by
  simp only [← nativeWidth?_eq_some_iff, ← Option.isSome_iff_exists]
  unfold nativeWidth?
  split_ifs <;> simp <;> omega

theorem exists_nativeType_iff : (∃ name, NativeType type name) ↔ IsScalar type := by
  constructor
  · rintro ⟨name, h⟩
    cases h with
    | float => exact .inl rfl
    | double => exact .inr (.inl rfl)
    | unsigned count width =>
      obtain ⟨hpos, hle⟩ := exists_nativeWidth_iff.1 ⟨_, width⟩
      exact .inr (.inr ⟨_, _, count, hpos, hle, .inl rfl⟩)
    | signed count width =>
      obtain ⟨hpos, hle⟩ := exists_nativeWidth_iff.1 ⟨_, width⟩
      exact .inr (.inr ⟨_, _, count, hpos, hle, .inr rfl⟩)
  · rintro (rfl | rfl | ⟨digits, bits, hcount, hpos, hle, htype⟩)
    · exact ⟨_, .float⟩
    · exact ⟨_, .double⟩
    · obtain ⟨native, hnative⟩ := exists_nativeWidth_iff.2 ⟨hpos, hle⟩
      rcases htype with rfl | rfl
      · exact ⟨_, .unsigned hcount hnative⟩
      · exact ⟨_, .signed hcount hnative⟩

theorem isSome_ctypeName?_iff : (ctypeName? type).isSome ↔ IsScalar type := by
  simp only [Option.isSome_iff_exists, ctypeName?_eq_some_iff, exists_nativeType_iff]

instance (type : Text) : Decidable (IsScalar type) := decidable_of_iff _ isSome_ctypeName?_iff

theorem BitCount.eq_of_ofNat {n : Nat} (h : BitCount (Text.ofNat n) bits) : bits = n := by
  have hdigits := Text.numeral_ofNat n
  generalize Text.ofNat n = t at h hdigits
  cases h with
  | bare digits => exact digits.unique hdigits
  | plus _ => exact absurd hdigits (Text.not_numeral_cons (Text.digit?_sign 10).2)

theorem nativeType_unsigned_iff {n : Nat} : NativeType ("uint" ++ Text.ofNat n ++ "_t") name ↔
    ∃ native, NativeWidth n native ∧ name = "c_uint" ++ Text.ofNat native := by
  constructor
  · intro h
    rw [← ctypeName?_eq_some_iff] at h
    have hsized : sizedName? "c_uint" (Text.ofNat n ++ "_t") = some name := h
    obtain ⟨digits, bits, native, hcount, hwidth, hdigits, rfl⟩ := sizedName?_eq_some_iff.1 hsized
    obtain rfl := List.append_cancel_right hdigits
    obtain rfl := hcount.eq_of_ofNat
    exact ⟨native, hwidth, rfl⟩
  · rintro ⟨native, hwidth, rfl⟩
    exact .unsigned (.bare (Text.numeral_ofNat n)) hwidth

end MapLoom.Template
