import MapLoom.Text.Blank
import MapLoom.Text.Integer

set_option autoImplicit false

/-!
# Numerals

A numeral is one digit, or a numeral with one more digit after it, which multiplies its number by
the base. The reader of naturals accepts the numerals, and the reader of integers those with at most
one sign before them.
-/
namespace MapLoom.Text

/-- Whether a text spells a number in a base. -/
inductive Numeral (base : Nat) : Text → Nat → Prop
  | digit {c : Char} {d : Nat} (value : digit? base c = some d) : Numeral base [c] d
  | snoc {t : Text} {c : Char} {n d : Nat} (init : Numeral base t n)
      (value : digit? base c = some d) : Numeral base (t ++ [c]) (base * n + d)

/-- Whether a text spells an integer in a base, with or without a sign. -/
inductive SignedNumeral (base : Nat) : Text → Int → Prop
  | bare {t : Text} {n : Nat} (digits : Numeral base t n) : SignedNumeral base t n
  | plus {t : Text} {n : Nat} (digits : Numeral base t n) : SignedNumeral base ('+' :: t) n
  | minus {t : Text} {n : Nat} (digits : Numeral base t n) : SignedNumeral base ('-' :: t) (-n)

variable {base n : Nat} {t : Text}

section Digits
variable {c : Char} {d : Nat}

theorem toNat_lt_of_digit? (h : digit? base c = some d) : c.toNat < 128 := by
  obtain ⟨hvalue, -⟩ := Option.filter_eq_some_iff.1 h
  refine Nat.lt_of_not_le fun hge => ?_
  have hbeyond : ∀ {first last : Char}, last.toNat < 128 → ¬ (first ≤ c ∧ c ≤ last) := by
    rintro first last hlast ⟨-, hle⟩
    exact absurd (Nat.le_trans hge (UInt32.le_iff_toNat_le.1 hle)) (Nat.not_le.2 hlast)
  rw [if_neg (hbeyond (by decide)), if_neg (hbeyond (by decide)),
    if_neg (hbeyond (by decide))] at hvalue
  cases hvalue

theorem digit?_eq_filter (hbase : base ≤ 16) (c : Char) :
    digit? base c = (digit? 16 c).filter (· < base) := by
  have hsmaller : ∀ d, (decide (d < 16) && decide (d < base)) = decide (d < base) := by
    intro d
    rw [Bool.and_eq_right_iff_imp, decide_eq_true_iff, decide_eq_true_iff]
    omega
  unfold digit?
  dsimp only
  rw [Option.filter_filter]
  simp only [hsmaller]

theorem digit?_eq_some_iff (hbase : base ≤ 16) :
    digit? base c = some d ↔ d < base ∧ (c = d.digitChar ∨ c = d.digitChar.toUpper) := by
  have hread : ∀ n < 128, (digit? 16 (Char.ofNat n)).all fun d =>
      Char.ofNat n = d.digitChar ∨ Char.ofNat n = d.digitChar.toUpper := by decide
  have hwritten : ∀ d < 16,
      digit? 16 d.digitChar = some d ∧ digit? 16 d.digitChar.toUpper = some d := by decide
  rw [digit?_eq_filter hbase, Option.filter_eq_some_iff, decide_eq_true_iff, and_comm]
  refine and_congr_right fun hd => ⟨fun h => ?_, ?_⟩
  · have hc := hread c.toNat (toNat_lt_of_digit? h)
    rw [Char.ofNat_toNat, h] at hc
    simpa using hc
  · obtain ⟨hlower, hupper⟩ := hwritten d (Nat.lt_of_lt_of_le hd hbase)
    rintro (rfl | rfl)
    · exact hlower
    · exact hupper

end Digits

theorem Numeral.ne_nil (h : Numeral base t n) : t ≠ [] := by
  cases h <;> simp

theorem SignedNumeral.ne_nil {z : Int} (h : SignedNumeral base t z) : t ≠ [] := by
  cases h with
  | bare digits => exact digits.ne_nil
  | plus _ => exact List.cons_ne_nil _ _
  | minus _ => exact List.cons_ne_nil _ _

theorem Numeral.isSome_digit? (h : Numeral base t n) : ∀ c ∈ t, (digit? base c).isSome := by
  induction h with
  | digit value => simp [value]
  | snoc init value ih =>
    intro c hc
    rcases List.mem_append.1 hc with hc | hc
    · exact ih c hc
    · rw [List.mem_singleton.1 hc, value]
      rfl

theorem not_numeral_cons {c : Char} (hc : digit? base c = none) : ¬ Numeral base (c :: t) n := by
  intro h
  have hsome := h.isSome_digit? c List.mem_cons_self
  rw [hc] at hsome
  cases hsome

theorem appendDigits?_concat (m : Nat) (t : Text) (c : Char) :
    appendDigits? base m (t ++ [c]) =
      (appendDigits? base m t).bind fun n => (digit? base c).map (base * n + ·) := by
  induction t generalizing m with
  | nil =>
    simp only [List.nil_append, appendDigits?, Option.bind_some]
    cases digit? base c <;> rfl
  | cons b t ih =>
    simp only [List.cons_append, appendDigits?]
    cases digit? base b with
    | none => rfl
    | some d => exact ih _

theorem numeral_of_appendDigits? {pre : Text} {m : Nat} (hpre : Numeral base pre m)
    (h : appendDigits? base m t = some n) : Numeral base (pre ++ t) n := by
  induction t generalizing pre m with
  | nil =>
    cases h
    rwa [List.append_nil]
  | cons c t ih =>
    unfold appendDigits? at h
    cases hc : digit? base c with
    | none => simp [hc] at h
    | some d =>
      simp only [hc] at h
      have hlong := ih (hpre.snoc hc) h
      rwa [List.append_assoc] at hlong

theorem Numeral.appendDigits?_eq (h : Numeral base t n) : appendDigits? base 0 t = some n := by
  induction h with
  | digit value => simp [appendDigits?, value]
  | snoc init value ih => simp [appendDigits?_concat, ih, value]

theorem natural?_eq_some_iff : natural? base t = some n ↔ Numeral base t n := by
  cases t with
  | nil => exact iff_of_false (by simp [natural?]) fun h => h.ne_nil rfl
  | cons c t =>
    constructor
    · intro h
      cases hc : digit? base c with
      | none => simp [natural?, appendDigits?, hc] at h
      | some d =>
        have hrest : appendDigits? base d t = some n := by
          simpa [natural?, appendDigits?, hc] using h
        exact numeral_of_appendDigits? (.digit hc) hrest
    · exact fun h => h.appendDigits?_eq

theorem Numeral.unique {m : Nat} (h : Numeral base t n) (h' : Numeral base t m) : n = m :=
  Option.some.inj ((natural?_eq_some_iff.2 h).symm.trans (natural?_eq_some_iff.2 h'))

theorem digit?_sign (base : Nat) : digit? base '-' = none ∧ digit? base '+' = none :=
  ⟨rfl, rfl⟩

theorem integer?_eq_some_iff {z : Int} : integer? base t = some z ↔ SignedNumeral base t z := by
  obtain ⟨hminus, hplus⟩ := digit?_sign base
  unfold integer?
  split
  · rename_i t
    simp only [Option.map_eq_some_iff, Option.bind_eq_bind, Option.bind_eq_some_iff,
      natural?_eq_some_iff]
    constructor
    · rintro ⟨_, ⟨n, hn, ⟨⟩⟩, rfl⟩
      exact .minus hn
    · rintro (hbare | _ | hneg)
      · exact absurd hbare (not_numeral_cons hminus)
      · exact ⟨_, ⟨_, hneg, rfl⟩, rfl⟩
  · rename_i t
    simp only [Option.map_eq_some_iff, natural?_eq_some_iff]
    constructor
    · rintro ⟨n, hn, rfl⟩
      exact .plus hn
    · rintro (hbare | hpos)
      · exact absurd hbare (not_numeral_cons hplus)
      · exact ⟨_, hpos, rfl⟩
  · rename_i hnotMinus hnotPlus
    simp only [Option.map_eq_some_iff, natural?_eq_some_iff]
    constructor
    · rintro ⟨n, hn, rfl⟩
      exact .bare hn
    · rintro (hbare | hpos | hneg)
      · exact ⟨_, hbare, rfl⟩
      · exact absurd rfl (hnotPlus _)
      · exact absurd rfl (hnotMinus _)

theorem not_isBlank_of_digit? {c : Char} (hbase : base ≤ 16) (h : (digit? base c).isSome) :
    isBlank c = false := by
  have hdigits : ∀ d < 16, isBlank d.digitChar = false ∧ isBlank d.digitChar.toUpper = false := by
    decide
  obtain ⟨d, hd⟩ := Option.isSome_iff_exists.1 h
  obtain ⟨hlt, hc⟩ := (digit?_eq_some_iff hbase).1 hd
  obtain ⟨hlower, hupper⟩ := hdigits d (Nat.lt_of_lt_of_le hlt hbase)
  rcases hc with rfl | rfl
  · exact hlower
  · exact hupper

theorem Numeral.not_isBlank (hbase : base ≤ 16) (h : Numeral base t n) :
    ∀ c ∈ t, isBlank c = false := fun c hc =>
  not_isBlank_of_digit? hbase (h.isSome_digit? c hc)

theorem SignedNumeral.not_isBlank {z : Int} (hbase : base ≤ 16) (h : SignedNumeral base t z) :
    ∀ c ∈ t, isBlank c = false := by
  cases h with
  | bare digits => exact digits.not_isBlank hbase
  | plus digits => exact List.forall_mem_cons.2 ⟨by decide, digits.not_isBlank hbase⟩
  | minus digits => exact List.forall_mem_cons.2 ⟨by decide, digits.not_isBlank hbase⟩

theorem Numeral.zero_cons (hzero : digit? base '0' = some 0) (h : Numeral base t n) :
    Numeral base ('0' :: t) n := by
  induction h with
  | digit value =>
    have hpair := (Numeral.digit hzero).snoc value
    rwa [Nat.mul_zero, Nat.zero_add] at hpair
  | snoc init value ih => exact ih.snoc value

theorem Numeral.leftpad (hzero : digit? base '0' = some 0) (h : Numeral base t n) (width : Nat) :
    Numeral base (t.leftpad width '0') n := by
  unfold List.leftpad
  induction width - t.length with
  | zero => exact h
  | succ k ih => exact ih.zero_cons hzero

/-- The digits of a number are a numeral of it, in any spelling of single digits. -/
theorem numeral_map_toDigits {spell : Char → Char} (hbase : 1 < base)
    (hspell : ∀ d < base, digit? base (spell d.digitChar) = some d) (n : Nat) :
    Numeral base ((Nat.toDigits base n).map spell) n := by
  by_cases hlt : n < base
  · rw [Nat.toDigits_of_lt_base hlt]
    exact .digit (hspell n hlt)
  · have hle : base ≤ n := by omega
    have hsmaller : n / base < n := Nat.div_lt_self (by omega) hbase
    have hlast : n % base < base := Nat.mod_lt n (by omega)
    have hinit := numeral_map_toDigits hbase hspell (n / base)
    have hdigits := hinit.snoc (hspell _ hlast)
    rw [Nat.div_add_mod] at hdigits
    rw [Nat.toDigits_of_base_le hbase hle, List.map_append]
    exact hdigits
termination_by n

theorem numeral_ofNat (n : Nat) : Numeral 10 (ofNat n) n := by
  have h : Numeral 10 ((Nat.toDigits 10 n).map id) n :=
    numeral_map_toDigits (by decide) (by decide) n
  rwa [List.map_id] at h

theorem numeral_hex (width n : Nat) : Numeral 16 (hex width n) n := by
  have h : Numeral 16 ((Nat.toDigits 16 n).map id) n :=
    numeral_map_toDigits (by decide) (by decide) n
  rw [List.map_id] at h
  exact h.leftpad rfl width

theorem numeral_upperHex (width n : Nat) : Numeral 16 (upperHex width n) n :=
  (numeral_map_toDigits (by decide) (by decide) n).leftpad rfl width

theorem signedNumeral_ofInt (z : Int) : SignedNumeral 10 (ofInt z) z := by
  unfold ofInt
  split
  · rename_i hneg
    have habs : -(z.natAbs : Int) = z := by omega
    have hminus := SignedNumeral.minus (numeral_ofNat z.natAbs)
    rwa [habs] at hminus
  · rename_i hpos
    have habs : (z.natAbs : Int) = z := by omega
    have hbare := SignedNumeral.bare (numeral_ofNat z.natAbs)
    rwa [habs] at hbare

theorem mem_toDigits (hbase : 1 < base) {n : Nat} {c : Char} (h : c ∈ Nat.toDigits base n) :
    ∃ d < base, c = d.digitChar := by
  by_cases hlt : n < base
  · rw [Nat.toDigits_of_lt_base hlt, List.mem_singleton] at h
    exact ⟨n, hlt, h⟩
  · have hle : base ≤ n := Nat.le_of_not_lt hlt
    have hsmaller : n / base < n := Nat.div_lt_self (by omega) hbase
    rw [Nat.toDigits_of_base_le hbase hle, List.mem_append] at h
    rcases h with h | h
    · exact mem_toDigits hbase h
    · exact ⟨n % base, Nat.mod_lt n (by omega), List.mem_singleton.1 h⟩
termination_by n

end MapLoom.Text
