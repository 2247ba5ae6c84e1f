import MapLoom.Proofs.Schema.Edits
import MapLoom.Proofs.Text.Blank
import MapLoom.Schema.Entry
import MapLoom.Template.Filter

set_option autoImplicit false

/-!
# Integers that are read back

An integer of 64 bits can be written in a schema as a text: in decimal digits, or in the form in
which addresses are printed. Blanks around it do not count, and an entry whose address is such a
text is read like one whose address is the number.
-/
namespace MapLoom
open Yaml (Value)
open Yaml.Value (IsInteger lookup)
open Text (Numeral SignedNumeral)

/-- An address as ranges and templates print it. -/
def addressWord (a : Nat) : Text := "0x" ++ Text.upperHex 4 a

/-- Whether a text is `0x` and at least four digits, all letters among them capitals. -/
def IsAddressWord (word : Text) : Prop :=
  ∃ digits, word = '0' :: 'x' :: digits ∧ 4 ≤ digits.length ∧
    ∀ c ∈ digits, c ∈ ("0123456789ABCDEF" : Text)

/-- Whether a text spells an integer, and stands for it as a value even between blanks. -/
structure ReadsAs (word : Text) (n : Int) : Prop where
  literal : integerLiteral? word = some n
  value : ∀ before after : Text, (∀ c ∈ before, isBlank c = true) →
    (∀ c ∈ after, isBlank c = true) →
    (Value.text (before ++ word ++ after)).asInteger? = some n

section
variable {t word : Text} {z : Int}

theorem IntegerLiteral.ne_nil (h : IntegerLiteral t z) : t ≠ [] := by
  cases h with
  | decimal value => exact value.ne_nil
  | hex _ _ => exact List.cons_ne_nil _ _

theorem IntegerLiteral.not_isBlank (h : IntegerLiteral t z) : ∀ c ∈ t, isBlank c = false := by
  cases h with
  | decimal value => exact value.not_isBlank (by decide)
  | hex mark value =>
    have hmark : ∀ {x : Char}, x = 'x' ∨ x = 'X' → isBlank x = false := by
      rintro x (rfl | rfl)
      · decide
      · decide
    exact List.forall_mem_cons.2 ⟨by decide, List.forall_mem_cons.2
      ⟨hmark mark, value.not_isBlank (by decide)⟩⟩

theorem IntegerLiteral.readsAs (h : IntegerLiteral word z) (hrange : InInt64 z) :
    ReadsAs word z := by
  have hliteral := integerLiteral?_eq_some_iff.2 ⟨h, hrange⟩
  refine ⟨hliteral, fun before after hbefore hafter => ?_⟩
  have htrim : Text.trim (before ++ word ++ after) = word := by
    rw [List.append_assoc]
    exact Text.trim_padded hbefore hafter h.ne_nil
      (fun c hc => h.not_isBlank c (List.mem_of_mem_head? hc))
      (fun c hc => h.not_isBlank c (List.mem_of_getLast? hc))
  rw [Value.asInteger?, htrim, hliteral]

theorem readsAs_ofInt (h : InInt64 z) : ReadsAs (Text.ofInt z) z :=
  (IntegerLiteral.decimal (Text.signedNumeral_ofInt z)).readsAs h

theorem readsAs_addressWord {a : Nat} (h : a < twoTo 63) : ReadsAs (addressWord a) a := by
  have hliteral : IntegerLiteral (addressWord a) a :=
    .hex (.inl rfl) (.bare (Text.numeral_upperHex 4 a))
  exact hliteral.readsAs ⟨by omega, by omega⟩

theorem isAddressWord_addressWord (a : Nat) : IsAddressWord (addressWord a) := by
  have hdigits : ∀ d < 16, d.digitChar.toUpper ∈ ("0123456789ABCDEF" : Text) := by decide
  refine ⟨Text.upperHex 4 a, rfl, ?_, fun c hc => ?_⟩
  · rw [Text.upperHex, List.length_leftpad]
    exact Nat.le_max_left _ _
  · rcases List.mem_append.1 hc with hpad | hdigit
    · rw [List.eq_of_mem_replicate hpad]
      decide
    · obtain ⟨b, hb, rfl⟩ := List.mem_map.1 hdigit
      obtain ⟨d, hd, rfl⟩ := Text.mem_toDigits (by decide) hb
      exact hdigits d hd

end

section
variable {α : Type} {es fs : List (Value × Value)} {path : NodePath} {key other : Text}
  {v w : Value} {expected : Expected} {coerce : Value → Option α}

def nodeWith (es fs : List (Value × Value)) (path : NodePath) (key : Text) (v : Value) :
    SchemaNode :=
  ⟨es ++ (.text key, v) :: fs, path⟩

theorem value?_nodeWith_of_ne (h : key ≠ other) :
    (nodeWith es fs path key v).value? other = (nodeWith es fs path key w).value? other := by
  have hkey : Value.text key ≠ .text other := fun heq => h (Value.text.inj heq)
  unfold SchemaNode.value? nodeWith
  rw [Value.lookup_insert_of_ne hkey, Value.lookup_insert_of_ne hkey]

theorem required_nodeWith_of_ne (h : key ≠ other) :
    (nodeWith es fs path key v).required other expected coerce =
      (nodeWith es fs path key w).required other expected coerce := by
  unfold SchemaNode.required
  rw [value?_nodeWith_of_ne (w := w) h]
  rfl

theorem optional_nodeWith_of_ne {default : α} (h : key ≠ other) :
    (nodeWith es fs path key v).optional other expected coerce default =
      (nodeWith es fs path key w).optional other expected coerce default := by
  unfold SchemaNode.optional
  rw [value?_nodeWith_of_ne (w := w) h]
  rfl

theorem required_nodeWith (hv : v.isNull = false) (hw : w.isNull = false)
    (h : coerce v = coerce w) :
    (nodeWith es fs path key v).required key expected coerce =
      (nodeWith es fs path key w).required key expected coerce := by
  have hkept : ∀ {u : Value}, u.isNull = false → (some u).filter (!·.isNull) = some u := by
    intro u hu
    rw [Option.filter_some, hu]
    rfl
  unfold SchemaNode.required SchemaNode.coerced SchemaNode.value? nodeWith
  rw [Value.lookup_insert_self, Value.lookup_insert_self]
  cases lookup key es with
  | some u => rfl
  | none =>
    rw [Option.none_or, Option.none_or, hkept hv, hkept hw]
    dsimp only
    rw [h]

theorem named_nodeWith {f : Text × SchemaNode → Except SchemaError α} (h : key ≠ "name")
    (hf : ∀ name path, f (name, nodeWith es fs path key v) = f (name, nodeWith es fs path key w)) :
    ((nodeWith es fs path key v).named >>= f) = ((nodeWith es fs path key w).named >>= f) := by
  unfold SchemaNode.named
  rw [required_nodeWith_of_ne (w := w) h]
  cases (nodeWith es fs path key w).required "name" .string Value.asText? with
  | error e => rfl
  | ok name => exact hf name _

theorem readEntry_address (path : NodePath) (hv : v.isNull = false) (hw : w.isNull = false)
    (h : v.asInteger? = w.asInteger?) :
    readEntry path (.map (es ++ (.text "address", v) :: fs)) =
      readEntry path (.map (es ++ (.text "address", w) :: fs)) := by
  have hnumber : v.asNatural64? = w.asNatural64? := by
    rw [Value.asNatural64?, h, ← Value.asNatural64?]
  unfold readEntry
  -- What else is read of the entry stands under other keys, where the two nodes agree.
  refine named_nodeWith (by decide) fun name path => ?_
  have hlength : (nodeWith es fs path "address" v).required "length" .positive Value.asPositive64? =
      (nodeWith es fs path "address" w).required "length" .positive Value.asPositive64? :=
    required_nodeWith_of_ne (by decide)
  have htext : ∀ key : Text, ("address" : Text) ≠ key →
      (nodeWith es fs path "address" v).optional key .string Value.asText? [] =
        (nodeWith es fs path "address" w).optional key .string Value.asText? [] := fun key hkey =>
    optional_nodeWith_of_ne hkey
  have hfields : (nodeWith es fs path "address" v).optional "fields" .list Value.asList? [] =
      (nodeWith es fs path "address" w).optional "fields" .list Value.asList? [] :=
    optional_nodeWith_of_ne (by decide)
  dsimp only
  rw [required_nodeWith hv hw hnumber, hlength, htext "brief" (by decide),
    htext "description" (by decide), hfields]
  rfl

end

/-- A text is an integer literal if it is an optional sign and decimal digits, or `0x` and then an
optional sign and hexadecimal digits, and what it spells has 64 bits. An integer in decimal and an
address in its printed form are read back, between any blanks, and so is an entry with such an
address. -/
theorem written_integers_read_back :
    (∀ base ≤ 16, ∀ (c : Char) (d : Nat), Text.digit? base c = some d ↔
      d < base ∧ (c = d.digitChar ∨ c = d.digitChar.toUpper)) ∧
    (∀ (t : Text) (n : Int), integerLiteral? t = some n ↔ IntegerLiteral t n ∧ InInt64 n) ∧
    (∀ n, InInt64 n → ReadsAs (Text.ofInt n) n) ∧
    (∀ a < twoTo 63, IsAddressWord (addressWord a) ∧ ReadsAs (addressWord a) a) ∧
    (∀ a : Nat, Template.Filter.hex.apply (.integer a) = .ok (.text (addressWord a))) ∧
    (∀ e : Entry, e.rangeText = e.name ++ ": [" ++ addressWord e.address.toNat ++ ":" ++
      addressWord e.lastAddress.toNat ++ "]") ∧
    ∀ word n, ReadsAs word n → ∀ before after : Text, (∀ c ∈ before, isBlank c = true) →
      (∀ c ∈ after, isBlank c = true) → ∀ path es fs,
      readEntry path (.map (es ++ (.text "address", .text (before ++ word ++ after)) :: fs)) =
        readEntry path (.map (es ++ (.text "address", .integer n) :: fs)) := by
  refine ⟨fun base hbase c d => Text.digit?_eq_some_iff hbase,
    fun t n => integerLiteral?_eq_some_iff, fun n h => readsAs_ofInt h,
    fun a h => ⟨isAddressWord_addressWord a, readsAs_addressWord h⟩, fun a => ?_, fun e => ?_,
    fun word n h before after hbefore hafter path es fs => ?_⟩
  · have hnonneg : (0 : Int) ≤ a := Int.natCast_nonneg a
    simp only [Template.Filter.apply, if_pos hnonneg]
    rfl
  · simp only [Entry.rangeText, addressWord, List.append_assoc]
    rfl
  · have hrange := (integerLiteral?_eq_some_iff.1 h.literal).2
    have hnumber : (Value.integer n).asInteger? = some n := inInt64?_eq_some_iff.2 ⟨rfl, hrange⟩
    have hvalue := h.value before after hbefore hafter
    exact readEntry_address path rfl rfl (hvalue.trans hnumber.symm)

theorem extreme_integers_read_back :
    InInt64 (-9223372036854775808) ∧
    Text.ofInt (-9223372036854775808) = "-9223372036854775808".toList ∧
    (Value.text (("\u00a0" : Text) ++ Text.ofInt (-9223372036854775808) ++ "\n")).asInteger? =
      some (-9223372036854775808) ∧
    integerLiteral? "9223372036854775808" = none ∧
    addressWord 0x56 = "0x0056".toList ∧ ReadsAs (addressWord 0x56) 0x56 ∧
    addressWord 0x7fffffffffffffff = "0x7FFFFFFFFFFFFFFF".toList ∧
    IsAddressWord (addressWord 0x7fffffffffffffff) ∧
    ∀ path es fs, readEntry path
        (.map (es ++ (.text "address", .text ([' '] ++ addressWord 0x56 ++ [])) :: fs)) =
      readEntry path (.map (es ++ (.text "address", .integer 0x56) :: fs)) := by
  obtain ⟨-, -, hdecimal, haddress, -, -, hentry⟩ := written_integers_read_back
  have hleast : InInt64 (-9223372036854775808) := ⟨by decide, by decide⟩
  have hshort := haddress 0x56 (by decide)
  have hlong := haddress 0x7fffffffffffffff (by decide)
  have hblank : ∀ {c : Char}, isBlank c = true → ∀ d ∈ [c], isBlank d = true :=
    fun hc => List.forall_mem_singleton.2 hc
  exact ⟨hleast, by decide,
    (hdecimal _ hleast).value ['\u00a0'] ['\n'] (hblank (by decide)) (hblank (by decide)),
    by decide, by decide, hshort.2, by decide, hlong.1,
    hentry _ _ hshort.2 [' '] [] (hblank (by decide)) nofun⟩

end MapLoom
