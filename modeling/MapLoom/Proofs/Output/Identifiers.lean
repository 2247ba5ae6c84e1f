import Mathlib.Data.List.Nodup
import MapLoom.Proofs.Output.Declarations

set_option autoImplicit false

/-!
# Identifiers of generated code

Entries and fields are identified in generated code by their names in snake case. That form has no
capitals and is its own snake case. A name in camel case can be read back from it, since underscores
stand exactly where a word starts, so different names have different identifiers.
-/
namespace MapLoom

def Text.Ascii (t : Text) : Prop := ∀ c ∈ t, c.toNat < 128

/-- A name in camel case: a capital first, and no underscores. -/
structure Camel (name : Text) : Prop where
  ascii : name.Ascii
  capital : name.head?.any Letter.isUpper = true
  noUnderscore : '_' ∉ name

instance (t : Text) : Decidable t.Ascii := List.decidableBAll (fun c : Char => c.toNat < 128) t

instance (name : Text) : Decidable (Camel name) :=
  decidable_of_iff (name.Ascii ∧ name.head?.any Letter.isUpper = true ∧ '_' ∉ name)
    ⟨fun ⟨hascii, hcapital, hnone⟩ => ⟨hascii, hcapital, hnone⟩,
      fun h => ⟨h.ascii, h.capital, h.noUnderscore⟩⟩

/-- Writes a capital after each underscore, and at the start if `start` says so. -/
def capitalizedFrom (start : Bool) : Text → Text
  | [] => []
  | c :: t => (if start then Letter.upper c else [c]) ++ capitalizedFrom (c = '_') t

def camelFrom (start : Bool) (t : Text) : Text := (capitalizedFrom start t).filter (· ≠ '_')

/-- The name whose words a text separates by underscores. -/
def camelName (t : Text) : Text := camelFrom true t

/-- A capital is read back from its lower-case form, which is neither a capital nor an
underscore. -/
structure Letter.Paired (c d : Char) : Prop where
  lower : Letter.lower c = [d]
  upper : Letter.upper d = [c]
  notUpper : Letter.isUpper d = false
  notUnderscore : d ≠ '_'

theorem Letter.paired_of_ascii {c : Char} (hascii : c.toNat < 128)
    (h : Letter.isUpper c = true) : Letter.Paired c c.toLower := by
  have hall : ∀ n < 128, Letter.isUpper (Char.ofNat n) = true →
      Letter.lower (Char.ofNat n) = [(Char.ofNat n).toLower] ∧
      Letter.upper (Char.ofNat n).toLower = [Char.ofNat n] ∧
      Letter.isUpper (Char.ofNat n).toLower = false ∧ (Char.ofNat n).toLower ≠ '_' := by
    decide
  have hc := hall c.toNat hascii
  rw [Char.ofNat_toNat] at hc
  obtain ⟨hlower, hupper, hnot, hne⟩ := hc h
  exact ⟨hlower, hupper, hnot, hne⟩

section Snake
variable {last : Char} {t name other : Text}

theorem snakeRest_of_isUpper {c : Char} (h : Letter.isUpper c = true) :
    snakeRest last (c :: t) =
      (if last = '_' then [] else ['_']) ++ (Letter.lower c ++ snakeRest c t) := by
  simp only [snakeRest, h, if_true, List.append_assoc]

theorem snakeRest_of_not_isUpper {c : Char} (h : Letter.isUpper c = false) :
    snakeRest last (c :: t) = c :: snakeRest c t := by
  simp [snakeRest, h]

theorem snakeName_eq_snakeRest (name : Text) : snakeName name = snakeRest '_' name := by
  cases name with
  | nil => rfl
  | cons c t => simp [snakeName, snakeRest]

theorem not_isUpper_of_mem_snakeRest (h : t.Ascii) :
    ∀ c ∈ snakeRest last t, Letter.isUpper c = false := by
  induction t generalizing last with
  | nil => exact fun _ => nofun
  | cons c t ih =>
    obtain ⟨hc, ht⟩ := List.forall_mem_cons.1 h
    cases hupper : Letter.isUpper c with
    | true =>
      have hpair := Letter.paired_of_ascii hc hupper
      rw [snakeRest_of_isUpper hupper, hpair.lower]
      intro d hd
      rcases List.mem_append.1 hd with hsep | hrest
      · have hd' : d = '_' := by
          split at hsep
          · cases hsep
          · exact List.mem_singleton.1 hsep
        rw [hd']
        decide
      · rcases List.mem_cons.1 hrest with rfl | hrest
        · exact hpair.notUpper
        · exact ih ht d hrest
    | false =>
      rw [snakeRest_of_not_isUpper hupper]
      exact List.forall_mem_cons.2 ⟨hupper, ih ht⟩

theorem snakeRest_eq_self (h : ∀ c ∈ t, Letter.isUpper c = false) : snakeRest last t = t := by
  induction t generalizing last with
  | nil => rfl
  | cons c t ih =>
    obtain ⟨hc, ht⟩ := List.forall_mem_cons.1 h
    rw [snakeRest_of_not_isUpper hc, ih ht]

theorem not_isUpper_of_mem_snakeName (h : name.Ascii) :
    ∀ c ∈ snakeName name, Letter.isUpper c = false := by
  rw [snakeName_eq_snakeRest]
  exact not_isUpper_of_mem_snakeRest h

theorem snakeName_snakeName (h : name.Ascii) : snakeName (snakeName name) = snakeName name := by
  rw [snakeName_eq_snakeRest (snakeName name)]
  exact snakeRest_eq_self (not_isUpper_of_mem_snakeName h)

theorem camelFrom_underscore : camelFrom false ('_' :: t) = camelFrom true t := rfl

theorem camelFrom_capital {c d : Char} (h : Letter.Paired c d) (hc : c ≠ '_') :
    camelFrom true (d :: t) = c :: camelFrom false t := by
  simp [camelFrom, capitalizedFrom, h.upper, h.notUnderscore, hc]

theorem camelFrom_other {c : Char} (hc : c ≠ '_') :
    camelFrom false (c :: t) = c :: camelFrom false t := by
  simp [camelFrom, capitalizedFrom, hc]

theorem camelFrom_snakeRest (hascii : t.Ascii) (hnone : '_' ∉ t) (hlast : last ≠ '_') :
    camelFrom false (snakeRest last t) = t := by
  -- no letter read so far is an underscore, so each capital has one of its own before it
  induction t generalizing last with
  | nil => rfl
  | cons c t ih =>
    obtain ⟨hc, ht⟩ := List.forall_mem_cons.1 hascii
    obtain ⟨hne, hnone'⟩ := not_or.1 (mt List.mem_cons.2 hnone)
    have hrest := ih ht hnone' (Ne.symm hne)
    cases hupper : Letter.isUpper c with
    | true =>
      have hpair := Letter.paired_of_ascii hc hupper
      rw [snakeRest_of_isUpper hupper, if_neg hlast, hpair.lower]
      change camelFrom false ('_' :: c.toLower :: snakeRest c t) = _
      rw [camelFrom_underscore, camelFrom_capital hpair (Ne.symm hne), hrest]
    | false => rw [snakeRest_of_not_isUpper hupper, camelFrom_other (Ne.symm hne), hrest]

theorem camelName_snakeName (h : Camel name) : camelName (snakeName name) = name := by
  obtain ⟨hascii, hcapital, hnone⟩ := h
  cases name with
  | nil => cases hcapital
  | cons c t =>
    obtain ⟨hc, ht⟩ := List.forall_mem_cons.1 hascii
    obtain ⟨hne, hnone'⟩ := not_or.1 (mt List.mem_cons.2 hnone)
    have hupper : Letter.isUpper c = true := by simpa using hcapital
    have hpair := Letter.paired_of_ascii hc hupper
    rw [snakeName, if_pos hupper, hpair.lower]
    change camelFrom true (c.toLower :: snakeRest c t) = _
    rw [camelFrom_capital hpair (Ne.symm hne), camelFrom_snakeRest ht hnone' (Ne.symm hne)]

theorem snakeName_inj (hname : Camel name) (hother : Camel other)
    (h : snakeName name = snakeName other) : name = other := by
  rw [← camelName_snakeName hname, h, camelName_snakeName hother]

theorem nodup_map_snakeName {α : Type} {nameOf : α → Text} {as : List α}
    (hcamel : ∀ a ∈ as, Camel (nameOf a)) (hnodup : (as.map nameOf).Nodup) :
    (as.map fun a => snakeName (nameOf a)).Nodup := by
  have hsnake := hnodup.map_on fun _ hname _ hother =>
    snakeName_inj (List.forall_mem_map.2 hcamel _ hname) (List.forall_mem_map.2 hcamel _ hother)
  rwa [List.map_map] at hsnake

theorem decls_of_decl_body {e : Entry} {decls : List FieldDecl}
    (h : e.decl.body = .fields decls) : decls = e.fields.map Field.decl := by
  unfold Entry.decl at h
  dsimp only at h
  split at h
  · cases h
  · exact (StructBody.fields.inj h).symm

end Snake

/-- Snake case takes every capital out of a name and then stays as it is, and a name in camel case
is read back from it. So entries and fields with different names in camel case have different
identifiers. -/
theorem snakeName_identifies :
    (∀ name : Text, name.Ascii → (∀ c ∈ snakeName name, Letter.isUpper c = false) ∧
      snakeName (snakeName name) = snakeName name) ∧
    (∀ name, Camel name → camelName (snakeName name) = name) ∧
    (∀ name other, Camel name → Camel other → name ≠ other →
      snakeName name ≠ snakeName other) ∧
    (∀ m : AddressMap, (∀ e ∈ m.entries, Camel e.name) → (m.entries.map (·.name)).Nodup →
      (m.layout.members.map (·.name)).Nodup) ∧
    ∀ e : Entry, (∀ f ∈ e.fields, Camel f.name) → (e.fields.map (·.name)).Nodup →
      ∀ decls, e.decl.body = .fields decls → (decls.map (·.name)).Nodup := by
  refine ⟨fun name h => ⟨not_isUpper_of_mem_snakeName h, snakeName_snakeName h⟩,
    fun name h => camelName_snakeName h,
    fun name other hname hother hne h => hne (snakeName_inj hname hother h),
    fun m hcamel hnodup => ?_, fun e hcamel hnodup decls hbody => ?_⟩
  · rw [AddressMap.layout, List.map_map]
    exact nodup_map_snakeName hcamel hnodup
  · rw [decls_of_decl_body hbody, List.map_map]
    exact nodup_map_snakeName hcamel hnodup

def gainField (name : Text) : Field := ⟨name, 0, 8, "uint8_t", 0, .integer 0, [], []⟩

def gainEntry (name : Text) (address : UInt64) : Entry :=
  ⟨name, address, 4, [gainField "PGain", gainField "Pgain", gainField "P3Gain"], [], []⟩

def twoGains : AddressMap := .ofEntries [] [gainEntry "CalTempADC" 4, gainEntry "CalTempAdc" 0]

theorem gains_identified :
    snakeName "CalTempADC" = "cal_temp_a_d_c" ∧ snakeName "CalTempAdc" = "cal_temp_adc" ∧
    (∀ c ∈ snakeName "CalTempADC", Letter.isUpper c = false) ∧
    snakeName (snakeName "CalTempADC") = snakeName "CalTempADC" ∧
    camelName (snakeName "CalTempADC") = "CalTempADC" ∧
    snakeName "CalTempADC" ≠ snakeName "CalTempAdc" ∧
    (twoGains.layout.members.map (·.name)).Nodup ∧
    ((gainEntry "CalTempADC" 4).fields.map (·.decl.name)).Nodup := by
  obtain ⟨hascii, hcamel, hne, hmembers, hfields⟩ := snakeName_identifies
  obtain ⟨hlower, hidem⟩ := hascii "CalTempADC" (by decide)
  have hdecls := hfields (gainEntry "CalTempADC" 4) (by decide) (by decide) _ rfl
  exact ⟨by decide, by decide, hlower, hidem, hcamel "CalTempADC" (by decide),
    hne "CalTempADC" "CalTempAdc" (by decide) (by decide) (by decide),
    hmembers twoGains (by decide) (by decide), hdecls⟩

end MapLoom
