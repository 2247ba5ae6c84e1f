import MapLoom.Proofs.Text.Infix
import MapLoom.Schema.Naming

set_option autoImplicit false

/-!
# Band names

A name with an upper band, or else with a lower band, stands for the name with the band taken out,
and any other name for itself. Two different names without a band taken out stand for the same one
only as the two bands of one pair.
-/
namespace MapLoom

def upperBand : Text := "UpperBand"

def lowerBand : Text := "LowerBand"

def perBand : Text := "PerBand"

/-- How a name stands for a band name. -/
inductive Banded : Text → BandName → Prop
  | upper {p s : Text} (first : ¬ upperBand <:+: p) :
    Banded (p ++ upperBand ++ s) ⟨p ++ perBand ++ s, true⟩
  | lower {p s : Text} (noUpper : ¬ upperBand <:+: p ++ lowerBand ++ s)
    (first : ¬ lowerBand <:+: p) : Banded (p ++ lowerBand ++ s) ⟨p ++ perBand ++ s, false⟩
  | plain {name : Text} (noUpper : ¬ upperBand <:+: name) (noLower : ¬ lowerBand <:+: name) :
    Banded name ⟨name, true⟩

theorem oneHead_upperBand : Text.OneHead upperBand := by decide

theorem oneHead_lowerBand : Text.OneHead lowerBand := by decide

theorem oneHead_perBand : Text.OneHead perBand := by decide

theorem banded_bandName (name : Text) : Banded name (bandName name) := by
  unfold bandName
  cases hupper : name.cut? "UpperBand" with
  | some found =>
    obtain ⟨p, s⟩ := found
    obtain ⟨rfl, hfirst⟩ := (Text.cut?_eq_some_iff oneHead_upperBand).1 hupper
    exact .upper hfirst
  | none =>
    have hnoUpper := Text.cut?_eq_none_iff.1 hupper
    cases hlower : name.cut? "LowerBand" with
    | some found =>
      obtain ⟨p, s⟩ := found
      obtain ⟨rfl, hfirst⟩ := (Text.cut?_eq_some_iff oneHead_lowerBand).1 hlower
      exact .lower hnoUpper hfirst
    | none => exact .plain hnoUpper (Text.cut?_eq_none_iff.1 hlower)

theorem not_infix_left {piece p q s : Text} (h : ¬ piece <:+: p ++ q ++ s) : ¬ piece <:+: p := by
  intro hin
  rw [List.append_assoc] at h
  exact h (hin.trans (List.prefix_append p _).isInfix)

/-- Whether two names differ in the band alone, of which the first has the upper one; no band before
it is taken out instead. -/
def BandPair (upper lower : Text) : Prop :=
  ∃ p s, upper = p ++ upperBand ++ s ∧ lower = p ++ lowerBand ++ s ∧
    ¬ upperBand <:+: lower ∧ ¬ lowerBand <:+: p

theorem Banded.eq_or_pair {name other : Text} {b c : BandName} (hb : Banded name b)
    (hc : Banded other c) (hname : ¬ perBand <:+: name) (hother : ¬ perBand <:+: other)
    (h : b.name = c.name) : name = other ∨ BandPair name other ∨ BandPair other name := by
  have hcut : ∀ {p s q t : Text}, p ++ perBand ++ s = q ++ perBand ++ t →
      ¬ perBand <:+: p → ¬ perBand <:+: q → p = q ∧ s = t :=
    fun heq hp hq => oneHead_perBand.append_inj heq hp hq
  have htaken : ∀ {p s t : Text}, p ++ perBand ++ s = t → perBand <:+: t := by
    rintro p s _ rfl
    exact List.infix_append p perBand s
  cases hb with
  | upper first =>
    have hp := not_infix_left hname
    cases hc with
    | upper first' =>
      obtain ⟨rfl, rfl⟩ := hcut h hp (not_infix_left hother)
      exact .inl rfl
    | lower noUpper first' =>
      obtain ⟨rfl, rfl⟩ := hcut h hp (not_infix_left hother)
      exact .inr (.inl ⟨_, _, rfl, rfl, noUpper, first'⟩)
    | plain noUpper noLower => exact absurd (htaken h) hother
  | lower noUpper first =>
    have hp := not_infix_left hname
    cases hc with
    | upper first' =>
      obtain ⟨rfl, rfl⟩ := hcut h hp (not_infix_left hother)
      exact .inr (.inr ⟨_, _, rfl, rfl, noUpper, first⟩)
    | lower noUpper' first' =>
      obtain ⟨rfl, rfl⟩ := hcut h hp (not_infix_left hother)
      exact .inl rfl
    | plain noUpper' noLower => exact absurd (htaken h) hother
  | plain noUpper noLower =>
    cases hc with
    | upper first' => exact absurd (htaken h.symm) hname
    | lower noUpper' first' => exact absurd (htaken h.symm) hname
    | plain noUpper' noLower' => exact .inl h

theorem bandName_upper {p s : Text} (h : ¬ upperBand <:+: p) :
    bandName (p ++ upperBand ++ s) = ⟨p ++ perBand ++ s, true⟩ := by
  have hcut : Text.cut? (p ++ upperBand ++ s) "UpperBand" = some (p, s) :=
    (Text.cut?_eq_some_iff oneHead_upperBand).2 ⟨rfl, h⟩
  rw [bandName, hcut]
  rfl

theorem bandName_lower {p s : Text} (hupper : ¬ upperBand <:+: p ++ lowerBand ++ s)
    (h : ¬ lowerBand <:+: p) :
    bandName (p ++ lowerBand ++ s) = ⟨p ++ perBand ++ s, false⟩ := by
  have hnone : Text.cut? (p ++ lowerBand ++ s) "UpperBand" = none :=
    Text.cut?_eq_none_iff.2 hupper
  have hcut : Text.cut? (p ++ lowerBand ++ s) "LowerBand" = some (p, s) :=
    (Text.cut?_eq_some_iff oneHead_lowerBand).2 ⟨rfl, h⟩
  rw [bandName, hnone]
  dsimp only
  rw [hcut]
  rfl

theorem BandPair.shares {upper lower : Text} (h : BandPair upper lower) :
    (bandName upper).name = (bandName lower).name ∧ (bandName upper).isOwner = true ∧
      (bandName lower).isOwner = false := by
  obtain ⟨p, s, rfl, rfl, hnoUpper, hfirst⟩ := h
  rw [bandName_upper (not_infix_left hnoUpper), bandName_lower hnoUpper hfirst]
  exact ⟨rfl, rfl, rfl⟩

section
variable {name other : Text}

theorem bandName_name_eq_iff (hname : ¬ perBand <:+: name) (hother : ¬ perBand <:+: other) :
    (bandName name).name = (bandName other).name ↔
      name = other ∨ BandPair name other ∨ BandPair other name := by
  constructor
  · exact (banded_bandName name).eq_or_pair (banded_bandName other) hname hother
  · rintro (rfl | hpair | hpair)
    · rfl
    · exact hpair.shares.1
    · exact hpair.shares.1.symm

theorem bandName_inj (hname : ¬ perBand <:+: name) (hother : ¬ perBand <:+: other)
    (h : (bandName name).name = (bandName other).name)
    (howner : (bandName name).isOwner = (bandName other).isOwner) : name = other := by
  rcases (bandName_name_eq_iff hname hother).1 h with heq | hpair | hpair
  · exact heq
  · obtain ⟨-, hupper, hlower⟩ := hpair.shares
    rw [hupper, hlower] at howner
    cases howner
  · obtain ⟨-, hupper, hlower⟩ := hpair.shares
    rw [hupper, hlower] at howner
    cases howner

end

theorem eq_upper_of_bandName {name p s : Text} (hname : ¬ perBand <:+: name)
    (hp : ¬ perBand <:+: p) (h : bandName name = ⟨p ++ perBand ++ s, true⟩) :
    name = p ++ upperBand ++ s := by
  have hband := banded_bandName name
  rw [h] at hband
  generalize hb : (⟨p ++ perBand ++ s, true⟩ : BandName) = b at hband
  cases hband with
  | upper first =>
    obtain ⟨hcut, -⟩ := BandName.mk.inj hb
    obtain ⟨rfl, rfl⟩ := oneHead_perBand.append_inj hcut hp (not_infix_left hname)
    rfl
  | lower noUpper first => exact absurd (BandName.mk.inj hb).2 (by decide)
  | plain noUpper noLower =>
    obtain ⟨rfl, -⟩ := BandName.mk.inj hb
    exact absurd (List.infix_append p perBand s) hname

theorem exists_lower_of_not_owner {name : Text} (h : (bandName name).isOwner = false) :
    ∃ p s, name = p ++ lowerBand ++ s ∧ ¬ upperBand <:+: p ++ lowerBand ++ s ∧
      ¬ lowerBand <:+: p := by
  have hband := banded_bandName name
  generalize bandName name = b at hband h
  cases hband with
  | upper first => cases h
  | lower noUpper first => exact ⟨_, _, rfl, noUpper, first⟩
  | plain noUpper noLower => cases h

theorem BandName.eq_owner_iff {b : BandName} {name : Text} :
    b = ⟨name, true⟩ ↔ b.name = name ∧ b.isOwner = true := by
  cases b
  simp

/-- Two different names without a band taken out share a name only as the two bands of one pair, of
which the upper one owns it. So no third name shares it, and a name without a band shares no name
with one that has a band. -/
theorem bandName_shared_by_pair {name other : Text} (hne : name ≠ other)
    (hname : ¬ perBand <:+: name) (hother : ¬ perBand <:+: other)
    (h : (bandName name).name = (bandName other).name) :
    ((BandPair name other ∧ (bandName name).isOwner = true ∧ (bandName other).isOwner = false) ∨
      (BandPair other name ∧ (bandName other).isOwner = true ∧ (bandName name).isOwner = false)) ∧
    (∀ third, ¬ perBand <:+: third → (bandName third).name = (bandName name).name →
      third = name ∨ third = other) ∧
    ∀ plain banded, ¬ perBand <:+: plain → ¬ perBand <:+: banded →
      ¬ upperBand <:+: plain → ¬ lowerBand <:+: plain →
      upperBand <:+: banded ∨ lowerBand <:+: banded →
      (bandName plain).name ≠ (bandName banded).name := by
  have howners : (BandPair name other ∧ (bandName name).isOwner = true ∧
        (bandName other).isOwner = false) ∨
      (BandPair other name ∧ (bandName other).isOwner = true ∧
        (bandName name).isOwner = false) := by
    rcases (bandName_name_eq_iff hname hother).1 h with heq | hpair | hpair
    · exact absurd heq hne
    · exact .inl ⟨hpair, hpair.shares.2⟩
    · exact .inr ⟨hpair, hpair.shares.2⟩
  refine ⟨howners, fun third hthird hsame => ?_, ?_⟩
  · -- one of the two owns the shared name and the other does not, and the third is like one of them
    have hdiffer : (bandName other).isOwner = !(bandName name).isOwner := by
      rcases howners with ⟨-, hn, ho⟩ | ⟨-, ho, hn⟩ <;> rw [hn, ho] <;> rfl
    by_cases howner : (bandName third).isOwner = (bandName name).isOwner
    · exact .inl (bandName_inj hthird hname hsame howner)
    · exact .inr (bandName_inj hthird hother (hsame.trans h)
        (hdiffer ▸ Bool.eq_not_of_ne howner))
  · intro plain banded hplain hbanded hnoUpper hnoLower hhas hsame
    rcases (bandName_name_eq_iff hplain hbanded).1 hsame with rfl | hpair | hpair
    · exact hhas.elim hnoUpper hnoLower
    · obtain ⟨p, s, rfl, -⟩ := hpair
      exact hnoUpper (List.infix_append p upperBand s)
    · obtain ⟨p, s, -, rfl, -⟩ := hpair
      exact hnoLower (List.infix_append p lowerBand s)

theorem bandName_shared_by_stacked_bands :
    (bandName "UpperBandLowerBandGain").name = (bandName "LowerBandLowerBandGain").name ∧
    BandPair "UpperBandLowerBandGain" "LowerBandLowerBandGain" ∧
    (bandName "UpperBandLowerBandGain").isOwner = true ∧
    (bandName "LowerBandLowerBandGain").isOwner = false := by
  have hshared : (bandName "UpperBandLowerBandGain").name =
      (bandName "LowerBandLowerBandGain").name := by decide
  obtain ⟨⟨hpair, howners⟩ | ⟨-, -, hnot⟩, -⟩ :=
    bandName_shared_by_pair (by decide) (by decide) (by decide) hshared
  · exact ⟨hshared, hpair, howners⟩
  · exact absurd hnot (by decide)

end MapLoom
