import Mathlib.Data.List.Nodup
import MapLoom.Proofs.Output.Interface
import MapLoom.Proofs.Output.Openings
import MapLoom.Proofs.Schema.Ranges

set_option autoImplicit false

/-!
# Which types are declared

Each entry declares its type or leaves it to another entry by its own name alone, and one more type
is declared for the struct of all members. So a type can be declared by nobody or more than once.
With different names, none of which has a band taken out and none of which is that of the last
struct, no type is declared twice, and all are declared exactly if every lower band has its upper
band.
-/
namespace MapLoom
open Template (Bundled)

/-- Whether the struct of all members is declared after one struct for the type of each of them. -/
def Layout.DeclaresOnce (l : Layout) : Prop :=
  ∀ d ∈ l.members, l.declaredNames.count d.type = 1

instance (l : Layout) : Decidable l.DeclaresOnce :=
  inferInstanceAs (Decidable (∀ d ∈ l.members, _))

/-- Whether every lower band has the upper band of its pair. -/
def BandsPaired (entries : List Entry) : Prop :=
  ∀ p s, ¬ upperBand <:+: p ++ lowerBand ++ s → ¬ lowerBand <:+: p →
    (∃ e ∈ entries, e.name = p ++ lowerBand ++ s) → ∃ f ∈ entries, f.name = p ++ upperBand ++ s

/-- Whether no two owners declare one type, none of them that of the struct of all members, and
every entry has an owner of its type. -/
structure AddressMap.OwnedOnce (m : AddressMap) : Prop where
  nodup : (m.owners.map fun e => e.bandName.name).Nodup
  apart : ∀ e ∈ m.owners, e.bandName.name ≠ "Ex10CalibrationParams"
  owned : ∀ e ∈ m.entries, ∃ f ∈ m.owners, f.bandName.name = e.bandName.name

variable {m : AddressMap}

@[simp] theorem structs_names (m : AddressMap) :
    m.layout.structs.map StructDecl.name = m.owners.map fun e => e.bandName.name :=
  List.map_map

theorem count_owners (type : Text) : (m.owners.map fun e => e.bandName.name).count type =
    m.entries.countP fun e => e.bandName = ⟨type, true⟩ := by
  unfold AddressMap.owners
  rw [List.count, List.countP_map, List.countP_filter]
  refine List.countP_congr fun e _ => ?_
  change (e.bandName.name == type && e.bandName.isOwner) = true ↔ _
  rw [decide_eq_true_iff, BandName.eq_owner_iff, Bool.and_eq_true, beq_iff_eq]

theorem count_declaredNames (type : Text) : m.layout.declaredNames.count type =
    (m.entries.countP fun e => e.bandName = ⟨type, true⟩) +
      if "Ex10CalibrationParams" = type then 1 else 0 := by
  rw [count_declaredNames_eq, structs_names, count_owners]

theorem exists_owner_iff {type : Text} : (∃ f ∈ m.owners, f.bandName.name = type) ↔
    ∃ f ∈ m.entries, f.bandName = ⟨type, true⟩ := by
  constructor
  · rintro ⟨f, hf, hname⟩
    obtain ⟨hf, howner⟩ := List.mem_filter.1 hf
    exact ⟨f, hf, BandName.eq_owner_iff.2 ⟨hname, howner⟩⟩
  · rintro ⟨f, hf, hband⟩
    obtain ⟨hname, howner⟩ := BandName.eq_owner_iff.1 hband
    exact ⟨f, List.mem_filter.2 ⟨hf, howner⟩, hname⟩

theorem bandName_ne_of_not_owner {name : Text} (h : (bandName name).isOwner = false) :
    (bandName name).name ≠ "Ex10CalibrationParams" := by
  obtain ⟨p, s, rfl, hnoUpper, hfirst⟩ := exists_lower_of_not_owner h
  rw [bandName_lower hnoUpper hfirst]
  intro hsame
  have hinfix : perBand <:+: "Ex10CalibrationParams" := ⟨p, s, hsame⟩
  exact absurd hinfix (by decide)

theorem declaresOnce_iff : m.layout.DeclaresOnce ↔ m.OwnedOnce := by
  have hcount : ∀ type, m.layout.declaredNames.count type =
      (m.owners.map fun e => e.bandName.name).count type +
        if "Ex10CalibrationParams" = type then 1 else 0 := fun type => by
    rw [count_declaredNames_eq, structs_names]
  constructor
  · intro honce
    have hsum : ∀ e ∈ m.entries, (m.owners.map fun e => e.bandName.name).count e.bandName.name +
        (if "Ex10CalibrationParams" = e.bandName.name then 1 else 0) = 1 := fun e he => by
      rw [← hcount]
      exact honce e.member (List.mem_map_of_mem he)
    have howned : ∀ f ∈ m.owners,
        1 ≤ (m.owners.map fun e => e.bandName.name).count f.bandName.name := fun f hf =>
      List.count_pos_iff.2 (List.mem_map_of_mem hf)
    refine ⟨List.nodup_iff_count_le_one.2 fun type => ?_, fun e he hname => ?_, fun e he => ?_⟩
    · by_cases hmem : type ∈ m.owners.map fun e => e.bandName.name
      · obtain ⟨f, hf, rfl⟩ := List.mem_map.1 hmem
        have hone := hsum f (List.mem_of_mem_filter hf)
        omega
      · rw [List.count_eq_zero.2 hmem]
        exact Nat.zero_le 1
    · have hone := hsum e (List.mem_of_mem_filter he)
      have hpos := howned e he
      rw [if_pos hname.symm] at hone
      omega
    · cases howner : e.bandName.isOwner with
      | true => exact ⟨e, List.mem_filter.2 ⟨he, howner⟩, rfl⟩
      | false =>
        have hone := hsum e he
        have hne : e.bandName.name ≠ "Ex10CalibrationParams" := bandName_ne_of_not_owner howner
        rw [if_neg hne.symm] at hone
        exact List.mem_map.1 (List.count_pos_iff.1 (by omega))
  · rintro ⟨hnodup, hapart, howned⟩ d hd
    obtain ⟨e, he, rfl⟩ := List.mem_map.1 hd
    obtain ⟨f, hf, hname⟩ := howned e he
    change m.layout.declaredNames.count e.bandName.name = 1
    rw [hcount, ← hname, if_neg (hapart f hf).symm,
      List.count_eq_one_of_mem hnodup (List.mem_map_of_mem hf)]

section Plain
variable (hplain : ∀ e ∈ m.entries, ¬ perBand <:+: e.name)
include hplain

theorem nodup_owners (hnames : (m.entries.map (·.name)).Nodup) :
    (m.owners.map fun e => e.bandName.name).Nodup := by
  unfold AddressMap.owners
  rw [List.Nodup, List.pairwise_map]
  have hdiffer : m.entries.Pairwise fun e f => e.name ≠ f.name := List.pairwise_map.1 hnames
  refine (hdiffer.filter _).imp_of_mem fun {e f} he hf hne hsame => ?_
  obtain ⟨he, heowner⟩ := List.mem_filter.1 he
  obtain ⟨hf, hfowner⟩ := List.mem_filter.1 hf
  have howner : e.bandName.isOwner = f.bandName.isOwner := heowner.trans hfowner.symm
  exact hne (bandName_inj (hplain e he) (hplain f hf) hsame howner)

theorem forall_owner_ne_iff : (∀ e ∈ m.owners, e.bandName.name ≠ "Ex10CalibrationParams") ↔
    ∀ e ∈ m.entries, e.name ≠ "Ex10CalibrationParams" := by
  have hlast : bandName "Ex10CalibrationParams" = ⟨"Ex10CalibrationParams", true⟩ := by decide
  constructor
  · intro h e he hname
    have hband : e.bandName = ⟨"Ex10CalibrationParams", true⟩ := by
      rw [Entry.bandName, hname, hlast]
    exact h e (List.mem_filter.2 ⟨he, congrArg BandName.isOwner hband⟩)
      (congrArg BandName.name hband)
  · intro h e he hname
    obtain ⟨he, howner⟩ := List.mem_filter.1 he
    refine h e he (bandName_inj (hplain e he) (by decide) ?_ ?_)
    · rw [hlast]
      exact hname
    · rw [hlast]
      exact howner

theorem forall_owned_iff_paired :
    (∀ e ∈ m.entries, ∃ f ∈ m.owners, f.bandName.name = e.bandName.name) ↔
      BandsPaired m.entries := by
  simp only [exists_owner_iff]
  constructor
  · rintro howned p s hnoUpper hfirst ⟨e, he, hname⟩
    have htype : e.bandName.name = p ++ perBand ++ s := by
      rw [Entry.bandName, hname, bandName_lower hnoUpper hfirst]
    obtain ⟨f, hf, hband⟩ := howned e he
    rw [htype] at hband
    have hp := hplain e he
    rw [hname] at hp
    exact ⟨f, hf, eq_upper_of_bandName (hplain f hf) (not_infix_left hp) hband⟩
  · rintro hpaired e he
    cases howner : e.bandName.isOwner with
    | true => exact ⟨e, he, BandName.eq_owner_iff.2 ⟨rfl, howner⟩⟩
    | false =>
      obtain ⟨p, s, hname, hnoUpper, hfirst⟩ := exists_lower_of_not_owner howner
      obtain ⟨f, hf, hupper⟩ := hpaired p s hnoUpper hfirst ⟨e, he, hname⟩
      refine ⟨f, hf, ?_⟩
      change bandName f.name = ⟨(bandName e.name).name, true⟩
      rw [hupper, hname, bandName_upper (not_infix_left hnoUpper), bandName_lower hnoUpper hfirst]

theorem nodup_declaredNames_iff (hnames : (m.entries.map (·.name)).Nodup) :
    m.layout.declaredNames.Nodup ↔ ∀ e ∈ m.entries, e.name ≠ "Ex10CalibrationParams" := by
  rw [← forall_owner_ne_iff hplain, Layout.declaredNames, structs_names, List.nodup_append]
  constructor
  · rintro ⟨-, -, hapart⟩ e he
    exact hapart _ (List.mem_map_of_mem he) _ List.mem_cons_self
  · intro hapart
    refine ⟨nodup_owners hplain hnames, List.nodup_singleton _, fun a ha b hb => ?_⟩
    obtain ⟨e, he, rfl⟩ := List.mem_map.1 ha
    rw [List.mem_singleton.1 hb]
    exact hapart e he

end Plain

end MapLoom
