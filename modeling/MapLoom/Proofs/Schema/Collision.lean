import Mathlib.Data.List.Perm.Subperm
import MapLoom.Proofs.Schema.Ranges

set_option autoImplicit false

/-!
# The first collision

Entries that overlap are reported by the lowest byte that two of them claim: it is where the second
of the two begins, within the first. All entries before it in memory are apart, whatever the order in
which they were given.
-/
namespace MapLoom

/-- Whether two entries of a list, at different places in it, claim a byte. -/
def Shared (entries : List Entry) (n : Nat) : Prop :=
  ∃ e f, [e, f].Subperm entries ∧ e.Covers n ∧ f.Covers n

/-- Whether two entries of a list are the lowest two in memory that share a byte. -/
structure FirstCollision (entries : List Entry) (p q : Entry) : Prop where
  both : [p, q].Subperm entries
  address_le : p.address ≤ q.address
  lt_stop : q.address.toNat < p.stop
  shared : Shared entries q.address.toNat
  least : ∀ n, Shared entries n → q.address.toNat ≤ n

section
variable {e f p q : Entry} {entries others before after : List Entry} {n : Nat}

theorem Shared.perm (h : entries.Perm others) (hn : Shared entries n) : Shared others n := by
  obtain ⟨e, f, hboth, hcovers⟩ := hn
  exact ⟨e, f, hboth.trans h.subperm, hcovers⟩

theorem FirstCollision.perm (h : entries.Perm others) (hfirst : FirstCollision entries p q) :
    FirstCollision others p q where
  both := hfirst.both.trans h.subperm
  address_le := hfirst.address_le
  lt_stop := hfirst.lt_stop
  shared := hfirst.shared.perm h
  least := fun n hn => hfirst.least n (hn.perm h.symm)

theorem not_shared_of_apart (h : entries.Pairwise Entry.Apart) : ¬ Shared entries n := by
  rintro ⟨e, f, ⟨pair, hperm, hsub⟩, hcovers⟩
  have hpair : [e, f].Pairwise Entry.Apart :=
    (hperm.pairwise_iff Entry.Apart.symm).1 (h.sublist hsub)
  exact List.rel_of_pairwise_cons hpair (List.mem_singleton_self f) n hcovers

theorem Shared.of_append (hafter : ∀ g ∈ after, n < g.address.toNat)
    (h : Shared (before ++ after) n) : Shared before n := by
  obtain ⟨e, f, hboth, hcovers⟩ := h
  let reaches : Entry → Bool := fun g => g.address.toNat ≤ n
  have hpair : [e, f].filter reaches = [e, f] := by
    refine List.filter_eq_self.2 fun g hg => decide_eq_true ?_
    rcases List.mem_pair.1 hg with rfl | rfl
    · exact hcovers.1.1
    · exact hcovers.2.1
  have hnone : after.filter reaches = [] := by
    refine List.filter_eq_nil_iff.2 fun g hg => ?_
    have hlt := hafter g hg
    simp only [reaches, decide_eq_true_eq]
    omega
  have hfiltered := hboth.filter reaches
  rw [hpair, List.filter_append, hnone, List.append_nil] at hfiltered
  exact ⟨e, f, hfiltered.trans List.filter_sublist.subperm, hcovers⟩

theorem firstCollision_of_overlap? (hasc : Ascending entries)
    (hproper : ∀ e ∈ entries, e.Proper) (h : overlap? entries = some (p, q)) :
    FirstCollision entries p q := by
  obtain ⟨before, after, rfl, hstacked, hlt⟩ := exists_of_overlap?_eq_some hproper h
  have hboth : [p, q].Sublist (before ++ p :: q :: after) :=
    (List.prefix_append [p, q] after).sublist.trans (List.suffix_append before _).sublist
  have hle : p.address ≤ q.address := List.rel_of_pairwise_cons (hasc.sublist hboth) (by simp)
  have hq := hproper q (hboth.mem (by simp))
  refine ⟨hboth.subperm, hle, hlt, ⟨p, q, hboth.subperm, ⟨UInt64.le_iff_toNat_le.1 hle, hlt⟩,
    Nat.le_refl _, Nat.lt_add_of_pos_right hq.length_pos⟩, fun n hn => ?_⟩
  by_contra hbelow
  -- what claims a byte below the collision stands before it, where no two entries share a byte
  rw [List.append_cons] at hn hasc hproper
  have hrest : ∀ g ∈ q :: after, n < g.address.toNat := by
    intro g hg
    have hqg : q.address.toNat ≤ g.address.toNat := by
      rcases List.mem_cons.1 hg with rfl | hg
      · exact Nat.le_refl _
      · have htail := (List.pairwise_append.1 hasc).2.1
        exact UInt64.le_iff_toNat_le.1 (List.rel_of_pairwise_cons htail hg)
    omega
  have hapart : (before ++ [p]).Pairwise Entry.Apart := by
    refine (stacked_iff_apart (List.pairwise_append.1 hasc).1 fun g hg => ?_).1 hstacked
    exact hproper g (List.mem_append_left _ hg)
  exact not_shared_of_apart hapart (hn.of_append hrest)

/-- A check passes when no two entries share a byte, and otherwise names the two that collide first
in memory. The order of the entries makes no difference to whether it passes. -/
theorem checkOverlap_reports_first_collision (entries : List Entry)
    (hproper : ∀ e ∈ entries, e.Proper) :
    (checkOverlap entries = .ok () ↔ entries.Pairwise Entry.Apart) ∧
    (¬ entries.Pairwise Entry.Apart → ∃ p q, FirstCollision entries p q ∧
      checkOverlap entries = .error (.overlap p q) ∧
      (RangeError.overlap p q).message = "overlap found: " ++ p.rangeText ++ ", " ++ q.rangeText) ∧
    ∀ others, others.Perm entries →
      (checkOverlap others = .ok () ↔ checkOverlap entries = .ok ()) := by
  have hok := checkOverlap_eq_ok_iff hproper
  have hperm := sortEntries_perm entries
  refine ⟨hok, fun hnot => ?_, fun others hothers => ?_⟩
  · have hcheck := mt hok.1 hnot
    unfold checkOverlap at hcheck ⊢
    cases hover : overlap? (sortEntries entries) with
    | none => simp [hover] at hcheck
    | some pair =>
      obtain ⟨p, q⟩ := pair
      have hsorted : ∀ e ∈ sortEntries entries, e.Proper :=
        fun e he => hproper e (hperm.mem_iff.1 he)
      have hfirst := firstCollision_of_overlap? (ascending_sortEntries entries) hsorted hover
      exact ⟨p, q, hfirst.perm hperm, rfl, rfl⟩
  · have hproper' : ∀ e ∈ others, e.Proper := fun e he => hproper e (hothers.mem_iff.1 he)
    rw [hok, checkOverlap_eq_ok_iff hproper', hothers.pairwise_iff Entry.Apart.symm]

def nestedEntries : List Entry :=
  [⟨"C", 4, 1, [], "", ""⟩, ⟨"D", 12, 4, [], "", ""⟩, ⟨"A", 0, 10, [], "", ""⟩,
    ⟨"B", 4, 3, [], "", ""⟩]

theorem checkOverlap_reports_nested :
    (∀ e ∈ nestedEntries, e.Proper) ∧ ¬ nestedEntries.Pairwise Entry.Apart ∧
    checkOverlap nestedEntries =
      .error (.overlap ⟨"A", 0, 10, [], "", ""⟩ ⟨"C", 4, 1, [], "", ""⟩) ∧
    FirstCollision nestedEntries ⟨"A", 0, 10, [], "", ""⟩ ⟨"C", 4, 1, [], "", ""⟩ := by
  have hproper : ∀ e ∈ nestedEntries, e.Proper := by
    simp only [nestedEntries, List.forall_mem_cons, List.not_mem_nil, false_imp_iff, implies_true,
      and_true]
    exact ⟨⟨by decide, by decide⟩, ⟨by decide, by decide⟩, ⟨by decide, by decide⟩,
      ⟨by decide, by decide⟩⟩
  have hcheck : checkOverlap nestedEntries =
      .error (.overlap ⟨"A", 0, 10, [], "", ""⟩ ⟨"C", 4, 1, [], "", ""⟩) := by decide +kernel
  obtain ⟨hok, hreport, -⟩ := checkOverlap_reports_first_collision nestedEntries hproper
  have hnot : ¬ nestedEntries.Pairwise Entry.Apart := by
    rw [← hok, hcheck]
    simp
  obtain ⟨p, q, hfirst, hsame, -⟩ := hreport hnot
  rw [hcheck] at hsame
  cases hsame
  exact ⟨hproper, hnot, hcheck, hfirst⟩

end
end MapLoom
