import Mathlib.Data.Char
import Mathlib.Data.List.Lex
import MapLoom.Proofs.Lookup
import MapLoom.Text.Order

set_option autoImplicit false

/-!
# Lists under text keys

The order of texts is the lexicographic one, which is linear. A list whose keys ascend strictly has
at most one value for each key, so it is known from its lookups or from its members.
-/
namespace MapLoom.Text

theorem before_iff_lt {s t : Text} : before s t = true ↔ s < t := by
  induction s generalizing t with
  | nil =>
    cases t with
    | nil => simp [before]
    | cons d t => simp [before]
  | cons c s ih =>
    cases t with
    | nil => simp [before]
    | cons d t =>
      have hc : c.toNat < d.toNat ↔ c < d := UInt32.lt_iff_toNat_lt.symm
      rw [List.cons_lt_cons_iff, ← ih, ← hc]
      simp [before]

section Lookup
variable {α : Type} {entries others : List (Text × α)} {key other : Text} {a : α}

/-- Whether the keys of a list ascend strictly. -/
def Keyed (entries : List (Text × α)) : Prop := entries.Pairwise fun a b => a.1 < b.1

theorem keyed_nil : Keyed ([] : List (Text × α)) := List.Pairwise.nil

@[simp] theorem lookup_insertKey (key other : Text) (a : α) (entries : List (Text × α)) :
    (insertKey key a entries).lookup other =
      if other = key then some a else entries.lookup other := by
  induction entries with
  | nil => rw [insertKey, lookup_cons_eq]
  | cons entry entries ih =>
    obtain ⟨k, b⟩ := entry
    unfold insertKey
    by_cases hk : key = k
    · subst hk
      rw [if_pos rfl, lookup_cons_eq, lookup_cons_eq]
      split <;> rfl
    · rw [if_neg hk]
      by_cases hlt : before key k = true
      · rw [if_pos hlt, lookup_cons_eq]
      · rw [if_neg hlt, lookup_cons_eq, lookup_cons_eq, ih]
        by_cases h : other = k
        · rw [if_pos h, if_pos h, if_neg (h ▸ Ne.symm hk)]
        · rw [if_neg h, if_neg h]

theorem mem_insertKey {entry : Text × α} (h : entry ∈ insertKey key a entries) :
    entry = (key, a) ∨ entry ∈ entries := by
  induction entries with
  | nil => exact .inl (List.mem_singleton.1 h)
  | cons first entries ih =>
    obtain ⟨k, b⟩ := first
    unfold insertKey at h
    split at h
    · exact (List.mem_cons.1 h).imp_right (List.mem_cons_of_mem _)
    · split at h
      · exact List.mem_cons.1 h
      · rcases List.mem_cons.1 h with h | h
        · exact .inr (h ▸ List.mem_cons_self)
        · exact (ih h).imp_right (List.mem_cons_of_mem _)

theorem keyed_insertKey (h : Keyed entries) (key : Text) (a : α) :
    Keyed (insertKey key a entries) := by
  induction entries with
  | nil => exact List.pairwise_singleton _ _
  | cons first entries ih =>
    obtain ⟨k, b⟩ := first
    obtain ⟨hfirst, hrest⟩ := List.pairwise_cons.1 h
    unfold insertKey
    by_cases hk : key = k
    · rw [if_pos hk]
      exact List.pairwise_cons.2 ⟨fun entry he => hk ▸ hfirst entry he, hrest⟩
    · rw [if_neg hk]
      by_cases hlt : before key k = true
      · rw [if_pos hlt]
        refine List.pairwise_cons.2 ⟨fun entry he => ?_, h⟩
        have hkey := before_iff_lt.1 hlt
        rcases List.mem_cons.1 he with rfl | he
        · exact hkey
        · exact lt_trans hkey (hfirst entry he)
      · rw [if_neg hlt]
        refine List.pairwise_cons.2 ⟨fun entry he => ?_, ih hrest⟩
        rcases mem_insertKey he with rfl | he
        · have hle : k ≤ key := not_lt.1 (mt before_iff_lt.2 hlt)
          exact lt_of_le_of_ne hle (Ne.symm hk)
        · exact hfirst entry he

theorem Keyed.nodup_keys (h : Keyed entries) : (entries.map (·.1)).Nodup :=
  List.pairwise_map.2 (h.imp fun hlt => ne_of_lt hlt)

theorem Keyed.lookup_eq_some_iff (h : Keyed entries) :
    entries.lookup key = some a ↔ (key, a) ∈ entries :=
  lookup_eq_some_iff_mem h.nodup_keys

theorem Keyed.nodup (h : Keyed entries) : entries.Nodup :=
  h.nodup_keys.of_map _

theorem Keyed.eq_of_mem_iff (h : Keyed entries) (h' : Keyed others)
    (hmem : ∀ entry, entry ∈ entries ↔ entry ∈ others) : entries = others := by
  have hperm := (List.perm_ext_iff_of_nodup h.nodup h'.nodup).2 hmem
  exact hperm.eq_of_pairwise (fun _ _ _ _ hlt hgt => absurd hlt (lt_asymm hgt)) h h'

theorem Keyed.eq_of_lookup_eq (h : Keyed entries) (h' : Keyed others)
    (hlookup : ∀ key, entries.lookup key = others.lookup key) : entries = others := by
  refine h.eq_of_mem_iff h' fun (key, a) => ?_
  rw [← h.lookup_eq_some_iff, ← h'.lookup_eq_some_iff, hlookup]

theorem Keyed.map {β : Type} (h : Keyed entries) (f : α → β) :
    Keyed (entries.map fun (k, a) => (k, f a)) :=
  List.pairwise_map.2 h

theorem insertKey_map {β : Type} (f : α → β) (key : Text) (a : α) (entries : List (Text × α)) :
    (insertKey key a entries).map (fun (k, a) => (k, f a)) =
      insertKey key (f a) (entries.map fun (k, a) => (k, f a)) := by
  induction entries with
  | nil => rfl
  | cons first entries ih =>
    obtain ⟨k, b⟩ := first
    simp only [List.map_cons, insertKey]
    split
    · rfl
    · split
      · rfl
      · rw [List.map_cons, ih]

end Lookup
end MapLoom.Text
