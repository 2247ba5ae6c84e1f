import Mathlib.Data.List.Nodup

set_option autoImplicit false

/-!
# Values under keys

What looking up a key in a list of keys with values gives.
-/
namespace MapLoom

variable {κ α : Type} [DecidableEq κ] [BEq κ] [LawfulBEq κ]

theorem lookup_cons_eq (key k : κ) (a : α) (entries : List (κ × α)) :
    ((k, a) :: entries).lookup key = if key = k then some a else entries.lookup key := by
  rw [List.lookup_cons]
  by_cases h : key = k
  · simp [h]
  · rw [beq_eq_false_iff_ne.2 h, if_neg h]

theorem lookup_map {β : Type} (f : α → β) (key : κ) (entries : List (κ × α)) :
    (entries.map fun (k, a) => (k, f a)).lookup key = (entries.lookup key).map f := by
  induction entries with
  | nil => rfl
  | cons first entries ih =>
    obtain ⟨k, a⟩ := first
    rw [List.map_cons, lookup_cons_eq, lookup_cons_eq, ih]
    split <;> rfl

/-- Where no key stands twice, a key has the value that it stands with. -/
theorem lookup_eq_some_iff_mem {entries : List (κ × α)} (h : (entries.map (·.1)).Nodup) {key : κ}
    {a : α} : entries.lookup key = some a ↔ (key, a) ∈ entries := by
  induction entries with
  | nil => simp
  | cons first entries ih =>
    obtain ⟨k, b⟩ := first
    obtain ⟨hfresh, hrest⟩ := List.nodup_cons.1 h
    rw [lookup_cons_eq, List.mem_cons, Prod.mk.injEq]
    by_cases hk : key = k
    · subst hk
      have habsent : (key, a) ∉ entries := fun hmem => hfresh (List.mem_map.2 ⟨_, hmem, rfl⟩)
      simp [habsent, eq_comm]
    · simp [hk, ih hrest]

end MapLoom
