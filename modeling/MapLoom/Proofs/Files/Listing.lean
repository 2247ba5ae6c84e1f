import MapLoom.Proofs.Files.Store

set_option autoImplicit false

/-!
# The order in which directories list

Two trees may hold the same and list it in different orders. A path leads to the same item in both.
-/
namespace MapLoom.Files.Tree

/-- Whether two trees differ at most in the order in which their directories list. -/
structure Relisted (a b : Tree) : Prop where
  item : ∀ loc, a.item? loc = b.item? loc
  names : ∀ loc, (a.names loc).Perm (b.names loc)

variable {a b : Tree}

theorem Relisted.alike (h : Relisted a b) : Alike a b := fun loc => by rw [h.item]

theorem Relisted.read_eq (h : Relisted a b) (path : Text) : a.read path = b.read path :=
  h.alike.read_eq fun loc _ => h.item loc

/-- Whether two trees differ at most in the order in which their directories list and in what files
hold. -/
structure SameShape (a b : Tree) : Prop where
  alike : a.Alike b
  names : ∀ loc, (a.names loc).Perm (b.names loc)

theorem Relisted.sameShape (h : Relisted a b) : SameShape a b := ⟨h.alike, h.names⟩

theorem sameShape_of_keys (halike : a.Alike b)
    (hkeys : a.items.map (·.1) = b.items.map (·.1)) : SameShape a b := by
  refine ⟨halike, fun loc => ?_⟩
  have hnames : ∀ tree : Tree, tree.names loc = (tree.items.map (·.1)).filterMap fun l =>
      if l.dropLast = loc then l.getLast? else none := by
    intro tree
    rw [List.filterMap_map]
    rfl
  rw [hnames, hnames, hkeys]

theorem SameShape.symm (h : SameShape a b) : SameShape b a :=
  ⟨h.alike.symm, fun loc => (h.names loc).symm⟩

theorem SameShape.entries_perm (h : SameShape a b) (path : Text) :
    (a.entries path).Perm (b.entries path) := by
  unfold entries
  rw [h.alike.locate_eq]
  cases b.locate path with
  | error failure => exact .refl _
  | ok loc => exact h.names loc

/-- Items at different locations may stand in any order. -/
theorem relisted_of_perm (h : a.items.Perm b.items) (hnodup : (a.items.map (·.1)).Nodup) :
    Relisted a b := by
  refine ⟨fun loc => ?_, fun loc => h.filterMap _⟩
  have hnodup' : (b.items.map (·.1)).Nodup := (h.map _).nodup_iff.1 hnodup
  unfold item?
  split
  · rfl
  · refine Option.ext fun item => ?_
    rw [lookup_eq_some_iff_mem hnodup, lookup_eq_some_iff_mem hnodup', h.mem_iff]

end MapLoom.Files.Tree
