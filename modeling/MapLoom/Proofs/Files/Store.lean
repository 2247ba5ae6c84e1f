import MapLoom.Files.Store
import MapLoom.Proofs.Lookup

set_option autoImplicit false

/-!
# What storing a text changes

Storing changes one item: the file that the path leads to, which keeps its mode. A text stored as a
whole leaves the same tree as one stored in place, so nothing is left of the file beside. Two trees
that differ in what files hold at most are alike, and a path leads to the same place in both.
-/
namespace MapLoom.Files.Tree

section Items
variable {tree : Tree} {loc : Location} {item : Item}

theorem lookup_replace (loc l : Location) (item : Item) (items : List (Location × Item)) :
    (replace loc item items).lookup l = if l = loc then some item else items.lookup l := by
  induction items with
  | nil => rw [replace, lookup_cons_eq]
  | cons entry items ih =>
    obtain ⟨k, i⟩ := entry
    unfold replace
    by_cases hk : k = loc
    · subst hk
      rw [if_pos rfl, lookup_cons_eq, lookup_cons_eq]
      split <;> rfl
    · rw [if_neg hk, lookup_cons_eq, lookup_cons_eq, ih]
      by_cases h : l = k
      · rw [if_pos h, if_pos h, if_neg (h ▸ hk)]
      · rw [if_neg h, if_neg h]

theorem item?_set (h : loc ≠ []) (l : Location) :
    (tree.set loc item).item? l = if l = loc then some item else tree.item? l := by
  unfold item? set
  rw [lookup_replace]
  by_cases hl : l = []
  · have hne : l ≠ loc := fun he => h (he.symm.trans hl)
    simp [hl, Ne.symm h]
  · simp [hl]

@[simp] theorem item?_set_self (h : loc ≠ []) : (tree.set loc item).item? loc = some item := by
  rw [item?_set h, if_pos rfl]

@[simp] theorem item?_set_of_ne (h : loc ≠ []) {l : Location} (hl : l ≠ loc) :
    (tree.set loc item).item? l = tree.item? l := by
  rw [item?_set h, if_neg hl]

theorem replace_of_lookup {items : List (Location × Item)} (h : items.lookup loc = some item) :
    replace loc item items = items := by
  induction items with
  | nil => simp at h
  | cons entry items ih =>
    obtain ⟨k, i⟩ := entry
    unfold replace
    by_cases hk : k = loc
    · subst hk
      rw [lookup_cons_eq, if_pos rfl, Option.some.injEq] at h
      rw [if_pos rfl, h]
    · rw [lookup_cons_eq, if_neg (Ne.symm hk)] at h
      rw [if_neg hk, ih h]

theorem set_of_item? (h : loc ≠ []) (hitem : tree.item? loc = some item) :
    tree.set loc item = tree := by
  unfold item? at hitem
  rw [if_neg h] at hitem
  rw [set, replace_of_lookup hitem]

theorem keys_replace {items : List (Location × Item)} (h : (items.lookup loc).isSome) (item : Item) :
    (replace loc item items).map (·.1) = items.map (·.1) := by
  induction items with
  | nil => simp at h
  | cons entry items ih =>
    obtain ⟨k, i⟩ := entry
    unfold replace
    by_cases hk : k = loc
    · simp [hk]
    · rw [lookup_cons_eq, if_neg (Ne.symm hk)] at h
      rw [if_neg hk, List.map_cons, List.map_cons, ih h]

theorem keys_set (h : loc ≠ []) (hsome : (tree.item? loc).isSome) (item : Item) :
    (tree.set loc item).items.map (·.1) = tree.items.map (·.1) := by
  unfold item? at hsome
  rw [if_neg h] at hsome
  exact keys_replace hsome item

@[simp] theorem set_set (loc : Location) (i j : Item) :
    (tree.set loc i).set loc j = tree.set loc j := by
  have hreplace : ∀ items : List (Location × Item),
      replace loc j (replace loc i items) = replace loc j items := by
    intro items
    induction items with
    | nil => simp [replace]
    | cons entry items ih =>
      obtain ⟨k, x⟩ := entry
      by_cases hk : k = loc
      · simp [replace, hk]
      · simp [replace, hk, ih]
  simp only [set, hreplace]

theorem replace_comm {items : List (Location × Item)} {k l : Location} (hne : k ≠ l)
    (hk : (items.lookup k).isSome) (hl : (items.lookup l).isSome) (i j : Item) :
    replace l j (replace k i items) = replace k i (replace l j items) := by
  induction items with
  | nil => simp at hk
  | cons entry items ih =>
    obtain ⟨m, x⟩ := entry
    by_cases hmk : m = k
    · subst hmk
      simp [replace, hne]
    · by_cases hml : m = l
      · subst hml
        simp [replace, hmk]
      · rw [lookup_cons_eq, if_neg (Ne.symm hmk)] at hk
        rw [lookup_cons_eq, if_neg (Ne.symm hml)] at hl
        simp [replace, hmk, hml, ih hk hl]

theorem set_comm {k l : Location} {old old' : Content} {mode mode' : Nat} (hne : k ≠ l)
    (hk : tree.item? k = some (.file old mode)) (hl : tree.item? l = some (.file old' mode'))
    (i j : Item) : (tree.set k i).set l j = (tree.set l j).set k i := by
  have hlookup : ∀ {m : Location} {content mode}, tree.item? m = some (.file content mode) →
      (tree.items.lookup m).isSome := by
    intro m content mode hm
    unfold item? at hm
    split at hm
    · cases hm
    · rw [hm]
      rfl
  simp only [set, replace_comm hne (hlookup hk) (hlookup hl)]

@[simp] theorem remove_set_of_item?_eq_none (h : loc ≠ []) (hnone : tree.item? loc = none) :
    (tree.set loc item).remove loc = tree := by
  have hreplace : ∀ items : List (Location × Item), items.lookup loc = none →
      (replace loc item items).filter (·.1 ≠ loc) = items := by
    intro items hlook
    induction items with
    | nil => simp [replace]
    | cons entry items ih =>
      obtain ⟨k, x⟩ := entry
      by_cases hk : k = loc
      · simp [hk] at hlook
      · rw [lookup_cons_eq, if_neg (Ne.symm hk)] at hlook
        simpa [replace, hk] using ih hlook
  unfold item? at hnone
  rw [if_neg h] at hnone
  simp only [set, remove, hreplace _ hnone]

theorem mem_names {name : Text} (h : (tree.item? (loc ++ [name])).isSome) :
    name ∈ tree.names loc := by
  unfold item? at h
  rw [if_neg (by simp)] at h
  obtain ⟨i, hi⟩ := Option.isSome_iff_exists.1 h
  have hmem : (loc ++ [name], i) ∈ tree.items := by
    obtain ⟨l, r, hitems, -⟩ := List.lookup_eq_some_iff.1 hi
    simp [hitems]
  exact List.mem_filterMap.2 ⟨_, hmem, by simp⟩

theorem length_lt_freshName {name : Text} (h : name ∈ tree.names loc) :
    name.length < (tree.freshName loc).length := by
  have hmax : ∀ names : List Text, name ∈ names →
      name.length ≤ names.foldr (fun name n => max name.length n) 0 := by
    intro names hmem
    induction names with
    | nil => simp at hmem
    | cons other names ih =>
      rw [List.foldr_cons]
      rcases List.mem_cons.1 hmem with rfl | hmem
      · omega
      · have := ih hmem
        omega
  have hle := hmax _ h
  simp only [freshName, List.length_cons, List.length_replicate]
  omega

/-- Nothing stands where the new file beside a file is made. -/
@[simp] theorem item?_freshName (tree : Tree) (loc : Location) :
    tree.item? (loc ++ [tree.freshName loc]) = none := by
  cases h : tree.item? (loc ++ [tree.freshName loc]) with
  | none => rfl
  | some i =>
    have hsome : (tree.item? (loc ++ [tree.freshName loc])).isSome := by simp [h]
    exact absurd (length_lt_freshName (mem_names hsome)) (Nat.lt_irrefl _)

/-- Moving a new file over another one comes to writing it in place. -/
@[simp] theorem overwrite_eq_set (tree : Tree) (loc : Location) (t : Text) (mode : Nat) :
    tree.overwrite loc t mode = tree.set loc (.file (.text t) mode) := by
  have hne : loc.dropLast ++ [tree.freshName loc.dropLast] ≠ [] := by simp
  simp [overwrite, move, hne]

@[simp] theorem store_eq_write (tree : Tree) (atomic : Bool) (path t : Text) :
    tree.store atomic path t = tree.write path t := by
  unfold store
  split
  · unfold replaceFile
    simp only [overwrite_eq_set]
    rfl
  · rfl

theorem ne_nil_of_file {content : Content} {mode : Nat}
    (h : tree.item? loc = some (.file content mode)) : loc ≠ [] := by
  rintro rfl
  simp [item?] at h

theorem write_eq_set {path : Text} {content : Content} {mode : Nat} (hloc : tree.locate path = .ok loc)
    (hitem : tree.item? loc = some (.file content mode)) (t : Text) :
    tree.write path t = tree.set loc (.file (.text t) mode) := by
  simp only [write, hloc, hitem]

theorem read_eq_ok_iff {path t : Text} :
    tree.read path = .ok t ↔ ∃ loc mode, tree.locate path = .ok loc ∧
      tree.item? loc = some (.file (.text t) mode) := by
  unfold read
  constructor
  · intro h
    split at h
    · cases h
    · rename_i loc hloc
      split at h
      · rename_i u mode hitem
        cases h
        exact ⟨loc, mode, hloc, hitem⟩
      · cases h
      · cases h
      · cases h
  · rintro ⟨loc, mode, hloc, hitem⟩
    simp only [hloc, hitem]

end Items

/-- Whether a path names the item at a location: it leads there and is itself no link. -/
def Names (tree : Tree) (path : Text) (loc : Location) : Prop :=
  tree.isLink path = false ∧ tree.locate path = .ok loc

/-- An item without what a file holds. -/
def shell : Item → Item
  | .file _ mode => .file (.text []) mode
  | item => item

/-- Whether two trees differ in what files hold at most. -/
def Alike (a b : Tree) : Prop := ∀ loc, (a.item? loc).map shell = (b.item? loc).map shell

section Alike
variable {a b c : Tree}

theorem Alike.refl (a : Tree) : Alike a a := fun _ => rfl

theorem Alike.symm (h : Alike a b) : Alike b a := fun loc => (h loc).symm

theorem Alike.trans (h : Alike a b) (h' : Alike b c) : Alike a c := fun loc =>
  (h loc).trans (h' loc)

theorem alike_set {loc : Location} {old : Content} {mode : Nat}
    (h : a.item? loc = some (.file old mode)) (new : Content) :
    Alike a (a.set loc (.file new mode)) := by
  intro l
  rw [item?_set (ne_nil_of_file h)]
  split
  · rename_i hl
    rw [hl, h]
    rfl
  · rfl

theorem Alike.item_cases (h : Alike a b) (loc : Location) :
    (a.item? loc = none ∧ b.item? loc = none) ∨
    (∃ old new mode, a.item? loc = some (.file old mode) ∧ b.item? loc = some (.file new mode)) ∨
    (a.item? loc = some .directory ∧ b.item? loc = some .directory) ∨
    ∃ target, a.item? loc = some (.link target) ∧ b.item? loc = some (.link target) := by
  have hloc := h loc
  cases ha : a.item? loc with
  | none =>
    rw [ha, Option.map_none, eq_comm, Option.map_eq_none_iff] at hloc
    exact .inl ⟨rfl, hloc⟩
  | some i =>
    rw [ha, Option.map_some, eq_comm, Option.map_eq_some_iff] at hloc
    obtain ⟨j, hj, hij⟩ := hloc
    rw [hj]
    cases i with
    | file old mode =>
      cases j <;> simp [shell] at hij
      exact .inr (.inl ⟨old, _, mode, rfl, by rw [hij]⟩)
    | directory =>
      cases j <;> simp [shell] at hij
      exact .inr (.inr (.inl ⟨rfl, rfl⟩))
    | link target =>
      cases j <;> simp [shell] at hij
      exact .inr (.inr (.inr ⟨target, rfl, by rw [hij]⟩))

theorem Alike.walk_eq (h : Alike a b) (keepLink : Bool) (loc : Location) (names : List Text) :
    a.walk keepLink loc names = b.walk keepLink loc names := by
  induction names generalizing loc with
  | nil => rfl
  | cons name names ih =>
    rcases h.item_cases loc with ⟨ha, hb⟩ | ⟨_, _, _, ha, hb⟩ | ⟨ha, hb⟩ | ⟨_, ha, hb⟩
    · simp only [walk, ha, hb]
    · simp only [walk, ha, hb]
    · simp only [walk, ha, hb]
      split
      · exact ih loc
      · split
        · exact ih loc.dropLast
        · rcases h.item_cases (loc ++ [name]) with
            ⟨ha, hb⟩ | ⟨_, _, _, ha, hb⟩ | ⟨ha, hb⟩ | ⟨target, ha, hb⟩
          · simp only [ha, hb]
          · simp only [ha, hb, ih]
          · simp only [ha, hb, ih]
          · simp only [ha, hb]
    · simp only [walk, ha, hb]

theorem Alike.follow_eq (h : Alike a b) (keepLink : Bool) (links : Nat) (loc : Location)
    (names : List Text) : a.follow keepLink links loc names = b.follow keepLink links loc names := by
  induction links generalizing loc names with
  | zero =>
    rw [follow, follow, h.walk_eq]
  | succ links ih =>
    rw [follow, follow, h.walk_eq]
    simp only [ih]

theorem Alike.locate_eq (h : Alike a b) (path : Text) : a.locate path = b.locate path := by
  simp only [locate, h.follow_eq]

theorem Alike.isLink_eq (h : Alike a b) (path : Text) : a.isLink path = b.isLink path := by
  simp only [isLink, h.follow_eq]
  split
  · rename_i loc _
    rcases h.item_cases loc with ⟨ha, hb⟩ | ⟨_, _, _, ha, hb⟩ | ⟨ha, hb⟩ | ⟨_, ha, hb⟩ <;>
      simp only [ha, hb]
  · rfl

theorem Alike.hasPath_eq (h : Alike a b) (path : Text) : a.hasPath path = b.hasPath path := by
  simp only [hasPath, find?, h.locate_eq]
  split
  · rename_i loc _
    rcases h.item_cases loc with ⟨ha, hb⟩ | ⟨_, _, _, ha, hb⟩ | ⟨ha, hb⟩ | ⟨_, ha, hb⟩ <;>
      simp only [ha, hb, Option.isSome_some]
  · rfl

theorem Alike.shell_find?_eq (h : Alike a b) (path : Text) :
    (a.find? path).map shell = (b.find? path).map shell := by
  unfold find?
  rw [h.locate_eq]
  cases b.locate path with
  | error failure => rfl
  | ok loc => exact h loc

theorem Alike.isDirectory_eq (h : Alike a b) (path : Text) :
    a.isDirectory path = b.isDirectory path := by
  have hshell : ∀ tree : Tree, tree.find? path = some .directory ↔
      (tree.find? path).map shell = some .directory := by
    intro tree
    cases tree.find? path with
    | none => simp
    | some item => cases item <;> simp [shell]
  simp only [isDirectory, hshell, h.shell_find?_eq]

theorem Alike.isFile_eq (h : Alike a b) (path : Text) : a.isFile path = b.isFile path := by
  have hshell : ∀ tree : Tree, tree.isFile path = true ↔
      ∃ mode, (tree.find? path).map shell = some (.file (.text []) mode) := by
    intro tree
    unfold isFile
    cases tree.find? path with
    | none => simp
    | some item => cases item <;> simp [shell]
  rw [Bool.eq_iff_iff, hshell, hshell, h.shell_find?_eq]

theorem Alike.names_iff (h : Alike a b) {path : Text} {loc : Location} :
    a.Names path loc ↔ b.Names path loc := by
  simp only [Names, h.isLink_eq, h.locate_eq]

theorem Alike.find?_eq (h : Alike a b) {path : Text} (hlink : a.isLink path = false)
    (hitem : ∀ loc, a.Names path loc → a.item? loc = b.item? loc) :
    a.find? path = b.find? path := by
  unfold find?
  rw [← h.locate_eq]
  cases hloc : a.locate path with
  | error failure => rfl
  | ok loc => exact hitem loc ⟨hlink, hloc⟩

theorem Alike.read_eq (h : Alike a b) {path : Text}
    (hitem : ∀ loc, a.locate path = .ok loc → a.item? loc = b.item? loc) :
    a.read path = b.read path := by
  unfold read
  rw [← h.locate_eq]
  cases hloc : a.locate path with
  | error failure => rfl
  | ok loc => simp only [hitem loc hloc]

theorem read_set_of_names {path : Text} {loc : Location} {old : Content} {mode : Nat}
    (h : a.Names path loc) (hitem : a.item? loc = some (.file old mode)) (t : Text) :
    (a.set loc (.file (.text t) mode)).read path = .ok t := by
  have hloc := (alike_set hitem (.text t)).locate_eq path
  exact read_eq_ok_iff.2 ⟨loc, mode, hloc ▸ h.2, item?_set_self (ne_nil_of_file hitem)⟩

theorem Alike.item?_write (h : Alike a b) {path : Text} {loc : Location}
    (hloc : a.locate path = .ok loc) (hitem : a.item? loc = b.item? loc) (t : Text) :
    (a.write path t).item? loc = (b.write path t).item? loc := by
  have hloc' : b.locate path = .ok loc := h.locate_eq path ▸ hloc
  simp only [write, hloc, hloc', hitem]
  cases hb : b.item? loc with
  | none => simpa only [hb] using hitem
  | some item =>
    rw [hb] at hitem
    cases item with
    | file content mode =>
      have hne := ne_nil_of_file hb
      simp [hne]
    | directory => exact hitem.trans hb.symm
    | link target => exact hitem.trans hb.symm

end Alike
end MapLoom.Files.Tree
