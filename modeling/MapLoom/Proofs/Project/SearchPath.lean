import Mathlib.Data.List.TakeDrop
import Mathlib.Data.List.TakeWhile
import MapLoom.Project.Modules
import MapLoom.Proofs.Text.Order

set_option autoImplicit false

/-!
# The template file of a tag

A directory gives a tag the file with the preferred extension, or else the one with the other
extension; the order in which it lists its files does not count. Along a search path the first
directory that gives a tag a file wins.
-/
namespace MapLoom
open Files (Tree)

theorem Text.cutLast?_eq_some_iff {sep : Char} {t before after : Text} :
    cutLast? sep t = some (before, after) ↔ t = before ++ sep :: after ∧ sep ∉ after := by
  unfold cutLast?
  rw [List.span_eq_takeWhile_dropWhile]
  have hsplit := List.takeWhile_append_dropWhile (p := (decide <| · ≠ sep)) (l := t.reverse)
  constructor
  · intro h
    have hafter : sep ∉ t.reverse.takeWhile (· ≠ sep) := fun hmem => by
      simpa using List.mem_takeWhile_imp hmem
    cases hdrop : t.reverse.dropWhile (· ≠ sep) with
    | nil =>
      rw [hdrop] at h
      cases h
    | cons c rest =>
      have hc : c = sep := by
        have hhead := List.head?_dropWhile_not (· ≠ sep) t.reverse
        rw [hdrop] at hhead
        simpa using hhead
      rw [hdrop] at h hsplit
      cases h
      refine ⟨?_, mt List.mem_reverse.1 hafter⟩
      rw [hc] at hsplit
      simpa using (congrArg List.reverse hsplit).symm
  · rintro ⟨rfl, h⟩
    have hrev : ∀ c ∈ after.reverse, decide (c ≠ sep) = true := fun c hc =>
      decide_eq_true fun he => h (he ▸ List.mem_reverse.1 hc)
    rw [List.reverse_append, List.reverse_cons, List.append_assoc, List.singleton_append,
      List.takeWhile_append_of_pos hrev, List.dropWhile_append_of_pos hrev,
      List.takeWhile_cons_of_neg (by simp), List.dropWhile_cons_of_neg (by simp)]
    simp

def fileName (tag extension : Text) : Text := tag ++ '.' :: extension

theorem stemAndExtension?_eq_some_iff {name stem extension : Text} :
    Files.stemAndExtension? name = some (stem, extension) ↔
      stem ≠ [] ∧ name = fileName stem extension ∧ '.' ∉ extension := by
  unfold Files.stemAndExtension? fileName
  rw [← Text.cutLast?_eq_some_iff]
  split
  · rename_i after h
    rw [h, Option.some.injEq, Prod.mk.injEq]
    exact iff_of_false (by simp) fun hne => hne.1 hne.2.1.symm
  · rename_i hnot
    refine ⟨fun h => ⟨?_, h⟩, And.right⟩
    rintro rfl
    exact hnot extension h

theorem extensionRank?_eq_some_iff {extension : Text} {rank : Nat} :
    extensionRank? extension = some rank ↔
      (extension = "tera" ∧ rank = 0) ∨ (extension = "jinja2" ∧ rank = 1) := by
  unfold extensionRank?
  have hne : "tera".toList ≠ "jinja2".toList := by decide
  split
  · rename_i h
    subst h
    simp only [hne, true_and, false_and, or_false, Option.some.injEq]
    exact eq_comm
  · rename_i h
    simp only [h, false_and, false_or]
    split
    · rename_i h'
      simp only [h', true_and, Option.some.injEq]
      exact eq_comm
    · rename_i h'
      simp only [h', false_and, reduceCtorEq]

theorem templateName?_eq_some_iff {name tag : Text} {rank : Nat} :
    templateName? name = some (tag, rank) ↔ tag ≠ [] ∧
      ((name = fileName tag "tera" ∧ rank = 0) ∨ (name = fileName tag "jinja2" ∧ rank = 1)) := by
  unfold templateName?
  rw [Option.bind_eq_some_iff]
  constructor
  · rintro ⟨⟨stem, extension⟩, hstem, hrank⟩
    obtain ⟨r, hr, ⟨⟩⟩ := Option.map_eq_some_iff.1 hrank
    obtain ⟨hne, hname, -⟩ := stemAndExtension?_eq_some_iff.1 hstem
    refine ⟨hne, ?_⟩
    rcases extensionRank?_eq_some_iff.1 hr with ⟨rfl, rfl⟩ | ⟨rfl, rfl⟩
    · exact .inl ⟨hname, rfl⟩
    · exact .inr ⟨hname, rfl⟩
  · rintro ⟨hne, ⟨rfl, rfl⟩ | ⟨rfl, rfl⟩⟩
    · exact ⟨(tag, "tera"), stemAndExtension?_eq_some_iff.2 ⟨hne, rfl, by decide⟩, rfl⟩
    · exact ⟨(tag, "jinja2"), stemAndExtension?_eq_some_iff.2 ⟨hne, rfl, by decide⟩, rfl⟩

section Directory
variable {tree : Tree} {dir tag path : Text}

/-- Whether a file of a name stands in a directory that lists some names; links are followed. -/
def HeldAmong (tree : Tree) (dir : Text) (names : List Text) (name : Text) : Prop :=
  name ∈ names ∧ tree.isFile (Files.joinPath dir name) = true

instance (names : List Text) (name : Text) : Decidable (HeldAmong tree dir names name) :=
  inferInstanceAs (Decidable (_ ∧ _))

def Holds (tree : Tree) (dir name : Text) : Prop := HeldAmong tree dir (tree.entries dir) name

/-- Whether a directory gives a tag the template file at a path. -/
inductive Gives (tree : Tree) (dir tag : Text) : Text → Prop
  | preferred (named : tag ≠ []) (held : Holds tree dir (fileName tag "tera")) :
    Gives tree dir tag (Files.joinPath dir (fileName tag "tera"))
  | other (named : tag ≠ []) (lacks : ¬ Holds tree dir (fileName tag "tera"))
    (held : Holds tree dir (fileName tag "jinja2")) :
    Gives tree dir tag (Files.joinPath dir (fileName tag "jinja2"))

/-- The rank and the path of the best template file for a tag among some names. -/
def best? (tree : Tree) (dir : Text) (names : List Text) (tag : Text) : Option (Nat × Text) :=
  if tag = [] then none
  else if HeldAmong tree dir names (fileName tag "tera") then
    some (0, Files.joinPath dir (fileName tag "tera"))
  else if HeldAmong tree dir names (fileName tag "jinja2") then
    some (1, Files.joinPath dir (fileName tag "jinja2"))
  else none

theorem heldAmong_concat_of_ne {names : List Text} {name other : Text} (h : other ≠ name) :
    HeldAmong tree dir (names ++ [name]) other ↔ HeldAmong tree dir names other := by
  simp [HeldAmong, h]

theorem heldAmong_concat_self {names : List Text} {name : Text}
    (h : tree.isFile (Files.joinPath dir name) = true) :
    HeldAmong tree dir (names ++ [name]) name := by
  simp [HeldAmong, h]

theorem heldAmong_concat_of_not_isFile {names : List Text} {name other : Text}
    (h : tree.isFile (Files.joinPath dir name) = false) :
    HeldAmong tree dir (names ++ [name]) other ↔ HeldAmong tree dir names other := by
  by_cases ho : other = name
  · subst ho
    simp [HeldAmong, h]
  · exact heldAmong_concat_of_ne ho

theorem templateName?_fileName (h : tag ≠ []) :
    templateName? (fileName tag "tera") = some (tag, 0) ∧
      templateName? (fileName tag "jinja2") = some (tag, 1) :=
  ⟨templateName?_eq_some_iff.2 ⟨h, .inl ⟨rfl, rfl⟩⟩,
    templateName?_eq_some_iff.2 ⟨h, .inr ⟨rfl, rfl⟩⟩⟩

theorem best?_concat_of_ne {names : List Text} {name : Text}
    (h : ∀ rank, templateName? name = some (tag, rank) →
      tree.isFile (Files.joinPath dir name) = false) :
    best? tree dir (names ++ [name]) tag = best? tree dir names tag := by
  unfold best?
  split
  · rfl
  · rename_i hne
    obtain ⟨htera, hjinja⟩ := templateName?_fileName hne
    have hheld : ∀ other rank, templateName? other = some (tag, rank) →
        (HeldAmong tree dir (names ++ [name]) other ↔ HeldAmong tree dir names other) := by
      intro other rank hother
      by_cases ho : other = name
      · exact heldAmong_concat_of_not_isFile (h rank (ho ▸ hother))
      · exact heldAmong_concat_of_ne ho
    simp only [hheld _ _ htera, hheld _ _ hjinja]

theorem lookup_offer (tag other path : Text) (rank : Nat) (found : List (Text × Nat × Text)) :
    (offer tag rank path found).lookup other =
      if other = tag ∧ ∀ best ∈ found.lookup tag, rank < best.1 then some (rank, path)
      else found.lookup other := by
  unfold offer
  cases hfound : found.lookup tag with
  | none => simp
  | some best =>
    by_cases hle : best.1 ≤ rank
    · have hnot : ¬ rank < best.1 := by omega
      simp [hle, hnot]
    · have hlt : rank < best.1 := by omega
      simp [hle, hlt]

theorem lookup_offerFile {names : List Text} {found : List (Text × Nat × Text)} (name : Text)
    (h : ∀ tag, found.lookup tag = best? tree dir names tag) (tag : Text) :
    (offerFile tree dir found name).lookup tag = best? tree dir (names ++ [name]) tag := by
  unfold offerFile
  cases hname : templateName? name with
  | none =>
    rw [best?_concat_of_ne (by simp [hname])]
    exact h tag
  | some ranked =>
    obtain ⟨t, rank⟩ := ranked
    dsimp only
    by_cases hfile : tree.isFile (Files.joinPath dir name) = true
    · rw [if_pos hfile, lookup_offer]
      by_cases ht : tag = t
      · subst ht
        obtain ⟨hne, hcases⟩ := templateName?_eq_some_iff.1 hname
        have hdiffer : fileName tag "tera" ≠ fileName tag "jinja2" := by
          intro he
          have hext := List.append_cancel_left he
          revert hext
          decide
        rw [h tag]
        have hnow : HeldAmong tree dir (names ++ [name]) name := heldAmong_concat_self hfile
        -- the preferred file replaces the other one, and the other one only stands in for it
        rcases hcases with ⟨rfl, rfl⟩ | ⟨rfl, rfl⟩
        · simp only [best?, if_neg hne, if_pos hnow]
          split_ifs <;> simp_all
        · simp only [best?, if_neg hne, if_pos hnow, heldAmong_concat_of_ne hdiffer]
          split_ifs <;> simp_all
      · rw [if_neg (fun hand => ht hand.1), best?_concat_of_ne (by simp [hname, Ne.symm ht])]
        exact h tag
    · rw [if_neg hfile, best?_concat_of_ne fun _ _ => Bool.eq_false_iff.2 hfile]
      exact h tag

theorem lookup_foldl_offerFile {names seen : List Text} {found : List (Text × Nat × Text)}
    (h : ∀ tag, found.lookup tag = best? tree dir seen tag) (tag : Text) :
    (names.foldl (offerFile tree dir) found).lookup tag = best? tree dir (seen ++ names) tag := by
  induction names generalizing seen found with
  | nil => rw [List.foldl_nil, List.append_nil, h]
  | cons name names ih =>
    rw [List.foldl_cons, ih (lookup_offerFile name h), List.append_assoc, List.singleton_append]

theorem keyed_foldl_offerFile {names : List Text} {found : List (Text × Nat × Text)}
    (h : Text.Keyed found) : Text.Keyed (names.foldl (offerFile tree dir) found) := by
  induction names generalizing found with
  | nil => exact h
  | cons name names ih =>
    apply ih
    unfold offerFile
    split
    · dsimp only
      split
      · unfold offer
        split
        · split
          · exact h
          · exact Text.keyed_insertKey h _ _
        · exact Text.keyed_insertKey h _ _
      · exact h
    · exact h

theorem keyed_templatesIn (tree : Tree) (dir : Text) : Text.Keyed (templatesIn tree dir) :=
  (keyed_foldl_offerFile Text.keyed_nil).map Prod.snd

theorem lookup_templatesIn (tree : Tree) (dir tag : Text) :
    (templatesIn tree dir).lookup tag =
      (best? tree dir (tree.entries dir) tag).map Prod.snd := by
  have hempty : ∀ tag, ([] : List (Text × Nat × Text)).lookup tag = best? tree dir [] tag := by
    intro tag
    simp [best?, HeldAmong]
  rw [templatesIn, lookup_map Prod.snd, lookup_foldl_offerFile hempty, List.nil_append]

theorem gives_iff : Gives tree dir tag path ↔ (templatesIn tree dir).lookup tag = some path := by
  rw [lookup_templatesIn, best?]
  constructor
  · intro h
    cases h with
    | preferred named held =>
      unfold Holds at held
      rw [if_neg named, if_pos held]
      rfl
    | other named lacks held =>
      unfold Holds at lacks held
      rw [if_neg named, if_neg lacks, if_pos held]
      rfl
  · intro h
    split_ifs at h with hne htera hjinja
    · cases h
    · cases h
      exact .preferred hne htera
    · cases h
      exact .other hne htera hjinja
    · cases h

end Directory

section SearchPath
variable {tree other : Tree} {dirs : List Text} {tag path : Text}

/-- Whether a tag gets the file at a path from the `n`-th directory, the first one that gives it
any. -/
def Wins (tree : Tree) (dirs : List Text) (n : Nat) (tag path : Text) : Prop :=
  (∃ dir, dirs[n]? = some dir ∧ Gives tree dir tag path) ∧
    ∀ k < n, ∀ dir, dirs[k]? = some dir → ∀ path, ¬ Gives tree dir tag path

/-- The files of a list that are the first ones for their tags. -/
def firsts : List (Text × Text) → List (Text × Text)
  | [] => []
  | file :: files => file :: (firsts files).filter fun later => later.1 ≠ file.1

/-- The files that tags get along a search path, in the order of the directories. -/
def winners (tree : Tree) (dirs : List Text) : List (Text × Text) :=
  firsts (dirs.flatMap (templatesIn tree))

theorem mem_firsts {files : List (Text × Text)} :
    (tag, path) ∈ firsts files ↔ files.lookup tag = some path := by
  induction files with
  | nil => simp [firsts]
  | cons file files ih =>
    obtain ⟨t, p⟩ := file
    rw [firsts, List.mem_cons, List.mem_filter, ih, lookup_cons_eq, Prod.mk.injEq]
    by_cases ht : tag = t
    · simp [ht, eq_comm]
    · simp [ht]

theorem wins_zero_iff {dir : Text} :
    Wins tree (dir :: dirs) 0 tag path ↔ Gives tree dir tag path := by
  simp [Wins]

theorem wins_succ_iff {dir : Text} {n : Nat} : Wins tree (dir :: dirs) (n + 1) tag path ↔
    (∀ path, ¬ Gives tree dir tag path) ∧ Wins tree dirs n tag path := by
  unfold Wins
  rw [List.getElem?_cons_succ]
  constructor
  · rintro ⟨hgives, hbefore⟩
    exact ⟨hbefore 0 (Nat.zero_lt_succ n) dir rfl, hgives,
      fun k hk => hbefore (k + 1) (Nat.succ_lt_succ hk)⟩
  · rintro ⟨hnone, hgives, hbefore⟩
    refine ⟨hgives, fun k hk d hd => ?_⟩
    cases k with
    | zero =>
      obtain rfl : dir = d := Option.some.inj hd
      exact hnone
    | succ k => exact hbefore k (Nat.lt_of_succ_lt_succ hk) d hd

theorem exists_wins_iff : (∃ n, Wins tree dirs n tag path) ↔
    (dirs.flatMap (templatesIn tree)).lookup tag = some path := by
  induction dirs with
  | nil => simp [Wins]
  | cons dir dirs ih =>
    rw [List.flatMap_cons, List.lookup_append, Option.or_eq_some_iff, ← ih, ← gives_iff]
    have hnone : (templatesIn tree dir).lookup tag = none ↔ ∀ path, ¬ Gives tree dir tag path := by
      simp only [gives_iff, Option.eq_none_iff_forall_ne_some, ne_eq]
    rw [hnone]
    constructor
    · rintro ⟨n, hn⟩
      cases n with
      | zero => exact .inl (wins_zero_iff.1 hn)
      | succ n =>
        obtain ⟨hlacks, hwins⟩ := wins_succ_iff.1 hn
        exact .inr ⟨hlacks, n, hwins⟩
    · rintro (h | ⟨hlacks, n, hwins⟩)
      · exact ⟨0, wins_zero_iff.2 h⟩
      · exact ⟨n + 1, wins_succ_iff.2 ⟨hlacks, hwins⟩⟩

theorem mem_winners : (tag, path) ∈ winners tree dirs ↔ ∃ n, Wins tree dirs n tag path :=
  mem_firsts.trans exists_wins_iff.symm

end SearchPath
end MapLoom
