import MapLoom.Proofs.Project.SearchPath

set_option autoImplicit false

/-!
# The templates of a search path

Only the files that win a tag along the search path are loaded, and all of them are. So the order in
which directories list their files and the files that lose leave no trace, while a winning file that
is no template stops the loading whatever its tag. Bundled templates stand in for tags without a
file.
-/
namespace MapLoom
open Files (Tree)
open Template (Bundled)

variable {tree other : Tree} {dirs : List Text} {files : List (Text × Text)}
  {loaded templates : Templates} {tag path : Text} {template : LoadedTemplate}

theorem isSome_lookup_insertKey (h : (loaded.lookup tag).isSome) (t : Text)
    (template : LoadedTemplate) : ((Text.insertKey t template loaded).lookup tag).isSome := by
  rw [Text.lookup_insertKey]
  split
  · rfl
  · exact h

theorem loadFiles_filter (h : (loaded.lookup tag).isSome) (files : List (Text × Text)) :
    loadFiles tree (files.filter fun file => file.1 ≠ tag) loaded =
      loadFiles tree files loaded := by
  induction files generalizing loaded with
  | nil => rfl
  | cons file files ih =>
    obtain ⟨t, p⟩ := file
    by_cases ht : t = tag
    · subst ht
      rw [List.filter_cons_of_neg (by simp), ih h, loadFiles, if_pos h]
    · rw [List.filter_cons_of_pos (by simpa using ht), loadFiles, loadFiles]
      split
      · exact ih h
      · split
        · exact ih (isSome_lookup_insertKey h _ _)
        · rfl

theorem loadFiles_firsts (files : List (Text × Text)) (loaded : Templates) :
    loadFiles tree (firsts files) loaded = loadFiles tree files loaded := by
  induction files generalizing loaded with
  | nil => rfl
  | cons file files ih =>
    obtain ⟨t, p⟩ := file
    rw [firsts, loadFiles, loadFiles]
    split
    · rename_i hsome
      rw [loadFiles_filter hsome, ih]
    · split
      · have hsome : ∀ template, ((Text.insertKey t template loaded).lookup t).isSome := by simp
        rw [loadFiles_filter (hsome _), ih]
      · rfl

theorem loadFiles_congr (h : ∀ file ∈ files, loadTemplate tree file.2 = loadTemplate other file.2)
    (loaded : Templates) : loadFiles tree files loaded = loadFiles other files loaded := by
  induction files generalizing loaded with
  | nil => rfl
  | cons file files ih =>
    obtain ⟨t, p⟩ := file
    have hfile := h (t, p) List.mem_cons_self
    have hrest := ih fun file hmem => h file (List.mem_cons_of_mem _ hmem)
    simp only [loadFiles, hrest]
    rw [hfile]

theorem exists_loadFiles_eq_ok_iff : (∃ templates, loadFiles tree files loaded = .ok templates) ↔
    ∀ tag path, loaded.lookup tag = none → files.lookup tag = some path →
      ∃ template, loadTemplate tree path = .ok template := by
  induction files generalizing loaded with
  | nil => simp [loadFiles]
  | cons file files ih =>
    obtain ⟨t, p⟩ := file
    simp only [loadFiles, lookup_cons_eq]
    by_cases hsome : (loaded.lookup t).isSome = true
    · rw [if_pos hsome, ih]
      refine forall₂_congr fun tag path => imp_congr_right fun hnone => ?_
      rw [if_neg]
      rintro rfl
      simp [hnone] at hsome
    · rw [if_neg hsome]
      have hnone : loaded.lookup t = none := Option.not_isSome_iff_eq_none.1 hsome
      cases hload : loadTemplate tree p with
      | error e =>
        refine iff_of_false (by simp) fun h => ?_
        obtain ⟨template, htemplate⟩ := h t p hnone (if_pos rfl)
        rw [hload] at htemplate
        cases htemplate
      | ok template =>
        dsimp only
        rw [ih]
        refine forall₂_congr fun tag path => ?_
        rw [Text.lookup_insertKey]
        by_cases ht : tag = t
        · subst ht
          simp only [if_pos, reduceCtorEq, false_imp_iff, true_iff, Option.some.injEq]
          rintro - rfl
          exact ⟨template, hload⟩
        · rw [if_neg ht, if_neg ht]

theorem lookup_loadFiles (h : loadFiles tree files loaded = .ok templates) (tag : Text) :
    templates.lookup tag = some template ↔ loaded.lookup tag = some template ∨
      (loaded.lookup tag = none ∧
        ∃ path, files.lookup tag = some path ∧ loadTemplate tree path = .ok template) := by
  induction files generalizing loaded with
  | nil =>
    cases h
    simp
  | cons file files ih =>
    obtain ⟨t, p⟩ := file
    rw [lookup_cons_eq]
    unfold loadFiles at h
    split at h
    · rename_i hsome
      rw [ih h]
      refine or_congr_right (and_congr_right fun hnone => ?_)
      rw [if_neg]
      rintro rfl
      simp [hnone] at hsome
    · rename_i hsome
      split at h
      · rename_i first hfirst
        rw [ih h, Text.lookup_insertKey]
        by_cases ht : tag = t
        · subst ht
          have hnone := Option.not_isSome_iff_eq_none.1 hsome
          rw [if_pos rfl, if_pos rfl, hnone]
          simp [hfirst]
        · rw [if_neg ht, if_neg ht]
      · cases h

theorem lookup_addBundled (b : Bundled) (tag : Text) : (addBundled loaded b).lookup tag =
    (loaded.lookup tag).or (if b.tag = tag then some ⟨.bundled, b.nodes⟩ else none) := by
  unfold addBundled
  split
  · rename_i hsome
    by_cases ht : b.tag = tag
    · subst ht
      rw [Option.or_of_isSome hsome]
    · rw [if_neg ht, Option.or_none]
  · rename_i hnone
    rw [Text.lookup_insertKey]
    by_cases ht : b.tag = tag
    · subst ht
      rw [Option.not_isSome_iff_eq_none.1 hnone, if_pos rfl, Option.none_or]
    · rw [if_neg (Ne.symm ht), if_neg ht, Option.or_none]

theorem lookup_foldl_addBundled (bundled : List Bundled) (loaded : Templates) (tag : Text) :
    (bundled.foldl addBundled loaded).lookup tag = (loaded.lookup tag).or
      ((bundled.find? (·.tag = tag)).map fun b => ⟨.bundled, b.nodes⟩) := by
  induction bundled generalizing loaded with
  | nil => simp
  | cons b bundled ih =>
    rw [List.foldl_cons, ih, lookup_addBundled, Option.or_assoc]
    by_cases ht : b.tag = tag <;> simp [ht]

theorem loadTemplates_eq : loadTemplates tree dirs =
    (loadFiles tree (winners tree dirs) []).map (Bundled.all.foldl addBundled) := by
  unfold loadTemplates winners
  rw [loadFiles_firsts]
  cases loadFiles tree (dirs.flatMap (templatesIn tree)) [] <;> rfl

section Winners

theorem firsts_of_keyed (h : Text.Keyed files) : firsts files = files := by
  induction files with
  | nil => rfl
  | cons file files ih =>
    obtain ⟨hfirst, hrest⟩ := List.pairwise_cons.1 h
    rw [firsts, ih hrest, List.filter_eq_self.2]
    intro later hlater
    exact decide_eq_true (ne_of_gt (hfirst later hlater))

theorem firsts_append (xs ys : List (Text × Text)) :
    firsts (xs ++ ys) =
      firsts xs ++ (firsts ys).filter fun file => (xs.lookup file.1).isNone := by
  induction xs with
  | nil => exact (List.filter_eq_self.2 fun _ _ => rfl).symm
  | cons x xs ih =>
    obtain ⟨t, p⟩ := x
    rw [List.cons_append, firsts, firsts, ih, List.filter_append, List.filter_filter,
      List.cons_append]
    congr 2
    refine List.filter_congr fun file _ => ?_
    rw [lookup_cons_eq]
    by_cases ht : file.1 = t <;> simp [ht]

theorem winners_cons (dir : Text) : winners tree (dir :: dirs) = templatesIn tree dir ++
    (winners tree dirs).filter fun file => ((templatesIn tree dir).lookup file.1).isNone := by
  rw [winners, List.flatMap_cons, firsts_append, firsts_of_keyed (keyed_templatesIn tree dir)]
  rfl

/-- Files that win the same tags in the same directories stand in the same order. -/
theorem filter_winners_eq (keep : Text → Bool)
    (h : ∀ n tag path, keep tag = true → (Wins tree dirs n tag path ↔ Wins other dirs n tag path)) :
    (winners tree dirs).filter (fun file => keep file.1) =
      (winners other dirs).filter (fun file => keep file.1) := by
  induction dirs generalizing keep with
  | nil => rfl
  | cons dir dirs ih =>
    have hgives : ∀ tag path, keep tag = true →
        (Gives tree dir tag path ↔ Gives other dir tag path) := by
      intro tag path hkeep
      have hfirst := h 0 tag path hkeep
      rwa [wins_zero_iff, wins_zero_iff] at hfirst
    have hlookup : ∀ tag, keep tag = true →
        (templatesIn tree dir).lookup tag = (templatesIn other dir).lookup tag := by
      intro tag hkeep
      refine Option.ext fun path => ?_
      rw [← gives_iff, ← gives_iff, hgives tag path hkeep]
    have hhere : (templatesIn tree dir).filter (fun file => keep file.1) =
        (templatesIn other dir).filter (fun file => keep file.1) := by
      refine Text.Keyed.eq_of_mem_iff ((keyed_templatesIn tree dir).filter _)
        ((keyed_templatesIn other dir).filter _) fun file => ?_
      obtain ⟨tag, path⟩ := file
      rw [List.mem_filter, List.mem_filter, ← (keyed_templatesIn tree dir).lookup_eq_some_iff,
        ← (keyed_templatesIn other dir).lookup_eq_some_iff]
      exact and_congr_left fun hkeep => by rw [hlookup tag hkeep]
    -- the later directories count only for the tags that this one gives nothing
    have hlater := ih (fun tag => keep tag && ((templatesIn tree dir).lookup tag).isNone) <| by
      intro n tag path hboth
      obtain ⟨hkeep, hnone⟩ := Bool.and_eq_true_iff.1 hboth
      have hlacks : ∀ path, ¬ Gives tree dir tag path := by
        intro path hpath
        rw [gives_iff.1 hpath] at hnone
        cases hnone
      have hlacks' : ∀ path, ¬ Gives other dir tag path := fun path hpath =>
        hlacks path ((hgives tag path hkeep).2 hpath)
      have hwins := h (n + 1) tag path hkeep
      rw [wins_succ_iff, wins_succ_iff] at hwins
      simpa only [hlacks, hlacks', not_false_eq_true, implies_true, true_and] using hwins
    have hnone : ∀ tag, (keep tag && ((templatesIn tree dir).lookup tag).isNone) =
        (keep tag && ((templatesIn other dir).lookup tag).isNone) := by
      intro tag
      cases hkeep : keep tag with
      | false => rfl
      | true => rw [hlookup tag hkeep]
    rw [winners_cons, winners_cons, List.filter_append, List.filter_append, hhere,
      List.filter_filter, List.filter_filter, hlater]
    simp only [hnone]

theorem winners_eq
    (h : ∀ n tag path, Wins tree dirs n tag path ↔ Wins other dirs n tag path) :
    winners tree dirs = winners other dirs := by
  have hfilter := filter_winners_eq (fun _ => true) fun n tag path _ => h n tag path
  rwa [List.filter_true, List.filter_true] at hfilter

theorem loadTemplates_congr
    (hwins : ∀ n tag path, Wins tree dirs n tag path ↔ Wins other dirs n tag path)
    (hload : ∀ n tag path, Wins tree dirs n tag path →
      loadTemplate tree path = loadTemplate other path) :
    loadTemplates tree dirs = loadTemplates other dirs := by
  have hfiles : loadFiles tree (winners tree dirs) [] = loadFiles other (winners tree dirs) [] := by
    refine loadFiles_congr (fun file hfile => ?_) []
    obtain ⟨n, hn⟩ := mem_winners.1 hfile
    exact hload n _ _ hn
  rw [loadTemplates_eq, loadTemplates_eq, hfiles, winners_eq hwins]

end Winners

theorem loadTemplates_eq_ok_iff : loadTemplates tree dirs = .ok templates ↔
    ∃ loaded, loadFiles tree (dirs.flatMap (templatesIn tree)) [] = .ok loaded ∧
      Bundled.all.foldl addBundled loaded = templates := by
  unfold loadTemplates
  cases loadFiles tree (dirs.flatMap (templatesIn tree)) [] <;> simp

theorem exists_loadTemplates_eq_ok_iff : (∃ templates, loadTemplates tree dirs = .ok templates) ↔
    ∀ n tag path, Wins tree dirs n tag path →
      ∃ template, loadTemplate tree path = .ok template := by
  have hfiles : (∃ templates, loadTemplates tree dirs = .ok templates) ↔
      ∃ loaded, loadFiles tree (dirs.flatMap (templatesIn tree)) [] = .ok loaded := by
    simp only [loadTemplates_eq_ok_iff]
    constructor
    · rintro ⟨_, loaded, hloaded, -⟩
      exact ⟨loaded, hloaded⟩
    · rintro ⟨loaded, hloaded⟩
      exact ⟨_, loaded, hloaded, rfl⟩
  rw [hfiles, exists_loadFiles_eq_ok_iff]
  simp only [← exists_wins_iff, List.lookup_nil, forall_const]
  exact ⟨fun h n tag path hn => h tag path ⟨n, hn⟩, fun h tag path ⟨n, hn⟩ => h n tag path hn⟩

theorem find?_bundled_eq_some_iff {b : Bundled} :
    Bundled.all.find? (·.tag = tag) = some b ↔ b.tag = tag := by
  constructor
  · intro h
    simpa using List.find?_some h
  · rintro rfl
    cases b <;> decide

/-- What a tag gets: the winning file as it was read, or else what is bundled for the tag. -/
theorem lookup_loadTemplates (h : loadTemplates tree dirs = .ok templates) (tag : Text)
    (template : LoadedTemplate) :
    templates.lookup tag = some template ↔
      (∃ n path, Wins tree dirs n tag path ∧ loadTemplate tree path = .ok template) ∨
      ((∀ n path, ¬ Wins tree dirs n tag path) ∧
        ∃ b : Bundled, b.tag = tag ∧ template = ⟨.bundled, b.nodes⟩) := by
  obtain ⟨loaded, hloaded, rfl⟩ := loadTemplates_eq_ok_iff.1 h
  have hfound : ∀ found, loaded.lookup tag = some found ↔
      ∃ n path, Wins tree dirs n tag path ∧ loadTemplate tree path = .ok found := by
    intro found
    simp only [lookup_loadFiles hloaded, List.lookup_nil, reduceCtorEq, true_and, false_or,
      ← exists_wins_iff]
    exact ⟨fun ⟨path, ⟨n, hn⟩, hload⟩ => ⟨n, path, hn, hload⟩,
      fun ⟨n, path, hn, hload⟩ => ⟨path, ⟨n, hn⟩, hload⟩⟩
  have hnone : loaded.lookup tag = none ↔ ∀ n path, ¬ Wins tree dirs n tag path := by
    constructor
    · intro hnone n path hn
      -- a winning file was read, so its tag has a template
      obtain ⟨found, hload⟩ := exists_loadTemplates_eq_ok_iff.1 ⟨_, h⟩ n tag path hn
      rw [(hfound found).2 ⟨n, path, hn, hload⟩] at hnone
      cases hnone
    · intro hlacks
      refine Option.eq_none_iff_forall_ne_some.2 fun found hfound' => ?_
      obtain ⟨n, path, hn, -⟩ := (hfound found).1 hfound'
      exact hlacks n path hn
  rw [lookup_foldl_addBundled, Option.or_eq_some_iff, hfound, hnone, Option.map_eq_some_iff]
  exact or_congr_right <| and_congr_right fun _ => exists_congr fun b =>
    and_congr find?_bundled_eq_some_iff eq_comm

end MapLoom
