import MapLoom.Proofs.Files.Listing
import MapLoom.Proofs.Project.Templates

set_option autoImplicit false

/-!
# Which template a tag resolves to

The place of a file in the search path decides which template a tag resolves to, and nothing else
does. The table that says where each template came from and the table of the templates themselves
can be filled apart, and have the same tags after a load.
-/
namespace MapLoom
open Files (Tree)
open Files.Tree (Relisted SameShape)
open Template (Bundled)

section Relisted
variable {tree other : Tree}

theorem holds_congr (h : SameShape tree other) (dir name : Text) :
    Holds tree dir name ↔ Holds other dir name := by
  unfold Holds HeldAmong
  rw [(h.entries_perm dir).mem_iff, h.alike.isFile_eq]

theorem Gives.congr (h : SameShape tree other) {dir tag path : Text}
    (hgives : Gives tree dir tag path) : Gives other dir tag path := by
  cases hgives with
  | preferred named held => exact .preferred named ((holds_congr h _ _).1 held)
  | other named lacks held =>
    exact .other named (mt (holds_congr h _ _).2 lacks) ((holds_congr h _ _).1 held)

theorem wins_congr (h : SameShape tree other) (dirs : List Text) (n : Nat) (tag path : Text) :
    Wins tree dirs n tag path ↔ Wins other dirs n tag path := by
  have hgives : ∀ dir path, Gives tree dir tag path ↔ Gives other dir tag path :=
    fun dir path => ⟨Gives.congr h, Gives.congr h.symm⟩
  simp only [Wins, hgives]

theorem lookup_foldl_insertKey (names : List Text) (sorted : List (Text × Unit)) (name : Text) :
    (names.foldl (fun sorted name => Text.insertKey name () sorted) sorted).lookup name =
      if name ∈ names then some () else sorted.lookup name := by
  induction names generalizing sorted with
  | nil => simp
  | cons first names ih =>
    rw [List.foldl_cons, ih]
    by_cases hfirst : name = first <;> by_cases hmem : name ∈ names <;> simp [hfirst, hmem]

theorem keyed_foldl_insertKey (names : List Text) {sorted : List (Text × Unit)}
    (h : Text.Keyed sorted) :
    Text.Keyed (names.foldl (fun sorted name => Text.insertKey name () sorted) sorted) := by
  induction names generalizing sorted with
  | nil => exact h
  | cons first names ih => exact ih (Text.keyed_insertKey h first ())

theorem foldl_insertKey_perm {names others : List Text} (h : names.Perm others) :
    names.foldl (fun sorted name => Text.insertKey name () sorted) [] =
      others.foldl (fun sorted name => Text.insertKey name () sorted) [] := by
  refine Text.Keyed.eq_of_lookup_eq (keyed_foldl_insertKey names Text.keyed_nil)
    (keyed_foldl_insertKey others Text.keyed_nil) fun name => ?_
  rw [lookup_foldl_insertKey, lookup_foldl_insertKey]
  simp only [h.mem_iff]

theorem searchDirs_congr (h : SameShape tree other) (moduleDir : Text) :
    searchDirs tree moduleDir = searchDirs other moduleDir := by
  unfold searchDirs
  rw [h.alike.isDirectory_eq]
  split
  · have hbelow := (h.entries_perm moduleDir).filter fun name =>
      other.isDirectory (Files.joinPath moduleDir name)
    simp only [h.alike.isDirectory_eq, foldl_insertKey_perm hbelow]
  · rfl

theorem loadTemplates_sameShape (h : SameShape tree other) (dirs : List Text)
    (hread : ∀ n tag path, Wins tree dirs n tag path → tree.read path = other.read path) :
    loadTemplates tree dirs = loadTemplates other dirs := by
  refine loadTemplates_congr (wins_congr h dirs) fun n tag path hwins => ?_
  unfold loadTemplate
  rw [hread n tag path hwins]

theorem Modules.load_sameShape (h : SameShape tree other) (moduleDir : Text) (registry : Registry)
    (functions : SourceFunctions)
    (hread : ∀ n tag path, Wins tree (MapLoom.searchDirs tree moduleDir) n tag path →
      tree.read path = other.read path) :
    Modules.load tree moduleDir registry functions =
      Modules.load other moduleDir registry functions := by
  simp only [Modules.load, ← searchDirs_congr h, loadTemplates_sameShape h _ hread]

theorem loadTemplates_relisted (h : Relisted tree other) (dirs : List Text) :
    loadTemplates tree dirs = loadTemplates other dirs :=
  loadTemplates_sameShape h.sameShape dirs fun _ _ path _ => h.read_eq path

theorem Modules.load_relisted (h : Relisted tree other) (moduleDir : Text) (registry : Registry)
    (functions : SourceFunctions) :
    Modules.load tree moduleDir registry functions =
      Modules.load other moduleDir registry functions :=
  Modules.load_sameShape h.sameShape moduleDir registry functions fun _ _ path _ => h.read_eq path

end Relisted

namespace Tables
variable {tree : Tree} {files : List (Text × Text)} {loaded templates : Templates}

def ofTemplates (templates : Templates) : Tables :=
  ⟨templates.map fun (tag, template) => (tag, template.source),
    templates.map fun (tag, template) => (tag, template.nodes)⟩

@[simp] theorem lookup_sources (templates : Templates) (tag : Text) :
    (ofTemplates templates).sources.lookup tag =
      (templates.lookup tag).map LoadedTemplate.source :=
  lookup_map LoadedTemplate.source tag templates

@[simp] theorem lookup_engine (templates : Templates) (tag : Text) :
    (ofTemplates templates).engine.lookup tag = (templates.lookup tag).map LoadedTemplate.nodes :=
  lookup_map LoadedTemplate.nodes tag templates

theorem ofTemplates_insertKey (tag : Text) (template : LoadedTemplate) (loaded : Templates) :
    ofTemplates (Text.insertKey tag template loaded) =
      (ofTemplates loaded).add tag template.source template.nodes := by
  simp only [ofTemplates, add, Text.insertKey_map]

theorem source_of_loadTemplate {path : Text} {template : LoadedTemplate}
    (h : loadTemplate tree path = .ok template) : template.source = .file path := by
  unfold loadTemplate at h
  split at h
  · cases h
  · split at h
    · cases h
      rfl
    · cases h

theorem loadFiles_eq (files : List (Text × Text)) (loaded : Templates) :
    loadFiles tree files (ofTemplates loaded) =
      (MapLoom.loadFiles tree files loaded).map ofTemplates := by
  induction files generalizing loaded with
  | nil => rfl
  | cons file files ih =>
    obtain ⟨tag, path⟩ := file
    rw [loadFiles, MapLoom.loadFiles, lookup_sources, Option.isSome_map]
    split
    · exact ih loaded
    · cases hload : loadTemplate tree path with
      | error e => rfl
      | ok template =>
        dsimp only
        rw [← source_of_loadTemplate hload, ← ofTemplates_insertKey, ih]

theorem foldl_addBundled_eq (bundled : List Bundled) (loaded : Templates) :
    bundled.foldl addBundled (ofTemplates loaded) =
      ofTemplates (bundled.foldl MapLoom.addBundled loaded) := by
  induction bundled generalizing loaded with
  | nil => rfl
  | cons b bundled ih =>
    rw [List.foldl_cons, List.foldl_cons, ← ih]
    congr 1
    unfold addBundled MapLoom.addBundled
    rw [lookup_sources, Option.isSome_map]
    split
    · rfl
    · rw [ofTemplates_insertKey]

/-- Filling the two tables apart gives what one table of both gives. -/
theorem load_eq (tree : Tree) (dirs : List Text) :
    load tree dirs = (loadTemplates tree dirs).map ofTemplates := by
  have hfiles : loadFiles tree (dirs.flatMap (templatesIn tree)) (ofTemplates []) = _ :=
    loadFiles_eq _ []
  unfold load loadTemplates
  rw [show empty = ofTemplates [] from rfl, hfiles]
  cases MapLoom.loadFiles tree (dirs.flatMap (templatesIn tree)) [] with
  | error e => rfl
  | ok loaded => exact congrArg Except.ok (foldl_addBundled_eq Bundled.all loaded)

end Tables

theorem Modules.exists_resolve_eq_ok_iff {m : Modules} {tag : Text} :
    (∃ found, m.resolve tag = .ok found) ↔
      (m.registry.get? tag).isSome ∧ m.hasTemplate tag = true := by
  unfold Modules.resolve Modules.hasTemplate
  cases m.registry.get? tag <;> cases m.templates.lookup tag <;> simp

structure KnownByPlace (tree : Tree) (dirs : List Text) : Prop where
  /-- Loading fails on a bad winning file, and on nothing else. -/
  loads : (∃ templates, loadTemplates tree dirs = .ok templates) ↔
    ∀ n tag path, Wins tree dirs n tag path → ∃ template, loadTemplate tree path = .ok template
  /-- A tag gets its winning file, or else what is bundled for it. -/
  template : ∀ templates, loadTemplates tree dirs = .ok templates → ∀ tag template,
    templates.lookup tag = some template ↔
      (∃ n path, Wins tree dirs n tag path ∧ loadTemplate tree path = .ok template) ∨
      ((∀ n path, ¬ Wins tree dirs n tag path) ∧
        ∃ b : Bundled, b.tag = tag ∧ template = ⟨.bundled, b.nodes⟩)
  /-- Files that win no tag can be there or not, and hold anything. -/
  losers : ∀ other, (∀ n tag path, Wins tree dirs n tag path ↔ Wins other dirs n tag path) →
    (∀ n tag path, Wins tree dirs n tag path →
      loadTemplate tree path = loadTemplate other path) →
    loadTemplates tree dirs = loadTemplates other dirs
  /-- Directories can list in any order. -/
  order : ∀ other, Relisted tree other → loadTemplates tree dirs = loadTemplates other dirs ∧
    ∀ moduleDir registry functions,
      Modules.load tree moduleDir registry functions =
        Modules.load other moduleDir registry functions
  /-- Both tables have the tags of the loaded templates, and a tag with a generator resolves
  exactly when it is among them. -/
  tables : ∀ templates, loadTemplates tree dirs = .ok templates →
    ∃ tables, Tables.load tree dirs = .ok tables ∧ ∀ registry functions tag,
      ((⟨dirs, registry, templates, functions⟩ : Modules).hasTemplate tag = true ↔
        (tables.sources.lookup tag).isSome) ∧
      ((tables.sources.lookup tag).isSome ↔ (tables.engine.lookup tag).isSome) ∧
      ((∃ found, (⟨dirs, registry, templates, functions⟩ : Modules).resolve tag = .ok found) ↔
        (registry.get? tag).isSome ∧
          (⟨dirs, registry, templates, functions⟩ : Modules).hasTemplate tag = true)

/-- The templates of a search path are known from which files win their tags and from what these
hold: neither the order in which directories list nor any other file has an effect. -/
theorem templates_known_by_place (tree : Tree) (dirs : List Text) : KnownByPlace tree dirs := by
  refine ⟨exists_loadTemplates_eq_ok_iff, fun _ => lookup_loadTemplates,
    fun _ => loadTemplates_congr, fun other h => ?_, fun templates h => ?_⟩
  · exact ⟨loadTemplates_relisted h dirs, Modules.load_relisted h⟩
  · refine ⟨.ofTemplates templates, ?_, fun registry functions tag => ⟨?_, ?_, ?_⟩⟩
    · rw [Tables.load_eq, h]
      rfl
    · rw [Tables.lookup_sources, Option.isSome_map]
      exact Iff.rfl
    · rw [Tables.lookup_sources, Tables.lookup_engine, Option.isSome_map, Option.isSome_map]
    · exact Modules.exists_resolve_eq_ok_iff

/-- A directory in which a link to a template stands after a file that is no template, and one below
it with another file that is none. -/
def linkedModules : Tree where
  items :=
    [(["m"], .directory), (["m", "g.jinja2"], .file (.text "\x7b\x7b") 0o644),
      (["m", "g.tera"], .link "text"), (["m", "text"], .file (.text "x") 0o644),
      (["m", "s"], .directory), (["m", "s", "g.tera"], .file (.text "\x7b%") 0o644)]

theorem templates_linked_known :
    loadTemplate linkedModules "/m/g.jinja2" = .error (.templateLoad "/m/g.jinja2") ∧
    loadTemplate linkedModules "/m/s/g.tera" = .error (.templateLoad "/m/s/g.tera") ∧
    loadTemplates linkedModules ["/m", "/m/s"] =
      loadTemplates ⟨linkedModules.items.reverse⟩ ["/m", "/m/s"] ∧
    ∃ templates, loadTemplates linkedModules ["/m", "/m/s"] = .ok templates ∧
      ∃ n path, Wins linkedModules ["/m", "/m/s"] n "g" path ∧
        loadTemplate linkedModules path = .ok ⟨.file "/m/g.tera", [.text "x"]⟩ := by
  have h : ∃ templates, loadTemplates linkedModules ["/m", "/m/s"] = .ok templates ∧
      templates.lookup ("g" : Text) = some ⟨.file "/m/g.tera", [.text "x"]⟩ := ⟨_, rfl, rfl⟩
  obtain ⟨templates, hload, hlookup⟩ := h
  have hknown := templates_known_by_place linkedModules ["/m", "/m/s"]
  have hreverse : Relisted linkedModules ⟨linkedModules.items.reverse⟩ :=
    Files.Tree.relisted_of_perm (List.reverse_perm _).symm (by decide)
  refine ⟨rfl, rfl, (hknown.order _ hreverse).1, templates, hload, ?_⟩
  rcases (hknown.template templates hload _ _).1 hlookup with hwins | ⟨-, b, -, hbundled⟩
  · exact hwins
  · cases hbundled

end MapLoom
