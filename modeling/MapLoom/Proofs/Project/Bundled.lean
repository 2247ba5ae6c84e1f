import MapLoom.Proofs.Project.Templates
import MapLoom.Proofs.Template.BundledText

set_option autoImplicit false

/-!
# Rendering with a bundled template

A project uses a bundled template when the tag has the calibration generator and no file wins it.
Rendering then is a matter of the text of that template and of the address map.
-/
namespace MapLoom
open Files (Tree)
open Template (Bundled)

/-- Whether rendering a tag means the calibration scope in what the reader makes of a bundled text.
-/
structure Modules.UsesBundled (ms : Modules) (b : Bundled) : Prop where
  generator : ms.registry.get? b.tag = some calibration
  template : ∃ nodes, Template.ofText? b.text = some nodes ∧
    ms.templates.lookup b.tag = some ⟨.bundled, nodes⟩

theorem Modules.usesBundled_of_load {tree : Tree} {moduleDir : Text} {registry : Registry}
    {functions : SourceFunctions} {ms : Modules} {b : Bundled}
    (hload : Modules.load tree moduleDir registry functions = .ok ms)
    (hgenerator : registry.get? b.tag = some calibration)
    (hwins : ∀ n path, ¬ Wins tree (MapLoom.searchDirs tree moduleDir) n b.tag path) :
    ms.UsesBundled b := by
  unfold Modules.load at hload
  dsimp only at hload
  split at hload
  · rename_i templates htemplates
    cases hload
    refine ⟨hgenerator, b.nodes, Template.ofText?_text b, ?_⟩
    exact (lookup_loadTemplates htemplates _ _).2 (.inr ⟨hwins, b, rfl, rfl⟩)
  · cases hload

@[simp] theorem Registry.builtin_get? (b : Bundled) :
    Registry.builtin.get? b.tag = some calibration := by
  cases b <;> rfl

theorem Modules.exists_load_of_not_isDirectory {tree : Tree} {moduleDir : Text}
    (h : tree.isDirectory moduleDir = false) :
    ∃ ms, Modules.load tree moduleDir .builtin = .ok ms ∧ ∀ b, ms.UsesBundled b := by
  have hdirs : MapLoom.searchDirs tree moduleDir = [] :=
    if_neg (by rw [h]; exact Bool.false_ne_true)
  have hload : ∃ ms, Modules.load tree moduleDir .builtin = .ok ms := by
    unfold Modules.load
    rw [hdirs]
    exact ⟨_, rfl⟩
  obtain ⟨ms, hload⟩ := hload
  refine ⟨ms, hload, fun b => usesBundled_of_load hload (Registry.builtin_get? b) ?_⟩
  rintro n path ⟨⟨dir, hdir, -⟩, -⟩
  rw [hdirs] at hdir
  cases hdir

theorem Modules.UsesBundled.render_toOption {ms : Modules} {b : Bundled} (h : ms.UsesBundled b)
    (source : SchemaSource) :
    (ms.render b.tag source).toOption =
      (Template.render source.scope b.nodes (ms.functions .bundled)).toOption.map normalize := by
  obtain ⟨nodes, hnodes, hlookup⟩ := h.template
  rw [Template.ofText?_text] at hnodes
  cases hnodes
  unfold Modules.render Modules.resolve
  rw [h.generator, hlookup]
  dsimp only [calibration]
  cases Template.render source.scope b.nodes (ms.functions .bundled) <;> rfl

end MapLoom
