import MapLoom.Proofs.Project.Runs
import MapLoom.Proofs.Template.Calls

set_option autoImplicit false

/-!
# The same project later

Between two runs nothing of a project changes but what functions give. A block is steady when it
renders to the same all the same, as it does when its template calls no function; while all blocks
are, a run at another time is the same run.
-/
namespace MapLoom
open Files (Tree)

namespace Project
variable {p : Project} {tree : Tree} {path t tag content : Text} {functions : SourceFunctions}

def Renders (p : Project) (t tag content : Text) : Prop :=
  ∃ scanned, scan p.config.sentinel t = .ok scanned ∧ tag ∈ scanned.blocks.map Block.tag ∧
    p.modules.render tag p.source = .ok content

/-- Whether a block is rendered while paths are processed one after the other. -/
inductive RendersDuring (p : Project) : Tree → List Text → Text → Text → Prop
  | here {tree : Tree} {path t tag content : Text} {paths : List Text}
      (pass : p.gate tree path = .ok (.pass t)) (renders : p.Renders t tag content) :
      RendersDuring p tree (path :: paths) tag content
  | later {tree : Tree} {path tag content : Text} {paths : List Text}
      (rest : RendersDuring p (p.process tree path).tree paths tag content) :
      RendersDuring p tree (path :: paths) tag content

/-- Whether a tag that renders to a content does so also when functions give something else. -/
inductive Steady (p : Project) (functions : SourceFunctions) (tag content : Text) : Prop
  | callFree {template : LoadedTemplate}
      (hlookup : p.modules.templates.lookup tag = some template)
      (hfree : Template.allCallFree template.nodes = true)
  | same (h : (p.later functions).modules.render tag p.source = .ok content)

theorem later_render_of_callFree {template : LoadedTemplate}
    (hlookup : p.modules.templates.lookup tag = some template)
    (hfree : Template.allCallFree template.nodes = true) (functions : SourceFunctions) :
    (p.later functions).modules.render tag p.source = p.modules.render tag p.source := by
  unfold Modules.render
  rw [show (p.later functions).modules.resolve tag = p.modules.resolve tag from rfl]
  cases hresolve : p.modules.resolve tag with
  | error e => rfl
  | ok found =>
    obtain ⟨g, loaded⟩ := found
    have hloaded : loaded = template := by
      unfold Modules.resolve at hresolve
      rw [hlookup] at hresolve
      split at hresolve
      · rename_i hsome
        cases hsome
        cases hresolve
        rfl
      · cases hresolve
    subst hloaded
    dsimp only
    cases g p.source with
    | error e => rfl
    | ok scope =>
      dsimp only
      rw [Template.render_eq_of_callFree hfree _ (p.modules.functions loaded.source)]

theorem Steady.render (h : p.Steady functions tag content)
    (hrender : p.modules.render tag p.source = .ok content) :
    (p.later functions).modules.render tag p.source = .ok content := by
  cases h with
  | callFree hlookup hfree => exact (later_render_of_callFree hlookup hfree functions).trans hrender
  | same h => exact h

theorem renderBlocks_later {blocks : List Block} {contents : List Text}
    (h : p.renderBlocks blocks = .ok contents)
    (hsteady : ∀ b ∈ blocks, ∀ content, p.modules.render b.tag p.source = .ok content →
      p.Steady functions b.tag content) :
    (p.later functions).renderBlocks blocks = .ok contents := by
  rw [renderBlocks_eq_ok_iff] at h ⊢
  rw [← h]
  refine List.map_congr_left fun b hb => ?_
  have hmem := List.mem_map_of_mem (f := fun b => p.modules.render b.tag p.source) hb
  rw [h] at hmem
  obtain ⟨content, -, hcontent⟩ := List.mem_map.1 hmem
  exact ((hsteady b hb content hcontent.symm).render hcontent.symm).trans hcontent

theorem weave_later {r : Option (Nat × Text)} (h : p.weave path t = .ok r)
    (hsteady : ∀ tag content, p.Renders t tag content → p.Steady functions tag content) :
    (p.later functions).weave path t = .ok r := by
  unfold weave at h ⊢
  rw [show (p.later functions).config = p.config from rfl]
  cases hscan : scan p.config.sentinel t with
  | error e =>
    rw [hscan] at h
    cases h
  | ok scanned =>
    simp only [hscan] at h ⊢
    by_cases hblocks : scanned.blocks = []
    · rw [if_pos hblocks] at h ⊢
      exact h
    · rw [if_neg hblocks] at h ⊢
      cases hrender : p.renderBlocks scanned.blocks with
      | error e =>
        rw [hrender] at h
        cases h
      | ok contents =>
        rw [hrender] at h
        rw [renderBlocks_later hrender fun b hb content hcontent =>
          hsteady b.tag content ⟨scanned, hscan, List.mem_map_of_mem hb, hcontent⟩]
        exact h

theorem process_later {outcome : Outcome} (h : (p.process tree path).result = .ok outcome)
    (hsteady : ∀ t tag content, p.gate tree path = .ok (.pass t) → p.Renders t tag content →
      p.Steady functions tag content) :
    (p.later functions).process tree path = p.process tree path := by
  unfold process at h ⊢
  rw [show (p.later functions).gate tree path = p.gate tree path from rfl]
  cases hgate : p.gate tree path with
  | error e => rfl
  | ok g =>
    cases g with
    | skip outcome => rfl
    | pass t =>
      simp only [hgate] at h ⊢
      cases hweave : p.weave path t with
      | error e =>
        rw [hweave] at h
        cases h
      | ok r =>
        rw [weave_later hweave fun tag content => hsteady t tag content hgate]
        rfl

theorem exists_render_of_process {outcome : Outcome} {scanned : Scanned}
    (h : (p.process tree path).result = .ok outcome) (hgate : p.gate tree path = .ok (.pass t))
    (hscan : scan p.config.sentinel t = .ok scanned) (htag : tag ∈ scanned.blocks.map Block.tag) :
    ∃ content, p.modules.render tag p.source = .ok content := by
  obtain ⟨b, hb, rfl⟩ := List.mem_map.1 htag
  have hblocks : scanned.blocks ≠ [] := List.ne_nil_of_mem hb
  simp only [process, hgate, weave, hscan, if_neg hblocks] at h
  cases hrender : p.renderBlocks scanned.blocks with
  | error e =>
    rw [hrender] at h
    cases h
  | ok contents =>
    have hmem := List.mem_map_of_mem (f := fun b => p.modules.render b.tag p.source) hb
    rw [renderBlocks_eq_ok_iff.1 hrender] at hmem
    obtain ⟨content, -, hcontent⟩ := List.mem_map.1 hmem
    exact ⟨content, hcontent.symm⟩

section Runs
variable {paths : List Text} {report : List (Text × Outcome)}

theorem exists_results_of_cons (h : (p.runPaths tree (path :: paths)).result = .ok report) :
    ∃ outcome rest, (p.process tree path).result = .ok outcome ∧
      (p.runPaths (p.process tree path).tree paths).result = .ok rest := by
  cases hresult : (p.process tree path).result with
  | error e =>
    rw [runPaths_cons_error hresult] at h
    cases h
  | ok outcome =>
    rw [runPaths_cons_ok hresult] at h
    cases hrest : (p.runPaths (p.process tree path).tree paths).result with
    | error e =>
      simp only [hrest] at h
      cases h
    | ok rest => exact ⟨outcome, rest, rfl, rfl⟩

/-- While all blocks are steady, a run that succeeds is the same at another time. -/
theorem runPaths_later (h : (p.runPaths tree paths).result = .ok report)
    (hsteady : ∀ tag content, p.RendersDuring tree paths tag content →
      p.Steady functions tag content) :
    (p.later functions).runPaths tree paths = p.runPaths tree paths := by
  induction paths generalizing tree report with
  | nil => rfl
  | cons path paths ih =>
    obtain ⟨outcome, rest, hresult, hrest⟩ := exists_results_of_cons h
    have hprocess := process_later hresult fun t tag content hpass hrenders =>
      hsteady tag content (.here hpass hrenders)
    have hrun := ih hrest fun tag content hrenders => hsteady tag content (.later hrenders)
    rw [runPaths_cons_ok hresult, runPaths_cons_ok (hprocess ▸ hresult), hprocess, hrun]

theorem RendersDuring.of_later (h : (p.runPaths tree paths).result = .ok report)
    (hsteady : ∀ tag content, p.RendersDuring tree paths tag content →
      p.Steady functions tag content)
    (hrenders : (p.later functions).RendersDuring tree paths tag content) :
    p.RendersDuring tree paths tag content := by
  induction paths generalizing tree report with
  | nil => cases hrenders
  | cons path paths ih =>
    obtain ⟨outcome, rest, hresult, hrest⟩ := exists_results_of_cons h
    cases hrenders with
    | here hpass hrenders =>
      obtain ⟨scanned, hscan, htag, hlater⟩ := hrenders
      obtain ⟨first, hfirst⟩ := exists_render_of_process hresult hpass hscan htag
      have hhere : p.RendersDuring tree (path :: paths) tag first :=
        .here hpass ⟨scanned, hscan, htag, hfirst⟩
      have hsame := (hsteady tag first hhere).render hfirst
      cases hsame.symm.trans hlater
      exact hhere
    | later hrenders =>
      have hprocess := process_later hresult fun t tag content hpass hrenders =>
        hsteady tag content (.here hpass hrenders)
      rw [hprocess] at hrenders
      exact .later (ih hrest (fun tag content hrenders => hsteady tag content (.later hrenders))
        hrenders)

end Runs

end Project
end MapLoom
