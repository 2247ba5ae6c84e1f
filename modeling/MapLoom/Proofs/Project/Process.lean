import MapLoom.Project.Run
import MapLoom.Proofs.Files.Store
import MapLoom.Proofs.Weave.Rescan

set_option autoImplicit false

/-!
# Processing a file

Processing changes at most the file that its path names, and that only when every block of it was
rendered. A file that is generated keeps all that people wrote in it.
-/
namespace MapLoom
open Files (Tree)

namespace Project
variable {p : Project} {tree : Tree} {path : Text}

theorem gate_eq_pass_iff {t : Text} :
    p.gate tree path = .ok (.pass t) ↔ tree.hasPath path = true ∧ tree.isLink path = false ∧
      p.config.inWorklist path = true ∧ tree.read path = .ok t ∧
      hasMarker p.config.sentinel t = true := by
  unfold gate
  split
  · rename_i h
    simp only [Bool.not_eq_true'] at h
    simp [h]
  · rename_i hpath
    simp only [Bool.not_eq_true', Bool.not_eq_false] at hpath
    split
    · rename_i h
      simp [h]
    · rename_i hlink
      split
      · rename_i h
        simp only [Bool.not_eq_true'] at h
        simp [h]
      · rename_i hlist
        simp only [Bool.not_eq_true', Bool.not_eq_false] at hlist
        simp only [Bool.not_eq_true] at hlink
        cases hread : tree.read path with
        | error failure => simp
        | ok u =>
          simp only [hpath, hlink, hlist, Except.ok.injEq, true_and]
          constructor
          · intro h
            split at h
            · rename_i hm
              cases h
              exact ⟨rfl, hm⟩
            · cases h
          · rintro ⟨rfl, hm⟩
            rw [if_pos hm]

theorem gate_ne_skip_generated (n : Nat) : p.gate tree path ≠ .ok (.skip (.generated n)) := by
  unfold gate
  split
  · simp
  · split
    · simp
    · split
      · simp
      · split
        · simp
        · split <;> simp

theorem process_eq_skip_iff {outcome : Outcome} (hgenerated : ∀ n, outcome ≠ .generated n)
    (hunclosed : outcome ≠ .unclosed) :
    (p.process tree path).result = .ok outcome ↔ p.gate tree path = .ok (.skip outcome) := by
  unfold process
  cases p.gate tree path with
  | error e => simp
  | ok g =>
    cases g with
    | skip other => simp
    | pass t =>
      cases hweave : p.weave path t with
      | error e => simp [hweave]
      | ok result =>
        cases result with
        | none => simpa [hweave] using hunclosed.symm
        | some woven => simpa [hweave] using (hgenerated woven.1).symm

theorem renderBlocks_eq_ok_iff {blocks : List Block} {contents : List Text} :
    p.renderBlocks blocks = .ok contents ↔
      blocks.map (fun b => p.modules.render b.tag p.source) = contents.map .ok := by
  induction blocks generalizing contents with
  | nil => cases contents <;> simp [renderBlocks]
  | cons b blocks ih =>
    unfold renderBlocks
    cases hb : p.modules.render b.tag p.source with
    | error e => cases contents <;> simp [bind, Except.bind, hb]
    | ok content =>
      cases hrest : p.renderBlocks blocks with
      | error e =>
        cases contents with
        | nil => simp [bind, Except.bind]
        | cons c cs =>
          have hne : ¬ p.renderBlocks blocks = .ok cs := by simp [hrest]
          rw [ih] at hne
          simp [bind, Except.bind, hne]
      | ok rest =>
        cases contents with
        | nil => simp [bind, Except.bind, pure, Except.pure]
        | cons c cs =>
          have hiff := @ih cs
          rw [hrest] at hiff
          simp only [bind, Except.bind, pure, Except.pure, Except.ok.injEq, List.cons.injEq,
            List.map_cons, hb]
          rw [← hiff, Except.ok.injEq]

theorem weave_eq_ok_some_iff {t woven : Text} {n : Nat} :
    p.weave path t = .ok (some (n, woven)) ↔ ∃ scanned contents,
      scan p.config.sentinel t = .ok scanned ∧ scanned.blocks ≠ [] ∧
      p.renderBlocks scanned.blocks = .ok contents ∧ n = scanned.blocks.length ∧
      woven = assemble scanned.spans contents := by
  unfold weave
  cases hscan : scan p.config.sentinel t with
  | error e => simp
  | ok scanned =>
    by_cases hblocks : scanned.blocks = []
    · simp [hblocks]
    · cases hrender : p.renderBlocks scanned.blocks with
      | error e => simp [hblocks, hrender]
      | ok contents => simp [hblocks, hrender, eq_comm]

/-- What weaving comes to does not depend on the path, which is only told in errors. -/
theorem weave_ok_congr {t : Text} {r : Option (Nat × Text)} (h : p.weave path t = .ok r)
    (other : Text) : p.weave other t = .ok r := by
  unfold weave at h ⊢
  cases hscan : scan p.config.sentinel t with
  | error e =>
    rw [hscan] at h
    cases h
  | ok scanned =>
    rw [hscan] at h
    exact h

section
variable {sentinel : Text} {slots : List (Slot sentinel)} {contents : List Text}

theorem length_eq_of_rendered
    (h : slots.map (fun s => p.modules.render s.tag p.source) = contents.map .ok) :
    contents.length = slots.length := by
  simpa using (congrArg List.length h).symm

theorem exists_slot_of_rendered
    (h : slots.map (fun s => p.modules.render s.tag p.source) = contents.map .ok)
    {content : Text} (hc : content ∈ contents) :
    ∃ s ∈ slots, p.modules.render s.tag p.source = .ok content := by
  have hok : .ok content ∈ contents.map (.ok : Text → Except RunError Text) :=
    List.mem_map_of_mem hc
  rw [← h] at hok
  exact List.mem_map.1 hok

end

/-- A text that is woven is a frame, and what is woven puts the rendered contents in its slots. -/
theorem exists_frame_of_weave {t woven : Text} {n : Nat}
    (h : p.weave path t = .ok (some (n, woven))) :
    ∃ (f : Frame p.config.sentinel) (interiors : List (List Text)) (contents : List Text),
      f.Fits interiors ∧ t.lines = f.fill interiors ∧ f.slots.length = n ∧ 1 ≤ n ∧
      f.slots.map (fun s => p.modules.render s.tag p.source) = contents.map .ok ∧
      woven = interleave f.spans (inserted f.spans contents) := by
  obtain ⟨scanned, contents, hscan, hblocks, hrender, rfl, rfl⟩ := weave_eq_ok_some_iff.1 h
  rcases scan_cases hscan with ⟨f, interiors, hfits, ht, rfl⟩ | rfl
  · have hlen := hfits.length_blocks
    have hpos := List.length_pos_iff.2 hblocks
    refine ⟨f, interiors, contents, hfits, ht, hlen.symm, hpos, ?_, assemble_eq_interleave _ _⟩
    have htags := congrArg (List.map fun tag => p.modules.render tag p.source) hfits.tags_blocks
    rw [List.map_map, List.map_map] at htags
    exact htags.symm.trans (renderBlocks_eq_ok_iff.1 hrender)
  · exact absurd rfl hblocks

theorem weave_of_frame (path : Text) {t : Text} {f : Frame p.config.sentinel}
    {interiors : List (List Text)} {contents : List Text} (hfits : f.Fits interiors) (ht : t.lines = f.fill interiors)
    (hslots : f.slots ≠ [])
    (hrender : f.slots.map (fun s => p.modules.render s.tag p.source) = contents.map .ok) :
    p.weave path t =
      .ok (some (f.slots.length, interleave f.spans (inserted f.spans contents))) := by
  have hlen := hfits.length_blocks
  have htags := congrArg (List.map fun tag => p.modules.render tag p.source) hfits.tags_blocks
  rw [List.map_map, List.map_map] at htags
  refine weave_eq_ok_some_iff.2 ⟨_, contents, scan_of_lines_eq_fill ht hfits, ?_,
    renderBlocks_eq_ok_iff.2 (htags.trans hrender), hlen.symm, (assemble_eq_interleave _ _).symm⟩
  exact List.length_pos_iff.1 (hlen ▸ List.length_pos_iff.2 hslots)

theorem process_of_weave {loc : Files.Location} {old woven : Text} {mode n : Nat}
    (hnames : tree.Names path loc) (hitem : tree.item? loc = some (.file (.text old) mode))
    (hgate : p.gate tree path = .ok (.pass old))
    (hweave : p.weave path old = .ok (some (n, woven))) :
    p.process tree path = ⟨.ok (.generated n), [.autogenerating path],
      tree.set loc (.file (.text woven) mode)⟩ := by
  unfold process
  simp only [hgate, hweave, Tree.store_eq_write, Tree.write_eq_set hnames.2 hitem]

/-- The only change that processing makes is the new text of the file that the path names. -/
theorem process_cases (p : Project) (tree : Tree) (path : Text) :
    ((p.process tree path).tree = tree ∧
      ∀ n, (p.process tree path).result ≠ .ok (.generated n)) ∨
    ∃ loc old mode n woven, tree.Names path loc ∧
      tree.item? loc = some (.file (.text old) mode) ∧ p.gate tree path = .ok (.pass old) ∧
      p.weave path old = .ok (some (n, woven)) ∧
      p.process tree path = ⟨.ok (.generated n), [.autogenerating path],
        tree.set loc (.file (.text woven) mode)⟩ := by
  cases hgate : p.gate tree path with
  | error e => exact .inl (by simp [process, hgate])
  | ok g =>
    cases g with
    | skip outcome =>
      refine .inl ⟨by simp only [process, hgate], fun n h => ?_⟩
      simp only [process, hgate, Except.ok.injEq] at h
      subst h
      exact gate_ne_skip_generated n hgate
    | pass old =>
      cases hweave : p.weave path old with
      | error e => exact .inl (by simp [process, hgate, hweave])
      | ok result =>
        cases result with
        | none => exact .inl (by simp [process, hgate, hweave])
        | some result =>
          obtain ⟨n, woven⟩ := result
          obtain ⟨_, hlink, _, hread, _⟩ := gate_eq_pass_iff.1 hgate
          obtain ⟨loc, mode, hloc, hitem⟩ := Tree.read_eq_ok_iff.1 hread
          exact .inr ⟨loc, old, mode, n, woven, ⟨hlink, hloc⟩, hitem, rfl, hweave,
            process_of_weave ⟨hlink, hloc⟩ hitem hgate hweave⟩

/-- A file that is generated keeps its frame: the old text and the new one are the same spans with
other texts between the markers, and the new texts are what the tags of the slots render to. -/
theorem process_generated_keeps_frame (p : Project) (tree : Tree) (path : Text) (n : Nat)
    (h : (p.process tree path).result = .ok (.generated n)) :
    1 ≤ n ∧ ∃ (f : Frame p.config.sentinel) (interiors : List (List Text)) (contents : List Text)
        (old new : Text),
      f.slots.length = n ∧ f.Fits interiors ∧
      tree.read path = .ok old ∧ (p.process tree path).tree.read path = .ok new ∧
      old.lines = f.fill interiors ∧
      f.slots.map (fun s => p.modules.render s.tag p.source) = contents.map .ok ∧
      old = interleave f.spans (interiors.map List.flatten) ∧
      new = interleave f.spans (List.zipWith Slot.adapt f.slots contents) := by
  rcases p.process_cases tree path with ⟨-, hne⟩ | ⟨loc, old, mode, m, woven, hnames, hitem, hgate,
    hweave, hprocess⟩
  · exact absurd h (hne n)
  · rw [hprocess] at h ⊢
    cases h
    obtain ⟨f, interiors, contents, hfits, hold, hlen, hpos, hrender, hwoven⟩ :=
      exists_frame_of_weave hweave
    have hcontents := length_eq_of_rendered hrender
    obtain ⟨-, -, -, hread, -⟩ := gate_eq_pass_iff.1 hgate
    refine ⟨hpos, f, interiors, contents, old, woven, hlen, hfits, hread,
      Tree.read_set_of_names hnames hitem woven, hold, hrender,
      Frame.eq_interleave_spans hold hfits, ?_⟩
    rw [hwoven, Frame.spans, inserted_spansFrom [] f.slots f.tail hcontents]

def sample : Project where
  config := { Config.forRoot "/" with sentinel := "@", worklist := ["a", "b", "c"] }
  source := ⟨"/map.yml", .ofEntries [] []⟩
  modules :=
    ⟨[], Registry.empty.register "g" calibration, [("g", ⟨.bundled, [.text "x\ny "]⟩)], .random 0⟩

def sampleTree : Tree where
  items :=
    [(["a"], .file (.text "p\n@ | g \x7b\r\nold\n@ \x7d\nq") 0o644),
      (["b"], .file (.text "@ | h \x7b\n@ \x7d\n") 0o600),
      (["c"], .file (.text "@ | g \x7b\n@ \x7d\n") 0o600)]

theorem process_sample_keeps_frame :
    (sample.process sampleTree "/a").result = .ok (.generated 1) ∧
    ∃ (f : Frame sample.config.sentinel) (contents : List Text), f.slots.length = 1 ∧
      (sample.process sampleTree "/a").tree.read "/a" =
        .ok (interleave f.spans (List.zipWith Slot.adapt f.slots contents)) := by
  have h : (sample.process sampleTree "/a").result = .ok (.generated 1) := rfl
  obtain ⟨-, f, -, contents, -, new, hlen, -, -, hnew, -, -, -, rfl⟩ :=
    process_generated_keeps_frame sample sampleTree "/a" 1 h
  exact ⟨h, f, contents, hlen, hnew⟩

end Project
end MapLoom
