import MapLoom.Proofs.Project.Process
import MapLoom.Proofs.Weave.Pairs

set_option autoImplicit false

/-!
# Files with an open block

What passes the gate has a marker line. So a file without blocks in it is one whose last marker
opens a block that is never closed, and of a file with pairs of markers every pair is generated.
-/
namespace MapLoom
open Files (Tree)

namespace Project
variable {p : Project} {tree : Tree} {path t : Text}

theorem weave_eq_ok_none_iff :
    p.weave path t = .ok none ↔ ∃ s, scan p.config.sentinel t = .ok s ∧ s.blocks = [] := by
  unfold weave
  cases scan p.config.sentinel t with
  | error e => simp
  | ok s =>
    by_cases hblocks : s.blocks = []
    · simp [hblocks]
    · cases hrender : p.renderBlocks s.blocks with
      | error e => simp [hblocks, hrender]
      | ok contents => simp [hblocks, hrender]

theorem process_eq_unclosed_iff (hgate : p.gate tree path = .ok (.pass t)) :
    (p.process tree path).result = .ok .unclosed ↔ p.weave path t = .ok none := by
  unfold process
  rw [hgate]
  dsimp only
  cases p.weave path t with
  | error e => simp
  | ok result => cases result <;> simp

theorem process_tree_of_unclosed (h : (p.process tree path).result = .ok .unclosed) :
    (p.process tree path).tree = tree := by
  rcases p.process_cases tree path with ⟨htree, -⟩ | ⟨_, _, _, _, _, -, -, -, -, hprocess⟩
  · exact htree
  · rw [hprocess] at h
    cases h

theorem process_of_balanced (hgate : p.gate tree path = .ok (.pass t)) {n : Nat} (hpos : 0 < n)
    (h : Balanced p.config.sentinel (markersFrom p.config.sentinel 0 t.lines) n) :
    (∃ e, (p.process tree path).result = .error e) ∨
      (p.process tree path).result = .ok (.generated n) := by
  cases hweave : p.weave path t with
  | error e => exact .inl ⟨e, by simp [process, hgate, hweave]⟩
  | ok result =>
    cases result with
    | none =>
      obtain ⟨s, hscan, hblocks⟩ := weave_eq_ok_none_iff.1 hweave
      have hlength := length_blocks_of_balanced hscan h
      rw [hblocks, List.length_nil] at hlength
      omega
    | some woven =>
      obtain ⟨m, woven⟩ := woven
      obtain ⟨s, _, hscan, -, -, rfl, -⟩ := weave_eq_ok_some_iff.1 hweave
      have hlength := length_blocks_of_balanced hscan h
      refine .inr ?_
      simp [process, hgate, hweave, hlength]

/-- What passes the gate has a marker. It is unclosed when its markers are pairs and one opening
marker after them, and then it stays as it is; pairs of markers without that are all generated. -/
theorem process_unclosed_iff_dangling (p : Project) (tree : Tree) (path t : Text)
    (hlf : '\n' ∉ p.config.sentinel) (hgate : p.gate tree path = .ok (.pass t)) :
    markersFrom p.config.sentinel 0 t.lines ≠ [] ∧
    ((p.process tree path).result = .ok .unclosed ↔
      Dangling p.config.sentinel (markersFrom p.config.sentinel 0 t.lines) ∧
        Named p.config.sentinel (markersFrom p.config.sentinel 0 t.lines)) ∧
    ((p.process tree path).result = .ok .unclosed → (p.process tree path).tree = tree) ∧
    ∀ n, Balanced p.config.sentinel (markersFrom p.config.sentinel 0 t.lines) n →
      (p.process tree path).result ≠ .ok .unclosed ∧
      ((∃ e, (p.process tree path).result = .error e) ∨
        (p.process tree path).result = .ok (.generated n)) := by
  obtain ⟨-, -, -, -, hmarker⟩ := gate_eq_pass_iff.1 hgate
  have hne := markersFrom_ne_nil hlf hmarker
  refine ⟨hne, ?_, process_tree_of_unclosed, fun n hbalanced => ?_⟩
  · rw [process_eq_unclosed_iff hgate, weave_eq_ok_none_iff, scan_blocks_eq_nil_iff hne]
  · have hpos : 0 < n := by
      have hlength := hbalanced.length_eq
      have hmarkers := List.length_pos_iff.2 hne
      omega
    have hresult := process_of_balanced hgate hpos hbalanced
    refine ⟨fun hunclosed => ?_, hresult⟩
    rw [hunclosed] at hresult
    simp at hresult

def openText : Text := "@ | g \x7b\nold\n@ \x7d\n@ | h \x7b\nleft\n"

def openTree : Tree := ⟨[(["a"], .file (.text openText) 0o644)]⟩

theorem process_open_unclosed :
    sample.gate openTree "/a" = .ok (.pass openText) ∧ '\n' ∉ sample.config.sentinel ∧
    (sample.process openTree "/a").result = .ok .unclosed ∧
    (sample.process openTree "/a").tree = openTree ∧
    Dangling sample.config.sentinel (markersFrom sample.config.sentinel 0 openText.lines) := by
  have hgate : sample.gate openTree "/a" = .ok (.pass openText) := rfl
  have hresult : (sample.process openTree "/a").result = .ok .unclosed := rfl
  obtain ⟨-, hiff, htree, -⟩ :=
    process_unclosed_iff_dangling sample openTree "/a" openText (by decide) hgate
  exact ⟨hgate, by decide, hresult, htree hresult, (hiff.1 hresult).1⟩

end Project
end MapLoom
