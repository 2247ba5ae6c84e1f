import MapLoom.Proofs.Project.Process
import MapLoom.Proofs.Weave.Spelling

set_option autoImplicit false

/-!
# What the gate ignores

The gate finds markers by a pattern of its own. A target file is ignored exactly when none of its
lines has that pattern, which is more than the files without an opening marker: an opening marker
without one of the blanks of the pattern is ignored too, although a scan finds its block.
-/
namespace MapLoom
open Files (Tree)

namespace Project
variable {p : Project} {tree : Tree} {path t : Text}

/-- Whether a path names a file of the worklist that is no link and has a text. -/
structure Target (p : Project) (tree : Tree) (path t : Text) : Prop where
  isLink : tree.isLink path = false
  inWorklist : p.config.inWorklist path = true
  read : tree.read path = .ok t

theorem Target.hasPath (h : p.Target tree path t) : tree.hasPath path = true := by
  obtain ⟨loc, mode, hloc, hitem⟩ := Tree.read_eq_ok_iff.1 h.read
  simp [Tree.hasPath, Tree.find?, hloc, hitem]

theorem Target.gate_eq (h : p.Target tree path t) :
    p.gate tree path = .ok (if hasMarker p.config.sentinel t then .pass t else .skip .ignored) := by
  simp [gate, h.hasPath, h.isLink, h.inWorklist, h.read]

theorem gate_eq_skip_ignored_iff :
    p.gate tree path = .ok (.skip .ignored) ↔
      ∃ t, p.Target tree path t ∧ hasMarker p.config.sentinel t = false := by
  constructor
  · intro h
    unfold gate at h
    split at h
    · cases h
    · split at h
      · cases h
      · rename_i hlink
        split at h
        · cases h
        · rename_i hlist
          cases hread : tree.read path with
          | error failure =>
            rw [hread] at h
            cases h
          | ok t =>
            refine ⟨t, ⟨by simpa using hlink, by simpa using hlist, hread⟩, ?_⟩
            rw [hread] at h
            by_contra hmarker
            rw [Bool.not_eq_false] at hmarker
            simp [hmarker] at h
  · rintro ⟨t, htarget, hmarker⟩
    rw [htarget.gate_eq, hmarker]
    rfl

theorem process_eq_ignored_iff :
    (p.process tree path).result = .ok .ignored ↔
      ∃ t, p.Target tree path t ∧ hasMarker p.config.sentinel t = false :=
  (process_eq_skip_iff (by simp) (by simp)).trans gate_eq_skip_ignored_iff

/-- A target file is ignored when none of its lines is spaced. So its opening markers, as far as
they name a generator, are all tight: an opening marker with the blanks of the pattern is never
ignored. -/
theorem process_ignores_unspaced (p : Project) (tree : Tree) (path : Text)
    (hlf : '\n' ∉ p.config.sentinel) :
    ((p.process tree path).result = .ok .ignored ↔
      ∃ t, p.Target tree path t ∧ ∀ line ∈ t.lines, ¬ Spaced p.config.sentinel line) ∧
    ∀ t, p.Target tree path t → (p.process tree path).result = .ok .ignored →
      ∀ line ∈ t.lines, LineKind.ofLine p.config.sentinel line = .opening →
        ∀ tag, markerTag line = .ok tag → Tight p.config.sentinel line := by
  have hignored : (p.process tree path).result = .ok .ignored ↔
      ∃ t, p.Target tree path t ∧ ∀ line ∈ t.lines, ¬ Spaced p.config.sentinel line := by
    rw [process_eq_ignored_iff]
    refine exists_congr fun t => and_congr_right fun _ => ?_
    rw [← Bool.not_eq_true, hasMarker_iff_exists_spaced hlf]
    push Not
    rfl
  refine ⟨hignored, fun t htarget hresult line hline _ tag htag => ?_⟩
  obtain ⟨u, hu, hunspaced⟩ := hignored.1 hresult
  obtain rfl : t = u := Except.ok.inj (htarget.read.symm.trans hu.read)
  exact (not_spaced_iff_tight htag).1 (hunspaced line hline)

def tightText : Text := "@ |g\x7b\nold\n@ \x7d\n"

def tightTree : Tree := ⟨[(["a"], .file (.text tightText) 0o644)]⟩

theorem target_tight : sample.Target tightTree "/a" tightText := ⟨rfl, rfl, rfl⟩

theorem process_tight_ignored :
    '\n' ∉ sample.config.sentinel ∧ sample.Target tightTree "/a" tightText ∧
    (sample.process tightTree "/a").result = .ok .ignored ∧ "@ |g\x7b\n".toList ∈ tightText.lines ∧
    LineKind.ofLine sample.config.sentinel "@ |g\x7b\n" = .opening ∧
    markerTag "@ |g\x7b\n" = .ok "g" ∧ Tight sample.config.sentinel "@ |g\x7b\n" := by
  have hresult : (sample.process tightTree "/a").result = .ok .ignored := rfl
  have hmem : "@ |g\x7b\n".toList ∈ tightText.lines := by decide
  have htight := (process_ignores_unspaced sample tightTree "/a" (by decide)).2 tightText
    target_tight hresult _ hmem rfl "g" rfl
  exact ⟨by decide, target_tight, hresult, hmem, rfl, rfl, htight⟩

/-- A file is ignored although it has an opening marker, and although a scan finds its block. -/
theorem not_all_ignored_without_opening :
    ¬ ∀ (p : Project) (tree : Tree) (path t : Text), '\n' ∉ p.config.sentinel →
      '\r' ∉ p.config.sentinel → p.Target tree path t →
      (p.process tree path).result = .ok .ignored →
      (∀ line ∈ t.lines, LineKind.ofLine p.config.sentinel line ≠ .opening) ∧
        ∀ s, scan p.config.sentinel t = .ok s → s.blocks = [] := by
  intro h
  obtain ⟨-, hblocks⟩ := h sample tightTree "/a" tightText (by decide) (by decide) target_tight rfl
  have hscan : scan sample.config.sentinel tightText =
      .ok ⟨[⟨0, 2, "g"⟩], ["@ |g\x7b\n", "@ \x7d\n"]⟩ := rfl
  exact absurd (hblocks _ hscan) (by simp)

end Project
end MapLoom
