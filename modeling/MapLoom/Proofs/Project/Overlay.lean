import MapLoom.Project.Settings
import MapLoom.Proofs.Files.Path

set_option autoImplicit false

/-!
# Settings laid over a configuration

Each key of a configuration file decides one setting. What is set comes out the same whatever was
there before, as long as the root is the same, and what is not set stays, so it makes no difference
whether settings are laid over a configuration once or twice.
-/
namespace MapLoom
open Files (isAbsolute)

inductive Key
  | moduleDir
  | yamlPath
  | sentinel
  | worklist
  | atomicWrite
  | addressSpace
  deriving DecidableEq

def Key.text : Key → Text
  | .moduleDir => "module-dir"
  | .yamlPath => "yaml-path"
  | .sentinel => "sentinel"
  | .worklist => "worklist"
  | .atomicWrite => "atomic-write"
  | .addressSpace => "address-space-size"

def Config.SameAt (c d : Config) : Key → Prop
  | .moduleDir => c.moduleDir = d.moduleDir
  | .yamlPath => c.yamlPath = d.yamlPath
  | .sentinel => c.sentinel = d.sentinel
  | .worklist => c.worklist = d.worklist
  | .atomicWrite => c.atomicWrite = d.atomicWrite
  | .addressSpace => c.addressSpace = d.addressSpace

theorem Config.eq_of_sameAt {c d : Config} (hroot : c.projectRoot = d.projectRoot)
    (h : ∀ k, c.SameAt d k) : c = d := by
  cases c
  cases d
  rw [Config.mk.injEq]
  exact ⟨hroot, h .moduleDir, h .yamlPath, h .sentinel, h .worklist, h .atomicWrite,
    h .addressSpace⟩

namespace Settings

def SameAt (s t : Settings) : Key → Prop
  | .moduleDir => s.moduleDir = t.moduleDir
  | .yamlPath => s.yamlPath = t.yamlPath
  | .sentinel => s.sentinel = t.sentinel
  | .worklist => s.worklist = t.worklist
  | .atomicWrite => s.atomicWrite = t.atomicWrite
  | .addressSpace => s.addressSpace = t.addressSpace

def IsUnset (s : Settings) (k : Key) : Prop := s.SameAt .none k

/-- What can be relied on when settings are laid over a configuration. -/
structure LiesOver (s : Settings) (home : Option Text) : Prop where
  again : ∀ c, s.apply home (s.apply home c) = s.apply home c
  projectRoot : ∀ c, (s.apply home c).projectRoot = c.projectRoot
  unset : ∀ c k, s.IsUnset k → (s.apply home c).SameAt c k
  /-- Settings that differ under one key only make a difference to one setting. -/
  single : ∀ c t k, (∀ other, other ≠ k → s.SameAt t other) →
    ∀ other, other ≠ k → (s.apply home c).SameAt (t.apply home c) other
  absolute : ∀ root, isAbsolute root = true →
    isAbsolute (s.apply home (.forRoot root)).moduleDir = true ∧
      isAbsolute (s.apply home (.forRoot root)).yamlPath = true

section
variable {s t : Settings} {home : Option Text} {c d : Config} {k : Key}

theorem apply_none (home : Option Text) (c : Config) : Settings.none.apply home c = c := rfl

theorem apply_sameAt (h : s.SameAt t k) (home : Option Text) (c : Config) :
    (s.apply home c).SameAt (t.apply home c) k := by
  cases k <;> simp only [SameAt] at h <;> simp only [Config.SameAt, apply, h]

theorem apply_sameAt_of_set (h : ¬ s.IsUnset k) (hroot : c.projectRoot = d.projectRoot) :
    (s.apply home c).SameAt (s.apply home d) k := by
  cases k with
  | moduleDir =>
    obtain ⟨dir, hdir⟩ := Option.ne_none_iff_exists'.1 h
    simp only [Config.SameAt, apply, hdir, Config.resolve, hroot]
  | yamlPath =>
    obtain ⟨path, hpath⟩ := Option.ne_none_iff_exists'.1 h
    simp only [Config.SameAt, apply, hpath, Config.resolve, hroot]
  | sentinel =>
    obtain ⟨sentinel, hsentinel⟩ := Option.ne_none_iff_exists'.1 h
    simp only [Config.SameAt, apply, hsentinel, Option.getD_some]
  | worklist =>
    have hne : s.worklist ≠ [] := h
    simp only [Config.SameAt, apply, if_neg hne]
  | atomicWrite =>
    obtain ⟨atomic, hatomic⟩ := Option.ne_none_iff_exists'.1 h
    simp only [Config.SameAt, apply, hatomic, Option.getD_some]
  | addressSpace =>
    obtain ⟨size, hsize⟩ := Option.ne_none_iff_exists'.1 h
    simp only [Config.SameAt, apply, hsize, Option.orElse_eq_orElse, Option.orElse_some]

theorem apply_sameAt_of_unset (h : s.IsUnset k) : (s.apply home c).SameAt c k := by
  have hnone := apply_sameAt h home c
  rwa [apply_none] at hnone

theorem apply_apply (s : Settings) (home : Option Text) (c : Config) :
    s.apply home (s.apply home c) = s.apply home c := by
  refine Config.eq_of_sameAt rfl fun k => ?_
  by_cases h : s.IsUnset k
  · exact apply_sameAt_of_unset h
  · exact apply_sameAt_of_set h rfl

theorem liesOver (s : Settings) (home : Option Text) : s.LiesOver home where
  again := s.apply_apply home
  projectRoot _ := rfl
  unset _ _ := apply_sameAt_of_unset
  single c _ _ h other hother := apply_sameAt (h other hother) home c
  absolute root hroot := by
    have hpath : ∀ path, isAbsolute (Files.joinPath root path) = true := fun _ =>
      Files.isAbsolute_joinPath hroot
    unfold apply
    dsimp only
    constructor
    · split
      · exact hpath _
      · simp only [Config.forRoot, hpath]
    · split
      · exact hpath _
      · simp only [Config.forRoot, hpath]

end

section Tables
variable {entries others : List (Text × Toml.Value)} {s t : Settings} {k : Key}

/-- Whether settings are what a table holds under the keys. -/
structure ReadFrom (entries : List (Text × Toml.Value)) (s : Settings) : Prop where
  moduleDir : optional? entries Key.moduleDir.text text? = some s.moduleDir
  yamlPath : optional? entries Key.yamlPath.text text? = some s.yamlPath
  sentinel : optional? entries Key.sentinel.text text? = some s.sentinel
  worklist : (optional? entries Key.worklist.text texts?).map (·.getD []) = some s.worklist
  atomicWrite : optional? entries Key.atomicWrite.text bool? = some s.atomicWrite
  addressSpace : optional? entries Key.addressSpace.text natural64? = some s.addressSpace

theorem readFrom_of_ofTable? (h : ofTable? entries = some s) : ReadFrom entries s := by
  simp only [ofTable?, Option.bind_eq_bind, Option.bind_eq_some_iff] at h
  obtain ⟨moduleDir, hmodule, yamlPath, hyaml, sentinel, hsentinel, worklist, hworklist,
    atomicWrite, hatomic, addressSpace, hspace, ⟨⟩⟩ := h
  exact ⟨hmodule, hyaml, hsentinel, congrArg _ hworklist, hatomic, hspace⟩

theorem sameAt_of_lookup_eq (hs : ofTable? entries = some s) (ht : ofTable? others = some t)
    (h : entries.lookup k.text = others.lookup k.text) : s.SameAt t k := by
  have hread : ∀ {α : Type} (read : Toml.Value → Option α),
      optional? entries k.text read = optional? others k.text read := fun read => by
    rw [optional?, optional?, h]
  have hs := readFrom_of_ofTable? hs
  have ht := readFrom_of_ofTable? ht
  cases k with
  | moduleDir => exact Option.some.inj (hs.moduleDir.symm.trans ((hread _).trans ht.moduleDir))
  | yamlPath => exact Option.some.inj (hs.yamlPath.symm.trans ((hread _).trans ht.yamlPath))
  | sentinel => exact Option.some.inj (hs.sentinel.symm.trans ((hread _).trans ht.sentinel))
  | worklist =>
    exact Option.some.inj (hs.worklist.symm.trans ((congrArg _ (hread _)).trans ht.worklist))
  | atomicWrite =>
    exact Option.some.inj (hs.atomicWrite.symm.trans ((hread _).trans ht.atomicWrite))
  | addressSpace =>
    exact Option.some.inj (hs.addressSpace.symm.trans ((hread _).trans ht.addressSpace))

end Tables
end Settings
end MapLoom
