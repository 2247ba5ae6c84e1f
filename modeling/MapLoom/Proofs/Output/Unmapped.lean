import MapLoom.Proofs.Output.Loader
import MapLoom.Proofs.Output.Printer
import MapLoom.Proofs.Template.NativeType

set_option autoImplicit false

/-!
# Types without a name in the shim

Printing the header, the loader and the printer always succeeds. Printing the shim fails exactly if
an owner has a field whose type has no native name; the fields of other entries are not declared.
-/
namespace MapLoom
open Files (Tree)
open Template (Bundled IsScalar)

theorem FieldDecl.isSome_ctypesLine?_iff {f : FieldDecl} :
    f.ctypesLine?.isSome ↔ IsScalar f.type := by
  rw [FieldDecl.ctypesLine?, Option.isSome_map, Template.isSome_ctypeName?_iff]

theorem Entry.isSome_ctypesLines?_iff {e : Entry} :
    e.decl.ctypesLines?.isSome ↔ ∀ f ∈ e.fields, IsScalar f.resolveAs := by
  rw [StructDecl.ctypesLines?, Option.isSome_map, Entry.decl_body_ctypesLines?]
  split
  · rename_i hnone
    exact ⟨fun _ f hf => absurd (hnone ▸ hf) List.not_mem_nil, fun _ => rfl⟩
  · simp only [isSome_linesOf?_iff, Option.isSome_map, FieldDecl.isSome_ctypesLine?_iff]
    rfl

theorem AddressMap.isSome_ctypesLines?_iff {m : AddressMap} :
    m.layout.ctypesLines?.isSome ↔ ∀ e ∈ m.owners, ∀ f ∈ e.fields, IsScalar f.resolveAs := by
  rw [Layout.ctypesLines?, Option.isSome_map, AddressMap.layout, linesOf?_map, isSome_linesOf?_iff]
  simp only [Entry.isSome_ctypesLines?_iff]

/-- Whether an entry that declares its type has a field whose type has no native name. -/
def AddressMap.HasUnmapped (m : AddressMap) : Prop :=
  ∃ e ∈ m.entries, e.bandName.isOwner = true ∧ ∃ f ∈ e.fields, ¬ IsScalar f.resolveAs

instance (m : AddressMap) : Decidable m.HasUnmapped :=
  inferInstanceAs (Decidable (∃ e ∈ m.entries, _))

theorem AddressMap.ctypesLines?_eq_none_iff {m : AddressMap} :
    m.layout.ctypesLines? = none ↔ m.HasUnmapped := by
  rw [← Option.not_isSome_iff_eq_none, AddressMap.isSome_ctypesLines?_iff]
  unfold AddressMap.owners AddressMap.HasUnmapped
  simp only [List.mem_filter, and_imp, not_forall, exists_prop]

namespace Modules.UsesBundled
variable {ms : Modules} {b : Bundled}

theorem eq_templateRender_of_error (h : ms.UsesBundled b) {source : SchemaSource} {e : RunError}
    (herror : ms.render b.tag source = .error e) : ∃ fault, e = .templateRender b.tag fault := by
  obtain ⟨nodes, -, hlookup⟩ := h.template
  unfold Modules.render Modules.resolve at herror
  rw [h.generator, hlookup] at herror
  dsimp only [calibration] at herror
  split at herror
  · cases herror
  · rename_i fault _
    cases herror
    exact ⟨fault, rfl⟩

theorem render_eq_error_iff (h : ms.UsesBundled b) (source : SchemaSource) :
    (∃ e, ms.render b.tag source = .error e) ↔ b = .shim ∧ source.map.HasUnmapped := by
  have hsucceeds : ∀ {t}, ms.render b.tag source = .ok t → b ≠ .shim →
      ((∃ e, ms.render b.tag source = .error e) ↔ b = .shim ∧ source.map.HasUnmapped) := by
    intro t ht hne
    exact ⟨fun ⟨e, he⟩ => (nomatch ht.symm.trans he), fun hshim => absurd hshim.1 hne⟩
  cases b with
  | header => exact hsucceeds (h.render_header source) nofun
  | loader => exact hsucceeds (h.render_loader source) nofun
  | printer => exact hsucceeds (h.render_printer source) nofun
  | shim =>
    have hnone : (ms.render Bundled.shim.tag source).toOption = none ↔ source.map.HasUnmapped := by
      rw [h.render_shim, Option.map_eq_none_iff, AddressMap.ctypesLines?_eq_none_iff]
    rw [← hnone, and_iff_right rfl]
    cases ms.render Bundled.shim.tag source with
    | error e => exact ⟨fun _ => rfl, fun _ => ⟨e, rfl⟩⟩
    | ok t => exact ⟨nofun, nofun⟩

end Modules.UsesBundled

/-- With the calibration generators, a bundled template that no file takes the place of has its
scope for any address map, and it is rendered unless it is the shim and an owner has a field whose
type has no native name. -/
theorem bundled_fails_iff_unmapped {tree : Tree} {moduleDir : Text} {functions : SourceFunctions}
    {ms : Modules} (hload : Modules.load tree moduleDir .builtin functions = .ok ms) {b : Bundled}
    (hwins : ∀ n path, ¬ Wins tree (searchDirs tree moduleDir) n b.tag path)
    (yamlPath : Text) (m : AddressMap) :
    (∃ g scope, ms.registry.get? b.tag = some g ∧ g ⟨yamlPath, m⟩ = .ok scope) ∧
    ((∃ t, ms.render b.tag ⟨yamlPath, m⟩ = .ok t) ∨
      ∃ fault, ms.render b.tag ⟨yamlPath, m⟩ = .error (.templateRender b.tag fault)) ∧
    ((∃ e, ms.render b.tag ⟨yamlPath, m⟩ = .error e) ↔ b = .shim ∧
      ∃ e ∈ m.entries, e.bandName.isOwner = true ∧ ∃ f ∈ e.fields, ¬ IsScalar f.resolveAs) := by
  have h := Modules.usesBundled_of_load hload (Registry.builtin_get? b) hwins
  refine ⟨⟨calibration, _, h.generator, rfl⟩, ?_, h.render_eq_error_iff _⟩
  cases hrender : ms.render b.tag ⟨yamlPath, m⟩ with
  | ok t => exact .inl ⟨t, rfl⟩
  | error e =>
    obtain ⟨fault, rfl⟩ := h.eq_templateRender_of_error hrender
    exact .inr ⟨fault, rfl⟩

def typedBands (lower upper : Text) : AddressMap :=
  .ofEntries "map"
    [⟨"GainLowerBand", 4, 4, [⟨"Rate", 0, 32, lower, 0, .integer 0, "", ""⟩], "", ""⟩,
      ⟨"GainUpperBand", 0, 4, [⟨"Rate", 0, 32, upper, 0, .integer 0, "", ""⟩], "", ""⟩]

/-- The type of a lower band's field may have no name, and that of an upper band's may not. -/
theorem shim_fails_at_upper_band :
    ∃ ms, Modules.load ⟨[]⟩ "/m" .builtin = .ok ms ∧
      (∀ n path, ¬ Wins ⟨[]⟩ (searchDirs ⟨[]⟩ "/m") n Bundled.shim.tag path) ∧
      (¬ ∃ e, ms.render Bundled.shim.tag ⟨"map.yml", typedBands "uint65_t" "uint+064_t"⟩ =
        .error e) ∧
      ∃ e, ms.render Bundled.shim.tag ⟨"map.yml", typedBands "uint+064_t" "uint65_t"⟩ =
        .error e := by
  obtain ⟨ms, hload, -⟩ := @Modules.exists_load_of_not_isDirectory ⟨[]⟩ "/m" rfl
  have hwins : ∀ n path, ¬ Wins ⟨[]⟩ (searchDirs ⟨[]⟩ "/m") n Bundled.shim.tag path := by
    rintro n path ⟨⟨dir, hdir, -⟩, -⟩
    cases hdir
  have hlower : ¬ (typedBands "uint65_t" "uint+064_t").HasUnmapped := by decide +kernel
  have hupper : (typedBands "uint+064_t" "uint65_t").HasUnmapped := by decide +kernel
  refine ⟨ms, hload, hwins, fun he => hlower ?_, ?_⟩
  · exact ((bundled_fails_iff_unmapped hload hwins _ _).2.2.1 he).2
  · exact (bundled_fails_iff_unmapped hload hwins _ _).2.2.2 ⟨rfl, hupper⟩

end MapLoom
