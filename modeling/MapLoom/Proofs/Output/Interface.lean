import MapLoom.Proofs.Output.Printing
import MapLoom.Proofs.Project.Bundled

set_option autoImplicit false

/-!
# The header and the shim

Both are the layout of one address map, printed in two languages: the same structs with the same
fields and array lengths in the same order, and the same members. Printing the header always
succeeds.
-/
namespace MapLoom
open Template (Bundled)

variable {ms : Modules}

theorem eq_ok_of_toOption {ε α : Type} {x : Except ε α} {a : α} (h : x.toOption = some a) :
    x = .ok a := by
  cases x with
  | error e => cases h
  | ok b => exact congrArg Except.ok (Option.some.inj h)

theorem Modules.UsesBundled.render_header (h : ms.UsesBundled .header) (source : SchemaSource) :
    ms.render Bundled.header.tag source =
      .ok (normalize (Text.unlines ([] :: source.map.layout.cLines))) := by
  refine eq_ok_of_toOption ?_
  rw [h.render_toOption, Bundled.nodes, Template.render_header]
  rfl

theorem Modules.UsesBundled.render_shim (h : ms.UsesBundled .shim) (source : SchemaSource) :
    (ms.render Bundled.shim.tag source).toOption =
      source.map.layout.ctypesLines?.map fun lines => normalize (Text.unlines ([] :: lines)) := by
  rw [h.render_toOption, Bundled.nodes, Template.render_shim, Option.map_map]
  rfl

/-- The header is the layout of the map in C, and the shim, if there is one, the same layout for
`ctypes`. -/
theorem header_and_shim_print_layout (hheader : ms.UsesBundled .header)
    (hshim : ms.UsesBundled .shim) (source : SchemaSource) :
    ms.render Bundled.header.tag source =
      .ok (normalize (Text.unlines ([] :: source.map.layout.cLines))) ∧
    (ms.render Bundled.shim.tag source).toOption =
      source.map.layout.ctypesLines?.map fun lines => normalize (Text.unlines ([] :: lines)) :=
  ⟨hheader.render_header source, hshim.render_shim source⟩

/-- Two bands with one type, which has a scalar and an array, and an entry without fields. -/
def bandedMap : AddressMap :=
  .ofEntries "map"
    [⟨"GainLowerBand", 4, 4, [], "", ""⟩,
      ⟨"GainUpperBand", 0, 4, [⟨"Rate", 0, 32, "float", 0, .float .zero, "", ""⟩,
        ⟨"LutA", 32, 16, "uint12_t", 3, .integer 0, "", ""⟩], "", ""⟩,
      ⟨"Rest", 8, 5, [], "", ""⟩]

def bandedShim : List Text :=
  ["class GainPerBandV5(Structure):", "    _fields_ = [", "        ('rate', c_float),",
    "        ('lut_a', c_uint16 * 3),", "    ]", "class RestV5(Structure):", "    _fields_ = [",
    "        ('raw', c_uint8 * 5),", "    ]", "", "class Ex10CalibrationParamsV5(Structure):",
    "    _fields_ = [", "        ('gain_upper_band', GainPerBandV5),",
    "        ('gain_lower_band', GainPerBandV5),", "        ('rest', RestV5),", "    ]"]

theorem banded_header_and_shim :
    ∃ ms, Modules.load ⟨[]⟩ "/m" .builtin = .ok ms ∧
      ms.UsesBundled .header ∧ ms.UsesBundled .shim ∧
      (ms.render Bundled.shim.tag ⟨"map.yml", bandedMap⟩).toOption =
        some (normalize (Text.unlines ([] :: bandedShim))) := by
  obtain ⟨ms, hload, hbundled⟩ :=
    @Modules.exists_load_of_not_isDirectory ⟨[]⟩ "/m" rfl
  have hlines : bandedMap.layout.ctypesLines? = some bandedShim := by decide +kernel
  refine ⟨ms, hload, hbundled _, hbundled _, ?_⟩
  rw [(header_and_shim_print_layout (hbundled _) (hbundled _) ⟨"map.yml", bandedMap⟩).2, hlines]
  rfl

end MapLoom
