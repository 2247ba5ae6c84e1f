import MapLoom.Proofs.Output.Unmapped
import MapLoom.Proofs.Schema.Types

set_option autoImplicit false

/-!
# Widths of declared fields

The native name of an integer type has the least width that holds its bits. A field that declares no
type has an unsigned one of its bits, so the shim can be printed with it only if it has 1 to 64 of
them, and then declares it with no fewer.
-/
namespace MapLoom
open Template (Bundled Filter IsScalar NativeType NativeWidth ctypeName?)
open Yaml (Value)
open Yaml.Value (IsInteger IsText)

/-- The fields that a shim declares: those of the entries that declare their type. -/
def AddressMap.declaredFields (m : AddressMap) : List Field := m.owners.flatMap (·.fields)

def FieldDecl.nativeLine (f : FieldDecl) (name : Text) : Text :=
  "        ('" ++ f.name ++ "', " ++ name ++ f.arraySuffix " * " [] ++ "),"

section
variable {f : Field} {type : Text} {bits : Nat}

theorem Template.apply_ctype_eq_ok_iff {v : Template.Value} :
    Filter.ctype.apply (.text type) = .ok v ↔ ∃ name, NativeType type name ∧ v = .text name := by
  simp only [← ctypeName?_eq_some_iff, Filter.apply, Filter.onText]
  cases ctypeName? type with
  | none =>
    constructor
    · intro h
      cases h
    · rintro ⟨_, ⟨⟩, -⟩
  | some name =>
    constructor
    · rintro ⟨⟩
      exact ⟨name, rfl, rfl⟩
    · rintro ⟨_, ⟨⟩, rfl⟩
      rfl

theorem Template.isScalar_unsigned_iff :
    IsScalar ("uint" ++ Text.ofNat bits ++ "_t") ↔ 1 ≤ bits ∧ bits ≤ 64 := by
  rw [← exists_nativeType_iff, ← exists_nativeWidth_iff]
  simp only [nativeType_unsigned_iff]
  constructor
  · rintro ⟨_, native, hwidth, -⟩
    exact ⟨native, hwidth⟩
  · rintro ⟨native, hwidth⟩
    exact ⟨_, native, hwidth, rfl⟩

theorem FieldDecl.ctypesLine?_eq_some_iff {f : FieldDecl} {line : Text} :
    f.ctypesLine? = some line ↔ ∃ name, NativeType f.type name ∧ line = f.nativeLine name := by
  have hmap : f.ctypesLine? = (ctypeName? f.type).map f.nativeLine := rfl
  rw [hmap, Option.map_eq_some_iff]
  exact exists_congr fun name => and_congr Template.ctypeName?_eq_some_iff eq_comm

end

section
variable {m : AddressMap} {f : Field} {lines : List Text}

theorem AddressMap.isSome_ctypesLines?_iff_declared :
    m.layout.ctypesLines?.isSome ↔ ∀ f ∈ m.declaredFields, IsScalar f.resolveAs := by
  rw [AddressMap.isSome_ctypesLines?_iff, AddressMap.declaredFields]
  simp only [List.forall_mem_flatMap]

theorem AddressMap.exists_line_of_mem_declared (h : m.layout.ctypesLines? = some lines)
    (hf : f ∈ m.declaredFields) : ∃ line ∈ lines, f.decl.ctypesLine? = some line := by
  obtain ⟨e, he, hf⟩ := List.mem_flatMap.1 hf
  -- Down from the lines of all structs to those of the struct of the entry, then to the field's.
  obtain ⟨structs, hstructs, rfl⟩ := Option.map_eq_some_iff.1 h
  obtain ⟨_, hdecl, hsub⟩ := exists_subset_of_linesOf? hstructs (List.mem_map_of_mem he)
  obtain ⟨body, hbody, rfl⟩ := Option.map_eq_some_iff.1 hdecl
  rw [Entry.decl_body_ctypesLines?, if_neg (List.ne_nil_of_mem hf)] at hbody
  obtain ⟨_, hline, hmem⟩ := exists_subset_of_linesOf? hbody hf
  obtain ⟨line, hcline, rfl⟩ := Option.map_eq_some_iff.1 hline
  have hinBody : line ∈ body := hmem List.mem_cons_self
  exact ⟨line, List.mem_append_left _ (hsub (by simp [hinBody])), hcline⟩

end

section
variable {ms : Modules} {source : SchemaSource} {t : Text}

theorem Modules.UsesBundled.ctypesLines?_of_render (h : ms.UsesBundled .shim)
    (ht : ms.render Bundled.shim.tag source = .ok t) :
    ∃ lines, source.map.layout.ctypesLines? = some lines ∧
      t = normalize (Text.unlines ([] :: lines)) := by
  have hrender := h.render_shim source
  rw [ht] at hrender
  obtain ⟨lines, hlines, hnormal⟩ := Option.map_eq_some_iff.1 hrender.symm
  exact ⟨lines, hlines, hnormal.symm⟩

theorem Modules.UsesBundled.exists_render_shim_iff (h : ms.UsesBundled .shim) :
    (∃ t, ms.render Bundled.shim.tag source = .ok t) ↔
      ∀ f ∈ source.map.declaredFields, IsScalar f.resolveAs := by
  rw [← AddressMap.isSome_ctypesLines?_iff_declared]
  constructor
  · rintro ⟨t, ht⟩
    obtain ⟨lines, hlines, -⟩ := h.ctypesLines?_of_render ht
    rw [hlines]
    rfl
  · intro hsome
    obtain ⟨lines, hlines⟩ := Option.isSome_iff_exists.1 hsome
    have hrender := h.render_shim source
    rw [hlines] at hrender
    exact ⟨_, eq_ok_of_toOption hrender⟩

end

theorem IsField.unsigned_of_number {v : Value} {f : Field} {bits : Int} (h : IsField v f)
    (hbits : v.Has "bits" IsInteger bits) (huntyped : v.MayHave "resolve_as" IsText [] []) :
    (f.bits.toNat : Int) = bits ∧ f.resolveAs = "uint" ++ Text.ofNat f.bits.toNat ++ "_t" := by
  obtain ⟨hnat, htype⟩ := h.resolved.number bits [] hbits huntyped
  rw [if_pos rfl, ← unsignedType_eq hnat] at htype
  exact ⟨hnat, htype⟩

/-- The types with a native name are the two float types and the integer types of 1 to 64 bits, and
the name has the sign of the type and the least width that suffices. So the shim can be printed with
a field that declares bits and no type exactly if it has 1 to 64 of them, as far as that field is
concerned, and it declares the field with no fewer. -/
theorem ctype_widens_to_native :
    (∀ (type : Text) (v : Template.Value), Filter.ctype.apply (.text type) = .ok v ↔
      ∃ name, NativeType type name ∧ v = .text name) ∧
    (∀ type : Text, (∃ v, Filter.ctype.apply (.text type) = .ok v) ↔ IsScalar type) ∧
    ∀ (path : NodePath) (node : Value) (f : Field) (bits : Int), readField path node = .ok f →
      node.Has "bits" IsInteger bits → node.MayHave "resolve_as" IsText [] [] →
      (f.bits.toNat : Int) = bits ∧ f.resolveAs = "uint" ++ Text.ofNat f.bits.toNat ++ "_t" ∧
      ∀ (ms : Modules) (source : SchemaSource), ms.UsesBundled .shim →
        f ∈ source.map.declaredFields →
        ((∃ t, ms.render Bundled.shim.tag source = .ok t) ↔ (1 ≤ bits ∧ bits ≤ 64) ∧
          ∀ g ∈ source.map.declaredFields, g ≠ f → IsScalar g.resolveAs) ∧
        ∀ t, ms.render Bundled.shim.tag source = .ok t → ∃ native lines,
          NativeWidth f.bits.toNat native ∧
          f.decl.nativeLine ("c_uint" ++ Text.ofNat native) ∈ lines ∧
          t = normalize (Text.unlines lines) := by
  refine ⟨fun type v => Template.apply_ctype_eq_ok_iff, fun type => ?_,
    fun path node f bits hread hbits huntyped => ?_⟩
  · simp only [Template.apply_ctype_eq_ok_iff]
    rw [← Template.exists_nativeType_iff]
    exact ⟨fun ⟨_, name, hname, _⟩ => ⟨name, hname⟩, fun ⟨name, hname⟩ => ⟨_, name, hname, rfl⟩⟩
  obtain ⟨hnat, htype⟩ := (readField_eq_ok_iff.1 hread).unsigned_of_number hbits huntyped
  refine ⟨hnat, htype, fun ms source hshim hf => ⟨?_, fun t ht => ?_⟩⟩
  · have hsized : IsScalar f.resolveAs ↔ 1 ≤ bits ∧ bits ≤ 64 := by
      rw [htype, Template.isScalar_unsigned_iff]
      omega
    rw [hshim.exists_render_shim_iff, ← hsized]
    constructor
    · exact fun hall => ⟨hall f hf, fun g hg _ => hall g hg⟩
    · rintro ⟨hscalar, hothers⟩ g hg
      by_cases hgf : g = f
      · exact hgf ▸ hscalar
      · exact hothers g hg hgf
  · obtain ⟨lines, hlines, rfl⟩ := hshim.ctypesLines?_of_render ht
    obtain ⟨line, hmem, hline⟩ := AddressMap.exists_line_of_mem_declared hlines hf
    obtain ⟨name, hname, rfl⟩ := FieldDecl.ctypesLine?_eq_some_iff.1 hline
    have hunsigned : NativeType ("uint" ++ Text.ofNat f.bits.toNat ++ "_t") name := htype ▸ hname
    obtain ⟨native, hwidth, rfl⟩ := Template.nativeType_unsigned_iff.1 hunsigned
    exact ⟨native, [] :: lines, hwidth, List.mem_cons_of_mem _ hmem, rfl⟩

def rateNode (bits : Int) : Value :=
  .map [(.text "name", .text "Rate"), (.text "pos", .integer 0), (.text "bits", .integer bits)]

def rateField (bits : UInt32) : Field :=
  ⟨"Rate", 0, bits, unsignedType bits, 0, .integer 0, [], []⟩

def rateMap (bits : UInt32) : AddressMap :=
  .ofEntries "map" [⟨"Gain", 0, 4, [rateField bits], [], []⟩]

theorem twelve_bits_widen_to_sixteen :
    Filter.ctype.apply (.text "int+009_t") = .ok (.text "c_int16") ∧
    readField .root (rateNode 12) = .ok (rateField 12) ∧
    readField .root (rateNode 65) = .ok (rateField 65) ∧
    ∃ ms, Modules.load ⟨[]⟩ "/m" .builtin = .ok ms ∧ ms.UsesBundled .shim ∧
      (∃ t, ms.render Bundled.shim.tag ⟨"map.yml", rateMap 12⟩ = .ok t) ∧
      ¬ ∃ t, ms.render Bundled.shim.tag ⟨"map.yml", rateMap 65⟩ = .ok t := by
  obtain ⟨ms, hload, hbundled⟩ := @Modules.exists_load_of_not_isDirectory ⟨[]⟩ "/m" rfl
  obtain ⟨hname, -, hfields⟩ := ctype_widens_to_native
  have hnine : Template.ctypeName? "int+009_t" = some "c_int16".toList := by decide
  have htwelve : readField .root (rateNode 12) = .ok (rateField 12) := rfl
  have hmany : readField .root (rateNode 65) = .ok (rateField 65) := rfl
  have hbits : ∀ n : Int, InInt64 n → (rateNode n).Has "bits" IsInteger n := fun n hn =>
    ⟨.integer n, rfl, .integer hn⟩
  have huntyped : ∀ n : Int, (rateNode n).MayHave "resolve_as" IsText [] [] := fun n =>
    .inl ⟨rfl, rfl⟩
  obtain ⟨-, -, hshim⟩ := hfields _ _ _ 12 htwelve (hbits 12 ⟨by decide, by decide⟩) (huntyped 12)
  obtain ⟨-, -, hshim'⟩ := hfields _ _ _ 65 hmany (hbits 65 ⟨by decide, by decide⟩) (huntyped 65)
  have hdeclared : ∀ bits, (rateMap bits).declaredFields = [rateField bits] := fun bits => rfl
  obtain ⟨hprinted, -⟩ := hshim ms ⟨"map.yml", rateMap 12⟩ (hbundled _) (by simp [hdeclared])
  obtain ⟨hfails, -⟩ := hshim' ms ⟨"map.yml", rateMap 65⟩ (hbundled _) (by simp [hdeclared])
  refine ⟨(hname _ _).2 ⟨_, Template.ctypeName?_eq_some_iff.1 hnine, rfl⟩, htwelve, hmany, ms,
    hload, hbundled _, hprinted.2 ⟨by decide, ?_⟩, fun ht => ?_⟩
  · intro g hg hne
    rw [hdeclared, List.mem_singleton] at hg
    exact absurd hg hne
  · have hrange := (hfails.1 ht).1
    omega

end MapLoom
