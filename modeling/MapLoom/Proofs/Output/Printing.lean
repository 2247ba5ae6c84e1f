import MapLoom.Proofs.Output.Declarations
import MapLoom.Proofs.Template.Writing
import MapLoom.Proofs.Text.Lines
import MapLoom.Project.Context
import MapLoom.Template.Bundled

set_option autoImplicit false

/-!
# What the bundled templates print

In the scope of an address map, the header and the shim print the layout of the map, each in its own
language. Entries are printed one after another, whatever the turn, and so are the fields of an
entry.
-/
namespace MapLoom

theorem mapM_broken {α : Type} {lines? : α → Option (List Text)} (as : List α) :
    (as.mapM fun a => (lines? a).map Text.broken).map List.flatten =
      (linesOf? lines? as).map Text.broken := by
  induction as with
  | nil => rfl
  | cons a as ih =>
    rw [List.mapM_cons, linesOf?_cons]
    cases lines? a with
    | none => rfl
    | some lines =>
      have hturn : ((as.mapM fun a => (lines? a).map Text.broken).bind fun texts =>
          some (Text.broken lines :: texts)).map List.flatten =
          ((as.mapM fun a => (lines? a).map Text.broken).map List.flatten).map
            (Text.broken lines ++ ·) := by
        cases as.mapM fun a => (lines? a).map Text.broken <;> rfl
      have hlines : ((linesOf? lines? as).map (lines ++ ·)).map Text.broken =
          ((linesOf? lines? as).map Text.broken).map (Text.broken lines ++ ·) := by
        cases linesOf? lines? as with
        | none => rfl
        | some rest => exact congrArg some (Text.broken_append lines rest)
      exact hturn.trans (ih ▸ hlines.symm)

end MapLoom

namespace MapLoom.Template
open Bundled

variable {scope : Scope} {e : Entry} {f : Field} {s t : Option Text} {yes no body : List Node}

theorem applyFilter_toOption {name : Text} {filter : Filter}
    (h : Filter.ofName? name = some filter) (v : Value) :
    (applyFilter name v).toOption = (filter.apply v).toOption := by
  rw [applyFilter, h]
  dsimp only
  cases filter.apply v <;> rfl

theorem applyFilter_ctype (type : Text) :
    (applyFilter "ctype" (.text type)).toOption = (ctypeName? type).map .text := by
  have hname : Filter.ofName? "ctype" = some .ctype := rfl
  rw [applyFilter_toOption hname, Filter.apply, Filter.onText]
  cases ctypeName? type <;> rfl

theorem writes_ifArray (hyes : Writes (("f", f.toTemplate) :: scope) yes s)
    (hno : Writes (("f", f.toTemplate) :: scope) no t) :
    (ifArray yes no).Writes (("f", f.toTemplate) :: scope) (if 0 < f.numEntries then s else t) := by
  have htest : ∀ functions,
      (Test.compared .gt (.path ["f", "num_entries"]) (.literal (.integer 0))).holds functions
        (("f", f.toTemplate) :: scope) = .ok (decide (0 < f.numEntries)) := by
    intro functions
    change Except.ok ((Binary64.ofInt 0).lt (Binary64.ofInt f.numEntries.toNat)) = _
    rw [Binary64.zero_lt_ofInt]
    rfl
  refine Node.writes_branch htest ?_
  by_cases h : 0 < f.numEntries
  · simpa [h] using hyes
  · simpa [h] using hno

theorem writes_ifNoFields (h : Writes (("p", e.toTemplate) :: scope) body s) :
    (ifNoFields body).Writes (("p", e.toTemplate) :: scope)
      (if e.fields = [] then s else some []) := by
  have htest : ∀ functions, (Test.negated (.value (.path ["p", "fields"]))).holds functions
      (("p", e.toTemplate) :: scope) = .ok (e.fields.map Field.toTemplate).isEmpty := by
    intro functions
    change Except.ok (!!(e.fields.map Field.toTemplate).isEmpty) = _
    rw [Bool.not_not]
  refine Node.writes_branch htest ?_
  cases e.fields with
  | nil => exact h
  | cons f fields => exact .nil

theorem writes_ifOwner (h : Writes (("p", e.toTemplate) :: scope) body s) :
    (ifOwner body).Writes (("p", e.toTemplate) :: scope)
      (if e.bandName.isOwner then s else some []) := by
  have htest : ∀ functions, (Test.value (.path ["p", "is_band_owner"])).holds functions
      (("p", e.toTemplate) :: scope) = .ok e.bandName.isOwner := fun _ => rfl
  refine Node.writes_branch htest ?_
  cases e.bandName.isOwner with
  | true => exact h
  | false => exact .nil

theorem writes_eachField {lines? : Field → Option (List Text)}
    (h : ∀ f n left, Writes (("f", f.toTemplate) :: ("loop", progress n left) ::
      ("p", e.toTemplate) :: scope) body ((lines? f).map Text.broken)) :
    (eachField body).Writes (("p", e.toTemplate) :: scope)
      ((linesOf? lines? e.fields).map Text.broken) := by
  rw [← mapM_broken]
  exact Node.writes_each (f := Field.toTemplate) (fun _ => rfl) h

theorem writes_eachEntry {source : SchemaSource} {lines? : Entry → Option (List Text)}
    (h : ∀ e n left, Writes (("p", e.toTemplate) :: ("loop", progress n left) :: source.scope) body
      ((lines? e).map Text.broken)) :
    (eachEntry body).Writes source.scope
      ((linesOf? lines? source.map.entries).map Text.broken) := by
  rw [← mapM_broken]
  exact Node.writes_each (f := Entry.toTemplate) (fun _ => rfl) h

theorem writes_arraySuffix {start stop : Text} (h : Writes (("f", f.toTemplate) :: scope) yes s)
    (hs : s = some (start ++ Text.ofNat f.numEntries.toNat ++ stop)) :
    (ifArray yes []).Writes (("f", f.toTemplate) :: scope)
      (some (f.decl.arraySuffix start stop)) := by
  have hif := writes_ifArray (h.of_eq hs) .nil
  rwa [← apply_ite some] at hif

theorem writes_headerField :
    Writes (("f", f.toTemplate) :: scope) headerField (some (Text.broken [f.decl.cLine])) := by
  have hsuffix : (ifArray [.text "[", field "num_entries", .text "]"] []).Writes
      (("f", f.toTemplate) :: scope) (some (f.decl.arraySuffix "[" "]")) := by
    refine writes_arraySuffix (.cons (Node.writes_text _) <| .cons (Node.writes_path rfl) <|
      .cons (Node.writes_text _) .nil) ?_
    simp
  have h : Writes (("f", f.toTemplate) :: scope) headerField _ :=
    .cons (Node.writes_text _) <| .cons (Node.writes_path rfl) <| .cons (Node.writes_text _) <|
      .cons (Node.writes_path rfl) <| .cons hsuffix <| .cons (Node.writes_text _) .nil
  refine h.of_eq ?_
  -- By delta, as the equation of a definition with long literals is slow to make.
  delta FieldDecl.cLine
  simp

theorem writes_shimField :
    Writes (("f", f.toTemplate) :: scope) shimField
      ((f.decl.ctypesLine?.map ([·])).map Text.broken) := by
  have htype : (fieldType "ctype").Writes (("f", f.toTemplate) :: scope)
      (ctypeName? f.resolveAs) := by
    refine (Node.writes_filtered _ (v := .text f.resolveAs) rfl).of_eq ?_
    rw [applyFilter_ctype]
    exact Option.map_map .. |>.trans Option.map_id'
  have hsuffix : (ifArray [.text " * ", field "num_entries"] []).Writes
      (("f", f.toTemplate) :: scope) (some (f.decl.arraySuffix " * " [])) := by
    refine writes_arraySuffix
      (.cons (Node.writes_text _) <| .cons (Node.writes_path rfl) .nil) ?_
    simp
  have h : Writes (("f", f.toTemplate) :: scope) shimField _ :=
    .cons (Node.writes_text _) <| .cons (Node.writes_path rfl) <| .cons (Node.writes_text _) <|
      .cons htype <| .cons hsuffix <| .cons (Node.writes_text _) .nil
  refine h.of_eq ?_
  rw [FieldDecl.ctypesLine?, show f.decl.type = f.resolveAs from rfl]
  cases ctypeName? f.resolveAs with
  | none => rfl
  | some type =>
    simp

theorem Writes.cons_body {lines? : Option (List Text)} {raw : Text} {fields rawNode : Node}
    (hfields : fields.Writes scope (lines?.map Text.broken))
    (hraw : rawNode.Writes scope (if e.fields = [] then some (Text.broken [raw]) else some []))
    (hnone : e.fields = [] → lines? = some []) {rest : List Node} (hrest : Writes scope rest t) :
    Writes scope (fields :: rawNode :: rest)
      (glue ((if e.fields = [] then some [raw] else lines?).map Text.broken) t) := by
  refine (Writes.cons hfields (.cons hraw hrest)).of_eq ?_
  rw [← glue_assoc]
  congr 1
  by_cases hempty : e.fields = []
  · rw [if_pos hempty, if_pos hempty, hnone hempty]
    rfl
  · rw [if_neg hempty, if_neg hempty]
    cases lines? with
    | none => rfl
    | some lines => exact congrArg some (List.append_nil _)

theorem writes_rawBytes (start stop : Text) :
    (ifNoFields [.text ('\n' :: start), entry "length", .text stop]).Writes
      (("p", e.toTemplate) :: scope) (if e.fields = [] then
        some (Text.broken [start ++ Text.ofNat e.length.toNat ++ stop]) else some []) := by
  refine writes_ifNoFields (Writes.of_eq (.cons (Node.writes_text _) <|
    .cons (Node.writes_path rfl) <| .cons (Node.writes_text _) .nil) ?_)
  simp

theorem writes_headerOwner :
    Writes (("p", e.toTemplate) :: scope) headerOwner (some (Text.broken e.decl.cLines)) := by
  have hfields : (eachField headerField).Writes (("p", e.toTemplate) :: scope)
      ((linesOf? (fun f => some [f.decl.cLine]) e.fields).map Text.broken) :=
    writes_eachField fun f n left => writes_headerField
  have hraw : (ifNoFields [.text "\n    uint8_t raw[", entry "length", .text "];"]).Writes
      (("p", e.toTemplate) :: scope) _ := writes_rawBytes "    uint8_t raw[" "];"
  have h : Writes (("p", e.toTemplate) :: scope) headerOwner _ :=
    .cons (Node.writes_text _) <| .cons (Node.writes_path rfl) <| .cons (Node.writes_text _) <|
      .cons_body hfields hraw (fun hnone => hnone ▸ rfl) <| .cons (Node.writes_text _) .nil
  refine h.of_eq ?_
  rw [← Entry.decl_body_cLines]
  delta StructDecl.cLines
  simp

theorem writes_shimOwner :
    Writes (("p", e.toTemplate) :: scope) shimOwner (e.decl.ctypesLines?.map Text.broken) := by
  have hfields : (eachField shimField).Writes (("p", e.toTemplate) :: scope)
      ((linesOf? (fun f => f.decl.ctypesLine?.map ([·])) e.fields).map Text.broken) :=
    writes_eachField fun f n left => writes_shimField
  have hraw : (ifNoFields [.text "\n        ('raw', c_uint8 * ", entry "length", .text "),"]).Writes
      (("p", e.toTemplate) :: scope) _ := writes_rawBytes "        ('raw', c_uint8 * " "),"
  have h : Writes (("p", e.toTemplate) :: scope) shimOwner _ :=
    .cons (Node.writes_text _) <| .cons (Node.writes_path rfl) <| .cons (Node.writes_text _) <|
      .cons_body hfields hraw (fun hnone => hnone ▸ rfl) <| .cons (Node.writes_text _) .nil
  refine h.of_eq ?_
  rw [← Entry.decl_body_ctypesLines?, StructDecl.ctypesLines?]
  cases e.decl.body.ctypesLines? with
  | none => rfl
  | some lines =>
    simp

theorem writes_headerMember :
    Writes (("p", e.toTemplate) :: scope) headerMember
      (some (Text.broken [e.member.cLine])) := by
  have h : Writes (("p", e.toTemplate) :: scope) headerMember _ :=
    .cons (Node.writes_text _) <| .cons (Node.writes_path rfl) <| .cons (Node.writes_text _) <|
      .cons (Node.writes_path rfl) <| .cons (Node.writes_text _) .nil
  refine h.of_eq ?_
  delta MemberDecl.cLine
  simp

theorem writes_shimMember :
    Writes (("p", e.toTemplate) :: scope) shimMember
      (some (Text.broken [e.member.ctypesLine])) := by
  have h : Writes (("p", e.toTemplate) :: scope) shimMember _ :=
    .cons (Node.writes_text _) <| .cons (Node.writes_path rfl) <| .cons (Node.writes_text _) <|
      .cons (Node.writes_path rfl) <| .cons (Node.writes_text _) .nil
  refine h.of_eq ?_
  delta MemberDecl.ctypesLine
  simp

variable {source : SchemaSource}

theorem writes_eachOwner {lines? : Entry → Option (List Text)}
    (h : ∀ e n left, Writes (("p", e.toTemplate) :: ("loop", progress n left) :: source.scope) body
      ((lines? e).map Text.broken)) :
    (eachEntry [ifOwner body]).Writes source.scope
      ((linesOf? lines? source.map.owners).map Text.broken) := by
  rw [AddressMap.owners, ← linesOf?_filter]
  refine writes_eachEntry fun e n left => ?_
  refine Writes.of_eq (.cons (writes_ifOwner (h e n left)) .nil) ?_
  rw [glue_nil]
  split <;> rfl

theorem writes_length :
    (Node.print (.value (.filtered (.path ["total_length"]) "hex"))).Writes source.scope
      (some ("0x" ++ Text.upperHex 4 source.map.totalLength.toNat)) := by
  exact Node.writes_filtered _ (v := .integer source.map.totalLength.toNat) rfl

theorem render_header (functions : Functions) :
    (render source.scope headerNodes functions).toOption =
      some (Text.unlines ([] :: source.map.layout.cLines)) := by
  have howners : (eachEntry [ifOwner headerOwner]).Writes source.scope
      ((linesOf? (fun e => some e.decl.cLines) source.map.owners).map Text.broken) :=
    writes_eachOwner fun e n left => writes_headerOwner
  have hmembers : (eachEntry headerMember).Writes source.scope
      ((linesOf? (fun e => some [e.member.cLine]) source.map.entries).map Text.broken) :=
    writes_eachEntry fun e n left => writes_headerMember
  have h : Writes source.scope headerNodes _ :=
    .cons howners <| .cons (Node.writes_text _) <| .cons hmembers <| .cons (Node.writes_text _) <|
      .cons writes_length <| .cons (Node.writes_text _) .nil
  rw [h.render functions, linesOf?_some, linesOf?_some, ← Text.broken_newline, Layout.cLines,
    Layout.cMembers, AddressMap.layout, List.flatMap_map, List.map_map, List.map_eq_flatMap]
  delta Layout.cLength
  simp

theorem render_shim (functions : Functions) :
    (render source.scope shimNodes functions).toOption =
      source.map.layout.ctypesLines?.map fun lines => Text.unlines ([] :: lines) := by
  have howners : (eachEntry [ifOwner shimOwner]).Writes source.scope
      ((linesOf? (fun e => e.decl.ctypesLines?) source.map.owners).map Text.broken) :=
    writes_eachOwner fun e n left => writes_shimOwner
  have hmembers : (eachEntry shimMember).Writes source.scope
      ((linesOf? (fun e => some [e.member.ctypesLine]) source.map.entries).map Text.broken) :=
    writes_eachEntry fun e n left => writes_shimMember
  have h : Writes source.scope shimNodes _ :=
    .cons howners <| .cons (Node.writes_text _) <| .cons hmembers <| .cons (Node.writes_text _) .nil
  rw [h.render functions, linesOf?_some, Layout.ctypesLines?, AddressMap.layout, linesOf?_map]
  cases linesOf? (fun e => e.decl.ctypesLines?) source.map.owners with
  | none => rfl
  | some lines =>
    rw [Option.map_some, Option.map_some, Option.map_some, Option.map_some, ← Text.broken_newline,
      Layout.ctypesMembers, List.map_map, List.map_eq_flatMap]
    simp

theorem writes_loaderEntry :
    Writes (("p", e.toTemplate) :: scope) loaderEntry
      (some (Text.broken [e.rangeLine, e.copyLine])) := by
  have haddress : (entryHex "address").Writes (("p", e.toTemplate) :: scope)
      (some ("0x" ++ Text.upperHex 4 e.address.toNat)) :=
    Node.writes_filtered _ (v := .integer e.address.toNat) rfl
  have hlast : (entryHex "end_address").Writes (("p", e.toTemplate) :: scope)
      (some ("0x" ++ Text.upperHex 4 e.lastAddress.toNat)) :=
    Node.writes_filtered _ (v := .integer e.lastAddress.toNat) rfl
  have h : Writes (("p", e.toTemplate) :: scope) loaderEntry _ :=
    .cons (Node.writes_text _) <| .cons (Node.writes_path rfl) <| .cons (Node.writes_text _) <|
      .cons haddress <| .cons (Node.writes_text _) <| .cons hlast <| .cons (Node.writes_text _) <|
      .cons (Node.writes_path rfl) <| .cons (Node.writes_text _) <| .cons haddress <|
      .cons (Node.writes_text _) <| .cons (Node.writes_path rfl) <| .cons (Node.writes_text _) .nil
  refine h.of_eq ?_
  delta Entry.rangeLine Entry.copyLine Entry.rangeText
  simp

theorem render_loader (functions : Functions) :
    (render source.scope loaderNodes functions).toOption = some (Text.unlines
      ([] :: source.map.entries.flatMap fun e => [e.rangeLine, e.copyLine])) := by
  have hentries : (eachEntry loaderEntry).Writes source.scope
      ((linesOf? (fun e => some [e.rangeLine, e.copyLine]) source.map.entries).map Text.broken) :=
    writes_eachEntry fun e n left => writes_loaderEntry
  have h : Writes source.scope loaderNodes _ := .cons hentries <| .cons (Node.writes_text _) .nil
  rw [h.render functions, linesOf?_some, ← Text.broken_newline]
  rfl

end MapLoom.Template
