import MapLoom.Schema.AddressMap
import MapLoom.Template.Filter

set_option autoImplicit false

/-!
# Declarations of a layout

A layout declares a struct for each entry that owns its type, and one more struct with a member for
every entry. It can be written in C, and, if each of its scalar types has a name there, for
`ctypes`. A field is an array in either language if it has elements.
-/
namespace MapLoom

/-- The lines of all elements, if every element has lines. -/
def linesOf? {α : Type} (lines? : α → Option (List Text)) (as : List α) : Option (List Text) :=
  (as.mapM lines?).map List.flatten

section Lines
variable {α β : Type} {lines? : α → Option (List Text)}

theorem linesOf?_cons (a : α) (as : List α) : linesOf? lines? (a :: as) =
    (lines? a).bind fun lines => (linesOf? lines? as).map (lines ++ ·) := by
  unfold linesOf?
  rw [List.mapM_cons]
  cases lines? a with
  | none => rfl
  | some lines => cases as.mapM lines? <;> rfl

@[simp] theorem linesOf?_some (lines : α → List Text) (as : List α) :
    linesOf? (fun a => some (lines a)) as = some (as.flatMap lines) := by
  induction as with
  | nil => rfl
  | cons a as ih =>
    rw [linesOf?_cons, ih]
    rfl

theorem isSome_linesOf?_iff {as : List α} :
    (linesOf? lines? as).isSome ↔ ∀ a ∈ as, (lines? a).isSome := by
  induction as with
  | nil => exact ⟨fun _ => nofun, fun _ => rfl⟩
  | cons a as ih =>
    rw [linesOf?_cons, List.forall_mem_cons, ← ih]
    cases lines? a with
    | none => simp
    | some lines => simp

theorem exists_subset_of_linesOf? {as : List α} {all : List Text}
    (h : linesOf? lines? as = some all) {a : α} (ha : a ∈ as) :
    ∃ lines, lines? a = some lines ∧ lines ⊆ all := by
  induction as generalizing all with
  | nil => cases ha
  | cons b as ih =>
    rw [linesOf?_cons] at h
    obtain ⟨first, hfirst, h⟩ := Option.bind_eq_some_iff.1 h
    obtain ⟨rest, hrest, rfl⟩ := Option.map_eq_some_iff.1 h
    rcases List.mem_cons.1 ha with rfl | ha
    · exact ⟨first, hfirst, List.subset_append_left _ _⟩
    · obtain ⟨lines, hlines, hsub⟩ := ih hrest ha
      exact ⟨lines, hlines, List.subset_append_of_subset_right _ hsub⟩

theorem exists_of_mem_linesOf? {as : List α} {all : List Text} (h : linesOf? lines? as = some all)
    {line : Text} (hline : line ∈ all) : ∃ a ∈ as, ∃ lines, lines? a = some lines ∧ line ∈ lines := by
  induction as generalizing all with
  | nil =>
    cases h
    cases hline
  | cons b as ih =>
    rw [linesOf?_cons] at h
    obtain ⟨first, hfirst, h⟩ := Option.bind_eq_some_iff.1 h
    obtain ⟨rest, hrest, rfl⟩ := Option.map_eq_some_iff.1 h
    rcases List.mem_append.1 hline with hline | hline
    · exact ⟨b, List.mem_cons_self, first, hfirst, hline⟩
    · obtain ⟨a, ha, found⟩ := ih hrest hline
      exact ⟨a, List.mem_cons_of_mem b ha, found⟩

theorem linesOf?_filter (keep : α → Bool) (as : List α) :
    linesOf? (fun a => if keep a then lines? a else some []) as =
      linesOf? lines? (as.filter keep) := by
  induction as with
  | nil => rfl
  | cons a as ih =>
    rw [linesOf?_cons, ih, List.filter_cons]
    cases keep a with
    | true => exact (linesOf?_cons a _).symm
    | false =>
      change (linesOf? lines? (as.filter keep)).map ([] ++ ·) = _
      exact Option.map_id'

theorem linesOf?_map (f : β → α) (bs : List β) :
    linesOf? lines? (bs.map f) = linesOf? (fun b => lines? (f b)) bs := by
  induction bs with
  | nil => rfl
  | cons b bs ih => rw [List.map_cons, linesOf?_cons, linesOf?_cons, ih]

theorem linesOf?_singleton (line? : α → Option Text) (as : List α) :
    linesOf? (fun a => (line? a).map ([·])) as = as.mapM line? := by
  induction as with
  | nil => rfl
  | cons a as ih =>
    rw [linesOf?_cons, ih, List.mapM_cons]
    cases line? a with
    | none => rfl
    | some line => cases as.mapM line? <;> rfl

end Lines

structure FieldDecl where
  name : Text
  type : Text
  /-- The number of elements of an array, or zero for a scalar. -/
  count : UInt32

namespace FieldDecl

def arraySuffix (f : FieldDecl) (start stop : Text) : Text :=
  if 0 < f.count then start ++ Text.ofNat f.count.toNat ++ stop else []

def cLine (f : FieldDecl) : Text :=
  "    " ++ f.type ++ " " ++ f.name ++ f.arraySuffix "[" "]" ++ ";"

def ctypesLine? (f : FieldDecl) : Option Text :=
  (Template.ctypeName? f.type).map fun type =>
    "        ('" ++ f.name ++ "', " ++ type ++ f.arraySuffix " * " [] ++ "),"

end FieldDecl

/-- What a struct holds: fields, or bytes where no fields are known. -/
inductive StructBody
  | fields (decls : List FieldDecl)
  | raw (length : UInt64)

namespace StructBody

def cLines : StructBody → List Text
  | .fields decls => decls.map FieldDecl.cLine
  | .raw length => ["    uint8_t raw[" ++ Text.ofNat length.toNat ++ "];"]

def ctypesLines? : StructBody → Option (List Text)
  | .fields decls => decls.mapM FieldDecl.ctypesLine?
  | .raw length => some ["        ('raw', c_uint8 * " ++ Text.ofNat length.toNat ++ "),"]

end StructBody

structure StructDecl where
  name : Text
  body : StructBody

namespace StructDecl

def cLines (d : StructDecl) : List Text :=
  ("struct " ++ d.name ++ "V5 \x7b") :: (d.body.cLines ++ [("\x7d;" : Text)])

def ctypesLines? (d : StructDecl) : Option (List Text) :=
  d.body.ctypesLines?.map fun lines =>
    ("class " ++ d.name ++ "V5(Structure):") :: "    _fields_ = [" :: (lines ++ [("    ]" : Text)])

end StructDecl

structure MemberDecl where
  type : Text
  name : Text
  deriving DecidableEq

namespace MemberDecl

def cLine (d : MemberDecl) : Text := "    struct " ++ d.type ++ "V5 " ++ d.name ++ ";"

def ctypesLine (d : MemberDecl) : Text := "        ('" ++ d.name ++ "', " ++ d.type ++ "V5),"

end MemberDecl

/-- The structs of a memory, the members of the struct of all of it, and its length in bytes. -/
structure Layout where
  structs : List StructDecl
  members : List MemberDecl
  length : UInt64

namespace Layout

def cMembers (l : Layout) : List Text :=
  "struct Ex10CalibrationParamsV5 \x7b" :: (l.members.map MemberDecl.cLine ++ [("\x7d;" : Text)])

def ctypesMembers (l : Layout) : List Text :=
  "class Ex10CalibrationParamsV5(Structure):" :: "    _fields_ = [" ::
    (l.members.map MemberDecl.ctypesLine ++ [("    ]" : Text)])

def cLength (l : Layout) : Text :=
  "#define EX10_CALIBRATION_V5_LENGTH 0x" ++ Text.upperHex 4 l.length.toNat ++ "u"

def cLines (l : Layout) : List Text :=
  l.structs.flatMap StructDecl.cLines ++ [] :: l.cMembers ++ [[], l.cLength]

def ctypesLines? (l : Layout) : Option (List Text) :=
  (linesOf? StructDecl.ctypesLines? l.structs).map fun lines => lines ++ [] :: l.ctypesMembers

end Layout

def Field.decl (f : Field) : FieldDecl := ⟨f.snakeName, f.resolveAs, f.numEntries⟩

def Entry.decl (e : Entry) : StructDecl :=
  ⟨e.bandName.name, if e.fields = [] then .raw e.length else .fields (e.fields.map Field.decl)⟩

def Entry.member (e : Entry) : MemberDecl := ⟨e.bandName.name, e.snakeName⟩

@[simp] theorem Field.decl_name (f : Field) : f.decl.name = f.snakeName := rfl
@[simp] theorem Field.decl_type (f : Field) : f.decl.type = f.resolveAs := rfl
@[simp] theorem Entry.decl_name (e : Entry) : e.decl.name = e.bandName.name := rfl
@[simp] theorem Entry.member_type (e : Entry) : e.member.type = e.bandName.name := rfl
@[simp] theorem Entry.member_name (e : Entry) : e.member.name = e.snakeName := rfl

section Bodies
variable (e : Entry)

theorem Entry.decl_body_cLines : some e.decl.body.cLines =
    if e.fields = [] then some [("    uint8_t raw[" : Text) ++ Text.ofNat e.length.toNat ++ "];"]
    else linesOf? (fun f => some [f.decl.cLine]) e.fields := by
  unfold Entry.decl
  dsimp only
  split
  · rfl
  · rw [linesOf?_some, StructBody.cLines, List.map_map, List.map_eq_flatMap]
    rfl

theorem Entry.decl_body_ctypesLines? : e.decl.body.ctypesLines? =
    if e.fields = [] then
      some [("        ('raw', c_uint8 * " : Text) ++ Text.ofNat e.length.toNat ++ "),"]
    else linesOf? (fun f => f.decl.ctypesLine?.map ([·])) e.fields := by
  unfold Entry.decl
  dsimp only
  split
  · rfl
  · rw [StructBody.ctypesLines?, ← linesOf?_singleton, linesOf?_map]

end Bodies

namespace Entry

def rangeLine (e : Entry) : Text := "    // " ++ e.rangeText

def copyLine (e : Entry) : Text :=
  "    memcpy(&calibration_v5." ++ e.snakeName ++ ", calibration_page + 0x" ++
    Text.upperHex 4 e.address.toNat ++ "u, " ++ Text.ofNat e.length.toNat ++ "u);"

end Entry

namespace AddressMap

/-- The entries that declare the type of their band name. -/
def owners (m : AddressMap) : List Entry := m.entries.filter (·.bandName.isOwner)

def layout (m : AddressMap) : Layout :=
  ⟨m.owners.map Entry.decl, m.entries.map Entry.member, m.totalLength⟩

end AddressMap
end MapLoom
