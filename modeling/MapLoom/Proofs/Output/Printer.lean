import MapLoom.Proofs.Output.Interface

set_option autoImplicit false

/-!
# The printer

The printer has a line of C for each owner, and one call for each of its fields, or a loop over the
elements if the field is an array. Any type has a conversion, so printing it always succeeds.
-/
namespace MapLoom
open Template (Bundled)

namespace Entry

def memberOf (e : Entry) (f : Field) : Text :=
  "calibration->" ++ e.snakeName ++ "." ++ f.snakeName

def loopLines (e : Entry) (f : Field) : List Text :=
  ["    ex10_ex_printf(\"    " ++ f.snakeName ++ ":\");",
    "    for (size_t idx = 0u; idx < " ++ Text.ofNat f.numEntries.toNat ++ "u; ++idx)",
    "    \x7b",
    "        ex10_ex_printf(\" " ++ Template.printfFormat f.resolveAs ++ ",\", " ++ e.memberOf f ++
      "[idx]);",
    "    \x7d",
    "    ex10_ex_printf(\"\\n\");"]

def callLine (e : Entry) (f : Field) : Text :=
  "    ex10_ex_printf(\"    " ++ f.snakeName ++ ": " ++ Template.printfFormat f.resolveAs ++
    "\\n\", " ++ e.memberOf f ++ ");"

def fieldLines (e : Entry) (f : Field) : List Text :=
  if 0 < f.numEntries then e.loopLines f else [e.callLine f]

def printerLines (e : Entry) : List Text :=
  ("    ex10_ex_printf(\"" ++ e.bandName.name ++ ":\\n\");") :: e.fields.flatMap e.fieldLines

end Entry

namespace Template
open Bundled

variable {scope : Scope} {e : Entry} {f : Field}

theorem applyFilter_printfFormat (type : Text) :
    (applyFilter "printf_format" (.text type)).toOption = some (.text (printfFormat type)) := by
  have hname : Filter.ofName? "printf_format" = some .printfFormat := rfl
  rw [applyFilter_toOption hname]
  rfl

def fieldScope (scope : Scope) (e : Entry) (f : Field) (n left : Nat) : Scope :=
  ("f", f.toTemplate) :: ("loop", progress n left) :: ("p", e.toTemplate) :: scope

theorem writes_format (n left : Nat) :
    (fieldType "printf_format").Writes (fieldScope scope e f n left)
      (some (printfFormat f.resolveAs)) := by
  refine (Node.writes_filtered _ (v := .text f.resolveAs) rfl).of_eq ?_
  rw [applyFilter_printfFormat]
  rfl

theorem writes_printerArray (n left : Nat) :
    Writes (fieldScope scope e f n left) printerArray (some (Text.broken (e.loopLines f))) := by
  have h : Writes (fieldScope scope e f n left) printerArray _ :=
    .cons (Node.writes_text _) <| .cons (Node.writes_path rfl) <| .cons (Node.writes_text _) <|
      .cons (Node.writes_path rfl) <| .cons (Node.writes_text _) <|
      .cons (writes_format n left) <| .cons (Node.writes_text _) <|
      .cons (Node.writes_path rfl) <| .cons (Node.writes_text _) <|
      .cons (Node.writes_path rfl) <| .cons (Node.writes_text _) .nil
  refine h.of_eq ?_
  delta Entry.loopLines Entry.memberOf
  simp

theorem writes_printerScalar (n left : Nat) :
    Writes (fieldScope scope e f n left) printerScalar (some (Text.broken [e.callLine f])) := by
  have h : Writes (fieldScope scope e f n left) printerScalar _ :=
    .cons (Node.writes_text _) <| .cons (Node.writes_path rfl) <| .cons (Node.writes_text _) <|
      .cons (writes_format n left) <| .cons (Node.writes_text _) <|
      .cons (Node.writes_path rfl) <| .cons (Node.writes_text _) <|
      .cons (Node.writes_path rfl) <| .cons (Node.writes_text _) .nil
  refine h.of_eq ?_
  delta Entry.callLine Entry.memberOf
  simp

theorem writes_printerField (n left : Nat) :
    Writes (fieldScope scope e f n left) [ifArray printerArray printerScalar]
      (some (Text.broken (e.fieldLines f))) := by
  refine Writes.of_eq (.cons (writes_ifArray (writes_printerArray n left)
    (writes_printerScalar n left)) .nil) ?_
  rw [glue_nil, Entry.fieldLines]
  split <;> rfl

theorem writes_printerOwner :
    Writes (("p", e.toTemplate) :: scope) printerOwner (some (Text.broken e.printerLines)) := by
  have hfields : (eachField [ifArray printerArray printerScalar]).Writes
      (("p", e.toTemplate) :: scope)
      ((linesOf? (fun f => some (e.fieldLines f)) e.fields).map Text.broken) :=
    writes_eachField fun f n left => writes_printerField n left
  have h : Writes (("p", e.toTemplate) :: scope) printerOwner _ :=
    .cons (Node.writes_text _) <| .cons (Node.writes_path rfl) <| .cons (Node.writes_text _) <|
      .cons hfields .nil
  refine h.of_eq ?_
  rw [linesOf?_some]
  delta Entry.printerLines
  simp

variable {source : SchemaSource}

theorem render_printer (functions : Functions) :
    (render source.scope printerNodes functions).toOption =
      some (Text.unlines ([] :: source.map.owners.flatMap Entry.printerLines)) := by
  have howners : (eachEntry [ifOwner printerOwner]).Writes source.scope
      ((linesOf? (fun e => some e.printerLines) source.map.owners).map Text.broken) :=
    writes_eachOwner fun e n left => writes_printerOwner
  have h : Writes source.scope printerNodes _ := .cons howners <| .cons (Node.writes_text _) .nil
  rw [h.render functions, linesOf?_some, ← Text.broken_newline]
  rfl

end Template

theorem Modules.UsesBundled.render_printer {ms : Modules} (h : ms.UsesBundled .printer)
    (source : SchemaSource) :
    ms.render Bundled.printer.tag source = .ok (normalize (Text.unlines
      ([] :: source.map.owners.flatMap Entry.printerLines))) := by
  refine eq_ok_of_toOption ?_
  rw [h.render_toOption, Bundled.nodes, Template.render_printer]
  rfl

end MapLoom
