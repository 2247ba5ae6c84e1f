import MapLoom.Template.Tree

set_option autoImplicit false

/-!
# Bundled templates

The four templates that every project has: the header with the type of each entry, the loader that
copies the entries out of the calibration page, the example that prints them, and the same types for
a Python interface. Entries are bound to `p` and their fields to `f`.
-/
namespace MapLoom.Template

inductive Bundled
  | header
  | loader
  | printer
  | shim
  deriving DecidableEq

namespace Bundled

def all : List Bundled := [.header, .loader, .printer, .shim]

def tag : Bundled → Text
  | .header => "gen_calibration_v5_h"
  | .loader => "gen_calibration_v5_c"
  | .printer => "gen_cal_v5_c_example"
  | .shim => "gen_calibration_v5_shim"

def entry (key : Text) : Node := .print (.value (.path ["p", key]))

def entryHex (key : Text) : Node := .print (.value (.filtered (.path ["p", key]) "hex"))

def field (key : Text) : Node := .print (.value (.path ["f", key]))

def fieldType (filter : Text) : Node :=
  .print (.value (.filtered (.path ["f", "resolve_as"]) filter))

def eachEntry (body : List Node) : Node := .each "p" (.path ["parameters_list"]) body

def eachField (body : List Node) : Node := .each "f" (.path ["p", "fields"]) body

def ifOwner (body : List Node) : Node := .branch (.value (.path ["p", "is_band_owner"])) body []

def ifNoFields (body : List Node) : Node :=
  .branch (.negated (.value (.path ["p", "fields"]))) body []

def ifArray (yes no : List Node) : Node :=
  .branch (.compared .gt (.path ["f", "num_entries"]) (.literal (.integer 0))) yes no

def headerField : List Node :=
  [.text "\n    ", field "resolve_as", .text " ", field "name_snake",
    ifArray [.text "[", field "num_entries", .text "]"] [], .text ";"]

def headerOwner : List Node :=
  [.text "\nstruct ", entry "band_agnostic_name", .text "V5 \x7b", eachField headerField,
    ifNoFields [.text "\n    uint8_t raw[", entry "length", .text "];"], .text "\n\x7d;"]

def headerMember : List Node :=
  [.text "\n    struct ", entry "band_agnostic_name", .text "V5 ", entry "name_snake", .text ";"]

def headerNodes : List Node :=
  [eachEntry [ifOwner headerOwner], .text "\n\nstruct Ex10CalibrationParamsV5 \x7b",
    eachEntry headerMember, .text "\n\x7d;\n\n#define EX10_CALIBRATION_V5_LENGTH ",
    .print (.value (.filtered (.path ["total_length"]) "hex")), .text "u\n"]

def loaderEntry : List Node :=
  [.text "\n    // ", entry "name", .text ": [", entryHex "address", .text ":",
    entryHex "end_address", .text "]\n    memcpy(&calibration_v5.", entry "name_snake",
    .text ", calibration_page + ", entryHex "address", .text "u, ", entry "length", .text "u);"]

def loaderNodes : List Node := [eachEntry loaderEntry, .text "\n"]

def printerArray : List Node :=
  [.text "\n    ex10_ex_printf(\"    ", field "name_snake",
    .text ":\");\n    for (size_t idx = 0u; idx < ", field "num_entries",
    .text "u; ++idx)\n    \x7b\n        ex10_ex_printf(\" ", fieldType "printf_format",
    .text ",\", calibration->", entry "name_snake", .text ".", field "name_snake",
    .text "[idx]);\n    \x7d\n    ex10_ex_printf(\"\\n\");"]

def printerScalar : List Node :=
  [.text "\n    ex10_ex_printf(\"    ", field "name_snake", .text ": ", fieldType "printf_format",
    .text "\\n\", calibration->", entry "name_snake", .text ".", field "name_snake", .text ");"]

def printerOwner : List Node :=
  [.text "\n    ex10_ex_printf(\"", entry "band_agnostic_name", .text ":\\n\");",
    eachField [ifArray printerArray printerScalar]]

def printerNodes : List Node := [eachEntry [ifOwner printerOwner], .text "\n"]

def shimField : List Node :=
  [.text "\n        ('", field "name_snake", .text "', ", fieldType "ctype",
    ifArray [.text " * ", field "num_entries"] [], .text "),"]

def shimOwner : List Node :=
  [.text "\nclass ", entry "band_agnostic_name", .text "V5(Structure):\n    _fields_ = [",
    eachField shimField,
    ifNoFields [.text "\n        ('raw', c_uint8 * ", entry "length", .text "),"],
    .text "\n    ]"]

def shimMember : List Node :=
  [.text "\n        ('", entry "name_snake", .text "', ", entry "band_agnostic_name",
    .text "V5),"]

def shimNodes : List Node :=
  [eachEntry [ifOwner shimOwner],
    .text "\n\nclass Ex10CalibrationParamsV5(Structure):\n    _fields_ = [",
    eachEntry shimMember, .text "\n    ]\n"]

def nodes : Bundled → List Node
  | .header => headerNodes
  | .loader => loaderNodes
  | .printer => printerNodes
  | .shim => shimNodes

end Bundled
end MapLoom.Template
