import MapLoom.Schema.AddressMap
import MapLoom.Template.Render

set_option autoImplicit false

/-!
# What templates see of a schema

The scope of the calibration generator: the entries in order of address with their fields and
derived names, a few totals, and the path of the schema file.
-/
namespace MapLoom
open Template (Scope Value)

structure SchemaSource where
  yamlPath : Text
  map : AddressMap

def InitValue.toTemplate : InitValue → Value
  | .integer n => .integer n
  | .float x => .ofFloat x

def Field.toTemplate (f : Field) : Value :=
  .object
    [("name", .text f.name),
      ("name_snake", .text f.snakeName),
      ("pos", .integer f.pos.toNat),
      ("bits", .integer f.bits.toNat),
      ("resolve_as", .text f.resolveAs),
      ("num_entries", .integer f.numEntries.toNat),
      ("init_value", f.initValue.toTemplate),
      ("is_float", .bool f.isFloat),
      ("brief", .text f.brief),
      ("description", .text f.description)]

def Entry.toTemplate (e : Entry) : Value :=
  .object
    [("name", .text e.name),
      ("name_snake", .text e.snakeName),
      ("band_agnostic_name", .text e.bandName.name),
      ("band_agnostic_snake", .text (MapLoom.snakeName e.bandName.name)),
      ("is_band_owner", .bool e.bandName.isOwner),
      ("address", .integer e.address.toNat),
      ("length", .integer e.length.toNat),
      ("end_address", .integer e.lastAddress.toNat),
      ("brief", .text e.brief),
      ("description", .text e.description),
      ("fields", .list (e.fields.map Field.toTemplate))]

def SchemaSource.scope (s : SchemaSource) : Scope :=
  [("brief", .text s.map.brief),
    ("parameters_list", .list (s.map.entries.map Entry.toTemplate)),
    ("parameters_name_len_max", .integer s.map.nameWidth),
    ("total_length", .integer s.map.totalLength.toNat),
    ("yaml_path", .text s.yamlPath)]

end MapLoom
