import MapLoom.Schema.Entry
import MapLoom.Text.Blank

set_option autoImplicit false

/-!
# Printed forms of fields and entries

One line for each property that is set, and the fields and the description indented below their
headings.
-/
namespace MapLoom

/-- Puts four spaces before every line; after a final line feed there is no line. -/
def indent (t : Text) : Text :=
  let padded := Text.join "\n" ((t.splitAt '\n').map ("    " ++ ·))
  if t.getLast? = some '\n' then padded.take (padded.length - 4) else padded

def labelled (label value : Text) : Text := if value = [] then [] else label ++ value ++ "\n"

def described (description : Text) : Text :=
  if description = [] then [] else "description:\n" ++ indent description

namespace Field

def listing (f : Field) : Text :=
  let lines : Text :=
    "name: " ++ f.name ++ "\n" ++
    labelled "brief: " f.brief ++
    "pos:  " ++ (Text.ofNat f.pos.toNat).leftpad 2 ' ' ++ "\n" ++
    "bits: " ++ (Text.ofNat f.bits.toNat).leftpad 2 ' ' ++ "\n" ++
    labelled "resolve_as: " f.resolveAs ++
    (if f.isArray then "num_entries: " ++ Text.ofNat f.numEntries.toNat ++ "\n" else []) ++
    described f.description
  lines.trim ++ "\n"

end Field

namespace Entry

def header (e : Entry) : Text :=
  "name:      " ++ e.name ++ "\n" ++
  labelled "brief:     " e.brief ++
  "address:   0x" ++ Text.hex 4 e.address.toNat ++ "\n" ++
  "length:    0x" ++ Text.hex 4 e.length.toNat ++ "\n"

def listing (e : Entry) : Text :=
  let lines := e.header
  let lines : Text :=
    if e.fields = [] then lines
    else (lines ++ "fields:\n" ++ (e.fields.map (indent ·.listing)).flatten).trim ++ "\n"
  if e.description = [] then lines else (lines ++ described e.description).trim ++ "\n"

end Entry
end MapLoom
