import MapLoom.Files.Path

set_option autoImplicit false

/-!
# The configuration of a run

Where the schema, the templates and the target files of a project are, and what marks a generator
block in them.
-/
namespace MapLoom
open Files

structure Config where
  projectRoot : Text
  moduleDir : Text
  yamlPath : Text
  sentinel : Text
  worklist : List Text
  /-- Whether a file should be replaced as a whole and not be changed in place. -/
  atomicWrite : Bool
  /-- The number of bytes that the entries of the schema must fit in. -/
  addressSpace : Option UInt64
  deriving DecidableEq

namespace Config

def defaultWorklist : List Text :=
  ["ex10_c_dev_kit/board/e710_ref_design/calibration_v5.h",
    "ex10_c_dev_kit/board/e710_ref_design/calibration_v5.c",
    "ex10_c_dev_kit/examples/print_calibration_v5.c",
    "ex10_dev_kit/py2c_interface/py2c_python_cal.py"]

def forRoot (root : Text) : Config where
  projectRoot := root
  moduleDir := joinPath root "ex10_calgen/content_template"
  yamlPath := joinPath root "ex10_cal/cal_yaml/cal_info_page_v5.yml"
  sentinel := "Impinj_calgen"
  worklist := defaultWorklist
  atomicWrite := true
  addressSpace := none

/-- A path of the project: a relative one is taken from the project's root. -/
def resolve (c : Config) (path : Text) : Text := joinPath c.projectRoot path

def worklistPaths (c : Config) : List Text := c.worklist.map c.resolve

/-- Whether a path ends with some path of the worklist, component by component. -/
def inWorklist (c : Config) (path : Text) : Bool := c.worklist.any (endsWith path)

end Config
end MapLoom
