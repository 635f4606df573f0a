import CaptureKit.Mesh.Row

/-!
# Host calls for vertices

Each vertex register has a setter on the host.  A row makes one call for every register
of which it has at least the first lane.  The position comes last, since setting it
submits the vertex.
-/

namespace CaptureKit
namespace Mesh

/-- The lanes of a register in order. -/
def lanes : List String := [".x", ".y", ".z", ".w"]

/-- The registers with their setters, in the order of the calls. -/
def registers : List (String × String) :=
  [("v1", "SetWeight"), ("v2", "SetNormal"), ("v3", "SetDiffuse"), ("v4", "SetSpecular"),
    ("v5", "SetFogCoord"), ("v6", "SetPointSize"), ("v7", "SetBackDiffuse"),
    ("v8", "SetBackSpecular"), ("v9", "SetTexCoord0"), ("v10", "SetTexCoord1"),
    ("v11", "SetTexCoord2"), ("v12", "SetTexCoord3"), ("v0", "SetVertex")]

/-- The registers are the thirteen from `v0` to `v12`. -/
theorem exists_number_of_mem : ∀ register ∈ registers, ∃ n < 13, register.1 = s!"v{n}" := by
  decide +kernel

theorem exists_register_of_lt : ∀ n < 13, ∃ register ∈ registers, register.1 = s!"v{n}" := by
  decide +kernel

/-- The values up to the first that is missing. -/
def present {α : Type} : List (Option α) → List α
  | some a :: rest => a :: present rest
  | _ => []

/-- The values of a register in a row, up to the first missing lane. -/
def laneValues
    (row : Row)
    (register : String) :
    List String :=
  present (lanes.map fun lane => row.value? (register ++ lane))

/-- The call of a setter. -/
def call
    (setter : String)
    (values : List String) :
    String :=
  let arguments := String.intercalate ", " values
  s!"  host_.{setter}({arguments});"

/-- The call for a register of a row, if the row has a value for it. -/
def registerCall?
    (row : Row)
    (register : String × String) :
    Option String :=
  match laneValues row register.1 with
  | [] => none
  | values => some (call register.2 values)

/-- The calls that submit the vertex of a row. -/
def rowCalls (row : Row) : List String :=
  registers.filterMap (registerCall? row)

/-- The calls of a row, one a line, and an empty line. -/
def rowBlock (row : Row) : String :=
  String.join ((rowCalls row).map (· ++ "\n")) ++ "\n"

/-- The calls for a whole table. -/
def hostCalls (table : List Char) : Except TableFault String :=
  (rows table).map fun rows => String.join (rows.map rowBlock)

end Mesh
end CaptureKit
