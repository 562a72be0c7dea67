import RegionGraph.NameMap
import RegionGraph.Value

/-!
# Parameter maps

Parameters are values by name. Reading one as elements of a type accepts every
value that converts to it without loss, and tells a missing parameter from one
of the wrong form.
-/

namespace RegionGraph

/-- Parameter values by name. -/
abbrev Params := NameMap Value

namespace Params

/-- The value of a parameter that has to be present. -/
def require (params : Params) (name : String) : Except DataError Value :=
  match params.get? name with
  | some value => .ok value
  | none => .error (.missingParameter name)

/-- Read a parameter as one element of a type. -/
def element (params : Params) (type : ElementType) (name : String) :
    Except DataError type.Carrier := do
  let value ← params.require name
  match value.scalar?.bind (fun scalar => scalar.element? type) with
  | some element => .ok element
  | none => .error (.parameterMismatch name type.name)

/-- Read a parameter as text. -/
def text (params : Params) (name : String) : Except DataError String := do
  let value ← params.require name
  match value.text? with
  | some content => .ok content
  | none => .error (.parameterMismatch name "string")

/-- Read a parameter as a list of elements; a lone scalar is a list of one. -/
def elements (params : Params) (type : ElementType) (name : String) :
    Except DataError (List type.Carrier) := do
  let value ← params.require name
  let found := match value with
    | .sequence items => items.mapM (fun item : Scalar => item.element? type)
    | .scalar scalar => (scalar.element? type).map (fun element => [element])
    | .text _ => none
  match found with
  | some elements => .ok elements
  | none => .error (.parameterMismatch name ("sequence of " ++ type.name))

/-- Whether two maps bind the same names to values that compare as equal. -/
def same (a b : Params) : Bool :=
  a.size == b.size &&
    (a.entries.zip b.entries).all (fun (x, y) => x.1 == y.1 && x.2.same y.2)

end Params

end RegionGraph
