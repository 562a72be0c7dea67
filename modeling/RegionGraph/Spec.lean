import RegionGraph.GraphError

/-!
# Region types described

A specification lists the parameters, inputs and outputs of a region type in the
order of their declaration. A valid one has distinct names, at most one default
endpoint on each side, and defaults that fit. Parameters supplied for a new region
are checked against it and completed: every value takes the declared type, and
each parameter left out takes its default.
-/

namespace RegionGraph

/-- When a parameter may be given a value. -/
inductive Access where
  /-- Never: the region answers it. -/
  | readOnly
  /-- At creation and later. -/
  | readWrite
  /-- At creation. -/
  | createOnly
deriving DecidableEq, Inhabited

/-- A declared parameter. A count of zero admits any number of items. -/
structure ParameterSpec where
  type : ElementType
  access : Access
  count : Nat
  description : String
  constraints : String
  default : Option Value
deriving DecidableEq

/-- A declared input. A count of zero takes whatever the links bring. -/
structure InputSpec where
  type : ElementType
  count : Nat
  required : Bool
  isDefault : Bool
  description : String
deriving DecidableEq

/-- A declared output. A count of zero leaves the length to the region. -/
structure OutputSpec where
  type : ElementType
  count : Nat
  isDefault : Bool
  description : String
deriving DecidableEq

/-- The description of a region type, endpoints and parameters in declaration order. -/
structure Spec where
  description : String
  parameters : List (String × ParameterSpec)
  inputs : List (String × InputSpec)
  outputs : List (String × OutputSpec)
deriving DecidableEq

namespace ParameterSpec

/-- A parameter of one item without a default. -/
def new (type : ElementType) (access : Access) : ParameterSpec :=
  ⟨type, access, 1, "", "", none⟩

/-- A parameter that holds a text. -/
def text (access : Access) : ParameterSpec :=
  { new .byte access with count := 0 }

/-- Bytes without a count are text. -/
def isText (parameter : ParameterSpec) : Bool :=
  parameter.type == .byte && parameter.count == 0

/-- What a parameter wants, in words. -/
def expected (parameter : ParameterSpec) : String :=
  if parameter.isText then "string"
  else
    match parameter.count with
    | 0 => "sequence of " ++ parameter.type.name
    | 1 => parameter.type.name
    | count => Nat.repr count ++ " x " ++ parameter.type.name

/-- What a value is, in words. -/
def describe : Value → String
  | .scalar s => s.type.name
  | .text _ => "string"
  | .sequence [] => "empty sequence"
  | .sequence (first :: rest) => Nat.repr (rest.length + 1) ++ " x " ++ first.type.name

/-- Whether a value has the shape of a parameter that is no text: a scalar where
    one item or any number is wanted, a sequence where any number is, or where
    its length is the one wanted and more than one. -/
def admits (parameter : ParameterSpec) : Value → Bool
  | .text _ => false
  | .scalar _ => parameter.count ≤ 1
  | .sequence items =>
    parameter.count == 0 || (items.length == parameter.count && 1 < parameter.count)

/-- A value in the declared type, if it has the declared shape and converts. -/
def convert? (parameter : ParameterSpec) (value : Value) : Option Value :=
  if parameter.isText then value.text?.map Value.text
  else if parameter.admits value then value.convert? parameter.type
  else none

/-- Check a value for a parameter of a given name. -/
def check (parameter : ParameterSpec) (name : String) (value : Value) : Except GraphError Value :=
  match parameter.convert? value with
  | some converted => .ok converted
  | none => .error (.parameterMismatch name parameter.expected (describe value))

end ParameterSpec

namespace InputSpec

/-- An optional input of any length. -/
def new (type : ElementType) : InputSpec := ⟨type, 0, false, false, ""⟩

end InputSpec

namespace OutputSpec

/-- An output whose length the region decides. -/
def new (type : ElementType) : OutputSpec := ⟨type, 0, false, ""⟩

end OutputSpec

namespace Spec

/-- A parameter by name; of several the first declared. -/
def parameter? (spec : Spec) (name : String) : Option ParameterSpec := spec.parameters.lookup name

/-- An input by name. -/
def input? (spec : Spec) (name : String) : Option InputSpec := spec.inputs.lookup name

/-- An output by name. -/
def output? (spec : Spec) (name : String) : Option OutputSpec := spec.outputs.lookup name

/-- The name of the default input. -/
def defaultInput? (spec : Spec) : Option String :=
  (spec.inputs.find? (fun entry => entry.2.isDefault)).map Prod.fst

/-- The name of the default output. -/
def defaultOutput? (spec : Spec) : Option String :=
  (spec.outputs.find? (fun entry => entry.2.isDefault)).map Prod.fst

/-- The first name that occurs before in the list. -/
def firstRepeated : List String → List String → Option String
  | _, [] => none
  | seen, name :: rest => if name ∈ seen then some name else firstRepeated (name :: seen) rest

/-- The first flaw of a specification, in the order in which they are looked for. -/
def flaw? (spec : Spec) : Option SpecFlaw :=
  (firstRepeated [] (spec.parameters.map Prod.fst)).map SpecFlaw.duplicateParameter
  <|> (firstRepeated [] (spec.inputs.map Prod.fst)).map SpecFlaw.duplicateInput
  <|> (firstRepeated [] (spec.outputs.map Prod.fst)).map SpecFlaw.duplicateOutput
  <|> (if 1 < (spec.inputs.filter (fun entry => entry.2.isDefault)).length
      then some .severalDefaultInputs else none)
  <|> (if 1 < (spec.outputs.filter (fun entry => entry.2.isDefault)).length
      then some .severalDefaultOutputs else none)
  <|> spec.parameters.findSome? (fun (name, parameter) =>
      match parameter.default with
      | none => none
      | some value =>
        if (parameter.convert? value).isSome then none
        else some (.badDefault name parameter.expected (ParameterSpec.describe value)))

/-- Check a specification under the name of its type. -/
def validate (spec : Spec) (type : String) : Except GraphError Unit :=
  match spec.flaw? with
  | none => .ok ()
  | some flaw => .error (.invalidSpec type flaw)

/-- Check one supplied parameter against its declaration. -/
def checkSupplied (spec : Spec) (name : String) (value : Value) : Except GraphError Value :=
  match spec.parameter? name with
  | none => .error (.invalidParameter name .undeclared)
  | some parameter =>
    if parameter.access = .readOnly then .error (.invalidParameter name .readOnly)
    else parameter.check name value

/-- Check the supplied parameters in name order. -/
def convertSupplied (spec : Spec) : List (String × Value) → Except GraphError Params
  | [] => .ok ∅
  | (name, value) :: rest => do
    let converted ← spec.checkSupplied name value
    let others ← spec.convertSupplied rest
    return others.insert name converted

/-- Fill in the declared parameters that were not supplied, in declaration order. -/
def fillDefaults : List (String × ParameterSpec) → Params → Except GraphError Params
  | [], params => .ok params
  | (name, parameter) :: rest, params =>
    if params.contains name ∨ parameter.access = .readOnly then fillDefaults rest params
    else
      match parameter.default with
      | some value => fillDefaults rest (params.insert name value)
      | none => .error (.missingParameter name)

/-- The parameters of a new region: what was supplied, converted, and defaults for
    the rest. -/
def normalize (spec : Spec) (supplied : Params) : Except GraphError Params := do
  let converted ← spec.convertSupplied supplied.entries
  fillDefaults spec.parameters converted

end Spec

end RegionGraph
