import RegionGraph.Implementation

/-!
# Incrementers

Adds a constant to every element of the input, reduced to 32 bits. The output is
as long as the input.
-/

namespace RegionGraph

/-- The state of an incrementer. -/
structure Incrementer where
  increment : Int32
deriving DecidableEq

namespace Incrementer

/-- The description of the type. -/
def spec : Spec where
  description := "Adds a constant to every input element"
  parameters := [
    ("increment", { ParameterSpec.new .int32 .readWrite with
      default := some (.scalar ⟨.int32, 1⟩) })]
  inputs := [("in", { InputSpec.new .int32 with required := true, isDefault := true })]
  outputs := [
    ("out", { OutputSpec.new .int32 with
      description := "Same width as the input"
      isDefault := true })]

/-- An incrementer with given parameters. -/
def configure (params : Params) : Except GraphError Incrementer := do
  return ⟨← liftData (params.element .int32 "increment")⟩

/-- The region type. Nothing but the parameters is kept. -/
def type : RegionType Incrementer where
  spec
  create params _ _ := configure params
  restore record _ _ := configure record.params

instance : Implementation Incrementer where
  start state := (state, .ok ())
  compute state io :=
    let raised (element : Int32) : Int32 := element + state.increment
    match io.mapInto .int32 .int32 "in" "out" raised with
    | .ok io => ⟨state, io, .ok ()⟩
    | .error fault => ⟨state, io, .error fault⟩
  save _ := .ok []
  parameter? state name :=
    if name = "increment" then some (.scalar ⟨.int32, state.increment⟩) else none
  setParameter state name value := wholly state do
    if name = "increment" then return ⟨← readElement .int32 name value⟩
    else throw (.invalidParameter name .notWritable)
  outputCount? _ output widths := if output = "out" then widths.get? "in" else none

end Incrementer

end RegionGraph
