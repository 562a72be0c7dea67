import RegionGraph.Implementation

/-!
# Scalers

Multiplies every element of the input by a gain, in 32-bit floating point. The
output is as long as the input.
-/

namespace RegionGraph

/-- The product of two elements, rounded to the nearest. -/
def Real32.mul (a b : Real32) : Real32 :=
  ⟨UInt32.ofNat (Binary.single.product a.bits.toNat b.bits.toNat)⟩

/-- The state of a scaler. -/
structure Scaler where
  gain : Real32
deriving DecidableEq

namespace Scaler

/-- The description of the type. -/
def spec : Spec where
  description := "Multiplies every input element by a gain"
  parameters := [
    ("gain", { ParameterSpec.new .real32 .readWrite with
      default := some (.scalar ⟨.real32, ⟨0x3F800000⟩⟩) })]
  inputs := [("in", { InputSpec.new .real32 with isDefault := true })]
  outputs := [("out", { OutputSpec.new .real32 with isDefault := true })]

/-- A scaler with given parameters. -/
def configure (params : Params) : Except GraphError Scaler := do
  return ⟨← liftData (params.element .real32 "gain")⟩

/-- The region type. Nothing but the parameters is kept. -/
def type : RegionType Scaler where
  spec
  create params _ _ := configure params
  restore record _ _ := configure record.params

instance : Implementation Scaler where
  start state := (state, .ok ())
  compute state io :=
    let scaled (element : Real32) : Real32 := element.mul state.gain
    match io.mapInto .real32 .real32 "in" "out" scaled with
    | .ok io => ⟨state, io, .ok ()⟩
    | .error fault => ⟨state, io, .error fault⟩
  save _ := .ok []
  parameter? state name :=
    if name = "gain" then some (.scalar ⟨.real32, state.gain⟩) else none
  setParameter state name value := wholly state do
    if name = "gain" then return ⟨← readElement .real32 name value⟩
    else throw (.invalidParameter name .notWritable)
  outputCount? _ output widths := if output = "out" then widths.get? "in" else none

end Scaler

end RegionGraph
