import RegionGraph.Implementation

/-!
# Accumulators

Sums every element of the input over all computations, in 64 bits. When the
input changes its length, sums past the end are dropped and new elements start
at zero.
-/

namespace RegionGraph

/-- The sums of an accumulator. -/
structure Accumulator where
  sums : List Int64
deriving DecidableEq

namespace Accumulator

/-- The description of the type. -/
def spec : Spec where
  description := "Running sum of every input element"
  parameters := [
    ("reset", { ParameterSpec.new .bool .readWrite with
      description := "Writing true clears the sums"
      default := some (.scalar ⟨.bool, false⟩) })]
  inputs := [("in", { InputSpec.new .int32 with required := true, isDefault := true })]
  outputs := [("sum", { OutputSpec.new .int64 with isDefault := true })]

/-- The sums after adding the elements of an input to them. -/
def add (sums : List Int64) (elements : List Int32) : List Int64 :=
  List.zipWith (fun sum element => sum + element.toInt64)
    (sums.take elements.length ++ List.replicate (elements.length - sums.length) 0) elements

/-- The region type. -/
def type : RegionType Accumulator where
  spec
  create _ _ _ := .ok ⟨[]⟩
  restore record _ _ := do return ⟨← decodeState (Codec.list Codec.int64) record.state⟩

/-- Show the sums. The output has to be as long as they are. -/
def publish (state : Accumulator) (io : Exchange) : Except GraphError Exchange := do
  let output ← io.output "sum"
  let shown ← io.modifyOutput .int64 "sum" (fun _ => state.sums)
  if output.length = state.sums.length then return shown
  else throw (.data (.lengthMismatch state.sums.length output.length))

instance : Implementation Accumulator where
  start state := (state, .ok ())
  compute state io :=
    match io.readInput .int32 "in" with
    | .error fault => ⟨state, io, .error fault⟩
    | .ok elements =>
      let state : Accumulator := ⟨add state.sums elements⟩
      match state.publish io with
      | .ok io => ⟨state, io, .ok ()⟩
      | .error fault => ⟨state, io, .error fault⟩
  save state := .ok ((Codec.list Codec.int64).encode state.sums)
  parameter? _ name := if name = "reset" then some (.scalar ⟨.bool, false⟩) else none
  setParameter state name value := wholly state do
    if name = "reset" then
      let reset ← readElement .bool name value
      return if reset then ⟨state.sums.map (fun _ => 0)⟩ else state
    else throw (.invalidParameter name .notWritable)
  outputCount? _ output widths := if output = "sum" then widths.get? "in" else none

end Accumulator

end RegionGraph
