import RegionGraph.Implementation

/-!
# Counting sources

A source without inputs. At its k-th computation, counted from zero, element `i`
of its output is `start + step * k + i`, reduced to 32 bits.
-/

namespace RegionGraph

/-- The state of a counting source. -/
structure CounterSource where
  width : UInt32
  start : Int32
  step : Int32
  /-- Completed computations. -/
  ticks : UInt64
deriving DecidableEq

namespace CounterSource

/-- The description of the type. -/
def spec : Spec where
  description := "Counting source; element i of cycle k is start + step * k + i"
  parameters := [
    ("width", { ParameterSpec.new .uint32 .createOnly with
      description := "Number of output elements"
      constraints := ">= 1"
      default := some (.scalar ⟨.uint32, 4⟩) }),
    ("start", { ParameterSpec.new .int32 .readWrite with
      description := "Value of element 0 at the first compute"
      default := some (.scalar ⟨.int32, 0⟩) }),
    ("step", { ParameterSpec.new .int32 .readWrite with
      description := "Increase per compute"
      default := some (.scalar ⟨.int32, 1⟩) })]
  inputs := []
  outputs := [
    ("out", { OutputSpec.new .int32 with
      description := "Counter values, `width` elements"
      isDefault := true })]

/-- A source with given parameters that has computed a number of times. -/
def configure (params : Params) (ticks : UInt64) : Except GraphError CounterSource := do
  let width ← liftData (params.element .uint32 "width")
  if width = 0 then throw (.invalidParameter "width" .belowOne)
  let start ← liftData (params.element .int32 "start")
  let step ← liftData (params.element .int32 "step")
  return ⟨width, start, step, ticks⟩

/-- The first element of the next computation. -/
def base (source : CounterSource) : Int32 :=
  source.start + source.step * source.ticks.toUInt32.toInt32

/-- The elements of the next computation for a given number of them. -/
def elements (source : CounterSource) (count : Nat) : List Int32 :=
  (List.range count).map (fun index => source.base + (UInt32.ofNat index).toInt32)

/-- The region type. -/
def type : RegionType CounterSource where
  spec
  create params _ _ := configure params 0
  restore record _ _ := do
    let ticks ← decodeState Codec.uint64 record.state
    configure record.params ticks

instance : Implementation CounterSource where
  start source := (source, .ok ())
  compute source io :=
    match io.modifyOutput .int32 "out" (fun former => source.elements former.length) with
    | .ok io => ⟨{ source with ticks := source.ticks + 1 }, io, .ok ()⟩
    | .error fault => ⟨source, io, .error fault⟩
  save source := .ok (Codec.uint64.encode source.ticks)
  parameter? source name :=
    if name = "start" then some (.scalar ⟨.int32, source.start⟩)
    else if name = "step" then some (.scalar ⟨.int32, source.step⟩)
    else none
  setParameter source name value := wholly source do
    if name = "start" then return { source with start := ← readElement .int32 name value }
    else if name = "step" then return { source with step := ← readElement .int32 name value }
    else throw (.invalidParameter name .notWritable)
  outputCount? source output _ := if output = "out" then some source.width.toNat else none

end CounterSource

end RegionGraph
