import RegionGraph.Registry

/-!
# Regions

A region is a node of the graph: endpoints as its type describes them, parameters,
and the state of its implementation. Its parameters are a snapshot that is kept
in step with what the implementation accepts. The implementation is started at
most once successfully, and never again after it was restored as started.
-/

namespace RegionGraph

/-- How often something was computed and how many nanoseconds it took altogether. -/
structure Timing where
  count : Nat
  total : Nat
deriving DecidableEq

/-- The mean time of a computation, rounded down and kept within 64 bits; without
    computations it is zero. -/
def Timing.average (timing : Timing) : Nat :=
  if timing.count = 0 then 0 else min (timing.total / timing.count) (UInt64.size - 1)

/-- A node of the graph. -/
structure Region (κ : Type) where
  name : String
  type : String
  spec : Spec
  params : Params
  outputs : NameMap Endpoint
  inputs : NameMap Input
  state : κ
  /-- Whether the implementation was started. -/
  initialized : Bool
  /-- The level in the execution order, while there is one. -/
  phase : Option Nat
  /-- Computations counted while profiling. How long they took depends on the clock, and is not
  kept. -/
  computes : Nat

namespace Region

variable {κ : Type}

/-- A region that was never started, with unlinked endpoints. -/
def new (name type : String) (spec : Spec) (params : Params) (state : κ) : Region κ where
  name
  type
  spec
  params
  outputs := .ofList (spec.outputs.map (fun (endpoint, declared) =>
    (endpoint, Endpoint.new name endpoint declared.type declared.isDefault)))
  inputs := .ofList (spec.inputs.map (fun (endpoint, declared) =>
    (endpoint, Input.new name endpoint declared.type declared.required declared.isDefault)))
  state
  initialized := false
  phase := none
  computes := 0

/-- An output by name. -/
def output (region : Region κ) (name : String) : Except GraphError Endpoint :=
  match region.outputs.get? name with
  | some endpoint => .ok endpoint
  | none => .error (.unknownOutput region.name name)

/-- An input by name. -/
def input (region : Region κ) (name : String) : Except GraphError Input :=
  match region.inputs.get? name with
  | some input => .ok input
  | none => .error (.unknownInput region.name name)

/-- Change an output. -/
def modifyOutput (region : Region κ) (name : String)
    (change : Endpoint → Except GraphError Endpoint) :
    Except GraphError (Region κ) := do
  let endpoint ← region.output name
  let changed ← change endpoint
  return { region with outputs := region.outputs.insert name changed }

/-- Change an input. -/
def modifyInput (region : Region κ) (name : String) (change : Input → Except GraphError Input) :
    Except GraphError (Region κ) := do
  let input ← region.input name
  let changed ← change input
  return { region with inputs := region.inputs.insert name changed }

/-- Put saved outputs in place, in name order. -/
def restoreOutputs (region : Region κ) : List (String × Buffer) → Except GraphError (Region κ)
  | [] => .ok region
  | (name, saved) :: rest => do
    let region ← region.modifyOutput name (fun endpoint => endpoint.restore saved)
    region.restoreOutputs rest

/-- A region as its record describes it. Declared outputs without a saved buffer
    stay without storage. -/
def restored (name type : String) (spec : Spec) (record : RegionRecord) (state : κ) :
    Except GraphError (Region κ) := do
  let region ← (new name type spec record.params state).restoreOutputs record.outputs.entries
  return { region with initialized := record.initialized }

variable [Implementation κ]

/-- The current value of a declared parameter: what the implementation says, else
    the snapshot. -/
def parameter (region : Region κ) (name : String) : Except GraphError Value :=
  match region.spec.parameter? name with
  | none => .error (.invalidParameter name (.undeclaredBy region.type))
  | some _ =>
    match Implementation.parameter? region.state name <|> region.params.get? name with
    | some value => .ok value
    | none => .error (.invalidParameter name .unavailable)

omit [Implementation κ] in
/-- The value for a parameter in the declared type, if it may be written while the region
    exists. -/
def checkParameter (region : Region κ) (name : String) (value : Value) :
    Except GraphError Value :=
  match region.spec.parameter? name with
  | none => .error (.invalidParameter name (.undeclaredBy region.type))
  | some declared =>
    if declared.access ≠ .readWrite then .error (.parameterNotWritable region.name name)
    else declared.check name value

/-- Give a parameter a new value while the region exists. The implementation is
    asked first; the snapshot follows only when it accepts. -/
def setParameter (region : Region κ) (name : String) (value : Value) :
    Region κ × Except GraphError Unit :=
  match region.checkParameter name value with
  | .error fault => (region, .error fault)
  | .ok converted =>
    match Implementation.setParameter region.state name converted with
    | (state, .ok _) =>
      ({ region with state, params := region.params.insert name converted }, .ok ())
    | (state, .error fault) => ({ region with state }, .error fault)

/-- The length of an output: the declared one, else what the implementation says
    for the known lengths of inputs. -/
def outputCount? (region : Region κ) (output : String) (widths : NameMap Nat) : Option Nat :=
  match region.spec.output? output with
  | none => none
  | some declared =>
    if 0 < declared.count then some declared.count
    else Implementation.outputCount? region.state output widths

/-- Start the implementation, unless it was started before. -/
def start (region : Region κ) : Region κ × Except GraphError Unit :=
  if region.initialized then (region, .ok ())
  else
    match Implementation.start region.state with
    | (state, .ok _) => ({ region with state, initialized := true }, .ok ())
    | (state, .error fault) => ({ region with state }, .error fault)

/-- What the implementation gets to see in a cycle. -/
def exchange (region : Region κ) (iteration : UInt64) : Exchange where
  region := region.name
  iteration
  connected := (region.inputs.entries.filter (fun entry => entry.2.isLinked)).map Prod.fst
  inputs := region.inputs.map (fun _ input => input.buffer)
  outputs := region.outputs.map (fun _ endpoint => endpoint.buffer)

/-- Take over what the implementation wrote into its buffers. -/
def absorb (region : Region κ) (io : Exchange) : Region κ :=
  { region with
    inputs := region.inputs.map (fun name input =>
      input.withBuffer (input.buffer.refill ((io.inputs.get? name).getD input.buffer)))
    outputs := region.outputs.map (fun name endpoint =>
      { endpoint with
        buffer := endpoint.buffer.refill ((io.outputs.get? name).getD endpoint.buffer) }) }

/-- Compute one cycle. -/
def compute (region : Region κ) (iteration : UInt64) (profiling : Bool) :
    Region κ × Except GraphError Unit :=
  let outcome := Implementation.compute region.state (region.exchange iteration)
  let region := { region.absorb outcome.exchange with state := outcome.state }
  match outcome.result with
  | .ok _ =>
    (if profiling then { region with computes := region.computes + 1 } else region, .ok ())
  | .error fault => (region, .error fault)

/-- The record of a region. -/
def record (region : Region κ) : Except GraphError RegionRecord := do
  let state ← Implementation.save region.state
  return ⟨region.type, region.params, state, region.outputs.map (fun _ endpoint => endpoint.buffer),
    region.initialized⟩

end Region

end RegionGraph
