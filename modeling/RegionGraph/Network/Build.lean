import RegionGraph.Network.Counts

/-!
# Building a network

Building checks a wired network, gives every buffer its length, and starts the
implementations. All checks come before the first change: a network that fails
one of them is left as it was. After the checks only an implementation can fail;
those that started before it stay started and are not started again.

Memory is taken to hold whatever can be addressed. What cannot be is told apart
before buffers are given their lengths.
-/

namespace RegionGraph

/-- What the checks of a network have found out: the execution order and the lengths of
    all buffers. -/
structure Plan where
  schedule : Schedule
  outputs : OutputCounts
  /-- The lengths of the inputs of each region. -/
  inputs : List (NameMap Nat)

namespace Network

variable {κ : Type}

/-- The execution order, level by level; regions of one level stand in the order
    in which they were added. -/
def schedule (network : Network κ) : Except GraphError Schedule := do
  let graph ← network.directGraph
  match Schedule.ofGraph graph with
  | .ok schedule => return schedule
  | .error members =>
    throw (.cyclicGraph
      (members.filterMap (fun index => network.regions[index]?.map Region.name)))

/-- Check that every input that has to be connected is. -/
def checkRequired (network : Network κ) : Except GraphError Unit :=
  let missing := network.regions.findSome? (fun region =>
    (region.inputs.entries.find? (fun entry => entry.2.required && !entry.2.isLinked)).map
      (fun entry => (region.name, entry.1)))
  match missing with
  | some (region, input) => .error (.missingRequiredInput region input)
  | none => .ok ()

/-- Check that reindexing rules stay inside their sources. -/
def checkReindex (network : Network κ) (counts : OutputCounts) : Except GraphError Unit :=
  network.links.forM (fun link =>
    match link.spec.reindex with
    | none => .ok ()
    | some rule => do
      let source ← network.position link.spec.source
      let length := ((counts[source]?.getD ∅).get? link.spec.output).getD 0
      (rule.validate length).mapError (.reindexOutOfRange link.id link.spec))

/-- Check the inputs of a region that declare a length, and give all lengths. -/
def inputCounts (network : Network κ) (counts : OutputCounts) (region : Region κ) :
    Except GraphError (NameMap Nat) := do
  let widths ← network.knownWidths counts region
  region.inputs.entries.forM (fun (name, input) => do
    let expected := ((region.spec.input? name).map InputSpec.count).getD 0
    let actual := (widths.get? name).getD 0
    if input.isLinked ∧ 0 < expected ∧ actual ≠ expected then
      throw (.elementCountMismatch region.name name expected actual))
  return widths

/-- Check that outputs with links keep the lengths they have. -/
def checkResizes (network : Network κ) (counts : OutputCounts) : Except GraphError Unit :=
  (network.regions.zip counts).forM (fun (region, known) =>
    region.outputs.entries.forM (fun (name, endpoint) =>
      let requested := (known.get? name).getD 0
      if endpoint.buffer.allocated ∧ endpoint.buffer.length ≠ requested ∧ endpoint.isLinked then
        .error (.bufferResize region.name name endpoint.buffer.length requested)
      else .ok ()))

/-- A lower bound of the bytes that a network needs, if its outputs have the given lengths:
    one for each element of an output, and one for each position that a rule keeps. -/
def need (network : Network κ) (counts : OutputCounts) : Nat :=
  elements counts
    + (network.links.map (fun link => link.spec.reindex.elim 0 Reindex.stored)).foldr (· + ·) 0

/-- Find out whether the outputs can be in memory beside the rules. Addresses are words of
    64 bits. -/
def checkMemory (network : Network κ) (counts : OutputCounts) : Except GraphError Unit :=
  if network.need counts < 2 ^ 64 then .ok () else .error .outOfMemory

variable [Implementation κ]

/-- All checks, in the order in which their faults are told. -/
def checks (network : Network κ) : Except GraphError Plan := do
  let schedule ← network.schedule
  network.checkRequired
  let outputs ← network.outputCounts schedule.order
  network.checkReindex outputs
  let inputs ← network.regions.mapM (network.inputCounts outputs)
  network.checkResizes outputs
  return ⟨schedule, outputs, inputs⟩

/-- A plan to build the network by, which passed all checks and can be in memory. -/
def plan (network : Network κ) : Except GraphError Plan := do
  let plan ← network.checks
  network.checkMemory plan.outputs
  return plan

omit [Implementation κ] in
/-- Give the endpoints of a region their lengths, one after the other, and then the region
    its level. -/
def shapeRegion (outputs inputs : NameMap Nat) (phase : Nat) :
    ExceptT GraphError (StateM (Region κ)) Unit := do
  outputs.entries.forM (fun (name, count) => do
    set (← (← get).modifyOutput name (fun endpoint => endpoint.prepare count)))
  inputs.entries.forM (fun (name, count) => do
    set (← (← get).modifyInput name (fun input => .ok (input.prepare count))))
  modify (fun region => { region with phase := some phase })

omit [Implementation κ] in
/-- Give the region at a position its lengths and its level. -/
def shapeAt (plan : Plan) : Region κ × Nat → Except GraphError Unit × Region κ × Nat
  | (region, index) =>
    let (result, shaped) := (shapeRegion (plan.outputs[index]?.getD ∅)
      (plan.inputs[index]?.getD ∅) (plan.schedule.phase index)).run region
    (result, shaped, index)

omit [Implementation κ] in
/-- Give all buffers their lengths, those of delayed links last. -/
def shape (plan : Plan) : Edit κ Unit := do
  let network ← get
  let (result, regions) := editEach (shapeAt plan) network.regions.zipIdx
  set { network with regions := regions.map Prod.fst }
  result
  editAllDelayed Link.prepare

/-- Start the implementation at a position. -/
def startAt (index : Nat) : Edit κ Unit := do
  let network ← get
  match network.regions[index]? with
  | none => return
  | some region =>
    let (started, result) := region.start
    set { network with regions := network.regions.set index started }
    result

/-- Make a network ready to run. A network that is ready already stays so. -/
def build : Edit κ Unit := do
  let network ← get
  match network.state with
  | .initialized => return
  | .running => throw .alreadyRunning
  | .unbuilt | .stopped =>
    let plan ← network.plan
    shape plan
    plan.schedule.order.forM startAt
    modify (fun network => { network with
      order := some plan.schedule.order
      phaseCount := plan.schedule.phaseCount
      state := .initialized })

end Network

end RegionGraph
