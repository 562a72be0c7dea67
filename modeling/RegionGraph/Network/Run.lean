import RegionGraph.Network.Build

/-!
# Running a network

In every cycle the regions compute in the execution order. Before a region
computes, its inputs are filled with what their links show: live contents of
regions that came before it, or the oldest snapshots of delayed links. After the
last region the delayed links move on by one. Then every watcher is told, and
any of them may halt the run.

A region that fails stops the run in the middle of the cycle: regions after it,
delayed links and the count of cycles stay as they were when the cycle began.
-/

namespace RegionGraph

/-- What a watcher wants after a cycle. -/
inductive Control where
  | continue
  | halt
deriving DecidableEq, Inhabited

/-- A state of type `ω` that is told of every completed cycle. During the call the
    network is running. Watchers are given to a run and come back from it; the network keeps
    none, and nothing that it does but the halting of a run depends on them. -/
class Watcher (κ ω : Type) where
  notify : ω → Network κ → UInt64 → ω × Control

/-- How a run ended. -/
structure Ran (κ ω : Type) where
  result : Except GraphError Unit
  network : Network κ
  watchers : List ω

namespace Network

variable {κ ω : Type}

/-- Copy what a link shows into a buffer. Gives the number of elements that were copied. -/
def copyView (network : Network κ) (id : LinkId) (offset : Nat) (buffer : Buffer) :
    Except GraphError (Nat × Buffer) := do
  let link ← network.link id
  let live ← network.sourceBuffer link
  liftData ((link.visible live).copyInto buffer offset link.spec.reindex)

/-- Fill a buffer with the views of links, one after the other. -/
def fillBuffer (network : Network κ) :
    List LinkId → Nat → Buffer → Except GraphError Unit × Buffer
  | [], _, buffer => (.ok (), buffer)
  | id :: rest, offset, buffer =>
    match network.copyView id offset buffer with
    | .error fault => (.error fault, buffer)
    | .ok (width, filled) => network.fillBuffer rest (offset + width) filled

/-- Fill one input of a region. -/
def fillInput (network : Network κ) (name : String) (input : Input) :
    ExceptT GraphError (StateM (Region κ)) Unit := do
  let (result, buffer) := network.fillBuffer input.links 0 input.buffer
  modify (fun region =>
    { region with inputs := region.inputs.insert name (input.withBuffer buffer) })
  result

/-- Fill all inputs of a region in name order. -/
def fillInputs (network : Network κ) (region : Region κ) : Except GraphError Unit × Region κ :=
  (region.inputs.entries.forM (fun (name, input) => network.fillInput name input)).run region

/-- Move the delayed links on by one cycle. -/
def shiftLinks : Edit κ Unit := editAllDelayed Link.shift

/-- Tell every watcher, and halt if any of them wants to. -/
def notifyAll [Watcher κ ω] (network : Network κ) (watchers : List ω) : List ω × Control :=
  let answers := watchers.map (fun watcher => Watcher.notify watcher network network.iteration)
  (answers.map Prod.fst, if answers.any (fun answer => answer.2 = .halt) then .halt else .continue)

variable [Implementation κ]

/-- Let the region at a position compute, once its inputs are filled. -/
def step (index : Nat) : Edit κ Unit := do
  let network ← get
  match network.regions[index]? with
  | none => return
  | some region =>
    let (result, filled) := network.fillInputs region
    set { network with regions := network.regions.set index filled }
    result
    let (computed, result) := filled.compute network.iteration network.settings.profiling
    set { network with regions := network.regions.set index computed }
    result

/-- Let the regions compute in order. The first that fails stops the network. -/
def stepAll : List Nat → Edit κ Unit
  | [] => return
  | index :: rest => do
    let network ← get
    tryCatch (step index) (fun fault => do
      modify (fun network => { network with state := .stopped })
      let name := (network.regions[index]?.map Region.name).getD ""
      throw (.computeFailure name network.iteration fault))
    stepAll rest

/-- One cycle without its watchers. -/
def cycle (order : List Nat) : Edit κ Unit := do
  stepAll order
  shiftLinks
  modify (fun network => { network with iteration := network.iteration + 1 })

/-- Run cycles until they are done, a region fails or a watcher halts. -/
def runCycles [Watcher κ ω] (order : List Nat) : Nat → Network κ → List ω → Ran κ ω
  | 0, network, watchers => ⟨.ok (), { network with state := .initialized }, watchers⟩
  | more + 1, network, watchers =>
    match (cycle order).run network with
    | (.error fault, network) => ⟨.error fault, network, watchers⟩
    | (.ok _, network) =>
      match network.notifyAll watchers with
      | (watchers, .halt) => ⟨.ok (), { network with state := .stopped }, watchers⟩
      | (watchers, .continue) => runCycles order more network watchers

/-- A network with an execution order, built if need be. -/
def ready (network : Network κ) : Except GraphError Unit × Network κ :=
  match network.order with
  | some _ => (.ok (), network)
  | none => build.run network

/-- Run a number of cycles. A network without an execution order is built first. -/
def run [Watcher κ ω] (network : Network κ) (cycles : Nat) (watchers : List ω) : Ran κ ω :=
  match network.ready with
  | (.error fault, network) => ⟨.error fault, network, watchers⟩
  | (.ok _, network) =>
    match network.order with
    | none => ⟨.error .noExecutionOrder, network, watchers⟩
    | some order => runCycles order cycles { network with state := .running } watchers

omit [Implementation κ] in
/-- Stop a network that was built. A stopped network may be rewired, or run on. -/
def stop : Edit κ Unit := do
  let network ← get
  if network.state = .unbuilt then throw .notInitialized
  set { network with state := .stopped }

end Network

end RegionGraph
