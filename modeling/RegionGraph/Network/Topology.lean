import RegionGraph.Network.Basic

/-!
# Wiring a network

Regions and links are added to and taken from a network while it does not hold a
built order in use: before it is built, or after it was stopped. Every change
makes the network unbuilt. A link is recorded in three places, in the network
and at both of its endpoints, and each operation keeps them in agreement.
-/

namespace RegionGraph

namespace Network

variable {κ : Type}

/-- Refuse changes of the topology while the network is built and not stopped. -/
def ensureMutable (network : Network κ) : Except GraphError Unit :=
  match network.state with
  | .unbuilt | .stopped => .ok ()
  | state => .error (.illegalTopologyChange state)

/-- Forget what building has found out. -/
def invalidated (network : Network κ) : Network κ :=
  { network with
    state := .unbuilt
    order := none
    phaseCount := 0
    regions := network.regions.map (fun region => { region with phase := none }) }

/-- Add a finished region at the end. -/
def insertRegion (network : Network κ) (region : Region κ) : Network κ :=
  invalidated { network with
    regions := network.regions ++ [region]
    index := network.index.insert region.name network.regions.length }

/-- Change an output of a region. -/
def modifyOutput (region output : String) (change : Endpoint → Except GraphError Endpoint) :
    Edit κ Unit := do
  let network ← get
  let changed ← (← network.region region).modifyOutput output change
  set (network.setRegion region changed)

/-- Change an input of a region. -/
def modifyInput (region input : String) (change : Input → Except GraphError Input) :
    Edit κ Unit := do
  let network ← get
  let changed ← (← network.region region).modifyInput input change
  set (network.setRegion region changed)

/-- The text that stands for a default endpoint where there is none. -/
def noDefault : String := "<default>"

/-- Replace empty endpoint names by the default endpoints, the source's first. -/
def resolveEndpoints (network : Network κ) (spec : LinkSpec) : Except GraphError LinkSpec := do
  let output ←
    if spec.output.isEmpty then do
      let source ← network.region spec.source
      match source.spec.defaultOutput? with
      | some name => pure name
      | none => throw (.unknownOutput spec.source noDefault)
    else pure spec.output
  let input ←
    if spec.input.isEmpty then do
      let destination ← network.region spec.destination
      match destination.spec.defaultInput? with
      | some name => pure name
      | none => throw (.unknownInput spec.destination noDefault)
    else pure spec.input
  return { spec with output, input }

/-- Check that a link with named endpoints may be made. -/
def checkLink (network : Network κ) (spec : LinkSpec) : Except GraphError Unit := do
  let source ← network.region spec.source
  let destination ← network.region spec.destination
  let output ← source.output spec.output
  let input ← destination.input spec.input
  if output.buffer.type ≠ input.buffer.type then
    throw (.linkTypeMismatch spec output.buffer.type input.buffer.type)
  if (network.findLink spec.source spec.output spec.destination spec.input).isSome then
    throw (.duplicateLink spec)
  match spec.reindex with
  | none => return
  | some rule => if rule.width = 0 then throw (.emptyReindex spec)

/-- Make a link. When the input refuses it, the output gives it back. -/
def addLink (spec : LinkSpec) : Edit κ LinkId := do
  let network ← get
  network.ensureMutable
  let spec ← network.resolveEndpoints spec
  network.checkLink spec
  let id : LinkId := ⟨network.nextLinkId⟩
  modifyOutput spec.source spec.output (fun endpoint => endpoint.attach id)
  tryCatch (modifyInput spec.destination spec.input (fun input => input.attach id))
    (fun fault => do
      modifyOutput spec.source spec.output (fun endpoint => endpoint.detach id)
      throw fault)
  modify (fun network => invalidated { network with
    nextLinkId := network.nextLinkId + 1
    links := network.links ++ [Link.new id spec] })
  return id

/-- Link the default endpoints of two regions. -/
def linkDefault (source destination : String) : Edit κ LinkId :=
  addLink (.betweenDefaults source destination)

/-- Take a link out of the network and off its endpoints. -/
def detachLink (id : LinkId) : Edit κ Unit := do
  let network ← get
  let link ← network.link id
  set { network with links := network.links.filter (fun other => other.id ≠ id) }
  let _ ← network.position link.spec.source
  let _ ← network.position link.spec.destination
  modifyOutput link.spec.source link.spec.output (fun endpoint => endpoint.detach id)
  modifyInput link.spec.destination link.spec.input (fun input => input.detach id)

/-- Remove a link. -/
def removeLink (id : LinkId) : Edit κ Unit := do
  (← get).ensureMutable
  detachLink id
  modify invalidated

/-- Remove a region and all links at it. Regions that stood behind it move up, so all
    that remain are indexed anew. -/
def removeRegion (name : String) : Edit κ Unit := do
  let network ← get
  network.ensureMutable
  let position ← network.position name
  let incident := (network.links.filter (fun link => link.touches name)).map Link.id
  incident.forM detachLink
  modify (fun network => invalidated { network with
    regions := network.regions.eraseIdx position
    index := indexOf (network.regions.eraseIdx position) })

/-- Check that a region of a name may be added. -/
def checkRegion (network : Network κ) (name : String) : Except GraphError Unit := do
  network.ensureMutable
  if network.hasRegion name then throw (.duplicateRegion name)

/-- Consult the registry within a larger operation. -/
def consulting {α : Type} (consult : Consult κ α) : Extension κ α := fun (registry, network) =>
  let (result, registry) := consult.run registry
  (result, registry, network)

/-- Edit the network within a larger operation. -/
def editing {α : Type} (edit : Edit κ α) : Extension κ α := fun (registry, network) =>
  let (result, network) := edit.run network
  (result, registry, network)

/-- Add a new region, whose implementation the registry makes. -/
def addRegion (name type : String) (params : Params) : Extension κ Unit := do
  editing do (← get).checkRegion name
  let (state, completed) ← consulting (Registry.create type params name)
  let spec ← consulting (Registry.spec type)
  editing (modify (fun network => network.insertRegion (.new name type spec completed state)))

/-- Give a parameter of a region a new value. The region keeps what its implementation made
    of one that it refused. -/
def setParameter [Implementation κ] (region name : String) (value : Value) : Edit κ Unit := do
  let network ← get
  let (changed, result) := (← network.region region).setParameter name value
  set (network.setRegion region changed)
  result

end Network

end RegionGraph
