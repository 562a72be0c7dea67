import RegionGraph.Network.Topology

/-!
# Saving and loading networks

A saved network is a bundle with its topology and one record for each region.
Loading makes all regions before any link, in the order of the topology, and
then the links in order, each of which has to pass the same checks as a new one.
A loaded network is unbuilt; its buffers and snapshots are those saved.
-/

namespace RegionGraph

namespace Network

variable {κ : Type}

/-- The topology of a network. -/
def topology (network : Network κ) : Topology where
  regions := network.regions.map (fun region => ⟨region.name, region.type⟩)
  links := network.links.map (fun link => ⟨link.spec, link.pending⟩)
  iteration := network.iteration

/-- Capture a network in a bundle with a given timestamp. -/
def save [Implementation κ] (network : Network κ) (timestamp : UInt64) :
    Except GraphError Bundle := do
  let source := "iteration " ++ Nat.repr network.iteration.toNat
  let bundle := (Bundle.new ⟨timestamp, "", source, ∅⟩).writeTopology network.topology
  network.regions.foldlM (fun bundle region => do
    let record ← region.record
    liftBundle (bundle.writeRegion region.name record)) bundle

/-- Add a saved region. -/
def loadRegion (network : Network κ) (bundle : Bundle) (entry : RegionEntry) :
    Consult κ (Network κ) := do
  if network.hasRegion entry.name then throw (.duplicateRegion entry.name)
  let record ← liftBundle (bundle.readRegion entry.name)
  if record.type ≠ entry.type then
    throw (.recordTypeMismatch entry.name entry.type record.type)
  let state ← Registry.restore entry.type record entry.name
  let spec ← Registry.spec entry.type
  let region ← Region.restored entry.name entry.type spec record state
  return network.insertRegion region

/-- Add a saved link with its snapshots. -/
def loadLink (network : Network κ) (record : LinkRecord) : Except GraphError (Network κ) :=
  match (addLink record.spec).run network with
  | (.error fault, _) => .error fault
  | (.ok id, network) =>
    .ok { network with
      links := network.links.map (fun link =>
        if link.id = id then { link with pending := record.pending } else link) }

/-- The network that a bundle describes. -/
def load (bundle : Bundle) (settings : NetworkSettings) : Consult κ (Network κ) := do
  let topology ← liftBundle bundle.readTopology
  let network ← topology.regions.foldlM
    (fun network entry => network.loadRegion bundle entry) (Network.new settings)
  let linked : Except GraphError (Network κ) := topology.links.foldlM loadLink network
  return { ← linked with iteration := topology.iteration }

end Network

end RegionGraph
