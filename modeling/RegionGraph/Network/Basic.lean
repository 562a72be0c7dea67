import RegionGraph.Link
import RegionGraph.Region
import RegionGraph.Schedule
import RegionGraph.Settings.Basic

/-!
# Networks

A network holds regions in the order they were added, an index of their names, and
links in the order of their numbers. Regions are found through the index, which every
change of the list of regions has to keep up. A built network also has an execution
order, the positions of its regions in the order in which they compute. Operations that
change a network are edits: they may fail on the way, and then leave what they had done
until then.
-/

namespace RegionGraph

/-- A graph of regions and its progress. -/
structure Network (κ : Type) where
  settings : NetworkSettings
  regions : List (Region κ)
  /-- The positions of the regions by name. -/
  index : NameMap Nat
  /-- The links, ascending by number. -/
  links : List Link
  /-- The number of the next link. Numbers are not used twice. A call makes one link at
      most, so the number is at most that of the calls, or of the links of a loaded bundle
      and the calls after it: words of 64 bits would not run out of them before 2^64 calls,
      more than can be made. -/
  nextLinkId : Nat
  /-- Positions of regions in the order of their computation, once built. -/
  order : Option (List Nat)
  phaseCount : Nat
  state : Lifecycle
  /-- Completed cycles. -/
  iteration : UInt64

/-- Operations on a network. -/
abbrev Edit (κ α : Type) := ExceptT GraphError (StateM (Network κ)) α

/-- Edit the items of a list in order, each in its place, until an edit fails. What was
    edited until then stays so. -/
def editEach {α : Type} (edit : α → Except GraphError Unit × α) :
    List α → Except GraphError Unit × List α
  | [] => (.ok (), [])
  | item :: rest =>
    match edit item with
    | (.error fault, edited) => (.error fault, edited :: rest)
    | (.ok _, edited) =>
      let (result, others) := editEach edit rest
      (result, edited :: others)

/-- Operations that consult the registry and edit a network. -/
abbrev Extension (κ α : Type) := ExceptT GraphError (StateM (Registry κ × Network κ)) α

namespace Network

variable {κ : Type}

/-- A network without regions. -/
def new (settings : NetworkSettings) : Network κ where
  settings
  regions := []
  index := ∅
  links := []
  nextLinkId := 0
  order := none
  phaseCount := 0
  state := .unbuilt
  iteration := 0

/-- The index of regions by their names. -/
def indexOf (regions : List (Region κ)) : NameMap Nat :=
  .ofList (regions.map Region.name).zipIdx

/-- The position of a region. -/
def position? (network : Network κ) (name : String) : Option Nat :=
  network.index.get? name

/-- The position of a region that has to exist. -/
def position (network : Network κ) (name : String) : Except GraphError Nat :=
  match network.position? name with
  | some index => .ok index
  | none => .error (.unknownRegion name)

/-- A region by name. -/
def region (network : Network κ) (name : String) : Except GraphError (Region κ) :=
  match (network.position? name).bind (network.regions[·]?) with
  | some region => .ok region
  | none => .error (.unknownRegion name)

/-- Whether a region of that name is indexed. -/
def hasRegion (network : Network κ) (name : String) : Bool :=
  network.index.contains name

/-- Put a region in the place of the one of that name. -/
def setRegion (network : Network κ) (name : String) (region : Region κ) : Network κ :=
  match network.position? name with
  | some index => { network with regions := network.regions.set index region }
  | none => network

/-- A link by number. -/
def link? (network : Network κ) (id : LinkId) : Option Link :=
  network.links.find? (fun link => link.id = id)

/-- A link that has to exist. -/
def link (network : Network κ) (id : LinkId) : Except GraphError Link :=
  match network.link? id with
  | some link => .ok link
  | none => .error (.missingLink id)

/-- The link between two endpoints. -/
def findLink (network : Network κ) (source output destination input : String) : Option LinkId :=
  (network.links.find? (fun link => link.joins source output destination input)).map Link.id

/-- The buffer that a link starts from. -/
def sourceBuffer (network : Network κ) (link : Link) : Except GraphError Buffer := do
  let region ← network.region link.spec.source
  let endpoint ← region.output link.spec.output
  return endpoint.buffer

/-- Change a delayed link by what its source holds. Other links stay. -/
def editDelayed (network : Network κ) (change : Link → Buffer → Link) (link : Link) :
    Except GraphError Unit × Link :=
  if link.isDelayed then
    match network.sourceBuffer link with
    | .ok live => (.ok (), change link live)
    | .error fault => (.error fault, link)
  else (.ok (), link)

/-- Change the delayed links by what their sources hold, one after the other. -/
def editAllDelayed (change : Link → Buffer → Link) : Edit κ Unit := do
  let network ← get
  let (result, links) := editEach (network.editDelayed change) network.links
  set { network with links }
  result

/-- The names of the regions in execution order. -/
def executionOrder (network : Network κ) : Option (List String) :=
  network.order.map (fun order =>
    order.filterMap (fun index => network.regions[index]?.map Region.name))

/-- The graph of the links without delay, on the positions of their regions. -/
def directGraph (network : Network κ) : Except GraphError Digraph := do
  let direct := network.links.filter (fun link => !link.isDelayed)
  let edges ← direct.mapM (fun link => do
    let source ← network.position link.spec.source
    let destination ← network.position link.spec.destination
    return (source, destination))
  return ⟨network.regions.length, edges⟩

end Network

end RegionGraph
