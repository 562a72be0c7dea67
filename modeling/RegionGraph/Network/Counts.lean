import RegionGraph.Network.Basic

/-!
# Lengths of buffers

The lengths of outputs follow from declarations and from what implementations
say, given the lengths of their inputs; the length of an input is the sum of
what its links bring. They are found by going through the regions again and
again until no further output is decided. An input's length is known once the
lengths of all its sources are.
-/

namespace RegionGraph

/-- The lengths of the outputs of each region, by position and name, as far as
    they are decided. -/
abbrev OutputCounts := List (NameMap Nat)

namespace Network

variable {κ : Type}

/-- What links bring together, if the lengths of all sources are decided. Lengths are added
    as words of 64 bits. A rule may name more elements than its source has until it is
    checked, so here a sum may pass what a word holds; once a network is built none does. -/
def broughtBy (network : Network κ) (counts : OutputCounts) :
    List LinkId → Except GraphError (Option Nat)
  | [] => .ok (some 0)
  | id :: rest => do
    let link ← network.link id
    let source ← network.position link.spec.source
    match (counts[source]?.getD ∅).get? link.spec.output with
    | none => return none
    | some count =>
      let others ← network.broughtBy counts rest
      return others.map (fun total => (link.width count + total) % 2 ^ 64)

/-- The known lengths of the inputs of a region. -/
def knownWidths (network : Network κ) (counts : OutputCounts) (region : Region κ) :
    Except GraphError (NameMap Nat) :=
  region.inputs.entries.foldlM (fun widths (name, input) => do
    match ← network.broughtBy counts input.links with
    | some width => return widths.insert name width
    | none => return widths) ∅

/-- The number of elements that outputs of the decided lengths hold. -/
def elements (counts : OutputCounts) : Nat :=
  (counts.flatMap (fun known => known.entries.map Prod.snd)).foldr (· + ·) 0

/-- The number of decided outputs. -/
def decided (counts : OutputCounts) : Nat := (counts.map NameMap.size).foldr (· + ·) 0

variable [Implementation κ]

/-- Decide what can be decided of one region. Everything that is decided in one
    visit is judged by the same lengths of inputs. -/
def visit (network : Network κ) (counts : OutputCounts) (index : Nat) :
    Except GraphError OutputCounts := do
  match network.regions[index]? with
  | none => return counts
  | some region =>
    let known := counts[index]?.getD ∅
    let open_ := region.outputs.names.filter (fun name => !known.contains name)
    if open_.isEmpty then return counts
    else
      let widths ← network.knownWidths counts region
      let extended := open_.foldl (fun known name =>
        match region.outputCount? name widths with
        | some count => known.insert name count
        | none => known) known
      return counts.set index extended

/-- Visit the regions in order until a round decides nothing more. Every other
    round decides an output, so their number bounds the rounds. -/
def settle (network : Network κ) (order : List Nat) :
    Nat → OutputCounts → Except GraphError OutputCounts
  | 0, counts => .ok counts
  | more + 1, counts => do
    let next ← order.foldlM network.visit counts
    if decided next = decided counts then return next
    else network.settle order more next

/-- The first output that is not decided, in the order of regions and names. -/
def undecided? (network : Network κ) (counts : OutputCounts) : Option (String × String) :=
  (network.regions.zip counts).findSome? (fun (region, known) =>
    (region.outputs.names.find? (fun name => !known.contains name)).map (region.name, ·))

/-- The lengths of all outputs. -/
def outputCounts (network : Network κ) (order : List Nat) : Except GraphError OutputCounts := do
  let outputs := (network.regions.map (fun region => region.outputs.size)).foldr (· + ·) 0
  let start : OutputCounts := network.regions.map (fun _ => ∅)
  let counts ← network.settle order (outputs + 1) start
  match network.undecided? counts with
  | some (region, output) => throw (.unresolvedElementCount region output)
  | none => return counts

end Network

end RegionGraph
