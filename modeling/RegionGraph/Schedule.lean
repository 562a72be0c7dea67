/-!
# Schedules of directed graphs

Vertices are numbered from zero. A schedule lists the vertices in levels: first
those that no edge enters, then, level by level, those that are entered only
from levels before. It exists exactly when the graph has no cycle. When there is
none, the vertices that lie on cycles or between cycles are named.
-/

namespace RegionGraph

/-- A directed graph, in which several edges may join the same two vertices. -/
structure Digraph where
  size : Nat
  edges : List (Nat × Nat)
deriving DecidableEq

namespace Digraph

/-- The ends of the edges that leave a vertex. -/
def successors (graph : Digraph) (vertex : Nat) : List Nat :=
  (graph.edges.filter (fun edge => edge.1 = vertex)).map Prod.snd

/-- How many edges enter each vertex. -/
def inDegrees (graph : Digraph) : List Nat :=
  (List.range graph.size).map (fun vertex =>
    (graph.edges.filter (fun edge => edge.2 = vertex)).length)

/-- Take one edge into a vertex away; a vertex that no edge enters any more joins
    the list. -/
def release (progress : List Nat × List Nat) (vertex : Nat) : List Nat × List Nat :=
  let degrees := progress.1.modify vertex (· - 1)
  (degrees, if degrees[vertex]? = some 0 then progress.2 ++ [vertex] else progress.2)

/-- Take all edges that leave a level away, and find the next level. -/
def releaseLevel (graph : Digraph) (degrees level : List Nat) : List Nat × List Nat :=
  let (degrees, freed) := (level.flatMap graph.successors).foldl release (degrees, [])
  (degrees, freed.mergeSort (· ≤ ·))

/-- Levels, one after the other, and the edges that remain into each vertex. A
    graph has at most as many levels as vertices. -/
def peel (graph : Digraph) : Nat → List Nat → List Nat → List (List Nat) × List Nat
  | 0, degrees, _ => ([], degrees)
  | more + 1, degrees, level =>
    if level.isEmpty then ([], degrees)
    else
      let (degrees, next) := graph.releaseLevel degrees level
      let (levels, degrees) := graph.peel more degrees next
      (level :: levels, degrees)

/-- Remove vertices without a successor among the rest, until none is left. -/
def trim (graph : Digraph) : Nat → List Nat → List Nat
  | 0, rest => rest
  | more + 1, rest =>
    let kept := rest.filter (fun vertex => (graph.successors vertex).any (· ∈ rest))
    if kept.length = rest.length then rest else graph.trim more kept

end Digraph

/-- The vertices of a graph in levels. -/
structure Schedule where
  levels : List (List Nat)
deriving DecidableEq

namespace Schedule

/-- All vertices, level by level. -/
def order (schedule : Schedule) : List Nat := schedule.levels.flatten

/-- The level of a vertex. -/
def phase (schedule : Schedule) (vertex : Nat) : Nat :=
  schedule.levels.findIdx (fun level => vertex ∈ level)

/-- The number of levels. -/
def phaseCount (schedule : Schedule) : Nat := schedule.levels.length

/-- The schedule of a graph. Without one, the vertices that a cycle reaches and
    that reach a cycle, in ascending order. -/
def ofGraph (graph : Digraph) : Except (List Nat) Schedule :=
  let vertices := List.range graph.size
  let entry := vertices.filter (fun vertex => graph.inDegrees[vertex]? = some 0)
  let (levels, degrees) := graph.peel graph.size graph.inDegrees entry
  let schedule : Schedule := ⟨levels⟩
  if schedule.order.length < graph.size then
    let residue := vertices.filter (fun vertex => degrees[vertex]? ≠ some 0)
    .error (graph.trim graph.size residue)
  else .ok schedule

end Schedule

end RegionGraph
