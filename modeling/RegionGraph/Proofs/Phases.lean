import RegionGraph.Proofs.Checks

/-!
# Phases of regions

The regions of a network run in phases: a region has to wait for those whose values it
reads without delay. A network can be ordered exactly if no path of direct links closes, and
then the phase of a region is the number of links on the longest path of direct links that
ends in it. The execution order goes through the phases one after the other, and within a
phase in the order in which the regions were added.
-/

namespace RegionGraph

variable {κ : Type}

namespace Network

/-- What a schedule says of the regions of a network: it visits each of them once, and the
phase of each is the number of direct links on the longest path that ends in it. So direct
links lead to higher phases, and there is one phase more than the highest of a region. Regions
are visited by phase, and in one phase by position. -/
structure Phased (network : Network κ) (schedule : Schedule) : Prop where
  whole : schedule.order.Perm (List.range network.regions.length)
  longest : ∀ index region, network.regions[index]? = some region →
    IsGreatest {length | Trail network.Feeds length region.name} (schedule.phase index)
  rising : ∀ link ∈ network.links, link.isDelayed = false → ∃ source destination,
    network.position? link.spec.source = some source ∧
      network.position? link.spec.destination = some destination ∧
      schedule.phase source < schedule.phase destination
  count : schedule.phaseCount =
    (Finset.range network.regions.length).sup (fun index => schedule.phase index + 1)
  sorted : schedule.order.Pairwise (fun first second =>
    schedule.phase first < schedule.phase second ∨
      schedule.phase first = schedule.phase second ∧ first < second)

section DirectLinks

variable {network : Network κ} {graph : Digraph} (draws : network.Draws graph)
  (sound : network.wiring.Sound)

include draws sound

/-- The paths of direct links that end in a region are those of the graph that end at its
position. -/
theorem Draws.trail_iff (index : Nat) (region : Region κ)
    (found : network.regions[index]? = some region) (length : Nat) :
    Trail network.Feeds length region.name ↔ Trail graph.Leads length index := by
  have indexed := network.indexed_of_sound sound
  constructor
  · intro trail
    have mapped := trail.map network.placeOf (draws.leads_placeOf sound)
    rwa [network.placeOf_name indexed index region found] at mapped
  · intro trail
    have mapped := trail.map network.nameAt (draws.feeds_nameAt sound)
    rwa [nameAt, found] at mapped

/-- A schedule of the graph of direct links is one of the regions. -/
theorem Draws.phased (schedule : Schedule) (scheduled : Schedule.ofGraph graph = .ok schedule) :
    network.Phased schedule where
  whole := draws.size ▸ (Schedule.ofGraph_ok graph schedule scheduled).1
  longest := by
    intro index region found
    have small : index < graph.size := draws.size ▸ (List.getElem?_eq_some_iff.mp found).1
    simp only [draws.trail_iff sound index region found]
    exact schedule.phase_isGreatest graph (draws.inside sound) scheduled index small
  rising := by
    intro link member direct
    obtain ⟨source, destination, sourceFound, _, destinationFound, _⟩ :=
      network.end_positions sound link member
    have edge := (draws.leads_iff source destination).mpr
      ⟨link, member, direct, sourceFound, destinationFound⟩
    exact ⟨source, destination, sourceFound, destinationFound,
      schedule.phase_lt_of_leads graph (draws.inside sound) scheduled source destination edge⟩
  count := draws.size ▸ schedule.phaseCount_eq graph (draws.inside sound) scheduled
  sorted := schedule.order_pairwise graph (draws.inside sound) scheduled

end DirectLinks

/-- A network has a schedule if its graph of direct links has that schedule. -/
theorem schedule_ok_iff (network : Network κ) (graph : Digraph)
    (drawn : network.directGraph = .ok graph) (schedule : Schedule) :
    network.schedule = .ok schedule ↔ Schedule.ofGraph graph = .ok schedule := by
  rw [Network.schedule, drawn, Traversal.ok_bind]
  cases Schedule.ofGraph graph with
  | ok other => simp only [Except.ok.injEq, pure, Except.pure]
  | error members => simp only [throw, throwThe, MonadExceptOf.throw, reduceCtorEq]

/-- The schedule of a network runs every region in the phase that the longest path to it asks
for. -/
theorem phased_of_schedule (network : Network κ) (sound : network.wiring.Sound)
    (schedule : Schedule) (scheduled : network.schedule = .ok schedule) :
    network.Phased schedule := by
  obtain ⟨graph, drawn, draws⟩ := network.directGraph_ok sound
  exact draws.phased sound schedule ((network.schedule_ok_iff graph drawn schedule).mp scheduled)

/-- A reachable network can be ordered exactly if no path of direct links closes, and its
order then runs every region in the phase that the longest path to it asks for. To find the
order, as many rounds as there are regions are always enough, and no region is ever freed of
a link that does not enter it any more.

The graph is that of the positions of regions, where a walk of rounds takes off the vertices
that nothing leads to. By induction over the rounds a vertex is taken off after all that lead
to it, in the round that the longest path to it counts; what is never taken off lies on a
circle or behind one. -/
theorem phased_of_reachable [Implementation κ] (usable : Registry κ → Prop) (network : Network κ)
    (reachable : Reachable usable network) :
    ((∃ schedule, network.schedule = .ok schedule) ↔ network.Acyclic) ∧
      (∀ schedule, network.schedule = .ok schedule → network.Phased schedule) ∧
      ∃ graph, network.directGraph = .ok graph ∧ ∀ rounds, network.regions.length ≤ rounds →
        graph.peel? rounds graph.inDegrees graph.entry =
          some (graph.peel graph.size graph.inDegrees graph.entry) := by
  have sound := sound_of_reachable usable network reachable
  obtain ⟨graph, drawn, draws⟩ := network.directGraph_ok sound
  refine ⟨?_, ?_, graph, drawn, fun rounds enough => ?_⟩
  · simp only [network.schedule_ok_iff graph drawn]
    rw [draws.acyclic_iff sound]
    exact Schedule.ofGraph_ok_iff graph (draws.inside sound)
  · exact network.phased_of_schedule sound
  · rw [← draws.size] at enough
    exact graph.peel?_eq (draws.inside sound) rounds graph.size _ [] _ graph.counted_entry
      (by simpa using enough) (by simp)

/-- A counting source that feeds two incrementers, one of which feeds the other as well. The
regions stand in the order against that in which values go through them. -/
def triangle : Network Builtin :=
  putTogether [⟨"last", "Incrementer", ∅⟩, ⟨"middle", "Incrementer", ∅⟩,
      ⟨"first", "CounterSource", ∅⟩]
    [.betweenDefaults "first" "last", .betweenDefaults "first" "middle",
      .betweenDefaults "middle" "last"]

/-- The triangle runs from its last region to its first, in three phases. -/
theorem phased_triangle : ∃ schedule, triangle.schedule = .ok schedule ∧
    schedule.order = [2, 1, 0] ∧ schedule.phaseCount = 3 ∧ triangle.Phased schedule ∧
    triangle.Acyclic := by
  have phased := phased_of_reachable (fun _ => True) triangle
    (reachable_putTogether _ trivial _ _)
  have scheduled : triangle.schedule = .ok ⟨[[2], [1], [0]]⟩ := by decide +kernel
  exact ⟨_, scheduled, rfl, rfl, phased.2.1 _ scheduled, phased.1.mp ⟨_, scheduled⟩⟩

end Network

end RegionGraph
