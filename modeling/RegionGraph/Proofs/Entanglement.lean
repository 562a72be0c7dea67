import RegionGraph.Proofs.Checks

/-!
# Regions that are entangled in cycles

A network with a cycle of direct links is refused, and the fault names regions. They are those
that lie on a cycle or on the way from one cycle to another: to each of them a cycle leads, and
each of them leads to a cycle.

Both halves are greatest fixpoints. What peeling leaves over is the greatest set of vertices
each of which is entered from the set, and trimming cuts it down to the greatest set in which
each also has an edge that stays in the set. In a finite graph, going on along such edges has to
come back to where it was.
-/

namespace RegionGraph

section Paths

variable {α β : Type} {leads : α → α → Prop} {other : β → β → Prop}

/-- A vertex leads to a cycle, or lies on one. -/
def ToCycle (leads : α → α → Prop) (vertex : α) : Prop :=
  ∃ turn, Relation.TransGen leads turn turn ∧ Relation.ReflTransGen leads vertex turn

/-- A vertex lies on a cycle, or on the way from one cycle to another. -/
def Entangled (leads : α → α → Prop) (vertex : α) : Prop :=
  FromCycle leads vertex ∧ ToCycle leads vertex

/-- A vertex leads to a cycle if a cycle leads to it against the edges. -/
theorem toCycle_iff (vertex : α) :
    ToCycle leads vertex ↔ FromCycle (Function.swap leads) vertex := by
  simp only [ToCycle, FromCycle, Relation.transGen_swap, Relation.reflTransGen_swap]

/-- A vertex to which a cycle leads is entered from another one. -/
theorem FromCycle.entered {vertex : α} (behind : FromCycle leads vertex) :
    ∃ source, leads source vertex ∧ FromCycle leads source := by
  obtain ⟨turn, cycle, path⟩ := behind
  cases path with
  | refl =>
    obtain ⟨source, path, edge⟩ := Relation.TransGen.tail'_iff.mp cycle
    exact ⟨source, edge, vertex, cycle, path⟩
  | tail path edge => exact ⟨_, edge, turn, cycle, path⟩

/-- Paths of every length end where a cycle leads. -/
theorem FromCycle.trail {vertex : α} (behind : FromCycle leads vertex) (length : Nat) :
    Trail leads length vertex := by
  induction length generalizing vertex with
  | zero => exact .start vertex
  | succ length inductionHypothesis =>
    obtain ⟨source, edge, before⟩ := behind.entered
    exact .step (inductionHypothesis before) edge

/-- A vertex of a cycle is entangled. -/
theorem entangled_of_cycle {vertex : α} (cycle : Relation.TransGen leads vertex vertex) :
    Entangled leads vertex :=
  ⟨⟨vertex, cycle, .refl⟩, vertex, cycle, .refl⟩

/-- An edge leads on from every entangled vertex to another one. -/
theorem Entangled.onward {vertex : α} (entangled : Entangled leads vertex) :
    ∃ next, leads vertex next ∧ Entangled leads next := by
  obtain ⟨⟨turn, cycle, path⟩, ahead⟩ := entangled
  obtain ⟨next, edge, further⟩ := ((toCycle_iff vertex).mp ahead).entered
  exact ⟨next, edge, ⟨turn, cycle, path.tail edge⟩, (toCycle_iff next).mpr further⟩

/-- Entangled vertices are mapped to entangled vertices if edges are mapped to edges. -/
theorem Entangled.map (f : α → β)
    (edges : ∀ source vertex, leads source vertex → other (f source) (f vertex)) {vertex : α}
    (entangled : Entangled leads vertex) : Entangled other (f vertex) := by
  obtain ⟨⟨first, cycle, before⟩, last, turn, after⟩ := entangled
  exact ⟨⟨f first, cycle.lift f edges, before.lift f edges⟩,
    f last, turn.lift f edges, after.lift f edges⟩

end Paths

namespace Digraph

variable (graph : Digraph)

/-! ### What peeling leaves over -/

/-- No cycle leads to a vertex that is on a level. -/
theorem not_fromCycle_of_peel (inside : graph.Inside) (rounds vertex : Nat)
    (listed : vertex ∈ (graph.peel rounds graph.inDegrees graph.entry).1.flatten) :
    ¬FromCycle graph.Leads vertex := by
  intro behind
  obtain ⟨layer, member, here⟩ := List.mem_flatten.mp listed
  obtain ⟨place, found⟩ := List.mem_iff_getElem?.mp member
  obtain ⟨_, _, _, staged⟩ := graph.staged_of_peel inside _ _ _ _ 0 graph.staged_entry place layer
    found
  have longer := (staged.isGreatest vertex here).2 (behind.trail (0 + place + 1))
  exact Nat.lt_irrefl _ longer

/-- The vertices into which edges are left when peeling has ended. -/
def residue : List Nat :=
  (List.range graph.size).filter (fun vertex =>
    (graph.peel graph.size graph.inDegrees graph.entry).2[vertex]? ≠ some 0)

/-- No more vertices are left than there are. -/
theorem length_residue_le : graph.residue.length ≤ graph.size :=
  List.filter_sublist.length_le.trans_eq List.length_range

/-- If peeling stops short, edges are left into the vertices to which a cycle leads. -/
theorem mem_residue_iff (inside : graph.Inside)
    (short : (graph.peel graph.size graph.inDegrees graph.entry).1.flatten.length < graph.size)
    (vertex : Nat) : vertex ∈ graph.residue ↔ FromCycle graph.Leads vertex := by
  have counted := (graph.peel_complete graph.size _ _ _ graph.staged_entry.toCounted).resolve_right
    (Nat.not_le.mpr short)
  have finished := counted.listed vertex
  rw [List.nil_append, List.append_nil] at finished
  rw [residue, List.mem_filter, List.mem_range, decide_eq_true_eq, ne_eq, ← finished]
  constructor
  · rintro ⟨small, open_⟩
    exact counted.fromCycle inside vertex small open_
  · intro behind
    obtain ⟨source, edge, _⟩ := behind.entered
    exact ⟨(inside source vertex edge).2,
      fun listed => graph.not_fromCycle_of_peel inside graph.size vertex listed behind⟩

/-! ### Trimming -/

/-- The vertices of a list from which an edge leads to the list. -/
def staying (rest : List Nat) : List Nat :=
  rest.filter (fun vertex => (graph.successors vertex).any (· ∈ rest))

/-- A vertex stays if an edge leads from it to the rest. -/
theorem mem_staying_iff (rest : List Nat) (vertex : Nat) :
    vertex ∈ graph.staying rest ↔ vertex ∈ rest ∧ ∃ next ∈ rest, graph.Leads vertex next := by
  simp only [staying, List.mem_filter, List.any_eq_true, successors, List.mem_map, Leads,
    decide_eq_true_eq, Prod.exists]
  constructor
  · rintro ⟨member, next, ⟨first, last, ⟨edge, rfl⟩, rfl⟩, among⟩
    exact ⟨member, last, among, edge⟩
  · rintro ⟨member, next, among, edge⟩
    exact ⟨member, next, ⟨vertex, next, ⟨edge, rfl⟩, rfl⟩, among⟩

/-- If as many vertices stay as there are, all stay. -/
theorem staying_eq (rest : List Nat) (same : (graph.staying rest).length = rest.length) :
    graph.staying rest = rest :=
  (List.filter_sublist (l := rest)).eq_of_length same

/-- Trimming goes on with the vertices that stay unless all do. -/
theorem trim_succ (more : Nat) (rest : List Nat) : graph.trim (more + 1) rest =
    if (graph.staying rest).length = rest.length then rest
    else graph.trim more (graph.staying rest) := rfl

/-- A round that changes the rest makes it shorter. -/
theorem staying_shorter (rest : List Nat)
    (changed : (graph.staying rest).length ≠ rest.length) :
    (graph.staying rest).length < rest.length :=
  Nat.lt_of_le_of_ne List.filter_sublist.length_le changed

/-- Trimming removes vertices and keeps the order of the others. -/
theorem trim_sublist (rounds : Nat) (rest : List Nat) :
    (graph.trim rounds rest).Sublist rest := by
  induction rounds generalizing rest with
  | zero => exact List.Sublist.refl rest
  | succ more inductionHypothesis =>
    rw [trim_succ]
    split
    · exact List.Sublist.refl rest
    · exact (inductionHypothesis _).trans List.filter_sublist

/-- Trimming keeps vertices that lead to one another. -/
theorem mem_trim (kind : Nat → Prop) (onward : ∀ vertex, kind vertex →
      ∃ next, graph.Leads vertex next ∧ kind next) (rounds : Nat) (rest : List Nat)
    (within : ∀ vertex, kind vertex → vertex ∈ rest) (vertex : Nat) (member : kind vertex) :
    vertex ∈ graph.trim rounds rest := by
  induction rounds generalizing rest with
  | zero => exact within vertex member
  | succ more inductionHypothesis =>
    rw [trim_succ]
    split
    · exact within vertex member
    · refine inductionHypothesis _ fun vertex member => ?_
      obtain ⟨next, edge, among⟩ := onward vertex member
      exact (graph.mem_staying_iff rest vertex).mpr
        ⟨within vertex member, next, within next among, edge⟩

/-- After as many rounds as there are vertices, or more, an edge leads on from each vertex that
is kept to one that is kept. -/
theorem trim_closed (rounds : Nat) (rest : List Nat) (enough : rest.length ≤ rounds)
    (vertex : Nat) (member : vertex ∈ graph.trim rounds rest) :
    ∃ next ∈ graph.trim rounds rest, graph.Leads vertex next := by
  induction rounds generalizing rest with
  | zero =>
    rw [List.length_eq_zero_iff.mp (Nat.le_zero.mp enough)] at member
    cases member
  | succ more inductionHypothesis =>
    rw [trim_succ] at member ⊢
    split at member
    case isTrue same =>
      rw [if_pos same]
      rw [← graph.staying_eq rest same] at member
      exact ((graph.mem_staying_iff rest vertex).mp member).2
    case isFalse changed =>
      rw [if_neg changed]
      have shorter := graph.staying_shorter rest changed
      exact inductionHypothesis _ (by omega) member

/-- More rounds than there are vertices change nothing. -/
theorem trim_enough (rounds limit : Nat) (rest : List Nat) (enough : rest.length ≤ rounds)
    (bound : rest.length ≤ limit) : graph.trim rounds rest = graph.trim limit rest := by
  induction rounds generalizing limit rest with
  | zero =>
    rw [List.length_eq_zero_iff.mp (Nat.le_zero.mp enough)]
    cases limit <;> rfl
  | succ rounds inductionHypothesis =>
    cases limit with
    | zero =>
      rw [List.length_eq_zero_iff.mp (Nat.le_zero.mp bound)]
      rfl
    | succ limit =>
      rw [trim_succ, trim_succ]
      split
      case isTrue same => rfl
      case isFalse changed =>
        have shorter := graph.staying_shorter rest changed
        exact inductionHypothesis limit _ (by omega) (by omega)

end Digraph

/-- Without a schedule, the entangled vertices are named in ascending order. -/
theorem Schedule.ofGraph_error (graph : Digraph) (inside : graph.Inside) (members : List Nat)
    (fails : ofGraph graph = .error members) :
    members.Sublist (List.range graph.size) ∧
      ∀ vertex, vertex ∈ members ↔ Entangled graph.Leads vertex := by
  unfold ofGraph at fails
  simp only at fails
  split at fails
  case isFalse whole => cases fails
  case isTrue short =>
    have trimmed : graph.trim graph.size graph.residue = members := Except.error.inj fails
    have left := graph.mem_residue_iff inside short
    have kept := graph.trim_sublist graph.size graph.residue
    have closed := graph.trim_closed graph.size graph.residue graph.length_residue_le
    rw [trimmed] at kept closed
    refine ⟨kept.trans List.filter_sublist, fun vertex => ⟨fun member => ⟨?_, ?_⟩, ?_⟩⟩
    · exact (left vertex).mp (kept.subset member)
    · -- An edge leads on inside what is kept; against the edges, each vertex is entered from it.
      rw [toCycle_iff]
      exact fromCycle_of_entered _ {vertex | vertex ∈ members} members.finite_toSet closed vertex
        member
    · rw [← trimmed]
      exact graph.mem_trim (Entangled graph.Leads) (fun _ => Entangled.onward) graph.size
        graph.residue (fun other entangled => (left other).mpr entangled.1) vertex

namespace Network

variable {κ : Type}

/-- The names of the entangled regions of a network: there are some, and they stand in the order
in which the regions were added, none of them twice. -/
structure Tangled (network : Network κ) (members : List String) : Prop where
  nonempty : members ≠ []
  ordered : members.Sublist (network.regions.map Region.name)
  distinct : members.Nodup
  complete : ∀ name, name ∈ members ↔ Entangled network.Feeds name

/-- The names at all positions are the names of all regions. -/
theorem filterMap_positions (regions : List (Region κ)) :
    (List.range regions.length).filterMap (fun index => regions[index]?.map Region.name) =
      regions.map Region.name := by
  induction regions with
  | nil => rfl
  | cons first rest inductionHypothesis =>
    rw [List.length_cons, List.range_succ_eq_map, List.filterMap_cons, List.filterMap_map,
      List.map_cons, ← inductionHypothesis]
    rfl

/-- A region is entangled if and only if its position is. -/
theorem Draws.entangled_iff {network : Network κ} {graph : Digraph} (draws : network.Draws graph)
    (sound : network.wiring.Sound) (name : String) : Entangled network.Feeds name ↔
      ∃ index, Entangled graph.Leads index ∧
        network.regions[index]?.map Region.name = some name := by
  have indexed := network.indexed_of_sound sound
  constructor
  · intro entangled
    obtain ⟨_, ⟨link, member, _, _, rfl⟩, _⟩ := entangled.1.entered
    obtain ⟨_, index, _, _, position, _⟩ := network.end_positions sound link member
    obtain ⟨region, found, named⟩ := (network.position?_eq_some_iff indexed _ index).mp position
    refine ⟨index, ?_, by rw [found, ← named]; rfl⟩
    rw [← network.placeOf_name indexed index region found, named]
    exact entangled.map network.placeOf (draws.leads_placeOf sound)
  · rintro ⟨index, entangled, found⟩
    have mapped := entangled.map network.nameAt (draws.feeds_nameAt sound)
    rwa [nameAt, found] at mapped

/-- If some path of direct links closes, the fault names the entangled regions. -/
theorem schedule_error (network : Network κ) (sound : network.wiring.Sound)
    (cyclic : ¬network.Acyclic) :
    ∃ members, network.schedule = .error (.cyclicGraph members) ∧ network.Tangled members := by
  obtain ⟨graph, drawn, draws⟩ := network.directGraph_ok sound
  have inside := draws.inside sound
  rw [Network.schedule, drawn, Traversal.ok_bind]
  cases made : Schedule.ofGraph graph with
  | ok schedule =>
    exact absurd ((draws.acyclic_iff sound).mpr
      ((Schedule.ofGraph_ok_iff graph inside).mp ⟨schedule, made⟩)) cyclic
  | error places =>
    obtain ⟨ascending, named⟩ := Schedule.ofGraph_error graph inside places made
    let members := places.filterMap (fun index => network.regions[index]?.map Region.name)
    have ordered : members.Sublist (network.regions.map Region.name) := by
      rw [← filterMap_positions, ← draws.size]
      exact ascending.filterMap _
    have complete (name : String) : name ∈ members ↔ Entangled network.Feeds name := by
      simp only [members, List.mem_filterMap, named, draws.entangled_iff sound name]
    have distinct := network.distinct_of_indexed (network.indexed_of_sound sound)
    obtain ⟨name, cycle⟩ := not_forall_not.mp cyclic
    exact ⟨members, rfl, List.ne_nil_of_mem ((complete name).mpr (entangled_of_cycle cycle)),
      ordered, distinct.sublist ordered, complete⟩

/-- Building a reachable network in which a path of direct links closes is refused and changes
nothing. The fault names exactly the regions to which a cycle leads and which lead to a cycle,
so those of every cycle are among them, in the order in which they were added. The trimming
that finds them comes to an end for every graph: as many rounds as there are vertices are
enough, and then none is left to be removed.

What the walk of rounds leaves over are the regions to which a cycle leads. The trimming then
takes off, round by round, those that lead to no region that is left. By induction over the
rounds only such regions go that lead to no cycle; and as a round that takes off nothing is the
last, there are no more rounds than regions. -/
theorem tangled_of_reachable [Implementation κ] (usable : Registry κ → Prop) (network : Network κ)
    (reachable : Reachable usable network)
    (open_ : network.state = .unbuilt ∨ network.state = .stopped) (name : String)
    (cycle : Relation.TransGen network.Feeds name name) :
    (∃ members, (build (κ := κ)).run network = (.error (.cyclicGraph members), network) ∧
        network.Tangled members ∧ name ∈ members) ∧
      ∀ (graph : Digraph) (rest : List Nat) (rounds : Nat), rest.length ≤ rounds →
        graph.trim rounds rest = graph.trim rest.length rest ∧
          ∀ vertex ∈ graph.trim rounds rest, ∃ next ∈ graph.trim rounds rest,
            graph.Leads vertex next := by
  constructor
  · have sound := sound_of_reachable usable network reachable
    obtain ⟨members, cyclic, tangled⟩ :=
      network.schedule_error sound (fun acyclic => acyclic name cycle)
    refine ⟨members, ?_, tangled, (tangled.complete name).mpr (entangled_of_cycle cycle)⟩
    rw [network.build_of_open open_, rebuilt, plan, checks, cyclic]
    rfl
  · intro graph rest rounds enough
    exact ⟨graph.trim_enough rounds rest.length rest enough (Nat.le_refl _),
      graph.trim_closed rounds rest enough⟩

/-- Two incrementers that feed each other, beside a third that one of them feeds. -/
def knot : Network Builtin :=
  putTogether [⟨"tail", "Incrementer", ∅⟩, ⟨"back", "Incrementer", ∅⟩, ⟨"forth", "Incrementer", ∅⟩]
    [.betweenDefaults "back" "forth", .betweenDefaults "forth" "back",
      .betweenDefaults "forth" "tail"]

/-- The two that feed each other are named, the third is not. -/
theorem tangled_knot : knot.state = .unbuilt ∧ Relation.TransGen knot.Feeds "back" "back" ∧
    (build (κ := Builtin)).run knot = (.error (.cyclicGraph ["back", "forth"]), knot) ∧
    knot.Tangled ["back", "forth"] := by
  have unbuilt : knot.state = .unbuilt := by decide +kernel
  have there : knot.Feeds "back" "forth" := by
    unfold Feeds
    decide +kernel
  have again : knot.Feeds "forth" "back" := by
    unfold Feeds
    decide +kernel
  have cycle : Relation.TransGen knot.Feeds "back" "back" := .tail (.single there) again
  obtain ⟨members, refused, tangled, _⟩ := (tangled_of_reachable (fun _ => True) knot
    (reachable_putTogether _ trivial _ _) (.inl unbuilt) "back" cycle).1
  have told : ((build (κ := Builtin)).run knot).1 = .error (.cyclicGraph ["back", "forth"]) := by
    decide +kernel
  rw [refused] at told
  cases told
  exact ⟨unbuilt, cycle, refused, tangled⟩

end Network

end RegionGraph
