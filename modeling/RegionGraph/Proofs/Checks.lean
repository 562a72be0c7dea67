import RegionGraph.Proofs.Alike
import RegionGraph.Proofs.Levels
import RegionGraph.Proofs.Resolution

/-!
# What building asks of a network

Building a network checks six things before it changes anything. Here each is said without
the search that decides it: no path of direct links closes, every input that has to be
connected is, rounds of asking decide the length of every output, rules stay inside the
lengths of their sources, inputs that declare a length collect it, and outputs that
readers rely on keep theirs. For each it is shown that the check passes exactly if the
demand is met, and fails with its own fault if not.
-/

namespace RegionGraph

variable {κ : Type}

namespace Reindex

/-- Every position that a rule names is one of a source of the given length; positions are
words, so the end of a run has to be one too. -/
def Inside (length : Nat) : Reindex → Prop
  | range offset count =>
    offset.toNat + count.toNat < 2 ^ 64 ∧ offset.toNat + count.toNat ≤ length
  | indices positions => ∀ position ∈ positions, position.toNat < length

/-- The check of a rule passes exactly if it stays inside. -/
theorem validate_ok_iff (rule : Reindex) (length : Nat) :
    rule.validate length = .ok () ↔ rule.Inside length := by
  cases rule with
  | range offset count =>
    rw [validate, Inside]
    by_cases overflow : 2 ^ 64 ≤ offset.toNat + count.toNat
    · rw [if_pos overflow]
      simp only [reduceCtorEq, false_iff]
      omega
    · rw [if_neg overflow]
      by_cases long : length < offset.toNat + count.toNat
      · rw [if_pos long]
        simp only [reduceCtorEq, false_iff]
        omega
      · rw [if_neg long]
        simp only [true_iff]
        omega
  | indices positions =>
    rw [validate, Inside]
    cases found : positions.find? (fun position => length ≤ position.toNat) with
    | none =>
      simp only [List.find?_eq_none, decide_eq_true_eq, Nat.not_le] at found
      simp only [true_iff]
      exact found
    | some position =>
      have large := List.find?_some found
      have member := List.mem_of_find?_eq_some found
      simp only [decide_eq_true_eq] at large
      simp only [reduceCtorEq, false_iff]
      intro inside
      exact Nat.not_lt.mpr large (inside position member)

end Reindex

namespace Network

/-! ### Cycles of direct links -/

/-- A direct link leads from one region to another. -/
def Feeds (network : Network κ) (source destination : String) : Prop :=
  ∃ link ∈ network.links, link.isDelayed = false ∧ link.spec.source = source ∧
    link.spec.destination = destination

/-- No path of direct links leads from a region back to itself. -/
def Acyclic (network : Network κ) : Prop :=
  ∀ name, ¬Relation.TransGen network.Feeds name name

/-- The positions of the ends of a link. -/
theorem end_positions (network : Network κ) (sound : network.wiring.Sound) (link : Link)
    (member : link ∈ network.links) : ∃ source destination,
      network.position? link.spec.source = some source ∧
      network.position link.spec.source = .ok source ∧
      network.position? link.spec.destination = some destination ∧
      network.position link.spec.destination = .ok destination := by
  have indexed := network.indexed_of_sound sound
  obtain ⟨first, firstMember, last, lastMember, _, _, firstName, _, lastName, _⟩ :=
    network.link_ends sound link member
  have located (region : Region κ) (present : region ∈ network.regions) : ∃ index,
      network.position? region.name = some index ∧ network.position region.name = .ok index := by
    obtain ⟨index, position, found⟩ := network.position_of_mem indexed region present
    exact ⟨index, network.position?_of_stands indexed index region found, position⟩
  obtain ⟨source, sourceFound, sourceOk⟩ := located first firstMember
  obtain ⟨destination, destinationFound, destinationOk⟩ := located last lastMember
  rw [firstName] at sourceFound sourceOk
  rw [lastName] at destinationFound destinationOk
  exact ⟨source, destination, sourceFound, sourceOk, destinationFound, destinationOk⟩

/-- A graph shows the direct links of a network: its vertices are the positions of regions, and
its edges are the direct links, by the positions of their ends. -/
structure Draws (network : Network κ) (graph : Digraph) : Prop where
  size : graph.size = network.regions.length
  leads_iff : ∀ source destination, graph.Leads source destination ↔ ∃ link ∈ network.links,
    link.isDelayed = false ∧ network.position? link.spec.source = some source ∧
      network.position? link.spec.destination = some destination

/-- The graph of direct links can always be drawn. -/
theorem directGraph_ok (network : Network κ) (sound : network.wiring.Sound) :
    ∃ graph, network.directGraph = .ok graph ∧ network.Draws graph := by
  let ends (link : Link) : Nat × Nat :=
    ((network.position? link.spec.source).getD 0, (network.position? link.spec.destination).getD 0)
  have drawn := Traversal.mapM_ok (fun link => do
    let source ← network.position link.spec.source
    let destination ← network.position link.spec.destination
    return (source, destination)) ends (network.links.filter (fun link => !link.isDelayed)) (by
      intro link member
      obtain ⟨source, destination, sourceFound, sourceOk, destinationFound, destinationOk⟩ :=
        network.end_positions sound link (List.mem_of_mem_filter member)
      simp only [sourceOk, destinationOk, Traversal.ok_bind, ends, sourceFound, destinationFound]
      rfl)
  refine ⟨⟨network.regions.length, _⟩, (congrArg (· >>= _) drawn).trans rfl, rfl, ?_⟩
  intro source destination
  rw [Digraph.Leads, List.mem_map]
  constructor
  · rintro ⟨link, listed, same⟩
    obtain ⟨member, direct⟩ := List.mem_filter.mp listed
    obtain ⟨first, last, firstFound, _, lastFound, _⟩ := network.end_positions sound link member
    simp only [ends, firstFound, lastFound, Option.getD_some, Prod.mk.injEq] at same
    obtain ⟨rfl, rfl⟩ := same
    exact ⟨link, member, by simpa using direct, firstFound, lastFound⟩
  · rintro ⟨link, member, direct, sourceFound, destinationFound⟩
    refine ⟨link, List.mem_filter.mpr ⟨member, by simp [direct]⟩, ?_⟩
    simp only [ends, sourceFound, destinationFound, Option.getD_some]

/-- The position of a region by its name. -/
def placeOf (network : Network κ) (name : String) : Nat := (network.position? name).getD 0

/-- The name of the region at a position. -/
def nameAt (network : Network κ) (index : Nat) : String :=
  (network.regions[index]?.map Region.name).getD ""

/-- A region is found at the position of its name. -/
theorem placeOf_name (network : Network κ) (indexed : network.Indexed) (index : Nat)
    (region : Region κ) (found : network.regions[index]? = some region) :
    network.placeOf region.name = index := by
  rw [placeOf, network.position?_of_stands indexed index region found, Option.getD_some]

/-- The name that stands at a position is found there. -/
theorem position?_nameAt (network : Network κ) (indexed : network.Indexed) (index : Nat)
    (inside : index < network.regions.length) :
    network.position? (network.nameAt index) = some index := by
  have here := List.getElem?_eq_getElem inside
  rw [nameAt, here]
  exact network.position?_of_stands indexed index _ here

/-- A region has the name that stands at its position. -/
theorem nameAt_of_position? (network : Network κ) (indexed : network.Indexed) (name : String)
    (index : Nat) (found : network.position? name = some index) : network.nameAt index = name := by
  obtain ⟨region, here, rfl⟩ := (network.position?_eq_some_iff indexed name index).mp found
  rw [nameAt, here]
  rfl

section DirectLinks

variable {network : Network κ} {graph : Digraph} (draws : network.Draws graph)
  (sound : network.wiring.Sound)

include draws sound

/-- Edges lead from regions to regions. -/
theorem Draws.inside : graph.Inside := by
  have indexed := network.indexed_of_sound sound
  have small (name : String) (index : Nat) (found : network.position? name = some index) :
      index < graph.size := by
    obtain ⟨_, here, _⟩ := (network.position?_eq_some_iff indexed name index).mp found
    exact draws.size ▸ (List.getElem?_eq_some_iff.mp here).1
  intro source vertex edge
  obtain ⟨link, _, _, sourceFound, vertexFound⟩ := (draws.leads_iff source vertex).mp edge
  exact ⟨small _ source sourceFound, small _ vertex vertexFound⟩

/-- An edge is a direct link between the regions at its ends. -/
theorem Draws.feeds_nameAt (source vertex : Nat) (edge : graph.Leads source vertex) :
    network.Feeds (network.nameAt source) (network.nameAt vertex) := by
  have indexed := network.indexed_of_sound sound
  obtain ⟨link, member, direct, sourceFound, vertexFound⟩ :=
    (draws.leads_iff source vertex).mp edge
  exact ⟨link, member, direct, (network.nameAt_of_position? indexed _ source sourceFound).symm,
    (network.nameAt_of_position? indexed _ vertex vertexFound).symm⟩

/-- A direct link is an edge between the positions of its ends. -/
theorem Draws.leads_placeOf (first last : String) (feeds : network.Feeds first last) :
    graph.Leads (network.placeOf first) (network.placeOf last) := by
  obtain ⟨link, member, direct, rfl, rfl⟩ := feeds
  obtain ⟨source, vertex, sourceFound, _, vertexFound, _⟩ :=
    network.end_positions sound link member
  rw [placeOf, placeOf, sourceFound, vertexFound]
  exact (draws.leads_iff source vertex).mpr ⟨link, member, direct, sourceFound, vertexFound⟩

/-- Paths of direct links are the paths of their graph. -/
theorem Draws.acyclic_iff : network.Acyclic ↔ graph.Acyclic := by
  constructor
  · intro acyclic index path
    exact acyclic _ (path.lift network.nameAt (draws.feeds_nameAt sound))
  · intro acyclic name path
    exact acyclic _ (path.lift network.placeOf (draws.leads_placeOf sound))

end DirectLinks

/-- There is an execution order exactly if no path of direct links closes; otherwise the
fault names a cycle. -/
theorem schedule_cases (network : Network κ) (sound : network.wiring.Sound) :
    (∃ schedule, network.schedule = .ok schedule ∧ network.Acyclic) ∨
      ∃ members, network.schedule = .error (.cyclicGraph members) ∧ ¬network.Acyclic := by
  obtain ⟨graph, drawn, draws⟩ := network.directGraph_ok sound
  have exists_ := Schedule.ofGraph_ok_iff graph (draws.inside sound)
  rw [← draws.acyclic_iff sound] at exists_
  rw [schedule, drawn, Traversal.ok_bind]
  cases found : Schedule.ofGraph graph with
  | ok schedule => exact Or.inl ⟨schedule, rfl, exists_.mp ⟨schedule, found⟩⟩
  | error members =>
    refine Or.inr ⟨_, rfl, fun acyclic => ?_⟩
    obtain ⟨schedule, other⟩ := exists_.mpr acyclic
    cases found.symm.trans other

/-! ### Connections -/

/-- A link enters an input. -/
def IsFed (network : Network κ) (region input : String) : Prop :=
  ∃ link ∈ network.links, link.spec.destination = region ∧ link.spec.input = input

/-- A link leaves an output. -/
def IsRead (network : Network κ) (region output : String) : Prop :=
  ∃ link ∈ network.links, link.spec.source = region ∧ link.spec.output = output

/-- An input has links exactly if a link enters it. -/
theorem isLinked_iff_isFed (network : Network κ) (sound : network.wiring.Sound)
    (region : Region κ) (member : region ∈ network.regions) (name : String) (input : Input)
    (found : region.inputs.get? name = some input) :
    input.isLinked = true ↔ network.IsFed region.name name := by
  rw [network.input_isLinked sound region member name input found]
  simp [IsFed]

/-- An output has links exactly if a link leaves it. -/
theorem isLinked_iff_isRead (network : Network κ) (sound : network.wiring.Sound)
    (region : Region κ) (member : region ∈ network.regions) (name : String) (output : Endpoint)
    (found : region.outputs.get? name = some output) :
    output.isLinked = true ↔ network.IsRead region.name name := by
  rw [network.output_isLinked sound region member name output found]
  simp [IsRead]

/-- Every input that has to be connected is. -/
def Connected (network : Network κ) : Prop :=
  ∀ region ∈ network.regions, ∀ name input, region.inputs.get? name = some input →
    input.required = true → network.IsFed region.name name

/-- The check of required inputs passes exactly if they are connected. -/
theorem checkRequired_cases (network : Network κ) (sound : network.wiring.Sound) :
    (network.checkRequired = .ok () ∧ network.Connected) ∨
      ∃ region input, network.checkRequired = .error (.missingRequiredInput region input) ∧
        ¬network.Connected := by
  rw [checkRequired]
  split
  case h_1 region input missing =>
    refine Or.inr ⟨region, input, rfl, fun connected => ?_⟩
    obtain ⟨owner, member, found⟩ := List.exists_of_findSome?_eq_some missing
    obtain ⟨entry, first, _⟩ := Option.map_eq_some_iff.mp found
    have open_ := List.find?_some first
    have present := owner.inputs.get?_of_mem entry (List.mem_of_find?_eq_some first)
    simp only [Bool.and_eq_true, Bool.not_eq_true'] at open_
    have fed := connected owner member entry.1 entry.2 present open_.1
    rw [← network.isLinked_iff_isFed sound owner member entry.1 entry.2 present, open_.2] at fed
    cases fed
  case h_2 none =>
    refine Or.inl ⟨rfl, fun region member name input found required => ?_⟩
    have passed := List.findSome?_eq_none_iff.mp none region member
    rw [Option.map_eq_none_iff, List.find?_eq_none] at passed
    have linked := passed (name, input) ((region.inputs.mem_entries_iff name input).mpr found)
    rw [← network.isLinked_iff_isFed sound region member name input found]
    simpa [required] using linked

/-! ### Lengths of outputs -/

/-- The check of one input of a region, given the lengths that its links bring. -/
def checkWidth (region : Region κ) (widths : NameMap Nat) (entry : String × Input) :
    Except GraphError Unit :=
  let expected := ((region.spec.input? entry.1).map InputSpec.count).getD 0
  let actual := (widths.get? entry.1).getD 0
  if entry.2.isLinked ∧ 0 < expected ∧ actual ≠ expected then
    .error (.elementCountMismatch region.name entry.1 expected actual)
  else .ok ()

section

variable [Implementation κ]

/-- An output is given a length, if rounds of asking in execution order decide one. -/
def Resolves (network : Network κ) (region output : String) (count : Nat) : Prop :=
  ∃ schedule index number, network.schedule = .ok schedule ∧
    network.position? region = some index ∧
    told (network.rounds schedule.order number) index output = some count

/-- Every output is given a length. -/
def Resolvable (network : Network κ) : Prop :=
  ∀ region ∈ network.regions, ∀ name output, region.outputs.get? name = some output →
    ∃ count, network.Resolves region.name name count

/-- Lengths that are noted are those that outputs are given. -/
structure Finds (network : Network κ) (counts : OutputCounts) : Prop where
  noted : network.Noted counts
  told : ∀ region output count, network.Resolves region output count ↔
    ∃ index, network.position? region = some index ∧ Network.told counts index output = some count

/-- The length of the source of a link is noted if it is given one. -/
theorem Finds.sourceCount {network : Network κ} {counts : OutputCounts}
    (finds : network.Finds counts) (link : Link) (count : Nat) :
    network.sourceCount counts link = some count ↔
      network.Resolves link.spec.source link.spec.output count := by
  rw [finds.told, Network.sourceCount, Option.bind_eq_some_iff]
  rfl

/-- The lengths that some number of rounds decides are those that outputs are given. -/
theorem finds_of_decided (network : Network κ) (schedule : Schedule)
    (scheduled : network.schedule = .ok schedule) (final : OutputCounts)
    (noted : network.Noted final)
    (decided : ∀ index name count, told final index name = some count ↔
      ∃ number, told (network.rounds schedule.order number) index name = some count) :
    network.Finds final := by
  refine ⟨noted, fun region output count => ?_⟩
  constructor
  · rintro ⟨other, index, number, same, position, found⟩
    cases scheduled.symm.trans same
    exact ⟨index, position, (decided index output count).mpr ⟨number, found⟩⟩
  · rintro ⟨index, position, found⟩
    obtain ⟨number, told⟩ := (decided index output count).mp found
    exact ⟨schedule, index, number, scheduled, position, told⟩

/-- What the search finds are the lengths that outputs are given; it succeeds exactly if
every output is given one. -/
theorem outputCounts_cases (network : Network κ) (sound : network.wiring.Sound)
    (schedule : Schedule) (scheduled : network.schedule = .ok schedule) :
    (∃ counts, network.outputCounts schedule.order = .ok counts ∧ network.Finds counts ∧
        network.Resolvable) ∨
      ∃ region output, network.outputCounts schedule.order =
        .error (.unresolvedElementCount region output) ∧ ¬network.Resolvable := by
  have indexed := network.indexed_of_sound sound
  obtain ⟨final, _, noted, _, decided, searched⟩ := network.outputCounts_eq sound schedule.order
  have finds := network.finds_of_decided schedule scheduled final noted decided
  rw [searched]
  cases undecided : network.undecided? final with
  | none =>
    left
    refine ⟨final, rfl, finds, fun region member name output found => ?_⟩
    have closed := (network.undecided?_eq_none_iff final noted).mp undecided region.name name
    obtain ⟨index, here⟩ := List.mem_iff_getElem?.mp member
    have named := (region.outputs.mem_names_iff name).mpr ⟨output, found⟩
    have position := network.position?_of_stands indexed index region here
    cases known : told final index name with
    | none => exact absurd ⟨index, region, here, rfl, named, known⟩ closed
    | some count => exact ⟨count, (finds.told region.name name count).mpr ⟨index, position, known⟩⟩
  | some pair =>
    right
    refine ⟨pair.1, pair.2, rfl, fun resolvable => ?_⟩
    obtain ⟨index, region, here, same, named, unknown⟩ :=
      network.open_of_undecided? final pair.1 pair.2 undecided
    obtain ⟨output, present⟩ := (region.outputs.mem_names_iff pair.2).mp named
    obtain ⟨count, resolved⟩ := resolvable region (List.mem_of_getElem? here) pair.2 output present
    obtain ⟨other, position, known⟩ := (finds.told region.name pair.2 count).mp resolved
    have located := network.position?_of_stands indexed index region here
    cases located.symm.trans position
    cases unknown.symm.trans known

/-! ### What lengths have to fit -/

/-- Every rule stays inside its source. -/
def InRange (network : Network κ) : Prop :=
  ∀ link ∈ network.links, ∀ rule, link.spec.reindex = some rule → ∀ count,
    network.Resolves link.spec.source link.spec.output count → rule.Inside count

/-- An input collects a number of elements: what its links hand on of their sources, added as
words of 64 bits. -/
def Collects (network : Network κ) (region input : String) (total : Nat) : Prop :=
  ∃ count : Link → Nat,
    (∀ link ∈ network.entering region input,
      network.Resolves link.spec.source link.spec.output (count link)) ∧
    total = ((network.entering region input).map
      (fun link => link.width (count link))).sum % 2 ^ 64

/-- Every input with links that declares a length collects it. -/
def Matching (network : Network κ) : Prop :=
  ∀ region ∈ network.regions, ∀ name input declared, region.inputs.get? name = some input →
    network.IsFed region.name name → region.spec.input? name = some declared →
    0 < declared.count → network.Collects region.name name declared.count

/-- Every output that has storage and readers keeps its length. -/
def Keeping (network : Network κ) : Prop :=
  ∀ region ∈ network.regions, ∀ name output, region.outputs.get? name = some output →
    output.buffer.allocated = true → network.IsRead region.name name →
    network.Resolves region.name name output.buffer.length

/-- An output is given one length only. -/
theorem Finds.unique {network : Network κ} {counts : OutputCounts} (finds : network.Finds counts)
    {region output : String} {first second : Nat} (one : network.Resolves region output first)
    (other : network.Resolves region output second) : first = second := by
  obtain ⟨index, position, told⟩ := (finds.told region output first).mp one
  obtain ⟨same, also, toldToo⟩ := (finds.told region output second).mp other
  cases position.symm.trans also
  exact Option.some.inj (told.symm.trans toldToo)

variable (network : Network κ) (sound : network.wiring.Sound) (counts : OutputCounts)
  (finds : network.Finds counts) (resolvable : network.Resolvable)

include sound resolvable in
/-- The source of every link is given a length. -/
theorem source_resolved (link : Link) (member : link ∈ network.links) :
    ∃ count, network.Resolves link.spec.source link.spec.output count := by
  obtain ⟨source, present, _, _, output, _, named, found, _⟩ := network.link_ends sound link member
  obtain ⟨count, resolved⟩ := resolvable source present link.spec.output output found
  exact ⟨count, named ▸ resolved⟩

include sound finds resolvable in
/-- The check of rules passes exactly if they stay inside. -/
theorem checkReindex_cases :
    (network.checkReindex counts = .ok () ∧ network.InRange) ∨
      ∃ id spec cause, network.checkReindex counts = .error (.reindexOutOfRange id spec cause) ∧
        ¬network.InRange := by
  have each (link : Link) (member : link ∈ network.links) (rule : Reindex)
      (ruled : link.spec.reindex = some rule) :
      ∃ count, network.Resolves link.spec.source link.spec.output count ∧
        (do let source ← network.position link.spec.source
            let length := ((counts[source]?.getD ∅).get? link.spec.output).getD 0
            (rule.validate length).mapError (.reindexOutOfRange link.id link.spec)) =
          (rule.validate count).mapError (GraphError.reindexOutOfRange link.id link.spec) := by
    obtain ⟨count, resolved⟩ := network.source_resolved sound resolvable link member
    obtain ⟨index, position, told⟩ := (finds.told _ _ _).mp resolved
    refine ⟨count, resolved, ?_⟩
    have counted : (counts[index]?.getD ∅).get? link.spec.output = some count := told
    rw [Network.position, position]
    dsimp only
    rw [Traversal.ok_bind, counted, Option.getD_some]
  cases checked : network.checkReindex counts with
  | ok _ =>
    left
    refine ⟨rfl, fun link member rule ruled count resolved => ?_⟩
    have passed := (Traversal.forM_ok_iff _ _).mp checked link member
    obtain ⟨other, also, same⟩ := each link member rule ruled
    rw [ruled] at passed
    dsimp only at passed
    rw [same, Traversal.mapError_ok_iff, finds.unique also resolved] at passed
    exact (rule.validate_ok_iff count).mp passed
  | error fault =>
    right
    obtain ⟨link, member, failed⟩ := Traversal.forM_error _ _ _ checked
    cases ruled : link.spec.reindex with
    | none =>
      rw [ruled] at failed
      cases failed
    | some rule =>
      obtain ⟨count, resolved, same⟩ := each link member rule ruled
      rw [ruled] at failed
      dsimp only at failed
      rw [same] at failed
      cases valid : rule.validate count with
      | ok _ =>
        rw [valid] at failed
        cases failed
      | error cause =>
        rw [valid] at failed
        cases failed
        refine ⟨link.id, link.spec, cause, rfl, fun inside => ?_⟩
        have passes :=
          (rule.validate_ok_iff count).mpr (inside link member rule ruled count resolved)
        cases valid.symm.trans passes

include sound finds resolvable in
/-- The lengths of all sources of an input were found. -/
theorem entering_counted (region input : String) (link : Link)
    (enters : link ∈ network.entering region input) :
    ∃ count, network.sourceCount counts link = some count := by
  obtain ⟨count, resolved⟩ :=
    network.source_resolved sound resolvable link (List.mem_of_mem_filter enters)
  exact ⟨count, (finds.sourceCount link count).mpr resolved⟩

include sound finds resolvable in
/-- What an input collects is what its links bring by the lengths that were found. -/
theorem collects_iff (region input : String) (total : Nat) :
    network.Collects region input total ↔
      network.brought counts (network.entering region input) = some total := by
  have known := network.entering_counted sound counts finds resolvable region input
  rw [network.brought_of_decided counts _ known, Option.some.injEq]
  constructor
  · rintro ⟨count, resolved, rfl⟩
    refine congrArg (fun widths => List.sum widths % 2 ^ 64) (List.map_congr_left ?_)
    intro link enters
    rw [(finds.sourceCount link (count link)).mpr (resolved link enters), Option.getD_some]
  · rintro rfl
    refine ⟨fun link => (network.sourceCount counts link).getD 0, fun link enters => ?_, rfl⟩
    obtain ⟨count, counted⟩ := known link enters
    dsimp only
    rw [counted, Option.getD_some]
    exact (finds.sourceCount link count).mp counted

include sound finds resolvable in
/-- Every input collects some number of elements, by the lengths that were found. -/
theorem collects_widths (region : Region κ) (name : String) (input : Input)
    (found : region.inputs.get? name = some input) :
    network.Collects region.name name (((network.widths counts region).get? name).getD 0) := by
  have known := network.entering_counted sound counts finds resolvable region.name name
  rw [network.collects_iff sound counts finds resolvable, widths, NameMap.get?_filterMap, found,
    Option.bind_some, network.brought_of_decided counts _ known, Option.getD_some]

include sound finds resolvable in
/-- An input collects one number of elements only. -/
theorem collects_unique (region input : String) (first second : Nat)
    (one : network.Collects region input first) (other : network.Collects region input second) :
    first = second := by
  rw [network.collects_iff sound counts finds resolvable] at one other
  exact Option.some.inj (one.symm.trans other)

include sound finds resolvable in
/-- The check of declared lengths of inputs passes exactly if they are collected. -/
theorem inputCounts_cases :
    (∃ inputs, network.regions.mapM (network.inputCounts counts) = .ok inputs ∧
        network.Matching) ∨
      ∃ region input expected actual, network.regions.mapM (network.inputCounts counts) =
        .error (.elementCountMismatch region input expected actual) ∧ ¬network.Matching := by
  have checks (region : Region κ) (member : region ∈ network.regions) :
      network.inputCounts counts region =
        region.inputs.entries.forM (checkWidth region (network.widths counts region)) >>=
          fun _ => pure (network.widths counts region) := by
    rw [inputCounts, network.knownWidths_eq sound counts region member]
    rfl
  cases checked : network.regions.mapM (network.inputCounts counts) with
  | ok inputs =>
    left
    refine ⟨inputs, rfl, fun region member name input declared found fed described positive => ?_⟩
    obtain ⟨index, here⟩ := List.mem_iff_getElem?.mp member
    obtain ⟨_, _, passed⟩ := Traversal.mapM_getElem? _ _ _ checked index region here
    rw [checks region member] at passed
    obtain ⟨_, each, _⟩ := (Traversal.bind_ok_iff _ _ _).mp passed
    have entry := (region.inputs.mem_entries_iff name input).mpr found
    have own := (Traversal.forM_ok_iff _ _).mp each (name, input) entry
    have linked := (network.isLinked_iff_isFed sound region member name input found).mpr fed
    have received := network.collects_widths sound counts finds resolvable region name input found
    simp only [checkWidth, described, Option.map_some, Option.getD_some, linked, positive,
      true_and] at own
    split at own
    case isTrue mismatch => cases own
    case isFalse fits => exact of_not_not fits ▸ received
  | error fault =>
    right
    obtain ⟨region, member, failed⟩ := Traversal.mapM_error _ _ _ checked
    rw [checks region member] at failed
    rcases (Traversal.bind_error_iff _ _ _).mp failed with each | ⟨_, _, returned⟩
    · obtain ⟨⟨name, input⟩, entry, mismatch⟩ := Traversal.forM_error _ _ _ each
      have found := (region.inputs.mem_entries_iff name input).mp entry
      have received := network.collects_widths sound counts finds resolvable region name input found
      simp only [checkWidth] at mismatch
      split at mismatch
      case isFalse fits => cases mismatch
      case isTrue wrong =>
        cases mismatch
        refine ⟨region.name, name, _, _, rfl, fun matching => ?_⟩
        obtain ⟨linked, positive, different⟩ := wrong
        have fed := (network.isLinked_iff_isFed sound region member name input found).mp linked
        cases described : region.spec.input? name with
        | none =>
          rw [described] at positive
          cases positive
        | some declared =>
          rw [described] at positive different
          have wanted := matching region member name input declared found fed described positive
          exact different (network.collects_unique sound counts finds resolvable _ _ _ _
            received wanted)
    · cases returned

include sound finds resolvable in
/-- The check of outputs that readers rely on passes exactly if they keep their lengths. -/
theorem checkResizes_cases :
    (network.checkResizes counts = .ok () ∧ network.Keeping) ∨
      ∃ region output current requested, network.checkResizes counts =
        .error (.bufferResize region output current requested) ∧ ¬network.Keeping := by
  have indexed := network.indexed_of_sound sound
  have resolves (region : Region κ) (index : Nat) (here : network.regions[index]? = some region)
      (known : NameMap Nat) (there : counts[index]? = some known) (name : String)
      (output : Endpoint) (found : region.outputs.get? name = some output) :
      network.Resolves region.name name ((known.get? name).getD 0) := by
    obtain ⟨count, resolved⟩ :=
      resolvable region (List.mem_of_getElem? here) name output found
    obtain ⟨other, position, told⟩ := (finds.told _ _ _).mp resolved
    have same := network.position?_of_stands indexed index region here
    cases same.symm.trans position
    rw [Network.told, there, Option.getD_some] at told
    rw [told, Option.getD_some]
    exact resolved
  cases checked : network.checkResizes counts with
  | ok _ =>
    left
    refine ⟨rfl, fun region member name output found storage read => ?_⟩
    obtain ⟨index, here⟩ := List.mem_iff_getElem?.mp member
    obtain ⟨known, there⟩ := finds.noted.known index region here
    have paired : (region, known) ∈ network.regions.zip counts :=
      List.mem_of_getElem? (List.getElem?_zip_eq_some.mpr ⟨here, there⟩)
    have passed := (Traversal.forM_ok_iff _ _).mp ((Traversal.forM_ok_iff _ _).mp checked _ paired)
      (name, output) ((region.outputs.mem_entries_iff name output).mpr found)
    have linked := (network.isLinked_iff_isRead sound region member name output found).mpr read
    have resolved := resolves region index here _ there name output found
    simp only [storage, linked, and_true, true_and] at passed
    split at passed
    case isTrue moved => cases passed
    case isFalse same => exact (of_not_not same).symm ▸ resolved
  | error fault =>
    right
    obtain ⟨⟨region, known⟩, paired, outer⟩ := Traversal.forM_error _ _ _ checked
    obtain ⟨⟨name, output⟩, entry, failed⟩ := Traversal.forM_error _ _ _ outer
    obtain ⟨index, here⟩ := List.mem_iff_getElem?.mp paired
    obtain ⟨regionHere, knownHere⟩ := List.getElem?_zip_eq_some.mp here
    have member := List.mem_of_getElem? regionHere
    have found := (region.outputs.mem_entries_iff name output).mp entry
    have resolved := resolves region index regionHere known knownHere name output found
    dsimp only at failed
    split at failed
    case isFalse kept => cases failed
    case isTrue wrong =>
      cases failed
      obtain ⟨storage, moved, linked⟩ := wrong
      refine ⟨region.name, name, _, _, rfl, fun keeping => ?_⟩
      have read := (network.isLinked_iff_isRead sound region member name output found).mp linked
      exact moved (finds.unique (keeping region member name output found storage read) resolved)

end

end Network

end RegionGraph
