import RegionGraph.Proofs.Lookup

/-!
# Wiring

The wiring of a network is what remains of it when contents, states and progress
are left out: the endpoints of each region with their element types and links, the
index of the regions, and the links with their numbers and specifications. It is sound
when the index is that of the regions and the two records of every link agree, the one
in the list of links and the one at its endpoints. Soundness is stated of the wiring
alone, so that whatever changes contents only keeps it, and each way of rewiring has one
law here.
-/

namespace RegionGraph

variable {κ π : Type}

/-- A region reduced to what is told of each of its endpoints. -/
structure Node (π : Type) where
  name : String
  outputs : NameMap π
  inputs : NameMap π

/-- What a function tells of the endpoints of a region. -/
def Region.view (tell : Endpoint → π) (region : Region κ) : Node π where
  name := region.name
  outputs := region.outputs.map (fun _ endpoint => tell endpoint)
  inputs := region.inputs.map (fun _ input => tell input.toEndpoint)

/-- What wiring knows of an endpoint. -/
structure Port where
  type : ElementType
  links : List LinkId

/-- An endpoint without its contents. -/
def Endpoint.port (endpoint : Endpoint) : Port := ⟨endpoint.buffer.type, endpoint.links⟩

/-- Two specifications join the same output to the same input. -/
def LinkSpec.SameEnds (first second : LinkSpec) : Prop :=
  first.source = second.source ∧ first.output = second.output ∧
    first.destination = second.destination ∧ first.input = second.input

/-- The endpoints and links of a network. -/
structure Wiring where
  nodes : List (Node Port)
  index : NameMap Nat
  links : List (LinkId × LinkSpec)
  nextLinkId : Nat

/-- The wiring of a network. -/
def Network.wiring (network : Network κ) : Wiring where
  nodes := network.regions.map (Region.view Endpoint.port)
  index := network.index
  links := network.links.map (fun link => (link.id, link.spec))
  nextLinkId := network.nextLinkId

namespace Wiring

/-- The numbers of the links that leave an output, in the order of links. -/
def leaving (wiring : Wiring) (region output : String) : List LinkId :=
  (wiring.links.filter (fun link => link.2.source = region ∧ link.2.output = output)).map Prod.fst

/-- The numbers of the links that enter an input, in the order of links. -/
def entering (wiring : Wiring) (region input : String) : List LinkId :=
  (wiring.links.filter
    (fun link => link.2.destination = region ∧ link.2.input = input)).map Prod.fst

/-- The ends of a specification exist and hold elements of one type. -/
def Joins (wiring : Wiring) (spec : LinkSpec) : Prop :=
  ∃ source ∈ wiring.nodes, ∃ destination ∈ wiring.nodes, ∃ output input,
    source.name = spec.source ∧ source.outputs.get? spec.output = some output ∧
    destination.name = spec.destination ∧ destination.inputs.get? spec.input = some input ∧
    output.type = input.type

/-- The index is that of the regions, and the records of every link agree. The links of
an endpoint are those that the list of links says end there, in its order; everything
that is claimed of single link numbers follows from this. -/
structure Sound (wiring : Wiring) : Prop where
  indexed : wiring.index.Indexes (wiring.nodes.map Node.name)
  ascending : wiring.links.Pairwise (fun earlier later => earlier.1.number < later.1.number)
  numbered : ∀ link ∈ wiring.links, link.1.number < wiring.nextLinkId
  joined : ∀ link ∈ wiring.links, wiring.Joins link.2
  single : wiring.links.Pairwise (fun earlier later => ¬ earlier.2.SameEnds later.2)
  selecting : ∀ link ∈ wiring.links, ∀ rule, link.2.reindex = some rule → rule.width ≠ 0
  outputs : ∀ node ∈ wiring.nodes, ∀ name port, node.outputs.get? name = some port →
    port.links = wiring.leaving node.name name
  inputs : ∀ node ∈ wiring.nodes, ∀ name port, node.inputs.get? name = some port →
    port.links = wiring.entering node.name name

/-- Nothing is wired. -/
theorem sound_empty (next : Nat) : Sound ⟨[], ∅, [], next⟩ where
  indexed := NameMap.indexes_nil
  ascending := List.Pairwise.nil
  numbered := by simp
  joined := by simp
  single := List.Pairwise.nil
  selecting := by simp
  outputs := by simp
  inputs := by simp

/-- Ascending numbers are distinct. -/
theorem nodup_of_ascending (numbers : List LinkId)
    (ascending : numbers.Pairwise (fun earlier later => earlier.number < later.number)) :
    numbers.Nodup := by
  refine ascending.imp ?_
  intro earlier later before same
  exact absurd (congrArg LinkId.number same) (Nat.ne_of_lt before)

/-- Two links of one number are the same link. -/
theorem Sound.link_unique {wiring : Wiring} (sound : wiring.Sound) (first second : LinkId × LinkSpec)
    (firstMember : first ∈ wiring.links) (secondMember : second ∈ wiring.links)
    (same : first.1 = second.1) : first = second := by
  refine List.inj_on_of_nodup_map ?_ firstMember secondMember same
  exact nodup_of_ascending _ (List.pairwise_map.mpr sound.ascending)

/-- The number of a link is among those of the links of a kind exactly if the link is of it. -/
theorem Sound.mem_numbers_iff {wiring : Wiring} (sound : wiring.Sound)
    (kind : LinkId × LinkSpec → Prop) [DecidablePred kind] (link : LinkId × LinkSpec)
    (member : link ∈ wiring.links) :
    link.1 ∈ (wiring.links.filter (fun link => kind link)).map Prod.fst ↔ kind link := by
  constructor
  · intro listed
    obtain ⟨other, present, same⟩ := List.mem_map.mp listed
    obtain ⟨otherMember, fits⟩ := List.mem_filter.mp present
    rw [sound.link_unique link other member otherMember same.symm]
    exact of_decide_eq_true fits
  · intro fits
    exact List.mem_map_of_mem (List.mem_filter.mpr ⟨member, decide_eq_true fits⟩)

/-- The number of a link stands at the output that the link leaves and at no other. -/
theorem Sound.mem_leaving_iff {wiring : Wiring} (sound : wiring.Sound) (link : LinkId × LinkSpec)
    (member : link ∈ wiring.links) (region output : String) :
    link.1 ∈ wiring.leaving region output ↔
      link.2.source = region ∧ link.2.output = output :=
  sound.mem_numbers_iff (fun link => link.2.source = region ∧ link.2.output = output) link member

/-- The number of a link stands at the input that the link enters and at no other. -/
theorem Sound.mem_entering_iff {wiring : Wiring} (sound : wiring.Sound) (link : LinkId × LinkSpec)
    (member : link ∈ wiring.links) (region input : String) :
    link.1 ∈ wiring.entering region input ↔
      link.2.destination = region ∧ link.2.input = input :=
  sound.mem_numbers_iff (fun link => link.2.destination = region ∧ link.2.input = input) link member

/-- The numbers at an output ascend. -/
theorem Sound.leaving_ascending {wiring : Wiring} (sound : wiring.Sound) (region output : String) :
    (wiring.leaving region output).Pairwise (fun earlier later => earlier.number < later.number) :=
  List.pairwise_map.mpr (sound.ascending.filter _)

/-- The numbers at an input ascend. -/
theorem Sound.entering_ascending {wiring : Wiring} (sound : wiring.Sound) (region input : String) :
    (wiring.entering region input).Pairwise (fun earlier later => earlier.number < later.number) :=
  List.pairwise_map.mpr (sound.ascending.filter _)

/-- Ends that exist still exist when regions are added. -/
theorem Joins.mono {wiring wider : Wiring} {spec : LinkSpec} (joins : wiring.Joins spec)
    (kept : ∀ node ∈ wiring.nodes, node ∈ wider.nodes) : wider.Joins spec := by
  obtain ⟨source, sourceMember, destination, destinationMember, rest⟩ := joins
  exact ⟨source, kept source sourceMember, destination, kept destination destinationMember, rest⟩

/-! ### Adding a region -/

/-- Add a region at the end. -/
def extend (wiring : Wiring) (node : Node Port) : Wiring :=
  { wiring with
    nodes := wiring.nodes ++ [node]
    index := wiring.index.insert node.name wiring.nodes.length }

/-- A new region without links keeps the wiring sound: no link mentions its name,
because both ends of every link exist already. -/
theorem sound_extend (wiring : Wiring) (sound : wiring.Sound) (node : Node Port)
    (fresh : ∀ other ∈ wiring.nodes, other.name ≠ node.name)
    (outputsFree : ∀ name port, node.outputs.get? name = some port → port.links = [])
    (inputsFree : ∀ name port, node.inputs.get? name = some port → port.links = []) :
    (wiring.extend node).Sound where
  indexed := by
    have unused : node.name ∉ wiring.nodes.map Node.name := by
      intro member
      obtain ⟨former, present, same⟩ := List.mem_map.mp member
      exact fresh former present same
    have indexed := sound.indexed.concat node.name unused
    rw [List.length_map] at indexed
    rw [extend, List.map_append, List.map_singleton]
    exact indexed
  ascending := sound.ascending
  numbered := sound.numbered
  joined := fun link member =>
    (sound.joined link member).mono (fun other present => List.mem_append_left [node] present)
  single := sound.single
  selecting := sound.selecting
  outputs := by
    intro other member name port found
    rcases List.mem_append.mp member with former | new
    · exact sound.outputs other former name port found
    · cases List.mem_singleton.mp new
      have unmentioned : wiring.leaving node.name name = [] := by
        rw [leaving, List.map_eq_nil_iff, List.filter_eq_nil_iff]
        intro link present ends
        obtain ⟨source, sourceMember, _, _, _, _, named, _⟩ := sound.joined link present
        exact fresh source sourceMember (named.trans (of_decide_eq_true ends).1)
      exact (outputsFree name port found).trans unmentioned.symm
  inputs := by
    intro other member name port found
    rcases List.mem_append.mp member with former | new
    · exact sound.inputs other former name port found
    · cases List.mem_singleton.mp new
      have unmentioned : wiring.entering node.name name = [] := by
        rw [entering, List.map_eq_nil_iff, List.filter_eq_nil_iff]
        intro link present ends
        obtain ⟨_, _, destination, destinationMember, _, _, _, _, named, _⟩ :=
          sound.joined link present
        exact fresh destination destinationMember (named.trans (of_decide_eq_true ends).1)
      exact (inputsFree name port found).trans unmentioned.symm

/-! ### Changing the links of endpoints -/

/-- Change the links of each endpoint by a function of its region, its name and
its links. -/
def relink (outputs inputs : String → String → List LinkId → List LinkId) (node : Node Port) :
    Node Port where
  name := node.name
  outputs := node.outputs.map (fun name port =>
    { port with links := outputs node.name name port.links })
  inputs := node.inputs.map (fun name port =>
    { port with links := inputs node.name name port.links })

/-- Ends that exist keep their types when links at endpoints change. -/
theorem Joins.relink {wiring changed : Wiring} {spec : LinkSpec} (joins : wiring.Joins spec)
    (outputs inputs : String → String → List LinkId → List LinkId)
    (nodes : changed.nodes = wiring.nodes.map (relink outputs inputs)) : changed.Joins spec := by
  obtain ⟨source, sourceMember, destination, destinationMember, output, input, sourceName,
    outputFound, destinationName, inputFound, types⟩ := joins
  have sourceChanged : Wiring.relink outputs inputs source ∈ changed.nodes :=
    nodes ▸ List.mem_map_of_mem sourceMember
  have destinationChanged : Wiring.relink outputs inputs destination ∈ changed.nodes :=
    nodes ▸ List.mem_map_of_mem destinationMember
  refine ⟨_, sourceChanged, _, destinationChanged,
    { output with links := outputs source.name spec.output output.links },
    { input with links := inputs destination.name spec.input input.links },
    sourceName, ?_, destinationName, ?_, types⟩
  · simp only [Wiring.relink, NameMap.get?_map, outputFound, Option.map_some]
  · simp only [Wiring.relink, NameMap.get?_map, inputFound, Option.map_some]

/-- Changing links at endpoints changes no name. -/
theorem names_relink (outputs inputs : String → String → List LinkId → List LinkId)
    (nodes : List (Node Port)) :
    (nodes.map (relink outputs inputs)).map Node.name = nodes.map Node.name := by
  simp [relink, Function.comp_def]

/-- Outputs stay in agreement when their links change as the list of links does. -/
theorem outputs_relink (wiring changed : Wiring) (sound : wiring.Sound)
    (outputs inputs : String → String → List LinkId → List LinkId)
    (nodes : changed.nodes = wiring.nodes.map (relink outputs inputs))
    (agree : ∀ region output,
      changed.leaving region output = outputs region output (wiring.leaving region output))
    (node : Node Port) (member : node ∈ changed.nodes) (name : String) (port : Port)
    (found : node.outputs.get? name = some port) : port.links = changed.leaving node.name name := by
  obtain ⟨former, present, rfl⟩ := List.mem_map.mp (nodes ▸ member)
  obtain ⟨previous, previousFound, rfl⟩ :=
    Option.map_eq_some_iff.mp ((NameMap.get?_map _ _ _).symm.trans found)
  rw [agree, relink, ← sound.outputs former present name previous previousFound]

/-- Inputs stay in agreement when their links change as the list of links does. -/
theorem inputs_relink (wiring changed : Wiring) (sound : wiring.Sound)
    (outputs inputs : String → String → List LinkId → List LinkId)
    (nodes : changed.nodes = wiring.nodes.map (relink outputs inputs))
    (agree : ∀ region input,
      changed.entering region input = inputs region input (wiring.entering region input))
    (node : Node Port) (member : node ∈ changed.nodes) (name : String) (port : Port)
    (found : node.inputs.get? name = some port) : port.links = changed.entering node.name name := by
  obtain ⟨former, present, rfl⟩ := List.mem_map.mp (nodes ▸ member)
  obtain ⟨previous, previousFound, rfl⟩ :=
    Option.map_eq_some_iff.mp ((NameMap.get?_map _ _ _).symm.trans found)
  rw [agree, relink, ← sound.inputs former present name previous previousFound]

/-! ### Adding a link -/

/-- Add a link under the next number and record it at both ends. -/
def join (wiring : Wiring) (spec : LinkSpec) : Wiring where
  nodes := wiring.nodes.map (relink
    (fun region output links =>
      if region = spec.source ∧ output = spec.output then links ++ [⟨wiring.nextLinkId⟩]
      else links)
    (fun region input links =>
      if region = spec.destination ∧ input = spec.input then links ++ [⟨wiring.nextLinkId⟩]
      else links))
  index := wiring.index
  links := wiring.links ++ [(⟨wiring.nextLinkId⟩, spec)]
  nextLinkId := wiring.nextLinkId + 1

/-- The new link leaves the output that its specification names. -/
theorem leaving_join (wiring : Wiring) (spec : LinkSpec) (region output : String) :
    (wiring.join spec).leaving region output =
      if region = spec.source ∧ output = spec.output then
        wiring.leaving region output ++ [⟨wiring.nextLinkId⟩]
      else wiring.leaving region output := by
  by_cases here : spec.source = region ∧ spec.output = output
  · simp [leaving, join, List.filter_append, here]
  · have elsewhere : ¬ (region = spec.source ∧ output = spec.output) := fun ends =>
      here ⟨ends.1.symm, ends.2.symm⟩
    simp [leaving, join, List.filter_append, here, elsewhere]

/-- The new link enters the input that its specification names. -/
theorem entering_join (wiring : Wiring) (spec : LinkSpec) (region input : String) :
    (wiring.join spec).entering region input =
      if region = spec.destination ∧ input = spec.input then
        wiring.entering region input ++ [⟨wiring.nextLinkId⟩]
      else wiring.entering region input := by
  by_cases here : spec.destination = region ∧ spec.input = input
  · simp [entering, join, List.filter_append, here]
  · have elsewhere : ¬ (region = spec.destination ∧ input = spec.input) := fun ends =>
      here ⟨ends.1.symm, ends.2.symm⟩
    simp [entering, join, List.filter_append, here, elsewhere]

/-- A link between ends that exist, have one type and are not joined yet keeps the
wiring sound. Its number is larger than all others, so every list grows at its end. -/
theorem sound_join (wiring : Wiring) (sound : wiring.Sound) (spec : LinkSpec)
    (joins : wiring.Joins spec) (single : ∀ link ∈ wiring.links, ¬ link.2.SameEnds spec)
    (selecting : ∀ rule, spec.reindex = some rule → rule.width ≠ 0) :
    (wiring.join spec).Sound where
  indexed := by
    rw [join, names_relink]
    exact sound.indexed
  ascending := by
    refine List.pairwise_append.mpr ⟨sound.ascending, List.pairwise_singleton _ _, ?_⟩
    intro link member added same
    cases List.mem_singleton.mp same
    exact sound.numbered link member
  numbered := by
    intro link member
    rcases List.mem_append.mp member with former | new
    · exact Nat.lt_succ_of_lt (sound.numbered link former)
    · cases List.mem_singleton.mp new
      exact Nat.lt_succ_self _
  joined := by
    intro link member
    refine Joins.relink ?_ _ _ rfl
    rcases List.mem_append.mp member with former | new
    · exact sound.joined link former
    · cases List.mem_singleton.mp new
      exact joins
  single := by
    refine List.pairwise_append.mpr ⟨sound.single, List.pairwise_singleton _ _, ?_⟩
    intro link member added same
    cases List.mem_singleton.mp same
    exact single link member
  selecting := by
    intro link member
    rcases List.mem_append.mp member with former | new
    · exact sound.selecting link former
    · cases List.mem_singleton.mp new
      exact selecting
  outputs := outputs_relink wiring _ sound _ _ rfl (wiring.leaving_join spec)
  inputs := inputs_relink wiring _ sound _ _ rfl (wiring.entering_join spec)

/-! ### Removing links and regions -/

/-- Take links away, at their ends as well. -/
def cut (wiring : Wiring) (gone : List LinkId) : Wiring where
  nodes := wiring.nodes.map (relink (fun _ _ links => links.filter (· ∉ gone))
    (fun _ _ links => links.filter (· ∉ gone)))
  index := wiring.index
  links := wiring.links.filter (fun link => link.1 ∉ gone)
  nextLinkId := wiring.nextLinkId

/-- The links that remain leave the outputs that they left. -/
theorem leaving_cut (wiring : Wiring) (gone : List LinkId) (region output : String) :
    (wiring.cut gone).leaving region output =
      (wiring.leaving region output).filter (· ∉ gone) := by
  simp only [leaving, cut, List.filter_map, List.filter_filter, Function.comp_def, Bool.and_comm]

/-- The links that remain enter the inputs that they entered. -/
theorem entering_cut (wiring : Wiring) (gone : List LinkId) (region input : String) :
    (wiring.cut gone).entering region input =
      (wiring.entering region input).filter (· ∉ gone) := by
  simp only [entering, cut, List.filter_map, List.filter_filter, Function.comp_def, Bool.and_comm]

/-- Wiring stays sound when links are taken away. -/
theorem sound_cut (wiring : Wiring) (sound : wiring.Sound) (gone : List LinkId) :
    (wiring.cut gone).Sound where
  indexed := by
    rw [cut, names_relink]
    exact sound.indexed
  ascending := sound.ascending.filter _
  numbered := fun link member => sound.numbered link (List.mem_of_mem_filter member)
  joined := fun link member =>
    (sound.joined link (List.mem_of_mem_filter member)).relink _ _ rfl
  single := sound.single.filter _
  selecting := fun link member => sound.selecting link (List.mem_of_mem_filter member)
  outputs := outputs_relink wiring _ sound _ _ rfl (wiring.leaving_cut gone)
  inputs := inputs_relink wiring _ sound _ _ rfl (wiring.entering_cut gone)

/-- Take a region away and index those that remain. -/
def drop (wiring : Wiring) (name : String) : Wiring :=
  { wiring with
    nodes := wiring.nodes.filter (fun node => node.name ≠ name)
    index := .ofList
      ((wiring.nodes.filter (fun node => node.name ≠ name)).map Node.name).zipIdx }

/-- A region without links can be taken away. -/
theorem sound_drop (wiring : Wiring) (sound : wiring.Sound) (name : String)
    (free : ∀ link ∈ wiring.links, link.2.source ≠ name ∧ link.2.destination ≠ name) :
    (wiring.drop name).Sound where
  indexed := by
    refine NameMap.indexes_zipIdx _ (sound.indexed.nodup.sublist ?_)
    exact (List.filter_sublist).map Node.name
  ascending := sound.ascending
  numbered := sound.numbered
  joined := by
    intro link member
    obtain ⟨source, sourceMember, destination, destinationMember, output, input, sourceName,
      outputFound, destinationName, inputFound, types⟩ := sound.joined link member
    have ends := free link member
    refine ⟨source, ?_, destination, ?_, output, input, sourceName, outputFound, destinationName,
      inputFound, types⟩
    · exact List.mem_filter.mpr ⟨sourceMember, by simpa [sourceName] using ends.1⟩
    · exact List.mem_filter.mpr ⟨destinationMember, by simpa [destinationName] using ends.2⟩
  single := sound.single
  selecting := sound.selecting
  outputs := fun node member => sound.outputs node (List.mem_of_mem_filter member)
  inputs := fun node member => sound.inputs node (List.mem_of_mem_filter member)

end Wiring

end RegionGraph
