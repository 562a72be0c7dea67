import RegionGraph.Proofs.Traversal
import RegionGraph.Proofs.Wiring

/-!
# What rewiring does

Each operation on the topology either refuses and leaves the network as it was,
or has one effect that is described here as a whole: on the list of links, on the
links of every endpoint, and on nothing else. That it never stops half-way rests
on sound wiring, which is why the effect of an operation and the soundness of its
result are proved from the soundness of what it found.
-/

namespace RegionGraph

variable {κ : Type}

namespace Region

/-- Change the links of each endpoint by a function of its region, its name and
its links. -/
def rewire (outputs inputs : String → String → List LinkId → List LinkId) (region : Region κ) :
    Region κ :=
  { region with
    outputs := region.outputs.map (fun name endpoint =>
      { endpoint with links := outputs region.name name endpoint.links })
    inputs := region.inputs.map (fun name input =>
      { input with links := inputs region.name name input.links }) }

/-- The view of a rewired region. -/
theorem view_rewire (outputs inputs : String → String → List LinkId → List LinkId)
    (region : Region κ) : (region.rewire outputs inputs).view Endpoint.port =
      Wiring.relink outputs inputs (region.view Endpoint.port) := by
  simp only [view, rewire, Wiring.relink, NameMap.map_map, Endpoint.port]

end Region

namespace Network

/-- Forgetting what building has found out changes no wiring. -/
@[simp] theorem wiring_invalidated (network : Network κ) :
    network.invalidated.wiring = network.wiring := by
  simp [wiring, invalidated, Region.view, Function.comp_def]

/-- Sound wiring has an index of its regions. -/
theorem indexed_of_sound (network : Network κ) (sound : network.wiring.Sound) :
    network.Indexed := by
  have indexed := sound.indexed
  rw [wiring, List.map_map] at indexed
  exact indexed

/-- Soundly wired networks that have the same names have the same index. -/
theorem index_congr (first second : Network κ) (soundFirst : first.wiring.Sound)
    (soundSecond : second.wiring.Sound)
    (names : first.regions.map Region.name = second.regions.map Region.name) :
    first.index = second.index := by
  have indexed := first.indexed_of_sound soundFirst
  rw [Indexed, names] at indexed
  exact indexed.unique (second.indexed_of_sound soundSecond)

/-- Sound wiring lists the links by ascending number. -/
theorem links_ascending (network : Network κ) (sound : network.wiring.Sound) :
    network.links.Pairwise (fun earlier later => earlier.id.number < later.id.number) := by
  have ascending := sound.ascending
  rw [wiring, List.pairwise_map] at ascending
  exact ascending

/-- The links of an output are those that the list of links says leave it. -/
theorem output_links (network : Network κ) (sound : network.wiring.Sound) (region : Region κ)
    (member : region ∈ network.regions) (name : String) (endpoint : Endpoint)
    (found : region.outputs.get? name = some endpoint) :
    endpoint.links = network.wiring.leaving region.name name := by
  refine sound.outputs (region.view Endpoint.port) (List.mem_map_of_mem member) name
    endpoint.port ?_
  simp [Region.view, found]

/-- The links of an input are those that the list of links says enter it. -/
theorem input_links (network : Network κ) (sound : network.wiring.Sound) (region : Region κ)
    (member : region ∈ network.regions) (name : String) (input : Input)
    (found : region.inputs.get? name = some input) :
    input.links = network.wiring.entering region.name name := by
  refine sound.inputs (region.view Endpoint.port) (List.mem_map_of_mem member) name
    input.toEndpoint.port ?_
  simp [Region.view, found]

/-! ### Adding regions -/

/-- The wiring after a region was added. -/
theorem wiring_insertRegion (network : Network κ) (region : Region κ) :
    (network.insertRegion region).wiring =
      network.wiring.extend (region.view Endpoint.port) := by
  rw [insertRegion, wiring_invalidated]
  simp only [wiring, Wiring.extend, List.map_append, List.map_cons, List.map_nil,
    List.length_map]
  rfl

/-- The region that is to be added: what the registry makes for a name that is free. -/
def newRegion (network : Network κ) (name type : String) (params : Params) :
    Consult κ (Region κ) := do
  network.checkRegion name
  let (state, completed) ← Registry.create type params name
  let spec ← Registry.spec type
  return .new name type spec completed state

/-- A region that can be made is inserted. Until then the network is not written to. -/
theorem run_addRegion (network : Network κ) (registry : Registry κ) (name type : String)
    (params : Params) : (addRegion name type params).run (registry, network) =
      match (network.newRegion name type params).run registry with
      | (.ok region, later) => (.ok (), later, network.insertRegion region)
      | (.error fault, later) => (.error fault, later, network) := by
  have consults {α : Type} (consult : Consult κ α) (registry : Registry κ) :
      (consulting consult).run (registry, network) =
        ((consult.run registry).1, (consult.run registry).2, network) := rfl
  have edits {α : Type} (edit : Edit κ α) (registry : Registry κ) :
      (editing edit).run (registry, network) =
        ((edit.run network).1, registry, (edit.run network).2) := rfl
  simp only [addRegion, newRegion, Edit.run_bind, Edit.run_get, Edit.run_lift, edits]
  cases network.checkRegion name with
  | error fault => rfl
  | ok _ =>
    simp only [consults]
    rcases (Registry.create type params name).run registry with ⟨created, middle⟩
    cases created with
    | error fault => rfl
    | ok made =>
      simp only [consults]
      rcases (Registry.spec type).run middle with ⟨told, later⟩
      cases told <;> rfl

/-- A region that is added successfully is new, it is made of what the registry gives, and
it is all that is added. -/
theorem addRegion_ok (network next : Network κ) (registry later : Registry κ)
    (name type : String) (params : Params)
    (added : (addRegion name type params).run (registry, network) = (.ok (), later, next)) :
    network.hasRegion name = false ∧
      ∃ spec completed state middle,
        (Registry.create type params name).run registry = (.ok (state, completed), middle) ∧
        (Registry.spec type).run middle = (.ok spec, later) ∧
        next = network.insertRegion (.new name type spec completed state) := by
  rw [run_addRegion] at added
  split at added
  case h_2 => cases added
  case h_1 region last made =>
    cases added
    obtain ⟨_, middle, free, made⟩ := (Edit.run_bind_ok_iff _ _ _ _ _).mp made
    obtain ⟨checked, rfl⟩ := (Edit.run_lift_ok_iff _ _ _ _).mp free
    obtain ⟨⟨state, completed⟩, middle, created, made⟩ := (Edit.run_bind_ok_iff _ _ _ _ _).mp made
    obtain ⟨spec, _, told, made⟩ := (Edit.run_bind_ok_iff _ _ _ _ _).mp made
    cases made
    refine ⟨?_, spec, completed, state, middle, created, told, rfl⟩
    obtain ⟨_, _, checked⟩ := (Traversal.bind_ok_iff _ _ _).mp checked
    cases taken : network.hasRegion name with
    | false => rfl
    | true =>
      rw [taken] at checked
      cases checked

/-- A region that is refused leaves the network as it was. -/
theorem addRegion_error (network after : Network κ) (registry later : Registry κ)
    (name type : String) (params : Params) (fault : GraphError)
    (refused : (addRegion name type params).run (registry, network) =
      (.error fault, later, after)) : after = network := by
  rw [run_addRegion] at refused
  split at refused
  · cases refused
  · cases refused
    rfl

/-- The endpoints of a new region have no links. -/
theorem links_new (name type : String) (spec : Spec) (params : Params) (state : κ) :
    (∀ endpoint port, ((Region.new name type spec params state).view Endpoint.port).outputs.get?
        endpoint = some port → port.links = []) ∧
      (∀ endpoint port, ((Region.new name type spec params state).view Endpoint.port).inputs.get?
        endpoint = some port → port.links = []) := by
  constructor
  · intro endpoint port found
    simp only [Region.view, Region.new, NameMap.get?_map, Option.map_eq_some_iff] at found
    obtain ⟨former, bound, rfl⟩ := found
    obtain ⟨declared, _, same⟩ := List.mem_map.mp (NameMap.mem_of_get?_ofList _ _ _ bound)
    cases same
    rfl
  · intro endpoint port found
    simp only [Region.view, Region.new, NameMap.get?_map, Option.map_eq_some_iff] at found
    obtain ⟨former, bound, rfl⟩ := found
    obtain ⟨declared, _, same⟩ := List.mem_map.mp (NameMap.mem_of_get?_ofList _ _ _ bound)
    cases same
    rfl

/-- Adding a region of a new name without links keeps the wiring sound. -/
theorem sound_insertRegion (network : Network κ) (sound : network.wiring.Sound)
    (region : Region κ) (fresh : network.hasRegion region.name = false)
    (outputsFree : ∀ name port, (region.view Endpoint.port).outputs.get? name = some port →
      port.links = [])
    (inputsFree : ∀ name port, (region.view Endpoint.port).inputs.get? name = some port →
      port.links = []) :
    (network.insertRegion region).wiring.Sound := by
  rw [wiring_insertRegion]
  refine network.wiring.sound_extend sound _ ?_ outputsFree inputsFree
  intro other member same
  obtain ⟨former, present, rfl⟩ := List.mem_map.mp member
  have absent := (network.hasRegion_eq_false_iff (network.indexed_of_sound sound) _).mp fresh
  exact absent (List.mem_map.mpr ⟨former, present, same⟩)

/-! ### Adding links -/

/-- What has to hold for a link to be made: the network may be rewired, and the
wish, with its endpoints named, passes all checks. -/
def approve (network : Network κ) (spec : LinkSpec) : Except GraphError LinkSpec := do
  network.ensureMutable
  let named ← network.resolveEndpoints spec
  network.checkLink named
  return named

/-- The network after a link was made: it is last in the list of links and last at
both of its endpoints. -/
def joined (network : Network κ) (spec : LinkSpec) : Network κ :=
  invalidated { network with
    regions := network.regions.map (Region.rewire
      (fun region output links =>
        if region = spec.source ∧ output = spec.output then links ++ [⟨network.nextLinkId⟩]
        else links)
      (fun region input links =>
        if region = spec.destination ∧ input = spec.input then links ++ [⟨network.nextLinkId⟩]
        else links))
    links := network.links ++ [Link.new ⟨network.nextLinkId⟩ spec]
    nextLinkId := network.nextLinkId + 1 }

/-- The wiring after a link was made. -/
theorem wiring_joined (network : Network κ) (spec : LinkSpec) :
    (network.joined spec).wiring = network.wiring.join spec := by
  rw [joined, wiring_invalidated]
  simp only [wiring, Wiring.join, Link.new, List.map_append, List.map_map, List.map_cons,
    List.map_nil, Function.comp_def, Region.view_rewire]

/-- Two endpoints without a link between them: no link has their ends. -/
theorem findLink_none (network : Network κ) (spec : LinkSpec)
    (absent : (network.findLink spec.source spec.output spec.destination spec.input).isSome = false)
    (link : Link) (member : link ∈ network.links) : ¬ link.spec.SameEnds spec := by
  rintro ⟨source, output, destination, input⟩
  simp only [findLink, Option.isSome_map, Option.isSome_eq_false_iff, Option.isNone_iff_eq_none,
    List.find?_eq_none] at absent
  exact absent link member (by simp [Link.joins, source, output, destination, input])

/-- What a link that passes its checks is known to join. -/
theorem checkLink_ok (network : Network κ) (indexed : network.Indexed) (spec : LinkSpec)
    (passed : network.checkLink spec = .ok ()) :
    ∃ source ∈ network.regions, ∃ destination ∈ network.regions, ∃ output input,
      source.name = spec.source ∧ source.outputs.get? spec.output = some output ∧
      destination.name = spec.destination ∧ destination.inputs.get? spec.input = some input ∧
      output.buffer.type = input.buffer.type ∧
      (∀ link ∈ network.links, ¬ link.spec.SameEnds spec) ∧
      ∀ rule, spec.reindex = some rule → rule.width ≠ 0 := by
  simp only [checkLink, Traversal.bind_ok_iff] at passed
  obtain ⟨source, sourceFound, destination, destinationFound, output, outputFound, input,
    inputFound, checked⟩ := passed
  obtain ⟨sourceMember, sourceName⟩ := (network.region_ok_iff indexed _ source).mp sourceFound
  obtain ⟨destinationMember, destinationName⟩ :=
    (network.region_ok_iff indexed _ destination).mp destinationFound
  by_cases types : output.buffer.type = input.buffer.type
  · simp only [types, ne_eq, not_true_eq_false, if_false] at checked
    cases absent : (network.findLink spec.source spec.output spec.destination spec.input).isSome with
    | true =>
      simp only [absent, if_true] at checked
      cases checked
    | false =>
      simp only [absent, Bool.false_eq_true, if_false] at checked
      refine ⟨source, sourceMember, destination, destinationMember, output, input, sourceName,
        (source.output_ok_iff _ output).mp outputFound, destinationName,
        (destination.input_ok_iff _ input).mp inputFound, types,
        network.findLink_none spec absent, ?_⟩
      intro rule named zero
      simp only [named, zero, if_true] at checked
      cases checked
  · simp only [types, ne_eq, not_false_eq_true, if_true] at checked
    cases checked

/-- A link that passes its checks keeps the wiring sound. -/
theorem sound_joined (network : Network κ) (sound : network.wiring.Sound) (spec : LinkSpec)
    (passed : network.checkLink spec = .ok ()) : (network.joined spec).wiring.Sound := by
  have indexed := network.indexed_of_sound sound
  obtain ⟨source, sourceMember, destination, destinationMember, output, input, sourceName,
    outputFound, destinationName, inputFound, types, single, selecting⟩ :=
    network.checkLink_ok indexed spec passed
  rw [wiring_joined]
  refine network.wiring.sound_join sound spec ?_ ?_ selecting
  · refine ⟨source.view Endpoint.port, List.mem_map_of_mem sourceMember,
      destination.view Endpoint.port, List.mem_map_of_mem destinationMember, output.port,
      input.toEndpoint.port, sourceName, ?_, destinationName, ?_, types⟩
    · simp only [Region.view, NameMap.get?_map, outputFound, Option.map_some]
    · simp only [Region.view, NameMap.get?_map, inputFound, Option.map_some]
  · intro link member
    obtain ⟨former, present, rfl⟩ := List.mem_map.mp member
    exact single former present

/-- The next number is that of no link: every number of a link was given before. -/
theorem next_not_mem (wiring : Wiring) (sound : wiring.Sound) (links : List (LinkId × LinkSpec))
    (among : ∀ link ∈ links, link ∈ wiring.links) :
    (⟨wiring.nextLinkId⟩ : LinkId) ∉ links.map Prod.fst := by
  intro member
  obtain ⟨link, present, same⟩ := List.mem_map.mp member
  have before := sound.numbered link (among link present)
  exact absurd (congrArg LinkId.number same) (Nat.ne_of_lt before)

/-- Attaching at one output and at one input is rewiring. -/
theorem attach_eq_rewire (spec : LinkSpec) (id : LinkId) (region : Region κ) :
    (region.adjustOutput spec.source spec.output
        (fun endpoint => { endpoint with links := endpoint.links ++ [id] })).adjustInput
        spec.destination spec.input (fun input => { input with links := input.links ++ [id] }) =
      region.rewire
        (fun region output links =>
          if region = spec.source ∧ output = spec.output then links ++ [id] else links)
        (fun region input links =>
          if region = spec.destination ∧ input = spec.input then links ++ [id] else links) := by
  simp only [Region.adjustOutput, Region.adjustInput, Region.rewire]
  congr 1
  · apply NameMap.map_congr
    intro name endpoint _
    split <;> rfl
  · apply NameMap.map_congr
    intro name input _
    split <;> rfl

/-- Both endpoints of a link that passes its checks take its number. The input
never refuses a number that the output took, so the remedy is never needed. -/
theorem run_attach (network : Network κ) (sound : network.wiring.Sound) (spec : LinkSpec)
    (passed : network.checkLink spec = .ok ()) (remedy : GraphError → Edit κ Unit) :
    ∃ middle,
      (modifyOutput spec.source spec.output
        (fun endpoint => endpoint.attach ⟨network.nextLinkId⟩)).run network = (.ok (), middle) ∧
      (tryCatch (modifyInput spec.destination spec.input
        (fun input => input.attach ⟨network.nextLinkId⟩)) remedy).run middle =
        (.ok (), { network with
          regions := network.regions.map (Region.rewire
            (fun region output links =>
              if region = spec.source ∧ output = spec.output then links ++ [⟨network.nextLinkId⟩]
              else links)
            (fun region input links =>
              if region = spec.destination ∧ input = spec.input then
                links ++ [⟨network.nextLinkId⟩]
              else links)) }) := by
  have indexed := network.indexed_of_sound sound
  obtain ⟨source, sourceMember, destination, destinationMember, output, input, sourceName,
    outputFound, destinationName, inputFound, _⟩ := network.checkLink_ok indexed spec passed
  have outputFree : (⟨network.nextLinkId⟩ : LinkId) ∉ output.links := by
    rw [network.output_links sound source sourceMember _ output outputFound]
    exact next_not_mem network.wiring sound _ (fun _ => List.mem_of_mem_filter)
  have inputFree : (⟨network.nextLinkId⟩ : LinkId) ∉ input.links := by
    rw [network.input_links sound destination destinationMember _ input inputFound]
    exact next_not_mem network.wiring sound _ (fun _ => List.mem_of_mem_filter)
  obtain ⟨middle, first, second⟩ := network.run_modifyEnds indexed source sourceMember spec.output
    output outputFound (fun endpoint => endpoint.attach ⟨network.nextLinkId⟩)
    (fun endpoint => { endpoint with links := endpoint.links ++ [⟨network.nextLinkId⟩] })
    (if_neg outputFree) destination destinationMember spec.input input inputFound
    (fun input => input.attach ⟨network.nextLinkId⟩)
    (fun input => { input with links := input.links ++ [⟨network.nextLinkId⟩] })
    (by simp [Input.attach, Endpoint.attach, inputFree, Except.map])
  rw [sourceName] at first second
  rw [destinationName] at second
  refine ⟨middle, first, ?_⟩
  rw [Edit.run_tryCatch, second]
  simp only [attach_eq_rewire]

/-- Making a link either refuses and changes nothing, or makes it. -/
theorem run_addLink (network : Network κ) (sound : network.wiring.Sound) (spec : LinkSpec) :
    (addLink spec).run network =
      match network.approve spec with
      | .ok named => (.ok ⟨network.nextLinkId⟩, network.joined named)
      | .error fault => (.error fault, network) := by
  simp only [addLink, approve, Edit.run_bind, Edit.run_get, Edit.run_lift]
  cases network.ensureMutable with
  | error fault => rfl
  | ok _ =>
    cases network.resolveEndpoints spec with
    | error fault => rfl
    | ok named =>
      cases passed : network.checkLink named with
      | error fault => simp only [Traversal.ok_bind, Traversal.error_bind, passed]
      | ok _ =>
        obtain ⟨middle, first, second⟩ := network.run_attach sound named passed
          (fun fault => do
            modifyOutput named.source named.output
              (fun endpoint => endpoint.detach ⟨network.nextLinkId⟩)
            throw fault)
        simp only [Traversal.ok_bind, passed, first, second, Edit.run_modify, Edit.run_pure]
        rfl

/-- Making a link keeps the wiring sound, also when it is refused. -/
theorem sound_addLink (network : Network κ) (sound : network.wiring.Sound) (spec : LinkSpec) :
    ((addLink spec).run network).2.wiring.Sound := by
  rw [network.run_addLink sound spec]
  cases approved : network.approve spec with
  | error fault => exact sound
  | ok named =>
    obtain ⟨_, _, checked⟩ := (Traversal.bind_ok_iff _ _ _).mp approved
    obtain ⟨resolved, _, checked⟩ := (Traversal.bind_ok_iff _ _ _).mp checked
    obtain ⟨_, passed, same⟩ := (Traversal.bind_ok_iff _ _ _).mp checked
    cases same
    exact network.sound_joined sound named passed

/-! ### Removing links -/

/-- The ends of a link exist and hold elements of one type. -/
theorem link_ends (network : Network κ) (sound : network.wiring.Sound) (link : Link)
    (member : link ∈ network.links) :
    ∃ source ∈ network.regions, ∃ destination ∈ network.regions, ∃ output input,
      source.name = link.spec.source ∧ source.outputs.get? link.spec.output = some output ∧
      destination.name = link.spec.destination ∧
      destination.inputs.get? link.spec.input = some input ∧
      output.buffer.type = input.buffer.type := by
  obtain ⟨sourceNode, sourceMember, destinationNode, destinationMember, outputPort, inputPort,
    sourceName, outputFound, destinationName, inputFound, types⟩ :=
    sound.joined (link.id, link.spec) (List.mem_map_of_mem member)
  obtain ⟨source, sourcePresent, rfl⟩ := List.mem_map.mp sourceMember
  obtain ⟨destination, destinationPresent, rfl⟩ := List.mem_map.mp destinationMember
  rw [Region.view, NameMap.get?_map, Option.map_eq_some_iff] at outputFound inputFound
  obtain ⟨output, outputBound, rfl⟩ := outputFound
  obtain ⟨input, inputBound, rfl⟩ := inputFound
  exact ⟨source, sourcePresent, destination, destinationPresent, output, input, sourceName,
    outputBound, destinationName, inputBound, types⟩

/-- The network with links taken away, at their ends as well. -/
def without (network : Network κ) (gone : List LinkId) : Network κ :=
  { network with
    regions := network.regions.map (Region.rewire (fun _ _ links => links.filter (· ∉ gone))
      (fun _ _ links => links.filter (· ∉ gone)))
    links := network.links.filter (fun link => link.id ∉ gone) }

/-- The wiring after links were taken away. -/
theorem wiring_without (network : Network κ) (gone : List LinkId) :
    (network.without gone).wiring = network.wiring.cut gone := by
  simp only [wiring, without, Wiring.cut, List.map_map, List.filter_map, Function.comp_def,
    Region.view_rewire]

/-- Detaching at the two ends of a link is taking its number off every list: it is
on no other list, and once on these two. -/
theorem detach_eq_rewire (network : Network κ) (sound : network.wiring.Sound) (link : Link)
    (member : link ∈ network.links) (region : Region κ) (present : region ∈ network.regions) :
    (region.adjustOutput link.spec.source link.spec.output
        (fun endpoint => { endpoint with links := endpoint.links.erase link.id })).adjustInput
        link.spec.destination link.spec.input
        (fun input => { input with links := input.links.erase link.id }) =
      region.rewire (fun _ _ links => links.filter (· ∉ [link.id]))
        (fun _ _ links => links.filter (· ∉ [link.id])) := by
  have erased (links : List LinkId) (distinct : links.Nodup) :
      links.filter (· ∉ [link.id]) = links.erase link.id := by
    rw [distinct.erase_eq_filter]
    simp [bne, BEq.beq]
  have kept (links : List LinkId) (absent : link.id ∉ links) :
      links.filter (· ∉ [link.id]) = links := by
    rw [List.filter_eq_self]
    intro id listed
    simpa using fun same : id = link.id => absent (same ▸ listed)
  have recorded : (link.id, link.spec) ∈ network.wiring.links := List.mem_map_of_mem member
  simp only [Region.adjustOutput, Region.adjustInput, Region.rewire]
  congr 1
  · apply NameMap.map_congr
    intro name endpoint found
    have links := network.output_links sound region present name endpoint found
    split
    · rw [erased _ (links ▸ Wiring.nodup_of_ascending _ (sound.leaving_ascending _ _))]
    · rename_i elsewhere
      rw [kept _ ?_]
      rw [links, sound.mem_leaving_iff _ recorded]
      exact fun ends => elsewhere ⟨ends.1.symm, ends.2.symm⟩
  · apply NameMap.map_congr
    intro name input found
    have links := network.input_links sound region present name input found
    split
    · rw [erased _ (links ▸ Wiring.nodup_of_ascending _ (sound.entering_ascending _ _))]
    · rename_i elsewhere
      rw [kept _ ?_]
      rw [links, sound.mem_entering_iff _ recorded]
      exact fun ends => elsewhere ⟨ends.1.symm, ends.2.symm⟩

/-- Both endpoints of a link give its number back, the list of links having given
it up before. -/
theorem run_detach (network : Network κ) (sound : network.wiring.Sound) (link : Link)
    (member : link ∈ network.links) :
    ∃ middle,
      (modifyOutput link.spec.source link.spec.output (fun endpoint => endpoint.detach link.id)).run
        { network with links := network.links.filter (fun other => other.id ≠ link.id) } =
        (.ok (), middle) ∧
      (modifyInput link.spec.destination link.spec.input
        (fun input => input.detach link.id)).run middle = (.ok (), network.without [link.id]) := by
  obtain ⟨source, sourceMember, destination, destinationMember, output, input, sourceName,
    outputFound, destinationName, inputFound, _⟩ := network.link_ends sound link member
  have recorded : (link.id, link.spec) ∈ network.wiring.links := List.mem_map_of_mem member
  have outputHas : link.id ∈ output.links := by
    rw [network.output_links sound source sourceMember _ output outputFound]
    exact (sound.mem_leaving_iff _ recorded _ _).mpr ⟨sourceName.symm, rfl⟩
  have inputHas : link.id ∈ input.links := by
    rw [network.input_links sound destination destinationMember _ input inputFound]
    exact (sound.mem_entering_iff _ recorded _ _).mpr ⟨destinationName.symm, rfl⟩
  have indexed := network.indexed_of_sound sound
  obtain ⟨middle, first, second⟩ := run_modifyEnds
    { network with links := network.links.filter (fun other => other.id ≠ link.id) } indexed
    source sourceMember link.spec.output output outputFound
    (fun endpoint => endpoint.detach link.id)
    (fun endpoint => { endpoint with links := endpoint.links.erase link.id }) (if_pos outputHas)
    destination destinationMember link.spec.input input inputFound
    (fun input => input.detach link.id)
    (fun input => { input with links := input.links.erase link.id })
    (by simp [Input.detach, Endpoint.detach, inputHas, Except.map])
  rw [sourceName] at first second
  rw [destinationName] at second
  have regions := List.map_congr_left (network.detach_eq_rewire sound link member)
  refine ⟨middle, first, ?_⟩
  rw [second]
  simp only [regions, without, List.mem_singleton, ne_eq]

/-- Taking a link off its endpoints either does not find it and changes nothing, or
takes it away altogether. -/
theorem run_detachLink (network : Network κ) (sound : network.wiring.Sound) (id : LinkId) :
    (detachLink id).run network =
      match network.link? id with
      | some _ => (.ok (), network.without [id])
      | none => (.error (.missingLink id), network) := by
  simp only [detachLink, Edit.run_bind, Edit.run_get, Edit.run_lift, link]
  cases found : network.link? id with
  | none => rfl
  | some link =>
    have member : link ∈ network.links := List.mem_of_find?_eq_some found
    have numbered : link.id = id := by simpa using List.find?_some found
    subst numbered
    obtain ⟨source, sourceMember, destination, destinationMember, _, _, sourceName, _,
      destinationName, _⟩ := network.link_ends sound link member
    have indexed := network.indexed_of_sound sound
    obtain ⟨_, sourceAt, _⟩ := network.position_of_mem indexed source sourceMember
    obtain ⟨_, destinationAt, _⟩ := network.position_of_mem indexed destination destinationMember
    rw [sourceName] at sourceAt
    rw [destinationName] at destinationAt
    obtain ⟨middle, first, second⟩ := network.run_detach sound link member
    simp only [Edit.run_set, sourceAt, destinationAt, first, second]

/-- Taking links away keeps the wiring sound. -/
theorem sound_without (network : Network κ) (sound : network.wiring.Sound) (gone : List LinkId) :
    (network.without gone).wiring.Sound := by
  rw [wiring_without]
  exact network.wiring.sound_cut sound gone

/-- Removing a link either refuses and changes nothing, or takes it away. -/
theorem run_removeLink (network : Network κ) (sound : network.wiring.Sound) (id : LinkId) :
    (removeLink id).run network =
      match network.ensureMutable, network.link? id with
      | .error fault, _ => (.error fault, network)
      | .ok _, none => (.error (.missingLink id), network)
      | .ok _, some _ => (.ok (), (network.without [id]).invalidated) := by
  simp only [removeLink, Edit.run_bind, Edit.run_get, Edit.run_lift]
  cases network.ensureMutable with
  | error fault => rfl
  | ok _ =>
    simp only [network.run_detachLink sound id]
    cases network.link? id <;> rfl

/-! ### Removing regions -/

/-- Taking links away one by one is taking them away together. -/
theorem without_without (network : Network κ) (first second : List LinkId) :
    (network.without first).without second = network.without (first ++ second) := by
  have lists (links : List LinkId) : (links.filter (· ∉ first)).filter (· ∉ second) =
      links.filter (· ∉ first ++ second) := by
    simp only [List.filter_filter, List.mem_append, not_or, Bool.decide_and, Bool.and_comm]
  have regions (region : Region κ) :
      (region.rewire (fun _ _ links => links.filter (· ∉ first))
        (fun _ _ links => links.filter (· ∉ first))).rewire
        (fun _ _ links => links.filter (· ∉ second)) (fun _ _ links => links.filter (· ∉ second)) =
      region.rewire (fun _ _ links => links.filter (· ∉ first ++ second))
        (fun _ _ links => links.filter (· ∉ first ++ second)) := by
    simp only [Region.rewire, NameMap.map_map, lists]
  simp only [without, List.map_map, Function.comp_def, regions, List.filter_filter,
    List.mem_append, not_or, Bool.decide_and, Bool.and_comm]

/-- Taking no link away changes nothing. -/
theorem without_nil (network : Network κ) : network.without [] = network := by
  have regions : Region.rewire (κ := κ) (fun _ _ links => links) (fun _ _ links => links) = id := by
    funext region
    simp [Region.rewire, NameMap.map_eq_self]
  simp [without, regions]

/-- Detaching registered links one after the other, none of them twice, takes them
away together. -/
theorem run_detachAll (network : Network κ) (sound : network.wiring.Sound) (gone : List LinkId)
    (distinct : gone.Nodup) (registered : ∀ id ∈ gone, ∃ link ∈ network.links, link.id = id) :
    (gone.forM detachLink).run network = (.ok (), network.without gone) := by
  induction gone generalizing network with
  | nil => rw [without_nil]; rfl
  | cons id rest inductionHypothesis =>
    rw [List.nodup_cons] at distinct
    obtain ⟨link, member, numbered⟩ := registered id List.mem_cons_self
    have found : (network.link? id).isSome := by
      rw [link?, List.find?_isSome]
      exact ⟨link, member, decide_eq_true numbered⟩
    have remaining : ∀ other ∈ rest, ∃ link ∈ (network.without [id]).links, link.id = other := by
      intro other listed
      obtain ⟨kept, present, same⟩ := registered other (List.mem_cons_of_mem id listed)
      refine ⟨kept, List.mem_filter.mpr ⟨present, ?_⟩, same⟩
      have different : other ≠ id := fun equal => distinct.1 (equal ▸ listed)
      simpa [same] using different
    have others := inductionHypothesis (network.without [id]) (network.sound_without sound [id])
      distinct.2 remaining
    obtain ⟨_, here⟩ := Option.isSome_iff_exists.mp found
    rw [List.forM_eq_forM] at others ⊢
    rw [List.forM_cons, Edit.run_bind, network.run_detachLink sound id]
    simp only [here, others, without_without, List.singleton_append]

/-- The numbers of the links at a region. -/
def incident (network : Network κ) (name : String) : List LinkId :=
  (network.links.filter (fun link => link.touches name)).map Link.id

/-- The links that are not at a region are those that neither leave nor enter it. -/
theorem not_mem_incident_iff (network : Network κ) (sound : network.wiring.Sound) (name : String)
    (link : Link) (member : link ∈ network.links) :
    link.id ∉ network.incident name ↔
      link.spec.source ≠ name ∧ link.spec.destination ≠ name := by
  have touches : link.id ∈ network.incident name ↔
      link.spec.source = name ∨ link.spec.destination = name := by
    constructor
    · intro listed
      obtain ⟨other, present, same⟩ := List.mem_map.mp listed
      obtain ⟨known, touching⟩ := List.mem_filter.mp present
      have equal : other.spec = link.spec := congrArg Prod.snd
        (sound.link_unique (other.id, other.spec) (link.id, link.spec)
          (List.mem_map_of_mem known) (List.mem_map_of_mem member) same)
      rw [← equal]
      simpa [Link.touches] using touching
    · intro ends
      exact List.mem_map_of_mem (List.mem_filter.mpr ⟨member, by simpa [Link.touches] using ends⟩)
  rw [touches, not_or]

/-- The network without a region and the links at it. -/
def withoutRegion (network : Network κ) (name : String) : Network κ :=
  let remaining := (network.without (network.incident name)).regions.filter
    (fun region => region.name ≠ name)
  invalidated { network.without (network.incident name) with
    regions := remaining
    index := indexOf remaining }

/-- Removing a region either refuses and changes nothing, or takes the region and
all links at it away. -/
theorem run_removeRegion (network : Network κ) (sound : network.wiring.Sound) (name : String) :
    (removeRegion name).run network =
      match network.ensureMutable, network.position name with
      | .error fault, _ => (.error fault, network)
      | .ok _, .error fault => (.error fault, network)
      | .ok _, .ok _ => (.ok (), network.withoutRegion name) := by
  have numbers : (network.links.map Link.id).Nodup :=
    Wiring.nodup_of_ascending _ (List.pairwise_map.mpr (network.links_ascending sound))
  have detached := network.run_detachAll sound (network.incident name)
    (numbers.sublist (List.filter_sublist.map Link.id)) (by
      intro id listed
      obtain ⟨link, present, same⟩ := List.mem_map.mp listed
      exact ⟨link, List.mem_of_mem_filter present, same⟩)
  rw [incident] at detached
  simp only [removeRegion, Edit.run_bind, Edit.run_get, Edit.run_lift]
  cases network.ensureMutable with
  | error fault => rfl
  | ok _ =>
    cases located : network.position name with
    | error fault => rfl
    | ok index =>
      have erased := (network.without (network.incident name)).eraseIdx_eq_filter
        (indexed_of_sound _ (network.sound_without sound _)) name index located
      simp only [detached, Edit.run_modify]
      rw [← incident, erased]
      rfl

/-- The wiring without a region. -/
theorem wiring_withoutRegion (network : Network κ) (name : String) :
    (network.withoutRegion name).wiring =
      (network.wiring.cut (network.incident name)).drop name := by
  rw [withoutRegion, wiring_invalidated, ← wiring_without]
  simp only [wiring, Wiring.drop, indexOf, List.filter_map, List.map_map, Function.comp_def]
  rfl

/-- Taking a region away with the links at it keeps the wiring sound. -/
theorem sound_withoutRegion (network : Network κ) (sound : network.wiring.Sound) (name : String) :
    (network.withoutRegion name).wiring.Sound := by
  rw [wiring_withoutRegion]
  refine Wiring.sound_drop _ (network.wiring.sound_cut sound _) name ?_
  intro link member
  obtain ⟨present, kept⟩ := List.mem_filter.mp member
  obtain ⟨former, listed, rfl⟩ := List.mem_map.mp present
  exact (network.not_mem_incident_iff sound name former listed).mp (by simpa using kept)

end Network

/-! ### What rewiring leaves alone -/

/-- What is told of regions without a look at their links and levels. -/
structure LinkFree {τ : Type} (tell : Region κ → τ) : Prop where
  rewire : ∀ outputs inputs region, tell (region.rewire outputs inputs) = tell region
  level : ∀ region phase, tell { region with phase } = tell region

namespace LinkFree

open Network

variable {τ : Type} {tell : Region κ → τ} (free : LinkFree tell)

include free

/-- Forgetting what building has found out leaves it alone. -/
theorem map_invalidated (network : Network κ) :
    network.invalidated.regions.map tell = network.regions.map tell := by
  rw [invalidated, List.map_map]
  exact List.map_congr_left (fun region _ => free.level region none)

/-- A further link leaves it alone. -/
theorem map_joined (network : Network κ) (spec : LinkSpec) :
    (network.joined spec).regions.map tell = network.regions.map tell := by
  rw [joined, free.map_invalidated, List.map_map]
  exact List.map_congr_left (fun region _ => free.rewire _ _ region)

/-- Taking links away leaves it alone. -/
theorem map_without (network : Network κ) (gone : List LinkId) :
    (network.without gone).regions.map tell = network.regions.map tell := by
  rw [without, List.map_map]
  exact List.map_congr_left (fun region _ => free.rewire _ _ region)

/-- A further region comes last, and of the others it is left alone. -/
theorem map_insertRegion (network : Network κ) (region : Region κ) :
    (network.insertRegion region).regions.map tell =
      network.regions.map tell ++ [tell region] := by
  rw [insertRegion, free.map_invalidated, List.map_append]
  rfl

/-- Taking a region away leaves it alone of the others. -/
theorem map_withoutRegion (network : Network κ) (name : String) :
    (network.withoutRegion name).regions.map tell =
      (network.regions.filter (fun region => region.name ≠ name)).map tell := by
  rw [withoutRegion, free.map_invalidated]
  simp only [without, List.filter_map, List.map_map]
  exact List.map_congr_left (fun region _ => free.rewire _ _ region)

end LinkFree

end RegionGraph
