import RegionGraph.Proofs.Reachable

/-!
# What removing a region takes away

Removing a region takes it away with the links that start or end at it, and nothing else. The
links are taken off one by one, while regions still stand where they stood; then the region
goes, those behind it move up, and all are indexed anew. Of a region that remains only the
lists of links at its endpoints change: they give up the links that went, and the others keep
their order. Contents, states, parameters and what is on its way on other links stay.
-/

namespace RegionGraph

variable {κ : Type}

/-- A region whose endpoints have given up links. It has no level any more, and all else is as
it was. -/
def Region.released (gone : List LinkId) (region : Region κ) : Region κ :=
  { region with
    outputs := region.outputs.map (fun _ output =>
      { output with links := output.links.filter (· ∉ gone) })
    inputs := region.inputs.map (fun _ input =>
      { input with links := input.links.filter (· ∉ gone) })
    phase := none }

namespace Network

/-- What a network is after a region was removed. -/
structure Removes (network : Network κ) (name : String) (after : Network κ) : Prop where
  /-- The other regions are there in their order, and have given up the links that were at the
  region. -/
  regions : after.regions = (network.regions.filter (fun region => region.name ≠ name)).map
    (Region.released (network.incident name))
  /-- Each is found by its name, at the place where it is now. -/
  found : ∀ index region, after.regions[index]? = some region →
    after.position region.name = .ok index ∧ after.region region.name = .ok region
  forgotten : after.region name = .error (.unknownRegion name)
  /-- The links that neither start nor end at the region are there in their order, each with
  what is on its way. -/
  links : after.links = network.links.filter
    (fun link => link.spec.source ≠ name ∧ link.spec.destination ≠ name)
  /-- The numbers that endpoints gave up are those of the links that went. -/
  incident : ∀ id, id ∈ network.incident name ↔
    ∃ link ∈ network.links, link.id = id ∧ link ∉ after.links
  settings : after.settings = network.settings
  iteration : after.iteration = network.iteration
  nextLinkId : after.nextLinkId = network.nextLinkId
  unbuilt : after.state = .unbuilt ∧ after.order = none ∧ after.phaseCount = 0

/-- The remaining regions, with what they keep. -/
theorem regions_withoutRegion (network : Network κ) (name : String) :
    (network.withoutRegion name).regions =
      (network.regions.filter (fun region => region.name ≠ name)).map
        (Region.released (network.incident name)) := by
  simp only [withoutRegion, invalidated, without, List.filter_map, List.map_map]
  rfl

/-- The remaining links are told by their ends. -/
theorem links_withoutRegion (network : Network κ) (sound : network.wiring.Sound) (name : String) :
    (network.withoutRegion name).links = network.links.filter
      (fun link => link.spec.source ≠ name ∧ link.spec.destination ≠ name) := by
  refine List.filter_congr fun link member => ?_
  rw [decide_eq_decide]
  exact network.not_mem_incident_iff sound name link member

/-- A network without a region and the links at it is what it is after the removal. -/
theorem removes_withoutRegion (network : Network κ) (sound : network.wiring.Sound)
    (name : String) : network.Removes name (network.withoutRegion name) := by
  have indexed := indexed_of_sound _ (network.sound_withoutRegion sound name)
  have regions := network.regions_withoutRegion name
  have links := network.links_withoutRegion sound name
  constructor
  case regions => exact regions
  case links => exact links
  case found =>
    intro index region found
    exact ⟨(position_ok_iff _ indexed region.name index).mpr ⟨region, found, rfl⟩,
      (region_ok_iff _ indexed region.name region).mpr ⟨List.mem_of_getElem? found, rfl⟩⟩
  case forgotten =>
    cases found : (network.withoutRegion name).region name with
    | error fault => rw [region_error _ name fault found]
    | ok region =>
      obtain ⟨member, named⟩ := (region_ok_iff _ indexed name region).mp found
      rw [regions] at member
      obtain ⟨former, kept, rfl⟩ := List.mem_map.mp member
      exact absurd named (of_decide_eq_true (List.mem_filter.mp kept).2)
  case incident =>
    intro id
    rw [links]
    constructor
    · intro listed
      obtain ⟨link, present, rfl⟩ := List.mem_map.mp listed
      have member := List.mem_of_mem_filter present
      refine ⟨link, member, rfl, fun kept => ?_⟩
      have away := of_decide_eq_true (List.mem_filter.mp kept).2
      exact (network.not_mem_incident_iff sound name link member).mpr away listed
    · rintro ⟨link, member, rfl, gone⟩
      by_contra away
      have ends := (network.not_mem_incident_iff sound name link member).mp away
      exact gone (List.mem_filter.mpr ⟨member, decide_eq_true ends⟩)
  case settings => rfl
  case iteration => rfl
  case nextLinkId => rfl
  case unbuilt => exact ⟨rfl, rfl, rfl⟩

variable [Implementation κ]

/-- In every reachable network that was not built, or was stopped, removing a region that there
is succeeds, and takes away the region and the links at it and nothing else.

The links at the region are taken off one by one. By induction over their list every one of them
is found, with both of its ends, and the wiring stays sound for the next, because no other link
is touched. Then the region has no link left, and the indices move up. -/
theorem removes_of_reachable (usable : Registry κ → Prop) (network : Network κ)
    (reachable : Reachable usable network)
    (open_ : network.state = .unbuilt ∨ network.state = .stopped) (region : Region κ)
    (member : region ∈ network.regions) :
    ∃ after, (removeRegion region.name).run network = (.ok (), after) ∧
      network.Removes region.name after := by
  have sound := sound_of_reachable usable network reachable
  obtain ⟨index, located, _⟩ :=
    network.position_of_mem (network.indexed_of_sound sound) region member
  have allowed : network.ensureMutable = .ok () := by
    unfold ensureMutable
    rcases open_ with state | state <;> rw [state]
  refine ⟨network.withoutRegion region.name, ?_, network.removes_withoutRegion sound region.name⟩
  rw [network.run_removeRegion sound, allowed, located]

/-- An incrementer that hears itself between a source and another that reads both. -/
def woven : Network Builtin :=
  putTogether [⟨"source", "CounterSource", ∅⟩, ⟨"echo", "Incrementer", ∅⟩,
    ⟨"sink", "Incrementer", ∅⟩]
    [LinkSpec.betweenDefaults "source" "echo",
      { LinkSpec.betweenDefaults "echo" "echo" with delay := 1 },
      { LinkSpec.betweenDefaults "echo" "sink" with delay := 2 },
      LinkSpec.betweenDefaults "source" "sink"]

/-- Without the incrementer in the middle one of the four links is left. -/
theorem removes_woven :
    woven.links.length = 4 ∧ ∃ after, (removeRegion "echo").run woven = (.ok (), after) ∧
      woven.Removes "echo" after ∧ after.links.map Link.id = [⟨3⟩] := by
  have named : (woven.regions[1]?).map Region.name = some "echo" := by decide +kernel
  obtain ⟨region, found, name⟩ := Option.map_eq_some_iff.mp named
  obtain ⟨after, ran, removes⟩ := removes_of_reachable (fun _ => True) woven
    (reachable_putTogether _ trivial _ _) (Or.inl (by decide +kernel)) region
    (List.mem_of_getElem? found)
  rw [name] at ran removes
  have left : ((removeRegion "echo").run woven).2.links.map Link.id = [⟨3⟩] := by decide +kernel
  rw [ran] at left
  exact ⟨by decide +kernel, after, ran, removes, left⟩

end Network

end RegionGraph
