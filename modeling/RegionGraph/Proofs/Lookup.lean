import Mathlib.Data.List.Nodup
import RegionGraph.Proofs.Edits
import RegionGraph.Proofs.NameMaps
import RegionGraph.Network.Topology

/-!
# Finding regions and links

Regions are found by name and links by number. As long as the index is that of the
list of regions and no number occurs twice, finding is membership: the region of a name
is the only one that has it, and its position is the only one. Changing the region of a
name is then a change of the whole list that touches that region alone.
-/

namespace RegionGraph

variable {κ : Type}

namespace Region

/-- An output that is found is bound. -/
theorem output_ok_iff (region : Region κ) (name : String) (endpoint : Endpoint) :
    region.output name = .ok endpoint ↔ region.outputs.get? name = some endpoint := by
  unfold Region.output
  cases region.outputs.get? name <;> simp

/-- An input that is found is bound. -/
theorem input_ok_iff (region : Region κ) (name : String) (input : Input) :
    region.input name = .ok input ↔ region.inputs.get? name = some input := by
  unfold Region.input
  cases region.inputs.get? name <;> simp

/-- Change one output of the region of a name; other regions and outputs stay. -/
def adjustOutput (owner output : String) (change : Endpoint → Endpoint) (region : Region κ) :
    Region κ :=
  { region with outputs := region.outputs.map (fun name endpoint =>
      if region.name = owner ∧ name = output then change endpoint else endpoint) }

/-- Change one input of the region of a name; other regions and inputs stay. -/
def adjustInput (owner input : String) (change : Input → Input) (region : Region κ) :
    Region κ :=
  { region with inputs := region.inputs.map (fun name entry =>
      if region.name = owner ∧ name = input then change entry else entry) }

/-- An output that is found can be changed, and nothing else changes with it. -/
theorem modifyOutput_ok (region : Region κ) (output : String) (endpoint : Endpoint)
    (change : Endpoint → Except GraphError Endpoint) (changed : Endpoint → Endpoint)
    (found : region.outputs.get? output = some endpoint)
    (succeeds : change endpoint = .ok (changed endpoint)) :
    region.modifyOutput output change = .ok (region.adjustOutput region.name output changed) := by
  have inserted := region.outputs.insert_eq_map output endpoint changed found
  simp only [modifyOutput, Region.output, found, bind, Except.bind, succeeds, pure, Except.pure,
    inserted, adjustOutput, true_and]

/-- An input that is found can be changed, and nothing else changes with it. -/
theorem modifyInput_ok (region : Region κ) (input : String) (entry : Input)
    (change : Input → Except GraphError Input) (changed : Input → Input)
    (found : region.inputs.get? input = some entry)
    (succeeds : change entry = .ok (changed entry)) :
    region.modifyInput input change = .ok (region.adjustInput region.name input changed) := by
  have inserted := region.inputs.insert_eq_map input entry changed found
  simp only [modifyInput, Region.input, found, bind, Except.bind, succeeds, pure, Except.pure,
    inserted, adjustInput, true_and]

/-- Another region is not adjusted. -/
theorem adjustOutput_of_ne (owner output : String) (change : Endpoint → Endpoint)
    (region : Region κ) (other : region.name ≠ owner) :
    region.adjustOutput owner output change = region := by
  have unchanged := region.outputs.map_eq_self
    (fun name endpoint => if region.name = owner ∧ name = output then change endpoint else endpoint)
    (fun name endpoint _ => if_neg (fun both => other both.1))
  simp only [adjustOutput, unchanged]

/-- Another region is not adjusted. -/
theorem adjustInput_of_ne (owner input : String) (change : Input → Input)
    (region : Region κ) (other : region.name ≠ owner) :
    region.adjustInput owner input change = region := by
  have unchanged := region.inputs.map_eq_self
    (fun name entry => if region.name = owner ∧ name = input then change entry else entry)
    (fun name entry _ => if_neg (fun both => other both.1))
  simp only [adjustInput, unchanged]

/-- Adjusting outputs keeps the name of the region. -/
@[simp] theorem adjustOutput_name (owner output : String) (change : Endpoint → Endpoint)
    (region : Region κ) : (region.adjustOutput owner output change).name = region.name := rfl

end Region

namespace Network

/-- The index is that of the regions: it leads from every name to the position of the
region of that name. -/
def Indexed (network : Network κ) : Prop :=
  network.index.Indexes (network.regions.map Region.name)

/-- No name is given to two regions. -/
theorem distinct_of_indexed (network : Network κ) (indexed : network.Indexed) :
    (network.regions.map Region.name).Nodup :=
  NameMap.Indexes.nodup indexed

/-- Two regions of one name are the same region. -/
theorem region_unique (network : Network κ) (indexed : network.Indexed) (first second : Region κ)
    (firstMember : first ∈ network.regions) (secondMember : second ∈ network.regions)
    (same : first.name = second.name) : first = second :=
  List.inj_on_of_nodup_map (network.distinct_of_indexed indexed) firstMember secondMember same

/-- A name is mapped to the position of its region and to no other. -/
theorem position?_eq_some_iff (network : Network κ) (indexed : network.Indexed) (name : String)
    (index : Nat) : network.position? name = some index ↔
      ∃ region, network.regions[index]? = some region ∧ region.name = name := by
  rw [position?, indexed name index, List.getElem?_map, Option.map_eq_some_iff]

/-- A region is found where it stands. -/
theorem position?_of_stands (network : Network κ) (indexed : network.Indexed) (index : Nat)
    (region : Region κ) (stands : network.regions[index]? = some region) :
    network.position? region.name = some index :=
  (network.position?_eq_some_iff indexed region.name index).mpr ⟨region, stands, rfl⟩

/-- No two names are mapped to the same position. -/
theorem position?_inj (network : Network κ) (indexed : network.Indexed) (name other : String)
    (index : Nat) (found : network.position? name = some index)
    (foundToo : network.position? other = some index) : name = other := by
  obtain ⟨region, here, named⟩ := (network.position?_eq_some_iff indexed name index).mp found
  obtain ⟨like, there, namedToo⟩ := (network.position?_eq_some_iff indexed other index).mp foundToo
  cases here.symm.trans there
  exact named.symm.trans namedToo

/-- Finding a region by name is being a region of that name. -/
theorem region_ok_iff (network : Network κ) (indexed : network.Indexed) (name : String)
    (region : Region κ) :
    network.region name = .ok region ↔ region ∈ network.regions ∧ region.name = name := by
  have found : network.region name = .ok region ↔
      (network.position? name).bind (network.regions[·]?) = some region := by
    unfold Network.region
    cases (network.position? name).bind (network.regions[·]?) <;> simp
  rw [found, Option.bind_eq_some_iff]
  constructor
  · rintro ⟨index, located, here⟩
    obtain ⟨other, there, named⟩ := (network.position?_eq_some_iff indexed name index).mp located
    cases here.symm.trans there
    exact ⟨List.mem_of_getElem? here, named⟩
  · rintro ⟨member, named⟩
    obtain ⟨index, here⟩ := List.mem_iff_getElem?.mp member
    exact ⟨index, (network.position?_eq_some_iff indexed name index).mpr ⟨region, here, named⟩,
      here⟩

/-- A region that is not found is unknown. -/
theorem region_error (network : Network κ) (name : String) (fault : GraphError)
    (missing : network.region name = .error fault) : fault = .unknownRegion name := by
  unfold Network.region at missing
  split at missing <;> cases missing
  rfl

/-- A name that is not in the index is not the name of any region. -/
theorem hasRegion_eq_false_iff (network : Network κ) (indexed : network.Indexed) (name : String) :
    network.hasRegion name = false ↔ name ∉ network.regions.map Region.name := by
  rw [hasRegion, NameMap.contains, Option.isSome_eq_false_iff, Option.isNone_iff_eq_none]
  exact NameMap.Indexes.get?_eq_none_iff indexed name

/-- The position of a region that has to exist is where the region stands. -/
theorem position_ok_iff (network : Network κ) (indexed : network.Indexed) (name : String)
    (index : Nat) : network.position name = .ok index ↔
      ∃ region, network.regions[index]? = some region ∧ region.name = name := by
  rw [← network.position?_eq_some_iff indexed, position]
  cases network.position? name <;> simp

/-- A region that exists has a position. -/
theorem position_of_mem (network : Network κ) (indexed : network.Indexed) (region : Region κ)
    (member : region ∈ network.regions) :
    ∃ index, network.position region.name = .ok index ∧
      network.regions[index]? = some region := by
  obtain ⟨index, found⟩ := List.mem_iff_getElem?.mp member
  exact ⟨index, (network.position_ok_iff indexed region.name index).mpr ⟨region, found, rfl⟩,
    found⟩

/-- Putting a region in the place of a name is replacing the regions of that name. -/
theorem setRegion_eq (network : Network κ) (indexed : network.Indexed) (name : String)
    (region : Region κ) :
    network.setRegion name region =
      { network with regions := network.regions.map (fun other =>
          if other.name = name then region else other) } := by
  cases located : network.position? name with
  | none =>
    have absent := (NameMap.Indexes.get?_eq_none_iff indexed name).mp located
    have kept : ∀ other ∈ network.regions,
        (if other.name = name then region else other) = other := by
      intro other member
      exact if_neg (fun named => absent (List.mem_map.mpr ⟨other, member, named⟩))
    simp only [setRegion, located, List.map_congr_left kept, List.map_id']
  | some index =>
    obtain ⟨former, here, named⟩ := (network.position?_eq_some_iff indexed name index).mp located
    have regions : network.regions.set index region =
        network.regions.map (fun other => if other.name = name then region else other) := by
      apply List.ext_getElem?
      intro position
      rw [List.getElem?_set, List.getElem?_map]
      by_cases same : index = position
      · subst same
        rw [if_pos rfl, if_pos (List.getElem?_eq_some_iff.mp here).1, here, Option.map_some,
          if_pos named]
      · rw [if_neg same]
        cases there : network.regions[position]? with
        | none => rfl
        | some other =>
          have different : other.name ≠ name := by
            intro again
            have found := (network.position?_eq_some_iff indexed name position).mpr
              ⟨other, there, again⟩
            exact same (Option.some.inj (located.symm.trans found))
          rw [Option.map_some, if_neg different]
    simp only [setRegion, located, regions]

/-- Putting a changed region in its place is changing the regions one by one. -/
theorem setRegion_eq_map (network : Network κ) (indexed : network.Indexed) (region : Region κ)
    (member : region ∈ network.regions) (change : Region κ → Region κ)
    (elsewhere : ∀ other, other.name ≠ region.name → change other = other) :
    network.setRegion region.name (change region) =
      { network with regions := network.regions.map change } := by
  have pointwise : ∀ other ∈ network.regions,
      (if other.name = region.name then change region else other) = change other := by
    intro other present
    split
    · rename_i same
      rw [network.region_unique indexed other region present member same]
    · rename_i different
      exact (elsewhere other different).symm
  rw [network.setRegion_eq indexed]
  simp only [List.map_congr_left pointwise]

/-- Erasing the region at the position of a name is leaving out the regions of that name. -/
theorem eraseIdx_eq_filter (network : Network κ) (indexed : network.Indexed) (name : String)
    (index : Nat) (located : network.position name = .ok index) :
    network.regions.eraseIdx index =
      network.regions.filter (fun region => region.name ≠ name) := by
  obtain ⟨region, found, named⟩ := (network.position_ok_iff indexed name index).mp located
  obtain ⟨inside, here⟩ := List.getElem?_eq_some_iff.mp found
  have split : network.regions =
      network.regions.take index ++ region :: network.regions.drop (index + 1) := by
    rw [← here, List.getElem_cons_drop, List.take_append_drop]
  have distinct := network.distinct_of_indexed indexed
  rw [split, List.map_append, List.map_cons, List.nodup_append, List.nodup_cons] at distinct
  obtain ⟨_, ⟨notLater, _⟩, apart⟩ := distinct
  have before : (network.regions.take index).filter (fun other => other.name ≠ name) =
      network.regions.take index := by
    rw [List.filter_eq_self]
    intro other member
    have different := apart other.name (List.mem_map_of_mem member) region.name List.mem_cons_self
    simpa [named] using different
  have after : (network.regions.drop (index + 1)).filter (fun other => other.name ≠ name) =
      network.regions.drop (index + 1) := by
    rw [List.filter_eq_self]
    intro other member
    have different : other.name ≠ region.name := fun same =>
      notLater (same ▸ List.mem_map_of_mem member)
    simpa [named] using different
  rw [List.eraseIdx_eq_take_drop_succ]
  conv_rhs => rw [split, List.filter_append, before]
  rw [List.filter_cons_of_neg (by simp [named]), after]

/-- Changing an output that is found changes that output and nothing else. -/
theorem run_modifyOutput (network : Network κ) (indexed : network.Indexed) (region : Region κ)
    (member : region ∈ network.regions) (output : String) (endpoint : Endpoint)
    (found : region.outputs.get? output = some endpoint)
    (change : Endpoint → Except GraphError Endpoint) (changed : Endpoint → Endpoint)
    (succeeds : change endpoint = .ok (changed endpoint)) :
    (modifyOutput region.name output change).run network =
      (.ok (), { network with
        regions := network.regions.map (Region.adjustOutput region.name output changed) }) := by
  have located : network.region region.name = .ok region :=
    (network.region_ok_iff indexed region.name region).mpr ⟨member, rfl⟩
  have modified := region.modifyOutput_ok output endpoint change changed found succeeds
  have placed := network.setRegion_eq_map indexed region member
    (Region.adjustOutput region.name output changed)
    (fun other different => other.adjustOutput_of_ne region.name output changed different)
  simp only [modifyOutput, Edit.run_bind, Edit.run_get, Edit.run_lift, located, modified,
    Edit.run_set, placed]

/-- Changing an input that is found changes that input and nothing else. -/
theorem run_modifyInput (network : Network κ) (indexed : network.Indexed) (region : Region κ)
    (member : region ∈ network.regions) (input : String) (entry : Input)
    (found : region.inputs.get? input = some entry)
    (change : Input → Except GraphError Input) (changed : Input → Input)
    (succeeds : change entry = .ok (changed entry)) :
    (modifyInput region.name input change).run network =
      (.ok (), { network with
        regions := network.regions.map (Region.adjustInput region.name input changed) }) := by
  have located : network.region region.name = .ok region :=
    (network.region_ok_iff indexed region.name region).mpr ⟨member, rfl⟩
  have modified := region.modifyInput_ok input entry change changed found succeeds
  have placed := network.setRegion_eq_map indexed region member
    (Region.adjustInput region.name input changed)
    (fun other different => other.adjustInput_of_ne region.name input changed different)
  simp only [modifyInput, Edit.run_bind, Edit.run_get, Edit.run_lift, located, modified,
    Edit.run_set, placed]

/-- Changing an output and then an input, both of which are found, changes these two and
nothing else, also where they are of one region. -/
theorem run_modifyEnds (network : Network κ) (indexed : network.Indexed)
    (source : Region κ) (sourceMember : source ∈ network.regions)
    (output : String) (endpoint : Endpoint)
    (outputFound : source.outputs.get? output = some endpoint)
    (changeOutput : Endpoint → Except GraphError Endpoint) (changedOutput : Endpoint → Endpoint)
    (outputTakes : changeOutput endpoint = .ok (changedOutput endpoint))
    (destination : Region κ) (destinationMember : destination ∈ network.regions)
    (input : String) (entry : Input) (inputFound : destination.inputs.get? input = some entry)
    (changeInput : Input → Except GraphError Input) (changedInput : Input → Input)
    (inputTakes : changeInput entry = .ok (changedInput entry)) :
    ∃ middle, (modifyOutput source.name output changeOutput).run network = (.ok (), middle) ∧
      (modifyInput destination.name input changeInput).run middle = (.ok (), { network with
        regions := network.regions.map (fun region =>
          (region.adjustOutput source.name output changedOutput).adjustInput destination.name input
            changedInput) }) := by
  refine ⟨_, network.run_modifyOutput indexed source sourceMember output endpoint outputFound
    changeOutput changedOutput outputTakes, ?_⟩
  have indexedThen : Indexed { network with
      regions := network.regions.map (Region.adjustOutput source.name output changedOutput) } := by
    simpa [Indexed, Function.comp_def] using indexed
  have second := run_modifyInput _ indexedThen _ (List.mem_map_of_mem destinationMember) input entry
    inputFound changeInput changedInput inputTakes
  rw [Region.adjustOutput_name] at second
  simp only [second, List.map_map, Function.comp_def]

/-- Finding a link by number is being a link of that number. -/
theorem link?_eq_some_iff (network : Network κ)
    (ascending : network.links.Pairwise (fun earlier later => earlier.id.number < later.id.number))
    (id : LinkId) (link : Link) :
    network.link? id = some link ↔ link ∈ network.links ∧ link.id = id := by
  have distinct : (network.links.map Link.id).Nodup := by
    rw [List.Nodup, List.pairwise_map]
    refine ascending.imp ?_
    intro earlier later before same
    exact absurd (congrArg LinkId.number same) (Nat.ne_of_lt before)
  constructor
  · intro found
    exact ⟨List.mem_of_find?_eq_some found, by simpa using List.find?_some found⟩
  · rintro ⟨member, same⟩
    cases found : network.link? id with
    | none => exact absurd same (by simpa using List.find?_eq_none.mp found link member)
    | some other =>
      have present : other ∈ network.links := List.mem_of_find?_eq_some found
      have numbered : other.id = id := by simpa using List.find?_some found
      exact congrArg some
        (List.inj_on_of_nodup_map distinct present member (numbered.trans same.symm))

end Network

end RegionGraph
