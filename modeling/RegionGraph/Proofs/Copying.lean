import RegionGraph.Proofs.Builtins
import RegionGraph.Proofs.Reloading

/-!
# Loading what was saved

A network of built-in regions can always be saved, and what was saved can be loaded by
any registry that offers the same types. Regions come back in their order with all that
is lasting about them; links come back in their order, under new numbers, with what is
on its way. No check stands in the way of a region or a link that is in a network
already.
-/

namespace RegionGraph

variable {κ : Type}

namespace Region

/-- A region with the endpoints that its description declares is made again of its record with
all that is lasting about it. -/
theorem essence_recalled [Implementation κ] (region : Region κ) (record : RegionRecord)
    (recorded : region.record = .ok record)
    (outputs : region.core.outputs =
      (new region.name region.type region.spec region.params region.state).core.outputs)
    (inputs : region.core.inputs =
      (new region.name region.type region.spec region.params region.state).core.inputs) :
    (recalled ⟨region.name, region.type⟩ record region.spec region.state).essence =
      region.essence := by
  obtain ⟨bytes, _, made⟩ := (Traversal.bind_ok_iff _ _ _).mp recorded
  cases made
  have kept : ((new region.name region.type region.spec region.params region.state).outputs.map
      (fun name endpoint => ((region.outputs.map (fun _ endpoint => endpoint.buffer)).get?
        name).getD endpoint.buffer)) = region.outputs.map (fun _ endpoint => endpoint.buffer) := by
    apply NameMap.ext_get?
    intro name
    have same := congrArg (fun outputs => outputs.get? name) outputs
    simp only [core, NameMap.get?_map] at same ⊢
    cases here : region.outputs.get? name with
    | none =>
      rw [here] at same
      rw [Option.map_eq_none_iff.mp same.symm]
      rfl
    | some endpoint =>
      rw [here] at same
      obtain ⟨other, there, _⟩ := Option.map_eq_some_iff.mp same.symm
      rw [there]
      rfl
  simp only [essence, recalled, NameMap.map_map, kept]
  exact congrArg (Essence.mk _ _ _ _ _ _ _) inputs.symm

end Region

namespace Network

/-- A bundle with the topology of a soundly wired network, whose regions can all be made again with
all that is lasting about them, is loaded as a network that is like it. -/
theorem load_alike (network : Network κ) (sound : network.wiring.Sound)
    (declared : ∀ region ∈ network.regions, region.essence.AsDeclared)
    (given : ∀ link ∈ network.links,
      link.spec.output.isEmpty = false ∧ link.spec.input.isEmpty = false)
    (registry : Registry κ) (describing : registry.Describing) (bundle : Bundle)
    (recorded : bundle.topology = some network.topology)
    (restores : ∀ region ∈ network.regions, ∃ copy,
      Restores registry bundle ⟨region.name, region.type⟩ copy ∧ copy.essence = region.essence)
    (settings : NetworkSettings) :
    ∃ copy later, (load bundle settings).run registry = (.ok copy, later) ∧
      network.Alike copy := by
  obtain ⟨copies, each⟩ := (Traversal.exists_forall₂_iff (fun region copy =>
    Restores registry bundle ⟨region.name, region.type⟩ copy ∧ copy.essence = region.essence)
    network.regions).mpr restores
  have restored : List.Forall₂ (Restores registry bundle) network.topology.regions copies :=
    List.forall₂_map_left_iff.mpr (each.imp fun _ _ => And.left)
  have essences : List.Forall₂ Eq (network.regions.map Region.essence)
      (copies.map Region.essence) := by
    rw [List.forall₂_map_left_iff, List.forall₂_map_right_iff]
    exact each.imp fun _ _ both => both.2.symm
  rw [List.forall₂_eq_eq_eq] at essences
  obtain ⟨essencesUnlinked, _⟩ := (Network.new settings).insertAll_keeps copies
  have distinct : (network.topology.regions.map RegionEntry.name).Nodup := by
    rw [topology, List.map_map]
    exact network.distinct_of_indexed (network.indexed_of_sound sound)
  have fit : LinkSpec.FitAll (network.topology.Describes registry) []
      (network.topology.links.map LinkRecord.spec) (network.links.map Link.spec) := by
    have fitting := network.fitAll_links sound declared given
    rw [← describes_of_essences _ network (essencesUnlinked.trans essences.symm),
      describes_insertAll registry bundle settings network.topology copies restored] at fitting
    rw [topology, List.map_map]
    exact fitting
  have loaded := (load_ok_iff registry bundle settings describing _).mpr
    ⟨network.topology, recorded, distinct, copies, restored, network.links.map Link.spec, fit, rfl⟩
  obtain ⟨other, same⟩ := restoredFrom_of_load registry bundle settings describing _ loaded
  cases recorded.symm.trans same.recorded
  have topologies := topology_of_restored registry bundle settings network.topology _ same
    (List.forall_mem_map.mpr given)
  obtain ⟨_, essencesLinked, _⟩ := ((Network.new settings).insertAll copies).carryingAll_keeps
    (network.topology.links.zip (network.links.map Link.spec))
  rcases ran : (load bundle settings).run registry with ⟨outcome, later⟩
  rw [ran] at loaded
  cases loaded
  have soundCopy := (sound_load bundle settings _ registry later ran).1
  have alike := essences.trans (essencesLinked.trans essencesUnlinked).symm
  refine ⟨_, later, rfl, alike, ?_, ?_, same.iteration.symm⟩
  · exact network.index_congr _ sound soundCopy (network.names_of_essences _ alike)
  · have links := congrArg (fun topology => topology.links.map fun record =>
      (record.spec, record.pending)) topologies
    simp only [topology, List.map_map] at links
    exact links.symm

end Network

namespace Builtin

variable (kind : String → Option (RegionType Builtin)) (stock : Stock kind)

include stock

/-- A region of a built-in type has the endpoints that its description declares. -/
theorem asDeclared_of_conforms (region : Region Builtin) (conforms : Conforms kind region.core) :
    region.essence.AsDeclared := by
  obtain ⟨type, offered, described, _⟩ := conforms.typed
  have valid : region.spec.validate region.type = .ok () := by
    rw [show region.spec = type.spec from described]
    exact valid_of_stock type (stock _ type offered) region.type
  constructor
  · intro name
    have same := congrArg (fun outputs => outputs.get? name) conforms.outputs
    simp only [Region.core, NameMap.get?_map, Region.outputs_new region.spec region.type valid,
      Option.map_map] at same
    rw [Region.essence, NameMap.get?_map, Option.map_map]
    exact same
  · intro name
    have same := congrArg (fun inputs => inputs.get? name) conforms.inputs
    simp only [Region.core, NameMap.get?_map, Region.inputs_new region.spec region.type valid,
      Option.map_map] at same
    have types := congrArg (Option.map Prod.fst) same
    rw [Option.map_map, Option.map_map] at types
    rw [Region.essence, NameMap.get?_map, Option.map_map]
    exact types

/-- A region of a built-in type can be made again of its record, with all that is lasting about
it. -/
theorem restores_of_conforms (region : Region Builtin) (conforms : Conforms kind region.core)
    (storable : region.state.Storable) (registry : Registry Builtin)
    (offers : registry.Offers kind) (bundle : Bundle) (record : RegionRecord)
    (recorded : region.record = .ok record)
    (read : bundle.readRegion region.name = .ok record) :
    ∃ copy, Restores registry bundle ⟨region.name, region.type⟩ copy ∧
      copy.essence = region.essence := by
  obtain ⟨type, offered, described, configured⟩ := conforms.typed
  have same : region.spec = type.spec := described
  have valid := valid_of_stock type (stock _ type offered) region.type
  obtain ⟨bytes, stored, restores⟩ :=
    restore_save type region.params region.state configured storable
  have made : record = ⟨region.type, region.params, bytes,
      region.outputs.map (fun _ endpoint => endpoint.buffer), region.initialized⟩ := by
    rw [Region.record, stored] at recorded
    exact (Except.ok.inj recorded).symm
  obtain ⟨later, _, resolved⟩ := Registry.run_resolve kind registry offers region.type
  rw [show kind region.type = some type from offered] at resolved
  refine ⟨_, ⟨record, region.spec, region.state, ?_, rfl⟩,
    region.essence_recalled record recorded conforms.outputs conforms.inputs⟩
  refine ⟨(bundle.readRegion_ok_iff region.name record).mp read, by rw [made],
    ⟨type, by rw [resolved], restores record region.name region.type (by rw [made])
      (by rw [made])⟩, ?_, same ▸ valid, ?_⟩
  · obtain ⟨_, _, described⟩ :=
      Registry.run_spec kind registry offers region.type type offered valid
    rw [same, described]
  · intro name buffer saved
    have declares := (asDeclared_of_conforms kind stock region conforms).outputs name
    rw [made] at saved
    rw [show region.essence.outputs.get? name = some buffer from saved, Option.map_some] at declares
    exact Option.map_eq_some_iff.mp declares.symm

end Builtin

namespace Network

/-- A network of built-in regions can be saved, what was saved can be loaded, and the
loaded network is like the saved one. -/
theorem load_save (kind : String → Option (RegionType Builtin)) (stock : Builtin.Stock kind)
    (network : Network Builtin) (sound : network.wiring.Sound)
    (conforms : ∀ region ∈ network.regions, Builtin.Conforms kind region.core)
    (storable : ∀ region ∈ network.regions, region.state.Storable) (timestamp : UInt64)
    (settings : NetworkSettings) (registry : Registry Builtin) (offers : registry.Offers kind) :
    ∃ bundle copy later, network.save timestamp = .ok bundle ∧
      (load bundle settings).run registry = (.ok copy, later) ∧ network.Alike copy := by
  have records : ∀ region ∈ network.regions, ∃ record, region.record = .ok record := by
    intro region member
    obtain ⟨type, _, _, configured⟩ := (conforms region member).typed
    obtain ⟨bytes, stored, _⟩ := Builtin.restore_save type region.params region.state configured
      (storable region member)
    rw [Region.record, stored]
    exact ⟨_, rfl⟩
  have given : ∀ link ∈ network.links,
      link.spec.output.isEmpty = false ∧ link.spec.input.isEmpty = false := by
    intro link member
    obtain ⟨source, sourceMember, destination, destinationMember, output, input, _, outputFound, _,
      inputFound, _⟩ := network.link_ends sound link member
    exact ⟨Builtin.output_named kind stock source (conforms source sourceMember) _ output
      outputFound, Builtin.input_named kind stock destination
      (conforms destination destinationMember) _ input inputFound⟩
  have describing := offers.describing fun name type offered =>
    Builtin.valid_of_stock type (stock name type offered) name
  obtain ⟨bundle, saved, topology, found⟩ :=
    network.save_ok (network.indexed_of_sound sound) records timestamp
  obtain ⟨copy, later, loaded, alike⟩ := network.load_alike sound
    (fun region member => Builtin.asDeclared_of_conforms kind stock region (conforms region member))
    given registry describing bundle ((bundle.readTopology_ok_iff _).mp topology)
    (fun region member => by
      obtain ⟨record, recorded, read⟩ := found region member
      exact Builtin.restores_of_conforms kind stock region (conforms region member)
        (storable region member) registry offers bundle record recorded read) settings
  exact ⟨bundle, copy, later, saved, loaded, alike⟩

end Network

end RegionGraph
