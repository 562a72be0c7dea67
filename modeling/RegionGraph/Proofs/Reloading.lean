import RegionGraph.Proofs.Restoring
import RegionGraph.Proofs.Saving

/-!
# What a bundle is restored to

A bundle can be loaded if it has a topology, if the regions that this lists have different names
and can be made again, and if the recorded links fit one after the other. The network that comes
out is told by what was recorded: nothing is left out, and nothing but default endpoints and
unallocated outputs is filled in. Where nothing has to be filled in, saving the network gives the
topology and the records back.

This holds of every registry, whatever it was asked before, since the specifications that a
registry keeps are valid.
-/

namespace RegionGraph

variable {κ : Type}

/-- A topology describes a region by the specification in force for its type. -/
def Topology.Describes (topology : Topology) (registry : Registry κ) (name : String)
    (spec : Spec) : Prop :=
  ∃ entry ∈ topology.regions, entry.name = name ∧
    ((Registry.spec entry.type).run registry).1 = .ok spec

/-- A bundle can be loaded: it has a topology that lists regions of different names, each of which
can be made again, and links that fit one after the other. -/
def Bundle.Loadable (bundle : Bundle) (registry : Registry κ) : Prop :=
  ∃ topology, bundle.topology = some topology ∧
    (topology.regions.map RegionEntry.name).Nodup ∧
    (∀ entry ∈ topology.regions, ∃ record spec state,
      Listed registry bundle entry record spec state) ∧
    ∃ named, LinkSpec.FitAll (topology.Describes registry) []
      (topology.links.map LinkRecord.spec) named

/-- A network is what a bundle records: unbuilt, with the listed regions in their order, the
recorded links in their order and under the numbers from zero on, and the recorded count of
cycles. -/
structure Network.RestoredFrom (network : Network κ) (registry : Registry κ) (bundle : Bundle)
    (topology : Topology) (settings : NetworkSettings) : Prop where
  recorded : bundle.topology = some topology
  settings : network.settings = settings
  state : network.state = .unbuilt
  order : network.order = none
  regions : List.Forall₂ (fun entry region => ∃ record spec state,
      Listed registry bundle entry record spec state ∧
        region.essence.Recalls entry record spec state) topology.regions network.regions
  specs : LinkSpec.FitAll (topology.Describes registry) [] (topology.links.map LinkRecord.spec)
    (network.links.map Link.spec)
  numbers : network.links.map Link.id = (List.range topology.links.length).map LinkId.mk
  pending : network.links.map Link.pending = topology.links.map LinkRecord.pending
  iteration : network.iteration = topology.iteration

namespace Network

variable (registry : Registry κ) (bundle : Bundle) (settings : NetworkSettings)

/-- Regions that are made again are described as the topology says. -/
theorem describes_insertAll (topology : Topology) (regions : List (Region κ))
    (each : List.Forall₂ (Restores registry bundle) topology.regions regions) :
    ((Network.new settings).insertAll regions).Describes = topology.Describes registry := by
  obtain ⟨essences, _⟩ := (Network.new settings).insertAll_keeps regions
  have plain := describes_of_essences ((Network.new settings).insertAll regions)
    { (Network.new settings : Network κ) with regions := regions } essences
  rw [plain]
  funext name spec
  refine propext ⟨?_, ?_⟩
  · rintro ⟨region, member, rfl, rfl⟩
    obtain ⟨entry, listed, record, spec, state, made, rfl⟩ :=
      Traversal.exists_of_forall₂ each region member
    exact ⟨entry, listed, rfl, made.described⟩
  · rintro ⟨entry, listed, rfl, described⟩
    obtain ⟨region, member, record, other, state, made, rfl⟩ :=
      Traversal.exists_of_forall₂ each.flip entry listed
    cases described.symm.trans made.described
    exact ⟨_, member, rfl, rfl⟩

/-- The recorded links are loaded into a network of the regions made again exactly if they fit one
after the other. -/
theorem loadLinks_insertAll (topology : Topology) (regions : List (Region κ))
    (each : List.Forall₂ (Restores registry bundle) topology.regions regions)
    (sound : ((Network.new settings).insertAll regions).wiring.Sound) (linked : Network κ) :
    topology.links.foldlM loadLink ((Network.new settings).insertAll regions) = .ok linked ↔
      ∃ named, LinkSpec.FitAll (topology.Describes registry) []
          (topology.links.map LinkRecord.spec) named ∧
        linked = ((Network.new settings).insertAll regions).carryingAll
          (topology.links.zip named) := by
  obtain ⟨essences, links, _, _, unbuilt⟩ := (Network.new settings).insertAll_keeps regions
  have declared : ∀ region ∈ ((Network.new settings).insertAll regions).regions,
      region.essence.AsDeclared := by
    rw [← List.forall_mem_map (f := Region.essence) (P := Essence.AsDeclared), essences]
    refine List.forall_mem_map.mpr fun region member => ?_
    obtain ⟨entry, _, record, spec, state, made, rfl⟩ :=
      Traversal.exists_of_forall₂ each region member
    exact (Region.recalls_recalled entry record spec made.valid state).asDeclared made.outputs
  rw [loadLinks_ok_iff topology.links _ linked sound (unbuilt rfl) declared,
    describes_insertAll registry bundle settings topology regions each, links]
  rfl

/-- A bundle is loaded exactly if it has a topology with regions of different names, each of
which can be made again, and links that fit one after the other. What comes out has those regions
and links, and the recorded count of cycles. -/
theorem load_ok_iff (describing : registry.Describing) (network : Network κ) :
    ((load bundle settings).run registry).1 = .ok network ↔
      ∃ topology, bundle.topology = some topology ∧
        (topology.regions.map RegionEntry.name).Nodup ∧
        ∃ regions, List.Forall₂ (Restores registry bundle) topology.regions regions ∧
        ∃ named, LinkSpec.FitAll (topology.Describes registry) []
            (topology.links.map LinkRecord.spec) named ∧
          network = { ((Network.new settings).insertAll regions).carryingAll
            (topology.links.zip named) with iteration := topology.iteration } := by
  constructor
  · intro loaded
    rcases ran : (load bundle settings).run registry with ⟨outcome, later⟩
    rw [ran] at loaded
    cases loaded
    obtain ⟨topology, unlinked, linked, read, added, joined, rfl⟩ :=
      load_ok bundle settings network registry later ran
    have sound := sound_loadRegions bundle topology.regions (Network.new settings) unlinked
      (Wiring.sound_empty 0) registry later added
    obtain ⟨distinct, regions, each, rfl⟩ := (loadRegions_ok_iff bundle topology.regions
      (Network.new settings) unlinked (Wiring.sound_empty 0) registry describing).mp
        (congrArg Prod.fst added)
    obtain ⟨named, fit, rfl⟩ := (loadLinks_insertAll registry bundle settings topology regions each
      sound linked).mp joined
    exact ⟨topology, (bundle.readTopology_ok_iff topology).mp read, distinct, regions, each, named,
      fit, rfl⟩
  · rintro ⟨topology, recorded, distinct, regions, each, named, fit, rfl⟩
    have added := (loadRegions_ok_iff bundle topology.regions (Network.new settings) _
      (Wiring.sound_empty 0) registry describing).mpr ⟨distinct, regions, each, rfl⟩
    rcases ran : (topology.regions.foldlM (fun network entry => loadRegion network bundle entry)
      (Network.new settings)).run registry with ⟨outcome, later⟩
    rw [ran] at added
    cases added
    have sound := sound_loadRegions bundle topology.regions (Network.new settings) _
      (Wiring.sound_empty 0) registry later ran
    have joined := (loadLinks_insertAll registry bundle settings topology regions each sound _).mpr
      ⟨named, fit, rfl⟩
    have lifted : liftBundle bundle.readTopology = .ok topology := by
      rw [(bundle.readTopology_ok_iff topology).mpr recorded]
      rfl
    simp only [load, Edit.run_bind, Edit.run_lift, lifted, ran, joined, Edit.run_pure]

/-- What was loaded is what the bundle records. -/
theorem restoredFrom_of_load (describing : registry.Describing) (network : Network κ)
    (loaded : ((load bundle settings).run registry).1 = .ok network) :
    ∃ topology, network.RestoredFrom registry bundle topology settings := by
  obtain ⟨topology, recorded, _, regions, each, named, fit, made⟩ :=
    (load_ok_iff registry bundle settings describing network).mp loaded
  rcases ran : (load bundle settings).run registry with ⟨outcome, later⟩
  rw [ran] at loaded
  cases loaded
  obtain ⟨_, unbuilt, unordered⟩ := sound_load bundle settings network registry later ran
  obtain ⟨essencesBefore, linksBefore, numberBefore, settingsBefore, _⟩ :=
    (Network.new settings).insertAll_keeps regions
  obtain ⟨links, essences, kept, _⟩ :=
    ((Network.new settings).insertAll regions).carryingAll_keeps (topology.links.zip named)
  have counts : topology.links.length = named.length := by
    rw [← fit.length, List.length_map]
  have linked : network.links = (topology.links.zip named).zipIdx.map (fun entry =>
      ⟨⟨entry.2⟩, entry.1.2, entry.1.1.pending⟩) := by
    rw [made]
    refine links.trans ?_
    rw [linksBefore, numberBefore]
    rfl
  obtain ⟨specs, numbers, pending⟩ := links_zipIdx network.links topology.links named counts linked
  have alike : network.regions.map Region.essence = regions.map Region.essence := by
    rw [made]
    exact essences.trans essencesBefore
  refine ⟨topology, recorded, ?_, unbuilt, unordered, ?_, ?_, ?_, ?_, ?_⟩
  · rw [made]
    exact kept.trans settingsBefore
  · have recalled : List.Forall₂ (fun entry essence => ∃ record spec state,
        Listed registry bundle entry record spec state ∧
          Essence.Recalls essence entry record spec state) topology.regions
        (regions.map Region.essence) := by
      rw [List.forall₂_map_right_iff]
      refine each.imp ?_
      rintro entry _ ⟨record, spec, state, listed, rfl⟩
      exact ⟨record, spec, state, listed,
        Region.recalls_recalled entry record spec listed.valid state⟩
    rwa [← alike, List.forall₂_map_right_iff] at recalled
  · rwa [specs]
  · exact numbers
  · exact pending
  · rw [made]

/-- Loading a bundle succeeds exactly if the bundle can be loaded as its records say. -/
theorem load_isOk_iff (describing : registry.Describing) :
    (∃ network, ((load bundle settings).run registry).1 = .ok network) ↔
      bundle.Loadable registry := by
  constructor
  · rintro ⟨network, loaded⟩
    obtain ⟨topology, recorded, distinct, regions, each, named, fit, _⟩ :=
      (load_ok_iff registry bundle settings describing network).mp loaded
    refine ⟨topology, recorded, distinct, fun entry listed => ?_, named, fit⟩
    obtain ⟨_, _, record, spec, state, made, _⟩ :=
      Traversal.exists_of_forall₂ each.flip entry listed
    exact ⟨record, spec, state, made⟩
  · rintro ⟨topology, recorded, distinct, listed, named, fit⟩
    obtain ⟨regions, each⟩ := (Traversal.exists_forall₂_iff (Restores registry bundle)
      topology.regions).mpr fun entry member => by
        obtain ⟨record, spec, state, made⟩ := listed entry member
        exact ⟨.recalled entry record spec state, record, spec, state, made, rfl⟩
    exact ⟨_, (load_ok_iff registry bundle settings describing _).mpr
      ⟨topology, recorded, distinct, regions, each, named, fit, rfl⟩⟩

/-- A network that was restored from a bundle whose links name their endpoints has the topology of
the bundle. -/
theorem topology_of_restored (topology : Topology) (network : Network κ)
    (restored : network.RestoredFrom registry bundle topology settings)
    (given : ∀ link ∈ topology.links,
      link.spec.output.isEmpty = false ∧ link.spec.input.isEmpty = false) :
    network.topology = topology := by
  have regions : network.regions.map (fun region => RegionEntry.mk region.name region.type) =
      topology.regions := by
    have each : List.Forall₂ (fun entry region => entry = RegionEntry.mk region.name region.type)
        topology.regions network.regions := by
      refine restored.regions.imp ?_
      rintro entry region ⟨record, spec, state, _, recalls⟩
      rw [show region.name = entry.name from recalls.name,
        show region.type = entry.type from recalls.type]
    rw [← List.forall₂_map_right_iff (R := Eq), List.forall₂_eq_eq_eq] at each
    exact each.symm
  have specs : network.links.map Link.spec = topology.links.map LinkRecord.spec :=
    restored.specs.eq_of_named (List.forall_mem_map.mpr given)
  have links : network.links.map (fun link => LinkRecord.mk link.spec link.pending) =
      topology.links := calc
    network.links.map (fun link => LinkRecord.mk link.spec link.pending)
        = ((network.links.map Link.spec).zip (network.links.map Link.pending)).map
            (fun pair => LinkRecord.mk pair.1 pair.2) := by
          rw [List.zip_map', List.map_map]
          rfl
    _ = ((topology.links.map LinkRecord.spec).zip (topology.links.map LinkRecord.pending)).map
            (fun pair => LinkRecord.mk pair.1 pair.2) := by rw [specs, restored.pending]
    _ = topology.links := by
          rw [List.zip_map', List.map_map]
          exact List.map_id topology.links
  rw [Network.topology, regions, links, restored.iteration]

end Network

/-! ### Saving what was loaded -/

variable [Implementation κ]

/-- Nothing of a bundle is filled in when it is loaded, and nothing of it gets lost: its links
name their endpoints, its records have exactly the outputs that are declared, and
implementations save the states that they are made of. -/
structure Bundle.Complete (bundle : Bundle) (registry : Registry κ) (topology : Topology) :
    Prop where
  named : ∀ link ∈ topology.links,
    link.spec.output.isEmpty = false ∧ link.spec.input.isEmpty = false
  outputs : ∀ entry ∈ topology.regions, ∀ record spec state,
    Listed registry bundle entry record spec state →
      ∀ name, (record.outputs.get? name).isSome = (spec.output? name).isSome
  states : ∀ entry ∈ topology.regions, ∀ record spec state,
    Listed registry bundle entry record spec state →
      Implementation.save state = .ok record.state

namespace Network

variable (registry : Registry κ) (bundle : Bundle) (settings : NetworkSettings)
  (topology : Topology) (network : Network κ)
  (restored : network.RestoredFrom registry bundle topology settings)
  (complete : bundle.Complete registry topology)

include restored complete

/-- A network that was restored from a complete bundle is saved with the topology of the bundle and
with its records of the listed regions, and no others. -/
theorem save_of_restored (indexed : network.Indexed) (timestamp : UInt64) :
    ∃ saved, network.save timestamp = .ok saved ∧ saved.topology = bundle.topology ∧
      ∀ name, saved.records.get? name =
        if name ∈ topology.regions.map RegionEntry.name then bundle.records.get? name
        else none := by
  have named : network.regions.map Region.name = topology.regions.map RegionEntry.name := by
    rw [← topology_of_restored registry bundle settings topology network restored complete.named,
      Network.topology, List.map_map]
    rfl
  have recorded : ∀ region ∈ network.regions, ∃ record, region.record = .ok record ∧
      bundle.records.get? region.name = some record := by
    intro region member
    obtain ⟨entry, listed, record, spec, state, made, recalls⟩ :=
      Traversal.exists_of_forall₂ restored.regions region member
    refine ⟨record, ?_, ?_⟩
    · exact region.record_of_recalls entry record spec state recalls made.typed
        (complete.outputs entry listed record spec state made)
        (complete.states entry listed record spec state made)
    · rw [show region.name = entry.name from recalls.name]
      exact made.recorded
  obtain ⟨saved, wrote, topologySaved, others, found⟩ := writeRegions_ok network.regions
    ((Bundle.new ⟨timestamp, "", "iteration " ++ Nat.repr network.iteration.toNat, ∅⟩).writeTopology
      network.topology) (network.distinct_of_indexed indexed) (fun _ _ => rfl)
    fun region member => (recorded region member).imp fun _ => And.left
  refine ⟨saved, wrote, ?_, ?_⟩
  · rw [topologySaved, restored.recorded,
      topology_of_restored registry bundle settings topology network restored complete.named]
    rfl
  · intro name
    rw [← named]
    split
    case isTrue listed =>
      obtain ⟨region, member, rfl⟩ := List.mem_map.mp listed
      obtain ⟨record, made, present⟩ := recorded region member
      obtain ⟨other, again, stored⟩ := found region member
      cases made.symm.trans again
      rw [stored, present]
    case isFalse absent =>
      refine (others name fun region member same => absent ?_).trans rfl
      exact List.mem_map.mpr ⟨region, member, same⟩

end Network

namespace Network

/-- Whatever was asked of a registry before: a bundle is loaded exactly if it has a topology that
lists regions of different names, each with a record of its type, an implementation, a valid
specification and declared outputs, and links that fit one after the other. What is loaded is
what was recorded. Of a complete bundle it is saved again.

Loading is a recursion over the regions and then over the links that are listed. It goes on at
each exactly if what is listed fits what was loaded before; by induction over both lists it
comes to its end exactly if all fit, and to the network that has them all. The registry may
learn on the way, but what it answers stays the same. -/
theorem load_exact (requests : List (Registry.Request κ)) (bundle : Bundle)
    (settings : NetworkSettings) :
    let registry := Registry.serveAll ∅ requests
    ((∃ network, ((load bundle settings).run registry).1 = .ok network) ↔
        bundle.Loadable registry) ∧
      ∀ network, ((load bundle settings).run registry).1 = .ok network →
        ∃ topology, network.RestoredFrom registry bundle topology settings ∧
          (bundle.Complete registry topology → ∀ timestamp, ∃ saved,
            network.save timestamp = .ok saved ∧ saved.topology = bundle.topology ∧
              ∀ name, saved.records.get? name =
                if name ∈ topology.regions.map RegionEntry.name then bundle.records.get? name
                else none) := by
  intro registry
  have describing : registry.Describing := (Registry.vetted_serveAll requests).describing
  refine ⟨load_isOk_iff registry bundle settings describing, fun network loaded => ?_⟩
  obtain ⟨topology, restored⟩ :=
    restoredFrom_of_load registry bundle settings describing network loaded
  refine ⟨topology, restored, fun complete timestamp => ?_⟩
  rcases ran : (load bundle settings).run registry with ⟨outcome, later⟩
  rw [ran] at loaded
  cases loaded
  have sound := (sound_load bundle settings network registry later ran).1
  exact network.save_of_restored registry bundle settings topology restored complete
    (network.indexed_of_sound sound) timestamp

/-- A registry that was asked to register incrementers. -/
def incrementing : List (Registry.Request Builtin) :=
  [.register "Incrementer" (Incrementer.type.map .incrementer)]

/-- A loop of one incrementer, at the end of its fifth cycle. -/
def loopTopology (link : LinkSpec) : Topology where
  regions := [⟨"a", "Incrementer"⟩]
  links := [⟨{ link with delay := 1 }, [.zeroed .int32 2]⟩]
  iteration := 5

/-- The bundle of the loop, with the outputs that were saved. -/
def loopBundle (link : LinkSpec) (outputs : NameMap Buffer) : Bundle where
  version := Bundle.formatVersion
  metadata := ⟨0, "", "", ∅⟩
  topology := some (loopTopology link)
  records := .ofList [("a", ⟨"Incrementer", .ofList [("increment", .scalar ⟨.int32, 3⟩)], [],
    outputs, true⟩)]

/-- A loop whose link names both endpoints and whose output was saved is complete. -/
theorem complete_loop :
    let link := LinkSpec.new "a" "out" "a" "in"
    (loopBundle link (.ofList [("out", .zeroed .int32 2)])).Complete
      (Registry.serveAll ∅ incrementing) (loopTopology link) := by
  intro link
  have told (entry : RegionEntry) (member : entry ∈ (loopTopology link).regions)
      (record : RegionRecord) (spec : Spec) (state : Builtin)
      (listed : Listed (Registry.serveAll ∅ incrementing)
        (loopBundle link (.ofList [("out", .zeroed .int32 2)])) entry record spec state) :
      record.outputs = .ofList [("out", .zeroed .int32 2)] ∧ record.state = [] ∧
        spec = Incrementer.spec ∧ state = .incrementer ⟨3⟩ := by
    cases List.mem_singleton.mp member
    obtain ⟨type, resolved, made⟩ := listed.restores
    cases resolved
    have recorded := listed.recorded
    cases recorded
    exact ⟨rfl, rfl, (Except.ok.inj listed.described).symm, (Except.ok.inj made).symm⟩
  refine ⟨by decide, ?_, ?_⟩
  · intro entry member record spec state listed name
    obtain ⟨outputs, _, rfl, _⟩ := told entry member record spec state listed
    rw [outputs]
    by_cases declared : name = "out"
    · rw [declared]
      rfl
    · have elsewhere : (name == "out") = false := beq_false_of_ne declared
      simp only [NameMap.ofList, List.foldl_cons, List.foldl_nil, NameMap.get?_insert, declared,
        if_false, Incrementer.spec, Spec.output?, List.lookup_cons, elsewhere, List.lookup_nil]
      rfl
  · intro entry member record spec state listed
    obtain ⟨_, saved, _, rfl⟩ := told entry member record spec state listed
    rw [saved]
    rfl

/-- The complete loop can be loaded, and what is loaded is saved as it was recorded. -/
theorem load_loop :
    let bundle := loopBundle (LinkSpec.new "a" "out" "a" "in")
      (.ofList [("out", .zeroed .int32 2)])
    bundle.Loadable (Registry.serveAll ∅ incrementing) ∧
      ∃ network saved, ((load bundle ⟨false, 0⟩).run (Registry.serveAll ∅ incrementing)).1 =
          .ok network ∧
        network.save 7 = .ok saved ∧ saved.topology = bundle.topology ∧
        saved.records.get? "a" = bundle.records.get? "a" := by
  intro bundle
  obtain ⟨loads, restores⟩ := load_exact incrementing bundle ⟨false, 0⟩
  have isOk : ((load bundle ⟨false, 0⟩).run (Registry.serveAll ∅ incrementing)).1.isOk = true :=
    rfl
  obtain ⟨network, loaded⟩ := (Traversal.isOk_iff _).mp isOk
  obtain ⟨topology, restored, again⟩ := restores network loaded
  cases restored.recorded
  obtain ⟨saved, written, kept, records⟩ := again complete_loop 7
  exact ⟨loads.mp ⟨network, loaded⟩, network, saved, loaded, written, kept, records "a"⟩

/-- A link that names no endpoint gets the default ones, also where no output was saved. -/
example (settings : NetworkSettings) :
    ((load (loopBundle (LinkSpec.betweenDefaults "a" "a") ∅) settings).run
        (Registry.serveAll ∅ incrementing)).1.map (fun network => network.links) =
      .ok [⟨⟨0⟩, { LinkSpec.new "a" "out" "a" "in" with delay := 1 }, [.zeroed .int32 2]⟩] := by
  rfl

end Network

end RegionGraph
