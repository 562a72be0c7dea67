import RegionGraph.Proofs.Alike

/-!
# What saving writes

A network can be saved if every region has a record. The bundle that is written has the topology
of the network and the records of its regions, and no others. Of a network it tells what is
lasting, so alike networks save the same.
-/

namespace RegionGraph.Network

variable {κ : Type} [Implementation κ]

/-- Records of regions of different names are added one after the other. -/
theorem writeRegions_ok (regions : List (Region κ)) (start : Bundle)
    (distinct : (regions.map Region.name).Nodup)
    (free : ∀ region ∈ regions, start.records.get? region.name = none)
    (records : ∀ region ∈ regions, ∃ record, region.record = .ok record) :
    ∃ bundle, regions.foldlM (fun bundle region => do
        let record ← region.record
        liftBundle (bundle.writeRegion region.name record)) start = .ok bundle ∧
      bundle.topology = start.topology ∧
      (∀ name, (∀ region ∈ regions, region.name ≠ name) →
        bundle.records.get? name = start.records.get? name) ∧
      ∀ region ∈ regions, ∃ record, region.record = .ok record ∧
        bundle.records.get? region.name = some record := by
  induction regions generalizing start with
  | nil =>
    exact ⟨start, rfl, rfl, fun _ _ => rfl, fun _ impossible => absurd impossible List.not_mem_nil⟩
  | cons first rest inductionHypothesis =>
    rw [List.map_cons, List.nodup_cons] at distinct
    obtain ⟨record, recorded⟩ := records first List.mem_cons_self
    have apart : ∀ region ∈ rest, region.name ≠ first.name := by
      intro region member same
      exact distinct.1 (List.mem_map.mpr ⟨region, member, same⟩)
    have written : start.writeRegion first.name record =
        .ok { start with records := start.records.insert first.name record } := by
      rw [Bundle.writeRegion, NameMap.contains, free first List.mem_cons_self]
      rfl
    obtain ⟨bundle, saved, topology, others, found⟩ := inductionHypothesis
      { start with records := start.records.insert first.name record } distinct.2 (by
        intro region member
        rw [NameMap.get?_insert_of_ne _ _ (apart region member)]
        exact free region (List.mem_cons_of_mem first member))
      (fun region member => records region (List.mem_cons_of_mem first member))
    refine ⟨bundle, ?_, topology, ?_, ?_⟩
    · rw [List.foldlM_cons, recorded, Traversal.ok_bind, written]
      exact saved
    · intro name absent
      rw [others name (fun region member => absent region (List.mem_cons_of_mem first member)),
        NameMap.get?_insert_of_ne _ _ (absent first List.mem_cons_self).symm]
    · intro region member
      rcases List.mem_cons.mp member with rfl | later
      · refine ⟨record, recorded, ?_⟩
        rw [others region.name apart, NameMap.get?_insert_self]
      · exact found region later

/-- A network whose regions have records is saved with its topology and those records. -/
theorem save_ok (network : Network κ) (indexed : network.Indexed)
    (records : ∀ region ∈ network.regions, ∃ record, region.record = .ok record)
    (timestamp : UInt64) :
    ∃ bundle, network.save timestamp = .ok bundle ∧
      bundle.readTopology = .ok network.topology ∧
      ∀ region ∈ network.regions, ∃ record, region.record = .ok record ∧
        bundle.readRegion region.name = .ok record := by
  obtain ⟨bundle, saved, topology, _, found⟩ := writeRegions_ok network.regions
    ((Bundle.new ⟨timestamp, "", "iteration " ++ Nat.repr network.iteration.toNat, ∅⟩).writeTopology
      network.topology) (network.distinct_of_indexed indexed) (fun _ _ => rfl) records
  refine ⟨bundle, saved, ?_, ?_⟩
  · rw [Bundle.readTopology, topology]
    rfl
  · intro region member
    obtain ⟨record, recorded, stored⟩ := found region member
    refine ⟨record, recorded, ?_⟩
    rw [Bundle.readRegion, stored]

/-- Alike networks save the same. -/
theorem save_of_alike (first second : Network κ) (alike : first.Alike second)
    (timestamp : UInt64) : first.save timestamp = second.save timestamp := by
  have topology (network : Network κ) : network.topology =
      ⟨(network.regions.map Region.essence).map (fun essence => ⟨essence.name, essence.type⟩),
        (network.links.map (fun link => (link.spec, link.pending))).map
          (fun pair => ⟨pair.1, pair.2⟩), network.iteration⟩ := by
    rw [List.map_map, List.map_map]
    rfl
  have regions (network : Network κ) (start : Bundle) :
      network.regions.foldlM (fun bundle region => do
        let record ← region.record
        liftBundle (bundle.writeRegion region.name record)) start =
      (network.regions.map Region.essence).foldlM (fun bundle essence => do
        let state ← Implementation.save essence.state
        liftBundle (bundle.writeRegion essence.name
          ⟨essence.type, essence.params, state, essence.outputs, essence.initialized⟩)) start := by
    rw [List.foldlM_map]
    congr 1
    funext bundle region
    simp only [Region.record, bind_assoc, pure_bind]
    rfl
  rw [save, save, regions, regions, topology, topology, alike.regions, alike.links,
    alike.iteration]

end RegionGraph.Network
