import RegionGraph.Proofs.Cycles

/-!
# Turns in a cycle

In a cycle every region computes once. What its computation gets to see is what the
regions earlier in the order have left, and what it leaves is not touched by the
regions later in the order. The source of a direct link has its turn before the
reader, so the reader sees the contents that the source keeps to the end of the cycle.
-/

namespace RegionGraph

variable {κ ω : Type}

namespace Network

/-- The live contents of a link are read off the region at the position of its source. -/
theorem live_of_position (network : Network κ) (indexed : network.Indexed) (link : Link)
    (index : Nat) (region : Region κ) (found : network.regions[index]? = some region)
    (named : region.name = link.spec.source) :
    network.live link =
      match region.outputs.get? link.spec.output with
      | some output => output.buffer
      | none => default := by
  have located := (network.region_ok_iff indexed link.spec.source region).mpr
    ⟨List.mem_of_getElem? found, named⟩
  simp only [live, sourceBuffer, located, Traversal.ok_bind, Region.output]
  cases region.outputs.get? link.spec.output <;> rfl

/-- Networks with one region at the source of a link show the same live contents. -/
theorem live_of_same_source (first second : Network κ) (indexedFirst : first.Indexed)
    (indexedSecond : second.Indexed) (link : Link) (index : Nat) (region : Region κ)
    (found : first.regions[index]? = some region)
    (same : second.regions[index]? = first.regions[index]?)
    (named : region.name = link.spec.source) : second.live link = first.live link := by
  rw [first.live_of_position indexedFirst link index region found named,
    second.live_of_position indexedSecond link index region (same.trans found) named]

/-- An order in which every region has one turn, and in which the source of a direct link has
its turn before the reader. -/
structure Topological (network : Network κ) (order : List Nat) : Prop where
  perm : order.Perm (List.range network.regions.length)
  earlier : ∀ link ∈ network.links, link.isDelayed = false → ∀ source reader,
    network.position link.spec.source = .ok source →
    network.position link.spec.destination = .ok reader →
    source ∈ order.takeWhile (· ≠ reader)

/-- In a topological order no region has a second turn. -/
theorem Topological.once {network : Network κ} {order : List Nat}
    (topological : network.Topological order) {earlier later : List Nat} {index : Nat}
    (split : order = earlier ++ index :: later) :
    (∀ position ∈ earlier, position ∉ index :: later) ∧ index ∉ earlier ∧ index ∉ later := by
  have distinct : order.Nodup := topological.perm.nodup_iff.mpr List.nodup_range
  rw [split, List.nodup_append] at distinct
  obtain ⟨_, rest, apart⟩ := distinct
  have past : ∀ position ∈ earlier, position ∉ index :: later :=
    fun position before repeated => apart position before position repeated rfl
  exact ⟨past, fun member => past index member List.mem_cons_self, (List.nodup_cons.mp rest).1⟩

/-- The order of a built network is topological. -/
theorem topological_of_built (network : Network κ) (sound : network.wiring.Sound)
    (order : List Nat) (built : network.Built order) : network.Topological order := by
  obtain ⟨schedule, scheduled, rfl⟩ := built.scheduled
  refine ⟨network.schedule_perm schedule scheduled, ?_⟩
  intro link member direct source reader sourceFound readerFound
  obtain ⟨graph, drawn, scheduled⟩ := (Traversal.bind_ok_iff _ _ _).mp scheduled
  obtain ⟨edges, paired, made⟩ := (Traversal.bind_ok_iff _ _ _).mp drawn
  cases made
  cases ordered : Schedule.ofGraph ⟨network.regions.length, edges⟩ with
  | error members =>
    simp only [ordered] at scheduled
    cases scheduled
  | ok other =>
    simp only [ordered] at scheduled
    cases scheduled
    have listed : link ∈ network.links.filter (fun link => !link.isDelayed) := by
      rw [List.mem_filter, direct]
      exact ⟨member, rfl⟩
    obtain ⟨place, placed⟩ := List.getElem?_of_mem listed
    obtain ⟨edge, edgeFound, joins⟩ := Traversal.mapM_getElem? _ _ _ paired place link placed
    rw [sourceFound, readerFound] at joins
    cases joins
    obtain ⟨_, there, _⟩ :=
      (network.position_ok_iff (network.indexed_of_sound sound) _ reader).mp readerFound
    exact (Schedule.ofGraph_ok _ _ ordered).2 source reader (List.getElem?_eq_some_iff.mp there).1
      (List.mem_of_getElem? edgeFound)

/-- The names of regions are part of the wiring. -/
theorem names_of_wiring (first second : Network κ) (same : first.wiring = second.wiring) :
    first.regions.map Region.name = second.regions.map Region.name := by
  have read (network : Network κ) :
      network.regions.map Region.name = network.wiring.nodes.map Node.name := by
    rw [wiring, List.map_map]
    rfl
  rw [read, read, same]

/-- Which orders are topological is told by the wiring. -/
theorem topological_of_wiring (first second : Network κ) (order : List Nat)
    (same : second.wiring = first.wiring) (topological : first.Topological order) :
    second.Topological order := by
  have count : second.regions.length = first.regions.length := by
    simpa only [List.length_map] using congrArg List.length (names_of_wiring second first same)
  have index : second.index = first.index := congrArg Wiring.index same
  refine ⟨count ▸ topological.perm, ?_⟩
  intro link member direct source reader sourceFound readerFound
  have listed : (link.id, link.spec) ∈ first.wiring.links :=
    same ▸ List.mem_map_of_mem member
  obtain ⟨former, present, told⟩ := List.mem_map.mp listed
  have spec : former.spec = link.spec := congrArg Prod.snd told
  unfold position position? at sourceFound readerFound
  rw [index, ← spec] at sourceFound readerFound
  refine topological.earlier former present ?_ source reader sourceFound readerFound
  unfold Link.isDelayed Link.delay at direct ⊢
  rw [spec]
  exact direct

/-- In a topological order the source of a direct link comes before the reader. -/
theorem direct_source_earlier (network : Network κ) (sound : network.wiring.Sound)
    (order : List Nat) (topological : network.Topological order) (link : Link)
    (member : link ∈ network.links) (direct : link.isDelayed = false) (earlier later : List Nat)
    (index : Nat) (region : Region κ) (split : order = earlier ++ index :: later)
    (found : network.regions[index]? = some region)
    (reader : region.name = link.spec.destination) :
    ∃ position ∈ earlier, ∃ source, network.regions[position]? = some source ∧
      source.name = link.spec.source := by
  have indexed := network.indexed_of_sound sound
  obtain ⟨source, sourceMember, _, _, _, _, named, _⟩ := network.link_ends sound link member
  obtain ⟨position, sourceFound⟩ := List.mem_iff_getElem?.mp sourceMember
  have before := topological.earlier link member direct position index
    ((network.position_ok_iff indexed _ position).mpr ⟨source, sourceFound, named⟩)
    ((network.position_ok_iff indexed _ index).mpr ⟨region, found, reader⟩)
  have front : (earlier ++ index :: later).takeWhile (fun vertex => vertex ≠ index) = earlier := by
    rw [List.takeWhile_append_of_pos]
    · rw [List.takeWhile_cons_of_neg (by simp), List.append_nil]
    · intro vertex listed
      rw [decide_eq_true_iff]
      rintro rfl
      exact (topological.once split).2.1 listed
  rw [split, front] at before
  exact ⟨position, before, source, sourceFound, named⟩

variable [Implementation κ]

/-- Computing in order is computing a first part of the order and then the rest. -/
theorem run_stepAll_append (first second : List Nat) (network : Network κ) :
    (stepAll (first ++ second)).run network =
      match (stepAll first).run network with
      | (.ok _, after) => (stepAll second).run after
      | (.error fault, after) => (.error fault, after) := by
  induction first generalizing network with
  | nil => rfl
  | cons index rest inductionHypothesis =>
    rw [List.cons_append, run_stepAll_cons, run_stepAll_cons]
    rcases (step index).run network with ⟨outcome, after⟩
    cases outcome with
    | error fault => rfl
    | ok _ => exact inductionHypothesis after

/-- A region whose turn does not come stays as it is. -/
theorem stepAll_elsewhere (order : List Nat) (network : Network κ) (index : Nat)
    (absent : index ∉ order) :
    ((stepAll order).run network).2.regions[index]? = network.regions[index]? := by
  refine stepAll_keeps (fun after => after.regions[index]? = network.regions[index]?) order ?_
    (fun _ stays => stays) network rfl
  intro current first listed stays
  have apart : first ≠ index := fun same => absent (same ▸ listed)
  rcases step_cases first current with unchanged | ⟨_, _, changed, effect, _⟩
  · rw [unchanged]
    exact stays
  · rw [effect]
    exact (List.getElem?_set_ne apart).trans stays

/-- What regions that compute in order leave as it was. -/
structure Aftermath (network after : Network κ) (order : List Nat) : Prop where
  wiring : after.wiring = network.wiring
  links : after.links = network.links
  iteration : after.iteration = network.iteration
  shaped : network.Shaped → after.Shaped
  elsewhere : ∀ index ∉ order, after.regions[index]? = network.regions[index]?

/-- Computing in order leaves wiring, links, shape and other regions as they were. -/
theorem aftermath_stepAll (order : List Nat) (network : Network κ) :
    network.Aftermath ((stepAll order).run network).2 order := by
  obtain ⟨links, iteration, _⟩ := links_stepAll order network
  exact ⟨wiring_stepAll order network, links, iteration, shaped_stepAll order network,
    stepAll_elsewhere order network⟩

/-- The turn of a region in a cycle: regions that are earlier in the order have
computed, the inputs are filled, and the region computes. -/
structure Turn (network : Network κ) (order : List Nat) (index : Nat) (region : Region κ)
    (middle : Network κ) (filled : Region κ) : Prop where
  reached : ∃ earlier later, order = earlier ++ index :: later ∧ index ∉ earlier ∧
    index ∉ later ∧ (stepAll earlier).run network = (.ok (), middle)
  found : middle.regions[index]? = some region
  fills : middle.fillInputs region = (.ok (), filled)
  succeeds : (Implementation.compute filled.state (filled.exchange middle.iteration)).result =
    .ok ()

/-- In a cycle in which all regions computed every region has had its turn, and keeps
what it made of it. -/
theorem turn_of_computed (order : List Nat) (network after : Network κ)
    (sound : network.wiring.Sound) (shaped : network.Shaped)
    (topological : network.Topological order)
    (computed : (stepAll order).run network = (.ok (), after)) (index : Nat) (region : Region κ)
    (found : network.regions[index]? = some region) :
    ∃ middle filled, network.Turn order index region middle filled ∧
      after.regions[index]? =
        some (filled.compute middle.iteration middle.settings.profiling).1 := by
  have inside := (List.getElem?_eq_some_iff.mp found).1
  have perm := topological.perm
  have listed : index ∈ order := by
    rw [perm.mem_iff, List.mem_range]
    exact inside
  obtain ⟨earlier, later, split⟩ := List.append_of_mem listed
  obtain ⟨_, absentEarlier, absentLater⟩ := topological.once split
  have kept := aftermath_stepAll earlier network
  rw [split, run_stepAll_append] at computed
  rcases reached : (stepAll earlier).run network with ⟨outcome, middle⟩
  rw [reached] at computed kept
  have stays := kept.elsewhere index absentEarlier
  cases outcome with
  | error fault => cases computed
  | ok _ =>
    obtain ⟨filled, fills, ran⟩ := middle.step_of_shaped (kept.wiring ▸ sound)
      (kept.shaped shaped) index region (stays.trans found)
    simp only [run_stepAll_cons, ran] at computed
    cases answer : (Implementation.compute filled.state
        (filled.exchange middle.iteration)).result with
    | error fault =>
      rw [answer] at computed
      cases computed
    | ok _ =>
      rw [answer] at computed
      simp only at computed
      refine ⟨middle, filled, ⟨⟨earlier, later, split, absentEarlier, absentLater, reached⟩,
        stays.trans found, fills, answer⟩, ?_⟩
      have kept := stepAll_elsewhere later { middle with
        regions := middle.regions.set index
          (filled.compute middle.iteration middle.settings.profiling).1 } index absentLater
      rw [computed] at kept
      have position := (List.getElem?_eq_some_iff.mp (stays.trans found)).1
      rw [kept, List.getElem?_set_self position]

end Network

end RegionGraph
