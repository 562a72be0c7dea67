import RegionGraph.Proofs.Admission
import RegionGraph.Proofs.Transparency
import RegionGraph.Proofs.Turns

/-!
# What survives rewiring

A network that was stopped may be changed and built again. The changes take away what they
name and no more: other regions keep what is lasting about them, but for the parameters that
they are given, and other links keep what is on its way. Building then comes upon regions
that were started, outputs that have their lengths and links that hold what they should, so
it has nothing to start, to allocate or to refill there.
-/

namespace RegionGraph

variable {κ : Type}

/-- A call that changes the topology or a parameter. A region is made by any registry. -/
inductive Change (κ : Type) where
  | addRegion (registry : Registry κ) (name type : String) (params : Params)
  | removeRegion (name : String)
  | addLink (spec : LinkSpec)
  | removeLink (id : LinkId)
  | setParameter (region name : String) (value : Value)

/-- No change removes the region. -/
def Region.Stays (region : Region κ) (changes : List (Change κ)) : Prop :=
  .removeRegion region.name ∉ changes

/-- No change gives the region a parameter. -/
def Region.Untouched (region : Region κ) (changes : List (Change κ)) : Prop :=
  ∀ name value, .setParameter region.name name value ∉ changes

/-- No change removes the link or a region at its ends. -/
structure Link.Stays (link : Link) (changes : List (Change κ)) : Prop where
  itself : .removeLink link.id ∉ changes
  source : .removeRegion link.spec.source ∉ changes
  destination : .removeRegion link.spec.destination ∉ changes

namespace Network

/-! ### What changes spare -/

/-- What changes leave of a network: the number of completed cycles, what is lasting about the
regions that stay, but for parameters that they were given, and the links that stay. The
network may be built still. -/
structure Spares (network next : Network κ) (changes : List (Change κ)) : Prop where
  iteration : next.iteration = network.iteration
  open_ : next.state = .unbuilt ∨ next.state = network.state
  regions : ∀ region ∈ network.regions, region.Stays changes → ∃ kept ∈ next.regions,
    kept.essence = { region.essence with params := kept.params, state := kept.state } ∧
      (region.Untouched changes → kept.essence = region.essence)
  links : ∀ link ∈ network.links, link.Stays changes → link ∈ next.links

/-- A change that gives no parameter spares what is lasting about all regions that stay. -/
theorem spares_of_essences (network next : Network κ) (change : Change κ)
    (iteration : next.iteration = network.iteration) (unbuilt : next.state = .unbuilt)
    (regions : ∀ region ∈ network.regions, region.Stays [change] →
      region.essence ∈ next.regions.map Region.essence)
    (links : ∀ link ∈ network.links, link.Stays [change] → link ∈ next.links) :
    network.Spares next [change] where
  iteration := iteration
  open_ := Or.inl unbuilt
  regions := by
    intro region member stays
    obtain ⟨kept, present, same⟩ := List.mem_map.mp (regions region member stays)
    refine ⟨kept, present, ?_, fun _ => same⟩
    rw [← same]
    rfl
  links := links

/-- Adding a region spares all. -/
theorem spares_insertRegion (network : Network κ) (region : Region κ) (change : Change κ) :
    network.Spares (network.insertRegion region) [change] := by
  refine network.spares_of_essences _ change rfl rfl ?_ (fun link member _ => member)
  intro other member _
  rw [Region.essence_linkFree.map_insertRegion]
  exact List.mem_append_left _ (List.mem_map_of_mem member)

/-- Making a link spares all. -/
theorem spares_joined (network : Network κ) (spec : LinkSpec) (change : Change κ) :
    network.Spares (network.joined spec) [change] := by
  refine network.spares_of_essences _ change rfl rfl ?_
    (fun link member _ => List.mem_append_left _ member)
  intro region member _
  rw [Region.essence_linkFree.map_joined]
  exact List.mem_map_of_mem member

/-- Removing a link spares all other links. -/
theorem spares_without (network : Network κ) (id : LinkId) :
    network.Spares (network.without [id]).invalidated [.removeLink id] := by
  refine network.spares_of_essences _ _ rfl rfl ?_ ?_
  · intro region member _
    rw [Region.essence_linkFree.map_invalidated, Region.essence_linkFree.map_without]
    exact List.mem_map_of_mem member
  · intro link member stays
    refine List.mem_filter.mpr ⟨member, ?_⟩
    have other : link.id ≠ id := by
      rintro rfl
      exact stays.itself (List.mem_singleton_self _)
    simpa using other

/-- Removing a region spares the other regions and the links between them. -/
theorem spares_withoutRegion (network : Network κ) (sound : network.wiring.Sound) (name : String) :
    network.Spares (network.withoutRegion name) [.removeRegion name] := by
  have elsewhere {other : String} (stays : Change.removeRegion other ∉ [.removeRegion (κ := κ) name]) :
      other ≠ name := by
    rintro rfl
    exact stays (List.mem_singleton_self _)
  refine network.spares_of_essences _ _ rfl rfl ?_ ?_
  · intro region member stays
    rw [Region.essence_linkFree.map_withoutRegion]
    exact List.mem_map_of_mem
      (List.mem_filter.mpr ⟨member, decide_eq_true (elsewhere stays)⟩)
  · intro link member stays
    refine List.mem_filter.mpr ⟨member, ?_⟩
    have away : link.id ∉ network.incident name :=
      (network.not_mem_incident_iff sound name link member).mpr
        ⟨elsewhere stays.source, elsewhere stays.destination⟩
    simpa using away

/-- An output of a region that stays has its contents when the changes are done. -/
theorem Spares.output {network next : Network κ} {changes : List (Change κ)}
    (spares : network.Spares next changes) (region : Region κ) (member : region ∈ network.regions)
    (stays : region.Stays changes) (name : String) (output : Endpoint)
    (found : region.outputs.get? name = some output) :
    ∃ kept ∈ next.regions, ∃ endpoint, kept.name = region.name ∧
      kept.initialized = region.initialized ∧ kept.outputs.get? name = some endpoint ∧
      endpoint.buffer = output.buffer := by
  obtain ⟨kept, present, same, _⟩ := spares.regions region member stays
  have buffers := congrArg (fun essence => essence.outputs.get? name) same
  simp only [Region.essence, NameMap.get?_map, found, Option.map_some, Option.map_eq_some_iff]
    at buffers
  obtain ⟨endpoint, here, buffer⟩ := buffers
  exact ⟨kept, present, endpoint, congrArg Essence.name same, congrArg Essence.initialized same,
    here, buffer⟩

/-- What two series of changes spare is spared by both together. -/
theorem Spares.trans {network middle next : Network κ} {first second : List (Change κ)}
    (earlier : network.Spares middle first) (later : middle.Spares next second) :
    network.Spares next (first ++ second) where
  iteration := later.iteration.trans earlier.iteration
  open_ := by
    rcases later.open_ with unbuilt | same
    · exact Or.inl unbuilt
    · exact same ▸ earlier.open_
  regions := by
    intro region member stays
    obtain ⟨kept, present, same, untouched⟩ := earlier.regions region member
      (fun listed => stays (List.mem_append_left _ listed))
    have name : kept.name = region.name := congrArg Essence.name same
    obtain ⟨last, here, alike, still⟩ := later.regions kept present
      (fun listed => stays (List.mem_append_right _ (name ▸ listed)))
    refine ⟨last, here, ?_, fun free => ?_⟩
    · rw [alike, same]
    · refine (still fun name value listed => ?_).trans (untouched fun name value listed => ?_)
      · exact free name value (List.mem_append_right _ (by rwa [‹kept.name = _›] at listed))
      · exact free name value (List.mem_append_left _ listed)
  links := by
    intro link member stays
    refine later.links link (earlier.links link member ⟨?_, ?_, ?_⟩) ⟨?_, ?_, ?_⟩
    · exact fun listed => stays.itself (List.mem_append_left _ listed)
    · exact fun listed => stays.source (List.mem_append_left _ listed)
    · exact fun listed => stays.destination (List.mem_append_left _ listed)
    · exact fun listed => stays.itself (List.mem_append_right _ listed)
    · exact fun listed => stays.source (List.mem_append_right _ listed)
    · exact fun listed => stays.destination (List.mem_append_right _ listed)

/-! ### Changes -/

/-- The network after an edit that succeeds. -/
def edited {α : Type} (network : Network κ) (edit : Edit κ α) : Except GraphError (Network κ) :=
  (edit.run network).1.map (fun _ => (edit.run network).2)

/-- An edit that succeeds. -/
theorem edited_ok_iff {α : Type} (network next : Network κ) (edit : Edit κ α) :
    network.edited edit = .ok next ↔ ∃ value, edit.run network = (.ok value, next) := by
  unfold edited
  rcases edit.run network with ⟨outcome, after⟩
  constructor
  · intro done
    obtain ⟨value, rfl, rfl⟩ := (Traversal.map_ok_iff _ _ _).mp done
    exact ⟨value, rfl⟩
  · rintro ⟨value, ran⟩
    cases ran
    rfl

variable [Implementation κ]

/-- The network after a change that succeeds. -/
def change (network : Network κ) : Change κ → Except GraphError (Network κ)
  | .addRegion registry name type params =>
    ((addRegion name type params).run (registry, network)).1.map
      (fun _ => network.added registry name type params)
  | .removeRegion name => network.edited (removeRegion name)
  | .addLink spec => network.edited (addLink spec)
  | .removeLink id => network.edited (removeLink id)
  | .setParameter region name value => network.edited (setParameter region name value)

/-- The network after changes that all succeed. -/
def changeAll (network : Network κ) (changes : List (Change κ)) : Except GraphError (Network κ) :=
  changes.foldlM change network

/-- Adding a region is a change where it succeeds. -/
theorem change_addRegion_iff (network next : Network κ) (registry : Registry κ)
    (name type : String) (params : Params) :
    network.change (.addRegion registry name type params) = .ok next ↔
      ∃ later, (addRegion name type params).run (registry, network) = (.ok (), later, next) := by
  rw [change, added]
  rcases (addRegion name type params).run (registry, network) with ⟨outcome, later, after⟩
  constructor
  · intro done
    obtain ⟨_, rfl, rfl⟩ := (Traversal.map_ok_iff _ _ _).mp done
    exact ⟨later, rfl⟩
  · rintro ⟨_, ran⟩
    cases ran
    rfl

/-- A change that succeeds is a call of an operation. -/
theorem step_of_change (network next : Network κ) (change : Change κ)
    (changed : network.change change = .ok next) : Step (fun _ => True) network next := by
  have edits {α : Type} (edit : Edit κ α) (done : network.edited edit = .ok next) :
      next = (edit.run network).2 := by
    obtain ⟨value, ran⟩ := (network.edited_ok_iff next edit).mp done
    rw [ran]
  cases change with
  | addRegion registry name type params =>
    obtain ⟨later, outcome⟩ :=
      (network.change_addRegion_iff next registry name type params).mp changed
    have made : network.added registry name type params = next := by rw [added, outcome]
    exact made ▸ .addRegion network registry name type params trivial
  | removeRegion name => exact edits _ changed ▸ .removeRegion network name
  | addLink spec => exact edits _ changed ▸ .addLink network spec
  | removeLink id => exact edits _ changed ▸ .removeLink network id
  | setParameter region name value => exact edits _ changed ▸ .setParameter network region name value

/-- Changes keep the wiring sound. -/
theorem sound_change (network next : Network κ) (sound : network.wiring.Sound) (change : Change κ)
    (changed : network.change change = .ok next) : next.wiring.Sound :=
  (step_follows _ network next (network.step_of_change next change changed) sound).sound

/-- Setting a parameter spares all but the parameters and the state of the region. -/
theorem spares_setRegion (network : Network κ) (indexed : network.Indexed) (owner : Region κ)
    (member : owner ∈ network.regions) (changed : Region κ) (name : String) (value : Value)
    (accepted : owner.setParameter name value = (changed, .ok ())) :
    network.Spares (network.setRegion owner.name changed)
      [.setParameter owner.name name value] := by
  rw [network.setRegion_eq indexed]
  refine ⟨rfl, Or.inr rfl, ?_, fun link member _ => member⟩
  intro region present _
  refine ⟨_, List.mem_map_of_mem present, ?_⟩
  split
  · rename_i named
    obtain rfl := network.region_unique indexed region owner present member named
    obtain ⟨_, _, _, _, _, _, _, rfl⟩ := region.setParameter_ok changed name value accepted
    exact ⟨rfl, fun untouched => absurd (List.mem_singleton_self _) (untouched name value)⟩
  · exact ⟨rfl, fun _ => rfl⟩

/-- A change that succeeds spares what it does not name. -/
theorem spares_change (network next : Network κ) (sound : network.wiring.Sound) (change : Change κ)
    (changed : network.change change = .ok next) : network.Spares next [change] := by
  have indexed := network.indexed_of_sound sound
  cases change with
  | addRegion registry name type params =>
    obtain ⟨later, outcome⟩ :=
      (network.change_addRegion_iff next registry name type params).mp changed
    obtain ⟨_, _, _, _, _, _, _, rfl⟩ :=
      network.addRegion_ok next registry later name type params outcome
    exact network.spares_insertRegion _ _
  | removeRegion name =>
    obtain ⟨_, ran⟩ := (network.edited_ok_iff next _).mp changed
    rw [network.run_removeRegion sound name] at ran
    split at ran <;> cases ran
    exact network.spares_withoutRegion sound name
  | addLink spec =>
    obtain ⟨_, ran⟩ := (network.edited_ok_iff next _).mp changed
    rw [network.run_addLink sound spec] at ran
    split at ran <;> cases ran
    exact network.spares_joined _ _
  | removeLink id =>
    obtain ⟨_, ran⟩ := (network.edited_ok_iff next _).mp changed
    rw [network.run_removeLink sound id] at ran
    split at ran <;> cases ran
    exact network.spares_without id
  | setParameter region name value =>
    obtain ⟨_, ran⟩ := (network.edited_ok_iff next _).mp changed
    rw [network.run_setParameter region name value] at ran
    split at ran
    · cases ran
    · rename_i owner found
      obtain ⟨member, rfl⟩ := (network.region_ok_iff indexed region owner).mp found
      obtain ⟨result, rfl⟩ := Prod.mk.inj ran
      exact network.spares_setRegion indexed owner member _ name value (Prod.ext rfl result)

/-- Changes that succeed keep the wiring sound and spare what they do not name. -/
theorem spares_changeAll (changes : List (Change κ)) (network next : Network κ)
    (sound : network.wiring.Sound) (changed : network.changeAll changes = .ok next) :
    next.wiring.Sound ∧ network.Spares next changes := by
  induction changes generalizing network with
  | nil =>
    cases changed
    exact ⟨sound, rfl, Or.inr rfl, fun region member _ => ⟨region, member, rfl, fun _ => rfl⟩,
      fun link member _ => member⟩
  | cons change rest inductionHypothesis =>
    rw [changeAll, List.foldlM_cons] at changed
    obtain ⟨middle, first, others⟩ := (Traversal.bind_ok_iff _ _ _).mp changed
    obtain ⟨soundNext, later⟩ := inductionHypothesis middle
      (network.sound_change middle sound change first) others
    exact ⟨soundNext, (network.spares_change middle sound change first).trans later⟩

/-! ### Building what stayed -/

/-- Building does nothing to a region that was started but giving it its lengths. -/
theorem region_builtBy (network : Network κ) (sound : network.wiring.Sound) (plan : Plan)
    (region : Region κ) (member : region ∈ network.regions) (started : region.initialized = true) :
    ∃ index, network.regions[index]? = some region ∧
      (network.builtBy plan).region region.name = .ok (sizedRegion plan region index) := by
  obtain ⟨index, found⟩ := List.mem_iff_getElem?.mp member
  have names := (names_of_frames _ _ (network.frames_builtBy plan)).trans
    (network.sized_keeps plan).1
  have indexed : (network.builtBy plan).Indexed := by
    unfold Indexed
    rw [names]
    exact network.indexed_of_sound sound
  refine ⟨index, found, ((network.builtBy plan).region_ok_iff indexed _ _).mpr ⟨?_, rfl⟩⟩
  have sized : sizedRegion plan region index ∈ (network.sized plan).regions := by
    refine List.mem_of_getElem? (i := index) ?_
    simp only [Network.sized, sizedRegions, List.getElem?_mapIdx, found, Option.map_some]
  refine List.mem_map.mpr ⟨_, sized, ?_⟩
  rw [start_of_initialized (sizedRegion plan region index) started]

/-- An output with storage that is given the length it has is left as it is. -/
theorem sizedRegion_output (network : Network κ) (sound : network.wiring.Sound) (plan : Plan)
    (planned : network.plan = .ok plan) (index : Nat) (region : Region κ)
    (found : network.regions[index]? = some region) (name : String) (output : Endpoint)
    (present : region.outputs.get? name = some output) (storage : output.buffer.allocated = true)
    (resolved : network.Resolves region.name name output.buffer.length) :
    (sizedRegion plan region index).outputs.get? name = some output := by
  have here := network.position?_of_stands (network.indexed_of_sound sound) index region found
  obtain ⟨place, position, counted⟩ :=
    ((network.finds_of_plan sound plan planned).told _ _ _).mp resolved
  cases here.symm.trans position
  rw [told] at counted
  have kept : output.buffer.sized output.buffer.length = output.buffer := if_pos ⟨storage, rfl⟩
  simp only [sizedRegion, Region.sized, NameMap.get?_map, present, Option.map_some, counted,
    Option.getD_some, kept]

/-- What stayed through changes of a network is the same after the changed network was built. -/
structure Survives (network rewired after : Network κ) (changes : List (Change κ)) : Prop where
  regions : ∀ region ∈ network.regions, region.Stays changes → region.Untouched changes →
    ∃ kept, after.region region.name = .ok kept ∧ kept.state = region.state ∧
      kept.params = region.params ∧ kept.initialized = region.initialized
  outputs : ∀ region ∈ network.regions, region.Stays changes → ∀ name output,
    region.outputs.get? name = some output →
    rewired.Resolves region.name name output.buffer.length ∨ rewired.IsRead region.name name →
    after.readOutput region.name name = .ok output.buffer
  links : ∀ link ∈ network.links, link.Stays changes → link ∈ after.links
  iteration : after.iteration = network.iteration

section Survival

variable {network rewired after : Network κ} {changes : List (Change κ)}
  (sound : network.wiring.Sound) (order : List Nat) (built : network.Built order)
  (spares : network.Spares rewired changes) (soundRewired : rewired.wiring.Sound) (plan : Plan)
  (planned : rewired.plan = .ok plan)

include built spares soundRewired planned

/-- An output of a region that stays keeps its contents if it is given its length or is read. -/
theorem survives_output (region : Region κ) (member : region ∈ network.regions)
    (stays : region.Stays changes) (name : String) (output : Endpoint)
    (found : region.outputs.get? name = some output)
    (keeps : rewired.Resolves region.name name output.buffer.length ∨
      rewired.IsRead region.name name) :
    ∃ index kept endpoint, rewired.regions[index]? = some kept ∧ kept.name = region.name ∧
      (rewired.builtBy plan).region region.name = .ok (sizedRegion plan kept index) ∧
      (sizedRegion plan kept index).outputs.get? name = some endpoint ∧
      endpoint.buffer = output.buffer := by
  obtain ⟨kept, present, endpoint, named, started, here, buffer⟩ :=
    spares.output region member stays name output found
  have storage : endpoint.buffer.allocated = true :=
    buffer ▸ built.shaped.outputs region member name output found
  have resolved : rewired.Resolves kept.name name endpoint.buffer.length := by
    rcases keeps with resolved | read
    · rw [named, buffer]
      exact resolved
    · have admissible := rewired.admissible_of_plan soundRewired plan planned
      exact admissible.keeping kept present name endpoint here storage (named ▸ read)
  obtain ⟨index, stands, reached⟩ := rewired.region_builtBy soundRewired plan kept present
    (started.trans (built.started region member))
  rw [named] at reached
  exact ⟨index, kept, endpoint, stands, named, reached, rewired.sizedRegion_output soundRewired
    plan planned index kept stands name endpoint here storage resolved, buffer⟩

include sound

/-- A link that stays starts from the contents that it started from. -/
theorem survives_live (link : Link) (member : link ∈ network.links) (stays : link.Stays changes) :
    (rewired.sizedRegions plan).live link = network.live link := by
  obtain ⟨source, present, _, _, output, _, named, found, _⟩ := network.link_ends sound link member
  have read : rewired.IsRead source.name link.spec.output :=
    ⟨link, spares.links link member stays, named.symm, rfl⟩
  obtain ⟨index, kept, endpoint, stands, same, _, here, buffer⟩ :=
    survives_output order built spares soundRewired plan planned source present
      (by rw [Region.Stays, named]; exact stays.source) link.spec.output output found (Or.inr read)
  have indexed := (rewired.sizedRegions plan).indexed_of_sound
    (rewired.wiring_sizedRegions plan ▸ soundRewired)
  obtain ⟨place, formerly⟩ := List.mem_iff_getElem?.mp present
  have sized : (rewired.sizedRegions plan).regions[index]? = some (sizedRegion plan kept index) := by
    simp only [sizedRegions, List.getElem?_mapIdx, stands, Option.map_some]
  rw [live_of_position _ indexed link index _ sized (same.trans named), here,
    network.live_of_position (network.indexed_of_sound sound) link place source formerly named,
    found]
  exact buffer

/-- Building a changed network keeps what stayed. -/
theorem survives_of_spares : network.Survives rewired (rewired.builtBy plan) changes where
  regions := by
    intro region member stays untouched
    obtain ⟨kept, present, _, still⟩ := spares.regions region member stays
    have same := still untouched
    obtain ⟨index, _, reached⟩ := rewired.region_builtBy soundRewired plan kept present
      ((congrArg Essence.initialized same).trans (built.started region member))
    rw [show kept.name = region.name from congrArg Essence.name same] at reached
    exact ⟨_, reached, congrArg Essence.state same, congrArg Essence.params same,
      congrArg Essence.initialized same⟩
  outputs := by
    intro region member stays name output found keeps
    obtain ⟨index, kept, endpoint, _, _, reached, here, buffer⟩ :=
      survives_output order built spares soundRewired plan planned region member stays name output
        found keeps
    simp only [readOutput, reached, Traversal.ok_bind, Region.output, here, buffer]
    rfl
  links := by
    intro link member stays
    refine List.mem_map.mpr ⟨link, spares.links link member stays, ?_⟩
    split
    · rename_i delayed
      obtain ⟨count, like⟩ := built.shaped.pending link member delayed
      refine link.prepare_eq_self _ count fun snapshot listed => ?_
      rw [survives_live sound order built spares soundRewired plan planned link member stays]
      exact like snapshot listed
    · rfl
  iteration := spares.iteration

end Survival

/-- Rewiring loses nothing that is not removed. Let a reachable network be stopped, changed
by any calls that succeed, and built again with success. A region that was neither removed
nor given a parameter has the state, the parameters and the mark of having been started that
it had. An output of a region that was not removed has the contents that it had if it is
given the length that it had, or if a link leaves it. A link that was not removed, neither
itself nor with a region, has the snapshots that it had. And the number of completed cycles
is the same.

Each change spares what it does not name, and changes that spare one thing after the other spare
it together, which is the induction over the list of changes. Building again gives lengths,
which keeps contents of the right length, and starts regions, of which those started before are
passed over. -/
theorem survives_of_reachable (usable : Registry κ → Prop) (network rewired after : Network κ)
    (reachable : Reachable usable network) (stopped : network.state = .stopped)
    (changes : List (Change κ)) (changed : network.changeAll changes = .ok rewired)
    (rebuilt : (build (κ := κ)).run rewired = (.ok (), after)) :
    network.Survives rewired after changes := by
  have sound := sound_of_reachable usable network reachable
  have settled := settled_of_reachable usable network reachable
  obtain ⟨order, ordered⟩ : ∃ order, network.order = some order := by
    rcases Option.eq_none_or_eq_some network.order with absent | ordered
    · cases stopped.symm.trans (settled.fresh absent)
    · exact ordered
  obtain ⟨soundRewired, spares⟩ := spares_changeAll changes network rewired sound changed
  have open_ : rewired.state = .unbuilt ∨ rewired.state = .stopped := stopped ▸ spares.open_
  rw [rewired.build_of_open open_] at rebuilt
  obtain ⟨plan, planned, _, rfl⟩ := (rewired.rebuilt_ok_iff after soundRewired).mp rebuilt
  exact survives_of_spares sound order (settled.built order ordered) spares soundRewired plan
    planned

/-- A chain beside a source that feeds nothing, stopped after three cycles with two snapshots
on their way. -/
def stoppedChain : Network Builtin :=
  let registry := Registry.registerAll ∅ Builtin.types
  let regions := (((new default).added registry "idle" "CounterSource" ∅).added registry "source"
    "CounterSource" ∅).added registry "sink" "Incrementer" ∅
  let linked := ((addLink { LinkSpec.betweenDefaults "source" "sink" with delay := 2 }).run
    regions).2
  let built := ((build (κ := Builtin)).run linked).2
  ((stop (κ := Builtin)).run (built.run 3 ([] : List Empty)).network).2

/-- The source that feeds nothing gives way to an accumulator, which adds up what the sink of the
chain shows, after the sink got another increment. -/
def replacement : List (Change Builtin) :=
  [.removeRegion "idle", .setParameter "sink" "increment" (.scalar ⟨.int32, 5⟩),
    .addRegion (Registry.registerAll ∅ Builtin.types) "total" "Accumulator" ∅,
    .addLink (.betweenDefaults "sink" "total"), .addLink (.betweenDefaults "source" "total"),
    .removeLink ⟨2⟩]

/-- The chain survives the replacement. -/
theorem survives_stoppedChain : ∃ rewired after, stoppedChain.state = .stopped ∧
    stoppedChain.changeAll replacement = .ok rewired ∧
    (build (κ := Builtin)).run rewired = (.ok (), after) ∧
    stoppedChain.Survives rewired after replacement ∧
    (∃ link ∈ after.links, link.pending.length = 2) ∧ after.iteration = 3 := by
  have empty : Reachable (fun _ => True) (Network.new default : Network Builtin) := .new default
  have idle := Reachable.step _ _ empty
    (.addRegion _ (Registry.registerAll ∅ Builtin.types) "idle" "CounterSource" ∅ trivial)
  have source := Reachable.step _ _ idle
    (.addRegion _ (Registry.registerAll ∅ Builtin.types) "source" "CounterSource" ∅ trivial)
  have sink := Reachable.step _ _ source
    (.addRegion _ (Registry.registerAll ∅ Builtin.types) "sink" "Incrementer" ∅ trivial)
  have linked := Reachable.step _ _ sink
    (.addLink _ { LinkSpec.betweenDefaults "source" "sink" with delay := 2 })
  have ran := Reachable.step _ _ (.step _ _ linked (.build _)) (.run Empty _ 3 [])
  have reachable : Reachable (fun _ => True) stoppedChain := .step _ _ ran (.stop _)
  have stopped : stoppedChain.state = .stopped := by decide +kernel
  have succeeds : (stoppedChain.changeAll replacement >>= fun rewired =>
      ((build (κ := Builtin)).run rewired).1) = .ok () := by decide +kernel
  obtain ⟨rewired, changed, built⟩ := (Traversal.bind_ok_iff _ _ _).mp succeeds
  have survives := survives_of_reachable (fun _ => True) stoppedChain rewired _ reachable stopped
    replacement changed (Prod.ext built rfl)
  refine ⟨rewired, _, stopped, changed, Prod.ext built rfl, survives, ?_, ?_⟩
  · have pending : ∃ link ∈ stoppedChain.links, link.pending.length = 2 ∧ link.id = ⟨0⟩ ∧
        link.spec.source = "source" ∧ link.spec.destination = "sink" := by decide +kernel
    obtain ⟨link, member, held, id, leaves, enters⟩ := pending
    refine ⟨link, survives.links link member ⟨?_, ?_, ?_⟩, held⟩
    · simp [replacement, id]
    · simp [replacement, leaves]
    · simp [replacement, enters]
  · have counted : stoppedChain.iteration = 3 := by decide +kernel
    exact survives.iteration.trans counted

end Network

end RegionGraph
