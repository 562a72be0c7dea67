import Mathlib.Data.List.Pairwise
import RegionGraph.Builtin.Basic
import RegionGraph.Proofs.Loading

/-!
# Reachable networks

A network is reachable if it was made empty or loaded from any bundle, and then
changed by any operations in any order, each of which may have succeeded or
failed, with implementations and watchers that do what they like. The wiring of
every reachable network is sound; what that means for regions, links and the
lists at endpoints is said in the words of the network itself.
-/

namespace RegionGraph

variable {κ : Type}

/-- What is asked for when a region is added. -/
structure Declaration where
  name : String
  type : String
  params : Params

namespace Network

/-- The network after a call that is to add a region. -/
def added (network : Network κ) (registry : Registry κ) (name type : String) (params : Params) :
    Network κ :=
  ((addRegion name type params).run (registry, network)).2.2

/-- A call that is to add a region leaves the network as it was, or it succeeds. -/
theorem added_cases (network : Network κ) (registry : Registry κ) (name type : String)
    (params : Params) :
    network.added registry name type params = network ∨
      ∃ next later, network.added registry name type params = next ∧
        (addRegion name type params).run (registry, network) = (.ok (), later, next) := by
  unfold added
  rcases outcome : (addRegion name type params).run (registry, network) with
    ⟨fault | _, later, next⟩
  case error =>
    exact Or.inl (network.addRegion_error next registry later name type params fault outcome)
  case ok => exact Or.inr ⟨next, later, rfl, rfl⟩

/-- One call of an operation, whatever its outcome, on a network whose regions are
made by registries of some kind. -/
inductive Step [Implementation κ] (usable : Registry κ → Prop) : Network κ → Network κ → Prop where
  | addRegion (network : Network κ) (registry : Registry κ) (name type : String)
      (params : Params) (known : usable registry) :
      Step usable network (network.added registry name type params)
  | removeRegion (network : Network κ) (name : String) :
      Step usable network ((removeRegion name).run network).2
  | addLink (network : Network κ) (spec : LinkSpec) :
      Step usable network ((addLink spec).run network).2
  | linkDefault (network : Network κ) (source destination : String) :
      Step usable network ((linkDefault source destination).run network).2
  | removeLink (network : Network κ) (id : LinkId) :
      Step usable network ((removeLink id).run network).2
  | build (network : Network κ) : Step usable network ((build (κ := κ)).run network).2
  | run (ω : Type) [Watcher κ ω] (network : Network κ) (cycles : Nat) (watchers : List ω) :
      Step usable network (network.run cycles watchers).network
  | stop (network : Network κ) : Step usable network ((stop (κ := κ)).run network).2
  | setParameter (network : Network κ) (region name : String) (value : Value) :
      Step usable network ((setParameter region name value).run network).2

/-- Networks that operations can lead to from an empty or a loaded one. -/
inductive Reachable [Implementation κ] (usable : Registry κ → Prop) : Network κ → Prop where
  | new (settings : NetworkSettings) : Reachable usable (Network.new settings)
  | load (bundle : Bundle) (settings : NetworkSettings) (registry later : Registry κ)
      (network : Network κ) (known : usable registry)
      (loaded : (load bundle settings).run registry = (.ok network, later)) :
      Reachable usable network
  | step (network next : Network κ) (before : Reachable usable network)
      (step : Step usable network next) : Reachable usable next

/-- A parameter is set in the region of the name, if there is one. -/
theorem run_setParameter [Implementation κ] (network : Network κ) (region name : String)
    (value : Value) : (setParameter region name value).run network =
      match network.region region with
      | .error fault => (.error fault, network)
      | .ok owner =>
        ((owner.setParameter name value).2,
          network.setRegion region (owner.setParameter name value).1) := by
  simp only [setParameter, Edit.run_bind, Edit.run_get, Edit.run_lift]
  cases network.region region with
  | error fault => rfl
  | ok owner => simp only [Edit.run_set]

/-- Setting a parameter keeps frames and marks of having started. -/
theorem setParameter_effect [Implementation κ] (network : Network κ) (indexed : network.Indexed)
    (region name : String) (value : Value) :
    ∃ regions, ((setParameter region name value).run network).2 = { network with regions } ∧
      regions.map Region.frame = network.regions.map Region.frame ∧
      regions.map Region.initialized = network.regions.map Region.initialized := by
  rw [run_setParameter]
  cases found : network.region region with
  | error fault => exact ⟨network.regions, rfl, rfl, rfl⟩
  | ok owner =>
    obtain ⟨member, rfl⟩ := (network.region_ok_iff indexed region owner).mp found
    obtain ⟨frames, marks⟩ := owner.frame_setParameter name value
    have each {τ : Type} (tell : Region κ → τ)
        (same : tell (owner.setParameter name value).1 = tell owner) :
        (network.regions.map (fun other => if other.name = owner.name then
          (owner.setParameter name value).1 else other)).map tell = network.regions.map tell := by
      rw [List.map_map]
      apply List.map_congr_left
      intro other present
      simp only [Function.comp_apply]
      split
      · rename_i named
        rw [same, network.region_unique indexed other owner present member named]
      · rfl
    simp only [network.setRegion_eq indexed]
    exact ⟨_, rfl, each _ frames, each _ marks⟩

/-- Setting a parameter keeps the wiring, also when it is refused. -/
theorem wiring_setParameter [Implementation κ] (network : Network κ) (indexed : network.Indexed)
    (region name : String) (value : Value) :
    ((setParameter region name value).run network).2.wiring = network.wiring := by
  obtain ⟨regions, effect, frames, _⟩ := network.setParameter_effect indexed region name value
  rw [effect]
  exact wiring_of_frames _ network frames rfl rfl rfl

/-- Stopping keeps the wiring. -/
theorem wiring_stop (network : Network κ) :
    ((stop (κ := κ)).run network).2.wiring = network.wiring := by
  simp only [stop, Edit.run_bind, Edit.run_get]
  cases network.state <;> rfl

end Network

namespace Wiring

/-- A later wiring follows an earlier one: it is sound, and a link that it has and
the earlier one had not has a number that was never given before. -/
structure Follows (earlier later : Wiring) : Prop where
  sound : later.Sound
  next : earlier.nextLinkId ≤ later.nextLinkId
  fresh : ∀ link ∈ later.links, link ∈ earlier.links ∨ earlier.nextLinkId ≤ link.1.number

/-- Sound wiring follows itself. -/
theorem follows_refl (wiring : Wiring) (sound : wiring.Sound) : wiring.Follows wiring :=
  ⟨sound, Nat.le_refl _, fun _ member => Or.inl member⟩

end Wiring

namespace Network

/-- A link that was made has a new number. -/
theorem follows_addLink (network : Network κ) (sound : network.wiring.Sound) (spec : LinkSpec) :
    network.wiring.Follows ((addLink spec).run network).2.wiring := by
  have kept := network.sound_addLink sound spec
  rw [network.run_addLink sound spec] at kept ⊢
  cases approved : network.approve spec with
  | error fault => exact network.wiring.follows_refl sound
  | ok named =>
    simp only [approved] at kept
    refine ⟨kept, ?_, ?_⟩
    · rw [wiring_joined]
      exact Nat.le_succ _
    · intro link member
      rw [wiring_joined] at member
      rcases List.mem_append.mp member with former | new
      · exact Or.inl former
      · cases List.mem_singleton.mp new
        exact Or.inr (Nat.le_refl _)

/-- Where links were only taken away, the wiring follows. -/
theorem follows_of_subset (network later : Network κ) (sound : later.wiring.Sound)
    (next : later.nextLinkId = network.nextLinkId)
    (links : ∀ link ∈ later.links, link ∈ network.links) :
    network.wiring.Follows later.wiring where
  sound := sound
  next := Nat.le_of_eq next.symm
  fresh := by
    intro link member
    obtain ⟨former, present, rfl⟩ := List.mem_map.mp member
    exact Or.inl (List.mem_map_of_mem (links former present))

/-- Removing a link gives no number. -/
theorem follows_removeLink (network : Network κ) (sound : network.wiring.Sound) (id : LinkId) :
    network.wiring.Follows ((removeLink id).run network).2.wiring := by
  rw [network.run_removeLink sound id]
  cases network.ensureMutable with
  | error fault => exact network.wiring.follows_refl sound
  | ok _ =>
    cases network.link? id with
    | none => exact network.wiring.follows_refl sound
    | some link =>
      have kept := network.sound_without sound [id]
      rw [← wiring_invalidated] at kept
      exact network.follows_of_subset _ kept rfl (fun link => List.mem_of_mem_filter)

/-- Removing a region gives no number. -/
theorem follows_removeRegion (network : Network κ) (sound : network.wiring.Sound) (name : String) :
    network.wiring.Follows ((removeRegion name).run network).2.wiring := by
  rw [network.run_removeRegion sound name]
  cases network.ensureMutable with
  | error fault => exact network.wiring.follows_refl sound
  | ok _ =>
    cases network.position name with
    | error fault => exact network.wiring.follows_refl sound
    | ok _ =>
      exact network.follows_of_subset _ (network.sound_withoutRegion sound name) rfl
        (fun link => List.mem_of_mem_filter)

/-- Adding a region gives no number. -/
theorem follows_added (network : Network κ) (sound : network.wiring.Sound)
    (registry : Registry κ) (name type : String) (params : Params) :
    network.wiring.Follows (network.added registry name type params).wiring := by
  rcases network.added_cases registry name type params with
    unchanged | ⟨next, later, grown, outcome⟩
  · rw [unchanged]
    exact network.wiring.follows_refl sound
  · rw [grown]
    obtain ⟨fresh, spec, completed, state, _, _, _, rfl⟩ :=
      network.addRegion_ok next registry later name type params outcome
    have free := links_new name type spec completed state
    have kept := network.sound_insertRegion sound (.new name type spec completed state) fresh
      free.1 free.2
    exact network.follows_of_subset _ kept rfl (fun link member => member)

variable [Implementation κ]

/-- Every operation leads from sound wiring to wiring that follows it, whatever its
outcome. -/
theorem step_follows (usable : Registry κ → Prop) (network next : Network κ)
    (step : Step usable network next) (sound : network.wiring.Sound) :
    network.wiring.Follows next.wiring := by
  have same := network.wiring.follows_refl sound
  cases step with
  | addRegion _ registry name type params known =>
    exact network.follows_added sound registry name type params
  | removeRegion _ name => exact network.follows_removeRegion sound name
  | addLink _ spec => exact network.follows_addLink sound spec
  | linkDefault _ source destination =>
    exact network.follows_addLink sound (.betweenDefaults source destination)
  | removeLink _ id => exact network.follows_removeLink sound id
  | build =>
    rw [wiring_build]
    exact same
  | run ω _ cycles watchers =>
    rw [wiring_run]
    exact same
  | stop =>
    rw [wiring_stop]
    exact same
  | setParameter _ region name value =>
    rw [wiring_setParameter network (network.indexed_of_sound sound)]
    exact same

/-- Every reachable network is wired soundly. -/
theorem sound_of_reachable (usable : Registry κ → Prop) (network : Network κ)
    (reachable : Reachable usable network) : network.wiring.Sound := by
  induction reachable with
  | new settings => exact Wiring.sound_empty 0
  | load bundle settings registry later network known loaded =>
    exact (sound_load bundle settings network registry later loaded).1
  | step network next before step inductionHypothesis =>
    exact (step_follows usable network next step inductionHypothesis).sound

/-! ### Sound wiring in the words of the network -/

/-- The list at an endpoint agrees with the links of the network: it ascends, holds
the number of a link once if the endpoint is the one that the link has there, and
holds nothing else. -/
structure Recorded (network : Network κ) (numbers : List LinkId) (ends : LinkSpec → Prop) :
    Prop where
  ascending : numbers.Pairwise (fun earlier later => earlier.number < later.number)
  once : ∀ link ∈ network.links, ends link.spec → numbers.count link.id = 1
  absent : ∀ id, (¬ ∃ link ∈ network.links, link.id = id ∧ ends link.spec) → numbers.count id = 0

/-- The agreement of the four places that know of regions and links: the list of
regions, positions by name, links by number and the lists at endpoints. -/
structure WellWired (network : Network κ) : Prop where
  /-- Names are distinct. -/
  distinct : (network.regions.map Region.name).Nodup
  /-- A name is mapped to the position of its region, and nothing else is mapped. -/
  positions : ∀ name index, network.index.get? name = some index ↔
    ∃ region, network.regions[index]? = some region ∧ region.name = name
  /-- Every link is stored under its own number. -/
  stored : ∀ id link, network.link? id = some link ↔ link ∈ network.links ∧ link.id = id
  numbered : ∀ link ∈ network.links, link.id.number < network.nextLinkId
  /-- Both endpoints of every link exist and have one type. -/
  ends : ∀ link ∈ network.links, ∃ source destination output input,
    network.region link.spec.source = .ok source ∧ source.output link.spec.output = .ok output ∧
    network.region link.spec.destination = .ok destination ∧
    destination.input link.spec.input = .ok input ∧ output.buffer.type = input.buffer.type
  single : ∀ first ∈ network.links, ∀ second ∈ network.links,
    first.spec.SameEnds second.spec → first = second
  selecting : ∀ link ∈ network.links, ∀ rule, link.spec.reindex = some rule → rule.width ≠ 0
  outputs : ∀ region ∈ network.regions, ∀ name output, region.output name = .ok output →
    network.Recorded output.links (fun spec => spec.source = region.name ∧ spec.output = name)
  inputs : ∀ region ∈ network.regions, ∀ name input, region.input name = .ok input →
    network.Recorded input.links (fun spec => spec.destination = region.name ∧ spec.input = name)

omit [Implementation κ] in
/-- Lists that are selected from the links by their ends agree with them. -/
theorem recorded_of_listed (network : Network κ) (numbers : List LinkId) (ends : LinkSpec → Prop)
    (ascending : numbers.Pairwise (fun earlier later => earlier.number < later.number))
    (listed : ∀ link ∈ network.links, link.id ∈ numbers ↔ ends link.spec)
    (known : ∀ id ∈ numbers, ∃ link ∈ network.links, link.id = id) :
    network.Recorded numbers ends where
  ascending := ascending
  once := by
    intro link member there
    exact List.count_eq_one_of_mem (Wiring.nodup_of_ascending numbers ascending)
      ((listed link member).mpr there)
  absent := by
    intro id elsewhere
    rw [List.count_eq_zero]
    intro member
    obtain ⟨link, present, rfl⟩ := known id member
    exact elsewhere ⟨link, present, rfl, (listed link present).mp member⟩

omit [Implementation κ] in
/-- Sound wiring in the words of the network. -/
theorem wellWired_of_sound (network : Network κ) (sound : network.wiring.Sound) :
    network.WellWired := by
  have indexed := network.indexed_of_sound sound
  have recorded (link : Link) (member : link ∈ network.links) :
      (link.id, link.spec) ∈ network.wiring.links := List.mem_map_of_mem member
  constructor
  · exact network.distinct_of_indexed indexed
  · exact network.position?_eq_some_iff indexed
  · exact network.link?_eq_some_iff (network.links_ascending sound)
  · intro link member
    exact sound.numbered _ (recorded link member)
  · intro link member
    obtain ⟨source, sourceMember, destination, destinationMember, output, input, sourceName,
      outputFound, destinationName, inputFound, types⟩ := network.link_ends sound link member
    exact ⟨source, destination, output, input,
      (network.region_ok_iff indexed _ source).mpr ⟨sourceMember, sourceName⟩,
      (source.output_ok_iff _ output).mpr outputFound,
      (network.region_ok_iff indexed _ destination).mpr ⟨destinationMember, destinationName⟩,
      (destination.input_ok_iff _ input).mpr inputFound, types⟩
  · intro first firstMember second secondMember same
    by_contra different
    have single : network.links.Pairwise (fun first second =>
        ¬ first.spec.SameEnds second.spec ∧ ¬ second.spec.SameEnds first.spec) := by
      refine (List.pairwise_map.mp sound.single).imp ?_
      intro earlier later apart
      exact ⟨apart, fun ⟨source, output, destination, input⟩ =>
        apart ⟨source.symm, output.symm, destination.symm, input.symm⟩⟩
    have symmetric : Std.Symm (fun first second : Link =>
        ¬ first.spec.SameEnds second.spec ∧ ¬ second.spec.SameEnds first.spec) :=
      ⟨fun _ _ both => ⟨both.2, both.1⟩⟩
    exact (single.forall firstMember secondMember different).1 same
  · intro link member
    exact sound.selecting _ (recorded link member)
  · intro region member name output found
    rw [network.output_links sound region member name output
      ((region.output_ok_iff name output).mp found)]
    refine network.recorded_of_listed _ _ (sound.leaving_ascending _ _) ?_ ?_
    · intro link present
      exact sound.mem_leaving_iff _ (recorded link present) _ _
    · intro id listed
      obtain ⟨entry, present, rfl⟩ := List.mem_map.mp listed
      obtain ⟨link, linkMember, rfl⟩ := List.mem_map.mp (List.mem_of_mem_filter present)
      exact ⟨link, linkMember, rfl⟩
  · intro region member name input found
    rw [network.input_links sound region member name input
      ((region.input_ok_iff name input).mp found)]
    refine network.recorded_of_listed _ _ (sound.entering_ascending _ _) ?_ ?_
    · intro link present
      exact sound.mem_entering_iff _ (recorded link present) _ _
    · intro id listed
      obtain ⟨entry, present, rfl⟩ := List.mem_map.mp listed
      obtain ⟨link, linkMember, rfl⟩ := List.mem_map.mp (List.mem_of_mem_filter present)
      exact ⟨link, linkMember, rfl⟩

/-- In every reachable network, whichever operations led to it and however they
ended, regions, positions, links and the lists at endpoints agree; and no later
operation gives a link a number that was given before, not even one that was
removed.

The invariant is that the wiring is sound, together with the numbers that were given out so far.
A loaded network has it because links are made by the operation that makes them otherwise. Each
operation keeps it by what it does to links, endpoints and index as a whole, and by induction
over the calls every reachable network has it. -/
theorem wellWired_of_reachable (usable : Registry κ → Prop) (network : Network κ)
    (reachable : Reachable usable network) :
    network.WellWired ∧
      ∀ next, Step usable network next → network.nextLinkId ≤ next.nextLinkId ∧
        ∀ link ∈ next.links,
          (∃ former ∈ network.links, former.id = link.id ∧ former.spec = link.spec) ∨
            network.nextLinkId ≤ link.id.number := by
  have sound := sound_of_reachable usable network reachable
  refine ⟨network.wellWired_of_sound sound, ?_⟩
  intro next step
  have follows := step_follows usable network next step sound
  refine ⟨follows.next, ?_⟩
  intro link member
  rcases follows.fresh (link.id, link.spec) (List.mem_map_of_mem member) with former | later
  · obtain ⟨former, present, same⟩ := List.mem_map.mp former
    exact Or.inl ⟨former, present, congrArg Prod.fst same, congrArg Prod.snd same⟩
  · exact Or.inr later

/-- Regions of built-in types added in a given order, and then links. -/
def putTogether (declared : List Declaration) (wishes : List LinkSpec) : Network Builtin :=
  let registry := Registry.registerAll ∅ Builtin.types
  wishes.foldl (fun network wish => ((addLink wish).run network).2)
    (declared.foldl (fun network declaration =>
      network.added registry declaration.name declaration.type declaration.params) (new default))

/-- What is put together is made by operations, with the built-in types as the only ones. -/
theorem reachable_putTogether (usable : Registry Builtin → Prop)
    (known : usable (Registry.registerAll ∅ Builtin.types)) (declared : List Declaration)
    (wishes : List LinkSpec) : Reachable usable (putTogether declared wishes) := by
  have populated (network : Network Builtin) (before : Reachable usable network) :
      Reachable usable (declared.foldl (fun network declaration =>
        network.added (Registry.registerAll ∅ Builtin.types) declaration.name declaration.type
          declaration.params) network) := by
    induction declared generalizing network with
    | nil => exact before
    | cons first rest inductionHypothesis =>
      exact inductionHypothesis _
        (.step _ _ before (.addRegion network _ first.name first.type first.params known))
  have linked (network : Network Builtin) (before : Reachable usable network) : Reachable usable
      (wishes.foldl (fun network wish => ((addLink wish).run network).2) network) := by
    induction wishes generalizing network with
    | nil => exact before
    | cons wish rest inductionHypothesis =>
      exact inductionHypothesis _ (.step _ _ before (.addLink network wish))
  exact linked _ (populated _ (.new default))

/-- A counting source that feeds an incrementer two cycles late, made by operations
on an empty network. -/
def lateChain : Network Builtin :=
  let registry := Registry.registerAll ∅ Builtin.types
  let regions := ((new default).added registry "source" "CounterSource" ∅).added registry "sink"
    "Incrementer" ∅
  ((addLink { LinkSpec.betweenDefaults "source" "sink" with delay := 2 }).run regions).2

/-- The chain is made by operations, with the built-in types as the only ones. -/
theorem reachable_lateChain (usable : Registry Builtin → Prop)
    (known : usable (Registry.registerAll ∅ Builtin.types)) : Reachable usable lateChain :=
  reachable_putTogether usable known [⟨"source", "CounterSource", ∅⟩, ⟨"sink", "Incrementer", ∅⟩]
    [{ LinkSpec.betweenDefaults "source" "sink" with delay := 2 }]

/-- The chain is wired as every reachable network is. -/
theorem wellWired_lateChain : lateChain.links.length = 1 ∧ lateChain.WellWired :=
  ⟨by decide, (wellWired_of_reachable (fun _ => True) lateChain
    (reachable_lateChain _ trivial)).1⟩

end Network

end RegionGraph
