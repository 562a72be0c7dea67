import Mathlib.Logic.Relation
import RegionGraph.Proofs.Cycles

/-!
# Propagation never fails

From a successful build until the topology is changed, a network may be run, stopped,
built again and given new parameters, in any order and with any outcome. All along its
buffers fit together, so inputs can be filled and links can move on, and a run fails in
a computation only. The order that a network keeps is what shows that it was built.
-/

namespace RegionGraph

variable {κ ω : Type}

namespace Network

/-! ### The invariant of reachable networks -/

/-- A change of the topology that is refused changes nothing, and one that is made
leaves the network unbuilt. -/
def Rewired {α : Type} (network : Network κ) (outcome : Except GraphError α × Network κ) : Prop :=
  match outcome with
  | (.error _, after) => after = network
  | (.ok _, after) => after.state = .unbuilt ∧ after.order = none

/-- Making a link is a change of the topology. -/
theorem rewired_addLink (network : Network κ) (sound : network.wiring.Sound) (spec : LinkSpec) :
    network.Rewired ((addLink spec).run network) := by
  rw [network.run_addLink sound spec]
  cases network.approve spec with
  | error fault => rfl
  | ok named => exact ⟨rfl, rfl⟩

/-- Removing a link is a change of the topology. -/
theorem rewired_removeLink (network : Network κ) (sound : network.wiring.Sound) (id : LinkId) :
    network.Rewired ((removeLink id).run network) := by
  rw [network.run_removeLink sound id]
  cases network.ensureMutable with
  | error fault => rfl
  | ok _ =>
    cases network.link? id with
    | none => rfl
    | some link => exact ⟨rfl, rfl⟩

/-- Removing a region is a change of the topology. -/
theorem rewired_removeRegion (network : Network κ) (sound : network.wiring.Sound)
    (name : String) : network.Rewired ((removeRegion name).run network) := by
  rw [network.run_removeRegion sound name]
  cases network.ensureMutable with
  | error fault => rfl
  | ok _ =>
    cases network.position name with
    | error fault => rfl
    | ok _ => exact ⟨rfl, rfl⟩

/-- A network that is unbuilt and has no order is settled. -/
theorem settled_of_unbuilt (network : Network κ) (state : network.state = .unbuilt)
    (order : network.order = none) : network.Settled where
  fresh := fun _ => state
  idle := by
    intro _ ordered
    rw [order] at ordered
    cases ordered
  built := by
    intro _ ordered
    rw [order] at ordered
    cases ordered

/-- A built network that is not running is settled with its order. -/
theorem settled_of_built (network : Network κ) (order : List Nat)
    (ordered : network.order = some order)
    (idle : network.state = .initialized ∨ network.state = .stopped)
    (built : network.Built order) : network.Settled where
  fresh := by
    intro absent
    rw [ordered] at absent
    cases absent
  idle := fun _ _ => idle
  built := by
    intro other same
    rw [ordered, Option.some.injEq] at same
    exact same ▸ built

/-- A network that differs from a built one in its order or its progress only is
built. -/
theorem built_of_same (first second : Network κ) (order : List Nat) (built : first.Built order)
    (regions : second.regions = first.regions) (index : second.index = first.index)
    (links : second.links = first.links) : second.Built order :=
  built_of_frames first second order built (congrArg (List.map Region.frame) regions) index
    (congrArg (List.map Link.spec) links)
    (shaped_of_links first second (congrArg (List.map Region.frame) regions.symm) index.symm
      links.symm built.shaped)
    (congrArg (List.map Region.initialized) regions)

/-- Stopping leaves a settled network settled, with the order that it has. -/
theorem settled_stop (network : Network κ) (settled : network.Settled) :
    ((stop (κ := κ)).run network).2.Settled ∧
      ((stop (κ := κ)).run network).2.order = network.order := by
  simp only [stop, Edit.run_bind, Edit.run_get]
  by_cases unbuilt : network.state = .unbuilt
  · simp only [unbuilt, if_true]
    exact ⟨settled, rfl⟩
  · simp only [unbuilt, if_false]
    refine ⟨?_, rfl⟩
    rcases Option.eq_none_or_eq_some network.order with absent | ⟨order, ordered⟩
    · exact absurd (settled.fresh absent) unbuilt
    · exact settled_of_built _ order ordered (Or.inr rfl)
        (built_of_same network _ order (settled.built order ordered) rfl rfl rfl)

variable [Implementation κ]

/-- Building leaves a settled network settled, and one with an order keeps one. A
success gives it an order. -/
theorem settled_build (network : Network κ) (sound : network.wiring.Sound)
    (settled : network.Settled) :
    ((build (κ := κ)).run network).2.Settled ∧
      (network.order.isSome ∨ ((build (κ := κ)).run network).1 = .ok () →
        ((build (κ := κ)).run network).2.order.isSome) := by
  have worked : network.rebuilt.2.Settled ∧
      (network.order.isSome ∨ network.rebuilt.1 = .ok () → network.rebuilt.2.order.isSome) := by
    have outcome := network.rebuilt_settled sound settled
    rcases made : network.rebuilt with ⟨result, after⟩
    rw [made] at outcome
    cases result with
    | ok _ =>
      obtain ⟨state, order, ordered, built⟩ := outcome
      exact ⟨settled_of_built after order ordered (Or.inl state) built,
        fun _ => Option.isSome_of_eq_some ordered⟩
    | error fault =>
      obtain ⟨kept, stillSettled⟩ := outcome
      refine ⟨stillSettled, ?_⟩
      rintro (ordered | impossible)
      · exact kept ▸ ordered
      · cases impossible
  rw [run_build]
  cases lifecycle : network.state with
  | initialized =>
    refine ⟨settled, ?_⟩
    intro _
    rcases Option.eq_none_or_eq_some network.order with absent | ⟨order, ordered⟩
    · cases (settled.fresh absent).symm.trans lifecycle
    · exact Option.isSome_of_eq_some ordered
  | running =>
    refine ⟨settled, ?_⟩
    rintro (ordered | impossible)
    · exact ordered
    · cases impossible
  | unbuilt => exact worked
  | stopped => exact worked

/-- A network with an order runs its cycles at once. -/
theorem run_of_order [Watcher κ ω] (network : Network κ) (order : List Nat)
    (ordered : network.order = some order) (cycles : Nat) (watchers : List ω) :
    network.run cycles watchers =
      runCycles order cycles { network with state := .running } watchers := by
  unfold run Network.ready
  simp only [ordered]

/-- Running a settled network with an order leaves it settled with that order, and only
a computation can fail. -/
theorem settled_run_of_order [Watcher κ ω] (network : Network κ) (sound : network.wiring.Sound)
    (settled : network.Settled) (order : List Nat) (ordered : network.order = some order)
    (cycles : Nat) (watchers : List ω) :
    (network.run cycles watchers).network.Settled ∧
      (network.run cycles watchers).network.order = some order ∧
      ∀ fault, (network.run cycles watchers).result = .error fault → ∃ done < cycles,
        Completes order done { network with state := .running } ∧
          (afterCycles order done { network with state := .running }).ComputeFails order fault := by
  rw [network.run_of_order order ordered]
  have running := built_of_same network { network with state := .running } order
    (settled.built order ordered) rfl rfl rfl
  obtain ⟨built, kept, idle, failures⟩ := runCycles_of_built order cycles
    { network with state := .running } watchers sound running
  exact ⟨settled_of_built _ order (kept.trans ordered) idle built, kept.trans ordered, failures⟩

/-- A network without an order has everything to do when it is built. -/
theorem build_of_unordered (network : Network κ) (settled : network.Settled)
    (absent : network.order = none) : (build (κ := κ)).run network = network.rebuilt := by
  rw [run_build, settled.fresh absent]

/-- Building a network without an order keeps it sound and settled, and gives it an order
exactly if it succeeds. -/
theorem rebuilt_of_unordered (network : Network κ) (sound : network.wiring.Sound)
    (settled : network.Settled) (absent : network.order = none) :
    network.rebuilt.2.wiring.Sound ∧ network.rebuilt.2.Settled ∧
      match network.rebuilt.1 with
      | .ok _ => ∃ order, network.rebuilt.2.order = some order
      | .error _ => network.rebuilt.2.order = none := by
  have settledAfter := (network.settled_build sound settled).1
  rw [network.build_of_unordered settled absent] at settledAfter
  refine ⟨network.wiring_rebuilt ▸ sound, settledAfter, ?_⟩
  have outcome := network.rebuilt_settled sound settled
  rcases made : network.rebuilt with ⟨result, after⟩
  rw [made] at outcome
  cases result with
  | ok _ =>
    obtain ⟨_, order, ordered, _⟩ := outcome
    exact ⟨order, ordered⟩
  | error fault => exact outcome.1.trans absent

/-- A network without an order is built before it runs. -/
theorem run_of_unordered (network : Network κ) (sound : network.wiring.Sound)
    (settled : network.Settled) (absent : network.order = none) (cycles : Nat) :
    network.run cycles ([] : List Empty) =
      match network.rebuilt with
      | (.error fault, after) => ⟨.error fault, after, []⟩
      | (.ok _, after) => after.run cycles [] := by
  have outcome := network.rebuilt_settled sound settled
  have built := network.build_of_unordered settled absent
  have prepared : network.ready = network.rebuilt := by
    unfold ready
    simp only [absent, built]
  unfold run
  rw [prepared]
  rcases made : network.rebuilt with ⟨result, after⟩
  rw [made] at outcome
  cases result with
  | error fault => rfl
  | ok _ =>
    obtain ⟨_, order, ordered, _⟩ := outcome
    simp only [ready, ordered]

/-- Running leaves a settled network settled, also one that is built on the way. -/
theorem settled_run [Watcher κ ω] (network : Network κ) (sound : network.wiring.Sound)
    (settled : network.Settled) (cycles : Nat) (watchers : List ω) :
    (network.run cycles watchers).network.Settled := by
  refine (run_keeps (fun network => network.wiring.Sound ∧ network.Settled) cycles watchers ?_ ?_
    network ⟨sound, settled⟩).2
  · rintro former ⟨sound, settled⟩
    exact ⟨former.wiring_build ▸ sound, (former.settled_build sound settled).1⟩
  · rintro former order ordered ⟨sound, settled⟩
    rw [← former.run_of_order order ordered]
    exact ⟨former.wiring_run cycles watchers ▸ sound,
      (former.settled_run_of_order sound settled order ordered cycles watchers).1⟩

/-- Setting a parameter leaves a settled network settled, with the order that it has. -/
theorem settled_setParameter (network : Network κ) (indexed : network.Indexed)
    (settled : network.Settled) (region name : String) (value : Value) :
    ((setParameter region name value).run network).2.Settled ∧
      ((setParameter region name value).run network).2.order = network.order := by
  obtain ⟨regions, effect, frames, marks⟩ :=
    network.setParameter_effect indexed region name value
  rw [effect]
  refine ⟨⟨settled.fresh, settled.idle, ?_⟩, rfl⟩
  intro order ordered
  have built := settled.built order ordered
  exact built_of_frames network _ order built frames rfl rfl
    (shaped_of_links network _ frames.symm rfl rfl built.shaped) marks

omit [Implementation κ] in
/-- A change of the topology leaves a settled network settled, whatever its outcome. -/
theorem settled_of_rewired {α : Type} (network : Network κ) (settled : network.Settled)
    (outcome : Except GraphError α × Network κ) (rewired : network.Rewired outcome) :
    outcome.2.Settled := by
  rcases outcome with ⟨result, after⟩
  cases result with
  | error fault => exact rewired.symm ▸ settled
  | ok _ => exact after.settled_of_unbuilt rewired.1 rewired.2

/-- Every operation leaves a settled network settled. -/
theorem settled_step (usable : Registry κ → Prop) (network next : Network κ)
    (step : Step usable network next) (sound : network.wiring.Sound)
    (settled : network.Settled) : next.Settled := by
  cases step with
  | addRegion _ registry name type params known =>
    rcases network.added_cases registry name type params with
      unchanged | ⟨next, later, grown, outcome⟩
    · rw [unchanged]
      exact settled
    · rw [grown]
      obtain ⟨_, _, _, _, _, _, _, rfl⟩ :=
        network.addRegion_ok next registry later name type params outcome
      exact settled_of_unbuilt _ rfl rfl
  | removeRegion _ name =>
    exact network.settled_of_rewired settled _ (network.rewired_removeRegion sound name)
  | addLink _ spec => exact network.settled_of_rewired settled _ (network.rewired_addLink sound spec)
  | linkDefault _ source destination =>
    exact network.settled_of_rewired settled _
      (network.rewired_addLink sound (.betweenDefaults source destination))
  | removeLink _ id =>
    exact network.settled_of_rewired settled _ (network.rewired_removeLink sound id)
  | build => exact (network.settled_build sound settled).1
  | run ω _ cycles watchers => exact network.settled_run sound settled cycles watchers
  | stop => exact (network.settled_stop settled).1
  | setParameter _ region name value =>
    exact (network.settled_setParameter (network.indexed_of_sound sound) settled region name
      value).1

/-- Every reachable network is settled. -/
theorem settled_of_reachable (usable : Registry κ → Prop) (network : Network κ)
    (reachable : Reachable usable network) : network.Settled := by
  induction reachable with
  | new settings => exact settled_of_unbuilt _ rfl rfl
  | load bundle settings registry later network known loaded =>
    obtain ⟨_, state, order⟩ := sound_load bundle settings network registry later loaded
    exact network.settled_of_unbuilt state order
  | step network next before step inductionHypothesis =>
    exact settled_step usable network next step (sound_of_reachable usable network before)
      inductionHypothesis

/-! ### Working with a built network -/

/-- One call that leaves the topology as it is. Building, running, stopping and setting
a parameter may succeed or fail; a change of the topology is refused. -/
inductive Working : Network κ → Network κ → Prop where
  | build (network : Network κ) : Working network ((build (κ := κ)).run network).2
  | run (ω : Type) [Watcher κ ω] (network : Network κ) (cycles : Nat) (watchers : List ω) :
      Working network (network.run cycles watchers).network
  | stop (network : Network κ) : Working network ((stop (κ := κ)).run network).2
  | setParameter (network : Network κ) (region name : String) (value : Value) :
      Working network ((setParameter region name value).run network).2
  | refusedRegion (network after : Network κ) (registry later : Registry κ) (name type : String)
      (params : Params) (fault : GraphError)
      (refused : (addRegion name type params).run (registry, network) =
        (.error fault, later, after)) : Working network after
  | refusedRegionRemoval (network after : Network κ) (name : String) (fault : GraphError)
      (refused : (removeRegion name).run network = (.error fault, after)) : Working network after
  | refusedLink (network after : Network κ) (spec : LinkSpec) (fault : GraphError)
      (refused : (addLink spec).run network = (.error fault, after)) : Working network after
  | refusedLinkRemoval (network after : Network κ) (id : LinkId) (fault : GraphError)
      (refused : (removeLink id).run network = (.error fault, after)) : Working network after

/-- A network that has an order keeps one, and its wiring, while it is worked with. -/
theorem working_keeps (network next : Network κ) (working : Working network next)
    (sound : network.wiring.Sound) (settled : network.Settled) (ordered : network.order.isSome) :
    next.wiring = network.wiring ∧ next.Settled ∧ next.order.isSome := by
  have refused {α : Type} (after : Network κ) (fault : GraphError)
      (outcome : Except GraphError α × Network κ) (failed : outcome = (.error fault, after))
      (rewired : network.Rewired outcome) :
      after.wiring = network.wiring ∧ after.Settled ∧ after.order.isSome := by
    rw [failed] at rewired
    have same : after = network := rewired
    rw [same]
    exact ⟨rfl, settled, ordered⟩
  cases working with
  | build =>
    obtain ⟨settledNext, keeps⟩ := network.settled_build sound settled
    exact ⟨network.wiring_build, settledNext, keeps (Or.inl ordered)⟩
  | run ω _ cycles watchers =>
    obtain ⟨order, here⟩ := Option.isSome_iff_exists.mp ordered
    obtain ⟨settledNext, kept, _⟩ :=
      network.settled_run_of_order sound settled order here cycles watchers
    exact ⟨network.wiring_run cycles watchers, settledNext, Option.isSome_of_eq_some kept⟩
  | stop =>
    obtain ⟨settledNext, kept⟩ := network.settled_stop settled
    exact ⟨network.wiring_stop, settledNext, kept ▸ ordered⟩
  | setParameter _ region name value =>
    have indexed := network.indexed_of_sound sound
    obtain ⟨settledNext, kept⟩ := network.settled_setParameter indexed settled region name value
    exact ⟨network.wiring_setParameter indexed region name value, settledNext, kept ▸ ordered⟩
  | refusedRegion _ _ registry later name type params fault refused =>
    rw [network.addRegion_error next registry later name type params fault refused]
    exact ⟨rfl, settled, ordered⟩
  | refusedRegionRemoval _ after name fault failed =>
    exact refused next fault _ failed (network.rewired_removeRegion sound name)
  | refusedLink _ after spec fault failed =>
    exact refused next fault _ failed (network.rewired_addLink sound spec)
  | refusedLinkRemoval _ after id fault failed =>
    exact refused next fault _ failed (network.rewired_removeLink sound id)

/-- From a successful build until the topology is changed a network has an order. -/
theorem ordered_of_working (usable : Registry κ → Prop) (network built later : Network κ)
    (reachable : Reachable usable network)
    (succeeded : (build (κ := κ)).run network = (.ok (), built))
    (worked : Relation.ReflTransGen Working built later) :
    later.wiring.Sound ∧ later.Settled ∧ ∃ order, later.order = some order := by
  have kept : later.wiring.Sound ∧ later.Settled ∧ later.order.isSome := by
    induction worked with
    | refl =>
      have sound := sound_of_reachable usable network reachable
      have wiring := network.wiring_build
      obtain ⟨settled, gives⟩ :=
        network.settled_build sound (settled_of_reachable usable network reachable)
      rw [succeeded] at wiring settled gives
      exact ⟨wiring ▸ sound, settled, gives (Or.inr rfl)⟩
    | tail earlier working inductionHypothesis =>
      obtain ⟨sound, settled, ordered⟩ := inductionHypothesis
      obtain ⟨wiring, settledNext, orderedNext⟩ := working_keeps _ _ working sound settled ordered
      exact ⟨wiring ▸ sound, settledNext, orderedNext⟩
  exact ⟨kept.1, kept.2.1, Option.isSome_iff_exists.mp kept.2.2⟩

omit [Implementation κ] in
/-- Nothing stands in the way of data: the buffers fit together, every link has a
source, inputs can be filled, links can move on, and no run is left unfinished. -/
structure Flowing (network : Network κ) : Prop where
  shaped : network.Shaped
  starts : ∀ link ∈ network.links, network.sourceBuffer link = .ok (network.live link)
  fills : ∀ region ∈ network.regions, ∃ filled, network.fillInputs region = (.ok (), filled)
  moves : ∃ shifted, shiftLinks.run network = (.ok (), shifted)
  idle : network.state ≠ .running

omit [Implementation κ] in
/-- Data flows in a settled network with an order. -/
theorem flowing_of_settled (network : Network κ) (sound : network.wiring.Sound)
    (settled : network.Settled) (order : List Nat) (ordered : network.order = some order) :
    network.Flowing where
  shaped := (settled.built order ordered).shaped
  starts := fun link member => (network.sourceBuffer_ok sound link member).1
  fills := fun region member =>
    network.fillInputs_of_shaped sound (settled.built order ordered).shaped region member
  moves := ⟨_, network.shiftLinks_eq sound⟩
  idle := by
    intro running
    rcases settled.idle order ordered with state | state
    · cases state.symm.trans running
    · cases state.symm.trans running

/-- From a successful build until the topology is changed data flows, and a run that
fails reports what the computation of one region answered, in a cycle before which all
cycles were completed.

A settled network with an order is built: its buffers have the lengths of the plan that it was
built by. Turns keep these lengths, whatever implementations do, and so do cycles and runs, by
induction over the order and over the cycles; other calls keep them because they are refused or
give the same lengths again. -/
theorem flowing_of_working (usable : Registry κ → Prop) (network built later : Network κ)
    (reachable : Reachable usable network)
    (succeeded : (build (κ := κ)).run network = (.ok (), built))
    (worked : Relation.ReflTransGen Working built later) :
    later.Flowing ∧
      ∀ (ω : Type) [Watcher κ ω] (cycles : Nat) (watchers : List ω) (fault : GraphError),
        (later.run cycles watchers).result = .error fault →
        ∃ order done, later.order = some order ∧ done < cycles ∧
          Completes order done { later with state := .running } ∧
          (afterCycles order done { later with state := .running }).ComputeFails order fault := by
  obtain ⟨sound, settled, order, ordered⟩ :=
    ordered_of_working usable network built later reachable succeeded worked
  refine ⟨later.flowing_of_settled sound settled order ordered, ?_⟩
  intro ω _ cycles watchers fault failed
  obtain ⟨_, _, failures⟩ :=
    later.settled_run_of_order sound settled order ordered cycles watchers
  obtain ⟨done, bound, completed, fails⟩ := failures fault failed
  exact ⟨order, done, ordered, bound, completed, fails⟩

/-- The counting source with its late reader, built. -/
def builtChain : Network Builtin := ((build (κ := Builtin)).run lateChain).2

/-- Building the chain succeeds. -/
theorem build_lateChain : (build (κ := Builtin)).run lateChain = (.ok (), builtChain) := by
  obtain ⟨_, succeeded⟩ :=
    (Traversal.isOk_iff ((build (κ := Builtin)).run lateChain).1).mp (by decide +kernel)
  exact Prod.ext succeeded rfl

/-- Data flows in the chain after it ran and was stopped. -/
theorem flowing_builtChain : lateChain.links.length = 1 ∧
    ((stop (κ := Builtin)).run (builtChain.run 3 ([] : List Empty)).network).2.Flowing :=
  ⟨by decide, (flowing_of_working (fun _ => True) lateChain builtChain _
    (reachable_lateChain _ trivial) build_lateChain
    ((Relation.ReflTransGen.single (.run Empty builtChain 3 [])).tail (.stop _))).1⟩

end Network

end RegionGraph
