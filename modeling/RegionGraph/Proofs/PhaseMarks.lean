import RegionGraph.Proofs.Diaries
import RegionGraph.Proofs.Phases

/-!
# Phases that regions are marked with

Regions are marked with their phases while a network is built, before implementations are
started; the order and the number of phases are noted after all of them have started. As a
change of the topology takes everything back together, marks, order and number agree in every
reachable network, but for one case: where a start failed the marks stay, and the network
has no order.
-/

namespace RegionGraph

variable {κ ω : Type}

namespace Region

variable [Implementation κ]

/-- Starting keeps the phase. -/
theorem phase_start (region : Region κ) : region.start.1.phase = region.phase := by
  unfold start
  split
  · rfl
  · split <;> rfl

/-- Computing keeps the phase. -/
theorem phase_compute (region : Region κ) (iteration : UInt64) (profiling : Bool) :
    (region.compute iteration profiling).1.phase = region.phase := by
  unfold compute
  simp only
  split
  · split <;> rfl
  · rfl

end Region

namespace Network

/-! ### What calls leave alone -/

/-- The wiring of a network, the phases and marks of its regions, and what building noted. -/
structure Marking where
  wiring : Wiring
  phases : List (Option Nat)
  started : List Bool
  order : Option (List Nat)
  phaseCount : Nat

/-- The marking of a network. -/
def marking (network : Network κ) : Marking where
  wiring := network.wiring
  phases := network.regions.map Region.phase
  started := network.regions.map Region.initialized
  order := network.order
  phaseCount := network.phaseCount

/-- Stopping keeps the marking. -/
theorem marking_stop (network : Network κ) :
    ((stop (κ := κ)).run network).2.marking = network.marking := by
  simp only [stop, Edit.run_bind, Edit.run_get]
  cases network.state <;> rfl

section Implemented

variable [Implementation κ]

/-- A computation keeps the marking. -/
theorem marking_step (index : Nat) (network : Network κ) :
    ((step index).run network).2.marking = network.marking := by
  obtain ⟨regions, effect, frames, started⟩ := step_effect index network
  have phases : ((step index).run network).2.regions.map Region.phase =
      network.regions.map Region.phase := by
    have phase (region : Region κ) : (network.fillInputs region).2.phase = region.phase := by
      obtain ⟨_, _, effect⟩ := network.fillInputs_effect region
      rw [effect]
    rcases step_cases index network with unchanged | ⟨region, found, changed, effect, rfl | rfl⟩
    · rw [unchanged]
    · rw [effect]
      exact map_set_of_eq _ network.regions index region _ found (phase region)
    · rw [effect]
      refine map_set_of_eq _ network.regions index region _ found ?_
      rw [Region.phase_compute]
      exact phase region
  have wiring : ((step index).run network).2.wiring = network.wiring := by
    rw [effect]
    exact wiring_of_frames _ _ frames rfl rfl rfl
  unfold marking
  rw [wiring, phases, effect]
  simp only [started]

/-- A cycle keeps the marking, also when it fails. -/
theorem marking_cycle (order : List Nat) (network : Network κ) :
    ((cycle order).run network).2.marking = network.marking := by
  have computed : ((stepAll order).run network).2.marking = network.marking :=
    stepAll_keeps (fun after => after.marking = network.marking) order
      (fun current index _ same => (marking_step index current).trans same)
      (fun _ same => same) network rfl
  rw [run_cycle]
  rcases outcome : (stepAll order).run network with ⟨result, after⟩
  rw [outcome] at computed
  cases result with
  | error fault => exact computed
  | ok _ =>
    simp only
    have wiring := after.wiring_shiftLinks
    obtain ⟨links, effect⟩ := after.shiftLinks_effect
    rcases moved : shiftLinks.run after with ⟨result, shifted⟩
    rw [moved] at effect wiring
    cases effect
    rw [← computed]
    cases result <;> exact congrArg (fun wiring => { after.marking with wiring }) wiring

/-- Setting a parameter keeps the marking, also when it is refused. -/
theorem marking_setParameter (network : Network κ) (indexed : network.Indexed)
    (region name : String) (value : Value) :
    ((setParameter region name value).run network).2.marking = network.marking := by
  obtain ⟨regions, effect, _, started⟩ := network.setParameter_effect indexed region name value
  have wiring := network.wiring_setParameter indexed region name value
  have phases : ((setParameter region name value).run network).2.regions.map Region.phase =
      network.regions.map Region.phase := by
    rw [run_setParameter]
    cases found : network.region region with
    | error fault => rfl
    | ok owner =>
      obtain ⟨member, rfl⟩ := (network.region_ok_iff indexed region owner).mp found
      obtain ⟨state, params, made, _⟩ := owner.setParameter_eq name value
      simp only [made, network.setRegion_eq indexed, List.map_map]
      apply List.map_congr_left
      intro other present
      simp only [Function.comp_apply]
      split
      · rename_i named
        rw [network.region_unique indexed other owner present member named]
      · rfl
  unfold marking
  rw [wiring, phases, effect]
  simp only [started]

end Implemented

/-! ### What the marks say -/

/-- Nothing that building finds out is known. -/
structure Unlevelled (network : Network κ) : Prop where
  order : network.order = none
  count : network.phaseCount = 0
  phases : ∀ region ∈ network.regions, region.phase = none

/-- Every region has the phase that the schedule of the network gives it. -/
structure Levelled (network : Network κ) (schedule : Schedule) : Prop where
  scheduled : network.schedule = .ok schedule
  phases : network.regions.map Region.phase =
    (List.range network.regions.length).map (fun index => some (schedule.phase index))

/-- Levels and order are known. -/
structure Ordered (network : Network κ) (schedule : Schedule) : Prop extends
    network.Levelled schedule where
  order : network.order = some schedule.order
  count : network.phaseCount = schedule.phaseCount

/-- Building came to an end at a start that failed: regions have their phases, and the network
has no order. -/
structure Abandoned [Implementation κ] (network : Network κ) (schedule : Schedule) : Prop extends
    network.Levelled schedule where
  order : network.order = none
  count : network.phaseCount = 0
  unstarted : ∃ region ∈ network.regions, region.initialized = false
  failed : ∃ state : κ, ∃ fault, (Implementation.start state).2 = .error fault

/-- The three kinds of networks. -/
inductive Marked [Implementation κ] (network : Network κ) : Prop where
  | unlevelled (nothing : network.Unlevelled)
  | ordered (schedule : Schedule) (all : network.Ordered schedule)
  | abandoned (schedule : Schedule) (marks : network.Abandoned schedule)

/-- What was invalidated is unlevelled. -/
theorem unlevelled_invalidated (network : Network κ) : network.invalidated.Unlevelled where
  order := rfl
  count := rfl
  phases := by
    intro region member
    obtain ⟨former, _, rfl⟩ := List.mem_map.mp member
    rfl

/-- Levels depend on the marking. -/
theorem levelled_of_marking (first second : Network κ) (same : second.marking = first.marking)
    (schedule : Schedule) (levelled : first.Levelled schedule) : second.Levelled schedule := by
  have wiring : second.wiring = first.wiring := congrArg Marking.wiring same
  have phases : second.regions.map Region.phase = first.regions.map Region.phase :=
    congrArg Marking.phases same
  have count : second.regions.length = first.regions.length := by
    simpa only [List.length_map] using congrArg List.length phases
  refine ⟨?_, by rw [phases, count, levelled.phases]⟩
  have index : second.index = first.index := congrArg Wiring.index wiring
  rw [schedule_eq, index, names_of_wiring second first wiring, specs_of_wiring second first wiring,
    ← schedule_eq]
  exact levelled.scheduled

variable [Implementation κ]

/-- The kind of a network depends on the marking. -/
theorem marked_of_marking (first second : Network κ) (same : second.marking = first.marking)
    (marked : first.Marked) : second.Marked := by
  have order : second.order = first.order := congrArg Marking.order same
  have count : second.phaseCount = first.phaseCount := congrArg Marking.phaseCount same
  cases marked with
  | unlevelled nothing =>
    refine .unlevelled ⟨order.trans nothing.order, count.trans nothing.count, ?_⟩
    intro region member
    have phases : second.regions.map Region.phase = first.regions.map Region.phase :=
      congrArg Marking.phases same
    have listed : region.phase ∈ first.regions.map Region.phase :=
      phases ▸ List.mem_map_of_mem member
    obtain ⟨former, present, told⟩ := List.mem_map.mp listed
    exact told ▸ nothing.phases former present
  | ordered schedule all =>
    exact .ordered schedule ⟨levelled_of_marking first second same schedule all.toLevelled,
      order.trans all.order, count.trans all.count⟩
  | abandoned schedule marks =>
    refine .abandoned schedule ⟨levelled_of_marking first second same schedule marks.toLevelled,
      order.trans marks.order, count.trans marks.count, ?_, marks.failed⟩
    obtain ⟨former, present, unstarted⟩ := marks.unstarted
    have started : second.regions.map Region.initialized =
        first.regions.map Region.initialized := congrArg Marking.started same
    have listed : former.initialized ∈ second.regions.map Region.initialized :=
      started ▸ List.mem_map_of_mem present
    obtain ⟨region, member, told⟩ := List.mem_map.mp listed
    exact ⟨region, member, told.trans unstarted⟩

/-! ### Building -/

/-- Building by a plan marks regions with the phases of its schedule, also if it started only
some of them. -/
theorem levelled_of_plan (network later : Network κ) (sound : network.wiring.Sound) (plan : Plan)
    (planned : network.plan = .ok plan) (wiring : later.wiring = network.wiring)
    (phases : later.regions.map Region.phase = (network.sized plan).regions.map Region.phase) :
    later.Levelled plan.schedule := by
  have count : later.regions.length = network.regions.length := by
    simpa only [List.length_map] using
      congrArg List.length (names_of_wiring later network wiring)
  have index : later.index = network.index := congrArg Wiring.index wiring
  constructor
  case scheduled =>
    rw [schedule_eq, index, names_of_wiring later network wiring,
      specs_of_wiring later network wiring, ← schedule_eq]
    exact (network.fits_of_plan sound plan planned).scheduled
  case phases =>
    rw [phases, count]
    apply List.ext_getElem
    · simp [sized, sizedRegions]
    · intro place _ _
      simp [sized, sizedRegions, sizedRegion, Region.sized]

/-- A region whose start fails is not started, and its implementation is one that can fail. -/
theorem failed_start (region : Region κ) (fault : GraphError)
    (failed : region.start.2 = .error fault) :
    region.start.1.initialized = false ∧
      (Implementation.start region.state).2 = .error fault := by
  unfold Region.start at failed ⊢
  split
  case isTrue started =>
    rw [if_pos started] at failed
    cases failed
  case isFalse fresh =>
    rw [if_neg fresh] at failed
    rcases began : Implementation.start region.state with ⟨state, outcome⟩
    rw [began] at failed
    cases outcome with
    | ok _ => cases failed
    | error other => exact ⟨by simpa using fresh, failed⟩

/-- Starting some of the regions leaves all phases. -/
theorem phases_startedAt (regions : List (Region κ)) (turns : List Nat) :
    (startedAt regions turns).map Region.phase = regions.map Region.phase := by
  apply List.ext_getElem?
  intro index
  rw [List.getElem?_map, getElem?_startedAt, Option.map_map, List.getElem?_map]
  refine congrArg (fun told => Option.map told regions[index]?) (funext fun region => ?_)
  rw [Function.comp_apply]
  split
  · exact region.phase_start
  · rfl

/-- A network with a region that fails to start has no order: with one, every region has been
started already. -/
theorem unordered_of_failing (network : Network κ) (settled : network.Settled) (plan : Plan)
    (region : Region κ) (member : region ∈ (network.sized plan).regions) (fault : GraphError)
    (failed : region.start.2 = .error fault) : network.order = none := by
  by_contra ordered
  obtain ⟨order, ordered⟩ := Option.ne_none_iff_exists'.mp ordered
  have started := network.started_sized order (settled.built order ordered) plan region member
  rw [start_of_initialized region started] at failed
  cases failed

/-- Without an order no levels are counted. -/
theorem Marked.count_of_unordered {network : Network κ} (marked : network.Marked)
    (unordered : network.order = none) : network.phaseCount = 0 := by
  cases marked with
  | unlevelled nothing => exact nothing.count
  | ordered schedule all => cases unordered.symm.trans all.order
  | abandoned schedule marks => exact marks.count

/-- Building anew leaves a network of one of the kinds: as it was, if it fails a check; with
an order, if all regions start; and else abandoned, since a network that has an order already
has no region left to start. -/
theorem marked_rebuilt (network : Network κ) (sound : network.wiring.Sound)
    (settled : network.Settled) (marked : network.Marked) : network.rebuilt.2.Marked := by
  have wiring := network.wiring_rebuilt
  rcases done : network.rebuilt with ⟨outcome, after⟩
  rw [done] at wiring
  cases outcome with
  | ok _ =>
    obtain ⟨plan, planned, _, rfl⟩ := (network.rebuilt_ok_iff after sound).mp done
    refine .ordered plan.schedule ⟨network.levelled_of_plan _ sound plan planned wiring ?_, rfl, rfl⟩
    rw [builtBy, List.map_map]
    exact List.map_congr_left (fun region _ => region.phase_start)
  | error fault =>
    unfold rebuilt at done
    cases planned : network.plan with
    | error other =>
      rw [planned] at done
      cases done
      exact marked
    | ok plan =>
      have fits := network.fits_of_plan sound plan planned
      have perm := network.perm_sized plan fits
      simp only [planned, network.shape_of_fits sound plan fits] at done
      have walked := startAll_walk plan.schedule.order (perm.nodup_iff.mpr List.nodup_range)
        (network.sized plan) (fun index listed => List.mem_range.mp (perm.mem_iff.mp listed))
      rcases walked with ⟨_, ran⟩ | ⟨front, last, _, region, refusal, _, _, found, failed, ran⟩
      · rw [ran] at done
        cases done
      rw [ran] at done
      cases done
      obtain ⟨unstarted, fails⟩ := failed_start region fault failed
      have there : (startedAt (network.sized plan).regions (front ++ [last]))[last]? =
          some region.start.1 := by
        rw [getElem?_startedAt, found, Option.map_some, if_pos (by simp)]
      have unordered := network.unordered_of_failing settled plan region
        (List.mem_of_getElem? found) fault failed
      have levelled := network.levelled_of_plan _ sound plan planned wiring
        (phases_startedAt (network.sized plan).regions (front ++ [last]))
      exact .abandoned plan.schedule ⟨levelled, unordered, marked.count_of_unordered unordered,
        ⟨region.start.1, List.mem_of_getElem? there, unstarted⟩, region.state, fault, fails⟩

/-- Building leaves a network of one of the kinds. -/
theorem marked_build (network : Network κ) (sound : network.wiring.Sound)
    (settled : network.Settled) (marked : network.Marked) :
    ((build (κ := κ)).run network).2.Marked :=
  build_keeps Marked network marked (network.marked_rebuilt sound settled marked)

/-- Running leaves a network of one of the kinds, also one that is built on the way. -/
theorem marked_run [Watcher κ ω] (network : Network κ) (sound : network.wiring.Sound)
    (settled : network.Settled) (marked : network.Marked) (cycles : Nat) (watchers : List ω) :
    (network.run cycles watchers).network.Marked := by
  refine (run_keeps (fun network => network.wiring.Sound ∧ network.Settled ∧ network.Marked) cycles
    watchers ?_ ?_ network ⟨sound, settled, marked⟩).2.2
  · rintro former ⟨sound, settled, marked⟩
    exact ⟨former.wiring_build ▸ sound, (former.settled_build sound settled).1,
      former.marked_build sound settled marked⟩
  · rintro former order ordered ⟨sound, settled, marked⟩
    have same : (runCycles order cycles { former with state := .running } watchers).network.marking =
        former.marking :=
      runCycles_keeps (fun after => after.marking = former.marking) order
        (fun current same => (marking_cycle order current).trans same) (fun _ _ same => same) cycles
        { former with state := .running } watchers rfl
    have settledAfter :=
      (former.settled_run_of_order sound settled order ordered cycles watchers).1
    rw [former.run_of_order order ordered] at settledAfter
    have wiring := congrArg Marking.wiring same
    exact ⟨Eq.mpr (congrArg Wiring.Sound wiring) sound, settledAfter,
      marked_of_marking former _ same marked⟩

omit [Implementation κ] in
/-- A change of the topology that is made leaves a network unlevelled. -/
def Forgets {α : Type} (network : Network κ) (outcome : Except GraphError α × Network κ) : Prop :=
  outcome.2 = network ∨ ∃ former : Network κ, outcome.2 = former.invalidated

/-- A change of the topology leaves a network of one of the kinds. -/
theorem marked_of_forgets {α : Type} (network : Network κ) (marked : network.Marked)
    (outcome : Except GraphError α × Network κ) (forgets : network.Forgets outcome) :
    outcome.2.Marked := by
  rcases forgets with same | ⟨former, made⟩
  · exact same ▸ marked
  · exact made ▸ .unlevelled former.unlevelled_invalidated

omit [Implementation κ] in
/-- Making a link forgets what building found out. -/
theorem forgets_addLink (network : Network κ) (sound : network.wiring.Sound) (spec : LinkSpec) :
    network.Forgets ((addLink spec).run network) := by
  rw [network.run_addLink sound spec]
  cases network.approve spec with
  | error fault => exact .inl rfl
  | ok named => exact .inr ⟨_, rfl⟩

omit [Implementation κ] in
/-- Removing a link forgets what building found out. -/
theorem forgets_removeLink (network : Network κ) (sound : network.wiring.Sound) (id : LinkId) :
    network.Forgets ((removeLink id).run network) := by
  rw [network.run_removeLink sound id]
  cases network.ensureMutable with
  | error fault => exact .inl rfl
  | ok _ =>
    cases network.link? id with
    | none => exact .inl rfl
    | some link => exact .inr ⟨_, rfl⟩

omit [Implementation κ] in
/-- Removing a region forgets what building found out. -/
theorem forgets_removeRegion (network : Network κ) (sound : network.wiring.Sound) (name : String) :
    network.Forgets ((removeRegion name).run network) := by
  rw [network.run_removeRegion sound name]
  cases network.ensureMutable with
  | error fault => exact .inl rfl
  | ok _ =>
    cases network.position name with
    | error fault => exact .inl rfl
    | ok _ => exact .inr ⟨_, rfl⟩

/-- Every operation leaves a network of one of the kinds. -/
theorem marked_step (usable : Registry κ → Prop) (network next : Network κ)
    (step : Step usable network next) (sound : network.wiring.Sound) (settled : network.Settled)
    (marked : network.Marked) : next.Marked := by
  cases step with
  | addRegion _ registry name type params known =>
    rcases network.added_cases registry name type params with
      unchanged | ⟨next, later, grown, outcome⟩
    · rw [unchanged]
      exact marked
    · rw [grown]
      obtain ⟨_, _, _, _, _, _, _, rfl⟩ :=
        network.addRegion_ok next registry later name type params outcome
      exact .unlevelled (unlevelled_invalidated _)
  | removeRegion _ name =>
    exact network.marked_of_forgets marked _ (network.forgets_removeRegion sound name)
  | addLink _ spec =>
    exact network.marked_of_forgets marked _ (network.forgets_addLink sound spec)
  | linkDefault _ source destination =>
    exact network.marked_of_forgets marked _
      (network.forgets_addLink sound (.betweenDefaults source destination))
  | removeLink _ id =>
    exact network.marked_of_forgets marked _ (network.forgets_removeLink sound id)
  | build => exact network.marked_build sound settled marked
  | run ω _ cycles watchers => exact network.marked_run sound settled marked cycles watchers
  | stop => exact marked_of_marking network _ network.marking_stop marked
  | setParameter _ region name value =>
    exact marked_of_marking network _
      (network.marking_setParameter (network.indexed_of_sound sound) region name value) marked

omit [Implementation κ] in
/-- A loaded network is unlevelled. -/
theorem unlevelled_load (bundle : Bundle) (settings : NetworkSettings) (network : Network κ)
    (registry later : Registry κ)
    (loaded : (load bundle settings).run registry = (.ok network, later)) :
    network.Unlevelled := by
  refine (load_keeps Unlevelled (fun _ => True) bundle settings network registry later loaded
    ⟨rfl, rfl, nofun⟩ trivial ?_ ?_
    (fun _ _ nothing => ⟨nothing.order, nothing.count, nothing.phases⟩)).2
  · intro former entry next before after _ _ made
    obtain ⟨_, _, _, _, _, _, _, _, _, _, _, rfl⟩ :=
      former.loadRegion_ok next bundle entry before after made
    exact ⟨unlevelled_invalidated _, trivial⟩
  · intro former record next sound _ made
    obtain ⟨_, _, rfl⟩ := former.loadLink_ok next sound record made
    exact ⟨rfl, rfl, (unlevelled_invalidated _).phases⟩

/-- Every reachable network is of one of the kinds. -/
theorem marked_of_reachable (usable : Registry κ → Prop) (network : Network κ)
    (reachable : Reachable usable network) : network.Marked := by
  induction reachable with
  | new settings => exact .unlevelled ⟨rfl, rfl, nofun⟩
  | load bundle settings registry later network known loaded =>
    exact .unlevelled (network.unlevelled_load bundle settings registry later loaded)
  | step network next before step inductionHypothesis =>
    exact marked_step usable network next step (sound_of_reachable usable network before)
      (settled_of_reachable usable network before) inductionHypothesis

omit [Implementation κ] in
/-- Phases, their number, the order and the state agree: either there is an order, and every
region has as its phase its level among the direct links that there are, or there is none and
no phase is known. -/
structure Agreeing (network : Network κ) : Prop where
  built : network.order.isSome ↔ network.state ≠ .unbuilt
  known : ∀ region ∈ network.regions, region.phase.isSome ↔ network.order.isSome
  level : network.order.isSome → ∃ schedule, network.schedule = .ok schedule ∧
    network.order = some schedule.order ∧ network.phaseCount = schedule.phaseCount ∧
    ∀ index region, network.regions[index]? = some region →
      region.phase = some (schedule.phase index) ∧ schedule.phase index < network.phaseCount ∧
      IsGreatest {length | Trail network.Feeds length region.name} (schedule.phase index)
  uncounted : network.order = none → network.phaseCount = 0

omit [Implementation κ] in
/-- The phase of a region with a level. -/
theorem Levelled.phase {network : Network κ} {schedule : Schedule}
    (levelled : network.Levelled schedule) (index : Nat) (region : Region κ)
    (found : network.regions[index]? = some region) : region.phase = some (schedule.phase index) := by
  have inside := (List.getElem?_eq_some_iff.mp found).1
  have told := congrArg (·[index]?) levelled.phases
  simp only [List.getElem?_map, found, Option.map_some, List.getElem?_range inside] at told
  exact Option.some.inj told

omit [Implementation κ] in
/-- Phases stay below their number. -/
theorem Phased.phase_lt {network : Network κ} {schedule : Schedule}
    (phased : network.Phased schedule) (index : Nat) (inside : index < network.regions.length) :
    schedule.phase index < schedule.phaseCount := by
  rw [phased.count]
  exact Finset.le_sup (f := fun index => schedule.phase index + 1) (Finset.mem_range.mpr inside)

/-- In a reachable network phases, number, order and state agree, unless the last attempt to
build it was abandoned at a start that failed; then the regions tell phases that no order goes
with. So they always agree if no implementation ever fails to start.

Each step leads from one of three markings to one of them: no phases, the phases of the order,
or phases that were given before a start failed. The last comes about in a build only, at the
first start that fails. By induction over the calls a reachable network is marked in one of
these ways, and only the last disagrees. -/
theorem agreeing_of_reachable (usable : Registry κ → Prop) (network : Network κ)
    (reachable : Reachable usable network) :
    (network.Agreeing ↔ ¬∃ schedule, network.Abandoned schedule) ∧
      (∀ schedule, network.Abandoned schedule →
        network.state = .unbuilt ∧ network.Phased schedule) ∧
      ((∀ state : κ, (Implementation.start state).2 = .ok ()) → network.Agreeing) := by
  have settled := settled_of_reachable usable network reachable
  have marked := marked_of_reachable usable network reachable
  have phased := network.phased_of_schedule (sound_of_reachable usable network reachable)
  have built : network.order.isSome ↔ network.state ≠ .unbuilt := by
    rcases Option.eq_none_or_eq_some network.order with absent | ⟨order, ordered⟩
    · simp [absent, settled.fresh absent]
    · rcases settled.idle order ordered with state | state <;> simp [ordered, state]
  have agrees : (¬∃ schedule, network.Abandoned schedule) → network.Agreeing := by
    intro kept
    cases marked with
    | unlevelled nothing =>
      refine ⟨built, ?_, ?_, fun _ => nothing.count⟩
      · intro region member
        simp [nothing.phases region member, nothing.order]
      · intro ordered
        rw [nothing.order] at ordered
        cases ordered
    | ordered schedule all =>
      refine ⟨built, ?_, fun _ => ⟨schedule, all.scheduled, all.order, all.count, ?_⟩, ?_⟩
      · intro region member
        obtain ⟨index, found⟩ := List.mem_iff_getElem?.mp member
        simp [all.order, all.phase index region found]
      · intro index region found
        have levels := phased schedule all.scheduled
        exact ⟨all.phase index region found,
          all.count ▸ levels.phase_lt index (List.getElem?_eq_some_iff.mp found).1,
          levels.longest index region found⟩
      · intro absent
        cases absent.symm.trans all.order
    | abandoned schedule marks => exact absurd ⟨schedule, marks⟩ kept
  refine ⟨⟨?_, agrees⟩, ?_, ?_⟩
  · rintro agreeing ⟨schedule, marks⟩
    obtain ⟨region, member, _⟩ := marks.unstarted
    obtain ⟨index, found⟩ := List.mem_iff_getElem?.mp member
    have known := agreeing.known region member
    simp [marks.order, marks.phase index region found] at known
  · intro schedule marks
    exact ⟨settled.fresh marks.order, phased schedule marks.scheduled⟩
  · intro dependable
    refine agrees ?_
    rintro ⟨schedule, marks⟩
    obtain ⟨state, fault, failed⟩ := marks.failed
    cases (dependable state).symm.trans failed

/-- No built-in implementation fails to start, so the regions of the triangle, once it was built,
tell the phases of its order. -/
theorem agreeing_triangle : ((build (κ := Builtin)).run triangle).2.Agreeing ∧
    ((build (κ := Builtin)).run triangle).2.regions.map Region.phase = [some 2, some 1, some 0] ∧
    ((build (κ := Builtin)).run triangle).2.phaseCount = 3 := by
  have reachable : Reachable (fun _ => True) ((build (κ := Builtin)).run triangle).2 :=
    .step _ _ (reachable_putTogether _ trivial _ _) (.build triangle)
  obtain ⟨_, _, dependable⟩ := agreeing_of_reachable (fun _ => True) _ reachable
  refine ⟨dependable ?_, by decide +kernel, by decide +kernel⟩
  intro state
  cases state <;> rfl

/-- A late riser that was to be built once. -/
def unrisen : Network Scripted :=
  ((build (κ := Scripted)).run ((new default).added
    (Registry.registerAll ∅ [("LateRiser", Script.lateRiser.type)]) "riser" "LateRiser" ∅)).2

/-- The late riser tells its phase, while its network is unbuilt and has neither an order nor
phases. -/
theorem disagreeing_unrisen :
    ¬∀ network : Network Scripted, Reachable (fun _ => True) network → network.Agreeing := by
  intro always
  have reachable : Reachable (fun _ => True) unrisen :=
    .step _ _ (.step _ _ (.new default) (.addRegion _ _ "riser" "LateRiser" ∅ trivial)) (.build _)
  have told : unrisen.regions.map Region.phase = [some 0] := by decide +kernel
  have absent : unrisen.order = none := by decide +kernel
  obtain ⟨region, listed, phase⟩ := List.map_eq_singleton_iff.mp told
  have known := (always unrisen reachable).known region (listed ▸ List.mem_singleton_self region)
  simp [absent, phase] at known

end Network

end RegionGraph
