import RegionGraph.Proofs.Evolution

/-!
# What implementations go through

An implementation is made anew or from a record, and then lives through calls of three
kinds. It is started only while its region is not marked as started, it computes only
while its region is, and it may take parameters at any time. So what holds of every
implementation that is made, and is kept by calls of these kinds, holds of all
implementations at all times.
-/

namespace RegionGraph

variable {κ ω : Type}

/-- How far a region has come: the state of its implementation, and whether it is marked as
started. -/
def Region.standing (region : Region κ) : κ × Bool := (region.state, region.initialized)

/-- How far a region has come is told without a look at its links and its level. -/
theorem Region.standing_linkFree : LinkFree (Region.standing (κ := κ)) :=
  ⟨fun _ _ _ => rfl, fun _ _ => rfl⟩

/-- The type makes implementations of which something holds: those that are new are not
started, those from a record are started if the record says so. -/
structure RegionType.Begets (type : RegionType κ) (motive : κ → Bool → Prop) : Prop where
  created : ∀ params region name state, type.create params region name = .ok state →
    motive state false
  restored : ∀ record region name state, type.restore record region name = .ok state →
    motive state record.initialized

/-- All types that a registry finds make implementations of which something holds. -/
def Registry.Begets (registry : Registry κ) (motive : κ → Bool → Prop) : Prop :=
  ∀ name type, registry.found name = some type → type.Begets motive

/-- What holds of an implementation and its mark through all calls: starts of one that is
not marked, after which the mark tells whether they succeeded, computations of one that is
marked, and parameters. -/
structure Enduring [Implementation κ] (motive : κ → Bool → Prop) : Prop where
  start : ∀ state, motive state false →
    motive (Implementation.start state).1 (Implementation.start state).2.isOk
  compute : ∀ state io, motive state true → motive (Implementation.compute state io).state true
  setParameter : ∀ state started name value, motive state started →
    motive (Implementation.setParameter state name value).1 started

namespace Network

/-- Something holds of the implementations of all regions. -/
def Each (motive : κ → Bool → Prop) (network : Network κ) : Prop :=
  ∀ region ∈ network.regions, motive region.state region.initialized

variable (motive : κ → Bool → Prop)

/-- What holds of all implementations is told by how far the regions have come. -/
theorem each_of_standings (first second : Network κ)
    (same : second.regions.map Region.standing = first.regions.map Region.standing)
    (each : first.Each motive) : second.Each motive := by
  intro region member
  have listed : region.standing ∈ first.regions.map Region.standing :=
    same ▸ List.mem_map_of_mem member
  obtain ⟨former, present, told⟩ := List.mem_map.mp listed
  have state : former.state = region.state := congrArg Prod.fst told
  have mark : former.initialized = region.initialized := congrArg Prod.snd told
  rw [← state, ← mark]
  exact each former present

/-- One region is replaced by one of which the same holds. -/
theorem each_set (network : Network κ) (index : Nat) (changed : Region κ)
    (each : network.Each motive) (holds : motive changed.state changed.initialized) :
    Each motive { network with regions := network.regions.set index changed } := by
  intro region member
  rcases List.mem_or_eq_of_mem_set member with former | rfl
  · exact each region former
  · exact holds

/-- A further region adds nothing but itself. -/
theorem each_insertRegion (network : Network κ) (region : Region κ)
    (each : network.Each motive) (holds : motive region.state region.initialized) :
    (network.insertRegion region).Each motive := by
  refine each_of_standings motive { network with regions := network.regions ++ [region] } _ ?_ ?_
  · rw [Region.standing_linkFree.map_insertRegion, List.map_append]
    rfl
  · intro other member
    rcases List.mem_append.mp member with former | new
    · exact each other former
    · exact (List.mem_singleton.mp new).symm ▸ holds

variable [Implementation κ] (enduring : Enduring motive)

include enduring

/-! ### Calls to implementations -/

/-- A region that is started only if it is not marked. -/
theorem holds_start (region : Region κ) (holds : motive region.state region.initialized) :
    motive region.start.1.state region.start.1.initialized := by
  unfold Region.start
  split
  case isTrue started => exact holds
  case isFalse fresh =>
    have unmarked : region.initialized = false := by simpa using fresh
    rw [unmarked] at holds
    have kept := enduring.start region.state holds
    rcases began : Implementation.start region.state with ⟨state, outcome⟩
    rw [began] at kept
    cases outcome with
    | ok _ => exact kept
    | error fault =>
      simp only [unmarked]
      exact kept

/-- A region that is marked computes. -/
theorem holds_compute (region : Region κ) (started : region.initialized = true)
    (holds : motive region.state region.initialized) (iteration : UInt64) (profiling : Bool) :
    motive (region.compute iteration profiling).1.state
      (region.compute iteration profiling).1.initialized := by
  have state : (region.compute iteration profiling).1.state =
      (Implementation.compute region.state (region.exchange iteration)).state :=
    congrArg Core.state (region.core_compute iteration profiling)
  rw [state, Region.initialized_compute, started]
  rw [started] at holds
  exact enduring.compute region.state _ holds

/-- A region takes a parameter or refuses it. -/
theorem holds_setParameter (region : Region κ) (name : String) (value : Value)
    (holds : motive region.state region.initialized) :
    motive (region.setParameter name value).1.state
      (region.setParameter name value).1.initialized := by
  obtain ⟨state, params, made, rfl | ⟨converted, rfl⟩⟩ := region.setParameter_eq name value
  · rw [made]
    exact holds
  · rw [made]
    exact enduring.setParameter region.state region.initialized name converted holds

/-! ### Running and building -/

/-- A turn keeps what holds of all implementations while all of them are started. -/
theorem each_step (index : Nat) (network : Network κ)
    (started : ∀ region ∈ network.regions, region.initialized = true)
    (each : network.Each motive) : ((step index).run network).2.Each motive := by
  have standing (region : Region κ) :
      (network.fillInputs region).2.standing = region.standing := by
    obtain ⟨_, _, effect⟩ := network.fillInputs_effect region
    rw [effect]
    rfl
  have holds (region : Region κ) (member : region ∈ network.regions) :
      motive (network.fillInputs region).2.state (network.fillInputs region).2.initialized := by
    rw [show (network.fillInputs region).2.state = region.state from
        congrArg Prod.fst (standing region),
      show (network.fillInputs region).2.initialized = region.initialized from
        congrArg Prod.snd (standing region)]
    exact each region member
  rcases step_cases index network with unchanged | ⟨region, found, changed, effect, rfl | rfl⟩
  · exact unchanged.symm ▸ each
  · rw [effect]
    exact each_set motive network index _ each (holds region (List.mem_of_getElem? found))
  · rw [effect]
    have member := List.mem_of_getElem? found
    have mark := (congrArg Prod.snd (standing region)).trans (started region member)
    exact each_set motive network index _ each
      (holds_compute motive enduring _ mark (holds region member) _ _)

/-- Computing in order keeps what holds of all implementations while all are started. -/
theorem each_stepAll (order : List Nat) (network : Network κ)
    (started : ∀ region ∈ network.regions, region.initialized = true)
    (each : network.Each motive) : ((stepAll order).run network).2.Each motive := by
  refine (stepAll_keeps (fun network => (∀ region ∈ network.regions, region.initialized = true) ∧
    network.Each motive) order ?_ (fun _ holds => holds) network ⟨started, each⟩).2
  rintro current index _ ⟨started, each⟩
  obtain ⟨regions, effect, _, marks⟩ := step_effect index current
  refine ⟨?_, each_step motive enduring index current started each⟩
  rw [effect]
  exact started_of_marks current.regions regions marks started

/-- A cycle keeps what holds of all implementations while all are started. -/
theorem each_cycle (order : List Nat) (network : Network κ)
    (started : ∀ region ∈ network.regions, region.initialized = true)
    (each : network.Each motive) : ((cycle order).run network).2.Each motive := by
  unfold Each
  rw [regions_cycle]
  exact each_stepAll motive enduring order network started each

/-- Cycles of a built network keep what holds of all implementations. -/
theorem each_runCycles [Watcher κ ω] (order : List Nat) (cycles : Nat) (network : Network κ)
    (watchers : List ω) (sound : network.wiring.Sound) (built : network.Built order)
    (each : network.Each motive) :
    (runCycles order cycles network watchers).network.Each motive := by
  refine (runCycles_keeps (fun network => network.wiring.Sound ∧ network.Built order ∧
    network.Each motive) order ?_ ?_ cycles network watchers ⟨sound, built, each⟩).2.2
  · rintro current ⟨sound, built, each⟩
    exact ⟨wiring_cycle order current ▸ sound, (cycle_of_built order current sound built).1,
      each_cycle motive enduring order current built.started each⟩
  · rintro current state ⟨sound, built, each⟩
    exact ⟨sound, built_of_same current _ order built rfl rfl rfl, each⟩

/-- Starting in order keeps what holds of all implementations. -/
theorem each_startAll (order : List Nat) (network : Network κ) (each : network.Each motive) :
    ((order.forM startAt).run network).2.Each motive := by
  refine startAll_keeps (Each motive) ?_ order network each
  intro current index region found each
  exact each_set motive current index region.start.1 each
    (holds_start motive enduring region (each region (List.mem_of_getElem? found)))

/-- Building keeps what holds of all implementations. -/
theorem each_build (network : Network κ) (sound : network.wiring.Sound)
    (each : network.Each motive) : ((build (κ := κ)).run network).2.Each motive := by
  refine build_keeps (Each motive) network each ?_
  unfold rebuilt
  cases planned : network.plan with
  | error fault => exact each
  | ok plan =>
    simp only [network.shape_of_fits sound plan (network.fits_of_plan sound plan planned)]
    have sized : (network.sized plan).Each motive :=
      each_of_standings motive network _
        (network.map_sizedRegions plan Region.standing (fun _ _ => rfl)) each
    have started := each_startAll motive enduring plan.schedule.order _ sized
    rcases begun : (plan.schedule.order.forM startAt).run (network.sized plan) with
      ⟨outcome, after⟩
    rw [begun] at started
    cases outcome with
    | error fault => exact started
    | ok _ => exact started

/-- Running keeps what holds of all implementations. -/
theorem each_run [Watcher κ ω] (network : Network κ) (sound : network.wiring.Sound)
    (settled : network.Settled) (cycles : Nat) (watchers : List ω) (each : network.Each motive) :
    (network.run cycles watchers).network.Each motive := by
  refine (run_keeps (fun network => network.wiring.Sound ∧ network.Settled ∧ network.Each motive)
    cycles watchers ?_ ?_ network ⟨sound, settled, each⟩).2.2
  · rintro former ⟨sound, settled, each⟩
    exact ⟨former.wiring_build ▸ sound, (former.settled_build sound settled).1,
      each_build motive enduring former sound each⟩
  · rintro former order ordered ⟨sound, settled, each⟩
    have running := built_of_same former { former with state := .running } order
      (settled.built order ordered) rfl rfl rfl
    refine ⟨?_, ?_, each_runCycles motive enduring order cycles _ watchers sound running each⟩
    · rw [← former.run_of_order order ordered]
      exact former.wiring_run cycles watchers ▸ sound
    · rw [← former.run_of_order order ordered]
      exact (former.settled_run_of_order sound settled order ordered cycles watchers).1

/-! ### All operations -/

/-- Setting a parameter keeps what holds of all implementations. -/
theorem each_setParameter (network : Network κ) (indexed : network.Indexed)
    (region name : String) (value : Value) (each : network.Each motive) :
    ((setParameter region name value).run network).2.Each motive := by
  rw [run_setParameter]
  cases found : network.region region with
  | error fault => exact each
  | ok owner =>
    obtain ⟨member, rfl⟩ := (network.region_ok_iff indexed region owner).mp found
    simp only [network.setRegion_eq indexed]
    intro other present
    obtain ⟨former, before, rfl⟩ := List.mem_map.mp present
    split
    · exact holds_setParameter motive enduring owner name value (each owner member)
    · exact each former before

omit enduring [Implementation κ] in
/-- Making a link keeps what holds of all implementations. -/
theorem each_addLink (network : Network κ) (sound : network.wiring.Sound)
    (each : network.Each motive) (spec : LinkSpec) :
    ((addLink spec).run network).2.Each motive := by
  rw [network.run_addLink sound spec]
  cases network.approve spec with
  | error fault => exact each
  | ok named =>
    exact each_of_standings motive network _
      (Region.standing_linkFree.map_joined network named) each

omit enduring [Implementation κ] in
/-- Removing a link keeps what holds of all implementations. -/
theorem each_removeLink (network : Network κ) (sound : network.wiring.Sound)
    (each : network.Each motive) (id : LinkId) : ((removeLink id).run network).2.Each motive := by
  rw [network.run_removeLink sound id]
  cases network.ensureMutable with
  | error fault => exact each
  | ok _ =>
    cases network.link? id with
    | none => exact each
    | some link =>
      exact each_of_standings motive network _ ((Region.standing_linkFree.map_invalidated _).trans
        (Region.standing_linkFree.map_without network [id])) each

omit enduring [Implementation κ] in
/-- Removing a region keeps what holds of all implementations. -/
theorem each_removeRegion (network : Network κ) (sound : network.wiring.Sound)
    (each : network.Each motive) (name : String) :
    ((removeRegion name).run network).2.Each motive := by
  rw [network.run_removeRegion sound name]
  cases network.ensureMutable with
  | error fault => exact each
  | ok _ =>
    cases network.position name with
    | error fault => exact each
    | ok _ =>
      refine each_of_standings motive
        { network with regions := network.regions.filter (fun region => region.name ≠ name) } _
        (Region.standing_linkFree.map_withoutRegion network name) ?_
      exact fun region member => each region (List.mem_of_mem_filter member)

/-- Every operation keeps what holds of all implementations. -/
theorem each_of_step (usable : Registry κ → Prop)
    (begets : ∀ registry, usable registry → registry.Begets motive) (network next : Network κ)
    (step : Step usable network next) (sound : network.wiring.Sound) (settled : network.Settled)
    (each : network.Each motive) : next.Each motive := by
  cases step with
  | addRegion _ registry name type params known =>
    rcases network.added_cases registry name type params with
      unchanged | ⟨next, later, grown, outcome⟩
    · rw [unchanged]
      exact each
    · rw [grown]
      obtain ⟨_, spec, completed, state, middle, made, _, rfl⟩ :=
        network.addRegion_ok next registry later name type params outcome
      obtain ⟨maker, found, created⟩ :=
        registry.create_found middle type params completed name state made
      exact network.each_insertRegion motive _ each
        ((begets registry known type maker found).created completed name type state created)
  | removeRegion _ name => exact network.each_removeRegion motive sound each name
  | addLink _ spec => exact network.each_addLink motive sound each spec
  | linkDefault _ source destination =>
    exact network.each_addLink motive sound each (.betweenDefaults source destination)
  | removeLink _ id => exact network.each_removeLink motive sound each id
  | build => exact network.each_build motive enduring sound each
  | run ω _ cycles watchers =>
    exact network.each_run motive enduring sound settled cycles watchers each
  | stop =>
    unfold Each
    rw [network.regions_stop]
    exact each
  | setParameter _ region name value =>
    exact network.each_setParameter motive enduring (network.indexed_of_sound sound) region name
      value each

omit enduring [Implementation κ] in
/-- Loading gives what holds of all implementations that are restored. -/
theorem each_load (bundle : Bundle) (settings : NetworkSettings) (network : Network κ)
    (registry later : Registry κ) (begets : registry.Begets motive)
    (loaded : (load bundle settings).run registry = (.ok network, later)) :
    network.Each motive := by
  refine (load_keeps (Each motive) (fun registry => registry.Begets motive) bundle settings
    network registry later loaded (fun _ impossible => absurd impossible List.not_mem_nil) begets
    ?_ ?_ (fun _ _ each => each)).2
  · intro former entry next before after each begetsBefore made
    obtain ⟨_, record, state, middle, spec, region, _, _, restoring, described, placed, rfl⟩ :=
      former.loadRegion_ok next bundle entry before after made
    obtain ⟨found, type, here, restored⟩ :=
      before.restore_found middle entry.type record entry.name state restoring
    have foundAfter := middle.found_spec entry.type
    rw [described, found] at foundAfter
    have core := Region.core_restored entry.name entry.type spec record state region placed
    have mark : region.initialized = record.initialized := by
      obtain ⟨_, _, placed⟩ := (Traversal.bind_ok_iff _ _ _).mp placed
      cases placed
      rfl
    refine ⟨former.each_insertRegion motive region each ?_, ?_⟩
    · rw [mark, show region.state = state from congrArg Core.state core]
      exact (begetsBefore entry.type type here).restored record entry.name entry.type state restored
    · unfold Registry.Begets
      rw [foundAfter]
      exact begetsBefore
  · intro former record next sound each made
    obtain ⟨named, _, rfl⟩ := former.loadLink_ok next sound record made
    exact each_of_standings motive former _ (Region.standing_linkFree.map_joined former named) each

/-- In a reachable network, what holds of every implementation that is made, and is kept by
starts of one that is not started, by computations of one that is, and by parameters, holds
of all implementations. -/
theorem each_of_reachable (usable : Registry κ → Prop)
    (begets : ∀ registry, usable registry → registry.Begets motive) (network : Network κ)
    (reachable : Reachable usable network) : network.Each motive := by
  induction reachable with
  | new settings => exact fun _ impossible => absurd impossible List.not_mem_nil
  | load bundle settings registry later network known loaded =>
    exact each_load motive bundle settings network registry later (begets registry known) loaded
  | step network next before step inductionHypothesis =>
    exact each_of_step motive enduring usable begets network next step
      (sound_of_reachable usable network before) (settled_of_reachable usable network before)
      inductionHypothesis

end Network

end RegionGraph
