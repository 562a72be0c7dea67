import RegionGraph.Proofs.Propagation
import RegionGraph.Proofs.Registries

/-!
# What regions go through

Whatever is done to a network, a region in it was made by an earlier call or comes from
a region that was there before, by starting, computing and taking parameters. Numbers
and lengths of links and buffers may change besides. So what holds of every region that
is made, and is kept by these three, holds of all regions at all times; and what these
three leave alone stays as long as the topology does.
-/

namespace RegionGraph

variable {κ ω : Type}

/-- What makes up a region apart from contents, links and progress: of an output its
type, of an input its type and whether it has to be connected. -/
structure Core (κ : Type) where
  name : String
  type : String
  spec : Spec
  params : Params
  state : κ
  outputs : NameMap ElementType
  inputs : NameMap (ElementType × Bool)

/-- What makes up a region. -/
def Region.core (region : Region κ) : Core κ where
  name := region.name
  type := region.type
  spec := region.spec
  params := region.params
  state := region.state
  outputs := region.outputs.map (fun _ output => output.buffer.type)
  inputs := region.inputs.map (fun _ input => (input.buffer.type, input.required))

/-- What calls may make of a region. -/
inductive Region.Evolves [Implementation κ] : Region κ → Region κ → Prop where
  | same (first second : Region κ) (cores : second.core = first.core) : Evolves first second
  | start (region : Region κ) : Evolves region region.start.1
  | compute (region : Region κ) (iteration : UInt64) (profiling : Bool) :
      Evolves region (region.compute iteration profiling).1
  | setParameter (region : Region κ) (name : String) (value : Value) :
      Evolves region (region.setParameter name value).1
  | trans (first second third : Region κ) (earlier : Evolves first second)
      (later : Evolves second third) : Evolves first third

namespace Region

/-- Other numbers of links change no core. -/
theorem core_rewire (outputs inputs : String → String → List LinkId → List LinkId)
    (region : Region κ) : (region.rewire outputs inputs).core = region.core := by
  simp only [core, rewire, NameMap.map_map]

/-- New lengths change no core. -/
theorem core_sized (region : Region κ) (outputs inputs : NameMap Nat) (phase : Nat) :
    (region.sized outputs inputs phase).core = region.core := by
  simp only [core, sized, NameMap.map_map, Input.withBuffer, Buffer.sized_type]

/-- Filling inputs changes no core, however far it comes. -/
theorem core_fillInputs (network : Network κ) (region : Region κ) :
    (network.fillInputs region).2.core = region.core := by
  obtain ⟨fill, same, effect⟩ := network.fillInputs_effect region
  rw [effect]
  simp only [core, NameMap.map_map, Input.withBuffer]
  congr 1
  apply NameMap.map_congr
  intro name input found
  rw [(same name input found).1]

/-- A restored region has the core of a new one. -/
theorem core_restored (name type : String) (spec : Spec) (record : RegionRecord) (state : κ)
    (region : Region κ) (done : restored name type spec record state = .ok region) :
    region.core = (new name type spec record.params state).core := by
  obtain ⟨middle, placed, done⟩ := (Traversal.bind_ok_iff _ _ _).mp done
  cases done
  obtain ⟨outputs, rfl, ports⟩ := restoreOutputs_ok _ middle _ placed
  have types := congrArg (NameMap.map (fun _ port => port.type)) ports
  simp only [NameMap.map_map, Endpoint.port] at types
  simp only [core, types]

variable [Implementation κ]

/-- Computing changes nothing of a core but the state. -/
theorem core_compute (region : Region κ) (iteration : UInt64) (profiling : Bool) :
    (region.compute iteration profiling).1.core = { region.core with
      state := (Implementation.compute region.state (region.exchange iteration)).state } := by
  have types (former latter : Buffer) : (former.refill latter).type = former.type :=
    (former.refill_shape latter).1
  unfold compute
  simp only
  split
  · split <;> simp only [core, absorb, NameMap.map_map, Input.withBuffer, types]
  · simp only [core, absorb, NameMap.map_map, Input.withBuffer, types]

omit [Implementation κ] in
/-- A value passes the check of a region if the parameter is declared as one that may be
written and the value fits. -/
theorem checkParameter_ok (region : Region κ) (name : String) (value converted : Value)
    (checked : region.checkParameter name value = .ok converted) :
    ∃ declared, region.spec.parameter? name = some declared ∧ declared.access = .readWrite ∧
      declared.check name value = .ok converted := by
  unfold checkParameter at checked
  cases found : region.spec.parameter? name with
  | none =>
    rw [found] at checked
    cases checked
  | some declared =>
    simp only [found] at checked
    split at checked
    case isTrue other => cases checked
    case isFalse writable => exact ⟨declared, rfl, of_not_not writable, checked⟩

/-- What it means that a parameter was set: it is declared as one that may be written,
its value fits, and the implementation takes it. -/
theorem setParameter_ok (region changed : Region κ) (name : String) (value : Value)
    (accepted : region.setParameter name value = (changed, .ok ())) :
    ∃ declared converted state, region.spec.parameter? name = some declared ∧
      Implementation.setParameter region.state name converted = (state, .ok ()) ∧
      declared.access = .readWrite ∧ declared.check name value = .ok converted ∧
      changed = { region with state, params := region.params.insert name converted } := by
  unfold setParameter at accepted
  cases checked : region.checkParameter name value with
  | error fault =>
    rw [checked] at accepted
    cases accepted
  | ok converted =>
    obtain ⟨declared, found, writable, fits⟩ := region.checkParameter_ok name value _ checked
    simp only [checked] at accepted
    split at accepted
    case h_1 state done taken =>
      cases accepted
      exact ⟨declared, converted, state, found, taken, writable, fits, rfl⟩
    case h_2 state fault refused => cases accepted

/-- What it means that a parameter was refused: it did not pass the checks, or the
implementation did not take it, and what this made of its state is kept. -/
theorem setParameter_error (region changed : Region κ) (name : String) (value : Value)
    (fault : GraphError) (refused : region.setParameter name value = (changed, .error fault)) :
    changed = region ∨ ∃ converted state,
      Implementation.setParameter region.state name converted = (state, .error fault) ∧
        changed = { region with state } := by
  unfold setParameter at refused
  cases checked : region.checkParameter name value with
  | error other =>
    rw [checked] at refused
    cases refused
    exact Or.inl rfl
  | ok converted =>
    simp only [checked] at refused
    split at refused
    case h_1 state done taken => cases refused
    case h_2 state other given =>
      cases refused
      exact Or.inr ⟨converted, state, given, rfl⟩

/-- Setting a parameter changes the state, as the implementation makes it, and the snapshot of
parameters. -/
theorem setParameter_eq (region : Region κ) (name : String) (value : Value) :
    ∃ state params, (region.setParameter name value).1 = { region with state, params } ∧
      (state = region.state ∨
        ∃ converted, state = (Implementation.setParameter region.state name converted).1) := by
  rcases made : region.setParameter name value with ⟨changed, result⟩
  cases result with
  | ok _ =>
    obtain ⟨_, converted, state, _, taken, _, _, rfl⟩ :=
      region.setParameter_ok changed name value made
    exact ⟨state, _, rfl, Or.inr ⟨converted, (congrArg Prod.fst taken).symm⟩⟩
  | error fault =>
    rcases region.setParameter_error changed name value fault made with
      rfl | ⟨converted, state, given, rfl⟩
    · exact ⟨changed.state, changed.params, rfl, Or.inl rfl⟩
    · exact ⟨state, region.params, rfl, Or.inr ⟨converted, (congrArg Prod.fst given).symm⟩⟩

end Region

namespace Network

variable [Implementation κ]

/-- Regions keep their places and evolve. -/
def Evolves (first second : Network κ) : Prop :=
  List.Forall₂ Region.Evolves first.regions second.regions

/-- Every region comes from one that was there before. -/
def Descends (first second : Network κ) : Prop :=
  ∀ region ∈ second.regions, ∃ former ∈ first.regions, former.Evolves region

namespace Evolves

variable {first second third : Network κ}

/-- Where cores stay regions evolve. -/
theorem of_cores (cores : second.regions.map Region.core = first.regions.map Region.core) :
    first.Evolves second := by
  have same : List.Forall₂ Eq (first.regions.map Region.core)
      (second.regions.map Region.core) := cores ▸ List.forall₂_refl _
  rw [List.forall₂_map_left_iff, List.forall₂_map_right_iff] at same
  exact same.imp (fun before after equal => .same before after equal.symm)

/-- A network may stay as it is. -/
theorem refl (network : Network κ) : network.Evolves network := of_cores rfl

/-- Regions evolve further. -/
theorem trans (earlier : first.Evolves second) (later : second.Evolves third) :
    first.Evolves third := by
  refine Traversal.forall₂_trans Region.Evolves ?_ earlier later
  exact fun before middle last => .trans before middle last

/-- One region evolves, the others stay. -/
theorem set (network : Network κ) (index : Nat) (region changed : Region κ)
    (found : network.regions[index]? = some region) (evolves : region.Evolves changed) :
    network.Evolves { network with regions := network.regions.set index changed } :=
  Traversal.forall₂_set Region.Evolves (fun _ => .same _ _ rfl) network.regions index region changed
    found evolves

/-- A network whose regions evolve descends from the former one. -/
theorem descends (evolves : first.Evolves second) : first.Descends second := by
  intro region member
  exact Traversal.exists_of_forall₂ evolves region member

end Evolves

/-! ### Running and building -/

/-- In a turn regions evolve. -/
theorem evolves_step (index : Nat) (network : Network κ) :
    network.Evolves ((step index).run network).2 := by
  have filled (region : Region κ) : region.Evolves (network.fillInputs region).2 :=
    .same _ _ (Region.core_fillInputs network region)
  rcases step_cases index network with unchanged | ⟨region, found, changed, effect, rfl | rfl⟩
  · exact unchanged.symm ▸ .refl network
  · rw [effect]
    exact .set network index region _ found (filled region)
  · rw [effect]
    exact .set network index region _ found (.trans _ _ _ (filled region) (.compute _ _ _))

/-- Computing in order regions evolve. -/
theorem evolves_stepAll (order : List Nat) (network : Network κ) :
    network.Evolves ((stepAll order).run network).2 :=
  stepAll_keeps network.Evolves order
    (fun current index _ evolved => evolved.trans (evolves_step index current))
    (fun _ evolved => evolved) network (.refl network)

/-- In a cycle regions evolve. -/
theorem evolves_cycle (order : List Nat) (network : Network κ) :
    network.Evolves ((cycle order).run network).2 := by
  unfold Network.Evolves
  rw [regions_cycle]
  exact evolves_stepAll order network

/-- Starting in order regions evolve. -/
theorem evolves_startAll (order : List Nat) (network : Network κ) :
    network.Evolves ((order.forM startAt).run network).2 :=
  startAll_keeps network.Evolves
    (fun current index region found evolved =>
      evolved.trans (Evolves.set current index region _ found (.start region)))
    order network (.refl network)

omit [Implementation κ] in
/-- New lengths change no cores. -/
theorem cores_sized (network : Network κ) (plan : Plan) :
    (network.sized plan).regions.map Region.core = network.regions.map Region.core :=
  network.map_sizedRegions plan Region.core (fun region _ => region.core_sized _ _ _)

/-- When a network is built anew regions evolve. -/
theorem evolves_rebuilt (network : Network κ) (sound : network.wiring.Sound) :
    network.Evolves network.rebuilt.2 := by
  unfold rebuilt
  cases planned : network.plan with
  | error fault => exact .refl network
  | ok plan =>
    simp only [network.shape_of_fits sound plan (network.fits_of_plan sound plan planned)]
    have shaped : network.Evolves (network.sized plan) := .of_cores (network.cores_sized plan)
    have started := evolves_startAll plan.schedule.order (network.sized plan)
    rcases begun : (plan.schedule.order.forM startAt).run (network.sized plan) with
      ⟨outcome, after⟩
    rw [begun] at started
    cases outcome with
    | error fault => exact shaped.trans started
    | ok _ => exact shaped.trans started

/-- When a network is built regions evolve. -/
theorem evolves_build (network : Network κ) (sound : network.wiring.Sound) :
    network.Evolves ((build (κ := κ)).run network).2 :=
  build_keeps (fun after => network.Evolves after) network (.refl network)
    (network.evolves_rebuilt sound)

/-- In a run regions evolve. -/
theorem evolves_run [Watcher κ ω] (network : Network κ) (sound : network.wiring.Sound)
    (cycles : Nat) (watchers : List ω) :
    network.Evolves (network.run cycles watchers).network := by
  refine (run_keeps (fun after => after.wiring.Sound ∧ network.Evolves after) cycles watchers ?_ ?_
    network ⟨sound, .refl network⟩).2
  · rintro former ⟨sound, evolved⟩
    exact ⟨former.wiring_build ▸ sound, evolved.trans (former.evolves_build sound)⟩
  · rintro former order _ ⟨sound, evolved⟩
    refine runCycles_keeps (fun after => after.wiring.Sound ∧ network.Evolves after) order ?_
      (fun _ _ kept => kept) cycles { former with state := .running } watchers ⟨sound, evolved⟩
    rintro current ⟨sound, evolved⟩
    exact ⟨wiring_cycle order current ▸ sound, evolved.trans (evolves_cycle order current)⟩

/-- When a parameter is set regions evolve. -/
theorem evolves_setParameter (network : Network κ) (indexed : network.Indexed)
    (region name : String) (value : Value) :
    network.Evolves ((setParameter region name value).run network).2 := by
  rw [run_setParameter]
  cases found : network.region region with
  | error fault => exact .refl network
  | ok owner =>
    obtain ⟨member, rfl⟩ := (network.region_ok_iff indexed region owner).mp found
    simp only [network.setRegion_eq indexed]
    unfold Network.Evolves
    rw [List.forall₂_map_right_iff, List.forall₂_same]
    intro other present
    split
    · rename_i named
      rw [network.region_unique indexed other owner present member named]
      exact .setParameter owner name value
    · exact .same other other rfl

/-! ### All operations -/

omit [Implementation κ] in
/-- Stopping leaves all regions as they are. -/
theorem regions_stop (network : Network κ) :
    ((stop (κ := κ)).run network).2.regions = network.regions := by
  simp only [stop, Edit.run_bind, Edit.run_get]
  cases network.state <;> rfl

omit [Implementation κ] in
/-- Cores are told without a look at links and levels. -/
theorem core_linkFree : LinkFree (Region.core (κ := κ)) :=
  ⟨Region.core_rewire, fun _ _ => rfl⟩

/-- Making a link changes no cores. -/
theorem evolves_addLink (network : Network κ) (sound : network.wiring.Sound) (spec : LinkSpec) :
    network.Evolves ((addLink spec).run network).2 := by
  rw [network.run_addLink sound spec]
  cases network.approve spec with
  | error fault => exact .refl network
  | ok named => exact .of_cores (core_linkFree.map_joined network named)

/-- Removing a link changes no cores. -/
theorem evolves_removeLink (network : Network κ) (sound : network.wiring.Sound) (id : LinkId) :
    network.Evolves ((removeLink id).run network).2 := by
  rw [network.run_removeLink sound id]
  cases network.ensureMutable with
  | error fault => exact .refl network
  | ok _ =>
    cases network.link? id with
    | none => exact .refl network
    | some link =>
      exact .of_cores ((core_linkFree.map_invalidated _).trans
        (core_linkFree.map_without network [id]))

/-- Removing a region keeps the cores of the others. -/
theorem descends_removeRegion (network : Network κ) (sound : network.wiring.Sound)
    (name : String) : network.Descends ((removeRegion name).run network).2 := by
  rw [network.run_removeRegion sound name]
  cases network.ensureMutable with
  | error fault => exact (Evolves.refl network).descends
  | ok _ =>
    cases network.position name with
    | error fault => exact (Evolves.refl network).descends
    | ok _ =>
      intro region member
      have kept : region.core ∈ (network.withoutRegion name).regions.map Region.core :=
        List.mem_map_of_mem member
      rw [core_linkFree.map_withoutRegion] at kept
      obtain ⟨former, remains, same⟩ := List.mem_map.mp kept
      exact ⟨former, List.mem_of_mem_filter remains, .same _ _ same.symm⟩

/-! ### What holds of every region -/

section Every

variable (kind : String → Option (RegionType κ)) (motive : Region κ → Prop)
  (keeps : ∀ first second : Region κ, first.Evolves second → motive first → motive second)
  (created : ∀ (name typeName : String) (type : RegionType κ) (params : Params) (state : κ),
    kind typeName = some type → type.create params name typeName = .ok state →
    motive (.new name typeName type.spec params state))
  (restored : ∀ (name typeName : String) (type : RegionType κ) (record : RegionRecord) (state : κ)
    (region : Region κ), kind typeName = some type →
    type.restore record name typeName = .ok state →
    Region.restored name typeName type.spec record state = .ok region → motive region)

include keeps

/-- What evolving keeps is kept where regions descend from former ones. -/
theorem every_of_descends (first second : Network κ) (descends : first.Descends second)
    (every : ∀ region ∈ first.regions, motive region) : ∀ region ∈ second.regions, motive region := by
  intro region member
  obtain ⟨former, before, evolved⟩ := descends region member
  exact keeps former region evolved (every former before)

/-- A further region adds nothing but itself. -/
theorem every_insertRegion (network : Network κ) (region : Region κ) (holds : motive region)
    (every : ∀ region ∈ network.regions, motive region) :
    ∀ other ∈ (network.insertRegion region).regions, motive other := by
  intro other member
  obtain ⟨former, listed, rfl⟩ := List.mem_map.mp member
  refine keeps former _ (.same _ _ rfl) ?_
  rcases List.mem_append.mp listed with before | new
  · exact every former before
  · exact (List.mem_singleton.mp new).symm ▸ holds

include created in
/-- Every operation keeps what holds of every new region and is kept by evolving. -/
theorem every_step (network next : Network κ)
    (step : Step (fun registry => registry.Offers kind) network next)
    (sound : network.wiring.Sound) (every : ∀ region ∈ network.regions, motive region) :
    ∀ region ∈ next.regions, motive region := by
  have kept (later : Network κ) (descends : network.Descends later) :
      ∀ region ∈ later.regions, motive region :=
    every_of_descends motive keeps network later descends every
  cases step with
  | addRegion _ registry name typeName params offers =>
    rcases network.added_cases registry name typeName params with
      unchanged | ⟨next, later, grown, outcome⟩
    · rw [unchanged]
      exact every
    · rw [grown]
      obtain ⟨_, spec, completed, state, middle, made, described, rfl⟩ :=
        network.addRegion_ok next registry later name typeName params outcome
      obtain ⟨offersAfter, type, offered, _, creation⟩ :=
        Registry.create_ok kind registry middle offers typeName params completed name state made
      obtain ⟨_, other, same, rfl⟩ :=
        Registry.spec_ok kind middle later offersAfter typeName spec described
      rw [offered, Option.some.injEq] at same
      exact every_insertRegion motive keeps network _
        (same ▸ created name typeName type completed state offered creation) every
  | removeRegion _ name => exact kept _ (network.descends_removeRegion sound name)
  | addLink _ spec => exact kept _ (network.evolves_addLink sound spec).descends
  | linkDefault _ source destination =>
    exact kept _ (network.evolves_addLink sound (.betweenDefaults source destination)).descends
  | removeLink _ id => exact kept _ (network.evolves_removeLink sound id).descends
  | build => exact kept _ (network.evolves_build sound).descends
  | run ω _ cycles watchers => exact kept _ (network.evolves_run sound cycles watchers).descends
  | stop => exact network.regions_stop.symm ▸ every
  | setParameter _ region name value =>
    exact kept _ (network.evolves_setParameter (network.indexed_of_sound sound) region name
      value).descends

include restored in
/-- Loading gives what holds of every restored region and is kept by evolving. -/
theorem every_load (bundle : Bundle) (settings : NetworkSettings) (network : Network κ)
    (registry later : Registry κ) (offers : registry.Offers kind)
    (loaded : (load bundle settings).run registry = (.ok network, later)) :
    ∀ region ∈ network.regions, motive region := by
  refine (load_keeps (fun network => ∀ region ∈ network.regions, motive region)
    (fun registry => registry.Offers kind) bundle settings network registry later loaded
    (fun _ impossible => absurd impossible List.not_mem_nil) offers ?_ ?_
    (fun _ _ every => every)).2
  · intro former entry next before after every offersBefore made
    obtain ⟨_, record, state, middle, spec, region, _, _, restoring, described, placed, rfl⟩ :=
      former.loadRegion_ok next bundle entry before after made
    obtain ⟨offersMiddle, type, offered, restoration⟩ :=
      Registry.restore_ok kind before middle offersBefore entry.type record entry.name state
        restoring
    obtain ⟨offersAfter, other, same, rfl⟩ :=
      Registry.spec_ok kind middle after offersMiddle entry.type spec described
    rw [offered, Option.some.injEq] at same
    refine ⟨every_insertRegion motive keeps former region ?_ every, offersAfter⟩
    exact restored entry.name entry.type type record state region offered restoration
      (same.symm ▸ placed)
  · intro former record next sound every made
    obtain ⟨named, _, rfl⟩ := former.loadLink_ok next sound record made
    exact every_of_descends motive keeps former (former.joined named)
      (Evolves.of_cores (core_linkFree.map_joined former named)).descends every

include created restored in
/-- In a reachable network, what holds of every new region and every restored one, and is
kept by evolving, holds of every region. -/
theorem every_of_reachable (network : Network κ)
    (reachable : Reachable (fun registry => registry.Offers kind) network) :
    ∀ region ∈ network.regions, motive region := by
  induction reachable with
  | new settings => exact fun _ impossible => absurd impossible List.not_mem_nil
  | load bundle settings registry later network offers loaded =>
    exact every_load kind motive keeps restored bundle settings network registry later offers loaded
  | step network next before step inductionHypothesis =>
    exact every_step kind motive keeps created network next step
      (sound_of_reachable _ network before) inductionHypothesis

end Every

end Network

end RegionGraph
