import RegionGraph.Proofs.Reachable
import RegionGraph.Proofs.Schedules
import RegionGraph.Proofs.Sizing

/-!
# Built networks

A network that has an execution order was built, and what building established
still holds of it: its buffers fit together, the order is that of its direct links,
every required input is linked, and every region was started. Only a change of the
topology ends this, by taking the order away. Building such a network again can fail
in its checks only, and then changes nothing; no region is started a second time.
-/

namespace RegionGraph

variable {κ ω : Type}

/-! ### What the order and the demands are read off -/

/-- What a region demands: its name, and of each input whether it is to be linked and
is not. -/
def Region.demands (region : Region κ) : String × NameMap Bool :=
  (region.name, region.inputs.map (fun _ input => input.required && !input.isLinked))

namespace Network

/-- The position that an index tells of a name. -/
def positionIn (index : NameMap Nat) (name : String) : Except GraphError Nat :=
  match index.get? name with
  | some position => .ok position
  | none => .error (.unknownRegion name)

/-- The execution order for regions of given names, indexed in a given way, and links of
given specifications. -/
def scheduleOf (index : NameMap Nat) (names : List String) (specs : List LinkSpec) :
    Except GraphError Schedule := do
  let edges ← (specs.filter (fun spec => !(spec.delay.toNat != 0))).mapM (fun spec => do
    let source ← positionIn index spec.source
    let destination ← positionIn index spec.destination
    return (source, destination))
  match Schedule.ofGraph ⟨names.length, edges⟩ with
  | .ok schedule => return schedule
  | .error members => throw (.cyclicGraph (members.filterMap (fun index => names[index]?)))

/-- Positions depend on the index alone. -/
theorem position_eq (network : Network κ) (name : String) :
    network.position name = positionIn network.index name := rfl

/-- The execution order depends on the index, names and specifications alone. -/
theorem schedule_eq (network : Network κ) :
    network.schedule = scheduleOf network.index (network.regions.map Region.name)
      (network.links.map Link.spec) := by
  have edges : (network.links.filter (fun link => !link.isDelayed)).mapM (fun link => do
      let source ← network.position link.spec.source
      let destination ← network.position link.spec.destination
      return (source, destination)) =
      ((network.links.map Link.spec).filter (fun spec => !(spec.delay.toNat != 0))).mapM
        (fun spec => do
          let source ← positionIn network.index spec.source
          let destination ← positionIn network.index spec.destination
          return (source, destination)) := by
    rw [List.filter_map, List.mapM_map]
    simp only [position_eq]
    rfl
  have named : (fun index : Nat => (network.regions.map Region.name)[index]?) =
      fun index => network.regions[index]?.map Region.name :=
    funext (fun _ => List.getElem?_map)
  unfold schedule scheduleOf directGraph
  dsimp only
  rw [edges, List.length_map, named]
  cases ((network.links.map Link.spec).filter (fun spec => !(spec.delay.toNat != 0))).mapM
      (fun spec => do
        let source ← positionIn network.index spec.source
        let destination ← positionIn network.index spec.destination
        return (source, destination)) with
  | error fault => rfl
  | ok edges => rfl

/-- The first input that is to be linked and is not, of regions given by their names
and the demands of their inputs. -/
def firstMissing (demands : List (String × NameMap Bool)) : Option (String × String) :=
  demands.findSome? (fun demand =>
    (demand.2.entries.find? (fun entry => entry.2)).map (fun entry => (demand.1, entry.1)))

/-- Required inputs are checked by names and demands alone. -/
theorem checkRequired_eq (network : Network κ) :
    network.checkRequired =
      match firstMissing (network.regions.map Region.demands) with
      | some (region, input) => .error (.missingRequiredInput region input)
      | none => .ok () := by
  have missing : network.regions.findSome? (fun region =>
      (region.inputs.entries.find? (fun entry => entry.2.required && !entry.2.isLinked)).map
        (fun entry => (region.name, entry.1))) =
      firstMissing (network.regions.map Region.demands) := by
    rw [firstMissing, List.findSome?_map]
    congr 1
    funext region
    simp only [Region.demands, NameMap.map, Function.comp_apply, List.find?_map, Option.map_map]
    rfl
  unfold checkRequired
  simp only [missing]
  cases firstMissing (network.regions.map Region.demands) <;> rfl

/-- The demands of a region are part of its frame. -/
theorem demands_of_frames (first second : Network κ)
    (frames : first.regions.map Region.frame = second.regions.map Region.frame) :
    first.regions.map Region.demands = second.regions.map Region.demands := by
  have read (network : Network κ) : network.regions.map Region.demands =
      (network.regions.map Region.frame).map (fun frame =>
        (frame.name, frame.inputs.map (fun _ input => input.2 && input.1.links.isEmpty))) := by
    rw [List.map_map]
    apply List.map_congr_left
    intro region _
    simp [Region.demands, Region.frame, NameMap.map_map, Endpoint.form, Endpoint.isLinked]
  rw [read, read, frames]

/-- The names of regions are part of their frames. -/
theorem names_of_frames (first second : Network κ)
    (frames : first.regions.map Region.frame = second.regions.map Region.frame) :
    first.regions.map Region.name = second.regions.map Region.name := by
  have read (network : Network κ) : network.regions.map Region.name =
      (network.regions.map Region.frame).map Frame.name := by
    rw [List.map_map]
    rfl
  rw [read, read, frames]

/-! ### What building establishes -/

/-- What holds of a network that was built with an execution order. -/
structure Built (network : Network κ) (order : List Nat) : Prop where
  shaped : network.Shaped
  scheduled : ∃ schedule, network.schedule = .ok schedule ∧ schedule.order = order
  required : network.checkRequired = .ok ()
  started : ∀ region ∈ network.regions, region.initialized = true

/-- Regions with the marks of regions that were started were started. -/
theorem started_of_marks (first second : List (Region κ))
    (marks : second.map Region.initialized = first.map Region.initialized)
    (started : ∀ region ∈ first, region.initialized = true) :
    ∀ region ∈ second, region.initialized = true := by
  intro region member
  have listed : region.initialized ∈ first.map Region.initialized :=
    marks ▸ List.mem_map_of_mem member
  obtain ⟨former, present, same⟩ := List.mem_map.mp listed
  exact same ▸ started former present

/-- A network with the names, index, specifications and demands of a built one is built if
it is shaped and started. -/
theorem built_of_names (first second : Network κ) (order : List Nat)
    (scheduled : ∃ schedule, first.schedule = .ok schedule ∧ schedule.order = order)
    (required : first.checkRequired = .ok ())
    (names : second.regions.map Region.name = first.regions.map Region.name)
    (index : second.index = first.index)
    (demands : second.regions.map Region.demands = first.regions.map Region.demands)
    (specs : second.links.map Link.spec = first.links.map Link.spec) (shaped : second.Shaped)
    (started : ∀ region ∈ second.regions, region.initialized = true) : second.Built order where
  shaped := shaped
  scheduled := by
    rw [schedule_eq, index, names, specs, ← schedule_eq]
    exact scheduled
  required := by
    rw [checkRequired_eq, demands, ← checkRequired_eq]
    exact required
  started := started

/-- A network stays built as long as frames, index, specifications and the shapes of
snapshots stay and regions that were started stay so. -/
theorem built_of_frames (first second : Network κ) (order : List Nat) (built : first.Built order)
    (frames : second.regions.map Region.frame = first.regions.map Region.frame)
    (index : second.index = first.index)
    (specs : second.links.map Link.spec = first.links.map Link.spec) (shaped : second.Shaped)
    (started : second.regions.map Region.initialized = first.regions.map Region.initialized) :
    second.Built order := by
  exact built_of_names first second order built.scheduled built.required
    (names_of_frames second first frames) index (demands_of_frames second first frames) specs
    shaped (started_of_marks _ _ started built.started)

/-- An execution order lists every position once. -/
theorem schedule_perm (network : Network κ) (schedule : Schedule)
    (scheduled : network.schedule = .ok schedule) :
    schedule.order.Perm (List.range network.regions.length) := by
  obtain ⟨graph, drawn, scheduled⟩ := (Traversal.bind_ok_iff _ _ _).mp scheduled
  obtain ⟨edges, _, made⟩ := (Traversal.bind_ok_iff _ _ _).mp drawn
  cases made
  cases found : Schedule.ofGraph ⟨network.regions.length, edges⟩ with
  | error members =>
    simp only [found] at scheduled
    cases scheduled
  | ok other =>
    simp only [found] at scheduled
    cases scheduled
    exact (Schedule.ofGraph_ok _ _ found).1

/-- A fitting plan visits every position of the network it gave its lengths once. -/
theorem perm_sized (network : Network κ) (plan : Plan) (fits : network.Fits plan) :
    plan.schedule.order.Perm (List.range (network.sized plan).regions.length) := by
  have count : (network.sized plan).regions.length = network.regions.length := List.length_mapIdx
  rw [count]
  exact network.schedule_perm plan.schedule fits.scheduled

/-! ### Starting -/

variable [Implementation κ]

/-- A region that was started is not started again. -/
theorem start_of_initialized (region : Region κ) (started : region.initialized = true) :
    region.start = (region, .ok ()) := if_pos started

/-- A region whose start succeeded is started. -/
theorem initialized_start (region : Region κ) (succeeded : region.start.2 = .ok ()) :
    region.start.1.initialized = true := by
  unfold Region.start at succeeded ⊢
  split
  · assumption
  · rename_i fresh
    rw [if_neg fresh] at succeeded
    split at succeeded
    · simp only
    · cases succeeded

/-- Where every region was started, starting changes nothing and cannot fail. -/
theorem startAll_of_started (order : List Nat) (network : Network κ)
    (started : ∀ region ∈ network.regions, region.initialized = true) :
    (order.forM startAt).run network = (.ok (), network) := by
  induction order with
  | nil => rfl
  | cons index rest inductionHypothesis =>
    have first : (startAt index).run network = (.ok (), network) := by
      rw [run_startAt]
      cases found : network.regions[index]? with
      | none => rfl
      | some region =>
        have kept := start_of_initialized region (started region (List.mem_of_getElem? found))
        have same := map_set_of_eq id network.regions index region region found rfl
        rw [List.map_id, List.map_id] at same
        simp only [kept, same]
    rw [List.forM_eq_forM] at inductionHypothesis ⊢
    rw [List.forM_cons, Edit.run_bind, first]
    exact inductionHypothesis

/-- The regions after those at some positions were started. -/
def startedAt (regions : List (Region κ)) (order : List Nat) : List (Region κ) :=
  regions.mapIdx (fun index region => if index ∈ order then region.start.1 else region)

/-- Where a region stands it is started, or left as it is. -/
theorem getElem?_startedAt (regions : List (Region κ)) (order : List Nat) (index : Nat) :
    (startedAt regions order)[index]? =
      regions[index]?.map (fun region => if index ∈ order then region.start.1 else region) :=
  List.getElem?_mapIdx

/-- Starting one region and then those at other positions. -/
theorem startedAt_cons (regions : List (Region κ)) (index : Nat) (rest : List Nat)
    (absent : index ∉ rest) (region : Region κ) (found : regions[index]? = some region) :
    startedAt (regions.set index region.start.1) rest = startedAt regions (index :: rest) := by
  apply List.ext_getElem?
  intro position
  rw [getElem?_startedAt, getElem?_startedAt, List.getElem?_set]
  by_cases here : index = position
  · subst here
    rw [if_pos rfl, if_pos (List.getElem?_eq_some_iff.mp found).1, found, Option.map_some,
      Option.map_some, if_neg absent, if_pos List.mem_cons_self]
  · rw [if_neg here]
    simp only [List.mem_cons, Ne.symm here, false_or]

/-- Starting no regions changes none. -/
theorem startedAt_nil (regions : List (Region κ)) : startedAt regions [] = regions := by
  apply List.ext_getElem?
  intro position
  simp [getElem?_startedAt]

/-- All regions at some positions start. -/
def AllStart (network : Network κ) (order : List Nat) : Prop :=
  ∀ index ∈ order, ∀ region, network.regions[index]? = some region → region.start.2 = .ok ()

/-- All regions at some positions start if the first of them does and, once it was started, all
others do. -/
theorem AllStart.cons {network : Network κ} {index : Nat} {region : Region κ}
    (found : network.regions[index]? = some region) (began : region.start.2 = .ok ())
    {rest : List Nat} (absent : index ∉ rest)
    (all : AllStart { network with regions := network.regions.set index region.start.1 } rest) :
    network.AllStart (index :: rest) := by
  intro position listed owner stands
  rcases List.mem_cons.mp listed with rfl | later
  · cases found.symm.trans stands
    exact began
  · have elsewhere : index ≠ position := by
      rintro rfl
      exact absent later
    exact all position later owner ((List.getElem?_set_ne elsewhere).trans stands)

/-- Starting the regions at different positions comes to the end if all of them start. Else it
comes to the first that does not, and those after it are left alone. -/
theorem startAll_walk (order : List Nat) (distinct : order.Nodup) (network : Network κ)
    (inside : ∀ index ∈ order, index < network.regions.length) :
    (network.AllStart order ∧ (order.forM startAt).run network =
        (.ok (), { network with regions := startedAt network.regions order })) ∨
      ∃ front last rest region fault, order = front ++ last :: rest ∧ network.AllStart front ∧
        network.regions[last]? = some region ∧ region.start.2 = .error fault ∧
        (order.forM startAt).run network =
          (.error fault, { network with regions := startedAt network.regions (front ++ [last]) }) := by
  induction order generalizing network with
  | nil =>
    refine Or.inl ⟨fun _ impossible => absurd impossible List.not_mem_nil, ?_⟩
    rw [startedAt_nil]
    rfl
  | cons index rest inductionHypothesis =>
    obtain ⟨absent, distinctRest⟩ := List.nodup_cons.mp distinct
    obtain ⟨region, found⟩ : ∃ region, network.regions[index]? = some region :=
      ⟨_, List.getElem?_eq_getElem (inside index List.mem_cons_self)⟩
    rw [List.forM_eq_forM, List.forM_cons, Edit.run_bind, run_startAt, found]
    dsimp only
    cases began : region.start.2 with
    | error fault =>
      refine Or.inr ⟨[], index, rest, region, fault, rfl,
        fun _ impossible => absurd impossible List.not_mem_nil, found, began, ?_⟩
      rw [List.nil_append, ← startedAt_cons network.regions index [] List.not_mem_nil region found,
        startedAt_nil]
    | ok _ =>
      have moved := inductionHypothesis distinctRest
        { network with regions := network.regions.set index region.start.1 } (by
          intro position later
          rw [List.length_set]
          exact inside position (List.mem_cons_of_mem index later))
      rcases moved with ⟨all, ran⟩ | ⟨front, last, others, owner, fault, split, all, stands, fails, ran⟩
      · refine Or.inl ⟨all.cons found began absent, ?_⟩
        rw [← startedAt_cons network.regions index rest absent region found]
        exact ran
      · have within : ∀ position ∈ front ++ [last], position ∈ rest := by
          intro position listed
          rw [split, List.append_cons]
          exact List.mem_append_left _ listed
        refine Or.inr ⟨index :: front, last, others, owner, fault, ?_, ?_, ?_, fails, ?_⟩
        · rw [split, List.cons_append]
        · exact all.cons found began
            (fun earlier => absent (within index (List.mem_append_left _ earlier)))
        · have elsewhere : index ≠ last := by
            rintro rfl
            exact absent (within index (List.mem_append_right _ (List.mem_singleton_self index)))
          rw [← List.getElem?_set_ne elsewhere]
          exact stands
        · rw [List.cons_append, ← startedAt_cons network.regions index (front ++ [last])
            (fun earlier => absent (within index earlier)) region found]
          exact ran

/-- Starting the regions at different positions succeeds exactly if each of them starts, and
then each is started. -/
theorem startAll_ok_iff (order : List Nat) (distinct : order.Nodup) (network after : Network κ)
    (inside : ∀ index ∈ order, index < network.regions.length) :
    (order.forM startAt).run network = (.ok (), after) ↔
      network.AllStart order ∧
      after = { network with regions := startedAt network.regions order } := by
  rcases startAll_walk order distinct network inside with
    ⟨all, ran⟩ | ⟨front, last, rest, region, fault, split, _, found, fails, ran⟩
  · rw [ran, Prod.mk.injEq, eq_comm (a := after)]
    exact and_congr_left fun _ => ⟨fun _ => all, fun _ => rfl⟩
  · rw [ran]
    constructor
    · intro impossible
      cases (Prod.mk.inj impossible).1
    · rintro ⟨all, _⟩
      have listed : last ∈ order := by
        rw [split]
        exact List.mem_append_right front List.mem_cons_self
      cases fails.symm.trans (all last listed region found)

/-- Starting all regions in some order succeeds exactly if every region starts, and then every
region is started. -/
theorem startAll_of_perm (network after : Network κ) (order : List Nat)
    (perm : order.Perm (List.range network.regions.length)) :
    (order.forM startAt).run network = (.ok (), after) ↔
      (∀ region ∈ network.regions, region.start.2 = .ok ()) ∧
      after = { network with regions := network.regions.map (fun region => region.start.1) } := by
  have listed (index : Nat) : index ∈ order ↔ index < network.regions.length := by
    rw [perm.mem_iff, List.mem_range]
  have every : startedAt network.regions order =
      network.regions.map (fun region => region.start.1) := by
    apply List.ext_getElem?
    intro index
    rw [getElem?_startedAt, List.getElem?_map]
    cases found : network.regions[index]? with
    | none => rfl
    | some region =>
      rw [Option.map_some, if_pos ((listed index).mpr (List.getElem?_eq_some_iff.mp found).1)]
      rfl
  rw [startAll_ok_iff order (perm.nodup_iff.mpr List.nodup_range) network after
    (fun index => (listed index).mp), every]
  refine and_congr_left fun _ => ?_
  constructor
  · intro all region member
    obtain ⟨index, found⟩ := List.mem_iff_getElem?.mp member
    exact all index ((listed index).mpr (List.getElem?_eq_some_iff.mp found).1) region found
  · intro all index _ region found
    exact all region (List.mem_of_getElem? found)

/-- The network that building by a plan leads to: all endpoints have their lengths, and all
regions are started. -/
def builtBy (network : Network κ) (plan : Plan) : Network κ :=
  { network.sized plan with
    regions := (network.sized plan).regions.map (fun region => region.start.1)
    order := some plan.schedule.order
    phaseCount := plan.schedule.phaseCount
    state := .initialized }

/-- Starting is all that is done to regions after they got their lengths, so it leaves the
frames that they have then. -/
theorem frames_builtBy (network : Network κ) (plan : Plan) :
    (network.builtBy plan).regions.map Region.frame =
      (network.sized plan).regions.map Region.frame := by
  rw [builtBy, List.map_map]
  exact List.map_congr_left (fun region _ => region.frame_start)

/-- Building anew succeeds exactly if the checks pass and every region starts. -/
theorem rebuilt_ok_iff (network after : Network κ) (sound : network.wiring.Sound) :
    network.rebuilt = (.ok (), after) ↔ ∃ plan, network.plan = .ok plan ∧
      (∀ region ∈ (network.sized plan).regions, region.start.2 = .ok ()) ∧
      after = network.builtBy plan := by
  unfold rebuilt
  cases planned : network.plan with
  | error fault => simp
  | ok plan =>
    have fits := network.fits_of_plan sound plan planned
    have starts (started : Network κ) := (network.sized plan).startAll_of_perm started
      plan.schedule.order (network.perm_sized plan fits)
    simp only [network.shape_of_fits sound plan fits, Except.ok.injEq, exists_eq_left']
    rcases began : (plan.schedule.order.forM startAt).run (network.sized plan) with
      ⟨outcome, final⟩
    cases outcome with
    | error fault =>
      constructor
      · intro impossible
        cases (Prod.mk.inj impossible).1
      · rintro ⟨all, _⟩
        cases began.symm.trans ((starts _).mpr ⟨all, rfl⟩)
    | ok _ =>
      obtain ⟨all, rfl⟩ := (starts final).mp began
      rw [Prod.mk.injEq, eq_comm (a := after)]
      exact ⟨fun done => ⟨all, done.2⟩, fun done => ⟨rfl, done.2⟩⟩

/-! ### The invariant of reachable networks -/

omit [Implementation κ] in
/-- A network has an execution order exactly while it is built, and is not running
between calls. -/
structure Settled (network : Network κ) : Prop where
  fresh : network.order = none → network.state = .unbuilt
  idle : ∀ order, network.order = some order →
    network.state = .initialized ∨ network.state = .stopped
  built : ∀ order, network.order = some order → network.Built order

omit [Implementation κ] in
/-- New lengths keep names, demands, specifications and marks of having started. -/
theorem sized_keeps (network : Network κ) (plan : Plan) :
    (network.sized plan).regions.map Region.name = network.regions.map Region.name ∧
      (network.sized plan).regions.map Region.demands = network.regions.map Region.demands ∧
      (network.sized plan).links.map Link.spec = network.links.map Link.spec ∧
      (network.sized plan).regions.map Region.initialized =
        network.regions.map Region.initialized := by
  refine ⟨network.map_sizedRegions plan _ (fun _ _ => rfl), network.map_sizedRegions plan _ ?_, ?_,
    network.map_sizedRegions plan _ (fun _ _ => rfl)⟩
  · intro region index
    simp only [Region.demands, sizedRegion, Region.sized, NameMap.map_map, Input.withBuffer,
      Endpoint.isLinked]
  · rw [sized, List.map_map]
    apply List.map_congr_left
    intro link _
    exact network.spec_sized plan link

omit [Implementation κ] in
/-- With new lengths the regions of a built network are started still. -/
theorem started_sized (network : Network κ) (order : List Nat) (built : network.Built order)
    (plan : Plan) : ∀ region ∈ (network.sized plan).regions, region.initialized = true := by
  obtain ⟨_, _, _, marks⟩ := network.sized_keeps plan
  exact started_of_marks _ _ marks built.started

/-- When a built network is built again no region is started. -/
theorem startAll_sized (network : Network κ) (order turns : List Nat)
    (built : network.Built order) (plan : Plan) :
    (turns.forM startAt).run (network.sized plan) = (.ok (), network.sized plan) :=
  startAll_of_started turns (network.sized plan) (network.started_sized order built plan)

/-- Building a built network again succeeds if the checks pass, and gives lengths only. -/
theorem rebuilt_of_built (network : Network κ) (sound : network.wiring.Sound) (order : List Nat)
    (built : network.Built order) (plan : Plan) (planned : network.plan = .ok plan) :
    network.rebuilt = (.ok (), { network.sized plan with
      order := some plan.schedule.order
      phaseCount := plan.schedule.phaseCount
      state := .initialized }) := by
  unfold rebuilt
  simp only [planned, network.shape_of_fits sound plan (network.fits_of_plan sound plan planned),
    network.startAll_sized order plan.schedule.order built plan]

/-- Building anew either changes nothing but regions on their first start, and keeps
the network without an order, or it establishes all that a built network has. -/
theorem rebuilt_settled (network : Network κ) (sound : network.wiring.Sound)
    (settled : network.Settled) :
    match network.rebuilt with
    | (.ok _, after) => after.state = .initialized ∧
        ∃ order, after.order = some order ∧ after.Built order
    | (.error _, after) => after.order = network.order ∧ after.Settled := by
  rcases done : network.rebuilt with ⟨outcome, after⟩
  cases outcome with
  | ok _ =>
    obtain ⟨plan, planned, starts, rfl⟩ := (network.rebuilt_ok_iff after sound).mp done
    have fits := network.fits_of_plan sound plan planned
    obtain ⟨names, demands, specs, _⟩ := network.sized_keeps plan
    have frames := network.frames_builtBy plan
    refine ⟨rfl, plan.schedule.order, rfl, ?_⟩
    refine built_of_names network _ _ ⟨plan.schedule, fits.scheduled, rfl⟩ fits.required
      ((names_of_frames _ (network.sized plan) frames).trans names) rfl
      ((demands_of_frames _ (network.sized plan) frames).trans demands) specs
      (shaped_of_links (network.sized plan) _ frames.symm rfl rfl
        (network.shaped_sized sound plan fits)) ?_
    intro region member
    obtain ⟨former, present, rfl⟩ := List.mem_map.mp member
    exact initialized_start former (starts former present)
  | error fault =>
    unfold rebuilt at done
    cases planned : network.plan with
    | error other =>
      rw [planned] at done
      cases done
      exact ⟨rfl, settled⟩
    | ok plan =>
      have fits := network.fits_of_plan sound plan planned
      obtain ⟨regions, effect, _⟩ := startAll_effect plan.schedule.order (network.sized plan)
      simp only [planned, network.shape_of_fits sound plan fits] at done
      rcases started : (plan.schedule.order.forM startAt).run (network.sized plan) with
        ⟨result, final⟩
      rw [started] at effect done
      cases effect
      cases result with
      | ok _ => cases done
      | error _ =>
        cases done
        refine ⟨rfl, settled.fresh, settled.idle, ?_⟩
        intro order ordered
        rw [network.startAll_sized order plan.schedule.order (settled.built order ordered) plan]
          at started
        cases started

end Network

end RegionGraph
