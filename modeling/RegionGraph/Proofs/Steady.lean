import RegionGraph.Proofs.Evolution
import RegionGraph.Proofs.Planning

/-!
# Plans that hold on

A network that was built could be built again and would get the order that it has,
unless an implementation changes its mind about the lengths of its outputs. For
implementations that do not, this holds as long as there is an order: neither runs nor
parameters touch what a plan depends on.
-/

namespace RegionGraph

variable {κ ω : Type}

/-- Implementations that tell the same lengths of their outputs all along. -/
class Steadfast (κ : Type) [Implementation κ] : Prop where
  start : ∀ state : κ, Implementation.outputCount? (Implementation.start state).1 =
    Implementation.outputCount? state
  compute : ∀ (state : κ) (io : Exchange),
    Implementation.outputCount? (Implementation.compute state io).state =
      Implementation.outputCount? state
  setParameter : ∀ (state : κ) (name : String) (value : Value),
    Implementation.outputCount? (Implementation.setParameter state name value).1 =
      Implementation.outputCount? state

variable [Implementation κ]

/-- The outline of a region is told by its core. -/
theorem Region.outline_of_core (first second : Region κ) (name : first.name = second.name)
    (spec : first.spec = second.spec)
    (counts : Implementation.outputCount? first.state = Implementation.outputCount? second.state)
    (outputs : first.core.outputs = second.core.outputs)
    (inputs : first.core.inputs = second.core.inputs) : first.outline = second.outline := by
  have names : first.outputs.names = second.outputs.names := by
    have told := congrArg NameMap.names outputs
    simpa only [core, NameMap.names_map] using told
  have required : first.inputs.map (fun _ input => input.required) =
      second.inputs.map (fun _ input => input.required) := by
    have told := congrArg (NameMap.map (fun _ declared => declared.2)) inputs
    simpa only [core, NameMap.map_map] using told
  have known : first.outputCount? = second.outputCount? := by
    funext output widths
    simp only [Region.outputCount?, spec, counts]
  simp only [outline, name, spec, names, required, known]

/-- Regions keep their outlines as they evolve. -/
theorem Region.outline_of_evolves [Steadfast κ] (first second : Region κ)
    (evolves : first.Evolves second) : second.outline = first.outline := by
  induction evolves with
  | same first second cores =>
    have state : second.state = first.state := congrArg Core.state cores
    exact second.outline_of_core first (congrArg Core.name cores) (congrArg Core.spec cores)
      (congrArg Implementation.outputCount? state) (congrArg Core.outputs cores)
      (congrArg Core.inputs cores)
  | start region =>
    have counts := Steadfast.start region.state
    unfold start
    split
    · rfl
    · split
      · rename_i state _ begun
        rw [begun] at counts
        exact outline_of_core { region with state, initialized := true } region rfl rfl counts rfl
          rfl
      · rename_i state _ begun
        rw [begun] at counts
        exact outline_of_core { region with state } region rfl rfl counts rfl rfl
  | compute region iteration profiling =>
    have kept := region.core_compute iteration profiling
    have state := congrArg Core.state kept
    exact outline_of_core _ region (congrArg Core.name kept) (congrArg Core.spec kept)
      ((congrArg Implementation.outputCount? state).trans (Steadfast.compute _ _))
      (by rw [kept]) (by rw [kept])
  | setParameter region name value =>
    obtain ⟨state, params, made, kept⟩ := region.setParameter_eq name value
    have counts : Implementation.outputCount? state = Implementation.outputCount? region.state := by
      rcases kept with rfl | ⟨converted, rfl⟩
      · rfl
      · exact Steadfast.setParameter region.state name converted
    rw [made]
    exact outline_of_core _ region rfl rfl counts rfl rfl
  | trans first second third _ _ earlier later => exact later.trans earlier

namespace Network

/-- A network with an order could be built again with the same order, and its outputs
would keep their lengths. -/
def Steady (network : Network κ) : Prop :=
  ∀ order, network.order = some order →
    ∃ plan, network.plan = .ok plan ∧ plan.schedule.order = order ∧ network.Exact plan.outputs

omit [Implementation κ] in
/-- Lengths of outputs are part of frames. -/
theorem exact_of_frames (first second : Network κ) (counts : OutputCounts)
    (frames : second.regions.map Region.frame = first.regions.map Region.frame)
    (exact : first.Exact counts) : second.Exact counts := by
  intro index region found name output present
  have stands := congrArg (fun frames => frames[index]?) frames
  simp only [List.getElem?_map, found, Option.map_some] at stands
  obtain ⟨former, before, same⟩ := Option.map_eq_some_iff.mp stands.symm
  have forms := congrArg (fun frame => frame.outputs.get? name) same
  simp only [Region.frame, NameMap.get?_map, present, Option.map_some, Option.map_eq_some_iff]
    at forms
  obtain ⟨outputBefore, presentBefore, form⟩ := forms
  exact (congrArg Form.length form).symm.trans
    (exact index former before name outputBefore presentBefore)

omit [Implementation κ] in
/-- Specifications of links are part of the wiring. -/
theorem specs_of_wiring (first second : Network κ) (wiring : first.wiring = second.wiring) :
    first.links.map Link.spec = second.links.map Link.spec := by
  have told := congrArg (fun wiring => wiring.links.map Prod.snd) wiring
  simpa only [Network.wiring, List.map_map, Function.comp_def] using told

omit [Implementation κ] in
/-- After new lengths were given outputs have them. -/
theorem exact_sized (network : Network κ) (plan : Plan) :
    (network.sized plan).Exact plan.outputs := by
  intro index region found name output present
  obtain ⟨former, _, rfl⟩ := network.exists_of_sized plan index region found
  simp only [sizedRegion, Region.sized, NameMap.get?_map, Option.map_eq_some_iff] at present
  obtain ⟨before, _, rfl⟩ := present
  exact before.buffer.sized_length _

/-- A cycle keeps frames. -/
theorem frames_cycle (order : List Nat) (network : Network κ) :
    ((cycle order).run network).2.regions.map Region.frame = network.regions.map Region.frame := by
  rw [regions_cycle, frames_stepAll]

/-- A network without an order is steady. -/
theorem steady_of_unordered (network : Network κ) (absent : network.order = none) :
    network.Steady := by
  intro order ordered
  rw [absent] at ordered
  cases ordered

variable [Steadfast κ]

/-- Where regions evolve outlines stay. -/
theorem outlines_of_evolves (first second : Network κ) (evolves : first.Evolves second) :
    first.regions.map Region.outline = second.regions.map Region.outline := by
  rw [← List.forall₂_eq_eq_eq, List.forall₂_map_left_iff, List.forall₂_map_right_iff]
  exact List.Forall₂.imp (fun before after evolved =>
    (before.outline_of_evolves after evolved).symm) evolves

/-- A network stays steady while regions evolve within their frames and the wiring and the
order stay. -/
theorem steady_of_evolves (first second : Network κ) (sound : first.wiring.Sound)
    (wiring : second.wiring = first.wiring) (evolves : first.Evolves second)
    (frames : second.regions.map Region.frame = first.regions.map Region.frame)
    (order : second.order = first.order) (steady : first.Steady) : second.Steady := by
  intro kept ordered
  obtain ⟨plan, planned, same, exact⟩ := steady kept (order.symm.trans ordered)
  have exactAfter := exact_of_frames first second plan.outputs frames exact
  exact ⟨plan, plan_of_exact first second sound (wiring ▸ sound)
    (outlines_of_evolves first second evolves) (specs_of_wiring second first wiring).symm plan planned
    exactAfter, same, exactAfter⟩

/-- Building leaves a steady network steady. -/
theorem steady_build (network : Network κ) (sound : network.wiring.Sound)
    (settled : network.Settled) (steady : network.Steady) :
    ((build (κ := κ)).run network).2.Steady := by
  refine build_keeps Steady network steady ?_
  have outcome := network.rebuilt_settled sound settled
  have wiring := network.wiring_rebuilt
  have evolves := network.evolves_rebuilt sound
  rcases done : network.rebuilt with ⟨result, after⟩
  rw [done] at outcome wiring evolves
  cases result with
  | error fault =>
    intro order ordered
    have formerly := outcome.1.symm.trans ordered
    obtain ⟨plan, planned, _⟩ := steady order formerly
    cases done.symm.trans
      (network.rebuilt_of_built sound order (settled.built order formerly) plan planned)
  | ok _ =>
    obtain ⟨plan, planned, _, rfl⟩ := (network.rebuilt_ok_iff after sound).mp done
    have exact := exact_of_frames (network.sized plan) _ _ (network.frames_builtBy plan)
      (network.exact_sized plan)
    rintro order ⟨⟩
    exact ⟨plan, plan_of_exact network _ sound (wiring ▸ sound)
      (outlines_of_evolves network _ evolves) (specs_of_wiring _ network wiring).symm plan planned
      exact, rfl, exact⟩

/-- Running a steady network with an order leaves it steady. -/
theorem steady_run_of_order [Watcher κ ω] (network : Network κ) (sound : network.wiring.Sound)
    (settled : network.Settled) (steady : network.Steady) (order : List Nat)
    (ordered : network.order = some order) (cycles : Nat) (watchers : List ω) :
    (network.run cycles watchers).network.Steady := by
  obtain ⟨_, kept, _⟩ :=
    network.settled_run_of_order sound settled order ordered cycles watchers
  refine steady_of_evolves network _ sound (network.wiring_run cycles watchers)
    (network.evolves_run sound cycles watchers) ?_ (kept.trans ordered.symm) steady
  rw [network.run_of_order order ordered]
  exact runCycles_keeps (fun after => after.regions.map Region.frame =
    network.regions.map Region.frame) order
    (fun current same => (frames_cycle order current).trans same) (fun _ _ same => same) cycles
    { network with state := .running } watchers rfl

/-- Running leaves a steady network steady, also one that is built on the way. -/
theorem steady_run [Watcher κ ω] (network : Network κ) (sound : network.wiring.Sound)
    (settled : network.Settled) (steady : network.Steady) (cycles : Nat) (watchers : List ω) :
    (network.run cycles watchers).network.Steady := by
  refine (run_keeps (fun network => network.wiring.Sound ∧ network.Settled ∧ network.Steady) cycles
    watchers ?_ ?_ network ⟨sound, settled, steady⟩).2.2
  · rintro former ⟨sound, settled, steady⟩
    exact ⟨former.wiring_build ▸ sound, (former.settled_build sound settled).1,
      former.steady_build sound settled steady⟩
  · rintro former order ordered ⟨sound, settled, steady⟩
    rw [← former.run_of_order order ordered]
    exact ⟨former.wiring_run cycles watchers ▸ sound,
      (former.settled_run_of_order sound settled order ordered cycles watchers).1,
      former.steady_run_of_order sound settled steady order ordered cycles watchers⟩

/-- Setting a parameter leaves a steady network steady. -/
theorem steady_setParameter (network : Network κ) (sound : network.wiring.Sound)
    (steady : network.Steady) (region name : String) (value : Value) :
    ((setParameter region name value).run network).2.Steady := by
  have indexed := network.indexed_of_sound sound
  obtain ⟨regions, effect, frames, _⟩ := network.setParameter_effect indexed region name value
  refine steady_of_evolves network _ sound (network.wiring_setParameter indexed region name value)
    (network.evolves_setParameter indexed region name value) ?_ ?_ steady
  · rw [effect]
    exact frames
  · rw [effect]

omit [Steadfast κ] in
/-- A change of the topology leaves a steady network steady, whatever its outcome. -/
theorem steady_of_rewired {α : Type} (network : Network κ) (steady : network.Steady)
    (outcome : Except GraphError α × Network κ) (rewired : network.Rewired outcome) :
    outcome.2.Steady := by
  rcases outcome with ⟨result, after⟩
  cases result with
  | error fault => exact rewired.symm ▸ steady
  | ok _ => exact after.steady_of_unordered rewired.2

/-- Every operation leaves a steady network steady. -/
theorem steady_step (usable : Registry κ → Prop) (network next : Network κ)
    (step : Step usable network next) (sound : network.wiring.Sound) (settled : network.Settled)
    (steady : network.Steady) : next.Steady := by
  cases step with
  | addRegion _ registry name type params known =>
    rcases network.added_cases registry name type params with
      unchanged | ⟨next, later, grown, outcome⟩
    · rw [unchanged]
      exact steady
    · rw [grown]
      obtain ⟨_, _, _, _, _, _, _, rfl⟩ :=
        network.addRegion_ok next registry later name type params outcome
      exact steady_of_unordered _ rfl
  | removeRegion _ name =>
    exact network.steady_of_rewired steady _ (network.rewired_removeRegion sound name)
  | addLink _ spec => exact network.steady_of_rewired steady _ (network.rewired_addLink sound spec)
  | linkDefault _ source destination =>
    exact network.steady_of_rewired steady _
      (network.rewired_addLink sound (.betweenDefaults source destination))
  | removeLink _ id =>
    exact network.steady_of_rewired steady _ (network.rewired_removeLink sound id)
  | build => exact network.steady_build sound settled steady
  | run ω _ cycles watchers => exact network.steady_run sound settled steady cycles watchers
  | stop =>
    have kept := (network.settled_stop settled).2
    have regions := network.regions_stop
    exact steady_of_evolves network _ sound network.wiring_stop
      (.of_cores (congrArg (List.map Region.core) regions))
      (congrArg (List.map Region.frame) regions) kept steady
  | setParameter _ region name value =>
    exact network.steady_setParameter sound steady region name value

/-- Every reachable network is steady. -/
theorem steady_of_reachable (usable : Registry κ → Prop) (network : Network κ)
    (reachable : Reachable usable network) : network.Steady := by
  induction reachable with
  | new settings => exact steady_of_unordered _ rfl
  | load bundle settings registry later network known loaded =>
    obtain ⟨_, _, order⟩ := sound_load bundle settings network registry later loaded
    exact network.steady_of_unordered order
  | step network next before step inductionHypothesis =>
    exact steady_step usable network next step (sound_of_reachable usable network before)
      (settled_of_reachable usable network before) inductionHypothesis

end Network

end RegionGraph
