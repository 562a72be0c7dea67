import RegionGraph.Proofs.Frames

/-!
# What building and running change

Building and running go through many steps, each of which may fail. Here every
step is opened once: what it makes of a network and of which parts it keeps its
hands off. Computing replaces regions by regions of the same frame, and the end of
a cycle replaces links by links of the same number and specification; building
gives endpoints new buffers of their type. So none of them touches the wiring,
whether it succeeds or fails.
-/

namespace RegionGraph

variable {κ ω : Type}

namespace Region

/-- Changing an output keeps whatever the change keeps of it. -/
theorem view_modifyOutput {π : Type} (tell : Endpoint → π) (region changed : Region κ)
    (name : String) (change : Endpoint → Except GraphError Endpoint)
    (keeps : ∀ endpoint after, change endpoint = .ok after → tell after = tell endpoint)
    (done : region.modifyOutput name change = .ok changed) :
    changed.view tell = region.view tell := by
  obtain ⟨endpoint, found, done⟩ := (Traversal.bind_ok_iff _ _ _).mp done
  obtain ⟨after, made, done⟩ := (Traversal.bind_ok_iff _ _ _).mp done
  cases done
  have bound := (region.output_ok_iff name endpoint).mp found
  simp only [view]
  congr 1
  apply NameMap.ext_get?
  intro other
  rw [NameMap.get?_map, NameMap.get?_map, NameMap.get?_insert]
  split
  · rename_i same
    rw [same, bound, Option.map_some, Option.map_some, keeps endpoint after made]
  · rfl

/-- Changing an input keeps whatever the change keeps of it. -/
theorem view_modifyInput {π : Type} (tell : Endpoint → π) (region changed : Region κ)
    (name : String) (change : Input → Except GraphError Input)
    (keeps : ∀ input after, change input = .ok after →
      tell after.toEndpoint = tell input.toEndpoint)
    (done : region.modifyInput name change = .ok changed) :
    changed.view tell = region.view tell := by
  obtain ⟨input, found, done⟩ := (Traversal.bind_ok_iff _ _ _).mp done
  obtain ⟨after, made, done⟩ := (Traversal.bind_ok_iff _ _ _).mp done
  cases done
  have bound := (region.input_ok_iff name input).mp found
  simp only [view]
  congr 1
  apply NameMap.ext_get?
  intro other
  rw [NameMap.get?_map, NameMap.get?_map, NameMap.get?_insert]
  split
  · rename_i same
    rw [same, bound, Option.map_some, Option.map_some, keeps input after made]
  · rfl

end Region

/-- Preparing an output changes neither its type nor its links. -/
theorem Endpoint.port_prepare (endpoint prepared : Endpoint) (count : Nat)
    (done : endpoint.prepare count = .ok prepared) : prepared.port = endpoint.port := by
  unfold Endpoint.prepare at done
  split at done
  · cases done
    rfl
  · split at done
    · cases done
      rfl
    · split at done
      · cases done
      · cases done
        rfl

/-- Restoring an output changes neither its type nor its links. -/
theorem Endpoint.port_restore (endpoint restored : Endpoint) (saved : Buffer)
    (done : endpoint.restore saved = .ok restored) : restored.port = endpoint.port := by
  unfold Endpoint.restore at done
  split at done
  · rename_i same
    cases done
    simp only [port, same]
  · cases done

/-- Preparing an input changes neither its type nor its links. -/
theorem Input.port_prepare (input : Input) (count : Nat) :
    (input.prepare count).toEndpoint.port = input.toEndpoint.port := by
  unfold Input.prepare
  split <;> rfl

namespace Network

/-- Networks with the same frames, index, links and next number are wired the same. -/
theorem wiring_of_frames (first second : Network κ)
    (frames : first.regions.map Region.frame = second.regions.map Region.frame)
    (index : first.index = second.index)
    (links : first.links.map (fun link => (link.id, link.spec)) =
      second.links.map (fun link => (link.id, link.spec)))
    (next : first.nextLinkId = second.nextLinkId) : first.wiring = second.wiring := by
  have nodes (network : Network κ) : network.regions.map (Region.view Endpoint.port) =
      (network.regions.map Region.frame).map Frame.node := by
    rw [List.map_map]
    exact List.map_congr_left (fun region _ => region.node_frame.symm)
  simp only [wiring, nodes, frames, index, links, next]

/-- Replacing a region by one of which the same is told keeps all that is told. -/
theorem map_set_of_eq {τ : Type} (tell : Region κ → τ) (regions : List (Region κ)) (index : Nat)
    (region changed : Region κ) (found : regions[index]? = some region)
    (same : tell changed = tell region) :
    (regions.set index changed).map tell = regions.map tell := by
  apply List.ext_getElem?
  intro other
  rw [List.getElem?_map, List.getElem?_map, List.getElem?_set]
  split
  · rename_i here
    obtain ⟨inside, _⟩ := List.getElem?_eq_some_iff.mp found
    rw [if_pos inside, ← here, found, Option.map_some, Option.map_some, same]
  · rfl

/-! ### Running -/

/-- Editing delayed links replaces some of them by what they become with the contents of their
sources, and nothing else, however it ends. -/
theorem editAllDelayed_effect (change : Link → Buffer → Link) (network : Network κ) :
    ∃ links, ((editAllDelayed change).run network).2 = { network with links } ∧
      List.Forall₂ (fun before after =>
        after = before ∨ ∃ live, network.sourceBuffer before = .ok live ∧
          after = change before live) network.links links := by
  refine ⟨(editEach (network.editDelayed change) network.links).2, ?_, ?_⟩
  · simp only [editAllDelayed, Edit.run_bind, Edit.run_get, Edit.run_set, Edit.run_lift]
  · refine (Edit.editEach_cases (network.editDelayed change) network.links).imp ?_
    rintro before after (same | made)
    · exact Or.inl same
    · unfold editDelayed at made
      split at made
      · cases held : network.sourceBuffer before with
        | error fault =>
          rw [held] at made
          exact Or.inl made
        | ok live =>
          rw [held] at made
          exact Or.inr ⟨live, rfl, made⟩
      · exact Or.inl made

/-- Where the source of every delayed link is found, each becomes what it is to become. -/
theorem editAllDelayed_ok (change : Link → Buffer → Link) (network : Network κ)
    (live : Link → Buffer)
    (sources : ∀ link ∈ network.links, network.sourceBuffer link = .ok (live link)) :
    (editAllDelayed change).run network = (.ok (), { network with
      links := network.links.map (fun link =>
        if link.isDelayed then change link (live link) else link) }) := by
  have each := Edit.editEach_ok (network.editDelayed change)
    (fun link => if link.isDelayed then change link (live link) else link) network.links (by
      intro link member
      unfold editDelayed
      rw [sources link member]
      split <;> rfl)
  simp only [editAllDelayed, Edit.run_bind, Edit.run_get, Edit.run_set, Edit.run_lift, each]

/-- Moving on keeps the number and the specification of a link. -/
theorem shift_id_spec (link : Link) (live : Buffer) :
    ((link.shift live).id, (link.shift live).spec) = (link.id, link.spec) := by
  unfold Link.shift
  split
  · split <;> rfl
  · rfl

/-- New snapshots keep the number and the specification of a link. -/
theorem prepare_id_spec (link : Link) (source : Buffer) :
    ((link.prepare source).id, (link.prepare source).spec) = (link.id, link.spec) := by
  unfold Link.prepare
  split <;> rfl

/-- Editing delayed links keeps the wiring if it keeps numbers and specifications of links. -/
theorem wiring_editAllDelayed (change : Link → Buffer → Link)
    (same : ∀ link live, ((change link live).id, (change link live).spec) = (link.id, link.spec))
    (network : Network κ) : ((editAllDelayed change).run network).2.wiring = network.wiring := by
  obtain ⟨links, effect, each⟩ := editAllDelayed_effect change network
  rw [effect]
  refine wiring_of_frames _ _ rfl rfl ?_ rfl
  rw [← List.forall₂_eq_eq_eq, List.forall₂_map_left_iff, List.forall₂_map_right_iff]
  refine (each.imp ?_).flip
  rintro before after (rfl | ⟨live, _, rfl⟩)
  · rfl
  · exact same before live

/-- The end of a cycle replaces links and nothing else, also when it fails. -/
theorem shiftLinks_effect (network : Network κ) :
    ∃ links, ((shiftLinks (κ := κ)).run network).2 = { network with links } := by
  obtain ⟨links, effect, _⟩ := editAllDelayed_effect Link.shift network
  exact ⟨links, effect⟩

/-- The end of a cycle keeps the wiring, also when it fails. -/
theorem wiring_shiftLinks (network : Network κ) :
    ((shiftLinks (κ := κ)).run network).2.wiring = network.wiring :=
  wiring_editAllDelayed Link.shift shift_id_spec network

variable [Implementation κ]

/-- One region's computation: its inputs are filled, it computes, and it takes its
place again, whether it failed or not. -/
theorem run_step (index : Nat) (network : Network κ) :
    (step index).run network =
      match network.regions[index]? with
      | none => (.ok (), network)
      | some region =>
        match network.fillInputs region with
        | (.error fault, filled) =>
          (.error fault, { network with regions := network.regions.set index filled })
        | (.ok _, filled) =>
          ((filled.compute network.iteration network.settings.profiling).2,
            { network with
              regions := network.regions.set index
                (filled.compute network.iteration network.settings.profiling).1 }) := by
  simp only [step, Edit.run_bind, Edit.run_get]
  cases network.regions[index]? with
  | none => rfl
  | some region =>
    simp only [Edit.run_bind, Edit.run_set, Edit.run_lift]
    rcases network.fillInputs region with ⟨fault | _, filled⟩ <;> rfl

/-- What a turn does to its region: it is filled, and then it may compute. -/
theorem step_cases (index : Nat) (network : Network κ) :
    ((step index).run network).2 = network ∨
      ∃ region, network.regions[index]? = some region ∧ ∃ changed,
        ((step index).run network).2 =
          { network with regions := network.regions.set index changed } ∧
        (changed = (network.fillInputs region).2 ∨
          changed = ((network.fillInputs region).2.compute network.iteration
            network.settings.profiling).1) := by
  rw [run_step]
  cases found : network.regions[index]? with
  | none => exact Or.inl rfl
  | some region =>
    refine Or.inr ⟨region, rfl, ?_⟩
    simp only
    split
    · rename_i fault filled filling
      exact ⟨filled, rfl, Or.inl (by rw [filling])⟩
    · rename_i filled filling
      exact ⟨_, rfl, Or.inr (by rw [filling])⟩

/-- A computation replaces regions by regions of the same frames, as started as they
were, and nothing else. -/
theorem step_effect (index : Nat) (network : Network κ) :
    ∃ regions, ((step index).run network).2 = { network with regions } ∧
      regions.map Region.frame = network.regions.map Region.frame ∧
      regions.map Region.initialized = network.regions.map Region.initialized := by
  have frame (region : Region κ) := network.frame_fillInputs region
  have started (region : Region κ) :
      (network.fillInputs region).2.initialized = region.initialized := by
    obtain ⟨_, _, effect⟩ := network.fillInputs_effect region
    rw [effect]
  rcases step_cases index network with
    unchanged | ⟨region, found, changed, effect, rfl | rfl⟩
  · exact ⟨network.regions, unchanged, rfl, rfl⟩
  · exact ⟨_, effect, map_set_of_eq _ network.regions index region _ found (frame region),
      map_set_of_eq _ network.regions index region _ found (started region)⟩
  · refine ⟨_, effect, map_set_of_eq _ network.regions index region _ found ?_,
      map_set_of_eq _ network.regions index region _ found ?_⟩
    · rw [Region.frame_compute]
      exact frame region
    · rw [Region.initialized_compute]
      exact started region

/-- Regions compute one after the other; the first failure stops the network. -/
theorem run_stepAll_cons (index : Nat) (rest : List Nat) (network : Network κ) :
    (stepAll (index :: rest)).run network =
      match (step index).run network with
      | (.ok _, after) => (stepAll rest).run after
      | (.error fault, after) =>
        (.error (.computeFailure ((network.regions[index]?.map Region.name).getD "")
          network.iteration fault), { after with state := .stopped }) := by
  simp only [stepAll, Edit.run_bind, Edit.run_get, Edit.run_tryCatch]
  rcases (step index).run network with ⟨outcome, after⟩
  cases outcome <;> rfl

/-- Computing in order keeps whatever each turn keeps, however it ends, if it does not matter
whether the network is said to be stopped. -/
theorem stepAll_keeps (motive : Network κ → Prop) (order : List Nat)
    (turn : ∀ network, ∀ index ∈ order, motive network → motive ((step index).run network).2)
    (stopped : ∀ network, motive network → motive { network with state := .stopped })
    (network : Network κ) (holds : motive network) :
    motive ((stepAll order).run network).2 := by
  induction order generalizing network with
  | nil => exact holds
  | cons index rest inductionHypothesis =>
    have first := turn network index List.mem_cons_self holds
    rw [run_stepAll_cons]
    rcases stepped : (step index).run network with ⟨outcome, after⟩
    rw [stepped] at first
    cases outcome with
    | error fault => exact stopped after first
    | ok _ =>
      exact inductionHypothesis
        (fun other index member => turn other index (List.mem_cons_of_mem _ member)) after first

/-- Computing in order replaces regions by regions of the same frames, as started as
they were; a failure also stops the network. -/
theorem stepAll_effect (order : List Nat) (network : Network κ) :
    ∃ regions state, ((stepAll order).run network).2 = { network with regions, state } ∧
      regions.map Region.frame = network.regions.map Region.frame ∧
      regions.map Region.initialized = network.regions.map Region.initialized ∧
      state = match ((stepAll order).run network).1 with
        | .ok _ => network.state
        | .error _ => .stopped := by
  induction order generalizing network with
  | nil => exact ⟨network.regions, network.state, rfl, rfl, rfl, rfl⟩
  | cons index rest inductionHypothesis =>
    obtain ⟨regions, effect, frames, started⟩ := step_effect index network
    rw [run_stepAll_cons]
    rcases stepped : (step index).run network with ⟨outcome, after⟩
    rw [stepped] at effect
    cases effect
    cases outcome with
    | error fault => exact ⟨regions, .stopped, rfl, frames, started, rfl⟩
    | ok _ =>
      obtain ⟨later, state, ended, same, kept, lifecycle⟩ :=
        inductionHypothesis { network with regions }
      exact ⟨later, state, ended, same.trans frames, kept.trans started, lifecycle⟩

/-- Computing in order keeps frames. -/
theorem frames_stepAll (order : List Nat) (network : Network κ) :
    ((stepAll order).run network).2.regions.map Region.frame =
      network.regions.map Region.frame := by
  obtain ⟨regions, state, effect, frames, _⟩ := stepAll_effect order network
  rw [effect]
  exact frames

/-- Computing in order keeps the wiring. -/
theorem wiring_stepAll (order : List Nat) (network : Network κ) :
    ((stepAll order).run network).2.wiring = network.wiring := by
  obtain ⟨regions, state, effect, frames, _⟩ := stepAll_effect order network
  rw [effect]
  exact wiring_of_frames _ _ frames rfl rfl rfl

/-- A cycle is all computations and then, if none failed, the end of the cycle. -/
theorem run_cycle (order : List Nat) (network : Network κ) :
    (cycle order).run network =
      match (stepAll order).run network with
      | (.error fault, after) => (.error fault, after)
      | (.ok _, after) =>
        match shiftLinks.run after with
        | (.error fault, shifted) => (.error fault, shifted)
        | (.ok _, shifted) => (.ok (), { shifted with iteration := shifted.iteration + 1 }) := by
  simp only [cycle, Edit.run_bind, Edit.run_modify]
  rcases (stepAll order).run network with ⟨fault | _, after⟩
  case error => rfl
  case ok =>
    simp only
    rcases shiftLinks.run after with ⟨fault | _, shifted⟩ <;> rfl

/-- The end of a cycle leaves all regions as their computations left them. -/
theorem regions_cycle (order : List Nat) (network : Network κ) :
    ((cycle order).run network).2.regions = ((stepAll order).run network).2.regions := by
  rw [run_cycle]
  rcases (stepAll order).run network with ⟨outcome, after⟩
  cases outcome with
  | error fault => rfl
  | ok _ =>
    simp only
    obtain ⟨links, effect⟩ := after.shiftLinks_effect
    rcases moved : shiftLinks.run after with ⟨result, shifted⟩
    rw [moved] at effect
    cases effect
    cases result <;> rfl

/-- A cycle keeps the wiring, also when it fails. -/
theorem wiring_cycle (order : List Nat) (network : Network κ) :
    ((cycle order).run network).2.wiring = network.wiring := by
  have computed := wiring_stepAll order network
  rw [run_cycle]
  rcases outcome : (stepAll order).run network with ⟨result, after⟩
  rw [outcome] at computed
  cases result with
  | error fault => exact computed
  | ok _ =>
    simp only
    have moving := after.wiring_shiftLinks
    rcases moved : shiftLinks.run after with ⟨result, shifted⟩
    rw [moved] at moving
    cases result <;> exact moving.trans computed

/-- A run of cycles keeps whatever a cycle keeps, however it ends, if it does not matter
whether the network is said to be running. -/
theorem runCycles_keeps [Watcher κ ω] (motive : Network κ → Prop) (order : List Nat)
    (cycled : ∀ network, motive network → motive ((cycle order).run network).2)
    (renamed : ∀ network state, motive network → motive { network with state })
    (cycles : Nat) (network : Network κ) (watchers : List ω) (holds : motive network) :
    motive (runCycles order cycles network watchers).network := by
  induction cycles generalizing network watchers with
  | zero => exact renamed network .initialized holds
  | succ more inductionHypothesis =>
    have kept := cycled network holds
    unfold runCycles
    rcases outcome : (cycle order).run network with ⟨result, after⟩
    rw [outcome] at kept
    cases result with
    | error fault => exact kept
    | ok _ =>
      simp only
      rcases after.notifyAll watchers with ⟨told, control⟩
      cases control with
      | halt => exact renamed after .stopped kept
      | «continue» => exact inductionHypothesis after told kept

/-! ### Building -/

/-- Starting an implementation: it takes its place again, whether it failed or not. -/
theorem run_startAt (index : Nat) (network : Network κ) :
    (startAt index).run network =
      match network.regions[index]? with
      | none => (.ok (), network)
      | some region =>
        (region.start.2, { network with regions := network.regions.set index region.start.1 }) := by
  simp only [startAt, Edit.run_bind, Edit.run_get]
  cases network.regions[index]? with
  | none => rfl
  | some region => rfl

/-- Starting in order keeps whatever each start keeps, however it ends. -/
theorem startAll_keeps (motive : Network κ → Prop)
    (started : ∀ (network : Network κ) index region, network.regions[index]? = some region →
      motive network → motive { network with regions := network.regions.set index region.start.1 })
    (order : List Nat) (network : Network κ) (holds : motive network) :
    motive ((order.forM startAt).run network).2 := by
  refine Edit.forM_keeps motive startAt order ?_ network holds
  intro index _ current held
  rw [run_startAt]
  cases found : current.regions[index]? with
  | none => exact held
  | some region => exact started current index region found held

/-- Starting replaces regions by regions of the same frames, and nothing else. -/
theorem startAll_effect (order : List Nat) (network : Network κ) :
    ∃ regions, ((order.forM startAt).run network).2 = { network with regions } ∧
      regions.map Region.frame = network.regions.map Region.frame := by
  refine startAll_keeps (fun after => ∃ regions, after = { network with regions } ∧
    regions.map Region.frame = network.regions.map Region.frame) ?_ order network
    ⟨network.regions, rfl, rfl⟩
  rintro _ index region found ⟨regions, rfl, same⟩
  exact ⟨_, rfl, (map_set_of_eq _ regions index region _ found region.frame_start).trans same⟩

/-- What building does where it has something to do: first all checks, then all
lengths, then all starts. -/
def rebuilt (network : Network κ) : Except GraphError Unit × Network κ :=
  match network.plan with
  | .error fault => (.error fault, network)
  | .ok plan =>
    match (shape plan).run network with
    | (.error fault, shaped) => (.error fault, shaped)
    | (.ok _, shaped) =>
      match (plan.schedule.order.forM startAt).run shaped with
      | (.error fault, after) => (.error fault, after)
      | (.ok _, after) =>
        (.ok (), { after with
          order := some plan.schedule.order
          phaseCount := plan.schedule.phaseCount
          state := .initialized })

/-- Building has something to do unless the network is ready or running. -/
theorem run_build (network : Network κ) :
    (build (κ := κ)).run network =
      match network.state with
      | .initialized => (.ok (), network)
      | .running => (.error .alreadyRunning, network)
      | .unbuilt | .stopped => network.rebuilt := by
  have worked : (do
      let plan ← network.plan
      shape plan
      plan.schedule.order.forM startAt
      modify (fun network => { network with
        order := some plan.schedule.order
        phaseCount := plan.schedule.phaseCount
        state := .initialized }) : Edit κ Unit).run network = network.rebuilt := by
    rw [Edit.run_bind, Edit.run_lift, rebuilt]
    cases network.plan with
    | error fault => rfl
    | ok plan =>
      simp only
      rw [Edit.run_bind]
      rcases (shape plan).run network with ⟨fault | _, shaped⟩
      case error => rfl
      case ok =>
        simp only [Edit.run_bind, Edit.run_modify]
        rcases (plan.schedule.order.forM startAt).run shaped with ⟨outcome, after⟩
        cases outcome <;> rfl
  simp only [build, Edit.run_bind, Edit.run_get]
  cases network.state with
  | initialized => rfl
  | running => rfl
  | unbuilt => exact worked
  | stopped => exact worked

/-- Building has everything to do where the topology may be changed. -/
theorem build_of_open (network : Network κ)
    (open_ : network.state = .unbuilt ∨ network.state = .stopped) :
    (build (κ := κ)).run network = network.rebuilt := by
  rw [run_build]
  rcases open_ with unbuilt | stopped
  · rw [unbuilt]
  · rw [stopped]

omit [Implementation κ] in
/-- Giving the endpoints of a region their lengths changes neither types nor links, however far
it comes. -/
theorem view_shapeRegion (region : Region κ) (outputs inputs : NameMap Nat) (phase : Nat) :
    ((shapeRegion outputs inputs phase).run region).2.view Endpoint.port =
      region.view Endpoint.port := by
  let Viewed (current : Region κ) : Prop :=
    current.view Endpoint.port = region.view Endpoint.port
  have edited (modified : Region κ → Except GraphError (Region κ))
      (keeps : ∀ current next, modified current = .ok next →
        next.view Endpoint.port = current.view Endpoint.port) (current : Region κ)
      (viewed : Viewed current) :
      Viewed ((do set (← modified (← get)) : ExceptT GraphError (StateM (Region κ)) PUnit).run
        current).2 := by
    simp only [Edit.run_bind, Edit.run_get, Edit.run_lift]
    cases made : modified current with
    | error fault => exact viewed
    | ok next => exact (keeps current next made).trans viewed
  refine Edit.run_bind_keeps Viewed _ _ region ?_ ?_
  · refine Edit.forM_keeps Viewed _ _ ?_ region rfl
    rintro ⟨name, count⟩ _
    refine edited _ ?_
    intro current next changed
    refine current.view_modifyOutput Endpoint.port next name _ ?_ changed
    exact fun endpoint after made => endpoint.port_prepare after count made
  · intro _ middle _ viewed
    refine Edit.run_bind_keeps Viewed _ _ middle ?_ (fun _ _ _ same => same)
    refine Edit.forM_keeps Viewed _ _ ?_ middle viewed
    rintro ⟨name, count⟩ _
    refine edited _ ?_
    intro current next changed
    refine current.view_modifyInput Endpoint.port next name _ ?_ changed
    rintro input after made
    cases made
    exact input.port_prepare count

omit [Implementation κ] in
/-- First all regions get their lengths, and then the delayed links. -/
theorem run_shape (network : Network κ) (plan : Plan) :
    (shape plan).run network =
      match editEach (shapeAt plan) network.regions.zipIdx with
      | (.error fault, regions) => (.error fault, { network with regions := regions.map Prod.fst })
      | (.ok _, regions) =>
        (editAllDelayed Link.prepare).run { network with regions := regions.map Prod.fst } := by
  simp only [shape, Edit.run_bind, Edit.run_get, Edit.run_set, Edit.run_lift]
  rcases editEach (shapeAt plan) network.regions.zipIdx with ⟨fault | _, regions⟩ <;> rfl

omit [Implementation κ] in
/-- Giving all buffers their lengths keeps the wiring, however far it comes. -/
theorem wiring_shape (network : Network κ) (plan : Plan) :
    ((shape plan).run network).2.wiring = network.wiring := by
  have each := Edit.map_editEach (shapeAt plan)
    (fun entry : Region κ × Nat => entry.1.view Endpoint.port)
    (fun entry => view_shapeRegion entry.1 _ _ _) network.regions.zipIdx
  rw [run_shape]
  rcases edited : editEach (shapeAt plan) network.regions.zipIdx with ⟨result, regions⟩
  rw [edited] at each
  have nodes : (regions.map Prod.fst).map (Region.view Endpoint.port) =
      network.regions.map (Region.view Endpoint.port) := by
    rw [List.map_map, Function.comp_def, each, ← Function.comp_def, ← List.map_map,
      List.zipIdx_map_fst]
  have kept : ({ network with regions := regions.map Prod.fst } : Network κ).wiring =
      network.wiring := by
    simp only [wiring, nodes]
  cases result with
  | error fault => exact kept
  | ok _ => exact (wiring_editAllDelayed Link.prepare prepare_id_spec _).trans kept

/-- Building keeps whatever holds of the network and of what it is built to. -/
theorem build_keeps (motive : Network κ → Prop) (network : Network κ) (holds : motive network)
    (worked : motive network.rebuilt.2) : motive ((build (κ := κ)).run network).2 := by
  rw [run_build]
  cases network.state with
  | initialized => exact holds
  | running => exact holds
  | unbuilt => exact worked
  | stopped => exact worked

/-- Running keeps whatever building and cycles in the given order keep. -/
theorem run_keeps [Watcher κ ω] (motive : Network κ → Prop) (cycles : Nat) (watchers : List ω)
    (builds : ∀ network, motive network → motive ((build (κ := κ)).run network).2)
    (runs : ∀ network order, network.order = some order → motive network →
      motive (runCycles order cycles { network with state := .running } watchers).network)
    (network : Network κ) (holds : motive network) :
    motive (network.run cycles watchers).network := by
  have prepared : motive network.ready.2 := by
    unfold ready
    split
    · exact holds
    · exact builds network holds
  unfold run
  rcases made : network.ready with ⟨outcome, after⟩
  rw [made] at prepared
  cases outcome with
  | error fault => exact prepared
  | ok _ =>
    simp only
    split
    · exact prepared
    · rename_i order ordered
      exact runs after order ordered prepared

/-- Building anew keeps the wiring, also when it fails. -/
theorem wiring_rebuilt (network : Network κ) : network.rebuilt.2.wiring = network.wiring := by
  unfold rebuilt
  cases network.plan with
  | error fault => rfl
  | ok plan =>
    simp only
    have kept := network.wiring_shape plan
    rcases done : (shape plan).run network with ⟨fault | _, shaped⟩
    case error =>
      rw [done] at kept
      exact kept
    case ok =>
      rw [done] at kept
      obtain ⟨regions, effect, frames⟩ := startAll_effect plan.schedule.order shaped
      simp only
      rcases started : (plan.schedule.order.forM startAt).run shaped with ⟨outcome, after⟩
      rw [started] at effect
      cases effect
      rw [← kept]
      cases outcome <;> exact wiring_of_frames _ _ frames rfl rfl rfl

/-- Building keeps the wiring, also when it fails. -/
theorem wiring_build (network : Network κ) :
    ((build (κ := κ)).run network).2.wiring = network.wiring :=
  build_keeps (fun after => after.wiring = network.wiring) network rfl network.wiring_rebuilt

/-- Running keeps the wiring, whether it builds first or not and however it ends. -/
theorem wiring_run [Watcher κ ω] (network : Network κ) (cycles : Nat) (watchers : List ω) :
    (network.run cycles watchers).network.wiring = network.wiring := by
  refine run_keeps (fun after => after.wiring = network.wiring) cycles watchers ?_ ?_ network rfl
  · intro former kept
    exact former.wiring_build.trans kept
  · intro former order _ kept
    exact runCycles_keeps (fun after => after.wiring = network.wiring) order
      (fun current same => (wiring_cycle order current).trans same) (fun _ _ same => same) cycles
      { former with state := .running } watchers kept

end Network

end RegionGraph
