import RegionGraph.Proofs.Building

/-!
# Cycles of a built network

In a built network filling inputs and moving links on never fail, so a cycle fails in
a computation only, with what that computation answered. A cycle keeps a network
built, also when it fails. Watchers see a run but do not change it: a run is as many
cycles as come to pass, one after the other.
-/

namespace RegionGraph

variable {κ ω : Type} [Implementation κ]

/-- A computation succeeds or fails as its implementation says. -/
theorem Region.compute_result (region : Region κ) (iteration : UInt64) (profiling : Bool) :
    (region.compute iteration profiling).2 =
      (Implementation.compute region.state (region.exchange iteration)).result := by
  unfold compute
  simp only
  split
  · rename_i answer
    exact answer.symm
  · rename_i fault answer
    exact answer.symm

namespace Network

/-- Nobody watches. -/
instance : Watcher κ Empty where
  notify := fun watcher _ _ => nomatch watcher

/-- The network after a number of cycles. -/
def afterCycles (order : List Nat) : Nat → Network κ → Network κ
  | 0, network => network
  | more + 1, network => afterCycles order more ((cycle order).run network).2

/-- Every one of a number of cycles succeeds. -/
def Completes (order : List Nat) (cycles : Nat) (network : Network κ) : Prop :=
  ∀ done < cycles, ((cycle order).run (afterCycles order done network)).1 = .ok ()

/-- In this cycle, after some regions had computed, the computation of the next one
failed, and the fault reports what that computation answered. -/
def ComputeFails (network : Network κ) (order : List Nat) (fault : GraphError) : Prop :=
  ∃ earlier index later middle region filled cause,
    order = earlier ++ index :: later ∧ (stepAll earlier).run network = (.ok (), middle) ∧
    middle.regions[index]? = some region ∧ middle.fillInputs region = (.ok (), filled) ∧
    (Implementation.compute filled.state (filled.exchange middle.iteration)).result =
      .error cause ∧
    fault = .computeFailure region.name middle.iteration cause

omit [Implementation κ] in
/-- The network at the end of a cycle in which all regions computed: every link has
moved on by the live contents of its source, and the cycle is counted. -/
def moved (network : Network κ) : Network κ :=
  { network with
    links := network.links.map (fun link => link.shift (network.live link))
    iteration := network.iteration + 1 }

omit [Implementation κ] in
/-- The end of a cycle keeps links apart from what is on its way. -/
theorem specs_moved (network : Network κ) :
    network.moved.links.map Link.spec = network.links.map Link.spec := by
  rw [moved, List.map_map]
  apply List.map_congr_left
  intro link _
  exact congrArg Prod.snd (shift_id_spec link (network.live link))

/-- In a shaped network a region whose turn it is always gets to compute. -/
theorem step_of_shaped (network : Network κ) (sound : network.wiring.Sound)
    (shaped : network.Shaped) (index : Nat) (region : Region κ)
    (found : network.regions[index]? = some region) :
    ∃ filled, network.fillInputs region = (.ok (), filled) ∧
      (step index).run network =
        ((Implementation.compute filled.state (filled.exchange network.iteration)).result,
          { network with
            regions := network.regions.set index
              (filled.compute network.iteration network.settings.profiling).1 }) := by
  obtain ⟨filled, fills⟩ :=
    network.fillInputs_of_shaped sound shaped region (List.mem_of_getElem? found)
  refine ⟨filled, fills, ?_⟩
  rw [run_step, found]
  simp only [fills]
  rw [Region.compute_result]

/-- A turn keeps the wiring, and keeps a network shaped. -/
theorem step_keeps (network : Network κ) (shaped : network.Shaped) (index : Nat) :
    ((step index).run network).2.wiring = network.wiring ∧
      ((step index).run network).2.Shaped := by
  obtain ⟨regions, effect, frames, _⟩ := step_effect index network
  rw [effect]
  exact ⟨wiring_of_frames _ network frames rfl rfl rfl,
    shaped_of_links network _ frames.symm rfl rfl shaped⟩

/-- Computing in order keeps a network shaped. -/
theorem shaped_stepAll (order : List Nat) (network : Network κ) (shaped : network.Shaped) :
    ((stepAll order).run network).2.Shaped := by
  obtain ⟨regions, state, effect, frames, _, _⟩ := stepAll_effect order network
  rw [effect]
  exact shaped_of_links network _ frames.symm rfl rfl shaped

/-- Computing in order keeps a network built. -/
theorem built_stepAll (order turns : List Nat) (network : Network κ)
    (built : network.Built order) : ((stepAll turns).run network).2.Built order := by
  have shaped := shaped_stepAll turns network built.shaped
  obtain ⟨regions, state, effect, frames, marks, _⟩ := stepAll_effect turns network
  rw [effect] at shaped ⊢
  exact built_of_frames network _ order built frames rfl rfl shaped marks

/-- Computing in order leaves links, the count of cycles and the order. -/
theorem links_stepAll (order : List Nat) (network : Network κ) :
    ((stepAll order).run network).2.links = network.links ∧
      ((stepAll order).run network).2.iteration = network.iteration ∧
      ((stepAll order).run network).2.order = network.order := by
  obtain ⟨regions, state, effect, _⟩ := stepAll_effect order network
  rw [effect]
  exact ⟨rfl, rfl, rfl⟩

/-- Computing in order fails in a computation only. -/
theorem stepAll_error (order : List Nat) (network after : Network κ)
    (sound : network.wiring.Sound) (shaped : network.Shaped) (fault : GraphError)
    (failed : (stepAll order).run network = (.error fault, after)) :
    network.ComputeFails order fault := by
  induction order generalizing network with
  | nil => cases failed
  | cons index rest inductionHypothesis =>
    rw [run_stepAll_cons] at failed
    obtain ⟨wiringNext, shapedNext⟩ := network.step_keeps shaped index
    rcases stepped : (step index).run network with ⟨outcome, next⟩
    rw [stepped] at failed shapedNext wiringNext
    cases outcome with
    | ok _ =>
      obtain ⟨earlier, failing, later, middle, region, filled, cause, split, reached, found,
        fills, answer, reported⟩ := inductionHypothesis next (wiringNext ▸ sound) shapedNext failed
      refine ⟨index :: earlier, failing, later, middle, region, filled, cause, ?_, ?_, found,
        fills, answer, reported⟩
      · rw [split, List.cons_append]
      · rw [run_stepAll_cons, stepped]
        exact reached
    | error cause =>
      cases found : network.regions[index]? with
      | none =>
        rw [run_step, found] at stepped
        cases stepped
      | some region =>
        obtain ⟨filled, fills, ran⟩ := network.step_of_shaped sound shaped index region found
        rw [stepped] at ran
        refine ⟨[], index, rest, network, region, filled, cause, rfl, rfl, found, fills,
          (congrArg Prod.fst ran).symm, ?_⟩
        have reported := congrArg Prod.fst failed
        simp only [found, Option.map_some, Option.getD_some, Except.error.injEq] at reported
        exact reported.symm

/-- A cycle in which all regions computed ends by moving the links on. -/
theorem cycle_of_computed (order : List Nat) (network after : Network κ)
    (sound : network.wiring.Sound) (computed : (stepAll order).run network = (.ok (), after)) :
    (cycle order).run network = (.ok (), after.moved) := by
  have wiring := wiring_stepAll order network
  rw [computed] at wiring
  rw [run_cycle, computed]
  simp only [shiftLinks_eq after (wiring ▸ sound)]
  rfl

/-- A cycle of a built network fails in a computation only; it keeps the network built,
and a failure stops it. -/
theorem cycle_of_built (order : List Nat) (network : Network κ) (sound : network.wiring.Sound)
    (built : network.Built order) :
    ((cycle order).run network).2.Built order ∧
      ((cycle order).run network).2.order = network.order ∧
      match ((cycle order).run network).1 with
      | .ok _ => ((cycle order).run network).2.state = network.state
      | .error fault => ((cycle order).run network).2.state = .stopped ∧
          network.ComputeFails order fault := by
  have builtAfter := built_stepAll order order network built
  obtain ⟨_, _, ordered⟩ := links_stepAll order network
  have lifecycle : ((stepAll order).run network).2.state =
      match ((stepAll order).run network).1 with
      | .ok _ => network.state
      | .error _ => .stopped := by
    obtain ⟨_, _, effect, _, _, state⟩ := stepAll_effect order network
    exact (congrArg Network.state effect).trans state
  rcases computed : (stepAll order).run network with ⟨outcome, after⟩
  rw [computed] at builtAfter lifecycle ordered
  cases outcome with
  | error fault =>
    rw [run_cycle, computed]
    exact ⟨builtAfter, ordered, lifecycle,
      stepAll_error order network after sound built.shaped fault computed⟩
  | ok _ =>
    rw [cycle_of_computed order network after sound computed]
    refine ⟨?_, ordered, lifecycle⟩
    exact built_of_frames after _ order builtAfter rfl rfl (specs_moved after)
      (shaped_of_links { after with
        links := after.links.map (fun link => link.shift (after.live link)) } after.moved rfl rfl rfl
        (after.shaped_shift builtAfter.shaped)) rfl

/-- A run of a built network is cycles until they are done, one fails, or a watcher
halts. It leaves the network built and not running, and fails in a computation only. -/
theorem runCycles_of_built [Watcher κ ω] (order : List Nat) (cycles : Nat) (network : Network κ)
    (watchers : List ω) (sound : network.wiring.Sound) (built : network.Built order) :
    (runCycles order cycles network watchers).network.Built order ∧
      (runCycles order cycles network watchers).network.order = network.order ∧
      ((runCycles order cycles network watchers).network.state = .initialized ∨
        (runCycles order cycles network watchers).network.state = .stopped) ∧
      ∀ fault, (runCycles order cycles network watchers).result = .error fault →
        ∃ done < cycles, Completes order done network ∧
          (afterCycles order done network).ComputeFails order fault := by
  have renamed (state : Lifecycle) (current : Network κ) (built : current.Built order) :
      Built { current with state } order :=
    built_of_frames current _ order built rfl rfl rfl
      (shaped_of_links current _ rfl rfl rfl built.shaped)
      rfl
  induction cycles generalizing network watchers with
  | zero => exact ⟨renamed _ network built, rfl, Or.inl rfl, fun _ impossible => by cases impossible⟩
  | succ more inductionHypothesis =>
    obtain ⟨builtNext, orderNext, outcomeNext⟩ := cycle_of_built order network sound built
    have wiringNext := wiring_cycle order network
    unfold runCycles
    rcases cycled : (cycle order).run network with ⟨outcome, after⟩
    rw [cycled] at builtNext orderNext outcomeNext wiringNext
    cases outcome with
    | error fault =>
      refine ⟨builtNext, orderNext, Or.inr outcomeNext.1, ?_⟩
      rintro _ ⟨⟩
      exact ⟨0, Nat.succ_pos more, fun _ impossible => absurd impossible (Nat.not_lt_zero _),
        outcomeNext.2⟩
    | ok _ =>
      simp only
      rcases after.notifyAll watchers with ⟨told, control⟩
      cases control with
      | halt =>
        exact ⟨renamed _ after builtNext, orderNext, Or.inr rfl,
          fun _ impossible => by cases impossible⟩
      | «continue» =>
        obtain ⟨builtLast, orderLast, idle, failures⟩ :=
          inductionHypothesis after told (wiringNext ▸ sound) builtNext
        refine ⟨builtLast, orderLast.trans orderNext, idle, ?_⟩
        intro fault failed
        obtain ⟨done, bound, completed, fails⟩ := failures fault failed
        refine ⟨done + 1, Nat.succ_lt_succ bound, ?_, ?_⟩
        · rintro (_ | earlier) before
          · exact congrArg Prod.fst cycled
          · rw [afterCycles, cycled]
            exact completed earlier (Nat.lt_of_succ_lt_succ before)
        · rw [afterCycles, cycled]
          exact fails

end Network

end RegionGraph
