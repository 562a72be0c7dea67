import Mathlib.Tactic.IntervalCases
import RegionGraph.Proofs.Admission
import RegionGraph.Proofs.Dataflow

/-!
# How runs end

Between calls a network is unbuilt, initialized or stopped, and it is unbuilt exactly
while it has no execution order. A run ends in one of four ways. It is refused, because
the network has to be built first and cannot be; it completes all its cycles; a watcher
halts it after some of them; or a computation fails in the cycle after those that were
completed. In each of them the count of cycles and the watchers tell how far it came.
-/

namespace RegionGraph

variable {κ ω : Type} [Implementation κ]

namespace Network

/-! ### What watchers answer -/

/-- What has become of a watcher after some cycles, each of which it was told of once,
and what it answered to the last of them. -/
def answered [Watcher κ ω] (order : List Nat) (start : Network κ) (watcher : ω) :
    Nat → ω × Control
  | 0 => (watcher, .continue)
  | cycles + 1 =>
    let after := afterCycles order (cycles + 1) start
    Watcher.notify (answered order start watcher cycles).1 after after.iteration

/-- Some watcher wants to halt when it is told of this cycle, counted from one. -/
def Halts [Watcher κ ω] (order : List Nat) (start : Network κ) (watchers : List ω)
    (cycle : Nat) : Prop :=
  ∃ watcher ∈ watchers, (answered order start watcher cycle).2 = .halt

/-- The watchers after some cycles. -/
def attended [Watcher κ ω] (order : List Nat) (start : Network κ) (watchers : List ω)
    (cycles : Nat) : List ω :=
  watchers.map (fun watcher => (answered order start watcher cycles).1)

/-- Before the first cycle nobody was told of anything. -/
theorem attended_zero [Watcher κ ω] (order : List Nat) (start : Network κ) (watchers : List ω) :
    attended order start watchers 0 = watchers := List.map_id _

/-- Nobody halts before the first cycle. -/
theorem not_halts_zero [Watcher κ ω] (order : List Nat) (start : Network κ) (watchers : List ω) :
    ¬Halts order start watchers 0 := by
  rintro ⟨_, _, answer⟩
  cases answer

/-- A watcher that goes on after the first cycle is, from then on, a watcher of the cycles
that follow. -/
theorem answered_succ [Watcher κ ω] (order : List Nat) (start next : Network κ) (watcher : ω)
    (moved : next = ((cycle order).run start).2)
    (goesOn : (Watcher.notify watcher next next.iteration).2 = .continue) (cycles : Nat) :
    answered order start watcher (cycles + 1) =
      answered order next (Watcher.notify watcher next next.iteration).1 cycles := by
  subst moved
  induction cycles with
  | zero => exact Prod.ext rfl goesOn
  | succ cycles inductionHypothesis =>
    rw [answered, inductionHypothesis]
    rfl

omit [Implementation κ] in
/-- Telling all watchers is telling each, and one that halts is enough. -/
theorem notifyAll_eq [Watcher κ ω] (network : Network κ) (watchers : List ω) :
    (network.notifyAll watchers).1 =
        watchers.map (fun watcher => (Watcher.notify watcher network network.iteration).1) ∧
      ((network.notifyAll watchers).2 = .halt ↔ ∃ watcher ∈ watchers,
        (Watcher.notify watcher network network.iteration).2 = .halt) := by
  refine ⟨by simp only [notifyAll, List.map_map, Function.comp_def], ?_⟩
  simp only [notifyAll]
  split
  · rename_i halted
    simpa using halted
  · rename_i halted
    simpa using halted

/-- Where all watchers go on, the later cycles are those of the watchers as they have
become. -/
theorem halts_succ [Watcher κ ω] (order : List Nat) (start next : Network κ) (watchers : List ω)
    (moved : next = ((cycle order).run start).2)
    (goOn : (next.notifyAll watchers).2 = .continue) (cycles : Nat) :
    (Halts order start watchers (cycles + 1) ↔
        Halts order next (next.notifyAll watchers).1 cycles) ∧
      attended order start watchers (cycles + 1) =
        attended order next (next.notifyAll watchers).1 cycles := by
  obtain ⟨told, halting⟩ := next.notifyAll_eq watchers
  have each : ∀ watcher ∈ watchers, answered order start watcher (cycles + 1) =
      answered order next (Watcher.notify watcher next next.iteration).1 cycles := by
    intro watcher member
    refine answered_succ order start next watcher moved ?_ cycles
    cases answer : (Watcher.notify watcher next next.iteration).2 with
    | «continue» => rfl
    | halt => cases goOn.symm.trans (halting.mpr ⟨watcher, member, answer⟩)
  rw [told]
  constructor
  · constructor
    · rintro ⟨watcher, member, halts⟩
      exact ⟨_, List.mem_map_of_mem member, each watcher member ▸ halts⟩
    · rintro ⟨_, member, halts⟩
      obtain ⟨watcher, present, rfl⟩ := List.mem_map.mp member
      exact ⟨watcher, present, (each watcher present).symm ▸ halts⟩
  · simp only [attended, List.map_map]
    exact List.map_congr_left (fun watcher member => congrArg Prod.fst (each watcher member))

/-! ### How cycles end -/

/-- A run came through a number of cycles: all of them succeeded, and the watchers were
told of each. -/
structure Reaches [Watcher κ ω] (order : List Nat) (start : Network κ) (watchers : List ω)
    (ran : Ran κ ω) (cycles : Nat) : Prop where
  completes : Completes order cycles start
  attended : ran.watchers = attended order start watchers cycles

/-- A run came to the last of its cycles, and no watcher halted it. -/
structure RunsOut [Watcher κ ω] (order : List Nat) (limit : Nat) (start : Network κ)
    (watchers : List ω) (ran : Ran κ ω) : Prop extends
    Reaches order start watchers ran limit where
  goesOn : ∀ cycle ≤ limit, ¬Halts order start watchers cycle
  result : ran.result = .ok ()
  network : ran.network = { afterCycles order limit start with state := .initialized }

/-- A run was halted by a watcher in this cycle and by none before. -/
structure IsHalted [Watcher κ ω] (order : List Nat) (limit : Nat) (start : Network κ)
    (watchers : List ω) (ran : Ran κ ω) (cycles : Nat) : Prop extends
    Reaches order start watchers ran cycles where
  positive : 1 ≤ cycles
  bound : cycles ≤ limit
  goesOn : ∀ earlier < cycles, ¬Halts order start watchers earlier
  halts : Halts order start watchers cycles
  result : ran.result = .ok ()
  network : ran.network = { afterCycles order cycles start with state := .stopped }

/-- A run broke off in the cycle after those that were completed. -/
structure BreaksOff [Watcher κ ω] (order : List Nat) (limit : Nat) (start : Network κ)
    (watchers : List ω) (ran : Ran κ ω) (cycles : Nat) : Prop extends
    Reaches order start watchers ran cycles where
  bound : cycles < limit
  goesOn : ∀ cycle ≤ cycles, ¬Halts order start watchers cycle
  fails : ∃ fault, ran.result = .error fault ∧
    (cycle order).run (afterCycles order cycles start) = (.error fault, ran.network)

section FirstCycle

variable [Watcher κ ω] (order : List Nat) (limit : Nat) (start next : Network κ)
  (watchers : List ω)

/-- A run of no cycles runs out at once. -/
theorem runsOut_zero : RunsOut order 0 start watchers (runCycles order 0 start watchers) where
  completes := fun _ impossible => absurd impossible (Nat.not_lt_zero _)
  attended := (attended_zero order start watchers).symm
  goesOn := by
    intro cycle none_
    rw [Nat.le_zero.mp none_]
    exact not_halts_zero order start watchers
  result := rfl
  network := rfl

/-- A run whose first cycle fails breaks off before it has completed one. -/
theorem breaksOff_zero (fault : GraphError)
    (failed : (cycle order).run start = (.error fault, next)) :
    BreaksOff order (limit + 1) start watchers (runCycles order (limit + 1) start watchers) 0 := by
  have ran : runCycles order (limit + 1) start watchers = ⟨.error fault, next, watchers⟩ := by
    rw [runCycles, failed]
  rw [ran]
  refine ⟨⟨fun _ impossible => absurd impossible (Nat.not_lt_zero _), ?_⟩, Nat.succ_pos limit, ?_,
    fault, rfl, failed⟩
  · exact (attended_zero order start watchers).symm
  · intro cycle none_
    rw [Nat.le_zero.mp none_]
    exact not_halts_zero order start watchers

variable (succeeds : (cycle order).run start = (.ok (), next))

include succeeds

/-- A cycle that succeeds comes before those that complete. -/
theorem completes_succ (cycles : Nat) (completes : Completes order cycles next) :
    Completes order (cycles + 1) start := by
  rintro (_ | done) before
  · exact congrArg Prod.fst succeeds
  · rw [afterCycles, succeeds]
    exact completes done (Nat.lt_of_succ_lt_succ before)

/-- A run that is halted after its first cycle. -/
theorem isHalted_one (halted : (next.notifyAll watchers).2 = .halt) :
    IsHalted order (limit + 1) start watchers (runCycles order (limit + 1) start watchers) 1 := by
  obtain ⟨told, halting⟩ := next.notifyAll_eq watchers
  have ran : runCycles order (limit + 1) start watchers =
      ⟨.ok (), { next with state := .stopped }, (next.notifyAll watchers).1⟩ := by
    rw [runCycles, succeeds]
    dsimp only
    rw [show next.notifyAll watchers = ((next.notifyAll watchers).1, .halt) from
      Prod.ext rfl halted]
  have moved : afterCycles order 1 start = next := by
    rw [afterCycles, succeeds]
    rfl
  have asked (watcher : ω) :
      answered order start watcher 1 = Watcher.notify watcher next next.iteration := by
    simp only [answered, Nat.zero_add, moved]
  rw [ran]
  refine ⟨⟨?_, ?_⟩, Nat.le_refl 1, Nat.succ_pos limit, ?_, ?_, rfl, ?_⟩
  · exact completes_succ order start next succeeds 0
      (fun _ impossible => absurd impossible (Nat.not_lt_zero _))
  · simp only [attended, asked]
    exact told
  · intro earlier before
    rw [Nat.lt_one_iff.mp before]
    exact not_halts_zero order start watchers
  · simp only [Halts, asked]
    exact halting.mp halted
  · rw [moved]

variable (goOn : (next.notifyAll watchers).2 = .continue)

include goOn

/-- A run that goes on after its first cycle is a run of the others. -/
theorem runCycles_succ : runCycles order (limit + 1) start watchers =
    runCycles order limit next (next.notifyAll watchers).1 := by
  rw [runCycles, succeeds]
  dsimp only
  rw [show next.notifyAll watchers = ((next.notifyAll watchers).1, .continue) from
    Prod.ext rfl goOn]

/-- A run that goes on after its first cycle comes one cycle further than the others. -/
theorem reaches_succ (ran : Ran κ ω) (cycles : Nat)
    (reaches : Reaches order next (next.notifyAll watchers).1 ran cycles) :
    Reaches order start watchers ran (cycles + 1) where
  completes := completes_succ order start next succeeds cycles reaches.completes
  attended := by
    rw [reaches.attended, (halts_succ order start next watchers (by rw [succeeds]) goOn cycles).2]

/-- Nobody halts a run that goes on after its first cycle before somebody halts the rest. -/
theorem goesOn_succ (cycles : Nat)
    (goesOn : ∀ cycle ≤ cycles, ¬Halts order next (next.notifyAll watchers).1 cycle) :
    ∀ cycle ≤ cycles + 1, ¬Halts order start watchers cycle := by
  rintro (_ | cycle) within
  · exact not_halts_zero order start watchers
  · rw [(halts_succ order start next watchers (by rw [succeeds]) goOn cycle).1]
    exact goesOn cycle (Nat.le_of_succ_le_succ within)

/-- A run that runs out after its first cycle. -/
theorem runsOut_succ (ran : Ran κ ω)
    (out : RunsOut order limit next (next.notifyAll watchers).1 ran) :
    RunsOut order (limit + 1) start watchers ran where
  toReaches := reaches_succ order start next watchers succeeds goOn ran limit out.toReaches
  goesOn := goesOn_succ order start next watchers succeeds goOn limit out.goesOn
  result := out.result
  network := by rw [out.network, afterCycles, succeeds]

/-- A run that is halted after later cycles. -/
theorem isHalted_succ (ran : Ran κ ω) (cycles : Nat)
    (halted : IsHalted order limit next (next.notifyAll watchers).1 ran cycles) :
    IsHalted order (limit + 1) start watchers ran (cycles + 1) where
  toReaches := reaches_succ order start next watchers succeeds goOn ran cycles halted.toReaches
  positive := Nat.succ_pos cycles
  bound := Nat.succ_le_succ halted.bound
  goesOn := by
    obtain ⟨before, rfl⟩ := Nat.exists_eq_succ_of_ne_zero (Nat.pos_iff_ne_zero.mp halted.positive)
    intro earlier within
    exact goesOn_succ order start next watchers succeeds goOn before
      (fun cycle bound => halted.goesOn cycle (Nat.lt_succ_of_le bound)) earlier
      (Nat.le_of_lt_succ within)
  halts := by
    rw [(halts_succ order start next watchers (by rw [succeeds]) goOn cycles).1]
    exact halted.halts
  result := halted.result
  network := by rw [halted.network, afterCycles, succeeds]

/-- A run that breaks off in a later cycle. -/
theorem breaksOff_succ (ran : Ran κ ω) (cycles : Nat)
    (broken : BreaksOff order limit next (next.notifyAll watchers).1 ran cycles) :
    BreaksOff order (limit + 1) start watchers ran (cycles + 1) where
  toReaches := reaches_succ order start next watchers succeeds goOn ran cycles broken.toReaches
  bound := Nat.succ_lt_succ broken.bound
  goesOn := goesOn_succ order start next watchers succeeds goOn cycles broken.goesOn
  fails := by
    rw [afterCycles, succeeds]
    exact broken.fails

end FirstCycle

/-- Cycles run out, are halted, or break off. -/
theorem runCycles_cases [Watcher κ ω] (order : List Nat) (limit : Nat) (start : Network κ)
    (watchers : List ω) :
    RunsOut order limit start watchers (runCycles order limit start watchers) ∨
      (∃ cycles,
        IsHalted order limit start watchers (runCycles order limit start watchers) cycles) ∨
      ∃ cycles,
        BreaksOff order limit start watchers (runCycles order limit start watchers) cycles := by
  induction limit generalizing start watchers with
  | zero => exact Or.inl (runsOut_zero order start watchers)
  | succ limit inductionHypothesis =>
    rcases cycled : (cycle order).run start with ⟨outcome, next⟩
    cases outcome with
    | error fault =>
      exact Or.inr (Or.inr ⟨0, breaksOff_zero order limit start next watchers fault cycled⟩)
    | ok _ =>
      cases answer : (next.notifyAll watchers).2 with
      | halt => exact Or.inr (Or.inl ⟨1, isHalted_one order limit start next watchers cycled answer⟩)
      | «continue» =>
        rw [runCycles_succ order limit start next watchers cycled answer]
        rcases inductionHypothesis next (next.notifyAll watchers).1 with
          out | ⟨cycles, halted⟩ | ⟨cycles, broken⟩
        · exact Or.inl (runsOut_succ order limit start next watchers cycled answer _ out)
        · exact Or.inr (Or.inl ⟨cycles + 1,
            isHalted_succ order limit start next watchers cycled answer _ cycles halted⟩)
        · exact Or.inr (Or.inr ⟨cycles + 1,
            breaksOff_succ order limit start next watchers cycled answer _ cycles broken⟩)

/-! ### How runs begin -/

/-- The network in which the cycles of a run take place: built if need be, and running. -/
def begun (network : Network κ) : Network κ := { network.ready.2 with state := .running }

/-- The order in which regions compute in a run. -/
def turns (network : Network κ) : List Nat := network.ready.2.order.getD []

/-- Building does not touch the count of cycles. -/
theorem iteration_build (network : Network κ) (sound : network.wiring.Sound) :
    ((build (κ := κ)).run network).2.iteration = network.iteration := by
  refine build_keeps (fun after => after.iteration = network.iteration) network rfl ?_
  unfold rebuilt
  cases planned : network.plan with
  | error fault => rfl
  | ok plan =>
    obtain ⟨outcome, regions, ran, _⟩ := startAll_cases plan.schedule.order (network.sized plan)
    simp only [network.shape_of_fits sound plan (network.fits_of_plan sound plan planned), ran]
    cases outcome <;> rfl

/-- A run gets to its cycles: there is an order, the network is built, and no cycle was counted
yet. -/
structure Begins (network : Network κ) : Prop where
  ready : network.ready.1 = .ok ()
  ordered : network.ready.2.order = some network.turns
  sound : network.begun.wiring.Sound
  built : network.begun.Built network.turns
  iteration : network.begun.iteration = network.iteration

/-- A settled network is ready for a run, or it has no order and cannot be built. -/
theorem ready_cases (network : Network κ) (sound : network.wiring.Sound)
    (settled : network.Settled) :
    network.Begins ∨ network.order = none ∧ ∃ fault after,
      (build (κ := κ)).run network = (.error fault, after) ∧
      network.ready = (.error fault, after) ∧ after.iteration = network.iteration := by
  have prepared (after : Network κ) (order : List Nat) (ready : network.ready = (.ok (), after))
      (ordered : after.order = some order) (wiring : after.wiring = network.wiring)
      (settled : after.Settled) (iteration : after.iteration = network.iteration) :
      network.Begins := by
    have told : network.turns = order := by simp only [turns, ready, ordered, Option.getD_some]
    have start : network.begun = { after with state := .running } := by simp only [begun, ready]
    constructor
    · rw [ready]
    · rw [ready, told]
      exact ordered
    · rw [start]
      exact wiring ▸ sound
    · rw [start, told]
      exact built_of_same after _ order (settled.built order ordered) rfl rfl rfl
    · rw [start]
      exact iteration
  rcases absent : network.order with _ | order
  · have outcome := network.wiring_build
    have counted := network.iteration_build sound
    have settles := network.settled_build sound settled
    have asked : network.ready = (build (κ := κ)).run network := by simp only [ready, absent]
    rcases made : (build (κ := κ)).run network with ⟨result, after⟩
    rw [made] at outcome counted settles asked
    cases result with
    | error fault => exact Or.inr ⟨rfl, fault, after, rfl, asked, counted⟩
    | ok _ =>
      obtain ⟨order, ordered⟩ := Option.isSome_iff_exists.mp (settles.2 (Or.inr rfl))
      exact Or.inl (prepared after order asked ordered outcome settles.1 counted)
  · have asked : network.ready = (.ok (), network) := by simp only [ready, absent]
    exact Or.inl (prepared network order asked absent rfl settled rfl)

/-- A run that begins is a run of cycles. -/
theorem run_of_begins [Watcher κ ω] (network : Network κ) (begins : network.Begins)
    (cycles : Nat) (watchers : List ω) :
    network.run cycles watchers = runCycles network.turns cycles network.begun watchers := by
  have ready : network.ready = (.ok (), network.ready.2) := Prod.ext begins.ready rfl
  rw [run, ready]
  simp only [begins.ordered, begun]

/-! ### How runs end -/

/-- The ways in which a run ends. -/
inductive Ending where
  | refused
  | completed
  | halted (cycles : Nat)
  | failed (cycles : Nat)
deriving DecidableEq

/-- What a run that began leaves: the state of the network, and the cycles counted. -/
structure Leaves [Watcher κ ω] (network : Network κ) (ran : Ran κ ω) (state : Lifecycle)
    (cycles : Nat) : Prop where
  ready : network.ready.1 = .ok ()
  state : ran.network.state = state
  iteration : ran.network.iteration = network.iteration + UInt64.ofNat cycles

/-- A run ends in this way. -/
def EndsBy [Watcher κ ω] (network : Network κ) (cycles : Nat) (watchers : List ω) :
    Ending → Prop
  | .refused => network.order = none ∧ ∃ fault after,
      (build (κ := κ)).run network = (.error fault, after) ∧
      network.run cycles watchers = ⟨.error fault, after, watchers⟩ ∧
      after.iteration = network.iteration
  | .completed =>
    network.Leaves (network.run cycles watchers) .initialized cycles ∧
      RunsOut network.turns cycles network.begun watchers (network.run cycles watchers)
  | .halted done =>
    network.Leaves (network.run cycles watchers) .stopped done ∧
      IsHalted network.turns cycles network.begun watchers (network.run cycles watchers) done
  | .failed done =>
    network.Leaves (network.run cycles watchers) .stopped done ∧
      BreaksOff network.turns cycles network.begun watchers (network.run cycles watchers) done ∧
      ∃ fault region cause, (network.run cycles watchers).result = .error fault ∧
        (afterCycles network.turns done network.begun).ComputeFails network.turns fault ∧
        fault = .computeFailure region (network.run cycles watchers).network.iteration cause

/-- A failed computation is reported with the cycle that it failed in. -/
theorem computeFails_iteration (network : Network κ) (order : List Nat) (fault : GraphError)
    (fails : network.ComputeFails order fault) :
    ∃ region cause, fault = .computeFailure region network.iteration cause := by
  obtain ⟨earlier, _, _, middle, region, _, cause, _, reached, _, _, _, reported⟩ := fails
  obtain ⟨_, iteration, _⟩ := links_stepAll earlier network
  rw [reached] at iteration
  exact ⟨region.name, cause, by rw [reported, iteration]⟩

/-- A cycle that fails is not counted. -/
theorem iteration_of_failed (order : List Nat) (network after : Network κ) (fault : GraphError)
    (failed : (cycle order).run network = (.error fault, after)) :
    after.iteration = network.iteration := by
  obtain ⟨_, iteration, _⟩ := links_stepAll order network
  rw [run_cycle] at failed
  rcases computed : (stepAll order).run network with ⟨outcome, last⟩
  rw [computed] at failed iteration
  cases outcome with
  | error cause =>
    cases failed
    exact iteration
  | ok _ =>
    dsimp only at failed
    obtain ⟨links, effect⟩ := last.shiftLinks_effect
    rcases moving : shiftLinks.run last with ⟨cause | _, moved⟩
    case error =>
      rw [moving] at failed effect
      cases effect
      cases failed
      exact iteration
    case ok =>
      rw [moving] at failed
      cases failed

/-- A run ends in one of the ways. -/
theorem exists_ending [Watcher κ ω] (network : Network κ) (sound : network.wiring.Sound)
    (settled : network.Settled) (cycles : Nat) (watchers : List ω) :
    ∃ ending, network.EndsBy cycles watchers ending := by
  rcases network.ready_cases sound settled with
    begins | ⟨absent, fault, after, refused, ready, iteration⟩
  case inr =>
    refine ⟨.refused, absent, fault, after, refused, ?_, iteration⟩
    rw [run, ready]
  have counted (done : Nat) (completes : Completes network.turns done network.begun) :
      (afterCycles network.turns done network.begun).iteration =
        network.iteration + UInt64.ofNat done := by
    rw [(links_afterCycles network.turns done done network.begun begins.sound begins.built completes
      (Nat.le_refl done)).2, begins.iteration]
  have ran := network.run_of_begins begins cycles watchers
  rcases runCycles_cases network.turns cycles network.begun watchers with
    out | ⟨done, halted⟩ | ⟨done, broken⟩
  · rw [← ran] at out
    refine ⟨.completed, ⟨begins.ready, ?_, ?_⟩, out⟩
    · rw [out.network]
    · rw [out.network]
      exact counted cycles out.completes
  · rw [← ran] at halted
    refine ⟨.halted done, ⟨begins.ready, ?_, ?_⟩, halted⟩
    · rw [halted.network]
    · rw [halted.network]
      exact counted done halted.completes
  · rw [← ran] at broken
    obtain ⟨fault, result, failed⟩ := broken.fails
    obtain ⟨soundThen, builtThen⟩ :=
      built_afterCycles network.turns done network.begun begins.sound begins.built
    have outcome := (cycle_of_built network.turns _ soundThen builtThen).2.2
    have iteration := iteration_of_failed _ _ _ _ failed
    rw [failed] at outcome
    obtain ⟨stopped, fails⟩ := outcome
    obtain ⟨region, cause, reported⟩ := computeFails_iteration _ _ _ fails
    refine ⟨.failed done, ⟨begins.ready, stopped, ?_⟩, broken, fault, region, cause, result,
      fails, ?_⟩
    · rw [iteration]
      exact counted done broken.completes
    · rw [iteration]
      exact reported

/-- What an ending shows without the cycles: whether the run began, and if so whether it
succeeded and in which state it left the network. -/
def Ending.appearance : Ending → Option (Bool × Lifecycle)
  | .refused => none
  | .completed => some (true, .initialized)
  | .halted _ => some (true, .stopped)
  | .failed _ => some (false, .stopped)

/-- A run has the appearance of its ending. -/
theorem appearance_of_endsBy [Watcher κ ω] (network : Network κ) (cycles : Nat)
    (watchers : List ω) (ending : Ending) (ends : network.EndsBy cycles watchers ending) :
    ending.appearance = network.ready.1.toOption.map (fun _ =>
      ((network.run cycles watchers).result.isOk, (network.run cycles watchers).network.state)) := by
  cases ending with
  | refused =>
    obtain ⟨absent, fault, after, refused, _⟩ := ends
    have asked : network.ready = (.error fault, after) := by simp only [ready, absent, refused]
    rw [asked]
    rfl
  | completed =>
    rw [ends.1.ready, ends.1.state, ends.2.result]
    rfl
  | halted done =>
    rw [ends.1.ready, ends.1.state, ends.2.result]
    rfl
  | failed done =>
    obtain ⟨fault, _, _, result, _⟩ := ends.2.2
    rw [ends.1.ready, ends.1.state, result]
    rfl

/-- A run ends in one way only. -/
theorem ending_unique [Watcher κ ω] (network : Network κ) (cycles : Nat) (watchers : List ω)
    (first second : Ending) (endsFirst : network.EndsBy cycles watchers first)
    (endsSecond : network.EndsBy cycles watchers second) : first = second := by
  have same := (network.appearance_of_endsBy cycles watchers first endsFirst).trans
    (network.appearance_of_endsBy cycles watchers second endsSecond).symm
  cases first with
  | refused => cases second <;> first | rfl | cases same
  | completed => cases second <;> first | rfl | cases same
  | halted done =>
    cases second with
    | refused => cases same
    | completed => cases same
    | failed other => cases same
    | halted other =>
      -- Whichever of the two were earlier would be a cycle that halts before the other.
      rcases Nat.lt_trichotomy done other with before | rfl | before
      · exact absurd endsFirst.2.halts (endsSecond.2.goesOn done before)
      · rfl
      · exact absurd endsSecond.2.halts (endsFirst.2.goesOn other before)
  | failed done =>
    cases second with
    | refused => cases same
    | completed => cases same
    | halted other => cases same
    | failed other =>
      obtain ⟨_, _, failedFirst⟩ := endsFirst.2.1.fails
      obtain ⟨_, _, failedSecond⟩ := endsSecond.2.1.fails
      rcases Nat.lt_trichotomy done other with before | rfl | before
      · have completed := endsSecond.2.1.completes done before
        rw [failedFirst] at completed
        cases completed
      · rfl
      · have completed := endsFirst.2.1.completes other before
        rw [failedSecond] at completed
        cases completed

/-! ### The states of a network between calls -/

omit [Implementation κ] in
/-- The state and the order that a network may have between calls. -/
structure Orderly (network : Network κ) : Prop where
  idle : network.state = .unbuilt ∨ network.state = .initialized ∨ network.state = .stopped
  unbuilt : network.state = .unbuilt ↔ network.order = none
  ordered : ∀ order, network.order = some order → network.Topological order

omit [Implementation κ] in
/-- A settled network is in order. -/
theorem orderly_of_settled (network : Network κ) (sound : network.wiring.Sound)
    (settled : network.Settled) : network.Orderly where
  idle := by
    rcases Option.eq_none_or_eq_some network.order with absent | ⟨order, ordered⟩
    · exact Or.inl (settled.fresh absent)
    · exact Or.inr (settled.idle order ordered)
  unbuilt := by
    refine ⟨fun unbuilt => ?_, settled.fresh⟩
    rcases Option.eq_none_or_eq_some network.order with absent | ⟨order, ordered⟩
    · exact absent
    · rcases settled.idle order ordered with state | state <;> cases unbuilt.symm.trans state
  ordered := fun order ordered =>
    network.topological_of_built sound order (settled.built order ordered)

/-- Between calls a reachable network is unbuilt, initialized or stopped, and unbuilt exactly
while it has no execution order; an order that it has lists every region once, and the source
of every direct link before its reader. Every run of it ends in exactly one way: it is refused
by the build that it needs, and no cycle is counted; or it completes all its cycles, each of
which the watchers were told of, and none of them halted; or it stops after the first cycle to
which a watcher answered that it should halt, of which all watchers were still told; or it stops
because a computation failed in the cycle after those that were completed and counted, and the
fault tells that cycle.

Between calls the network is settled, which every operation keeps. The endings of a run are
those of its cycles: by induction over their number the run comes to its end, or there is a
first cycle that fails or is halted. No two endings go together, since they differ in the first
such cycle. -/
theorem endings_of_reachable (usable : Registry κ → Prop) (network : Network κ)
    (reachable : Reachable usable network) :
    network.Orderly ∧ ∀ (ω : Type) [Watcher κ ω] (cycles : Nat) (watchers : List ω),
      ∃! ending, network.EndsBy cycles watchers ending := by
  have sound := sound_of_reachable usable network reachable
  have settled := settled_of_reachable usable network reachable
  refine ⟨network.orderly_of_settled sound settled, ?_⟩
  intro ω _ cycles watchers
  obtain ⟨ending, ends⟩ := network.exists_ending sound settled cycles watchers
  exact ⟨ending, ends, fun other also => network.ending_unique cycles watchers other ending also
    ends⟩

end Network

/-- A watcher that halts a run after a number of cycles. -/
structure Alarm where
  remaining : Nat

instance : Watcher κ Alarm where
  notify alarm _ _ :=
    (⟨alarm.remaining - 1⟩, if alarm.remaining ≤ 1 then .halt else .continue)

namespace Network

/-- Two alarms watch the chain: the earlier one stops it. -/
theorem endings_builtChain : builtChain.Orderly ∧
    builtChain.EndsBy 5 [Alarm.mk 2, Alarm.mk 9] (.halted 2) := by
  have reachable : Reachable (fun _ => True) builtChain :=
    .step _ _ (reachable_lateChain _ trivial) (.build lateChain)
  obtain ⟨orderly, endings⟩ := endings_of_reachable (fun _ => True) builtChain reachable
  obtain ⟨ending, ends, _⟩ := endings Alarm 5 [Alarm.mk 2, Alarm.mk 9]
  have appears := builtChain.appearance_of_endsBy 5 _ ending ends
  have stopped : (builtChain.ready.1.toOption.map (fun _ =>
      ((builtChain.run 5 [Alarm.mk 2, Alarm.mk 9]).result.isOk,
        (builtChain.run 5 [Alarm.mk 2, Alarm.mk 9]).network.state))) =
      some (true, .stopped) := by decide +kernel
  have counted : (builtChain.run 5 [Alarm.mk 2, Alarm.mk 9]).network.iteration = 2 ∧
      builtChain.iteration = 0 := by decide +kernel
  rw [stopped] at appears
  refine ⟨orderly, ?_⟩
  cases ending with
  | refused => cases appears
  | completed => cases appears
  | failed done => cases appears
  | halted done =>
    have told := ends.1.iteration
    have bound := ends.2.bound
    rw [counted.1, counted.2] at told
    have two : done = 2 := by
      interval_cases done <;> first | rfl | exact absurd told (by decide)
    exact two ▸ ends

end Network

end RegionGraph
