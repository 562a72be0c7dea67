import RegionGraph.Proofs.Endings

/-!
# Runs in pieces

A run may be split at the end of any of its cycles, as often as one likes, and the network may
be stopped between two pieces. As long as no watcher halts it, nothing tells the pieces from
the whole: the network, the watchers and the outcome are the same, also when a piece fails and
those after it do not take place. What a run does before its first cycle and after its last is
neutral: a network that has an order is not built again, and the state that one piece leaves
is not looked at by the next.
-/

namespace RegionGraph

variable {κ ω : Type}

/-- Go on from the end of a run that succeeded. A run that failed stays as it ended. -/
def Ran.andThen (ran : Ran κ ω) (next : Network κ → List ω → Ran κ ω) : Ran κ ω :=
  match ran.result with
  | .ok _ => next ran.network ran.watchers
  | .error _ => ran

/-! ### Watchers that never halt -/

section Watching

variable [Watcher κ ω]

/-- What has become of a watcher that was told of some networks, one after the other. -/
def toldOf (watcher : ω) (notices : List (Network κ × UInt64)) : ω :=
  notices.foldl (fun watcher notice => (Watcher.notify watcher notice.1 notice.2).1) watcher

variable (κ) in
/-- A watcher that never halts a run: it goes on, whatever it was told of before. -/
def Tireless (watcher : ω) : Prop :=
  ∀ (earlier : List (Network κ × UInt64)) (network : Network κ) (iteration : UInt64),
    (Watcher.notify (toldOf watcher earlier) network iteration).2 = .continue

/-- A watcher that never halts goes on when it is told of a cycle, and never halts after. -/
theorem Tireless.notify {watcher : ω} (tireless : Tireless κ watcher) (network : Network κ)
    (iteration : UInt64) :
    (Watcher.notify watcher network iteration).2 = .continue ∧
      Tireless κ (Watcher.notify watcher network iteration).1 :=
  ⟨tireless [] network iteration, fun earlier => tireless ((network, iteration) :: earlier)⟩

/-- Among watchers that never halt a run goes on. -/
theorem Network.notifyAll_tireless (network : Network κ) (watchers : List ω)
    (tireless : ∀ watcher ∈ watchers, Tireless κ watcher) :
    (network.notifyAll watchers).2 = .continue ∧
      ∀ watcher ∈ (network.notifyAll watchers).1, Tireless κ watcher := by
  obtain ⟨told, halting⟩ := network.notifyAll_eq watchers
  constructor
  · cases answer : (network.notifyAll watchers).2 with
    | «continue» => rfl
    | halt =>
      obtain ⟨watcher, member, halts⟩ := halting.mp answer
      cases halts.symm.trans ((tireless watcher member).notify network network.iteration).1
  · rw [told]
    intro _ member
    obtain ⟨watcher, present, rfl⟩ := List.mem_map.mp member
    exact ((tireless watcher present).notify network network.iteration).2

end Watching

namespace Network

variable [Implementation κ]

/-! ### Cycles in two pieces -/

/-- A cycle leaves the order, and if it succeeds also the state of the network. -/
theorem lifecycle_cycle (order : List Nat) (network : Network κ) :
    ((cycle order).run network).2.order = network.order ∧
      (((cycle order).run network).1 = .ok () →
        ((cycle order).run network).2.state = network.state) := by
  obtain ⟨regions, state, effect, _, _, lifecycle⟩ := stepAll_effect order network
  rw [run_cycle]
  rcases computed : (stepAll order).run network with ⟨outcome, after⟩
  rw [computed] at effect lifecycle
  cases effect
  cases outcome with
  | error fault => exact ⟨rfl, fun impossible => by cases impossible⟩
  | ok _ =>
    dsimp only
    obtain ⟨links, moves⟩ := ({ network with regions, state } : Network κ).shiftLinks_effect
    rcases shifted : shiftLinks.run ({ network with regions, state } : Network κ) with
      ⟨fault | _, moved⟩
    case error =>
      rw [shifted] at moves
      cases moves
      exact ⟨rfl, fun impossible => by cases impossible⟩
    case ok =>
      rw [shifted] at moves
      cases moves
      exact ⟨rfl, fun _ => lifecycle⟩

variable [Watcher κ ω]

/-- Cycles that no watcher halts leave the order; if they succeed, the network is initialized. -/
theorem lifecycle_runCycles (order : List Nat) (cycles : Nat) (start : Network κ)
    (watchers : List ω) (tireless : ∀ watcher ∈ watchers, Tireless κ watcher) :
    (runCycles order cycles start watchers).network.order = start.order ∧
      ((runCycles order cycles start watchers).result = .ok () →
        (runCycles order cycles start watchers).network.state = .initialized) := by
  induction cycles generalizing start watchers with
  | zero => exact ⟨rfl, fun _ => rfl⟩
  | succ cycles inductionHypothesis =>
    have kept := (lifecycle_cycle order start).1
    rcases cycled : (cycle order).run start with ⟨outcome, next⟩
    rw [cycled] at kept
    cases outcome with
    | error fault =>
      rw [runCycles, cycled]
      exact ⟨kept, fun impossible => by cases impossible⟩
    | ok _ =>
      obtain ⟨goOn, tirelessNext⟩ := next.notifyAll_tireless watchers tireless
      obtain ⟨ordered, idle⟩ := inductionHypothesis next _ tirelessNext
      rw [runCycles_succ order cycles start next watchers cycled goOn]
      exact ⟨ordered.trans kept, idle⟩

/-- Cycles that no watcher halts are some of them and then the others. -/
theorem runCycles_add (order : List Nat) (first second : Nat) (start : Network κ)
    (watchers : List ω) (running : start.state = .running)
    (tireless : ∀ watcher ∈ watchers, Tireless κ watcher) :
    runCycles order (first + second) start watchers =
      (runCycles order first start watchers).andThen (fun network watchers =>
        runCycles order second { network with state := .running } watchers) := by
  induction first generalizing start watchers with
  | zero =>
    have same : { start with state := .running } = start := by rw [← running]
    simp only [Nat.zero_add, runCycles, Ran.andThen, same]
  | succ first inductionHypothesis =>
    have kept := (lifecycle_cycle order start).2
    rw [Nat.succ_add]
    rcases cycled : (cycle order).run start with ⟨outcome, next⟩
    rw [cycled] at kept
    cases outcome with
    | error fault => simp only [runCycles, cycled, Ran.andThen]
    | ok _ =>
      obtain ⟨goOn, tirelessNext⟩ := next.notifyAll_tireless watchers tireless
      rw [runCycles_succ order _ start next watchers cycled goOn,
        runCycles_succ order _ start next watchers cycled goOn]
      exact inductionHypothesis next _ ((kept rfl).trans running) tirelessNext

/-! ### Runs in two pieces -/

/-- Every run of a network is refused with the same fault, or every run of it is cycles from the
same start, whose order is the one that it has. -/
theorem run_cases (network : Network κ) :
    (∃ fault after, ∀ cycles (watchers : List ω),
      network.run cycles watchers = ⟨.error fault, after, watchers⟩) ∨
    ∃ order start, start.order = some order ∧ start.state = .running ∧
      ∀ cycles (watchers : List ω),
        network.run cycles watchers = runCycles order cycles start watchers := by
  rcases prepared : network.ready with ⟨outcome, ready⟩
  cases outcome with
  | error fault => exact Or.inl ⟨fault, ready, fun cycles watchers => by rw [run, prepared]⟩
  | ok _ =>
    cases ordered : ready.order with
    | none =>
      refine Or.inl ⟨.noExecutionOrder, ready, fun cycles watchers => ?_⟩
      rw [run, prepared]
      simp only [ordered]
    | some order =>
      refine Or.inr ⟨order, { ready with state := .running }, ordered, rfl,
        fun cycles watchers => ?_⟩
      rw [run, prepared]
      simp only [ordered]

/-- A run that succeeded without being halted leaves the network initialized, with an order. -/
theorem initialized_of_run (network : Network κ) (cycles : Nat) (watchers : List ω)
    (tireless : ∀ watcher ∈ watchers, Tireless κ watcher)
    (succeeded : (network.run cycles watchers).result = .ok ()) :
    (network.run cycles watchers).network.state = .initialized ∧
      ∃ order, (network.run cycles watchers).network.order = some order := by
  rcases network.run_cases (ω := ω) with ⟨fault, after, refused⟩ | ⟨order, start, ordered, _, begins⟩
  · rw [refused] at succeeded
    cases succeeded
  · obtain ⟨kept, idle⟩ := lifecycle_runCycles order cycles start watchers tireless
    rw [begins] at succeeded ⊢
    exact ⟨idle succeeded, order, kept.trans ordered⟩

/-- A run that no watcher halts is a run of some of its cycles and then one of the others. -/
theorem run_add (network : Network κ) (first second : Nat) (watchers : List ω)
    (tireless : ∀ watcher ∈ watchers, Tireless κ watcher) :
    network.run (first + second) watchers = (network.run first watchers).andThen
      (fun after others => after.run second others) := by
  rcases network.run_cases (ω := ω) with
    ⟨fault, after, refused⟩ | ⟨order, start, ordered, running, begins⟩
  · rw [refused, refused, Ran.andThen]
  · have kept := (lifecycle_runCycles order first start watchers tireless).1
    rw [begins, begins, runCycles_add order first second start watchers running tireless]
    unfold Ran.andThen
    split
    · exact (run_of_order _ order (kept.trans ordered) second _).symm
    · rfl

/-- Run on after stopping. A network that cannot be stopped is not run. -/
def resume (network : Network κ) (cycles : Nat) (watchers : List ω) : Ran κ ω :=
  match (stop (κ := κ)).run network with
  | (.ok _, stopped) => stopped.run cycles watchers
  | (.error fault, same) => ⟨.error fault, same, watchers⟩

/-- A network that is initialized and has an order may as well be stopped before it is run. -/
theorem resume_of_initialized (network : Network κ) (initialized : network.state = .initialized)
    (order : List Nat) (ordered : network.order = some order) (cycles : Nat)
    (watchers : List ω) : network.resume cycles watchers = network.run cycles watchers := by
  have stops : (stop (κ := κ)).run network = (.ok (), { network with state := .stopped }) := by
    simp only [stop, Edit.run_bind, Edit.run_get, initialized, reduceCtorEq, if_false]
    rfl
  have same : ({ network with state := .stopped } : Network κ).run cycles watchers =
      network.run cycles watchers :=
    (run_of_order { network with state := .stopped } order ordered cycles watchers).trans
      (network.run_of_order order ordered cycles watchers).symm
  rw [resume, stops]
  exact same

/-! ### Runs in any number of pieces -/

/-- A further piece of a run: how many cycles it has, and whether the network is stopped before
it. -/
structure Piece where
  stops : Bool
  cycles : Nat

/-- Go on with a further piece. -/
def goOn (piece : Piece) (network : Network κ) (watchers : List ω) : Ran κ ω :=
  if piece.stops then network.resume piece.cycles watchers
  else network.run piece.cycles watchers

/-- A first run and then further pieces, as far as they succeed. -/
def runInPieces (network : Network κ) (first : Nat) (pieces : List Piece) (watchers : List ω) :
    Ran κ ω :=
  pieces.foldl (fun ran piece => ran.andThen (goOn piece)) (network.run first watchers)

/-- After a run that no watcher halted it does not show whether the network is stopped. -/
theorem andThen_goOn (network : Network κ) (first : Nat) (piece : Piece) (watchers : List ω)
    (tireless : ∀ watcher ∈ watchers, Tireless κ watcher) :
    (network.run first watchers).andThen (goOn piece) =
      network.run (first + piece.cycles) watchers := by
  rw [network.run_add first piece.cycles watchers tireless]
  cases succeeded : (network.run first watchers).result with
  | error fault => simp only [Ran.andThen, succeeded]
  | ok _ =>
    obtain ⟨initialized, order, ordered⟩ :=
      network.initialized_of_run first watchers tireless succeeded
    simp only [Ran.andThen, succeeded, goOn]
    split
    · exact resume_of_initialized _ initialized order ordered piece.cycles _
    · rfl

/-- Splitting a run that no watcher halts does not show. A run is as good as a run of some of its
cycles and then, if that succeeds, one of the others, whether or not the network is stopped in
between; and so it is with any number of pieces. The outcome, the network with its regions,
buffers, pending snapshots, count of cycles and state, and the watchers are the same.

Two pieces are one by induction over the cycles of the first, as a cycle that no watcher halts
leads to the cycle after it, however the cycles are counted off. Any number of pieces are an
induction over the list of pieces, which are joined to the first one by one. -/
theorem run_eq_runInPieces (network : Network κ) (watchers : List ω)
    (tireless : ∀ watcher ∈ watchers, Tireless κ watcher) :
    (∀ first second, network.run (first + second) watchers =
      (network.run first watchers).andThen (fun after others => after.run second others)) ∧
    (∀ first second, network.run (first + second) watchers =
      (network.run first watchers).andThen (fun after others => after.resume second others)) ∧
    ∀ first pieces, network.run (first + (pieces.map Piece.cycles).sum) watchers =
      network.runInPieces first pieces watchers := by
  refine ⟨fun first second => network.run_add first second watchers tireless,
    fun first second => (network.andThen_goOn first ⟨true, second⟩ watchers tireless).symm, ?_⟩
  intro first pieces
  unfold runInPieces
  induction pieces generalizing first with
  | nil => rfl
  | cons piece rest inductionHypothesis =>
    rw [List.foldl_cons, network.andThen_goOn first piece watchers tireless,
      ← inductionHypothesis (first + piece.cycles), List.map_cons, List.sum_cons, Nat.add_assoc]

end Network

/-- A watcher that notes the cycles it was told of, the latest first. -/
structure Chronicle where
  cycles : List UInt64
deriving DecidableEq

instance : Watcher κ Chronicle where
  notify chronicle _ iteration := (⟨iteration :: chronicle.cycles⟩, .continue)

namespace Network

/-- The chain is not built when its run begins, is stopped after two of its cycles, and runs on:
its watcher was told of the same cycles as in one run. -/
theorem run_eq_runInPieces_lateChain :
    lateChain.run 4 [Chronicle.mk []] =
        lateChain.runInPieces 1 [⟨false, 1⟩, ⟨true, 0⟩, ⟨true, 2⟩] [Chronicle.mk []] ∧
      (lateChain.run 4 [Chronicle.mk []]).result = .ok () ∧
      (lateChain.run 4 [Chronicle.mk []]).watchers = [⟨[4, 3, 2, 1]⟩] := by
  have tireless : ∀ watcher ∈ [Chronicle.mk []], Tireless Builtin watcher :=
    fun _ _ _ _ _ => rfl
  exact ⟨(run_eq_runInPieces lateChain [Chronicle.mk []] tireless).2.2 1
    [⟨false, 1⟩, ⟨true, 0⟩, ⟨true, 2⟩], by decide +kernel, by decide +kernel⟩

end Network

end RegionGraph
