import RegionGraph.Proofs.Copying
import RegionGraph.Proofs.Twins

/-!
# Checkpoints are transparent

A network that was saved and loaded again is like the saved one, but it is unbuilt: its
order, the levels of its regions and the numbers of its links are gone. A run builds it
again, and this cannot be noticed, since the saved network could have been built again
at any time and would have kept what lasts. From then on the two go in step. Watchers are
not saved, so nobody watches here.
-/

namespace RegionGraph

variable {κ : Type}

/-- What may be asked of a network whose topology stays. -/
inductive Call where
  | run (cycles : Nat)
  | setParameter (region name : String) (value : Value)
deriving DecidableEq

/-- The contents of an output, read off what is lasting about its region. -/
def Essence.readOutput (essence : Essence κ) (output : String) : Except GraphError Buffer :=
  match essence.outputs.get? output with
  | some buffer => .ok buffer
  | none => .error (.unknownOutput essence.name output)

/-- The current value of a parameter, read off what is lasting about its region. -/
def Essence.readParameter [Implementation κ] (essence : Essence κ) (name : String) :
    Except GraphError Value :=
  match essence.spec.parameter? name with
  | none => .error (.invalidParameter name (.undeclaredBy essence.type))
  | some _ =>
    match Implementation.parameter? essence.state name <|> essence.params.get? name with
    | some value => .ok value
    | none => .error (.invalidParameter name .unavailable)

namespace Network

variable [Implementation κ]

/-- One call, with nobody watching. -/
def perform (network : Network κ) : Call → Except GraphError Unit × Network κ
  | .run cycles => ((network.run cycles ([] : List Empty)).result,
      (network.run cycles ([] : List Empty)).network)
  | .setParameter region name value => (Network.setParameter region name value).run network

/-- The network after calls, each of which may have succeeded or failed. -/
def performAll (network : Network κ) (calls : List Call) : Network κ :=
  calls.foldl (fun network call => (network.perform call).2) network

omit [Implementation κ] in
/-- The contents of an output of a region. -/
def readOutput (network : Network κ) (region output : String) : Except GraphError Buffer := do
  let owner ← network.region region
  let endpoint ← owner.output output
  return endpoint.buffer

/-- The current value of a parameter of a region. -/
def readParameter (network : Network κ) (region name : String) : Except GraphError Value := do
  let owner ← network.region region
  owner.parameter name

/-- Networks that show the same: contents of outputs, values of parameters and the number
of completed cycles. -/
structure ShowsSame (first second : Network κ) : Prop where
  outputs : ∀ region output, first.readOutput region output = second.readOutput region output
  parameters : ∀ region name, first.readParameter region name = second.readParameter region name
  iteration : first.iteration = second.iteration

/-- Alike networks show the same. -/
theorem showsSame_of_alike (first second : Network κ) (alike : first.Alike second) :
    first.ShowsSame second where
  outputs := by
    intro region output
    have read (network : Network κ) : network.readOutput region output =
        (network.region region).map Region.essence >>= fun essence =>
          essence.readOutput output := by
      unfold readOutput
      cases network.region region with
      | error fault => rfl
      | ok owner =>
        simp only [Except.map, Traversal.ok_bind, Region.output, Essence.readOutput,
          Region.essence, NameMap.get?_map]
        cases owner.outputs.get? output <;> rfl
    rw [read, read, alike.region]
  parameters := by
    intro region name
    have read (network : Network κ) : network.readParameter region name =
        (network.region region).map Region.essence >>= fun essence =>
          essence.readParameter name := by
      unfold readParameter
      cases network.region region <;> rfl
    rw [read, read, alike.region]
  iteration := alike.iteration

/-! ### In step -/

/-- Two networks in step: they are alike, and where the first has an order the second has
the same or none. -/
structure InStep (first second : Network κ) : Prop where
  alike : first.Alike second
  soundFirst : first.wiring.Sound
  soundSecond : second.wiring.Sound
  settledFirst : first.Settled
  settledSecond : second.Settled
  steady : first.Steady
  order : second.order = first.order ∨ second.order = none

variable [Steadfast κ]

/-- Networks in step that have the same order run alike. -/
theorem run_inStep_of_order (first second : Network κ) (inStep : first.InStep second)
    (order : List Nat) (ordered : first.order = some order) (orderedTwin : second.order = some order)
    (cycles : Nat) :
    Agree (first.run cycles ([] : List Empty)).result (second.run cycles ([] : List Empty)).result ∧
      (first.run cycles ([] : List Empty)).network.InStep
        (second.run cycles ([] : List Empty)).network := by
  obtain ⟨settledFirst, keptFirst, _⟩ := first.settled_run_of_order inStep.soundFirst
    inStep.settledFirst order ordered cycles ([] : List Empty)
  obtain ⟨settledSecond, keptSecond, _⟩ := second.settled_run_of_order inStep.soundSecond
    inStep.settledSecond order orderedTwin cycles ([] : List Empty)
  have running : Alike { first with state := .running } { second with state := .running } :=
    ⟨inStep.alike.regions, inStep.alike.index, inStep.alike.links, inStep.alike.iteration⟩
  obtain ⟨results, alike⟩ := runCycles_of_alike (ω := Empty) order cycles
    { first with state := .running } { second with state := .running } running inStep.soundFirst
    inStep.soundSecond
    (built_of_same first _ order (inStep.settledFirst.built order ordered) rfl rfl rfl)
    (built_of_same second _ order (inStep.settledSecond.built order orderedTwin) rfl rfl rfl)
  have ranFirst := first.run_of_order order ordered cycles ([] : List Empty)
  have ranSecond := second.run_of_order order orderedTwin cycles ([] : List Empty)
  refine ⟨Agree.of_eq (by rw [ranFirst, ranSecond, results]), ?_⟩
  exact {
    alike := by rw [ranFirst, ranSecond]; exact alike
    soundFirst := first.wiring_run cycles ([] : List Empty) ▸ inStep.soundFirst
    soundSecond := second.wiring_run cycles ([] : List Empty) ▸ inStep.soundSecond
    settledFirst
    settledSecond
    steady := first.steady_run_of_order inStep.soundFirst inStep.settledFirst inStep.steady order
      ordered cycles []
    order := Or.inl (keptSecond.trans keptFirst.symm) }

/-- Building a network without an order keeps it sound, settled and steady, and gives it an
order exactly if it succeeds. -/
theorem rebuilt_keeps (network : Network κ) (sound : network.wiring.Sound)
    (settled : network.Settled) (absent : network.order = none) :
    network.rebuilt.2.wiring.Sound ∧ network.rebuilt.2.Settled ∧ network.rebuilt.2.Steady ∧
      match network.rebuilt.1 with
      | .ok _ => ∃ order, network.rebuilt.2.order = some order
      | .error _ => network.rebuilt.2.order = none := by
  obtain ⟨soundAfter, settledAfter, ordered⟩ :=
    network.rebuilt_of_unordered sound settled absent
  have steady := network.steady_build sound settled (network.steady_of_unordered absent)
  rw [network.build_of_unordered settled absent] at steady
  exact ⟨soundAfter, settledAfter, steady, ordered⟩

/-- Networks in step without an order are both built, with the same outcome, and then run
alike. -/
theorem run_inStep_of_unordered (first second : Network κ) (inStep : first.InStep second)
    (absent : first.order = none) (absentTwin : second.order = none) (cycles : Nat) :
    Agree (first.run cycles ([] : List Empty)).result (second.run cycles ([] : List Empty)).result ∧
      (first.run cycles ([] : List Empty)).network.InStep
        (second.run cycles ([] : List Empty)).network := by
  obtain ⟨agree, alike, orders⟩ := rebuilt_of_alike first second inStep.alike inStep.soundFirst
    inStep.soundSecond
  obtain ⟨soundNext, settledNext, steadyNext, orderNext⟩ :=
    first.rebuilt_keeps inStep.soundFirst inStep.settledFirst absent
  obtain ⟨soundTwin, settledTwin, _, orderTwin⟩ :=
    second.rebuilt_keeps inStep.soundSecond inStep.settledSecond absentTwin
  have ran := first.run_of_unordered inStep.soundFirst inStep.settledFirst absent cycles
  have ranTwin := second.run_of_unordered inStep.soundSecond inStep.settledSecond absentTwin cycles
  have nextInStep (same : second.rebuilt.2.order = first.rebuilt.2.order) :
      first.rebuilt.2.InStep second.rebuilt.2 :=
    ⟨alike, soundNext, soundTwin, settledNext, settledTwin, steadyNext, Or.inl same⟩
  rcases made : first.rebuilt with ⟨outcome, next⟩
  rcases madeTwin : second.rebuilt with ⟨other, twin⟩
  rw [made, madeTwin] at agree orders nextInStep
  rw [made] at orderNext ran
  rw [madeTwin] at orderTwin ranTwin
  cases outcome with
  | error fault =>
    cases other with
    | ok _ => cases agree
    | error another =>
      rw [ran, ranTwin]
      exact ⟨agree, nextInStep (orderTwin.trans orderNext.symm)⟩
  | ok _ =>
    cases other with
    | error another => cases agree
    | ok _ =>
      obtain ⟨order, ordered⟩ := orderNext
      have same := orders rfl
      rw [ran, ranTwin]
      exact run_inStep_of_order next twin (nextInStep same) order ordered (same.trans ordered) cycles

/-- Where the second of two networks in step alone has no order it is built on the way. It
gets the order that the first has. -/
theorem run_inStep_of_rebuilt (first second : Network κ) (inStep : first.InStep second)
    (order : List Nat) (ordered : first.order = some order) (absent : second.order = none)
    (cycles : Nat) :
    Agree (first.run cycles ([] : List Empty)).result (second.run cycles ([] : List Empty)).result ∧
      (first.run cycles ([] : List Empty)).network.InStep
        (second.run cycles ([] : List Empty)).network := by
  obtain ⟨agree, alike, orders⟩ := rebuilt_of_alike first second inStep.alike inStep.soundFirst
    inStep.soundSecond
  obtain ⟨soundTwin, settledTwin, _, _⟩ :=
    second.rebuilt_keeps inStep.soundSecond inStep.settledSecond absent
  have ranTwin := second.run_of_unordered inStep.soundSecond inStep.settledSecond absent cycles
  obtain ⟨succeeded, kept, same⟩ := first.rebuilt_of_steady inStep.soundFirst inStep.settledFirst
    inStep.steady order ordered
  have succeededTwin := agree.ok () succeeded
  have orderedTwin : second.rebuilt.2.order = some order := (orders succeeded).trans same
  rcases made : second.rebuilt with ⟨outcome, after⟩
  rw [made] at alike soundTwin settledTwin succeededTwin orderedTwin ranTwin
  simp only at succeededTwin
  subst succeededTwin
  rw [ranTwin]
  exact run_inStep_of_order first after {
    alike := kept.trans alike
    soundFirst := inStep.soundFirst
    soundSecond := soundTwin
    settledFirst := inStep.settledFirst
    settledSecond := settledTwin
    steady := inStep.steady
    order := Or.inl (orderedTwin.trans ordered.symm) } order ordered orderedTwin cycles

/-- Networks in step run alike, also if one or both are built on the way. -/
theorem run_inStep (first second : Network κ) (inStep : first.InStep second) (cycles : Nat) :
    Agree (first.run cycles ([] : List Empty)).result (second.run cycles ([] : List Empty)).result ∧
      (first.run cycles ([] : List Empty)).network.InStep
        (second.run cycles ([] : List Empty)).network := by
  rcases Option.eq_none_or_eq_some first.order with absent | ⟨order, ordered⟩
  · have absentTwin : second.order = none := inStep.order.elim (fun same => same.trans absent) id
    exact run_inStep_of_unordered first second inStep absent absentTwin cycles
  · rcases inStep.order with same | absentTwin
    · exact run_inStep_of_order first second inStep order ordered (same.trans ordered) cycles
    · exact run_inStep_of_rebuilt first second inStep order ordered absentTwin cycles

/-- Networks in step answer every call alike, up to numbers of links in a fault, and are in
step afterwards. -/
theorem perform_inStep (first second : Network κ) (inStep : first.InStep second) (call : Call) :
    Agree (first.perform call).1 (second.perform call).1 ∧
      (first.perform call).2.InStep (second.perform call).2 := by
  cases call with
  | run cycles => exact run_inStep first second inStep cycles
  | setParameter region name value =>
    have indexedFirst := first.indexed_of_sound inStep.soundFirst
    have indexedSecond := second.indexed_of_sound inStep.soundSecond
    obtain ⟨results, alike⟩ := setParameter_of_alike first second inStep.alike region name value
    obtain ⟨settledFirst, orderFirst⟩ :=
      first.settled_setParameter indexedFirst inStep.settledFirst region name value
    obtain ⟨settledSecond, orderSecond⟩ :=
      second.settled_setParameter indexedSecond inStep.settledSecond region name value
    have order := inStep.order
    rw [← orderFirst, ← orderSecond] at order
    exact ⟨Agree.of_eq results, {
      alike
      soundFirst := first.wiring_setParameter indexedFirst region name value ▸ inStep.soundFirst
      soundSecond :=
        second.wiring_setParameter indexedSecond region name value ▸ inStep.soundSecond
      settledFirst
      settledSecond
      steady := first.steady_setParameter inStep.soundFirst inStep.steady region name value
      order }⟩

/-- Networks in step are in step after any calls. -/
theorem performAll_inStep (calls : List Call) (first second : Network κ)
    (inStep : first.InStep second) : (first.performAll calls).InStep (second.performAll calls) := by
  induction calls generalizing first second with
  | nil => exact inStep
  | cons call rest inductionHypothesis =>
    exact inductionHypothesis _ _ (perform_inStep first second inStep call).2

/-! ### Checkpoints -/

/-- Checkpoints are transparent. A network of built-in regions that is reachable in any way
can be saved and loaded again, the loaded network saves the same, and after any calls to
both the next call ends alike on both, up to numbers of links in a fault, and both show
the same.

The network and its copy are kept in step: alike in regions, contents, links and cycles, though
the copy was perhaps not built yet. Every call leads two networks in step to two networks in
step, by the same recursion over the execution order on both sides; for the call that builds the
copy on the way it is used that implementations answer the same lengths as before. The calls are
an induction over their list. -/
theorem transparent_of_reachable (kind : String → Option (RegionType Builtin))
    (stock : Builtin.Stock kind) (network : Network Builtin)
    (reachable : network.Reachable (fun registry => registry.Offers kind))
    (storable : ∀ region ∈ network.regions, region.state.Storable) (timestamp : UInt64)
    (settings : NetworkSettings) (registry : Registry Builtin) (offers : registry.Offers kind) :
    ∃ bundle copy later, network.save timestamp = .ok bundle ∧
      (load bundle settings).run registry = (.ok copy, later) ∧
      (∀ moment, copy.save moment = network.save moment) ∧
      ∀ calls : List Call, (network.performAll calls).ShowsSame (copy.performAll calls) ∧
        ∀ call, Agree ((network.performAll calls).perform call).1
          ((copy.performAll calls).perform call).1 := by
  have sound := sound_of_reachable _ network reachable
  obtain ⟨bundle, copy, later, saved, loaded, alike⟩ := load_save kind stock network sound
    (Builtin.conforms_of_reachable kind stock network reachable) storable timestamp settings
    registry offers
  obtain ⟨soundCopy, unbuilt, unordered⟩ := sound_load bundle settings copy registry later loaded
  have inStep : network.InStep copy := {
    alike
    soundFirst := sound
    soundSecond := soundCopy
    settledFirst := settled_of_reachable _ network reachable
    settledSecond := copy.settled_of_unbuilt unbuilt unordered
    steady := steady_of_reachable _ network reachable
    order := Or.inr unordered }
  refine ⟨bundle, copy, later, saved, loaded, fun moment => save_of_alike copy network alike.symm
    moment, ?_⟩
  intro calls
  have afterwards := performAll_inStep calls network copy inStep
  exact ⟨showsSame_of_alike _ _ afterwards.alike,
    fun call => (perform_inStep _ _ afterwards call).1⟩

/-- The chain after it ran for some cycles and its source got another step, with two
snapshots on their way. -/
def busyChain : Network Builtin :=
  builtChain.performAll [.run 3, .setParameter "source" "step" (.scalar ⟨.int32, 5⟩)]

/-- A checkpoint of the busy chain is transparent. -/
theorem transparent_busyChain : busyChain.iteration = 3 ∧
    (∀ region ∈ busyChain.regions, region.state.Storable) ∧
    ∃ bundle copy later, busyChain.save 7 = .ok bundle ∧
      (load bundle default).run (Registry.registerAll ∅ Builtin.types) = (.ok copy, later) ∧
      (∀ moment, copy.save moment = busyChain.save moment) ∧
      ∀ calls : List Call, (busyChain.performAll calls).ShowsSame (copy.performAll calls) ∧
        ∀ call, Agree ((busyChain.performAll calls).perform call).1
          ((copy.performAll calls).perform call).1 := by
  have offers := Registry.offers_registerAll Builtin.types
  have reachable : busyChain.Reachable
      (fun registry => registry.Offers (fun name => Builtin.types.lookup name)) :=
    .step _ _ (.step _ _ (.step _ _ (reachable_lateChain _ offers) (.build lateChain))
      (.run Empty builtChain 3 [])) (.setParameter _ "source" "step" (.scalar ⟨.int32, 5⟩))
  have storable : ∀ region ∈ busyChain.regions, region.state.Storable := by decide +kernel
  exact ⟨by decide +kernel, storable, transparent_of_reachable _ Builtin.stock_types busyChain
    reachable storable 7 default _ offers⟩

end Network

end RegionGraph
