import RegionGraph.Proofs.Confluence
import RegionGraph.Proofs.Endings
import RegionGraph.Scripted

/-!
# A failed computation stays where it happened

When the computation of a region fails the cycle ends there. Regions that come later in the
order, links and the count of cycles are as they were when the cycle began. Regions that came
earlier are as they would be if the computation had not failed: what they compute depends on
nothing that the region or those after it hold. The region itself is as its computation left
it, with its inputs in place. The run is over and the network is stopped, and it can be run
again at once.
-/

namespace RegionGraph

variable {κ ω : Type} [Implementation κ]

namespace Network

/-! ### What regions early in the order depend on -/

omit [Implementation κ] in
/-- Networks that hold the same at some places. At the others the regions may differ in
contents, parameters and states. -/
structure AgreesOn (first second : Network κ) (places : List Nat) : Prop where
  regions : ∀ place ∈ places, second.regions[place]? = first.regions[place]?
  frames : second.regions.map Region.frame = first.regions.map Region.frame
  rest : second = { first with regions := second.regions }

namespace AgreesOn

variable {first second : Network κ} {places : List Nat}

omit [Implementation κ] in
/-- Networks that agree somewhere are wired the same. -/
theorem wiring (agrees : first.AgreesOn second places) : second.wiring = first.wiring := by
  rw [agrees.rest]
  exact wiring_of_frames _ first agrees.frames rfl rfl rfl

omit [Implementation κ] in
/-- Networks that agree somewhere are shaped together. -/
theorem shaped (agrees : first.AgreesOn second places) (shaped : first.Shaped) :
    second.Shaped := by
  rw [agrees.rest]
  exact shaped_of_links first _ agrees.frames.symm rfl rfl shaped

omit [Implementation κ] in
/-- Networks that agree somewhere have the same links, count of cycles and settings. -/
theorem common (agrees : first.AgreesOn second places) :
    second.links = first.links ∧ second.iteration = first.iteration ∧
      second.settings = first.settings := by
  rw [agrees.rest]
  exact ⟨rfl, rfl, rfl⟩

omit [Implementation κ] in
/-- Networks that agree somewhere agree there if they are both said to be in a state. -/
theorem renamed (agrees : first.AgreesOn second places) (state : Lifecycle) :
    ({ first with state } : Network κ).AgreesOn { second with state } places := by
  refine ⟨agrees.regions, agrees.frames, ?_⟩
  rw [agrees.rest]

omit [Implementation κ] in
/-- A region receives the same in networks that agree on all that comes before it: a delayed
link does not show its source, and the source of a direct link comes before. -/
theorem fed (agrees : first.AgreesOn second places) (sound : first.wiring.Sound)
    (shaped : first.Shaped) (order : List Nat) (topological : first.Topological order)
    (earlier later : List Nat) (index : Nat) (split : order = earlier ++ index :: later)
    (before : ∀ place ∈ earlier, place ∈ places) (region : Region κ)
    (found : first.regions[index]? = some region) : second.fed region = first.fed region := by
  have links := agrees.common.1
  have same : (second.fed region).bare = (first.fed region).bare := by
    refine second.fed_of_visible first links region region rfl ?_
    intro link member reader
    rw [links] at member
    cases kind : link.isDelayed with
    | true => exact first.visible_of_delayed shaped link member kind _ _
    | false =>
      obtain ⟨place, listed, source, there, named⟩ := first.direct_source_earlier sound order
        topological link member kind earlier later index region split found reader.symm
      rw [first.live_of_same_source second (first.indexed_of_sound sound)
        (second.indexed_of_sound (agrees.wiring ▸ sound)) link place source there
        (agrees.regions place (before place listed)) named]
  have inputs : (second.fed region).bare.inputs = (first.fed region).bare.inputs :=
    congrArg Region.inputs same
  exact congrArg (fun inputs => { region with inputs }) inputs

/-- The turn of a region goes the same way in networks that agree on it and on all that comes
before it, and they still agree afterwards. -/
theorem step (agrees : first.AgreesOn second places) (sound : first.wiring.Sound)
    (shaped : first.Shaped) (order : List Nat) (topological : first.Topological order)
    (earlier later : List Nat) (index : Nat) (split : order = earlier ++ index :: later)
    (before : ∀ place ∈ earlier, place ∈ places) (listed : index ∈ places) :
    ((Network.step index).run second).1 = ((Network.step index).run first).1 ∧
      ((Network.step index).run first).2.AgreesOn ((Network.step index).run second).2 places := by
  have same := agrees.regions index listed
  cases found : first.regions[index]? with
  | none =>
    have there : second.regions[index]? = none := same.trans found
    rw [run_step, run_step, there, found]
    exact ⟨rfl, agrees⟩
  | some region =>
    have there : second.regions[index]? = some region := same.trans found
    have soundToo : second.wiring.Sound := agrees.wiring ▸ sound
    have shapedToo := agrees.shaped shaped
    obtain ⟨_, iteration, settings⟩ := agrees.common
    obtain ⟨filled, fills, ran⟩ := first.step_of_shaped sound shaped index region found
    obtain ⟨other, fillsToo, ranToo⟩ := second.step_of_shaped soundToo shapedToo index region there
    have gets := agrees.fed sound shaped order topological earlier later index split before region
      found
    cases fills.symm.trans (first.fillInputs_fed sound shaped region (List.mem_of_getElem? found))
    cases fillsToo.symm.trans
      (second.fillInputs_fed soundToo shapedToo region (List.mem_of_getElem? there))
    have framed (network : Network κ) :
        ((Network.step index).run network).2.regions.map Region.frame =
          network.regions.map Region.frame := by
      obtain ⟨regions, effect, frames, _⟩ := step_effect index network
      rw [effect]
      exact frames
    have frames := (framed second).trans (agrees.frames.trans (framed first).symm)
    rw [gets, iteration, settings] at ranToo
    rw [ran, ranToo] at frames ⊢
    refine ⟨rfl, ?_, frames, ?_⟩
    · intro place member
      dsimp only
      rw [List.getElem?_set, List.getElem?_set]
      split
      case isTrue here =>
        rw [if_pos (List.getElem?_eq_some_iff.mp found).1,
          if_pos (List.getElem?_eq_some_iff.mp there).1]
      case isFalse elsewhere => exact agrees.regions place member
    · dsimp only
      rw [agrees.rest]

/-- Regions at the beginning of the order compute the same in networks that agree on them. -/
theorem stepAll (agrees : first.AgreesOn second places) (sound : first.wiring.Sound)
    (shaped : first.Shaped) (order : List Nat) (topological : first.Topological order)
    (done todo rest : List Nat) (split : order = (done ++ todo) ++ rest)
    (all : ∀ place ∈ done ++ todo, place ∈ places) :
    ((Network.stepAll todo).run second).1 = ((Network.stepAll todo).run first).1 ∧
      ((Network.stepAll todo).run first).2.AgreesOn ((Network.stepAll todo).run second).2
        places := by
  induction todo generalizing first second done with
  | nil => exact ⟨rfl, agrees⟩
  | cons index todo inductionHypothesis =>
    have apart : order = done ++ index :: (todo ++ rest) := by
      rw [split, List.append_assoc, List.cons_append]
    have listed : index ∈ places := all index (List.mem_append_right done List.mem_cons_self)
    obtain ⟨results, agreesNext⟩ := agrees.step sound shaped order topological done (todo ++ rest)
      index apart (fun place member => all place (List.mem_append_left _ member)) listed
    obtain ⟨wiringNext, shapedNext⟩ := first.step_keeps shaped index
    have names := agrees.regions index listed
    have iteration := agrees.common.2.1
    rw [run_stepAll_cons, run_stepAll_cons]
    rcases stepped : (Network.step index).run first with ⟨outcome, next⟩
    rcases steppedToo : (Network.step index).run second with ⟨outcomeToo, nextToo⟩
    rw [stepped] at results agreesNext wiringNext shapedNext
    rw [steppedToo] at results agreesNext
    cases results
    cases outcome with
    | error fault =>
      dsimp only
      rw [names, iteration]
      exact ⟨rfl, agreesNext.renamed .stopped⟩
    | ok _ =>
      have gathered : done ++ index :: todo = (done ++ [index]) ++ todo := by
        rw [List.append_assoc, List.singleton_append]
      rw [gathered] at split all
      exact inductionHypothesis agreesNext (wiringNext ▸ sound) shapedNext
        (topological_of_wiring first next order wiringNext topological) (done ++ [index]) split all

end AgreesOn

/-! ### The cycle that fails -/

/-- The turn of a region that fails: the regions that are earlier in the order have computed,
the inputs are filled, and the computation answers a fault. -/
structure FailingTurn (network : Network κ) (order earlier : List Nat) (index : Nat)
    (later : List Nat) (region : Region κ) (middle : Network κ) (filled : Region κ)
    (cause : GraphError) : Prop where
  split : order = earlier ++ index :: later
  reached : (stepAll earlier).run network = (.ok (), middle)
  found : network.regions[index]? = some region
  fills : middle.fillInputs region = (.ok (), filled)
  answers : (Implementation.compute filled.state (filled.exchange network.iteration)).result =
    .error cause

section Failing

variable {network middle : Network κ} {order earlier later : List Nat} {index : Nat}
  {region filled : Region κ} {cause : GraphError}
  (failing : network.FailingTurn order earlier index later region middle filled cause)
  (topological : network.Topological order)

include failing topological

/-- A cycle ends with the turn that fails. -/
theorem FailingTurn.run_cycle :
    (cycle order).run network = (.error (.computeFailure region.name network.iteration cause),
      { middle with
        regions := middle.regions.set index
          (filled.compute network.iteration network.settings.profiling).1
        state := .stopped }) := by
  have absent := (topological.once failing.split).2.1
  have stays := stepAll_elsewhere earlier network index absent
  obtain ⟨regions, state, effect, _⟩ := stepAll_effect earlier network
  rw [failing.reached] at stays effect
  have iteration : middle.iteration = network.iteration := by rw [show middle = _ from effect]
  have settings : middle.settings = network.settings := by rw [show middle = _ from effect]
  have here : middle.regions[index]? = some region := stays.trans failing.found
  have fails : (filled.compute network.iteration network.settings.profiling).2 = .error cause :=
    (filled.compute_result _ _).trans failing.answers
  have ran : (step index).run middle = (.error cause,
      { middle with
        regions := middle.regions.set index
          (filled.compute network.iteration network.settings.profiling).1 }) := by
    rw [run_step, here]
    simp only [failing.fills, iteration, settings, fails]
  rw [Network.run_cycle, failing.split, run_stepAll_append, failing.reached]
  simp only [run_stepAll_cons, ran, here, Option.map_some, Option.getD_some, iteration]

/-- Regions earlier in the order are in the end as their computations left them. -/
theorem FailingTurn.keeps_earlier (place : Nat) (before : place ∈ earlier) :
    (middle.regions.set index
      (filled.compute network.iteration network.settings.profiling).1)[place]? =
        middle.regions[place]? := by
  have apart : index ≠ place := by
    rintro rfl
    exact (topological.once failing.split).2.1 before
  exact List.getElem?_set_ne apart

/-- Regions later in the order are in the end as they were in the beginning. -/
theorem FailingTurn.spares_later (place : Nat) (after : place ∈ later) :
    (middle.regions.set index
      (filled.compute network.iteration network.settings.profiling).1)[place]? =
        network.regions[place]? := by
  obtain ⟨apart, _, once⟩ := topological.once failing.split
  have other : index ≠ place := by
    rintro rfl
    exact once after
  have absent : place ∉ earlier :=
    fun before => apart place before (List.mem_cons_of_mem index after)
  have stays := stepAll_elsewhere earlier network place absent
  rw [failing.reached] at stays
  exact (List.getElem?_set_ne other).trans stays

/-- Regions earlier in the order are in the end as a cycle that succeeds would leave them,
whatever the others hold for it to succeed. -/
theorem FailingTurn.as_in_success (sound : network.wiring.Sound) (shaped : network.Shaped)
    (other after : Network κ) (agrees : network.AgreesOn other earlier)
    (succeeds : (cycle order).run other = (.ok (), after)) (place : Nat)
    (before : place ∈ earlier) :
    after.regions[place]? = middle.regions[place]? := by
  obtain ⟨results, agreesThen⟩ := agrees.stepAll sound shaped order topological [] earlier
    (index :: later) failing.split (fun _ member => member)
  rcases reached : (stepAll earlier).run other with ⟨outcome, half⟩
  rw [failing.reached, reached] at results agreesThen
  cases results
  have whole := regions_cycle order other
  rw [succeeds, failing.split, run_stepAll_append, reached] at whole
  have stays := stepAll_elsewhere (index :: later) half place
    ((topological.once failing.split).1 place before)
  have kept : after.regions[place]? = half.regions[place]? :=
    (congrArg (fun regions => regions[place]?) whole).trans stays
  exact kept.trans (agreesThen.regions place before)

end Failing

/-! ### The run that fails -/

/-- A run breaks off in the first cycle that fails, if nobody halts it before. -/
theorem runCycles_of_failed [Watcher κ ω] (order : List Nat) (cycles done : Nat)
    (start after : Network κ) (watchers : List ω) (fault : GraphError) (bound : done < cycles)
    (completes : Completes order done start)
    (goesOn : ∀ cycle ≤ done, ¬Halts order start watchers cycle)
    (failed : (cycle order).run (afterCycles order done start) = (.error fault, after)) :
    (runCycles order cycles start watchers).result = .error fault ∧
      (runCycles order cycles start watchers).network = after := by
  rcases runCycles_cases order cycles start watchers with out | ⟨last, halted⟩ | ⟨last, broken⟩
  · have succeeded := out.completes done bound
    rw [failed] at succeeded
    cases succeeded
  · rcases Nat.lt_or_ge done last with past | within
    · have succeeded := halted.completes done past
      rw [failed] at succeeded
      cases succeeded
    · exact absurd halted.halts (goesOn last within)
  · obtain ⟨other, result, ends⟩ := broken.fails
    rcases Nat.lt_trichotomy last done with before | rfl | past
    · have succeeded := completes last before
      rw [ends] at succeeded
      cases succeeded
    · cases ends.symm.trans failed
      exact ⟨result, rfl⟩
    · have succeeded := broken.completes done past
      rw [failed] at succeeded
      cases succeeded

/-- A failed computation stays where it happened. The network is told as it was when the
cycle began and as the run leaves it. -/
structure Contained (network : Network κ) (order earlier : List Nat) (index : Nat)
    (later : List Nat) (region filled : Region κ) (cause : GraphError) (ran : Ran κ ω) : Prop where
  result : ran.result = .error (.computeFailure region.name network.iteration cause)
  later : ∀ place ∈ later, ran.network.regions[place]? = network.regions[place]?
  /-- A cycle that succeeds leaves the earlier regions the same, whatever it is that the
  other regions hold for it to succeed. -/
  earlier : ∀ other after, network.AgreesOn other earlier →
    (cycle order).run other = (.ok (), after) →
    ∀ place ∈ earlier, ran.network.regions[place]? = after.regions[place]?
  links : ran.network.links = network.links
  iteration : ran.network.iteration = network.iteration
  /-- The region is as its computation left it. Its inputs are all there, each with its links
  and with storage of the length that it had. -/
  here : ran.network.regions[index]? =
    some (filled.compute network.iteration network.settings.profiling).1
  attached : (filled.compute network.iteration network.settings.profiling).1.frame = region.frame
  state : ran.network.state = .stopped
  order : ran.network.order = some order
  /-- Another run is not refused. -/
  again : ∀ (ω : Type) [Watcher κ ω] (cycles : Nat) (watchers : List ω),
    ∃ ending, ending ≠ .refused ∧ ran.network.EndsBy cycles watchers ending

/-- In every reachable network that has an execution order, whichever region fails in whichever
cycle that a run comes to: the run reports it, and the failure stays where it happened.

The turns up to the one that fails are those of a cycle that succeeds, by the recursion over the
order. After it no turn comes any more, and the end of the cycle does not come either, so links
and the number of cycles are still those with which the cycle began. The cycles before it are an
induction over their number. -/
theorem contained_of_reachable [Watcher κ ω] (usable : Registry κ → Prop) (network : Network κ)
    (reachable : Reachable usable network) (order : List Nat)
    (ordered : network.order = some order) (cycles done : Nat) (watchers : List ω)
    (bound : done < cycles)
    (completes : Completes order done { network with state := .running })
    (goesOn : ∀ cycle ≤ done, ¬Halts order { network with state := .running } watchers cycle)
    (former : Network κ) (came : former = afterCycles order done { network with state := .running })
    (earlier later : List Nat) (index : Nat) (region filled : Region κ) (middle : Network κ)
    (cause : GraphError)
    (failing : former.FailingTurn order earlier index later region middle filled cause) :
    former.Contained order earlier index later region filled cause
      (network.run cycles watchers) := by
  have sound := sound_of_reachable usable network reachable
  have settled := settled_of_reachable usable network reachable
  obtain ⟨_, kept, _⟩ := network.settled_run_of_order sound settled order ordered cycles watchers
  obtain ⟨soundThen, builtThen⟩ := built_afterCycles order done { network with state := .running }
    sound (built_of_same network _ order (settled.built order ordered) rfl rfl rfl)
  rw [← came] at soundThen builtThen
  have topological := former.topological_of_built soundThen order builtThen
  have failed := (congrArg (fun network => (cycle order).run network) came).symm.trans
    (failing.run_cycle topological)
  obtain ⟨result, after⟩ := runCycles_of_failed order cycles done { network with state := .running }
    _ watchers _ bound completes goesOn failed
  rw [← network.run_of_order order ordered] at result after
  have before := aftermath_stepAll earlier former
  rw [failing.reached] at before
  constructor
  case result => exact result
  case later =>
    intro place listed
    rw [after]
    exact failing.spares_later topological place listed
  case earlier =>
    intro other next agrees succeeds place listed
    rw [after, failing.as_in_success topological soundThen builtThen.shaped other next agrees
      succeeds place listed]
    exact failing.keeps_earlier topological place listed
  case links =>
    rw [after]
    exact before.links
  case iteration =>
    rw [after]
    exact before.iteration
  case here =>
    have stays := before.elsewhere index (topological.once failing.split).2.1
    rw [after]
    exact List.getElem?_set_self (List.getElem?_eq_some_iff.mp (stays.trans failing.found)).1
  case attached =>
    have frame := middle.frame_fillInputs region
    rw [failing.fills] at frame
    exact (filled.frame_compute _ _).trans frame
  case state => rw [after]
  case order => exact kept
  case again =>
    intro ω _ more others
    have soundAfter : (network.run cycles watchers).network.wiring.Sound :=
      network.wiring_run cycles watchers ▸ sound
    obtain ⟨ending, ends⟩ :=
      exists_ending _ soundAfter (network.settled_run sound settled cycles watchers) more others
    refine ⟨ending, ?_, ends⟩
    rintro rfl
    cases kept.symm.trans ends.1

end Network

/-- A type of regions that write three numbers, and then fail from a cycle on. -/
def Script.tiring (since : UInt64) : Script where
  spec := ⟨"", [], [("in", { InputSpec.new .int32 with isDefault := true })],
    [("out", { OutputSpec.new .int32 with count := 3, isDefault := true })]⟩
  createError := none
  startFailures := 0
  stateful := false
  saveError := none
  tracks := []
  accepts := []
  counts := []
  minimal := false
  program := [.state "out", .fail since "tired"]

/-- The registry of a type that fails in the third cycle and of one that lasts much longer. -/
def Registry.tiring : Registry Scripted :=
  registerAll ∅ [("Tiring", (Script.tiring 2).type), ("Lasting", (Script.tiring 1000).type)]

namespace Network

/-- A region that tires between two that do not; what the last of the three writes comes back to
the first a cycle late. -/
def tiringCircle : Network Scripted :=
  let first := (new default).added Registry.tiring "first" "Lasting" ∅
  let second := first.added Registry.tiring "second" "Tiring" ∅
  let third := second.added Registry.tiring "third" "Lasting" ∅
  [LinkSpec.betweenDefaults "first" "second", LinkSpec.betweenDefaults "second" "third",
    { LinkSpec.betweenDefaults "third" "first" with delay := 1 }].foldl
    (fun network wish => ((addLink wish).run network).2) third

/-- The circle, built. -/
def builtCircle : Network Scripted := ((build (κ := Scripted)).run tiringCircle).2

/-- The circle after two cycles of a run. -/
def tiredCircle : Network Scripted :=
  afterCycles [0, 1, 2] 2 { builtCircle with state := .running }

/-- In the third cycle the region in the middle fails, and the failure stays there. -/
theorem contained_tiredCircle :
    tiredCircle.links.length = 3 ∧ tiredCircle.iteration = 2 ∧
      ∃ region filled, region.name = "second" ∧
        tiredCircle.Contained [0, 1, 2] [0] 1 [2] region filled
          (.implementation "second failed: tired") (builtCircle.run 5 ([] : List Empty)) := by
  have added : Reachable (fun _ => True) tiringCircle :=
    .step _ _ (.step _ _ (.step _ _ (.step _ _ (.step _ _ (.step _ _ (.new default)
      (.addRegion _ Registry.tiring "first" "Lasting" ∅ trivial))
      (.addRegion _ Registry.tiring "second" "Tiring" ∅ trivial))
      (.addRegion _ Registry.tiring "third" "Lasting" ∅ trivial))
      (.addLink _ (LinkSpec.betweenDefaults "first" "second")))
      (.addLink _ (LinkSpec.betweenDefaults "second" "third")))
      (.addLink _ { LinkSpec.betweenDefaults "third" "first" with delay := 1 })
  have reachable : Reachable (fun _ => True) builtCircle := .step _ _ added (.build _)
  have completes : Completes [0, 1, 2] 2 { builtCircle with state := .running } := by
    have both : ∀ done ∈ List.range 2, ((cycle [0, 1, 2]).run
        (afterCycles [0, 1, 2] done { builtCircle with state := .running })).1 = .ok () := by
      decide +kernel
    exact fun done bound => both done (List.mem_range.mpr bound)
  have turn : (tiredCircle.regions[1]?).map (fun region =>
      let filled := ((stepAll [0]).run tiredCircle).2.fillInputs region
      (region.name, filled.1,
        (Implementation.compute filled.2.state (filled.2.exchange tiredCircle.iteration)).result)) =
      some ("second", .ok (), .error (.implementation "second failed: tired")) := by
    decide +kernel
  obtain ⟨region, found, told⟩ := Option.map_eq_some_iff.mp turn
  obtain ⟨named, told⟩ := Prod.mk.inj told
  obtain ⟨fills, answers⟩ := Prod.mk.inj told
  let filled := (((stepAll [0]).run tiredCircle).2.fillInputs region).2
  have failing : tiredCircle.FailingTurn [0, 1, 2] [0] 1 [2] region
      ((stepAll [0]).run tiredCircle).2 filled (.implementation "second failed: tired") :=
    ⟨rfl, Prod.ext (by decide +kernel) rfl, found, Prod.ext fills rfl, answers⟩
  refine ⟨by decide +kernel, by decide +kernel, region, filled, named, ?_⟩
  exact contained_of_reachable (fun _ => True) builtCircle reachable [0, 1, 2] (by decide +kernel)
    5 2 [] (by decide) completes (fun _ _ ⟨_, impossible, _⟩ => nomatch impossible) tiredCircle rfl
    _ _ _ region filled _ _ failing

end Network

end RegionGraph
