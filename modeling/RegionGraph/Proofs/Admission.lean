import RegionGraph.Proofs.Checks
import RegionGraph.Proofs.Propagation

/-!
# Building is all or nothing

A network that is not built is admitted exactly if it meets six demands. One that fails
a demand is refused with the fault of the first that it fails, and is left as it was. One
that is admitted can be given all its lengths, whatever happened to it before, so that
only an implementation can still fail; then regions were sized and some were started, but
the graph, its order and its progress are those of before.
-/

namespace RegionGraph

variable {κ : Type}

namespace Region

/-- Regions that differ only in whether they were started: a start may have changed the
state, except where there was one before. -/
def StartedFrom (before after : Region κ) : Prop :=
  after = { before with state := after.state, initialized := after.initialized } ∧
    (before.initialized = true → after = before)

/-- Nothing was started. -/
theorem StartedFrom.refl (region : Region κ) : region.StartedFrom region :=
  ⟨rfl, fun _ => rfl⟩

/-- Starts follow starts. -/
theorem StartedFrom.trans {first second third : Region κ} (earlier : first.StartedFrom second)
    (later : second.StartedFrom third) : first.StartedFrom third := by
  refine ⟨?_, fun started => ?_⟩
  · rw [later.1, earlier.1]
  · have same := earlier.2 started
    rw [← same] at started
    exact (later.2 started).trans same

/-- A region that building got ready: its endpoints have lengths, it has a level, and it may
have been started. -/
def Readied (before after : Region κ) : Prop :=
  ∃ outputs inputs phase, (before.sized outputs inputs phase).StartedFrom after

variable [Implementation κ]

/-- Starting a region. -/
theorem startedFrom_start (region : Region κ) : region.StartedFrom region.start.1 := by
  unfold start
  split
  case isTrue started => exact StartedFrom.refl region
  case isFalse fresh =>
    have free : region.initialized = true → ∀ other, other = region :=
      fun started => absurd started fresh
    split <;> exact ⟨rfl, fun started => free started _⟩

end Region

namespace Network

section Demands

variable [Implementation κ]

/-- What building asks of a network. -/
structure Admissible (network : Network κ) : Prop where
  acyclic : network.Acyclic
  connected : network.Connected
  resolvable : network.Resolvable
  inRange : network.InRange
  matching : network.Matching
  keeping : network.Keeping

/-- The fault of the first demand that a network fails. -/
inductive Refuses (network : Network κ) : GraphError → Prop where
  | cyclic (members : List String) (fails : ¬network.Acyclic) :
      Refuses network (.cyclicGraph members)
  | unconnected (region input : String) (acyclic : network.Acyclic)
      (fails : ¬network.Connected) : Refuses network (.missingRequiredInput region input)
  | unresolved (region output : String) (acyclic : network.Acyclic)
      (connected : network.Connected) (fails : ¬network.Resolvable) :
      Refuses network (.unresolvedElementCount region output)
  | outOfRange (id : LinkId) (spec : LinkSpec) (cause : DataError) (acyclic : network.Acyclic)
      (connected : network.Connected) (resolvable : network.Resolvable)
      (fails : ¬network.InRange) : Refuses network (.reindexOutOfRange id spec cause)
  | mismatch (region input : String) (expected actual : Nat) (acyclic : network.Acyclic)
      (connected : network.Connected) (resolvable : network.Resolvable)
      (inRange : network.InRange) (fails : ¬network.Matching) :
      Refuses network (.elementCountMismatch region input expected actual)
  | resize (region output : String) (current requested : Nat) (acyclic : network.Acyclic)
      (connected : network.Connected) (resolvable : network.Resolvable)
      (inRange : network.InRange) (matching : network.Matching) (fails : ¬network.Keeping) :
      Refuses network (.bufferResize region output current requested)

/-- A network that is refused is not admissible. -/
theorem Refuses.not_admissible {network : Network κ} {fault : GraphError}
    (refuses : network.Refuses fault) : ¬network.Admissible := by
  intro admissible
  cases refuses with
  | cyclic members fails => exact fails admissible.acyclic
  | unconnected region input _ fails => exact fails admissible.connected
  | unresolved region output _ _ fails => exact fails admissible.resolvable
  | outOfRange id spec cause _ _ _ fails => exact fails admissible.inRange
  | mismatch region input expected actual _ _ _ _ fails => exact fails admissible.matching
  | resize region output current requested _ _ _ _ _ fails => exact fails admissible.keeping

/-- The checks pass if the demands are met, and otherwise tell the first that is not. -/
theorem checks_cases (network : Network κ) (sound : network.wiring.Sound) :
    (∃ plan, network.checks = .ok plan ∧ network.Admissible) ∨
      ∃ fault, network.checks = .error fault ∧ network.Refuses fault := by
  rw [checks]
  rcases network.schedule_cases sound with ⟨schedule, scheduled, acyclic⟩ | ⟨members, told, fails⟩
  case inr => exact Or.inr ⟨_, by rw [told, Traversal.error_bind], .cyclic members fails⟩
  rw [scheduled, Traversal.ok_bind]
  rcases network.checkRequired_cases sound with ⟨passed, connected⟩ | ⟨region, input, told, fails⟩
  case inr =>
    exact Or.inr ⟨_, by rw [told, Traversal.error_bind], .unconnected region input acyclic fails⟩
  rw [passed, Traversal.ok_bind]
  rcases network.outputCounts_cases sound schedule scheduled with
    ⟨counts, counted, finds, resolvable⟩ | ⟨region, output, told, fails⟩
  case inr =>
    exact Or.inr ⟨_, by rw [told, Traversal.error_bind],
      .unresolved region output acyclic connected fails⟩
  rw [counted, Traversal.ok_bind]
  rcases network.checkReindex_cases sound counts finds resolvable with
    ⟨passed, inRange⟩ | ⟨id, spec, cause, told, fails⟩
  case inr =>
    exact Or.inr ⟨_, by rw [told, Traversal.error_bind],
      .outOfRange id spec cause acyclic connected resolvable fails⟩
  rw [passed, Traversal.ok_bind]
  rcases network.inputCounts_cases sound counts finds resolvable with
    ⟨inputs, passed, matching⟩ | ⟨region, input, expected, actual, told, fails⟩
  case inr =>
    exact Or.inr ⟨_, by rw [told, Traversal.error_bind],
      .mismatch region input expected actual acyclic connected resolvable inRange fails⟩
  rw [passed, Traversal.ok_bind]
  rcases network.checkResizes_cases sound counts finds resolvable with
    ⟨passed, keeping⟩ | ⟨region, output, current, requested, told, fails⟩
  case inr =>
    exact Or.inr ⟨_, by rw [told, Traversal.error_bind],
      .resize region output current requested acyclic connected resolvable inRange matching fails⟩
  rw [passed, Traversal.ok_bind]
  exact Or.inl ⟨_, rfl, acyclic, connected, resolvable, inRange, matching, keeping⟩

/-- The checks pass exactly if the demands are met. -/
theorem checks_ok_iff (network : Network κ) (sound : network.wiring.Sound) :
    (∃ plan, network.checks = .ok plan) ↔ network.Admissible := by
  rcases network.checks_cases sound with ⟨plan, checked, admissible⟩ | ⟨fault, told, refuses⟩
  · exact ⟨fun _ => admissible, fun _ => ⟨plan, checked⟩⟩
  · constructor
    · rintro ⟨plan, checked⟩
      cases told.symm.trans checked
    · intro admissible
      exact absurd admissible refuses.not_admissible

/-- A network that has a plan meets the demands. -/
theorem admissible_of_plan (network : Network κ) (sound : network.wiring.Sound) (plan : Plan)
    (planned : network.plan = .ok plan) : network.Admissible :=
  (network.checks_ok_iff sound).mp ⟨plan, ((network.plan_ok plan).mp planned).1⟩

/-- Memory cannot hold the network: its outputs, as long as the checks found them to be, and
its rules take more bytes than there are addresses. -/
def Exceeds (network : Network κ) : Prop :=
  ∃ plan, network.checks = .ok plan ∧ 2 ^ 64 ≤ network.need plan.outputs

/-- There is a plan unless a check fails or memory cannot hold the network. -/
theorem plan_cases (network : Network κ) (sound : network.wiring.Sound) :
    (∃ plan, network.plan = .ok plan ∧ network.Admissible) ∨
      (∃ fault, network.plan = .error fault ∧ network.Refuses fault) ∨
      network.plan = .error .outOfMemory ∧ network.Admissible ∧ network.Exceeds := by
  rcases network.checks_cases sound with ⟨plan, checked, admissible⟩ | ⟨fault, told, refuses⟩
  · by_cases held : network.need plan.outputs < 2 ^ 64
    · exact Or.inl ⟨plan, (network.plan_ok plan).mpr ⟨checked, held⟩, admissible⟩
    · have ends : network.plan = .error .outOfMemory := by
        rw [Network.plan, checked, Traversal.ok_bind, checkMemory, if_neg held]
        rfl
      exact Or.inr (Or.inr ⟨ends, admissible, plan, checked, Nat.not_lt.mp held⟩)
  · exact Or.inr (Or.inl ⟨fault, by rw [Network.plan, told, Traversal.error_bind], refuses⟩)

/-- The checks note the lengths that outputs are given. -/
theorem finds_of_checks (network : Network κ) (sound : network.wiring.Sound) (plan : Plan)
    (checked : network.checks = .ok plan) : network.Finds plan.outputs := by
  obtain ⟨scheduled, _, counted, _⟩ := network.checks_ok plan checked
  rcases network.outputCounts_cases sound plan.schedule scheduled with
    ⟨counts, found, finds, _⟩ | ⟨_, _, failed, _⟩
  · cases counted.symm.trans found
    exact finds
  · cases counted.symm.trans failed

/-- A plan notes the lengths that outputs are given. -/
theorem finds_of_plan (network : Network κ) (sound : network.wiring.Sound) (plan : Plan)
    (planned : network.plan = .ok plan) : network.Finds plan.outputs :=
  network.finds_of_checks sound plan ((network.plan_ok plan).mp planned).1

end Demands

/-! ### What a start may fail with -/

/-- A network that building got ready, or began to: only lengths of buffers, levels of
regions, snapshots of their lengths and regions that were not started before are new. -/
structure ReadiedFrom (before after : Network κ) : Prop where
  settings : after.settings = before.settings
  index : after.index = before.index
  nextLinkId : after.nextLinkId = before.nextLinkId
  order : after.order = before.order
  phaseCount : after.phaseCount = before.phaseCount
  state : after.state = before.state
  iteration : after.iteration = before.iteration
  links : after.links.map (fun link => (link.id, link.spec)) =
    before.links.map (fun link => (link.id, link.spec))
  regions : List.Forall₂ Region.Readied before.regions after.regions

variable [Implementation κ]

/-- The fault is one of an implementation of the network that was not started before and
was to be started now. -/
def FailsToStart (network : Network κ) (fault : GraphError) : Prop :=
  ∃ region ∈ network.regions, region.initialized = false ∧
    (Implementation.start region.state).2 = .error fault

/-- What fails in starting a region is the start of its implementation. -/
theorem start_error (region : Region κ) (fault : GraphError)
    (failed : region.start.2 = .error fault) :
    region.initialized = false ∧ (Implementation.start region.state).2 = .error fault := by
  unfold Region.start at failed
  split at failed
  case isTrue started => cases failed
  case isFalse fresh =>
    refine ⟨by simpa using fresh, ?_⟩
    split at failed
    · cases failed
    · rename_i began
      rw [began]
      exact failed

/-- Starting regions one after the other changes nothing else, and fails only with a fault of
one of them. -/
theorem startAll_cases (order : List Nat) (network : Network κ) :
    ∃ outcome regions,
      (order.forM startAt).run network = (outcome, { network with regions }) ∧
      List.Forall₂ Region.StartedFrom network.regions regions ∧
      ∀ fault, outcome = .error fault → network.FailsToStart fault := by
  induction order generalizing network with
  | nil =>
    refine ⟨.ok (), network.regions, rfl, ?_, fun fault impossible => nomatch impossible⟩
    exact List.forall₂_same.mpr (fun region _ => Region.StartedFrom.refl region)
  | cons index rest inductionHypothesis =>
    rw [List.forM_eq_forM, List.forM_cons, Edit.run_bind, run_startAt]
    cases found : network.regions[index]? with
    | none => exact inductionHypothesis network
    | some region =>
      have first := Traversal.forall₂_set Region.StartedFrom Region.StartedFrom.refl network.regions
        index region region.start.1 found region.startedFrom_start
      dsimp only
      rcases began : region.start with ⟨started, result⟩
      rw [began] at first
      cases result with
      | error fault =>
        refine ⟨.error fault, _, rfl, first, ?_⟩
        rintro cause ⟨rfl⟩
        exact ⟨region, List.mem_of_getElem? found,
          start_error region fault (congrArg Prod.snd began)⟩
      | ok _ =>
        obtain ⟨outcome, regions, ran, later, faults⟩ := inductionHypothesis
          { network with regions := network.regions.set index started }
        refine ⟨outcome, regions, ran, ?_, fun fault failed => ?_⟩
        · refine Traversal.forall₂_trans Region.StartedFrom ?_ first later
          exact fun _ _ _ => Region.StartedFrom.trans
        · -- A region that fails later is none that was started before it.
          obtain ⟨other, present, fresh, fails⟩ := faults fault failed
          rcases List.mem_or_eq_of_mem_set present with former | rfl
          · exact ⟨other, former, fresh, fails⟩
          · have done := initialized_start region (congrArg Prod.snd began)
            rw [began] at done
            cases fresh.symm.trans done

omit [Implementation κ] in
/-- New lengths change every region in its place. -/
theorem regions_sized (network : Network κ) (plan : Plan) :
    List.Forall₂ (fun before after => ∃ index, sizedRegion plan before index = after)
      network.regions (network.sized plan).regions := by
  refine List.forall₂_iff_get.mpr ⟨(List.length_mapIdx ..).symm, ?_⟩
  intro index inside insideAfter
  simp only [sized, sizedRegions, List.get_eq_getElem, List.getElem_mapIdx]
  exact ⟨index, rfl⟩

/-- Building an admitted network comes to success, or to the fault of an implementation,
after which the network is the one of before but for what was got ready. -/
theorem rebuilt_cases (network : Network κ) (sound : network.wiring.Sound) (plan : Plan)
    (planned : network.plan = .ok plan) :
    (∃ after, network.rebuilt = (.ok (), after)) ∨
      ∃ fault after, network.rebuilt = (.error fault, after) ∧ network.FailsToStart fault ∧
        network.ReadiedFrom after := by
  have fits := network.fits_of_plan sound plan planned
  have shaped := network.shape_of_fits sound plan fits
  have placed := network.regions_sized plan
  obtain ⟨outcome, regions, ran, started, faults⟩ :=
    startAll_cases plan.schedule.order (network.sized plan)
  rw [rebuilt, planned]
  simp only [shaped, ran]
  cases outcome with
  | ok _ => exact Or.inl ⟨_, rfl⟩
  | error fault =>
    refine Or.inr ⟨fault, _, rfl, ?_, ?_⟩
    · obtain ⟨region, member, fresh, fails⟩ := faults fault rfl
      obtain ⟨former, present, index, rfl⟩ := Traversal.exists_of_forall₂ placed region member
      exact ⟨former, present, fresh, fails⟩
    · refine ⟨rfl, rfl, rfl, rfl, rfl, rfl, rfl, ?_, ?_⟩
      · exact congrArg Wiring.links (network.wiring_sized sound plan fits)
      · refine Traversal.forall₂_trans Region.Readied ?_ placed started
        rintro before _ after ⟨index, rfl⟩ begun
        exact ⟨_, _, _, begun⟩

/-- Building a reachable network that is not built is all or nothing. The checks pass
exactly if the network is admissible. If it is not, the fault is that of the first demand
that it fails, and nothing has changed. If it is, building succeeds or fails with the fault
of an implementation that was to be started, and then the network is that of before but for
what was got ready; only where memory cannot hold the network, there is nothing to succeed
with, and the program ends before any change.

The demands are met or not one after the other, in the order of the checks, each of which
decides its own. Past them the lengths are those that every buffer can be given, by the
recursion over regions and links that gives them; and the starts are an induction over the
execution order, in which every region that fails is one that was not started before. -/
theorem allOrNothing_of_reachable (usable : Registry κ → Prop) (network : Network κ)
    (reachable : Reachable usable network)
    (open_ : network.state = .unbuilt ∨ network.state = .stopped) :
    ((∃ plan, network.checks = .ok plan) ↔ network.Admissible) ∧
      (¬network.Admissible → ∃ fault, network.Refuses fault ∧
        (build (κ := κ)).run network = (.error fault, network)) ∧
      (network.Admissible →
        (∃ after, (build (κ := κ)).run network = (.ok (), after)) ∨
          (∃ fault after, (build (κ := κ)).run network = (.error fault, after) ∧
            network.FailsToStart fault ∧ network.ReadiedFrom after) ∨
          network.Exceeds ∧ (build (κ := κ)).run network = (.error .outOfMemory, network)) := by
  have sound := sound_of_reachable usable network reachable
  have works : (build (κ := κ)).run network = network.rebuilt := by
    rw [run_build]
    rcases open_ with unbuilt | stopped
    · rw [unbuilt]
    · rw [stopped]
  rw [works]
  refine ⟨network.checks_ok_iff sound, fun inadmissible => ?_, fun admissible => ?_⟩
  · rcases network.plan_cases sound with
      ⟨_, _, admissible⟩ | ⟨fault, told, refuses⟩ | ⟨_, admissible, _⟩
    · exact absurd admissible inadmissible
    · exact ⟨fault, refuses, by rw [rebuilt, told]⟩
    · exact absurd admissible inadmissible
  · rcases network.plan_cases sound with ⟨plan, planned, _⟩ | ⟨_, _, refuses⟩ | ⟨ends, _, exceeds⟩
    · rcases network.rebuilt_cases sound plan planned with done | failed
      · exact Or.inl done
      · exact Or.inr (Or.inl failed)
    · exact absurd admissible refuses.not_admissible
    · exact Or.inr (Or.inr ⟨exceeds, by rw [rebuilt, ends]⟩)

/-- A counting source that feeds an incrementer late is admissible: building it is not
refused. -/
theorem admissible_lateChain : lateChain.state = .unbuilt ∧ lateChain.Admissible := by
  have unbuilt : lateChain.state = .unbuilt := by decide
  have judged := allOrNothing_of_reachable (fun _ => True) lateChain
    (reachable_lateChain _ trivial) (Or.inl unbuilt)
  refine ⟨unbuilt, ?_⟩
  by_contra fails
  obtain ⟨fault, _, refused⟩ := judged.2.1 fails
  cases build_lateChain.symm.trans refused

end Network

end RegionGraph
