import RegionGraph.Proofs.Assembly
import RegionGraph.Proofs.Confluence
import RegionGraph.Proofs.Rebuilding

/-!
# Scheduling does not leak into results

Two networks of the same regions and links are built and run side by side. Regions were
added in different orders, so they have other levels and compute in another order, and
faults may come from other regions. But where one network succeeds the other does, and
they hold the same afterwards: contents, states and snapshots on their way. A further cycle
would end in the same in any two topological orders.
-/

namespace RegionGraph

variable {κ : Type}

/-- Outcomes that concur: both are failures, or both are successes whose values are related. -/
inductive Concur {α ε : Type} (related : α → α → Prop) : Except ε α → Except ε α → Prop where
  | ok (first second : α) (same : related first second) : Concur related (.ok first) (.ok second)
  | error (fault other : ε) : Concur related (.error fault) (.error other)

namespace Concur

variable {α ε : Type} {related : α → α → Prop} {first second : Except ε α}

/-- Outcomes concur if each is a success where the other is. -/
theorem of_ok {relatedBack : α → α → Prop}
    (forth : ∀ value, first = .ok value → ∃ other, second = .ok other ∧ related value other)
    (back : ∀ other, second = .ok other → ∃ value, first = .ok value ∧ relatedBack other value) :
    Concur related first second := by
  cases first with
  | ok value =>
    obtain ⟨other, rfl, same⟩ := forth value rfl
    exact .ok value other same
  | error fault =>
    cases second with
    | ok other =>
      obtain ⟨_, impossible, _⟩ := back other rfl
      cases impossible
    | error cause => exact .error fault cause

/-- Outcomes that concur in more concur in less. -/
theorem mono {weaker : α → α → Prop} (concur : Concur related first second)
    (implies : ∀ value other, related value other → weaker value other) :
    Concur weaker first second := by
  cases concur with
  | ok value other same => exact .ok value other (implies value other same)
  | error fault cause => exact .error fault cause

/-- Concurring outcomes go on to concur if related values do. -/
theorem bind {β : Type} {relatedLater : β → β → Prop} (concur : Concur related first second)
    (next : α → Except ε β)
    (goesOn : ∀ value other, related value other →
      Concur relatedLater (next value) (next other)) :
    Concur relatedLater (first >>= next) (second >>= next) := by
  cases concur with
  | ok value other same => exact goesOn value other same
  | error fault cause => exact .error fault cause

/-- Concurring outcomes are successes together. -/
theorem isOk_iff (concur : Concur related first second) :
    first.isOk ↔ second.isOk := by
  cases concur <;> rfl

end Concur

namespace Network

variable [Implementation κ]

/-- The network after it was built, if that succeeds. -/
def afterBuild (network : Network κ) : Except GraphError (Network κ) :=
  ((build (κ := κ)).run network).1.map (fun _ => ((build (κ := κ)).run network).2)

/-- The network after a run that nobody watches, if it succeeds. -/
def afterRun (network : Network κ) (cycles : Nat) : Except GraphError (Network κ) :=
  (network.run cycles ([] : List Empty)).result.map
    (fun _ => (network.run cycles ([] : List Empty)).network)

/-- The network after one run after the other, if all of them succeed. -/
def afterRuns (network : Network κ) (runs : List Nat) : Except GraphError (Network κ) :=
  runs.foldlM afterRun network

/-- The network after a cycle in a given order, if it succeeds. -/
def afterCycle (network : Network κ) (order : List Nat) : Except GraphError (Network κ) :=
  ((cycle order).run network).1.map (fun _ => ((cycle order).run network).2)

/-- Two networks side by side: each is wired soundly and settled, and they differ in the order
of their regions only. -/
structure Abreast (first second : Network κ) : Prop where
  rearranged : first.Rearranged second
  soundFirst : first.wiring.Sound
  soundSecond : second.wiring.Sound
  settledFirst : first.Settled
  settledSecond : second.Settled

/-- Two networks side by side that are still to be built. -/
structure Poised (first second : Network κ) : Prop extends Abreast first second where
  absentFirst : first.order = none
  absentSecond : second.order = none
  unwavering : first.Unwavering

/-- Two networks side by side that were built. -/
structure Prepared (first second : Network κ) : Prop extends Abreast first second where
  orderedFirst : ∃ order, first.order = some order
  orderedSecond : ∃ turns, second.order = some turns

variable {first second : Network κ}

omit [Implementation κ] in
/-- Being side by side goes both ways. -/
theorem Abreast.symm (abreast : first.Abreast second) : second.Abreast first :=
  ⟨abreast.rearranged.symm, abreast.soundSecond, abreast.soundFirst, abreast.settledSecond,
    abreast.settledFirst⟩

/-- Being poised goes both ways. -/
theorem Poised.symm (poised : first.Poised second) : second.Poised first :=
  ⟨poised.toAbreast.symm, poised.absentSecond, poised.absentFirst,
    poised.rearranged.unwavering poised.soundFirst poised.soundSecond poised.unwavering⟩

omit [Implementation κ] in
/-- Being prepared goes both ways. -/
theorem Prepared.symm (prepared : first.Prepared second) : second.Prepared first :=
  ⟨prepared.toAbreast.symm, prepared.orderedSecond, prepared.orderedFirst⟩

/-! ### Building -/

/-- Where building the first of two poised networks succeeds, so does building the second. -/
theorem rebuilt_of_poised (poised : first.Poised second) (after : Network κ)
    (built : first.rebuilt = (.ok (), after)) :
    ∃ next, second.rebuilt = (.ok (), next) ∧ after.Prepared next := by
  obtain ⟨next, builtToo, rearranged⟩ := rebuilt_of_rearranged first second after
    poised.rearranged poised.soundFirst poised.soundSecond poised.unwavering built
  obtain ⟨soundAfter, settledAfter, ordered⟩ :=
    first.rebuilt_of_unordered poised.soundFirst poised.settledFirst poised.absentFirst
  obtain ⟨soundNext, settledNext, orderedNext⟩ :=
    second.rebuilt_of_unordered poised.soundSecond poised.settledSecond poised.absentSecond
  rw [built] at soundAfter settledAfter ordered
  rw [builtToo] at soundNext settledNext orderedNext
  exact ⟨next, builtToo, ⟨rearranged, soundAfter, soundNext, settledAfter, settledNext⟩, ordered,
    orderedNext⟩

/-- Building two poised networks succeeds on both or on none. -/
theorem afterBuild_of_poised (poised : first.Poised second) :
    Concur Prepared first.afterBuild second.afterBuild := by
  have worked {first second : Network κ} (poised : first.Poised second) (after : Network κ)
      (succeeded : first.afterBuild = .ok after) :
      ∃ next, second.afterBuild = .ok next ∧ after.Prepared next := by
    unfold afterBuild at succeeded ⊢
    rw [first.build_of_unordered poised.settledFirst poised.absentFirst] at succeeded
    rw [second.build_of_unordered poised.settledSecond poised.absentSecond]
    obtain ⟨_, result, rfl⟩ := (Traversal.map_ok_iff _ _ _).mp succeeded
    obtain ⟨next, built, prepared⟩ := rebuilt_of_poised poised _ (Prod.ext result rfl)
    exact ⟨next, by rw [built]; rfl, prepared⟩
  -- What holds of a success on the first holds of one on the second, which is poised as well.
  exact Concur.of_ok (worked poised) (worked poised.symm)

/-! ### Running -/

/-- Where a run of the first of two prepared networks succeeds, so does one of the second. -/
theorem run_of_prepared (prepared : first.Prepared second) (cycles : Nat)
    (succeeded : (first.run cycles ([] : List Empty)).result = .ok ()) :
    (second.run cycles ([] : List Empty)).result = .ok () ∧
      (first.run cycles ([] : List Empty)).network.Prepared
        (second.run cycles ([] : List Empty)).network := by
  obtain ⟨order, ordered⟩ := prepared.orderedFirst
  obtain ⟨turns, orderedToo⟩ := prepared.orderedSecond
  obtain ⟨settledFirst, keptFirst, _⟩ := first.settled_run_of_order prepared.soundFirst
    prepared.settledFirst order ordered cycles ([] : List Empty)
  obtain ⟨settledSecond, keptSecond, _⟩ := second.settled_run_of_order prepared.soundSecond
    prepared.settledSecond turns orderedToo cycles ([] : List Empty)
  have soundFirst := first.wiring_run cycles ([] : List Empty) ▸ prepared.soundFirst
  have soundSecond := second.wiring_run cycles ([] : List Empty) ▸ prepared.soundSecond
  have running : Rearranged { first with state := .running } { second with state := .running } :=
    ⟨prepared.rearranged.regions, prepared.rearranged.links, prepared.rearranged.iteration⟩
  have ran := first.run_of_order order ordered cycles ([] : List Empty)
  have ranToo := second.run_of_order turns orderedToo cycles ([] : List Empty)
  obtain ⟨result, rearranged, _⟩ := runCycles_of_rearranged cycles _ _ running prepared.soundFirst
    prepared.soundSecond order turns
    (built_of_same first _ order (prepared.settledFirst.built order ordered) rfl rfl rfl)
    (built_of_same second _ turns (prepared.settledSecond.built turns orderedToo) rfl rfl rfl)
    (ran ▸ succeeded)
  rw [← ran, ← ranToo] at rearranged
  exact ⟨ranToo ▸ result, ⟨rearranged, soundFirst, soundSecond, settledFirst, settledSecond⟩,
    ⟨order, keptFirst⟩, ⟨turns, keptSecond⟩⟩

/-- A run of two prepared networks succeeds on both or on none. -/
theorem afterRun_of_prepared (cycles : Nat) (prepared : first.Prepared second) :
    Concur Prepared (first.afterRun cycles) (second.afterRun cycles) := by
  have worked {first second : Network κ} (prepared : first.Prepared second) (after : Network κ)
      (succeeded : first.afterRun cycles = .ok after) :
      ∃ next, second.afterRun cycles = .ok next ∧ after.Prepared next := by
    obtain ⟨_, result, rfl⟩ := (Traversal.map_ok_iff _ _ _).mp succeeded
    obtain ⟨resultToo, still⟩ := run_of_prepared prepared cycles result
    exact ⟨_, (Traversal.map_ok_iff _ _ _).mpr ⟨(), resultToo, rfl⟩, still⟩
  exact Concur.of_ok (worked prepared) (worked prepared.symm)

/-- Any runs of two prepared networks succeed on both or on none. -/
theorem afterRuns_of_prepared (runs : List Nat) (prepared : first.Prepared second) :
    Concur Prepared (first.afterRuns runs) (second.afterRuns runs) := by
  induction runs generalizing first second with
  | nil => exact .ok first second prepared
  | cons cycles rest inductionHypothesis =>
    unfold afterRuns at inductionHypothesis ⊢
    rw [List.foldlM_cons, List.foldlM_cons]
    exact (afterRun_of_prepared cycles prepared).bind _
      (fun _ _ still => inductionHypothesis still)

/-- A network that was not built is built on the way to its first run. -/
theorem afterRuns_of_unordered (network : Network κ) (sound : network.wiring.Sound)
    (settled : network.Settled) (absent : network.order = none) (cycles : Nat) (rest : List Nat) :
    network.afterRuns (cycles :: rest) =
      network.afterBuild >>= fun built => built.afterRuns (cycles :: rest) := by
  have run : network.afterRun cycles = network.afterBuild >>= fun built =>
      built.afterRun cycles := by
    unfold afterRun afterBuild
    rw [network.run_of_unordered sound settled absent cycles,
      network.build_of_unordered settled absent]
    rcases network.rebuilt with ⟨result, after⟩
    cases result <;> rfl
  unfold afterRuns
  rw [List.foldlM_cons, run]
  simp only [List.foldlM_cons, bind_assoc]

/-- One cycle of two prepared networks, in any two topological orders, succeeds on both or on
none. -/
theorem afterCycle_of_prepared (prepared : first.Prepared second) (order turns : List Nat)
    (orderFits : first.Topological order) (turnsFit : second.Topological turns) :
    Concur Rearranged (first.afterCycle order) (second.afterCycle turns) := by
  have worked {first second : Network κ} (prepared : first.Prepared second) (order turns : List Nat)
      (orderFits : first.Topological order) (turnsFit : second.Topological turns)
      (after : Network κ) (succeeded : first.afterCycle order = .ok after) :
      ∃ next, second.afterCycle turns = .ok next ∧ after.Rearranged next := by
    obtain ⟨former, ordered⟩ := prepared.orderedFirst
    obtain ⟨formerToo, orderedToo⟩ := prepared.orderedSecond
    obtain ⟨_, result, rfl⟩ := (Traversal.map_ok_iff _ _ _).mp succeeded
    obtain ⟨next, cycled, same⟩ := cycle_of_rearranged first second _ prepared.rearranged
      prepared.soundFirst prepared.soundSecond (prepared.settledFirst.built former ordered).shaped
      (prepared.settledSecond.built formerToo orderedToo).shaped order turns orderFits turnsFit
      (Prod.ext result rfl)
    exact ⟨next, by rw [afterCycle, cycled]; rfl, same⟩
  exact Concur.of_ok (worked prepared order turns orderFits turnsFit)
    (worked prepared.symm turns order turnsFit orderFits)

/-! ### Networks put together in any order -/

/-- Networks that hold the same, and would hold the same after a further cycle in any two
topological orders. -/
structure Interchangeable (first second : Network κ) : Prop where
  rearranged : first.Rearranged second
  cycles : ∀ order turns, first.Topological order → second.Topological turns →
    Concur Rearranged (first.afterCycle order) (second.afterCycle turns)

/-- Scheduling does not leak into results. Let two networks be put together of the same
declarations, in any two orders, and of the same links, where registries make the same
region of the same declaration and implementations stand by the lengths that they have
told. Then both are built or none is, and any runs that nobody watches succeed on both or on
none, whether the networks were built before or are built on the way. Wherever they succeed
every region of a name holds the same, as does every link, and any two topological orders
would give the same further cycle.

The networks are rearranged: regions of the same names hold the same, wherever they stand. Their
plans give the same lengths, since least solutions do not depend on the order in which regions
are visited. A cycle of the second network is an induction along its own order: when a region has
its turn, the sources of its direct links have had theirs, so it receives what its like received
in the first network. Runs are an induction over their cycles. -/
theorem interchangeable_of_assembled (usable : Registry κ → Prop)
    (deterministic : Registry.Deterministic usable) (declared others : List Declaration)
    (wishes : List LinkSpec) (assembled : Assembled usable declared wishes first)
    (assembledToo : Assembled usable others wishes second) (same : declared.Perm others)
    (unwavering : first.Unwavering) :
    (((build (κ := κ)).run first).1 = .ok () ↔ ((build (κ := κ)).run second).1 = .ok ()) ∧
      ∀ runs, Concur Rearranged (first.afterRuns runs) (second.afterRuns runs) ∧
        Concur Interchangeable (first.afterBuild >>= fun built => built.afterRuns runs)
          (second.afterBuild >>= fun built => built.afterRuns runs) := by
  have made := madeOf_of_assembled assembled
  have madeToo := madeOf_of_assembled assembledToo
  have rearranged := rearranged_of_assembled deterministic assembled assembledToo same
  have poised : first.Poised second := {
    rearranged
    soundFirst := made.sound
    soundSecond := madeToo.sound
    settledFirst := first.settled_of_unbuilt made.state made.order
    settledSecond := second.settled_of_unbuilt madeToo.state madeToo.order
    absentFirst := made.order
    absentSecond := madeToo.order
    unwavering }
  have initialized := afterBuild_of_poised poised
  constructor
  · have told (network : Network κ) :
        network.afterBuild.isOk ↔ ((build (κ := κ)).run network).1 = .ok () := by
      unfold afterBuild
      cases ((build (κ := κ)).run network).1 <;> simp [Except.map, Except.isOk, Except.toBool]
    rw [← told, ← told]
    exact initialized.isOk_iff
  · intro runs
    have ran : Concur Prepared (first.afterBuild >>= fun built => built.afterRuns runs)
        (second.afterBuild >>= fun built => built.afterRuns runs) :=
      initialized.bind _ (fun _ _ prepared => afterRuns_of_prepared runs prepared)
    refine ⟨?_, ran.mono (fun _ _ prepared =>
      ⟨prepared.rearranged, afterCycle_of_prepared prepared⟩)⟩
    cases runs with
    | nil => exact .ok first second rearranged
    | cons cycles rest =>
      rw [first.afterRuns_of_unordered made.sound poised.settledFirst made.order cycles rest,
        second.afterRuns_of_unordered madeToo.sound poised.settledSecond madeToo.order cycles rest]
      exact ran.mono (fun _ _ prepared => prepared.rearranged)

/-- A counting source, an incrementer that reads it at once and another that reads the first
two cycles late, declared from source to sink. -/
def chainDeclared : List Declaration :=
  [⟨"source", "CounterSource", ∅⟩, ⟨"middle", "Incrementer", ∅⟩, ⟨"sink", "Incrementer", ∅⟩]

/-- The links of the chain. -/
def chainWishes : List LinkSpec :=
  [.betweenDefaults "source" "middle",
    { LinkSpec.betweenDefaults "middle" "sink" with delay := 2 }]

/-- The chain is put together in its order and against it. -/
theorem assembled_chain (usable : Registry Builtin → Prop)
    (known : usable (Registry.registerAll ∅ Builtin.types)) :
    Assembled usable chainDeclared chainWishes (putTogether chainDeclared chainWishes) ∧
      Assembled usable chainDeclared.reverse chainWishes
        (putTogether chainDeclared.reverse chainWishes) := by
  have first : Assembled usable [] [] (Network.new default : Network Builtin) := .new default
  constructor
  · have source := Assembled.addRegion _ _ _ first ⟨"source", "CounterSource", ∅⟩ _ known
      (by decide +kernel)
    have middle := Assembled.addRegion _ _ _ source ⟨"middle", "Incrementer", ∅⟩ _ known
      (by decide +kernel)
    have sink := Assembled.addRegion _ _ _ middle ⟨"sink", "Incrementer", ∅⟩ _ known
      (by decide +kernel)
    have direct := Assembled.addLink _ _ _ sink (.betweenDefaults "source" "middle")
      (by decide +kernel)
    exact Assembled.addLink _ _ _ direct
      { LinkSpec.betweenDefaults "middle" "sink" with delay := 2 } (by decide +kernel)
  · have sink := Assembled.addRegion _ _ _ first ⟨"sink", "Incrementer", ∅⟩ _ known
      (by decide +kernel)
    have middle := Assembled.addRegion _ _ _ sink ⟨"middle", "Incrementer", ∅⟩ _ known
      (by decide +kernel)
    have source := Assembled.addRegion _ _ _ middle ⟨"source", "CounterSource", ∅⟩ _ known
      (by decide +kernel)
    have direct := Assembled.addLink _ _ _ source (.betweenDefaults "source" "middle")
      (by decide +kernel)
    exact Assembled.addLink _ _ _ direct
      { LinkSpec.betweenDefaults "middle" "sink" with delay := 2 } (by decide +kernel)

/-- The chain is built and runs in the same way in both orders. -/
theorem interchangeable_chain :
    chainDeclared.Perm chainDeclared.reverse ∧
      (putTogether chainDeclared chainWishes).Unwavering ∧
      ((build (κ := Builtin)).run (putTogether chainDeclared.reverse chainWishes)).1 = .ok () ∧
      ∀ runs, Concur Interchangeable
        ((putTogether chainDeclared chainWishes).afterBuild >>= fun built => built.afterRuns runs)
        ((putTogether chainDeclared.reverse chainWishes).afterBuild >>= fun built =>
          built.afterRuns runs) := by
  have same : chainDeclared.Perm chainDeclared.reverse := (List.reverse_perm chainDeclared).symm
  have unwavering : (putTogether chainDeclared chainWishes).Unwavering :=
    fun region _ => region.state.unwavering
  obtain ⟨forth, back⟩ :=
    assembled_chain (fun registry => registry.Offers (fun name => Builtin.types.lookup name))
      (Registry.offers_registerAll Builtin.types)
  obtain ⟨built, ran⟩ := interchangeable_of_assembled _ (Registry.deterministic_offers _)
    chainDeclared chainDeclared.reverse chainWishes forth back same unwavering
  have succeeded :
      ((build (κ := Builtin)).run (putTogether chainDeclared chainWishes)).1 = .ok () := by
    decide +kernel
  exact ⟨same, unwavering, built.mp succeeded, fun runs => (ran runs).2⟩

end Network

end RegionGraph
