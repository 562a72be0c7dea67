import RegionGraph.Proofs.Answers

/-!
# The lengths that are found are the least that fit

The lengths of outputs solve equations: an output is as long as it was declared, or else as
its implementation answers for what its links bring, and what they bring is known once the
lengths of all their sources are. Delayed links may close circles, so that an output may
depend on itself and the equations may have several solutions. The search finds the least:
no visit notes what is not in every solution, and where no visit notes anything more the
equations are solved. So the order in which regions are visited makes no difference, neither
to the lengths nor to the complaint about an output that the least solution leaves open.
-/

namespace RegionGraph

variable {κ : Type}

/-- What a region tells of the length of an output: the declared length, or where none is
declared what the implementation answers for the known lengths of inputs. -/
inductive Region.Tells [Implementation κ] (region : Region κ) (output : String)
    (widths : NameMap Nat) : Nat → Prop
  | declared (endpoint : OutputSpec) (described : region.spec.output? output = some endpoint)
      (fixed : 0 < endpoint.count) : Tells region output widths endpoint.count
  | answered (endpoint : OutputSpec) (count : Nat)
      (described : region.spec.output? output = some endpoint) (free : endpoint.count = 0)
      (answer : Implementation.outputCount? region.state output widths = some count) :
      Tells region output widths count

/-- What a region tells of an output is what it is asked for in a visit. -/
theorem Region.tells_iff [Implementation κ] (region : Region κ) (output : String)
    (widths : NameMap Nat) (count : Nat) :
    region.Tells output widths count ↔ region.outputCount? output widths = some count := by
  unfold outputCount?
  constructor
  · rintro (⟨endpoint, described, fixed⟩ | ⟨endpoint, _, described, free, answer⟩)
    · rw [described]
      exact if_pos fixed
    · rw [described]
      exact (if_neg (Nat.not_lt.mpr (Nat.le_of_eq free))).trans answer
  · intro told
    cases described : region.spec.output? output with
    | none =>
      rw [described] at told
      cases told
    | some endpoint =>
      rw [described] at told
      dsimp only at told
      split at told
      case isTrue fixed =>
        cases told
        exact .declared endpoint described fixed
      case isFalse open_ =>
        exact .answered endpoint count described (Nat.eq_zero_of_not_pos open_) told

namespace Network

/-- What the links of an input bring together by given lengths: nothing if it has none. The
widths are added as words of 64 bits. -/
def collected (network : Network κ) (counts : OutputCounts) (region input : String) : Nat :=
  ((network.entering region input).map
    (fun link => link.width ((network.sourceCount counts link).getD 0))).sum % 2 ^ 64

/-- By the lengths of a plan the links of an input bring their sum: memory can hold what is
planned, and what it holds is counted in a word. -/
theorem collected_of_plan [Implementation κ] (network : Network κ) (sound : network.wiring.Sound)
    (plan : Plan) (planned : network.plan = .ok plan) (region input : String) :
    network.collected plan.outputs region input = ((network.entering region input).map
      (fun link => link.width ((network.sourceCount plan.outputs link).getD 0))).sum :=
  Nat.mod_eq_of_lt ((network.fits_of_plan sound plan planned).bounded region input)

/-- The lengths of all inputs of a region by given lengths of outputs. -/
def collectedWidths (network : Network κ) (counts : OutputCounts) (region : Region κ) :
    NameMap Nat :=
  region.inputs.map (fun name _ => network.collected counts region.name name)

/-- Where no output is open all inputs have lengths. -/
theorem widths_of_closed (network : Network κ) (sound : network.wiring.Sound)
    (counts : OutputCounts) (closed : ∀ region output, ¬network.Open counts region output)
    (region : Region κ) : network.widths counts region = network.collectedWidths counts region := by
  have known (link : Link) (member : link ∈ network.links) :
      ∃ count, network.sourceCount counts link = some count := by
    obtain ⟨index, source, output, _, located, stands, found, _⟩ :=
      network.source_position sound link member
    have named := (source.outputs.mem_names_iff link.spec.output).mpr ⟨output, found⟩
    rw [sourceCount, located, Option.bind_some, ← told]
    refine Option.ne_none_iff_exists'.mp fun unknown => ?_
    exact closed source.name link.spec.output ⟨index, source, stands, rfl, named, unknown⟩
  apply NameMap.ext_get?
  intro name
  rw [widths, collectedWidths, NameMap.get?_filterMap, NameMap.get?_map]
  cases region.inputs.get? name with
  | none => rfl
  | some input =>
    exact network.brought_of_decided counts (network.entering region.name name)
      (fun link enters => known link (List.mem_of_mem_filter enters))

/-- Lengths that are noted for the same outputs are the same. -/
theorem eq_of_covers (network : Network κ) (indexed : network.Indexed) (first second : OutputCounts)
    (notedFirst : network.Noted first) (notedSecond : network.Noted second)
    (into : network.Covers network first second) (back : network.Covers network second first) :
    first = second := by
  apply List.ext_getElem (notedFirst.length.trans notedSecond.length.symm)
  intro index insideFirst insideSecond
  have inside : index < network.regions.length := notedFirst.length ▸ insideFirst
  have located := network.position?_of_stands indexed index _ (List.getElem?_eq_getElem inside)
  have across (one other : OutputCounts) (bound : index < one.length)
      (boundToo : index < other.length) (covers : network.Covers network one other) :
      one[index].Extends other[index] := by
    intro name count found
    have here : network.noted? one network.regions[index].name name = some count := by
      rw [noted?, located, Option.bind_some, told, List.getElem?_eq_getElem bound]
      exact found
    have there := covers _ _ _ here
    rw [noted?, located, Option.bind_some, told, List.getElem?_eq_getElem boundToo] at there
    exact there
  exact (across first second insideFirst insideSecond into).antisymm
    (across second first insideSecond insideFirst back)

variable [Implementation κ]

/-- A solution of the equations whose lengths are in every solution. -/
structure LeastSolution (network : Network κ) (counts : OutputCounts) : Prop where
  solves : network.Solves counts
  least : ∀ other, network.Solves other → network.Covers network counts other

/-- There is one least solution at most. -/
theorem LeastSolution.unique {network : Network κ} (indexed : network.Indexed)
    {first second : OutputCounts} (one : network.LeastSolution first)
    (other : network.LeastSolution second) : first = second :=
  network.eq_of_covers indexed first second one.solves.noted other.solves.noted
    (one.least second other.solves) (other.least first one.solves)

section Searching

variable (network : Network κ) (sound : network.wiring.Sound) (unwavering : network.Unwavering)
  (order : List Nat) (complete : order.Perm (List.range network.regions.length))

include sound unwavering complete

/-- A search ends in the least solution. -/
theorem leastSolution_of_searches (final : OutputCounts)
    (searches : network.Searches order network.start final) : network.LeastSolution final := by
  obtain ⟨number, rfl, fixed⟩ := searches.fixed sound
  have noted := network.rounds_keep network.Noted (network.noted_visited sound) order number
    network.start network.noted_start
  have stands := network.stands_rounds unwavering sound order number
  refine ⟨network.solves_of_fixed order _ noted stands fixed ?_, ?_⟩
  · intro index inside
    rwa [complete.mem_iff, List.mem_range]
  · intro other solves
    exact covers_rounds network network ⟨fun _ => rfl, rfl, rfl⟩ sound sound unwavering other solves
      order number

/-- A search ends in the least solution, wherever it is, and the outcome is read off it. -/
theorem searches_of_least (least : OutputCounts) (solution : network.LeastSolution least) :
    network.Searches order network.start least ∧
      network.outputCounts order =
        match network.undecided? least with
        | some (region, output) => .error (.unresolvedElementCount region output)
        | none => .ok least := by
  obtain ⟨final, searches, _, _, _, outcome⟩ := network.outputCounts_eq sound order
  have ends := network.leastSolution_of_searches sound unwavering order complete final searches
  cases ends.unique (network.indexed_of_sound sound) solution
  exact ⟨searches, outcome⟩

end Searching

/-- The outcome that the least solution decides: success exactly if it leaves no output
open, and then with its lengths, which are what the regions tell for all that their links
bring; else the complaint about an output that it leaves open. -/
structure Decides (network : Network κ) (least : OutputCounts)
    (outcome : Except GraphError OutputCounts) : Prop where
  succeeds : (∃ counts, outcome = .ok counts) ↔ ∀ region output, ¬network.Open least region output
  only : ∀ counts, outcome = .ok counts → counts = least
  given : ∀ counts, outcome = .ok counts →
    ∀ (index : Nat) (region : Region κ), network.regions[index]? = some region →
      ∀ name ∈ region.outputs.names, ∃ count, told counts index name = some count ∧
        region.Tells name (network.collectedWidths counts region) count
  fails : (∃ region output, outcome = .error (.unresolvedElementCount region output)) ↔
    ∃ region output, network.Open least region output
  complains : ∀ fault, outcome = .error fault →
    ∃ region output, fault = .unresolvedElementCount region output ∧
      network.Open least region output

/-- A solution that leaves an output open decides that there is a complaint about it. -/
theorem decides_of_open (network : Network κ) (least : OutputCounts) (region output : String)
    (left : network.Open least region output) :
    network.Decides least (.error (.unresolvedElementCount region output)) := by
  constructor
  case succeeds =>
    constructor
    · rintro ⟨_, succeeded⟩
      cases succeeded
    · intro closed
      exact absurd left (closed region output)
  case only => exact fun _ succeeded => nomatch succeeded
  case given => exact fun _ succeeded => nomatch succeeded
  case fails => exact ⟨fun _ => ⟨region, output, left⟩, fun _ => ⟨region, output, rfl⟩⟩
  case complains =>
    intro fault failed
    cases failed
    exact ⟨region, output, rfl, left⟩

/-- A solution that leaves no output open decides the lengths of all. -/
theorem decides_of_closed (network : Network κ) (sound : network.wiring.Sound)
    (least : OutputCounts) (solves : network.Solves least)
    (closed : ∀ region output, ¬network.Open least region output) :
    network.Decides least (.ok least) := by
  constructor
  case succeeds => exact ⟨fun _ => closed, fun _ => ⟨least, rfl⟩⟩
  case only =>
    intro counts succeeded
    cases succeeded
    rfl
  case given =>
    intro counts succeeded index region found name named
    cases succeeded
    have answer := solves.told index region found name named
    rw [network.widths_of_closed sound least closed region] at answer
    cases known : told least index name with
    | none => exact absurd ⟨index, region, found, rfl, named, known⟩ (closed region.name name)
    | some count =>
      exact ⟨count, rfl, (region.tells_iff name _ count).mpr (answer.symm.trans known)⟩
  case fails =>
    constructor
    · rintro ⟨_, _, failed⟩
      cases failed
    · rintro ⟨region, output, left⟩
      exact absurd left (closed region output)
  case complains => exact fun _ failed => nomatch failed

/-- What the search makes of a solution is decided by it. -/
theorem decides_of_solves (network : Network κ) (sound : network.wiring.Sound)
    (least : OutputCounts) (solves : network.Solves least) :
    network.Decides least
      (match network.undecided? least with
      | some (region, output) => .error (.unresolvedElementCount region output)
      | none => .ok least) := by
  cases undecided : network.undecided? least with
  | some pair =>
    exact network.decides_of_open least pair.1 pair.2
      (network.open_of_undecided? least pair.1 pair.2 undecided)
  | none =>
    exact network.decides_of_closed sound least solves
      ((network.undecided?_eq_none_iff least solves.noted).mp undecided)

/-- In every reachable network whose implementations stand by their answers the equations
for the lengths of outputs have a least solution; whatever the order in which the regions
are visited, the search ends, it ends there, and its outcome is the one that the least
solution decides. What links bring is added in words of 64 bits throughout.

That the search ends is a count: every round but the last decides an output. That it ends in
a solution is read off the last round, which changes nothing. That the solution is the least
is an induction over the visits: whatever a visit notes is noted in every solution, since
the lengths known at the visit are among those of the solution and an answer once given is
stood by. Least solutions are unique, so the order makes no difference. -/
theorem leastLengths_of_reachable (usable : Registry κ → Prop) (network : Network κ)
    (reachable : Reachable usable network) (unwavering : network.Unwavering) :
    ∃ least outcome, network.LeastSolution least ∧ network.Decides least outcome ∧
      ∀ order, order.Perm (List.range network.regions.length) →
        (∀ final, network.Searches order network.start final ↔ final = least) ∧
          network.outputCounts order = outcome := by
  have sound := sound_of_reachable usable network reachable
  obtain ⟨least, searches, _⟩ :=
    network.outputCounts_eq sound (List.range network.regions.length)
  have solution := network.leastSolution_of_searches sound unwavering _ (.refl _) least searches
  refine ⟨least, _, solution, network.decides_of_solves sound least solution.solves, ?_⟩
  intro order complete
  obtain ⟨ends, outcome⟩ := network.searches_of_least sound unwavering order complete least solution
  refine ⟨fun final => ⟨fun reached => ends.unique reached, ?_⟩, outcome⟩
  rintro rfl
  exact ends

/-- A chain whose regions were added against the flow of data, so that every round of visits
decides one output only. -/
def backwardChain : Network Builtin :=
  putTogether [⟨"last", "Incrementer", ∅⟩, ⟨"first", "Incrementer", ∅⟩,
    ⟨"source", "CounterSource", ∅⟩]
    [LinkSpec.betweenDefaults "source" "first", LinkSpec.betweenDefaults "first" "last"]

/-- The lengths of the chain are found in every order. -/
theorem leastLengths_backwardChain :
    backwardChain.regions.length = 3 ∧ backwardChain.Unwavering ∧
      ∃ least outcome, backwardChain.LeastSolution least ∧ backwardChain.Decides least outcome ∧
        ∀ order, order.Perm (List.range 3) →
          (∀ final, backwardChain.Searches order backwardChain.start final ↔ final = least) ∧
            backwardChain.outputCounts order = outcome := by
  have unwavering : backwardChain.Unwavering := fun region _ => region.state.unwavering
  exact ⟨by decide +kernel, unwavering, leastLengths_of_reachable (fun _ => True) backwardChain
    (reachable_putTogether _ trivial _ _) unwavering⟩

/-- Two rules that pick half of what a word counts bring nothing together, before it is seen
that their sources are shorter; an incrementer is as long as what it receives. -/
example : (putTogether [⟨"left", "CounterSource", ∅⟩, ⟨"right", "CounterSource", ∅⟩,
      ⟨"last", "Incrementer", ∅⟩]
    [{ LinkSpec.betweenDefaults "left" "last" with reindex := some (.range 0 (2 ^ 63)) },
      { LinkSpec.betweenDefaults "right" "last" with reindex := some (.range 0 (2 ^ 63)) }]
    ).outputCounts [0, 1, 2] >>= (fun counts => .ok (told counts 2 "out")) = .ok (some 0) := by
  decide +kernel

/-- An incrementer that hears itself a cycle late may be of any length, and is given none. -/
example : (putTogether [⟨"echo", "Incrementer", ∅⟩]
    [{ LinkSpec.betweenDefaults "echo" "echo" with delay := 1 }]).outputCounts [0] =
      .error (.unresolvedElementCount "echo" "out") := by
  decide +kernel

end Network

end RegionGraph
