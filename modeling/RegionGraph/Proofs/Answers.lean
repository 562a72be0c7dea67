import RegionGraph.Proofs.Admission
import RegionGraph.Proofs.Rearranged

/-!
# Lengths do not depend on the order of regions

The search for lengths asks implementations for the lengths of outputs before all lengths
of inputs are known, so the order of regions decides when they are asked. An implementation
that stands by its answers gives the same answer sooner or later. Then what is noted at
any time is what would be answered in the end, so the search ends in a solution of the
equations that the answers are; and what any order ever notes is noted in every solution.
So rearranged networks find the same lengths.
-/

namespace RegionGraph

variable {κ : Type} [Implementation κ]

/-- An implementation stands by its answers when more lengths of inputs become known. -/
def Implementation.Unwavering (state : κ) : Prop :=
  ∀ (output : String) (fewer more : NameMap Nat) (count : Nat), fewer.Extends more →
    Implementation.outputCount? state output fewer = some count →
    Implementation.outputCount? state output more = some count

/-- The built-in implementations stand by their answers. -/
theorem Builtin.unwavering (state : Builtin) : Implementation.Unwavering state := by
  intro output fewer more count extend told
  have follows (name : String)
      (told : (if output = name then fewer.get? "in" else none) = some count) :
      (if output = name then more.get? "in" else none) = some count := by
    by_cases asked : output = name
    · rw [if_pos asked] at told ⊢
      exact extend "in" count told
    · rw [if_neg asked] at told
      cases told
  cases state with
  | counterSource source => exact told
  | incrementer incrementer => exact follows "out" told
  | accumulator accumulator => exact follows "sum" told
  | scaler scaler => exact follows "out" told

/-- A region stands by the lengths of its outputs if its implementation does. -/
theorem Region.outputCount?_of_extends (region : Region κ)
    (unwavering : Implementation.Unwavering region.state) (output : String)
    (fewer more : NameMap Nat) (extend : fewer.Extends more) (count : Nat)
    (told : region.outputCount? output fewer = some count) :
    region.outputCount? output more = some count := by
  unfold outputCount? at told ⊢
  cases described : region.spec.output? output with
  | none =>
    rw [described] at told
    cases told
  | some declared =>
    rw [described] at told
    dsimp only at told ⊢
    split
    case isTrue fixed =>
      rw [if_pos fixed] at told
      exact told
    case isFalse open_ =>
      rw [if_neg open_] at told
      exact unwavering output fewer more count extend told

/-- Regions that are the same but for their places give the same answers. -/
theorem Region.outputCount?_of_bare (first second : Region κ) (same : first.bare = second.bare)
    (output : String) (widths : NameMap Nat) :
    first.outputCount? output widths = second.outputCount? output widths :=
  show first.bare.outputCount? output widths = second.bare.outputCount? output widths from
    congrArg (fun region => region.outputCount? output widths) same

namespace Network

/-- All implementations of a network stand by their answers. -/
def Unwavering (network : Network κ) : Prop :=
  ∀ region ∈ network.regions, Implementation.Unwavering region.state

section Covering

omit [Implementation κ]

/-- The length that is noted for an output, by the name of its region. -/
def noted? (network : Network κ) (counts : OutputCounts) (region output : String) : Option Nat :=
  (network.position? region).bind (fun index => told counts index output)

/-- Whatever lengths one network has noted, the other has noted too. -/
def Covers (first second : Network κ) (counts final : OutputCounts) : Prop :=
  ∀ region output count, first.noted? counts region output = some count →
    second.noted? final region output = some count

variable {first second : Network κ} {counts final : OutputCounts}

/-- Links bring what they brought when more lengths are noted. -/
theorem Covers.brought (covers : first.Covers second counts final) (links : List Link)
    (total : Nat) (known : first.brought counts links = some total) :
    second.brought final links = some total := by
  induction links generalizing total with
  | nil => exact known
  | cons link rest inductionHypothesis =>
    rw [Network.brought] at known ⊢
    cases found : first.sourceCount counts link with
    | none =>
      rw [found] at known
      cases known
    | some count =>
      rw [found] at known
      obtain ⟨others, brings, sum⟩ := Option.map_eq_some_iff.mp known
      have also : second.sourceCount final link = some count :=
        covers link.spec.source link.spec.output count found
      rw [also]
      exact Option.map_eq_some_iff.mpr ⟨others, inductionHypothesis others brings, sum⟩

/-- The known lengths of the inputs of a region stay known when more lengths are noted. -/
theorem Covers.widths (covers : first.Covers second counts final)
    (links : first.links = second.links) (region like : Region κ) (same : region.bare = like.bare) :
    (first.widths counts region).Extends (second.widths final like) := by
  intro name total known
  have names := Region.name_of_bare same
  have inputs : region.bare.inputs = like.bare.inputs := congrArg Region.inputs same
  change region.inputs = like.inputs at inputs
  have enters : first.entering region.name name = second.entering like.name name := by
    rw [entering, links, names]
    rfl
  rw [Network.widths, NameMap.get?_filterMap] at known ⊢
  obtain ⟨input, found, brings⟩ := Option.bind_eq_some_iff.mp known
  rw [← inputs, found, Option.bind_some, ← enters]
  exact covers.brought _ total brings

end Covering

omit [Implementation κ] in
/-- At the start no length is noted. -/
theorem told_start (network : Network κ) (index : Nat) (name : String) :
    told network.start index name = none := by
  rw [told, start, List.getElem?_map]
  cases network.regions[index]? <;> rfl

/-! ### Noted lengths are answers -/

/-- Every noted length is what the region would answer now. -/
def Stands (network : Network κ) (counts : OutputCounts) : Prop :=
  ∀ (index : Nat) (region : Region κ), network.regions[index]? = some region →
    ∀ name count, told counts index name = some count →
      region.outputCount? name (network.widths counts region) = some count

/-- Rounds that changed nothing visited no region that had anything to add. -/
theorem visited_of_fixed (network : Network κ) (order : List Nat) (counts : OutputCounts)
    (fixed : network.round order counts = counts) (index : Nat) (member : index ∈ order) :
    network.visited counts index = counts := by
  unfold round at fixed
  induction order with
  | nil => cases member
  | cons first rest inductionHypothesis =>
    have here := network.grows_visited counts first
    have later := network.grows_round rest (network.visited counts first)
    rw [round, show rest.foldl network.visited (network.visited counts first) = counts from fixed]
      at later
    have same : network.visited counts first = counts := here.decided.2 later.decided.1
    rcases List.mem_cons.mp member with rfl | further
    · exact same
    · rw [List.foldl_cons, same] at fixed
      exact inductionHypothesis fixed further

/-- Where rounds change nothing any more, an output has a noted length as soon as the region
answers, and it is the answer. -/
theorem told_of_fixed (network : Network κ) (order : List Nat) (counts : OutputCounts)
    (noted : network.Noted counts)
    (stands : network.Stands counts) (fixed : network.round order counts = counts) (index : Nat)
    (listed : index ∈ order) (region : Region κ) (found : network.regions[index]? = some region)
    (name : String) (named : name ∈ region.outputs.names) (count : Nat)
    (answer : region.outputCount? name (network.widths counts region) = some count) :
    told counts index name = some count := by
  have inside : index < counts.length := noted.length ▸ (List.getElem?_eq_some_iff.mp found).1
  have asked := network.told_visited counts index index name region found inside
  rw [network.visited_of_fixed order counts fixed index listed, if_pos rfl, if_pos named, answer]
    at asked
  cases known : told counts index name with
  | none =>
    rw [known] at asked
    cases asked
  | some other => exact (stands index region found name other known).symm.trans answer

/-- Lengths solve the equations of a network: the length that is noted for an output is what
its region answers for what its links bring, and nothing is noted while it does not answer. -/
structure Solves (network : Network κ) (counts : OutputCounts) : Prop where
  noted : network.Noted counts
  told : ∀ (index : Nat) (region : Region κ), network.regions[index]? = some region →
    ∀ name ∈ region.outputs.names,
      told counts index name = region.outputCount? name (network.widths counts region)

/-- Answers that no further round changes solve the equations. -/
theorem solves_of_fixed (network : Network κ) (order : List Nat) (counts : OutputCounts)
    (noted : network.Noted counts) (stands : network.Stands counts)
    (fixed : network.round order counts = counts)
    (all : ∀ index < network.regions.length, index ∈ order) : network.Solves counts := by
  refine ⟨noted, fun index region found name named => ?_⟩
  have listed := all index (List.getElem?_eq_some_iff.mp found).1
  cases known : told counts index name with
  | some count => exact (stands index region found name count known).symm
  | none =>
    cases answer : region.outputCount? name (network.widths counts region) with
    | none => rfl
    | some count =>
      exact known.symm.trans (network.told_of_fixed order counts noted stands fixed index listed
        region found name named count answer)

section Answers

variable (network : Network κ) (unwavering : network.Unwavering)

include unwavering

/-- Asking a region keeps noted lengths answers: more lengths of inputs are known, and the
answers are the same. -/
theorem stands_visited (counts : OutputCounts) (noted : network.Noted counts)
    (stands : network.Stands counts) (index : Nat) :
    network.Stands (network.visited counts index) := by
  have grows := network.grows_visited counts index
  have covers : network.Covers network counts (network.visited counts index) := by
    intro region output count found
    obtain ⟨position, located, known⟩ := Option.bind_eq_some_iff.mp found
    exact Option.bind_eq_some_iff.mpr ⟨position, located, grows.told position output count known⟩
  intro other region found name count known
  have member := List.mem_of_getElem? found
  have more := covers.widths rfl region region rfl
  have answer : region.outputCount? name (network.widths counts region) = some count := by
    rcases network.told_of_visited counts noted index other name count known with
      before | ⟨rfl, asked, here, _, answer⟩
    · exact stands other region found name count before
    · cases found.symm.trans here
      exact answer
  exact region.outputCount?_of_extends (unwavering region member) name _ _ more count answer

/-- Rounds keep noted lengths answers. -/
theorem stands_rounds (sound : network.wiring.Sound) (order : List Nat) (number : Nat) :
    network.Stands (network.rounds order number) := by
  refine (network.rounds_keep (fun counts => network.Noted counts ∧ network.Stands counts) ?_ order
    number network.start ⟨network.noted_start, ?_⟩).2
  · rintro counts index ⟨noted, stands⟩
    exact ⟨network.noted_visited sound counts index noted,
      network.stands_visited unwavering counts noted stands index⟩
  · intro index region found name count known
    rw [network.told_start] at known
    cases known

end Answers

/-- The lengths that outputs are given are what the regions answer when all of them are known:
what was noted on the way is still the answer where the search ended. -/
theorem Finds.stands {network : Network κ} {counts : OutputCounts} (finds : network.Finds counts)
    (unwavering : network.Unwavering) (sound : network.wiring.Sound) : network.Stands counts := by
  intro index region found name count known
  have here := network.position?_of_stands (network.indexed_of_sound sound) index region found
  obtain ⟨schedule, place, number, scheduled, located, knownThen⟩ :=
    (finds.told region.name name count).mpr ⟨index, here, known⟩
  cases here.symm.trans located
  have covers : network.Covers network (network.rounds schedule.order number) counts := by
    intro owner output length noting
    obtain ⟨position, stands, before⟩ := Option.bind_eq_some_iff.mp noting
    obtain ⟨other, also, told⟩ := (finds.told owner output length).mp
      ⟨schedule, position, number, scheduled, stands, before⟩
    cases stands.symm.trans also
    exact Option.bind_eq_some_iff.mpr ⟨position, stands, told⟩
  exact region.outputCount?_of_extends (unwavering region (List.mem_of_getElem? found)) name _ _
    (covers.widths rfl region region rfl) count
    (network.stands_rounds unwavering sound schedule.order number index region found name count
      knownThen)

/-! ### Other orders -/

section Orders

variable (first second : Network κ) (rearranged : first.Rearranged second)
  (soundFirst : first.wiring.Sound) (soundSecond : second.wiring.Sound)
  (unwavering : second.Unwavering)

include rearranged soundFirst soundSecond unwavering

section Solved

variable (final : OutputCounts) (solves : second.Solves final)

include solves

/-- What a visit adds in one network is noted in whatever solves the equations of the other:
there the region answers for at least as many lengths of inputs. -/
theorem covers_visited (counts : OutputCounts) (notedFirst : first.Noted counts)
    (covers : first.Covers second counts final) (index : Nat) :
    first.Covers second (first.visited counts index) final := by
  have indexedFirst := first.indexed_of_sound soundFirst
  have indexedSecond := second.indexed_of_sound soundSecond
  intro region output count found
  obtain ⟨place, located, known⟩ := Option.bind_eq_some_iff.mp found
  rcases first.told_of_visited counts notedFirst index place output count known with
    before | ⟨rfl, asked, here, named, answer⟩
  · exact covers region output count (Option.bind_eq_some_iff.mpr ⟨place, located, before⟩)
  · obtain ⟨owner, standing, rfl⟩ :=
      (first.position?_eq_some_iff indexedFirst region place).mp located
    cases here.symm.trans standing
    obtain ⟨like, member, same⟩ :=
      rearranged.like indexedFirst indexedSecond asked (List.mem_of_getElem? here)
    obtain ⟨position, there⟩ := List.mem_iff_getElem?.mp member
    have more := covers.widths rearranged.links asked like same.symm
    rw [asked.outputCount?_of_bare like same.symm] at answer
    have still := like.outputCount?_of_extends (unwavering like member) output _ _ more count answer
    have outputs : like.bare.outputs = asked.bare.outputs := congrArg Region.outputs same
    have namedToo : output ∈ like.bare.outputs.names := outputs ▸ named
    refine Option.bind_eq_some_iff.mpr ⟨position, ?_, ?_⟩
    · exact (second.position?_eq_some_iff indexedSecond asked.name position).mpr
        ⟨like, there, Region.name_of_bare same⟩
    · exact (solves.told position like there output namedToo).trans still

/-- What rounds note in one network is noted in whatever solves the equations of the other. -/
theorem covers_rounds (order : List Nat) (number : Nat) :
    first.Covers second (first.rounds order number) final := by
  refine (first.rounds_keep (fun counts => first.Noted counts ∧ first.Covers second counts final) ?_
    order number first.start ⟨first.noted_start, ?_⟩).2
  · rintro counts index ⟨notedFirst, covers⟩
    exact ⟨first.noted_visited soundFirst counts index notedFirst,
      covers_visited first second rearranged soundFirst soundSecond unwavering final solves counts
        notedFirst covers index⟩
  · intro region output count found
    obtain ⟨place, _, known⟩ := Option.bind_eq_some_iff.mp found
    rw [first.told_start] at known
    cases known

end Solved

/-- What an output is given in one network it is given in the other. -/
theorem resolves_of_rearranged (acyclic : second.Acyclic) (region output : String) (count : Nat)
    (resolves : first.Resolves region output count) : second.Resolves region output count := by
  obtain ⟨schedule, index, number, _, located, known⟩ := resolves
  rcases second.schedule_cases soundSecond with ⟨turns, scheduled, _⟩ | ⟨_, _, cyclic⟩
  case inr => exact absurd acyclic cyclic
  obtain ⟨final, _, noted, fixed, decided, _⟩ := second.outputCounts_eq soundSecond turns.order
  have stands := (second.finds_of_decided turns scheduled final noted decided).stands unwavering
    soundSecond
  have solves := second.solves_of_fixed turns.order final noted stands fixed (by
    intro place inside
    rwa [(second.schedule_perm turns scheduled).mem_iff, List.mem_range])
  have covers := covers_rounds first second rearranged soundFirst soundSecond unwavering final
    solves schedule.order number
  have found := covers region output count (Option.bind_eq_some_iff.mpr ⟨index, located, known⟩)
  obtain ⟨place, there, told⟩ := Option.bind_eq_some_iff.mp found
  obtain ⟨last, toldThen⟩ := (decided place output count).mp told
  exact ⟨turns, place, last, scheduled, there, toldThen⟩

end Orders

/-! ### What building asks of rearranged networks -/

section Demands

variable {first second : Network κ} (rearranged : first.Rearranged second)

include rearranged

/-- Implementations stand by their answers wherever their regions stand. -/
theorem Rearranged.unwavering (soundFirst : first.wiring.Sound) (soundSecond : second.wiring.Sound)
    (unwavering : first.Unwavering) : second.Unwavering := by
  intro like member
  obtain ⟨region, present, same⟩ := rearranged.symm.like (second.indexed_of_sound soundSecond)
    (first.indexed_of_sound soundFirst) like member
  obtain ⟨_, _, rfl⟩ := Region.exists_of_bare same
  exact unwavering region present

omit [Implementation κ] in
/-- Paths of direct links are a matter of links. -/
theorem Rearranged.acyclic (acyclic : first.Acyclic) : second.Acyclic := by
  have feeds : second.Feeds = first.Feeds := by
    funext source destination
    rw [Feeds, Feeds, rearranged.links]
  intro name path
  rw [feeds] at path
  exact acyclic name path

variable (soundFirst : first.wiring.Sound) (soundSecond : second.wiring.Sound)
  (unwavering : first.Unwavering)

include soundFirst soundSecond unwavering

/-- Rearranged networks give outputs the same lengths. -/
theorem Rearranged.resolves_iff (acyclic : first.Acyclic) (region output : String) (count : Nat) :
    second.Resolves region output count ↔ first.Resolves region output count := by
  have unwaveringToo := rearranged.unwavering soundFirst soundSecond unwavering
  constructor
  · exact resolves_of_rearranged second first rearranged.symm soundSecond soundFirst unwavering
      acyclic region output count
  · exact resolves_of_rearranged first second rearranged soundFirst soundSecond unwaveringToo
      (rearranged.acyclic acyclic) region output count

/-- A network that is rearranged from an admissible one is admissible. -/
theorem Rearranged.admissible (admissible : first.Admissible) : second.Admissible := by
  obtain ⟨acyclic, connected, resolvable, inRange, matching, keeping⟩ := admissible
  have resolves := rearranged.resolves_iff soundFirst soundSecond unwavering acyclic
  have fed (region input : String) : first.IsFed region input ↔ second.IsFed region input := by
    rw [IsFed, IsFed, rearranged.links]
  have read (region output : String) :
      first.IsRead region output ↔ second.IsRead region output := by
    rw [IsRead, IsRead, rearranged.links]
  have like := rearranged.symm.like (second.indexed_of_sound soundSecond)
    (first.indexed_of_sound soundFirst)
  refine ⟨rearranged.acyclic acyclic, ?_, ?_, ?_, ?_, ?_⟩
  · intro twin member name input found required
    obtain ⟨region, present, same⟩ := like twin member
    obtain ⟨_, _, rfl⟩ := Region.exists_of_bare same
    exact (fed region.name name).mp (connected region present name input found required)
  · intro twin member name output found
    obtain ⟨region, present, same⟩ := like twin member
    obtain ⟨_, _, rfl⟩ := Region.exists_of_bare same
    obtain ⟨count, resolved⟩ := resolvable region present name output found
    exact ⟨count, (resolves region.name name count).mpr resolved⟩
  · intro link member rule ruled count resolved
    exact inRange link (rearranged.links ▸ member) rule ruled count ((resolves _ _ _).mp resolved)
  · intro twin member name input declared found linked described positive
    obtain ⟨region, present, same⟩ := like twin member
    obtain ⟨_, _, rfl⟩ := Region.exists_of_bare same
    obtain ⟨count, resolved, sum⟩ := matching region present name input declared found
      ((fed region.name name).mpr linked) described positive
    rw [rearranged.entering] at resolved sum
    exact ⟨count, fun link enters => (resolves _ _ _).mpr (resolved link enters), sum⟩
  · intro twin member name output found storage linked
    obtain ⟨region, present, same⟩ := like twin member
    obtain ⟨_, _, rfl⟩ := Region.exists_of_bare same
    exact (resolves region.name name _).mpr
      (keeping region present name output found storage ((read region.name name).mpr linked))

end Demands

end Network

end RegionGraph
