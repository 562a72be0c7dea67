import Mathlib.Logic.Function.Iterate
import RegionGraph.Proofs.Counting

/-!
# The search for lengths goes as far as it can

The search for lengths visits the regions in rounds and stops after a round that decides
nothing, or after as many rounds as there are outputs and one more. Neither ends it too
early. A round only adds lengths, so one that decides nothing changes nothing, and neither
do any further rounds; and every round before it decides an output, so there are not more
of them than outputs: the search ends, and the bound never cuts it short. So it finds
exactly the lengths that any number of rounds would decide, and it complains exactly if
they leave an output open.
-/

namespace RegionGraph

variable {κ : Type}

namespace Network

/-- The length that is noted for an output of the region at a position. -/
def told (counts : OutputCounts) (index : Nat) (name : String) : Option Nat :=
  (counts[index]?.getD ∅).get? name

/-- The known lengths of the inputs of a region are what their links bring. -/
def widths (network : Network κ) (counts : OutputCounts) (region : Region κ) : NameMap Nat :=
  region.inputs.filterMap (fun name _ => network.brought counts (network.entering region.name name))

/-- Lengths are added, and none is changed. -/
structure Grows (former later : OutputCounts) : Prop where
  length : later.length = former.length
  extends_ : ∀ index : Nat, (former[index]?.getD ∅).Extends (later[index]?.getD ∅)

namespace Grows

variable {first second third : OutputCounts}

/-- Nothing may be added. -/
theorem refl (counts : OutputCounts) : Grows counts counts :=
  ⟨rfl, fun _ _ _ found => found⟩

/-- Lengths may be added twice. -/
theorem trans (earlier : Grows first second) (later : Grows second third) : Grows first third :=
  ⟨later.length.trans earlier.length,
    fun index name count found => later.extends_ index name count
      (earlier.extends_ index name count found)⟩

/-- What was told is told still. -/
theorem told (grows : Grows first second) (index : Nat) (name : String) (count : Nat)
    (found : Network.told first index name = some count) :
    Network.told second index name = some count :=
  grows.extends_ index name count found

/-- Growing decides more, or nothing changes. -/
theorem decided (grows : Grows first second) :
    Network.decided first ≤ Network.decided second ∧
      (Network.decided second ≤ Network.decided first → second = first) := by
  obtain ⟨length, extends_⟩ := grows
  induction first generalizing second with
  | nil =>
    rw [List.length_nil, List.length_eq_zero_iff] at length
    exact ⟨Nat.zero_le _, fun _ => length⟩
  | cons head rest inductionHypothesis =>
    cases second with
    | nil => cases length
    | cons other others =>
      have here : head.Extends other := extends_ 0
      have larger := here.size_le
      obtain ⟨more, same⟩ := inductionHypothesis (Nat.succ.inj length)
        (fun index => extends_ (index + 1))
      have sum (head : NameMap Nat) (rest : OutputCounts) :
          Network.decided (head :: rest) = head.size + Network.decided rest := rfl
      rw [sum, sum]
      refine ⟨by omega, fun small => ?_⟩
      rw [here.eq_of_size (by omega), same (by omega)]

end Grows

/-- The number of outputs of all regions. -/
def outputTotal (network : Network κ) : Nat :=
  (network.regions.map (fun region => region.outputs.size)).foldr (· + ·) 0

/-- Not more lengths are noted than there are outputs. -/
theorem decided_le (network : Network κ) (counts : OutputCounts) (noted : network.Noted counts) :
    decided counts ≤ network.outputTotal := by
  obtain ⟨length, bound⟩ := noted
  unfold outputTotal
  generalize network.regions = regions at length bound
  induction regions generalizing counts with
  | nil =>
    rw [List.length_nil, List.length_eq_zero_iff] at length
    rw [length]
    exact Nat.zero_le _
  | cons region others inductionHypothesis =>
    cases counts with
    | nil => cases length
    | cons known rest =>
      have here : known.size ≤ region.outputs.size :=
        known.size_le_of_names region.outputs (bound 0 region known rfl rfl)
      have later := inductionHypothesis rest (Nat.succ.inj length)
        (fun index => bound (index + 1))
      exact Nat.add_le_add here later

/-- An output of a region has no noted length. -/
def Open (network : Network κ) (counts : OutputCounts) (region output : String) : Prop :=
  ∃ (index : Nat) (owner : Region κ), network.regions[index]? = some owner ∧ owner.name = region ∧
    output ∈ owner.outputs.names ∧ told counts index output = none

/-- The output that the search complains about is open. -/
theorem open_of_undecided? (network : Network κ) (counts : OutputCounts) (region output : String)
    (found : network.undecided? counts = some (region, output)) :
    network.Open counts region output := by
  obtain ⟨⟨owner, known⟩, paired, first⟩ := List.exists_of_findSome?_eq_some found
  obtain ⟨name, missing, same⟩ := Option.map_eq_some_iff.mp first
  obtain ⟨rfl, rfl⟩ := Prod.mk.inj same
  obtain ⟨index, here⟩ := List.mem_iff_getElem?.mp paired
  obtain ⟨stands, noted⟩ := List.getElem?_zip_eq_some.mp here
  refine ⟨index, owner, stands, rfl, List.mem_of_find?_eq_some missing, ?_⟩
  have unknown := List.find?_some missing
  rw [told, noted, Option.getD_some]
  simpa [NameMap.contains] using unknown

/-- The search complains about nothing exactly if no output is open. -/
theorem undecided?_eq_none_iff (network : Network κ) (counts : OutputCounts)
    (noted : network.Noted counts) :
    network.undecided? counts = none ↔ ∀ region output, ¬network.Open counts region output := by
  constructor
  · rintro nothing _ output ⟨index, owner, stands, rfl, named, unknown⟩
    have inside : index < counts.length := noted.length ▸ (List.getElem?_eq_some_iff.mp stands).1
    have here := List.getElem?_eq_getElem inside
    have paired : (owner, counts[index]) ∈ network.regions.zip counts :=
      List.mem_of_getElem? (List.getElem?_zip_eq_some.mpr ⟨stands, here⟩)
    have passed := List.findSome?_eq_none_iff.mp nothing _ paired
    rw [Option.map_eq_none_iff, List.find?_eq_none] at passed
    rw [told, here, Option.getD_some] at unknown
    exact passed output named (by simp [NameMap.contains, unknown])
  · intro closed
    cases found : network.undecided? counts with
    | none => rfl
    | some pair =>
      exact absurd (network.open_of_undecided? counts pair.1 pair.2 found) (closed pair.1 pair.2)

variable [Implementation κ]

/-- The lengths after a region was visited. -/
def visited (network : Network κ) (counts : OutputCounts) (index : Nat) : OutputCounts :=
  match network.regions[index]? with
  | none => counts
  | some region => counts.set index
      (decideAll region (network.widths counts region) (counts[index]?.getD ∅))

/-- Exactly what is told after a region was asked: what was told before, and for an output
that was open what the region answers. -/
theorem get?_decideAll_eq (region : Region κ) (widths known : NameMap Nat) (name : String) :
    (decideAll region widths known).get? name = (known.get? name).or
      (if name ∈ region.outputs.names then region.outputCount? name widths else none) := by
  rw [decideAll, NameMap.get?_foldl_names]
  cases before : known.get? name with
  | some count => simp [NameMap.contains, before]
  | none => simp [NameMap.contains, before]

/-- A visit always succeeds. -/
theorem visit_ok (network : Network κ) (sound : network.wiring.Sound) (counts : OutputCounts)
    (index : Nat) : network.visit counts index = .ok (network.visited counts index) := by
  rw [network.visit_eq sound counts index, visited]
  cases network.regions[index]? with
  | none => rfl
  | some region =>
    dsimp only
    split
    case isFalse open_ => rfl
    case isTrue closed =>
      -- Nothing is open, so asking leaves the map, and putting it back leaves the list.
      have same : decideAll region (network.widths counts region) (counts[index]?.getD ∅) =
          counts[index]?.getD ∅ := by
        rw [decideAll, List.isEmpty_iff.mp closed]
        rfl
      rw [same]
      refine congrArg Except.ok ?_
      cases here : counts[index]? with
      | none => exact (List.set_eq_of_length_le (List.getElem?_eq_none_iff.mp here)).symm
      | some known =>
        obtain ⟨inside, there⟩ := List.getElem?_eq_some_iff.mp here
        rw [Option.getD_some, ← there, List.set_getElem_self]

/-- What is told after a visit. -/
theorem told_visited (network : Network κ) (counts : OutputCounts) (index other : Nat)
    (name : String) (region : Region κ) (found : network.regions[index]? = some region)
    (inside : index < counts.length) :
    told (network.visited counts index) other name =
      if other = index then (told counts index name).or
        (if name ∈ region.outputs.names then
          region.outputCount? name (network.widths counts region) else none)
      else told counts other name := by
  rw [visited, found, told]
  dsimp only
  rw [List.getElem?_set]
  by_cases here : index = other
  · subst here
    rw [if_pos rfl, if_pos rfl, if_pos inside, Option.getD_some, get?_decideAll_eq]
    rfl
  · rw [if_neg here, if_neg (Ne.symm here)]
    rfl

/-- What is told after a visit was told before, or the region answered it in the visit. -/
theorem told_of_visited (network : Network κ) (counts : OutputCounts)
    (noted : network.Noted counts) (index other : Nat) (name : String) (count : Nat)
    (known : told (network.visited counts index) other name = some count) :
    told counts other name = some count ∨
      other = index ∧ ∃ region, network.regions[index]? = some region ∧
        name ∈ region.outputs.names ∧
        region.outputCount? name (network.widths counts region) = some count := by
  cases found : network.regions[index]? with
  | none =>
    rw [visited, found] at known
    exact Or.inl known
  | some region =>
    have inside : index < counts.length := noted.length ▸ (List.getElem?_eq_some_iff.mp found).1
    rw [network.told_visited counts index other name region found inside] at known
    split at known
    case isFalse elsewhere => exact Or.inl known
    case isTrue here =>
      subst here
      rcases Option.or_eq_some_iff.mp known with before | ⟨_, asked⟩
      · exact Or.inl before
      · split at asked
        case isTrue named => exact Or.inr ⟨rfl, region, rfl, named, asked⟩
        case isFalse unnamed => cases asked

/-- Visits add lengths. -/
theorem grows_visited (network : Network κ) (counts : OutputCounts) (index : Nat) :
    Grows counts (network.visited counts index) := by
  rw [visited]
  cases network.regions[index]? with
  | none => exact Grows.refl counts
  | some region =>
    refine ⟨List.length_set, fun other name count found => ?_⟩
    dsimp only
    rw [List.getElem?_set]
    split
    case isFalse elsewhere => exact found
    case isTrue same =>
      subst same
      split
      case isTrue inside =>
        rw [Option.getD_some, get?_decideAll_eq, found]
        rfl
      case isFalse outside =>
        rw [List.getElem?_eq_none (Nat.le_of_not_lt outside)] at found
        cases found

/-- The lengths after every region was visited once. -/
def round (network : Network κ) (order : List Nat) (counts : OutputCounts) : OutputCounts :=
  order.foldl network.visited counts

/-- A round keeps what every visit keeps. -/
theorem round_keeps (network : Network κ) (motive : OutputCounts → Prop)
    (keeps : ∀ counts index, motive counts → motive (network.visited counts index))
    (order : List Nat) (counts : OutputCounts) (begins : motive counts) :
    motive (network.round order counts) := by
  unfold round
  induction order generalizing counts with
  | nil => exact begins
  | cons index rest inductionHypothesis =>
    exact inductionHypothesis _ (keeps counts index begins)

/-- Any number of rounds keeps what every visit keeps. -/
theorem rounds_keep (network : Network κ) (motive : OutputCounts → Prop)
    (keeps : ∀ counts index, motive counts → motive (network.visited counts index))
    (order : List Nat) (number : Nat) (counts : OutputCounts) (begins : motive counts) :
    motive ((network.round order)^[number] counts) := by
  induction number generalizing counts with
  | zero => exact begins
  | succ more inductionHypothesis =>
    exact inductionHypothesis _ (network.round_keeps motive keeps order counts begins)

/-- Rounds add lengths. -/
theorem grows_round (network : Network κ) (order : List Nat) (counts : OutputCounts) :
    Grows counts (network.round order counts) :=
  network.round_keeps (Grows counts)
    (fun former index grown => grown.trans (network.grows_visited former index)) order counts
    (Grows.refl counts)

/-- Any number of rounds adds lengths. -/
theorem grows_rounds (network : Network κ) (order : List Nat) (number : Nat)
    (counts : OutputCounts) : Grows counts ((network.round order)^[number] counts) :=
  network.rounds_keep (Grows counts)
    (fun former index grown => grown.trans (network.grows_visited former index)) order number counts
    (Grows.refl counts)

/-- A visit keeps to the outputs that exist. -/
theorem noted_visited (network : Network κ) (sound : network.wiring.Sound) (counts : OutputCounts)
    (index : Nat) (noted : network.Noted counts) : network.Noted (network.visited counts index) :=
  network.noted_visit sound counts _ index noted (network.visit_ok sound counts index)

/-- Visiting the regions of a round one after the other always succeeds. -/
theorem visits_ok (network : Network κ) (sound : network.wiring.Sound) (order : List Nat)
    (counts : OutputCounts) :
    order.foldlM network.visit counts = .ok (network.round order counts) :=
  Traversal.foldlM_ok _ _ order counts (fun former index _ => network.visit_ok sound former index)

/-- A search goes round after round, however many it takes, and ends with the first round
that decides nothing. -/
inductive Searches (network : Network κ) (order : List Nat) :
    OutputCounts → OutputCounts → Prop
  | ends (counts next : OutputCounts) (went : order.foldlM network.visit counts = .ok next)
      (still : decided next = decided counts) : Searches network order counts next
  | goesOn (counts next final : OutputCounts) (went : order.foldlM network.visit counts = .ok next)
      (moved : decided next ≠ decided counts) (later : Searches network order next final) :
      Searches network order counts final

/-- A search ends one way at most. -/
theorem Searches.unique {network : Network κ} {order : List Nat} {counts final other : OutputCounts}
    (searches : network.Searches order counts final)
    (also : network.Searches order counts other) : other = final := by
  induction searches with
  | ends counts next went still =>
    cases also with
    | ends _ _ wentToo _ =>
      cases went.symm.trans wentToo
      rfl
    | goesOn _ _ _ wentToo moved _ =>
      cases went.symm.trans wentToo
      exact absurd still moved
  | goesOn counts next final went moved _ inductionHypothesis =>
    cases also with
    | ends _ _ wentToo still =>
      cases went.symm.trans wentToo
      exact absurd still moved
    | goesOn _ _ _ wentToo _ later =>
      cases went.symm.trans wentToo
      exact inductionHypothesis later

/-- A search ends in lengths that some number of rounds decides and that a further round
does not change. -/
theorem Searches.fixed {network : Network κ} (sound : network.wiring.Sound) {order : List Nat}
    {counts final : OutputCounts} (searches : network.Searches order counts final) :
    ∃ number, final = (network.round order)^[number] counts ∧
      network.round order final = final := by
  induction searches with
  | ends counts next went still =>
    cases (network.visits_ok sound order counts).symm.trans went
    have same := (network.grows_round order counts).decided.2 (Nat.le_of_eq still)
    exact ⟨0, same, congrArg (network.round order) same⟩
  | goesOn counts next final went _ _ inductionHypothesis =>
    cases (network.visits_ok sound order counts).symm.trans went
    obtain ⟨number, reached, fixed⟩ := inductionHypothesis
    exact ⟨number + 1, reached, fixed⟩

/-- A search with rounds enough for all outputs is not cut short: it ends where the search
without a bound does. -/
theorem settle_ok (network : Network κ) (sound : network.wiring.Sound) (order : List Nat)
    (limit : Nat) (counts : OutputCounts) (noted : network.Noted counts)
    (enough : network.outputTotal < decided counts + limit) :
    ∃ final, network.settle order limit counts = .ok final ∧
      network.Searches order counts final := by
  induction limit generalizing counts with
  | zero => exact absurd enough (Nat.not_lt.mpr (network.decided_le counts noted))
  | succ more inductionHypothesis =>
    have went := network.visits_ok sound order counts
    rw [settle, went, Traversal.ok_bind]
    split
    case isTrue still => exact ⟨_, rfl, .ends counts _ went still⟩
    case isFalse moved =>
      have more_ := (network.grows_round order counts).decided.1
      obtain ⟨final, settled, searches⟩ := inductionHypothesis (network.round order counts)
        (network.round_keeps network.Noted (network.noted_visited sound) order counts noted)
        (by omega)
      exact ⟨final, settled, .goesOn counts _ final went moved searches⟩

/-- No lengths are known at the start. -/
def start (network : Network κ) : OutputCounts := network.regions.map (fun _ => ∅)

omit [Implementation κ] in
/-- At the start nothing is noted, and so nothing wrong. -/
theorem noted_start (network : Network κ) : network.Noted network.start := by
  refine ⟨List.length_map _, ?_⟩
  intro index region known _ found name count bound
  rw [start, List.getElem?_map, Option.map_eq_some_iff] at found
  obtain ⟨_, _, rfl⟩ := found
  cases bound

/-- The lengths that are decided after a number of rounds. -/
def rounds (network : Network κ) (order : List Nat) (number : Nat) : OutputCounts :=
  (network.round order)^[number] network.start

/-- Where a round changes nothing, no number of rounds does. -/
theorem rounds_le_of_fixed (network : Network κ) (order : List Nat) (number other : Nat)
    (fixed : network.round order (network.rounds order number) = network.rounds order number) :
    Grows (network.rounds order other) (network.rounds order number) := by
  rcases Nat.le_total other number with before | after
  · obtain ⟨more, rfl⟩ := Nat.exists_eq_add_of_le before
    rw [rounds, rounds, Nat.add_comm, Function.iterate_add_apply]
    exact network.grows_rounds order more _
  · obtain ⟨more, rfl⟩ := Nat.exists_eq_add_of_le after
    have same : network.rounds order (number + more) = network.rounds order number := by
      rw [rounds, Nat.add_comm, Function.iterate_add_apply]
      exact Function.iterate_fixed fixed more
    rw [same]
    exact Grows.refl _

/-- The search finds the lengths that some number of rounds decides, and then looks for an
output that is still open. -/
theorem outputCounts_eq (network : Network κ) (sound : network.wiring.Sound) (order : List Nat) :
    ∃ final, network.Searches order network.start final ∧ network.Noted final ∧
      network.round order final = final ∧
      (∀ index name count, told final index name = some count ↔
        ∃ number, told (network.rounds order number) index name = some count) ∧
      network.outputCounts order =
        match network.undecided? final with
        | some (region, output) => .error (.unresolvedElementCount region output)
        | none => .ok final := by
  obtain ⟨final, settled, searches⟩ := network.settle_ok sound order (network.outputTotal + 1)
    network.start network.noted_start (by omega)
  obtain ⟨number, rfl, fixed⟩ := searches.fixed sound
  refine ⟨network.rounds order number, searches, network.rounds_keep network.Noted
    (network.noted_visited sound) order number _ network.noted_start, fixed, ?_, ?_⟩
  · intro index name count
    constructor
    · intro found
      exact ⟨number, found⟩
    · rintro ⟨other, found⟩
      exact (network.rounds_le_of_fixed order number other fixed).told index name count found
  · refine (congrArg (· >>= _) settled).trans ?_
    rw [Traversal.ok_bind]
    change (match network.undecided? (network.rounds order number) with
      | some (region, output) => throw (GraphError.unresolvedElementCount region output)
      | none => return network.rounds order number) = _
    cases network.undecided? (network.rounds order number) <;> rfl

/-- A search that succeeds has noted a length for every output, and no others. -/
theorem outputCounts_ok (network : Network κ) (sound : network.wiring.Sound) (order : List Nat)
    (counts : OutputCounts) (found : network.outputCounts order = .ok counts) :
    network.Noted counts ∧ ∀ (index : Nat) (region : Region κ) (known : NameMap Nat),
      network.regions[index]? = some region → counts[index]? = some known →
      ∀ name output, region.outputs.get? name = some output →
        ∃ count, known.get? name = some count := by
  obtain ⟨final, _, noted, _, _, searched⟩ := network.outputCounts_eq sound order
  rw [searched] at found
  cases undecided : network.undecided? final with
  | some pair =>
    rw [undecided] at found
    cases found
  | none =>
    rw [undecided] at found
    cases found
    refine ⟨noted, ?_⟩
    intro index region known regionFound knownFound name output outputFound
    have closed := (network.undecided?_eq_none_iff counts noted).mp undecided region.name name
    have named := (region.outputs.mem_names_iff name).mpr ⟨output, outputFound⟩
    cases answer : known.get? name with
    | some count => exact ⟨count, rfl⟩
    | none =>
      refine absurd ⟨index, region, regionFound, rfl, named, ?_⟩ closed
      rw [told, knownFound]
      exact answer

end Network

end RegionGraph
