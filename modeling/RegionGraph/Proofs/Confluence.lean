import RegionGraph.Proofs.Dataflow
import RegionGraph.Proofs.Rearranged

/-!
# The order of regions does not show in results

After a cycle every region is what its computation makes of the contents that its links
show at the end of the cycle: sources of direct links keep what they had when the reader
had its turn, and delayed links do not show their sources. So the end of a cycle is told
by equations that know of no order, one for each region. In another order the same
equations hold region by region, because the sources of a region come before it there too.
-/

namespace RegionGraph

variable {κ ω : Type}

namespace Network

/-- A delayed link of a shaped network shows what is on its way, whatever its source holds. -/
theorem visible_of_delayed (network : Network κ) (shaped : network.Shaped) (link : Link)
    (member : link ∈ network.links) (delayed : link.isDelayed = true) (live other : Buffer) :
    link.visible live = link.visible other := by
  have full := (shaped.pending link member delayed).1
  have some : link.pending ≠ [] := by
    intro none
    rw [none] at full
    simp only [Link.isDelayed, bne_iff_ne] at delayed
    exact delayed full.symm
  obtain ⟨oldest, rest, held⟩ := List.exists_cons_of_ne_nil some
  simp only [Link.visible, delayed, if_true, held, List.headD_cons]

variable [Implementation κ]

/-- A region comes out of a cycle as its computation leaves it, if it sees what the links
show at the end of the cycle. -/
def Settles (network after : Network κ) (region next : Region κ) : Prop :=
  ∀ profiling, ((after.fed region).compute network.iteration profiling).2 = .ok () ∧
    next.bare = ((after.fed region).compute network.iteration profiling).1.bare

/-- In a cycle in which all regions computed every region settles. -/
theorem settles_of_computed (order : List Nat) (network after : Network κ)
    (sound : network.wiring.Sound) (shaped : network.Shaped)
    (topological : network.Topological order)
    (computed : (stepAll order).run network = (.ok (), after)) (index : Nat) (region : Region κ)
    (found : network.regions[index]? = some region) :
    ∃ next, after.regions[index]? = some next ∧ network.Settles after region next := by
  obtain ⟨middle, filled, turn, kept⟩ :=
    turn_of_computed order network after sound shaped topological computed index region found
  have live := live_of_turn order network after sound topological computed index region middle
    filled turn
  obtain ⟨earlier, later, _, _, _, reached⟩ := turn.reached
  have before := aftermath_stepAll earlier network
  have whole := aftermath_stepAll order network
  rw [reached] at before
  rw [computed] at whole
  have fills := middle.fillInputs_fed (before.wiring ▸ sound) (before.shaped shaped) region
    (List.mem_of_getElem? turn.found)
  cases turn.fills.symm.trans fills
  -- The region sees in its turn what it would see at the end of the cycle.
  have same : (after.fed region).bare = (middle.fed region).bare := by
    refine (fed_of_visible middle after (before.links.trans whole.links.symm) region region rfl
      ?_).symm
    intro link member reader
    cases kind : link.isDelayed with
    | true => exact middle.visible_of_delayed (before.shaped shaped) link member kind _ _
    | false => rw [live link (before.links ▸ member) kind reader.symm]
  refine ⟨_, kept, fun profiling => ?_⟩
  obtain ⟨regions, results⟩ := Region.compute_of_bare (after.fed region) (middle.fed region) same
    network.iteration profiling middle.settings.profiling
  have succeeds := turn.succeeds
  rw [← Region.compute_result _ _ middle.settings.profiling] at succeeds
  have iteration : middle.iteration = network.iteration := before.iteration
  rw [iteration] at succeeds ⊢
  exact ⟨results.trans succeeds, regions.symm⟩

/-- Two rearranged networks in a cycle: the first has completed it, the second has let some
regions compute. -/
structure Racing (first second after middle : Network κ) (earlier : List Nat) : Prop where
  reached : (stepAll earlier).run second = (.ok (), middle)
  /-- The regions that computed are as they are in the first network in the end. -/
  settled : ∀ index ∈ earlier, ∀ region, middle.regions[index]? = some region →
    (after.region region.name).map Region.bare = .ok region.bare

section Race

variable (first second after : Network κ) (rearranged : first.Rearranged second)
  (soundFirst : first.wiring.Sound) (soundSecond : second.wiring.Sound) (shapedFirst : first.Shaped)
  (shapedSecond : second.Shaped) (order turns : List Nat) (orderFits : first.Topological order)
  (turnsFit : second.Topological turns)
  (computed : (stepAll order).run first = (.ok (), after))

include rearranged soundFirst soundSecond shapedFirst shapedSecond orderFits turnsFit computed

omit soundFirst shapedFirst orderFits in
/-- When a region of the second network has its turn, it receives what its like receives at
the end of the first cycle. -/
theorem fed_of_racing (middle : Network κ) (earlier later : List Nat) (index : Nat)
    (split : turns = earlier ++ index :: later) (racing : first.Racing second after middle earlier)
    (region like : Region κ) (found : middle.regions[index]? = some region)
    (same : like.bare = region.bare) : (middle.fed region).bare = (after.fed like).bare := by
  have whole := aftermath_stepAll order first
  have kept := aftermath_stepAll earlier second
  rw [computed] at whole
  rw [racing.reached] at kept
  have sound : middle.wiring.Sound := kept.wiring ▸ soundSecond
  have fits := topological_of_wiring second middle turns kept.wiring turnsFit
  refine middle.fed_of_visible after
    (kept.links.trans (rearranged.links.symm.trans whole.links.symm)) region like same.symm ?_
  intro link member reader
  -- A delayed link does not show its source. The source of a direct link has computed in the
  -- second network too, so it holds what it holds at the end of the first cycle.
  cases kind : link.isDelayed with
  | true => exact middle.visible_of_delayed (kept.shaped shapedSecond) link member kind _ _
  | false =>
    obtain ⟨position, before, source, sourceFound, named⟩ := middle.direct_source_earlier sound
      turns fits link member kind earlier later index region split found reader.symm
    have final := racing.settled position before source sourceFound
    have known := (middle.region_ok_iff (middle.indexed_of_sound sound) link.spec.source
      source).mpr ⟨List.mem_of_getElem? sourceFound, named⟩
    rw [middle.live_of_region after link (by rw [known, ← named, final]; rfl)]

/-- The next region computes what it computed in the first network, because its sources do
not change any more. -/
theorem racing_advance (middle : Network κ) (earlier later : List Nat) (index : Nat)
    (split : turns = earlier ++ index :: later)
    (racing : first.Racing second after middle earlier) :
    ∃ next, first.Racing second after next (earlier ++ [index]) := by
  have whole := aftermath_stepAll order first
  have kept := aftermath_stepAll earlier second
  rw [computed] at whole
  rw [racing.reached] at kept
  have indexedAfter := after.indexed_of_sound (whole.wiring ▸ soundFirst)
  have sound : middle.wiring.Sound := kept.wiring ▸ soundSecond
  have inside : index < second.regions.length := by
    rw [← List.mem_range, ← turnsFit.perm.mem_iff, split]
    exact List.mem_append_right earlier List.mem_cons_self
  obtain ⟨region, there⟩ : ∃ region, second.regions[index]? = some region :=
    ⟨_, List.getElem?_eq_getElem inside⟩
  have here : middle.regions[index]? = some region :=
    (kept.elsewhere index (turnsFit.once split).2.1).trans there
  obtain ⟨like, likeMember, same⟩ := rearranged.symm.like (second.indexed_of_sound soundSecond)
    (first.indexed_of_sound soundFirst) region (List.mem_of_getElem? there)
  obtain ⟨place, placed⟩ := List.mem_iff_getElem?.mp likeMember
  obtain ⟨next, nextFound, settles⟩ :=
    settles_of_computed order first after soundFirst shapedFirst orderFits computed place like
      placed
  have shown := fed_of_racing first second after rearranged soundSecond shapedSecond order turns
    turnsFit computed middle earlier later index split racing region like here same
  obtain ⟨filled, fills, ran⟩ :=
    middle.step_of_shaped sound (kept.shaped shapedSecond) index region here
  cases fills.symm.trans (middle.fillInputs_fed sound (kept.shaped shapedSecond) region
    (List.mem_of_getElem? here))
  obtain ⟨outcomes, results⟩ := Region.compute_of_bare (middle.fed region) (after.fed like) shown
    middle.iteration middle.settings.profiling middle.settings.profiling
  obtain ⟨succeeds, comes⟩ := settles middle.settings.profiling
  have counted : first.iteration = middle.iteration :=
    rearranged.iteration.trans kept.iteration.symm
  rw [counted] at succeeds comes
  have ends : next.bare =
      ((middle.fed region).compute middle.iteration middle.settings.profiling).1.bare :=
    comes.trans outcomes.symm
  refine ⟨{ middle with
    regions := middle.regions.set index
      ((middle.fed region).compute middle.iteration middle.settings.profiling).1 }, ?_, ?_⟩
  · rw [run_stepAll_append, racing.reached]
    simp only [run_stepAll_cons, ran]
    rw [← Region.compute_result _ _ middle.settings.profiling, results, succeeds]
    rfl
  · intro other member owner found
    dsimp only at found
    by_cases latest : other = index
    · subst latest
      rw [List.getElem?_set_self (List.getElem?_eq_some_iff.mp here).1, Option.some.injEq] at found
      rw [← found, ← ends]
      rw [← Region.name_of_bare ends, (after.region_ok_iff indexedAfter next.name next).mpr
        ⟨List.mem_of_getElem? nextFound, rfl⟩]
      rfl
    · rw [List.getElem?_set_ne (Ne.symm latest)] at found
      rcases List.mem_append.mp member with before | now
      · exact racing.settled other before owner found
      · exact absurd (List.mem_singleton.mp now) latest

/-- Computing in another order does not fail where the first did not, and region by region
it ends in the same. -/
theorem racing_of_rearranged (earlier later : List Nat) (split : turns = earlier ++ later) :
    ∃ middle, first.Racing second after middle earlier := by
  induction earlier using List.reverseRecOn generalizing later with
  | nil => exact ⟨second, rfl, fun _ impossible => by cases impossible⟩
  | append_singleton earlier index inductionHypothesis =>
    rw [List.append_assoc, List.singleton_append] at split
    obtain ⟨middle, racing⟩ := inductionHypothesis (index :: later) split
    exact racing_advance first second after rearranged soundFirst soundSecond shapedFirst
      shapedSecond order turns orderFits turnsFit computed middle earlier later index split racing

/-- All computations of a cycle in another order. -/
theorem stepAll_of_rearranged :
    ∃ next, (stepAll turns).run second = (.ok (), next) ∧ after.Rearranged next := by
  obtain ⟨next, reached, settled⟩ := racing_of_rearranged first second after rearranged soundFirst
    soundSecond shapedFirst shapedSecond order turns orderFits turnsFit computed turns []
    (List.append_nil turns).symm
  have kept := aftermath_stepAll order first
  have keptNext := aftermath_stepAll turns second
  rw [computed] at kept
  rw [reached] at keptNext
  have indexed := after.indexed_of_sound (kept.wiring ▸ soundFirst)
  have indexedNext := next.indexed_of_sound (keptNext.wiring ▸ soundSecond)
  have back : ∀ like ∈ next.regions, ∃ region ∈ after.regions, region.bare = like.bare := by
    intro like member
    obtain ⟨index, found⟩ := List.mem_iff_getElem?.mp member
    have listed : index ∈ turns := by
      have inside := (List.getElem?_eq_some_iff.mp found).1
      have count := congrArg List.length (names_of_wiring next second keptNext.wiring)
      rw [List.length_map, List.length_map] at count
      rwa [turnsFit.perm.mem_iff, List.mem_range, ← count]
    have final := settled index listed like found
    obtain ⟨region, known, same⟩ := (Traversal.map_ok_iff _ _ _).mp final
    exact ⟨region, ((after.region_ok_iff indexed like.name region).mp known).1, same⟩
  refine ⟨next, reached, regions_of_likes Region.bare (fun _ _ => Region.name_of_bare) after next
    indexed indexedNext ?_ back, ?_, ?_⟩
  · intro region member
    have named : region.name ∈ first.regions.map Region.name :=
      names_of_wiring after first kept.wiring ▸ List.mem_map_of_mem member
    obtain ⟨former, formerMember, formerName⟩ := List.mem_map.mp named
    obtain ⟨twin, twinMember, twinSame⟩ := rearranged.like (first.indexed_of_sound soundFirst)
      (second.indexed_of_sound soundSecond) former formerMember
    have present : twin.name ∈ next.regions.map Region.name :=
      names_of_wiring next second keptNext.wiring ▸ List.mem_map_of_mem twinMember
    obtain ⟨like, likeMember, likeName⟩ := List.mem_map.mp present
    obtain ⟨other, otherMember, same⟩ := back like likeMember
    have again : other.name = region.name :=
      (Region.name_of_bare same).trans
        (likeName.trans ((Region.name_of_bare twinSame).trans formerName))
    cases after.region_unique indexed other region otherMember member again
    exact ⟨like, likeMember, same.symm⟩
  · exact kept.links.trans (rearranged.links.trans keptNext.links.symm)
  · exact kept.iteration.trans (rearranged.iteration.trans keptNext.iteration.symm)

end Race

/-! ### Cycles and runs -/

/-- A cycle in another topological order succeeds where the first did, and ends in the same. -/
theorem cycle_of_rearranged (first second after : Network κ) (rearranged : first.Rearranged second)
    (soundFirst : first.wiring.Sound) (soundSecond : second.wiring.Sound)
    (shapedFirst : first.Shaped) (shapedSecond : second.Shaped) (order turns : List Nat)
    (orderFits : first.Topological order) (turnsFit : second.Topological turns)
    (cycled : (cycle order).run first = (.ok (), after)) :
    ∃ next, (cycle turns).run second = (.ok (), next) ∧ after.Rearranged next := by
  rcases computed : (stepAll order).run first with ⟨outcome, final⟩
  cases outcome with
  | error fault =>
    rw [run_cycle, computed] at cycled
    cases cycled
  | ok _ =>
    rw [cycle_of_computed order first final soundFirst computed] at cycled
    cases cycled
    obtain ⟨next, reached, same⟩ := stepAll_of_rearranged first second final rearranged soundFirst
      soundSecond shapedFirst shapedSecond order turns orderFits turnsFit computed
    exact ⟨next.moved, cycle_of_computed turns second next soundSecond reached, same.moved⟩

/-- A run in another order succeeds where the first did, and ends in the same. -/
theorem runCycles_of_rearranged [Watcher κ ω] (cycles : Nat) (first second : Network κ)
    (rearranged : first.Rearranged second) (soundFirst : first.wiring.Sound)
    (soundSecond : second.wiring.Sound) (order turns : List Nat) (builtFirst : first.Built order)
    (builtSecond : second.Built turns)
    (succeeded : (runCycles order cycles first ([] : List ω)).result = .ok ()) :
    (runCycles turns cycles second ([] : List ω)).result = .ok () ∧
      (runCycles order cycles first ([] : List ω)).network.Rearranged
        (runCycles turns cycles second ([] : List ω)).network ∧
      (runCycles order cycles first ([] : List ω)).network.state = .initialized ∧
      (runCycles turns cycles second ([] : List ω)).network.state = .initialized := by
  induction cycles generalizing first second with
  | zero =>
    exact ⟨rfl, ⟨rearranged.regions, rearranged.links, rearranged.iteration⟩, rfl, rfl⟩
  | succ more inductionHypothesis =>
    have builtAfter := (cycle_of_built order first soundFirst builtFirst).1
    have builtNext := (cycle_of_built turns second soundSecond builtSecond).1
    have wiringAfter := wiring_cycle order first
    have wiringNext := wiring_cycle turns second
    unfold runCycles at succeeded ⊢
    rcases cycled : (cycle order).run first with ⟨outcome, after⟩
    rw [cycled] at succeeded builtAfter wiringAfter
    cases outcome with
    | error fault => cases succeeded
    | ok _ =>
      obtain ⟨next, reached, same⟩ := cycle_of_rearranged first second after rearranged soundFirst
        soundSecond builtFirst.shaped builtSecond.shaped order turns
        (first.topological_of_built soundFirst order builtFirst)
        (second.topological_of_built soundSecond turns builtSecond) cycled
      rw [reached] at builtNext wiringNext ⊢
      exact inductionHypothesis after next same (wiringAfter ▸ soundFirst)
        (wiringNext ▸ soundSecond) builtAfter builtNext succeeded

end Network

end RegionGraph
