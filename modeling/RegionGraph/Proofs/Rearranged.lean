import RegionGraph.Proofs.Turns
import RegionGraph.Proofs.Twins

/-!
# Networks that differ in the order of their regions

Regions that were added in another order stand at other positions, have other levels and
compute in another order. Networks are rearranged from each other if they agree in all
else: every name stands for the same region, and the links and the count of cycles are
the same. Links then start from the same contents, and regions receive the same.
-/

namespace RegionGraph

variable {κ : Type}

namespace Region

/-- A region without what depends on where it stands, and without what is counted for
profiling. -/
def bare (region : Region κ) : Region κ := { region with phase := none, computes := 0 }

/-- Regions that are the same but for their places differ in levels and counts only. -/
theorem exists_of_bare {first second : Region κ} (same : first.bare = second.bare) :
    ∃ phase computes, second = { first with phase, computes } := by
  obtain ⟨_, _, _, _, _, _, _, _, _, _⟩ := first
  obtain ⟨_, _, _, _, _, _, _, _, phase, computes⟩ := second
  cases same
  exact ⟨phase, computes, rfl⟩

/-- Regions that are the same but for their places have the same name. -/
theorem name_of_bare {first second : Region κ} (same : first.bare = second.bare) :
    first.name = second.name :=
  show first.bare.name = second.bare.name from congrArg Region.name same

variable [Implementation κ]

/-- Regions that are the same but for their places compute the same. -/
theorem compute_of_bare (first second : Region κ) (same : first.bare = second.bare)
    (iteration : UInt64) (profiling other : Bool) :
    (first.compute iteration profiling).1.bare = (second.compute iteration other).1.bare ∧
      (first.compute iteration profiling).2 = (second.compute iteration other).2 := by
  have kept (region : Region κ) (mark : Bool) :
      (region.compute iteration mark).1.bare =
        { region.bare.absorb
            (Implementation.compute region.bare.state (region.bare.exchange iteration)).exchange with
          state := (Implementation.compute region.bare.state
            (region.bare.exchange iteration)).state } ∧
      (region.compute iteration mark).2 =
        (Implementation.compute region.bare.state (region.bare.exchange iteration)).result := by
    refine ⟨?_, region.compute_result iteration mark⟩
    unfold compute
    dsimp only
    split
    · split <;> rfl
    · rfl
  obtain ⟨regions, results⟩ := kept first profiling
  obtain ⟨regionsToo, resultsToo⟩ := kept second other
  rw [regions, regionsToo, results, resultsToo, same]
  exact ⟨rfl, rfl⟩

/-- Regions that are the same but for their places start the same. -/
theorem start_of_bare (first second : Region κ) (same : first.bare = second.bare) :
    first.start.1.bare = second.start.1.bare ∧ first.start.2 = second.start.2 := by
  obtain ⟨name, type, spec, params, outputs, inputs, state, initialized, _, _⟩ := first
  obtain ⟨_, _, _, _, _, _, _, _, _, _⟩ := second
  cases same
  cases initialized with
  | true => exact ⟨rfl, rfl⟩
  | false =>
    rcases begun : Implementation.start state with ⟨next, outcome⟩
    cases outcome <;> simp [start, begun, bare]

end Region

namespace Network

/-- Networks that agree in all but the order of their regions. -/
structure Rearranged (first second : Network κ) : Prop where
  regions : ∀ name, (first.region name).map Region.bare = (second.region name).map Region.bare
  links : first.links = second.links
  iteration : first.iteration = second.iteration

/-- Where every region has its like in the other network, as far as is told of regions and
names are told, every name stands for the same. -/
theorem regions_of_likes {τ : Type} (tell : Region κ → τ)
    (names : ∀ region like, tell region = tell like → region.name = like.name)
    (first second : Network κ) (indexedFirst : first.Indexed) (indexedSecond : second.Indexed)
    (into : ∀ region ∈ first.regions, ∃ like ∈ second.regions, tell like = tell region)
    (back : ∀ like ∈ second.regions, ∃ region ∈ first.regions, tell region = tell like)
    (name : String) : (first.region name).map tell = (second.region name).map tell := by
  have across (one other : Network κ) (indexedOne : one.Indexed) (indexedOther : other.Indexed)
      (into : ∀ region ∈ one.regions, ∃ like ∈ other.regions, tell like = tell region)
      (region : Region κ) (found : one.region name = .ok region) :
      ∃ like, other.region name = .ok like ∧ tell like = tell region := by
    obtain ⟨member, named⟩ := (one.region_ok_iff indexedOne name region).mp found
    obtain ⟨like, present, same⟩ := into region member
    exact ⟨like, (other.region_ok_iff indexedOther name like).mpr
      ⟨present, (names like region same).trans named⟩, same⟩
  cases here : first.region name with
  | ok region =>
    obtain ⟨like, there, same⟩ := across first second indexedFirst indexedSecond into region here
    rw [there]
    exact congrArg Except.ok same.symm
  | error fault =>
    cases there : second.region name with
    | ok like =>
      obtain ⟨region, found, _⟩ := across second first indexedSecond indexedFirst back like there
      cases here.symm.trans found
    | error other =>
      rw [first.region_error name fault here, second.region_error name other there]

/-- A link starts from the same contents if the name of its source stands for the same. -/
theorem live_of_region (first second : Network κ) (link : Link)
    (same : (first.region link.spec.source).map Region.bare =
      (second.region link.spec.source).map Region.bare) : first.live link = second.live link := by
  unfold live sourceBuffer
  rcases Traversal.cases_of_map_eq Region.bare _ _ same with
    ⟨fault, here, there⟩ | ⟨source, like, here, there, bare⟩
  · rw [here, there]
  · obtain ⟨_, _, rfl⟩ := Region.exists_of_bare bare
    rw [here, there]
    rfl

namespace Rearranged

variable {first second : Network κ}

/-- Rearranging goes both ways. -/
theorem symm (rearranged : first.Rearranged second) : second.Rearranged first :=
  ⟨fun name => (rearranged.regions name).symm, rearranged.links.symm, rearranged.iteration.symm⟩

/-- Every region has its like in the other network. -/
theorem like (rearranged : first.Rearranged second) (indexedFirst : first.Indexed)
    (indexedSecond : second.Indexed) (region : Region κ) (member : region ∈ first.regions) :
    ∃ like ∈ second.regions, like.bare = region.bare := by
  have found := (first.region_ok_iff indexedFirst region.name region).mpr ⟨member, rfl⟩
  rcases Traversal.cases_of_map_eq Region.bare _ _ (rearranged.regions region.name) with
    ⟨fault, here, _⟩ | ⟨source, like, here, there, same⟩
  · cases found.symm.trans here
  · cases found.symm.trans here
    exact ⟨like, ((second.region_ok_iff indexedSecond region.name like).mp there).1, same.symm⟩

/-- Links start from the same contents. -/
theorem live (rearranged : first.Rearranged second) (link : Link) :
    first.live link = second.live link :=
  live_of_region first second link (rearranged.regions link.spec.source)

/-- The same links enter an input. -/
theorem entering (rearranged : first.Rearranged second) (region input : String) :
    first.entering region input = second.entering region input := by
  rw [Network.entering, rearranged.links]
  rfl

/-- The ends of cycles keep networks rearranged. -/
theorem moved (rearranged : first.Rearranged second) : first.moved.Rearranged second.moved where
  regions := rearranged.regions
  links := by
    rw [Network.moved, Network.moved, rearranged.links]
    exact List.map_congr_left (fun link _ => congrArg link.shift (rearranged.live link))
  iteration := congrArg (· + 1) rearranged.iteration

end Rearranged

/-- Regions that are the same but for their places receive the same of networks whose links
show the same at their inputs. -/
theorem fed_of_visible (first second : Network κ) (links : first.links = second.links)
    (region like : Region κ) (same : region.bare = like.bare)
    (shown : ∀ link ∈ first.links, link.spec.destination = region.name →
      link.visible (first.live link) = link.visible (second.live link)) :
    (first.fed region).bare = (second.fed like).bare := by
  have received (input : String) (type : ElementType) :
      first.received region.name input type = second.received region.name input type := by
    have enters : first.entering region.name input = second.entering region.name input := by
      rw [entering, links]
      rfl
    rw [Network.received, Network.received, ← enters]
    refine congrArg (Buffer.ofList type) (List.flatMap_congr fun link member => ?_)
    obtain ⟨present, ends⟩ := List.mem_filter.mp member
    rw [shown link present (of_decide_eq_true ends).1]
  have fed (network : Network κ) (region : Region κ) :
      (network.fed region).bare = network.fed region.bare := rfl
  rw [fed, fed, ← same]
  refine congrArg (fun inputs => { region.bare with inputs }) ?_
  apply NameMap.map_congr
  intro name input _
  exact congrArg input.withBuffer (received name input.buffer.type)

end Network

end RegionGraph
