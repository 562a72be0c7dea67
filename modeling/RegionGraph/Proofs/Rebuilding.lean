import RegionGraph.Proofs.Answers

/-!
# Building rearranged networks

If implementations stand by their answers, building succeeds on a network exactly if it
succeeds on one that is rearranged from it, and the networks are rearranged from each other
afterwards: the same lengths are given to the endpoints of regions of the same name, the
same snapshots are put on the way, and every region is started once, in whatever order.
-/

namespace RegionGraph

variable {κ : Type} [Implementation κ]

namespace Network

/-! ### Giving lengths -/

section Checks

variable (first second : Network κ) (rearranged : first.Rearranged second)
  (soundFirst : first.wiring.Sound) (soundSecond : second.wiring.Sound)
  (unwavering : first.Unwavering) (plan other : Plan) (checked : first.checks = .ok plan)
  (checkedToo : second.checks = .ok other)

include rearranged soundFirst soundSecond unwavering checked checkedToo

/-- The checks of rearranged networks note the same lengths. -/
theorem noted?_of_checks (region output : String) :
    first.noted? plan.outputs region output = second.noted? other.outputs region output := by
  have acyclic := ((first.checks_ok_iff soundFirst).mp ⟨plan, checked⟩).acyclic
  have finds := first.finds_of_checks soundFirst plan checked
  have findsToo := second.finds_of_checks soundSecond other checkedToo
  apply Option.ext
  intro count
  have noted (network : Network κ) (counts : OutputCounts) (finds : network.Finds counts) :
      network.noted? counts region output = some count ↔ network.Resolves region output count := by
    rw [finds.told, noted?, Option.bind_eq_some_iff]
  rw [noted first plan.outputs finds, noted second other.outputs findsToo]
  exact (rearranged.resolves_iff soundFirst soundSecond unwavering acyclic region output count).symm

/-- The length of an output that is noted at a position in the second network is noted at the
position that its region has in the first. -/
theorem told_of_checks (item : (Nat × String) × Nat) (listed : item ∈ slots other.outputs) :
    ∃ index, second.position? (second.nameAt item.1.1) = some item.1.1 ∧
      first.position? (second.nameAt item.1.1) = some index ∧
      told plan.outputs index item.1.2 = some item.2 := by
  have known := (mem_slots_iff other.outputs item.1.1 item.1.2 item.2).mp listed
  have inside : item.1.1 < other.outputs.length := by
    by_contra outside
    rw [told, List.getElem?_eq_none (Nat.le_of_not_lt outside)] at known
    cases known
  rw [(second.finds_of_checks soundSecond other checkedToo).noted.length] at inside
  have here := second.position?_nameAt (second.indexed_of_sound soundSecond) item.1.1 inside
  have same := noted?_of_checks first second rearranged soundFirst soundSecond unwavering plan
    other checked checkedToo (second.nameAt item.1.1) item.1.2
  rw [noted?, noted?, here, Option.bind_some, known] at same
  obtain ⟨index, position, there⟩ := Option.bind_eq_some_iff.mp same
  exact ⟨index, here, position, there⟩

/-- A rearranged network needs no more memory: its outputs are those of the first, each at the
place that its region has there. -/
theorem need_le_of_checks : second.need other.outputs ≤ first.need plan.outputs := by
  have placed := told_of_checks first second rearranged soundFirst soundSecond unwavering plan
    other checked checkedToo
  let place (slot : Nat × String) : Nat × String :=
    (first.placeOf (second.nameAt slot.1), slot.2)
  have counted := sum_le_elements plan.outputs
    ((slots other.outputs).map fun item => (place item.1, item.2))
  rw [List.map_map, List.map_map] at counted
  have elements : elements other.outputs ≤ elements plan.outputs := by
    rw [elements_eq other.outputs]
    refine counted ?_ ?_
    · refine List.Nodup.map_on ?_ ((nodup_slots other.outputs).of_map _)
      intro one present another presentToo same
      obtain ⟨_, here, position, _⟩ := placed one present
      obtain ⟨_, hereToo, positionToo, _⟩ := placed another presentToo
      obtain ⟨places, outputs⟩ := Prod.mk.inj same
      rw [placeOf, placeOf, position, positionToo, Option.getD_some, Option.getD_some] at places
      have names := first.position?_inj (first.indexed_of_sound soundFirst) _ _ _
        (places ▸ position) positionToo
      rw [names, hereToo] at here
      have slot : one.1 = another.1 := Prod.ext (Option.some.inj here).symm outputs
      exact List.inj_on_of_nodup_map (nodup_slots other.outputs) present presentToo slot
    · intro item member
      obtain ⟨slot, listed, rfl⟩ := List.mem_map.mp member
      obtain ⟨index, _, position, there⟩ := placed slot listed
      dsimp only [place]
      rw [placeOf, position]
      exact there
  rw [need, need, rearranged.links]
  exact Nat.add_le_add_right elements _

end Checks

section Plans

variable (first second : Network κ) (rearranged : first.Rearranged second)
  (soundFirst : first.wiring.Sound) (soundSecond : second.wiring.Sound)
  (unwavering : first.Unwavering) (plan other : Plan) (planned : first.plan = .ok plan)

include rearranged soundFirst soundSecond unwavering planned

/-- There is a plan for a rearranged network. -/
theorem plan_of_rearranged : ∃ other, second.plan = .ok other := by
  obtain ⟨checked, held⟩ := (first.plan_ok plan).mp planned
  have admissible := rearranged.admissible soundFirst soundSecond unwavering
    ((first.checks_ok_iff soundFirst).mp ⟨plan, checked⟩)
  obtain ⟨other, checkedToo⟩ := (second.checks_ok_iff soundSecond).mpr admissible
  exact ⟨other, (second.plan_ok other).mpr ⟨checkedToo, Nat.lt_of_le_of_lt
    (need_le_of_checks first second rearranged soundFirst soundSecond unwavering plan other
      checked checkedToo) held⟩⟩

variable (plannedToo : second.plan = .ok other)

include plannedToo

/-- Regions that are the same but for their places are given the same lengths. -/
theorem sizedRegion_of_plans (region like : Region κ) (same : region.bare = like.bare)
    (index place : Nat) (found : first.regions[index]? = some region)
    (foundToo : second.regions[place]? = some like) :
    (sizedRegion plan region index).bare = (sizedRegion other like place).bare := by
  have noted := noted?_of_checks first second rearranged soundFirst soundSecond unwavering plan
    other ((first.plan_ok plan).mp planned).1 ((second.plan_ok other).mp plannedToo).1
  have covers : first.Covers second plan.outputs other.outputs :=
    fun region output count here => (noted region output).symm.trans here
  have coversBack : second.Covers first other.outputs plan.outputs :=
    fun region output count here => (noted region output).trans here
  have here := first.position?_of_stands (first.indexed_of_sound soundFirst) index region found
  have there := (second.position?_eq_some_iff (second.indexed_of_sound soundSecond) region.name
    place).mpr ⟨like, foundToo, (Region.name_of_bare same).symm⟩
  have outputs (name : String) : (plan.outputs[index]?.getD ∅).get? name =
      (other.outputs[place]?.getD ∅).get? name := by
    have equal := noted region.name name
    rw [noted?, noted?, here, there] at equal
    exact equal
  have inputs : plan.inputs[index]? = other.inputs[place]? := by
    have widths := (first.fits_of_plan soundFirst plan planned).inputs index region found
    have widthsToo := (second.fits_of_plan soundSecond other plannedToo).inputs place like foundToo
    rw [widths, widthsToo]
    exact congrArg some ((covers.widths rearranged.links region like same).antisymm
      (coversBack.widths rearranged.links.symm like region same.symm))
  obtain ⟨_, _, rfl⟩ := Region.exists_of_bare same
  simp only [sizedRegion, Region.sized, Region.bare, outputs, inputs]

/-- Every region that was given its lengths has its like in the other network. -/
theorem likes_of_plans (region : Region κ) (member : region ∈ (first.sizedRegions plan).regions) :
    ∃ like ∈ (second.sizedRegions other).regions, like.bare = region.bare := by
  obtain ⟨index, found, rfl⟩ := List.mem_mapIdx.mp member
  obtain ⟨like, present, same⟩ := rearranged.like (first.indexed_of_sound soundFirst)
    (second.indexed_of_sound soundSecond) _ (List.getElem_mem found)
  obtain ⟨place, inside, rfl⟩ := List.mem_iff_getElem.mp present
  refine ⟨_, List.mem_mapIdx.mpr ⟨place, inside, rfl⟩, ?_⟩
  exact (sizedRegion_of_plans first second rearranged soundFirst soundSecond unwavering plan other
    planned plannedToo _ _ same.symm index place (List.getElem?_eq_getElem found)
    (List.getElem?_eq_getElem inside)).symm

/-- Giving lengths keeps networks rearranged. -/
theorem sized_of_plans : (first.sized plan).Rearranged (second.sized other) := by
  have indexed := (first.sizedRegions plan).indexed_of_sound
    (first.wiring_sizedRegions plan ▸ soundFirst)
  have indexedToo := (second.sizedRegions other).indexed_of_sound
    (second.wiring_sizedRegions other ▸ soundSecond)
  have regions : (first.sizedRegions plan).Rearranged (second.sizedRegions other) := by
    refine ⟨regions_of_likes Region.bare (fun _ _ => Region.name_of_bare) _ _ indexed indexedToo
      ?_ ?_, rearranged.links, rearranged.iteration⟩
    · exact likes_of_plans first second rearranged soundFirst soundSecond unwavering plan other
        planned plannedToo
    · exact likes_of_plans second first rearranged.symm soundSecond soundFirst
        (rearranged.unwavering soundFirst soundSecond unwavering) other plan plannedToo planned
  refine ⟨regions.regions, ?_, rearranged.iteration⟩
  rw [sized, sized, rearranged.links]
  exact List.map_congr_left fun link _ => by rw [regions.live link]

end Plans

/-! ### Starting -/

omit [Implementation κ] in
/-- Where all regions are changed in their places, a name stands for the changed region. -/
theorem region_map (network : Network κ) (change : Region κ → Region κ) (name : String) :
    ({ network with regions := network.regions.map change } : Network κ).region name =
      (network.region name).map change := by
  have found : (network.position? name).bind ((network.regions.map change)[·]?) =
      ((network.position? name).bind (network.regions[·]?)).map change := by
    simp only [List.getElem?_map, Option.map_bind, Function.comp_def]
  unfold Network.region
  rw [show ({ network with regions := network.regions.map change } : Network κ).position? name =
    network.position? name from rfl, found]
  cases (network.position? name).bind (network.regions[·]?) <;> rfl

/-- If all regions start, those of a rearranged network do, and the networks stay rearranged. -/
theorem starts_of_rearranged (first second : Network κ) (rearranged : first.Rearranged second)
    (soundFirst : first.wiring.Sound) (soundSecond : second.wiring.Sound)
    (starts : ∀ region ∈ first.regions, region.start.2 = .ok ()) :
    (∀ region ∈ second.regions, region.start.2 = .ok ()) ∧
      Rearranged { first with regions := first.regions.map (fun region => region.start.1) }
        { second with regions := second.regions.map (fun region => region.start.1) } := by
  have indexed := first.indexed_of_sound soundFirst
  have indexedToo := second.indexed_of_sound soundSecond
  refine ⟨?_, ?_, rearranged.links, rearranged.iteration⟩
  · intro like member
    obtain ⟨region, present, same⟩ := rearranged.symm.like indexedToo indexed like member
    exact (Region.start_of_bare region like same).2.symm.trans (starts region present)
  · intro name
    rw [region_map, region_map]
    rcases Traversal.cases_of_map_eq Region.bare _ _ (rearranged.regions name) with
      ⟨fault, here, there⟩ | ⟨region, like, here, there, same⟩
    · rw [here, there]
    · rw [here, there]
      exact congrArg Except.ok (Region.start_of_bare region like same).1

/-- Building a rearranged network succeeds where building the first did, and ends in the
same. -/
theorem rebuilt_of_rearranged (first second after : Network κ)
    (rearranged : first.Rearranged second) (soundFirst : first.wiring.Sound)
    (soundSecond : second.wiring.Sound) (unwavering : first.Unwavering)
    (built : first.rebuilt = (.ok (), after)) :
    ∃ next, second.rebuilt = (.ok (), next) ∧ after.Rearranged next := by
  obtain ⟨plan, planned, starts, rfl⟩ := (first.rebuilt_ok_iff after soundFirst).mp built
  obtain ⟨other, plannedToo⟩ :=
    plan_of_rearranged first second rearranged soundFirst soundSecond unwavering plan planned
  have sized := sized_of_plans first second rearranged soundFirst soundSecond unwavering plan
    other planned plannedToo
  have sound (network : Network κ) (plan : Plan) (sound : network.wiring.Sound)
      (planned : network.plan = .ok plan) : (network.sized plan).wiring.Sound :=
    network.wiring_sized sound plan (network.fits_of_plan sound plan planned) ▸ sound
  obtain ⟨startsToo, same⟩ := starts_of_rearranged _ _ sized (sound first plan soundFirst planned)
    (sound second other soundSecond plannedToo) starts
  refine ⟨second.builtBy other, (second.rebuilt_ok_iff _ soundSecond).mpr
    ⟨other, plannedToo, startsToo, rfl⟩, ?_⟩
  exact ⟨same.regions, same.links, same.iteration⟩

end Network

end RegionGraph
