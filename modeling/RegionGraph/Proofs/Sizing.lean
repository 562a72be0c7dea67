import RegionGraph.Proofs.Memory
import RegionGraph.Proofs.Shapes

/-!
# Giving buffers their lengths

The checks before building promise that giving every buffer its length cannot fail,
and that afterwards all lengths fit together. The lengths come from one list of
counts, which five passes read: outputs take theirs from it, inputs the sums of what
their links bring by it, rules were checked against it, outputs that readers rely on
have their length already, and snapshots are made like their sources. What memory can
hold is counted without a carry, so the sums are those of numbers without bound.
-/

namespace RegionGraph

variable {κ : Type}

/-- A buffer of a given length; one that has storage of that length keeps it. -/
def Buffer.sized (buffer : Buffer) (count : Nat) : Buffer :=
  if buffer.allocated ∧ buffer.length = count then buffer else buffer.allocate count

namespace Buffer

/-- Sizing keeps the type. -/
@[simp] theorem sized_type (buffer : Buffer) (count : Nat) :
    (buffer.sized count).type = buffer.type := by
  unfold sized
  split <;> rfl

/-- A sized buffer has storage. -/
@[simp] theorem sized_allocated (buffer : Buffer) (count : Nat) :
    (buffer.sized count).allocated = true := by
  unfold sized
  split
  · rename_i fits
    exact fits.1
  · rfl

/-- A sized buffer has the length it was given. -/
@[simp] theorem sized_length (buffer : Buffer) (count : Nat) :
    (buffer.sized count).length = count := by
  unfold sized
  split
  · rename_i fits
    exact fits.2
  · simp [allocate, zeroed, length]

end Buffer

/-- An output takes its length unless it has another that readers rely on. -/
theorem Endpoint.prepare_ok (endpoint : Endpoint) (count : Nat)
    (free : ¬ (endpoint.buffer.allocated = true ∧ endpoint.buffer.length ≠ count ∧
      endpoint.isLinked = true)) :
    endpoint.prepare count = .ok { endpoint with buffer := endpoint.buffer.sized count } := by
  unfold Endpoint.prepare Buffer.sized
  by_cases storage : endpoint.buffer.allocated = true
  · by_cases length : endpoint.buffer.length = count
    · simp [storage, length]
    · have unlinked : endpoint.isLinked = false := by
        by_contra linked
        exact free ⟨storage, length, by simpa using linked⟩
      simp [storage, length, unlinked]
  · simp [storage]

/-- An input takes its length. -/
theorem Input.prepare_eq (input : Input) (count : Nat) :
    input.prepare count = input.withBuffer (input.buffer.sized count) := by
  unfold Input.prepare Buffer.sized
  split <;> rfl

/-- A link that holds as many snapshots as its delay says, each like its source, is left as
it is. -/
theorem Link.prepare_eq_self (link : Link) (source : Buffer)
    (count : link.pending.length = link.delay)
    (like : ∀ snapshot ∈ link.pending, snapshot.extent = source.extent) :
    link.prepare source = link := by
  refine if_pos ⟨count, List.all_eq_true.mpr ?_⟩
  intro snapshot listed
  rw [Bool.and_eq_true, beq_iff_eq, beq_iff_eq]
  exact Prod.ext_iff.mp (like snapshot listed)

/-- New snapshots are as many as the delay says, and like the source. -/
theorem Link.pending_prepare (link : Link) (source : Buffer) :
    (link.prepare source).pending.length = link.delay ∧
      ∀ snapshot ∈ (link.prepare source).pending, snapshot.extent = source.extent := by
  unfold Link.prepare
  split
  case isTrue kept =>
    refine ⟨kept.1, ?_⟩
    intro snapshot held
    have like := List.all_eq_true.mp kept.2 snapshot held
    simp only [Bool.and_eq_true, beq_iff_eq] at like
    exact Prod.ext like.1 like.2
  case isFalse replaced =>
    refine ⟨List.length_replicate, ?_⟩
    intro snapshot held
    rw [List.eq_of_mem_replicate held]
    simp [Buffer.extent, Buffer.zeroed, Buffer.length]

namespace Region

/-- A region with given lengths of its endpoints. -/
def sized (region : Region κ) (outputs inputs : NameMap Nat) (phase : Nat) : Region κ :=
  { region with
    outputs := region.outputs.map (fun name endpoint =>
      { endpoint with buffer := endpoint.buffer.sized ((outputs.get? name).getD 0) })
    inputs := region.inputs.map (fun name input =>
      input.withBuffer (input.buffer.sized ((inputs.get? name).getD 0)))
    phase := some phase }

/-- Changing outputs one after the other, each once, is changing them together. -/
theorem foldlM_modifyOutput {β : Type} (region : Region κ) (entries : List (String × β))
    (distinct : (entries.map Prod.fst).Nodup)
    (change : β → Endpoint → Except GraphError Endpoint) (changed : β → Endpoint → Endpoint)
    (succeeds : ∀ entry ∈ entries, ∃ endpoint, region.outputs.get? entry.1 = some endpoint ∧
      change entry.2 endpoint = .ok (changed entry.2 endpoint)) :
    entries.foldlM (fun region entry => region.modifyOutput entry.1 (change entry.2)) region =
      .ok { region with outputs := region.outputs.revised entries changed } := by
  induction entries generalizing region with
  | nil =>
    rw [NameMap.revised_nil]
    rfl
  | cons first rest inductionHypothesis =>
    rw [List.map_cons, List.nodup_cons] at distinct
    obtain ⟨endpoint, found, made⟩ := succeeds first List.mem_cons_self
    have others := inductionHypothesis
      (region.adjustOutput region.name first.1 (changed first.2)) distinct.2 (by
        intro entry member
        obtain ⟨other, bound, changes⟩ := succeeds entry (List.mem_cons_of_mem first member)
        have apart : entry.1 ≠ first.1 := fun same =>
          distinct.1 (List.mem_map.mpr ⟨entry, member, same⟩)
        refine ⟨other, ?_, changes⟩
        simp [adjustOutput, bound, apart])
    have step := region.modifyOutput_ok first.1 endpoint (change first.2) (changed first.2) found
      made
    rw [List.foldlM_cons, step, Traversal.ok_bind, others,
      region.outputs.revised_cons first rest changed distinct.1]
    simp only [adjustOutput, true_and]

/-- Changing inputs one after the other, each once, is changing them together. -/
theorem foldlM_modifyInput (region : Region κ) (entries : List (String × Nat))
    (distinct : (entries.map Prod.fst).Nodup) (changed : Nat → Input → Input)
    (bound : ∀ entry ∈ entries, ∃ input, region.inputs.get? entry.1 = some input) :
    entries.foldlM (fun region entry =>
        region.modifyInput entry.1 (fun input => .ok (changed entry.2 input))) region =
      .ok { region with inputs := region.inputs.revised entries changed } := by
  induction entries generalizing region with
  | nil =>
    rw [NameMap.revised_nil]
    rfl
  | cons first rest inductionHypothesis =>
    rw [List.map_cons, List.nodup_cons] at distinct
    obtain ⟨input, found⟩ := bound first List.mem_cons_self
    have others := inductionHypothesis
      (region.adjustInput region.name first.1 (changed first.2)) distinct.2 (by
        intro entry member
        obtain ⟨other, present⟩ := bound entry (List.mem_cons_of_mem first member)
        have apart : entry.1 ≠ first.1 := fun same =>
          distinct.1 (List.mem_map.mpr ⟨entry, member, same⟩)
        exact ⟨other, by simp [adjustInput, present, apart]⟩)
    have step := region.modifyInput_ok first.1 input (fun input => .ok (changed first.2 input))
      (changed first.2) found rfl
    rw [List.foldlM_cons, step, Traversal.ok_bind, others,
      region.inputs.revised_cons first rest changed distinct.1]
    simp only [adjustInput, true_and]

/-- Lengths for exactly the endpoints of a region, none of them refused: the region
takes them all. -/
theorem shapeRegion_eq (region : Region κ) (outputs inputs : NameMap Nat) (phase : Nat)
    (outputsBound : ∀ name, (∃ count, outputs.get? name = some count) ↔
      ∃ output, region.outputs.get? name = some output)
    (inputsBound : ∀ name, (∃ count, inputs.get? name = some count) ↔
      ∃ input, region.inputs.get? name = some input)
    (free : ∀ name output, region.outputs.get? name = some output →
      ¬ (output.buffer.allocated = true ∧ output.buffer.length ≠ (outputs.get? name).getD 0 ∧
        output.isLinked = true)) :
    (Network.shapeRegion outputs inputs phase).run region =
      (.ok ⟨⟩, region.sized outputs inputs phase) := by
  have first := region.foldlM_modifyOutput outputs.entries outputs.names_nodup
    (fun count endpoint => endpoint.prepare count)
    (fun count endpoint => { endpoint with buffer := endpoint.buffer.sized count }) (by
      intro entry member
      have found := outputs.get?_of_mem entry member
      obtain ⟨output, bound⟩ := (outputsBound entry.1).mp ⟨entry.2, found⟩
      have unrefused := free entry.1 output bound
      rw [found] at unrefused
      exact ⟨output, bound, output.prepare_ok entry.2 unrefused⟩)
  have second (made : NameMap Endpoint) := foldlM_modifyInput { region with outputs := made }
      inputs.entries inputs.names_nodup (fun count input => input.prepare count) (by
        intro entry member
        exact (inputsBound entry.1).mp ⟨entry.2, inputs.get?_of_mem entry member⟩)
  unfold Network.shapeRegion
  simp only [Edit.run_bind, Edit.forM_set_of_foldlM _ _ _ _ first,
    Edit.forM_set_of_foldlM _ _ _ _ (second _), Edit.run_modify]
  refine congrArg (Prod.mk (Except.ok PUnit.unit)) ?_
  simp only [sized]
  congr 1
  · rw [NameMap.revised_entries]
    apply NameMap.map_congr
    intro name endpoint found
    obtain ⟨count, bound⟩ := (outputsBound name).mpr ⟨endpoint, found⟩
    simp only [bound, Option.getD_some]
  · rw [NameMap.revised_entries]
    apply NameMap.map_congr
    intro name input found
    obtain ⟨count, bound⟩ := (inputsBound name).mpr ⟨input, found⟩
    simp only [bound, Option.getD_some, input.prepare_eq count]

end Region

namespace Network

/-- The region at a position with the lengths that a plan gives it. -/
def sizedRegion (plan : Plan) (region : Region κ) (index : Nat) : Region κ :=
  region.sized (plan.outputs[index]?.getD ∅) (plan.inputs[index]?.getD ∅)
    (plan.schedule.phase index)

/-- The network with the lengths that a plan gives it, its links still as they were. -/
def sizedRegions (network : Network κ) (plan : Plan) : Network κ :=
  { network with regions := network.regions.mapIdx (fun index region =>
      sizedRegion plan region index) }

/-- The network with the lengths that a plan gives it. -/
def sized (network : Network κ) (plan : Plan) : Network κ :=
  { network.sizedRegions plan with
    links := network.links.map (fun link =>
      if link.isDelayed then link.prepare ((network.sizedRegions plan).live link) else link) }

/-- A region that was given its lengths stood where it stands. -/
theorem exists_of_sized (network : Network κ) (plan : Plan) (index : Nat) (region : Region κ)
    (found : (network.sizedRegions plan).regions[index]? = some region) :
    ∃ former, network.regions[index]? = some former ∧ region = sizedRegion plan former index := by
  rw [sizedRegions, List.getElem?_mapIdx, Option.map_eq_some_iff] at found
  obtain ⟨former, here, same⟩ := found
  exact ⟨former, here, same.symm⟩

/-- Getting new snapshots, where it has any, keeps the specification of a link. -/
theorem spec_sized (network : Network κ) (plan : Plan) (link : Link) :
    (if link.isDelayed then link.prepare ((network.sizedRegions plan).live link) else link).spec =
      link.spec := by
  split
  · exact congrArg Prod.snd (prepare_id_spec link _)
  · rfl

/-- What the checks have established of a plan. -/
structure Fits (network : Network κ) (plan : Plan) : Prop where
  scheduled : network.schedule = .ok plan.schedule
  required : network.checkRequired = .ok ()
  outputs : ∀ (index : Nat) (region : Region κ), network.regions[index]? = some region →
    ∃ counts, plan.outputs[index]? = some counts ∧ ∀ name,
      (∃ count, counts.get? name = some count) ↔ ∃ output, region.outputs.get? name = some output
  inputs : ∀ (index : Nat) (region : Region κ), network.regions[index]? = some region →
    plan.inputs[index]? = some (region.inputs.filterMap
      (fun name _ => network.brought plan.outputs (network.entering region.name name)))
  decided : ∀ link ∈ network.links, ∃ count, network.sourceCount plan.outputs link = some count
  rules : ∀ link ∈ network.links, ∀ rule, link.spec.reindex = some rule →
    rule.validate ((network.sourceCount plan.outputs link).getD 0) = .ok ()
  free : ∀ (index : Nat) (region : Region κ) (counts : NameMap Nat),
    network.regions[index]? = some region → plan.outputs[index]? = some counts →
    ∀ name output, region.outputs.get? name = some output →
      ¬ (output.buffer.allocated = true ∧ output.buffer.length ≠ (counts.get? name).getD 0 ∧
        output.isLinked = true)
  bounded : ∀ region input, ((network.entering region input).map
    (fun link => link.width ((network.sourceCount plan.outputs link).getD 0))).sum < 2 ^ 64

/-- The wiring of a network with new lengths. -/
theorem view_sizedRegion (plan : Plan) (region : Region κ) (index : Nat) :
    (sizedRegion plan region index).view Endpoint.port = region.view Endpoint.port := by
  simp only [sizedRegion, Region.sized, Region.view, NameMap.map_map, Endpoint.port,
    Buffer.sized_type, Input.withBuffer]

/-- What new lengths leave alone in a region they leave alone in all. -/
theorem map_sizedRegions {τ : Type} (network : Network κ) (plan : Plan) (tell : Region κ → τ)
    (same : ∀ region index, tell (sizedRegion plan region index) = tell region) :
    (network.sizedRegions plan).regions.map tell = network.regions.map tell := by
  apply List.ext_getElem?
  intro index
  rw [List.getElem?_map, List.getElem?_map, sizedRegions, List.getElem?_mapIdx]
  cases network.regions[index]? with
  | none => rfl
  | some region => exact congrArg some (same region index)

/-- New lengths of buffers keep the wiring. -/
theorem wiring_sizedRegions (network : Network κ) (plan : Plan) :
    (network.sizedRegions plan).wiring = network.wiring := by
  have nodes := network.map_sizedRegions plan (Region.view Endpoint.port) (view_sizedRegion plan)
  simp only [wiring, nodes]
  rfl

/-- What the links of an input bring by the counts of a plan: it goes into a word. -/
theorem brought_entering (network : Network κ) (plan : Plan) (fits : network.Fits plan)
    (region input : String) : network.brought plan.outputs (network.entering region input) =
      some (((network.entering region input).map
        (fun link => link.width ((network.sourceCount plan.outputs link).getD 0))).sum) := by
  rw [network.brought_of_decided plan.outputs (network.entering region input)
    (fun link enters => fits.decided link (List.mem_of_mem_filter enters)),
    Nat.mod_eq_of_lt (fits.bounded region input)]

/-- A planned region takes its lengths. -/
theorem shapeAt_of_fits (network : Network κ) (plan : Plan) (fits : network.Fits plan)
    (region : Region κ) (index : Nat) (found : network.regions[index]? = some region) :
    shapeAt plan (region, index) = (.ok (), sizedRegion plan region index, index) := by
  obtain ⟨counts, counted, bound⟩ := fits.outputs index region found
  have widths := fits.inputs index region found
  have made := region.shapeRegion_eq (plan.outputs[index]?.getD ∅) (plan.inputs[index]?.getD ∅)
    (plan.schedule.phase index) ?_ ?_ ?_
  · rw [shapeAt, made]
    rfl
  · rw [counted]
    exact bound
  · intro name
    rw [widths, Option.getD_some, NameMap.get?_filterMap]
    constructor
    · rintro ⟨count, made⟩
      obtain ⟨input, present, _⟩ := Option.bind_eq_some_iff.mp made
      exact ⟨input, present⟩
    · rintro ⟨input, present⟩
      rw [present, Option.bind_some, network.brought_entering plan fits]
      exact ⟨_, rfl⟩
  · intro name output present
    rw [counted]
    exact fits.free index region counts found counted name output present

/-- A plan that fits can be carried out. -/
theorem shape_of_fits (network : Network κ) (sound : network.wiring.Sound) (plan : Plan)
    (fits : network.Fits plan) :
    (shape plan).run network = (.ok (), network.sized plan) := by
  have regions := Edit.editEach_ok (shapeAt plan)
    (fun entry : Region κ × Nat => (sizedRegion plan entry.1 entry.2, entry.2))
    network.regions.zipIdx (by
      intro entry member
      exact network.shapeAt_of_fits plan fits entry.1 entry.2
        (List.mem_zipIdx_iff_getElem?.mp member))
  have together : (network.regions.zipIdx.map (fun entry =>
      (sizedRegion plan entry.1 entry.2, entry.2))).map Prod.fst =
      (network.sizedRegions plan).regions := by
    rw [List.map_map, sizedRegions, List.mapIdx_eq_zipIdx_map]
    rfl
  have soundAfter : (network.sizedRegions plan).wiring.Sound :=
    network.wiring_sizedRegions plan ▸ sound
  have links := editAllDelayed_ok Link.prepare (network.sizedRegions plan)
    (network.sizedRegions plan).live (fun link member =>
      ((network.sizedRegions plan).sourceBuffer_ok soundAfter link member).1)
  rw [run_shape, regions]
  simp only [together]
  exact links

/-- A plan that fits keeps the wiring. -/
theorem wiring_sized (network : Network κ) (sound : network.wiring.Sound) (plan : Plan)
    (fits : network.Fits plan) : (network.sized plan).wiring = network.wiring := by
  have kept := network.wiring_shape plan
  rw [network.shape_of_fits sound plan fits] at kept
  exact kept

/-- After a plan was carried out, the source of a link has the length that was counted. -/
theorem live_sizedRegions (network : Network κ) (sound : network.wiring.Sound) (plan : Plan)
    (link : Link) (member : link ∈ network.links) :
    ((network.sizedRegions plan).live link).length =
      (network.sourceCount plan.outputs link).getD 0 := by
  have soundAfter : (network.sizedRegions plan).wiring.Sound :=
    network.wiring_sizedRegions plan ▸ sound
  obtain ⟨index, source, output, _, position, stands, found, live⟩ :=
    (network.sizedRegions plan).source_position soundAfter link member
  have indexed := network.indexed_of_sound sound
  obtain ⟨region, here, rfl⟩ := network.exists_of_sized plan index source stands
  have named := (position?_eq_some_iff _ ((network.sizedRegions plan).indexed_of_sound soundAfter)
    link.spec.source index).mp position
  obtain ⟨other, otherStands, otherName⟩ := named
  rw [stands, Option.some.injEq] at otherStands
  have regionName : region.name = link.spec.source := by
    rw [← otherName, ← otherStands]
    rfl
  have formerPosition := (network.position?_eq_some_iff indexed link.spec.source index).mpr
    ⟨region, here, regionName⟩
  simp only [sizedRegion, Region.sized, NameMap.get?_map, Option.map_eq_some_iff] at found
  obtain ⟨former, _, rfl⟩ := found
  rw [← live, sourceCount, formerPosition, Option.bind_some]
  simp

/-- A link reads its source wherever its own snapshots are. -/
theorem live_sized (network : Network κ) (plan : Plan) (link former : Link)
    (same : link.spec = former.spec) :
    (network.sized plan).live link = (network.sizedRegions plan).live former := by
  simp only [Network.live, sourceBuffer, same]
  rfl

/-- After a plan was carried out, the links of an input bring what was counted. -/
theorem widths_sized (network : Network κ) (sound : network.wiring.Sound) (plan : Plan)
    (region input : String) : ((network.sized plan).entering region input).map
        (fun link => link.width ((network.sized plan).live link).length) =
      (network.entering region input).map
        (fun link => link.width ((network.sourceCount plan.outputs link).getD 0)) := by
  have entering : (network.sized plan).entering region input =
      (network.entering region input).map (fun link => if link.isDelayed = true then
        link.prepare ((network.sizedRegions plan).live link) else link) := by
    simp only [Network.entering, sized, List.filter_map, Function.comp_def,
      network.spec_sized plan]
  rw [entering, List.map_map]
  apply List.map_congr_left
  intro link enters
  have listed : link ∈ network.links := List.mem_of_mem_filter enters
  rw [Function.comp_apply, network.live_sized plan _ link (network.spec_sized plan link),
    network.live_sizedRegions sound plan link listed]
  simp only [Link.width, network.spec_sized plan]

/-- A plan that fits makes the buffers fit together. -/
theorem shaped_sized (network : Network κ) (sound : network.wiring.Sound) (plan : Plan)
    (fits : network.Fits plan) : (network.sized plan).Shaped := by
  have lengths := network.live_sizedRegions sound plan
  have specs := network.spec_sized plan
  have former (region : Region κ) (member : region ∈ (network.sized plan).regions) :
      ∃ index other, network.regions[index]? = some other ∧
        region = sizedRegion plan other index := by
    obtain ⟨index, stands⟩ := List.mem_iff_getElem?.mp member
    exact ⟨index, network.exists_of_sized plan index region stands⟩
  constructor
  case outputs =>
    intro region member name output found
    obtain ⟨index, other, here, rfl⟩ := former region member
    simp only [sizedRegion, Region.sized, NameMap.get?_map, Option.map_eq_some_iff] at found
    obtain ⟨before, _, rfl⟩ := found
    simp
  case inputs =>
    intro region member name input found
    obtain ⟨index, other, here, rfl⟩ := former region member
    simp only [sizedRegion, Region.sized, NameMap.get?_map, Option.map_eq_some_iff] at found
    obtain ⟨before, present, rfl⟩ := found
    refine ⟨by simp [Input.withBuffer], ?_⟩
    have widths := network.widths_sized sound plan other.name name
    have planned := fits.inputs index other here
    simp only [sizedRegion, Region.sized] at widths ⊢
    rw [widths, planned]
    simp only [Input.withBuffer, Buffer.sized_length, Option.getD_some, NameMap.get?_filterMap,
      present, Option.bind_some]
    rw [network.brought_entering plan fits, Option.getD_some]
  case rules =>
    intro link member rule ruled
    obtain ⟨before, listed, rfl⟩ := List.mem_map.mp member
    rw [specs] at ruled
    rw [network.live_sized plan _ before (specs before), lengths before listed]
    exact fits.rules before listed rule ruled
  case pending =>
    intro link member delayed
    obtain ⟨before, listed, rfl⟩ := List.mem_map.mp member
    have wasDelayed : before.isDelayed = true := by
      rw [Link.isDelayed, Link.delay, specs] at delayed
      exact delayed
    rw [network.live_sized plan _ before (specs before)]
    simp only [wasDelayed, if_true]
    have spec : (before.prepare ((network.sizedRegions plan).live before)).spec = before.spec :=
      congrArg Prod.snd (prepare_id_spec before _)
    rw [Link.delay, spec]
    exact before.pending_prepare _

section Checked

variable (network : Network κ) (sound : network.wiring.Sound) (counts : OutputCounts)
  (noted : network.Noted counts)
  (complete : ∀ (index : Nat) (region : Region κ) (known : NameMap Nat),
    network.regions[index]? = some region → counts[index]? = some known →
    ∀ name output, region.outputs.get? name = some output →
      ∃ count, known.get? name = some count)

include sound noted complete

/-- Where every output is counted the source of a link is, and where it is looked up. -/
theorem sourceCount_of_complete (link : Link) (member : link ∈ network.links) :
    ∃ index count, network.position link.spec.source = .ok index ∧
      (counts[index]?.getD ∅).get? link.spec.output = some count ∧
      network.sourceCount counts link = some count := by
  obtain ⟨index, source, output, located, position, stands, found, _⟩ :=
    network.source_position sound link member
  obtain ⟨known, here⟩ := noted.known index source stands
  obtain ⟨count, bound⟩ := complete index source known stands here link.spec.output output found
  refine ⟨index, count, located, ?_, ?_⟩
  · rw [here]
    exact bound
  · rw [sourceCount, position, Option.bind_some, here]
    exact bound

/-- Rules that passed the check stay inside what was counted. -/
theorem rules_of_checkReindex (checked : network.checkReindex counts = .ok ()) (link : Link)
    (member : link ∈ network.links) (rule : Reindex) (named : link.spec.reindex = some rule) :
    rule.validate ((network.sourceCount counts link).getD 0) = .ok () := by
  obtain ⟨index, count, located, bound, counted⟩ :=
    sourceCount_of_complete network sound counts noted complete link member
  have passed := (Traversal.forM_ok_iff _ _).mp checked link member
  simp only [named, located, Traversal.ok_bind, bound, Option.getD_some] at passed
  rw [counted]
  exact (Traversal.mapError_ok_iff _ _ _).mp passed

omit noted complete in
/-- Inputs that passed their check are given what their links bring. -/
theorem inputs_of_inputCounts (inputs : List (NameMap Nat))
    (checked : network.regions.mapM (network.inputCounts counts) = .ok inputs) (index : Nat)
    (region : Region κ) (stands : network.regions[index]? = some region) :
    inputs[index]? = some (region.inputs.filterMap
      (fun name _ => network.brought counts (network.entering region.name name))) := by
  obtain ⟨made, here, passed⟩ := Traversal.mapM_getElem? _ _ _ checked index region stands
  obtain ⟨brings, each, passed⟩ := (Traversal.bind_ok_iff _ _ _).mp passed
  obtain ⟨_, _, passed⟩ := (Traversal.bind_ok_iff _ _ _).mp passed
  cases passed
  rw [network.knownWidths_eq sound counts region (List.mem_of_getElem? stands),
    Except.ok.injEq] at each
  rw [here, each]

omit sound noted complete in
/-- Outputs that passed their check are free to take what was counted. -/
theorem free_of_checkResizes (checked : network.checkResizes counts = .ok ()) (index : Nat)
    (region : Region κ) (known : NameMap Nat) (stands : network.regions[index]? = some region)
    (here : counts[index]? = some known) (name : String) (output : Endpoint)
    (bound : region.outputs.get? name = some output) :
    ¬ (output.buffer.allocated = true ∧ output.buffer.length ≠ (known.get? name).getD 0 ∧
      output.isLinked = true) := by
  have paired : (region, known) ∈ network.regions.zip counts :=
    List.mem_of_getElem? (List.getElem?_zip_eq_some.mpr ⟨stands, here⟩)
  have passed := (Traversal.forM_ok_iff _ _).mp checked (region, known) paired
  have each := (Traversal.forM_ok_iff _ _).mp passed (name, output)
    ((region.outputs.mem_entries_iff name output).mpr bound)
  intro refused
  simp only [refused, ne_eq, not_false_eq_true, and_self, if_true] at each
  cases each

end Checked

variable [Implementation κ]

/-- A plan is what the checks found out, and can be in memory. -/
theorem plan_ok (network : Network κ) (plan : Plan) :
    network.plan = .ok plan ↔ network.checks = .ok plan ∧ network.need plan.outputs < 2 ^ 64 := by
  rw [Network.plan]
  cases network.checks with
  | error fault => simp only [Traversal.error_bind, reduceCtorEq, false_and]
  | ok found =>
    rw [Traversal.ok_bind, checkMemory]
    split
    case isTrue held =>
      constructor
      · rintro ⟨⟩
        exact ⟨rfl, held⟩
      · rintro ⟨⟨⟩, _⟩
        rfl
    case isFalse exceeded =>
      constructor
      · rintro ⟨⟩
      · rintro ⟨⟨⟩, held⟩
        exact absurd held exceeded

/-- Each of the checks passed that led to a plan. -/
theorem checks_ok (network : Network κ) (plan : Plan) (checked : network.checks = .ok plan) :
    network.schedule = .ok plan.schedule ∧ network.checkRequired = .ok () ∧
      network.outputCounts plan.schedule.order = .ok plan.outputs ∧
      network.checkReindex plan.outputs = .ok () ∧
      network.regions.mapM (network.inputCounts plan.outputs) = .ok plan.inputs ∧
      network.checkResizes plan.outputs = .ok () := by
  obtain ⟨schedule, scheduled, checked⟩ := (Traversal.bind_ok_iff _ _ _).mp checked
  obtain ⟨_, required, checked⟩ := (Traversal.bind_ok_iff _ _ _).mp checked
  obtain ⟨outputs, counted, checked⟩ := (Traversal.bind_ok_iff _ _ _).mp checked
  obtain ⟨_, ruled, checked⟩ := (Traversal.bind_ok_iff _ _ _).mp checked
  obtain ⟨inputs, widths, checked⟩ := (Traversal.bind_ok_iff _ _ _).mp checked
  obtain ⟨_, resizes, checked⟩ := (Traversal.bind_ok_iff _ _ _).mp checked
  cases checked
  exact ⟨scheduled, required, counted, ruled, widths, resizes⟩

/-- The checks establish all that a plan needs to be carried out. -/
theorem fits_of_plan (network : Network κ) (sound : network.wiring.Sound) (plan : Plan)
    (planned : network.plan = .ok plan) : network.Fits plan := by
  obtain ⟨checked, held⟩ := (network.plan_ok plan).mp planned
  obtain ⟨scheduled, required, counted, ruled, widths, resizes⟩ := network.checks_ok plan checked
  obtain ⟨noted, complete⟩ := network.outputCounts_ok sound plan.schedule.order plan.outputs counted
  have rules := rules_of_checkReindex network sound plan.outputs noted complete ruled
  have decided (link : Link) (member : link ∈ network.links) :
      ∃ count, network.sourceCount plan.outputs link = some count := by
    obtain ⟨_, count, _, _, known⟩ :=
      sourceCount_of_complete network sound plan.outputs noted complete link member
    exact ⟨count, known⟩
  constructor
  case scheduled => exact scheduled
  case required => exact required
  case outputs =>
    intro index region stands
    obtain ⟨counts, here⟩ := noted.known index region stands
    refine ⟨counts, here, fun name => ?_⟩
    constructor
    · rintro ⟨count, bound⟩
      exact noted.bound index region counts stands here name count bound
    · rintro ⟨output, bound⟩
      exact complete index region counts stands here name output bound
  case inputs => exact network.inputs_of_inputCounts sound plan.outputs plan.inputs widths
  case decided => exact decided
  case rules => exact rules
  case free => exact network.free_of_checkResizes plan.outputs resizes
  case bounded =>
    intro region input
    exact Nat.lt_of_le_of_lt
      (network.widths_le_need sound plan.outputs decided rules region input) held

end Network

end RegionGraph
