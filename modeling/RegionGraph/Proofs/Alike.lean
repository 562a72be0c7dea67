import RegionGraph.Network.Checkpoint
import RegionGraph.Proofs.Cycles

/-!
# Networks that are alike

What is lasting about a region is its description, its parameters, the state of its
implementation and the contents of its outputs. Numbers of links, contents of inputs,
levels and counts of computations are not. Two networks are alike if their regions
agree in what is lasting, in their order, and their links in specifications and in what
is on its way. Alike networks show the same contents, link the same endpoints and save
the same.
-/

namespace RegionGraph

variable {κ : Type}

/-- What is lasting about a region. Of an input this is its type and whether it has to
be connected. -/
structure Essence (κ : Type) where
  name : String
  type : String
  spec : Spec
  params : Params
  state : κ
  initialized : Bool
  outputs : NameMap Buffer
  inputs : NameMap (ElementType × Bool)

namespace Region

/-- What is lasting about a region. -/
def essence (region : Region κ) : Essence κ where
  name := region.name
  type := region.type
  spec := region.spec
  params := region.params
  state := region.state
  initialized := region.initialized
  outputs := region.outputs.map (fun _ output => output.buffer)
  inputs := region.inputs.map (fun _ input => (input.buffer.type, input.required))

/-- What is lasting is told without a look at links and levels. -/
theorem essence_linkFree : LinkFree (essence (κ := κ)) where
  rewire _ _ _ := by simp only [essence, rewire, NameMap.map_map]
  level _ _ := rfl

/-- Outputs of regions with the same essence have the same contents. -/
theorem output_of_essence (first second : Region κ) (same : first.essence = second.essence)
    (name : String) :
    (first.outputs.get? name).map Endpoint.buffer =
      (second.outputs.get? name).map Endpoint.buffer := by
  have found := congrArg (fun essence => essence.outputs.get? name) same
  simpa only [essence, NameMap.get?_map] using found

variable [Implementation κ]

/-- Starting regions of the same essence ends alike. -/
theorem start_of_essence (first second : Region κ) (same : first.essence = second.essence) :
    first.start.1.essence = second.start.1.essence ∧ first.start.2 = second.start.2 := by
  obtain ⟨name, type, spec, params, outputs, inputs, state, initialized, _, _⟩ := first
  obtain ⟨_, _, _, _, others, twins, _, _, _, _⟩ := second
  simp only [essence, Essence.mk.injEq] at same
  obtain ⟨rfl, rfl, rfl, rfl, rfl, rfl, outputsSame, inputsSame⟩ := same
  cases initialized with
  | true => simp [start, essence, outputsSame, inputsSame]
  | false =>
    rcases begun : Implementation.start state with ⟨next, outcome⟩
    cases outcome <;> simp [start, begun, essence, outputsSame, inputsSame]

/-- Regions of the same essence take the same parameters, with the same effect. -/
theorem setParameter_of_essence (first second : Region κ) (same : first.essence = second.essence)
    (name : String) (value : Value) :
    (first.setParameter name value).1.essence = (second.setParameter name value).1.essence ∧
      (first.setParameter name value).2 = (second.setParameter name value).2 := by
  have whole := same
  obtain ⟨region, type, spec, params, outputs, inputs, state, initialized, _, _⟩ := first
  obtain ⟨_, _, _, _, others, twins, _, _, _, _⟩ := second
  simp only [essence, Essence.mk.injEq] at same
  obtain ⟨rfl, rfl, rfl, rfl, rfl, rfl, outputsSame, inputsSame⟩ := same
  unfold setParameter checkParameter
  simp only
  split
  · exact ⟨whole, rfl⟩
  · rename_i converted _
    rcases Implementation.setParameter state name converted with ⟨next, result⟩
    cases result <;> simp [essence, outputsSame, inputsSame]

/-- What lasts of a computation follows from what is lasting about the region and from
what the implementation gets to see. -/
theorem compute_of_essence (first second : Region κ) (same : first.essence = second.essence)
    (iteration : UInt64) (profiling other : Bool)
    (exchanges : first.exchange iteration = second.exchange iteration) :
    (first.compute iteration profiling).1.essence = (second.compute iteration other).1.essence ∧
      (first.compute iteration profiling).2 = (second.compute iteration other).2 := by
  have kept (region : Region κ) (mark : Bool) :
      (region.compute iteration mark).1.essence = { region.essence with
        state := (Implementation.compute region.state (region.exchange iteration)).state
        outputs := region.essence.outputs.map (fun name buffer =>
          buffer.refill (((Implementation.compute region.state
            (region.exchange iteration)).exchange.outputs.get? name).getD buffer)) } := by
    have types (input : Input) (contents : Buffer) :
        (input.buffer.refill contents).type = input.buffer.type :=
      (input.buffer.refill_shape contents).1
    unfold compute
    simp only
    split
    · split <;> simp only [essence, absorb, NameMap.map_map, Input.withBuffer, types]
    · simp only [essence, absorb, NameMap.map_map, Input.withBuffer, types]
  have states : first.state = second.state := congrArg Essence.state same
  constructor
  · rw [kept, kept, same, states, exchanges]
  · rw [compute_result, compute_result, states, exchanges]

end Region

namespace Network

/-! ### Links told by their specifications -/

/-- An output has links exactly if some specification leaves it. -/
theorem output_isLinked (network : Network κ) (sound : network.wiring.Sound) (region : Region κ)
    (member : region ∈ network.regions) (name : String) (output : Endpoint)
    (found : region.outputs.get? name = some output) :
    output.isLinked = (network.links.map Link.spec).any
      (fun spec => spec.source = region.name ∧ spec.output = name) := by
  rw [Endpoint.isLinked, network.output_links sound region member name output found,
    Bool.eq_iff_iff]
  simp [Wiring.leaving, wiring]

/-- An input has links exactly if some specification enters it. -/
theorem input_isLinked (network : Network κ) (sound : network.wiring.Sound) (region : Region κ)
    (member : region ∈ network.regions) (name : String) (input : Input)
    (found : region.inputs.get? name = some input) :
    input.isLinked = (network.links.map Link.spec).any
      (fun spec => spec.destination = region.name ∧ spec.input = name) := by
  rw [Endpoint.isLinked, network.input_links sound region member name input found,
    Bool.eq_iff_iff]
  simp [Wiring.entering, wiring]

/-! ### Likeness -/

/-- Networks whose regions agree in what is lasting have the same names. -/
theorem names_of_essences (first second : Network κ)
    (essences : first.regions.map Region.essence = second.regions.map Region.essence) :
    first.regions.map Region.name = second.regions.map Region.name := by
  have read (network : Network κ) : network.regions.map Region.name =
      (network.regions.map Region.essence).map Essence.name := by
    rw [List.map_map]
    rfl
  rw [read, read, essences]

/-- Networks that agree in what is lasting. -/
structure Alike (first second : Network κ) : Prop where
  regions : first.regions.map Region.essence = second.regions.map Region.essence
  index : first.index = second.index
  links : first.links.map (fun link => (link.spec, link.pending)) =
    second.links.map (fun link => (link.spec, link.pending))
  iteration : first.iteration = second.iteration

namespace Alike

variable {first second third : Network κ}

/-- Likeness goes both ways. -/
theorem symm (alike : first.Alike second) : second.Alike first :=
  ⟨alike.regions.symm, alike.index.symm, alike.links.symm, alike.iteration.symm⟩

/-- Likeness is passed on. -/
theorem trans (alike : first.Alike second) (further : second.Alike third) : first.Alike third :=
  ⟨alike.regions.trans further.regions, alike.index.trans further.index,
    alike.links.trans further.links, alike.iteration.trans further.iteration⟩

/-- Alike networks have links of the same specifications. -/
theorem specs (alike : first.Alike second) :
    first.links.map Link.spec = second.links.map Link.spec := by
  have read (network : Network κ) : network.links.map Link.spec =
      (network.links.map (fun link => (link.spec, link.pending))).map Prod.fst := by
    rw [List.map_map]
    rfl
  rw [read, read, alike.links]

/-- At every position stand regions of the same essence. -/
theorem at_position (alike : first.Alike second) (index : Nat) :
    (first.regions[index]?).map Region.essence = (second.regions[index]?).map Region.essence := by
  rw [← List.getElem?_map, ← List.getElem?_map, alike.regions]

/-- Under every name stand regions of the same essence. -/
theorem region (alike : first.Alike second) (name : String) :
    (first.region name).map Region.essence = (second.region name).map Region.essence := by
  have found (network : Network κ) : (network.region name).map Region.essence =
      match (network.index.get? name).bind ((network.regions.map Region.essence)[·]?) with
      | some essence => .ok essence
      | none => .error (.unknownRegion name) := by
    have mapped : (network.index.get? name).bind ((network.regions.map Region.essence)[·]?) =
        ((network.position? name).bind (network.regions[·]?)).map Region.essence := by
      simp only [position?, List.getElem?_map, Option.map_bind, Function.comp_def]
    rw [mapped, Network.region]
    cases (network.position? name).bind (network.regions[·]?) <;> rfl
  rw [found, found, alike.regions, alike.index]

/-- Links of the same specification start from the same contents. -/
theorem live (alike : first.Alike second) (link other : Link) (specs : link.spec = other.spec) :
    first.live link = second.live other := by
  have same := alike.region link.spec.source
  unfold Network.live sourceBuffer
  rw [← specs]
  cases here : first.region link.spec.source with
  | error fault =>
    cases there : second.region link.spec.source with
    | error another => rfl
    | ok source =>
      rw [here, there] at same
      cases same
  | ok source =>
    cases there : second.region link.spec.source with
    | error another =>
      rw [here, there] at same
      cases same
    | ok twin =>
      rw [here, there] at same
      have output := source.output_of_essence twin (Except.ok.inj same) link.spec.output
      simp only [Traversal.ok_bind, Region.output]
      cases hereOutput : source.outputs.get? link.spec.output with
      | none =>
        rw [hereOutput] at output
        rw [Option.map_eq_none_iff.mp output.symm]
        rfl
      | some endpoint =>
        rw [hereOutput] at output
        obtain ⟨twinEndpoint, thereOutput, buffers⟩ := Option.map_eq_some_iff.mp output.symm
        rw [thereOutput]
        exact buffers.symm

/-- The links that enter an input agree. -/
theorem entering (alike : first.Alike second) (region input : String) :
    (first.entering region input).map (fun link => (link.spec, link.pending)) =
      (second.entering region input).map (fun link => (link.spec, link.pending)) := by
  have read (network : Network κ) :
      (network.entering region input).map (fun link => (link.spec, link.pending)) =
        (network.links.map (fun link => (link.spec, link.pending))).filter
          (fun pair => pair.1.destination = region ∧ pair.1.input = input) := by
    rw [Network.entering, List.filter_map]
    rfl
  rw [read, read, alike.links]

end Alike

end Network

end RegionGraph
