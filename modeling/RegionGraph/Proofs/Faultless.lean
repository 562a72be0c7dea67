import RegionGraph.Proofs.Accesses
import RegionGraph.Proofs.Answers
import RegionGraph.Proofs.Dataflow
import RegionGraph.Proofs.Twins

/-!
# Networks of built-in regions do not fail

The buffers of a region are those that its type describes, at all times, so a computation
finds all that it asks for if an accumulator has as many sums as its output has elements.
The sums are brought to the length of the input, whatever they were restored from, and
building makes the output as long as the input. Nothing but a change of the topology gives
endpoints another length, so once such a network was built every computation succeeds, and
with it every run.
-/

namespace RegionGraph

variable {κ : Type}

namespace Builtin

/-! ### What regions of built-in types have -/

/-- The endpoints that a built-in type declares have different names. -/
theorem distinct_of_stock : ∀ type ∈ types.map Prod.snd,
    (type.spec.outputs.map Prod.fst).Nodup ∧ (type.spec.inputs.map Prod.fst).Nodup := by
  decide

section Conforming

variable (kind : String → Option (RegionType Builtin)) (stock : Stock kind)
  (region : Region Builtin) (conforms : Conforms kind region.core)

include stock conforms

/-- A region has every output that is declared, with the declared type. -/
theorem output_of_declared (name : String) (declared : OutputSpec)
    (described : region.spec.output? name = some declared) :
    ∃ output, region.outputs.get? name = some output ∧ output.buffer.type = declared.type := by
  obtain ⟨type, offered, same, _⟩ := conforms.typed
  have distinct : (region.spec.outputs.map Prod.fst).Nodup :=
    (show region.spec = type.spec from same) ▸ (distinct_of_stock type (stock _ type offered)).1
  have made := NameMap.get?_ofList_table region.spec.outputs distinct
    (fun name declared => Endpoint.new region.name name declared.type declared.isDefault) name
  rw [show region.spec.outputs.lookup name = some declared from described] at made
  have types := congrArg (fun outputs => outputs.get? name) conforms.outputs
  simp only [Region.core, Region.new, NameMap.get?_map, made, Option.map_some] at types
  exact Option.map_eq_some_iff.mp types

/-- A region has every input that is declared, with the declared type. -/
theorem input_of_declared (name : String) (declared : InputSpec)
    (described : region.spec.input? name = some declared) :
    ∃ input, region.inputs.get? name = some input ∧ input.buffer.type = declared.type := by
  obtain ⟨type, offered, same, _⟩ := conforms.typed
  have distinct : (region.spec.inputs.map Prod.fst).Nodup :=
    (show region.spec = type.spec from same) ▸ (distinct_of_stock type (stock _ type offered)).2
  have made := NameMap.get?_ofList_table region.spec.inputs distinct
    (fun name declared =>
      Input.new region.name name declared.type declared.required declared.isDefault) name
  rw [show region.spec.inputs.lookup name = some declared from described] at made
  have types := congrArg (fun inputs => inputs.get? name) conforms.inputs
  simp only [Region.core, Region.new, NameMap.get?_map, made, Option.map_some] at types
  obtain ⟨input, found, told⟩ := Option.map_eq_some_iff.mp types
  exact ⟨input, found, congrArg Prod.fst told⟩

omit stock in
/-- The specification of a region declares all that its computations ask for. -/
theorem declared_of_conforms : region.state.Declared region.spec := by
  obtain ⟨type, _, same, configured⟩ := conforms.typed
  exact (show region.spec = type.spec from same) ▸ declared_of_configured type _ _ configured

/-- The computations of a region find all buffers that they ask for. -/
theorem holds_of_conforms (iteration : UInt64) :
    (∀ access ∈ region.state.reads, (region.exchange iteration).inputs.Holds access) ∧
      ∀ access ∈ region.state.writes, (region.exchange iteration).outputs.Holds access := by
  have declares := declared_of_conforms kind region conforms
  constructor
  · intro access asked
    obtain ⟨declared, described, type⟩ := Option.map_eq_some_iff.mp (declares.reads access asked)
    obtain ⟨input, found, same⟩ :=
      input_of_declared kind stock region conforms access.1 declared described
    refine ⟨input.buffer, ?_, same.trans type⟩
    rw [Region.exchange, NameMap.get?_map, found, Option.map_some]
  · intro access asked
    obtain ⟨declared, described, type⟩ := Option.map_eq_some_iff.mp (declares.writes access asked)
    obtain ⟨output, found, same⟩ :=
      output_of_declared kind stock region conforms access.1 declared described
    refine ⟨output.buffer, ?_, same.trans type⟩
    rw [Region.exchange, NameMap.get?_map, found, Option.map_some]

end Conforming

end Builtin

/-! ### Lengths that are answers -/

namespace Region

variable [Implementation κ]

/-- The outputs of a region have the lengths that it answers for the lengths of its inputs. -/
def Answered (region : Region κ) : Prop :=
  ∀ name output, region.outputs.get? name = some output →
    region.outputCount? name (region.inputs.map (fun _ input => input.buffer.length)) =
      some output.buffer.length

/-- Whether outputs have the lengths that are answered is told by the frame and by what the
implementation answers. -/
theorem answered_of_frame (first second : Region κ) (frame : second.frame = first.frame)
    (state : second.state = first.state) (answered : first.Answered) : second.Answered := by
  intro name output found
  have widths : second.inputs.map (fun _ input => input.buffer.length) =
      first.inputs.map (fun _ input => input.buffer.length) := by
    have told := congrArg (fun frame => frame.inputs.map (fun _ input => input.1.length)) frame
    simpa only [Region.frame, NameMap.map_map, Endpoint.form] using told
  have spec : second.spec = first.spec := congrArg Frame.spec frame
  have forms := congrArg (fun frame => frame.outputs.get? name) frame
  simp only [Region.frame, NameMap.get?_map, found, Option.map_some] at forms
  obtain ⟨former, present, form⟩ := Option.map_eq_some_iff.mp forms.symm
  have length : former.buffer.length = output.buffer.length := congrArg Form.length form
  have answer := answered name former present
  rw [length] at answer
  simpa only [outputCount?, widths, spec, state] using answer

end Region

namespace Network

/-- Where outputs have the lengths that were counted, the live contents of a link have the
length that was counted for its source. -/
theorem sourceCount_of_exact (network : Network κ) (sound : network.wiring.Sound)
    (counts : OutputCounts) (exact : network.Exact counts) (link : Link)
    (member : link ∈ network.links) :
    (network.sourceCount counts link).getD 0 = (network.live link).length := by
  obtain ⟨index, source, output, _, located, stands, found, live⟩ :=
    network.source_position sound link member
  rw [sourceCount, located, Option.bind_some, ← live]
  exact (exact index source stands _ output found).symm

/-- Where outputs have the lengths that were planned, inputs have the lengths that were known
when regions were asked. -/
theorem widths_of_exact (network : Network κ) (sound : network.wiring.Sound)
    (shaped : network.Shaped) (plan : Plan) (fits : network.Fits plan)
    (exact : network.Exact plan.outputs) (region : Region κ) (member : region ∈ network.regions) :
    network.widths plan.outputs region =
      region.inputs.map (fun _ input => input.buffer.length) := by
  apply NameMap.ext_get?
  intro name
  rw [widths, NameMap.get?_filterMap, NameMap.get?_map]
  cases found : region.inputs.get? name with
  | none => rfl
  | some input =>
    rw [Option.bind_some, network.brought_entering plan fits, Option.map_some,
      (shaped.inputs region member name input found).2]
    refine congrArg (fun widths => some (List.sum widths)) (List.map_congr_left ?_)
    intro link enters
    rw [network.sourceCount_of_exact sound plan.outputs exact link (List.mem_of_mem_filter enters)]

variable [Implementation κ]

/-- In a steady network with an order all outputs have the lengths that their regions answer
now, whatever the order was made of: the network could be built again as it is. -/
theorem answered_of_steady (network : Network κ) (sound : network.wiring.Sound)
    (shaped : network.Shaped) (unwavering : network.Unwavering) (steady : network.Steady)
    (order : List Nat) (ordered : network.order = some order) :
    ∀ region ∈ network.regions, region.Answered := by
  obtain ⟨plan, planned, _, exact⟩ := steady order ordered
  have fits := network.fits_of_plan sound plan planned
  have stands := (network.finds_of_plan sound plan planned).stands unwavering sound
  intro region member name output present
  obtain ⟨index, found⟩ := List.mem_iff_getElem?.mp member
  obtain ⟨counts, counted, bound⟩ := fits.outputs index region found
  obtain ⟨count, known⟩ := (bound name).mpr ⟨output, present⟩
  have noted : told plan.outputs index name = some count := by
    rw [told, counted, Option.getD_some, known]
  have length := exact index region found name output present
  rw [← told, noted, Option.getD_some] at length
  rw [length, ← network.widths_of_exact sound shaped plan fits exact region member]
  exact stands index region found name count noted

end Network

/-! ### Computations of built-in regions -/

namespace Builtin

/-- An accumulator answers that its output is as long as its input. -/
theorem outputCount?_accumulator (kind : String → Option (RegionType Builtin))
    (region : Region Builtin) (conforms : Conforms kind region.core) (accumulator : Accumulator)
    (same : region.state = .accumulator accumulator) (widths : NameMap Nat) :
    region.outputCount? "sum" widths = widths.get? "in" := by
  obtain ⟨type, _, described, configured⟩ := conforms.typed
  rw [show region.core.state = .accumulator accumulator from same] at configured
  cases configured
  rw [Region.outputCount?, show region.spec = Accumulator.spec from described, same]
  rfl

/-- A region of a built-in type whose outputs have the lengths that it answers finds all that
its computations ask for. -/
theorem served_of_answered (kind : String → Option (RegionType Builtin)) (stock : Stock kind)
    (region : Region Builtin) (conforms : Conforms kind region.core) (answered : region.Answered)
    (iteration : UInt64) : region.state.Served (region.exchange iteration) := by
  obtain ⟨reads, writes⟩ := holds_of_conforms kind stock region conforms iteration
  refine ⟨reads, writes, ?_⟩
  intro accumulator same elements output read shown
  rw [Region.exchange, NameMap.get?_map] at shown
  obtain ⟨endpoint, found, rfl⟩ := Option.map_eq_some_iff.mp shown
  have answer := answered "sum" endpoint found
  rw [outputCount?_accumulator kind region conforms accumulator same, NameMap.get?_map] at answer
  obtain ⟨input, present, level⟩ := Option.map_eq_some_iff.mp answer
  rw [Accumulator.length_add, ← level]
  rcases (region.exchange iteration).readInput_cases .int32 "in" with
    ⟨buffer, others, here, _, readToo, length⟩ | ⟨_, fault, refused⟩
  · rw [Region.exchange, NameMap.get?_map, present, Option.map_some] at here
    cases here
    cases read.symm.trans readToo
    exact length.symm
  · cases read.symm.trans refused

end Builtin

namespace Network

/-- Every call that leaves the topology as it is leads from a reachable network to another. -/
theorem reachable_of_working [Implementation κ] (usable : Registry κ → Prop)
    (network later : Network κ) (reachable : Reachable usable network)
    (worked : Relation.ReflTransGen Working network later) : Reachable usable later := by
  induction worked with
  | refl => exact reachable
  | tail _ working before =>
    cases working with
    | build => exact .step _ _ before (.build _)
    | run ω _ cycles watchers => exact .step _ _ before (.run ω _ cycles watchers)
    | stop => exact .step _ _ before (.stop _)
    | setParameter _ region name value => exact .step _ _ before (.setParameter _ region name value)
    | refusedRegion _ _ registry later name type params fault refused =>
      exact (Network.addRegion_error _ _ registry later name type params fault refused).symm ▸ before
    | refusedRegionRemoval _ _ name _ refused =>
      have next := Reachable.step _ _ before (.removeRegion _ name)
      rwa [refused] at next
    | refusedLink _ _ spec _ refused =>
      have next := Reachable.step _ _ before (.addLink _ spec)
      rwa [refused] at next
    | refusedLinkRemoval _ _ id _ refused =>
      have next := Reachable.step _ _ before (.removeLink _ id)
      rwa [refused] at next

variable (kind : String → Option (RegionType Builtin))

/-- What keeps computations from failing: the network is built and could be built again as it
is, and its regions are as their types describe them. -/
structure Sturdy (network : Network Builtin) (order : List Nat) : Prop where
  sound : network.wiring.Sound
  built : network.Built order
  ordered : network.order = some order
  steady : network.Steady
  conforms : ∀ region ∈ network.regions, Builtin.Conforms kind region.core

section Sturdy

variable {kind} {network : Network Builtin} {order : List Nat}

/-- A network stays sturdy while regions evolve within their frames and it stays built. -/
theorem Sturdy.of_evolves (sturdy : network.Sturdy kind order) (after : Network Builtin)
    (wiring : after.wiring = network.wiring) (evolves : network.Evolves after)
    (frames : after.regions.map Region.frame = network.regions.map Region.frame)
    (ordered : after.order = network.order) (built : after.Built order) :
    after.Sturdy kind order where
  sound := wiring ▸ sturdy.sound
  built := built
  ordered := ordered.trans sturdy.ordered
  steady := steady_of_evolves network after sturdy.sound wiring evolves frames ordered sturdy.steady
  conforms := by
    intro region member
    obtain ⟨former, present, evolved⟩ := evolves.descends region member
    exact Builtin.conforms_of_evolves kind former region evolved (sturdy.conforms former present)

/-- Computing in order keeps a network sturdy, also if a computation were to fail. -/
theorem Sturdy.stepAll (sturdy : network.Sturdy kind order) (turns : List Nat) :
    ((Network.stepAll turns).run network).2.Sturdy kind order := by
  exact sturdy.of_evolves _ (wiring_stepAll turns network) (evolves_stepAll turns network)
    (frames_stepAll turns network) (links_stepAll turns network).2.2
    (built_stepAll order turns network sturdy.built)

/-- A cycle keeps a network sturdy. -/
theorem Sturdy.cycle (sturdy : network.Sturdy kind order) :
    ((Network.cycle order).run network).2.Sturdy kind order := by
  obtain ⟨built, ordered, _⟩ := cycle_of_built order network sturdy.sound sturdy.built
  exact sturdy.of_evolves _ (wiring_cycle order network) (evolves_cycle order network)
    (frames_cycle order network) ordered built

/-- Cycles keep a network sturdy. -/
theorem Sturdy.afterCycles (sturdy : network.Sturdy kind order) (cycles : Nat) :
    (Network.afterCycles order cycles network).Sturdy kind order := by
  induction cycles with
  | zero => exact sturdy
  | succ cycles inductionHypothesis =>
    rw [afterCycles_succ]
    exact inductionHypothesis.cycle

/-- In a sturdy network the outputs of a region whose inputs were filled have the lengths that it
answers. -/
theorem Sturdy.answered (sturdy : network.Sturdy kind order) (region filled : Region Builtin)
    (member : region ∈ network.regions) (fills : network.fillInputs region = (.ok (), filled)) :
    filled.Answered := by
  have frame := network.frame_fillInputs region
  have core := Region.core_fillInputs network region
  rw [fills] at frame core
  exact region.answered_of_frame filled frame (congrArg Core.state core)
    (network.answered_of_steady sturdy.sound sturdy.built.shaped
      (fun region _ => region.state.unwavering) sturdy.steady order sturdy.ordered region member)

/-- In a sturdy network a region whose inputs were filled finds all that its computation asks
for, and its specification declares it. -/
theorem Sturdy.served (stock : Builtin.Stock kind) (sturdy : network.Sturdy kind order)
    (region filled : Region Builtin) (member : region ∈ network.regions)
    (fills : network.fillInputs region = (.ok (), filled)) (iteration : UInt64) :
    filled.state.Declared filled.spec ∧ filled.state.Served (filled.exchange iteration) := by
  have core := Region.core_fillInputs network region
  rw [fills] at core
  have conforms : Builtin.Conforms kind filled.core := core.symm ▸ sturdy.conforms region member
  exact ⟨Builtin.declared_of_conforms kind filled conforms,
    Builtin.served_of_answered kind stock filled conforms
      (sturdy.answered region filled member fills) iteration⟩

/-- No computation of a sturdy network fails. -/
theorem Sturdy.not_computeFails (stock : Builtin.Stock kind) (sturdy : network.Sturdy kind order)
    (turns : List Nat) (fault : GraphError) : ¬network.ComputeFails turns fault := by
  rintro ⟨earlier, index, _, middle, region, filled, cause, _, reached, found, fills, answer, _⟩
  have sturdyThen := sturdy.stepAll earlier
  rw [reached] at sturdyThen
  have served := (sturdyThen.served stock region filled (List.mem_of_getElem? found) fills
    middle.iteration).2
  cases ((Builtin.compute_ok_iff _ _).mpr served).symm.trans answer

/-- In a cycle of a sturdy network every region gets to compute, and finds all that it asks
for. -/
theorem Sturdy.turn (stock : Builtin.Stock kind) (sturdy : network.Sturdy kind order)
    (index : Nat) (region : Region Builtin) (found : network.regions[index]? = some region) :
    ∃ middle filled, network.Turn order index region middle filled ∧
      filled.state.Declared filled.spec ∧
      filled.state.Served (filled.exchange middle.iteration) := by
  rcases computed : (Network.stepAll order).run network with ⟨outcome, after⟩
  cases outcome with
  | error fault =>
    exact absurd (stepAll_error order network after sturdy.sound sturdy.built.shaped fault computed)
      (sturdy.not_computeFails stock order fault)
  | ok _ =>
    obtain ⟨middle, filled, turn, _⟩ := turn_of_computed order network after sturdy.sound
      sturdy.built.shaped (network.topological_of_built sturdy.sound order sturdy.built) computed
      index region found
    obtain ⟨earlier, _, _, _, _, reached⟩ := turn.reached
    have sturdyThen := sturdy.stepAll earlier
    rw [reached] at sturdyThen
    exact ⟨middle, filled, turn, sturdyThen.served stock region filled
      (List.mem_of_getElem? turn.found) turn.fills middle.iteration⟩

end Sturdy

/-- A network of built-in regions that was reached in any way, loading any bundle included, and
then built does not fail until the topology is changed. Every run succeeds, however many
cycles it has and whoever watches, and building again does. In each cycle every region
computes on buffers that are there and have the types that are declared, and an accumulator
shows as many sums as its output has elements.

The network is sturdy: built, with regions that are as their types describe them and outputs
that still have the lengths that implementations answer. Turns and cycles keep it sturdy, by
induction over the order and over the cycles, and in a sturdy network every computation finds
the endpoints that it asks for, with the types and lengths that it asks for. -/
theorem faultless_of_working (stock : Builtin.Stock kind) (network built later : Network Builtin)
    (reachable : network.Reachable (fun registry => registry.Offers kind))
    (succeeded : (build (κ := Builtin)).run network = (.ok (), built))
    (worked : Relation.ReflTransGen Working built later) :
    (∀ (ω : Type) [Watcher Builtin ω] (cycles : Nat) (watchers : List ω),
      (later.run cycles watchers).result = .ok ()) ∧
    ((build (κ := Builtin)).run later).1 = .ok () ∧
    ∃ order, later.order = some order ∧ ∀ (cycle index : Nat) (region : Region Builtin),
      (afterCycles order cycle { later with state := .running }).regions[index]? = some region →
      ∃ middle filled,
        (afterCycles order cycle { later with state := .running }).Turn order index region middle
          filled ∧
        filled.state.Declared filled.spec ∧
        filled.state.Served (filled.exchange middle.iteration) := by
  obtain ⟨sound, settled, order, ordered⟩ :=
    ordered_of_working _ network built later reachable succeeded worked
  have reachableBuilt := Reachable.step _ _ reachable (.build network)
  rw [succeeded] at reachableBuilt
  have reachableLater := reachable_of_working _ built later reachableBuilt worked
  have steady := steady_of_reachable _ later reachableLater
  have sturdy : Sturdy kind { later with state := .running } order := {
    sound := sound
    built := built_of_same later _ order (settled.built order ordered) rfl rfl rfl
    ordered := ordered
    steady := steady_of_evolves later _ sound rfl (.of_cores rfl) rfl rfl steady
    conforms := Builtin.conforms_of_reachable kind stock later reachableLater }
  refine ⟨?_, ?_, order, ordered, ?_⟩
  · intro ω _ cycles watchers
    obtain ⟨_, _, failures⟩ := later.settled_run_of_order sound settled order ordered cycles watchers
    cases outcome : (later.run cycles watchers).result with
    | ok _ => rfl
    | error fault =>
      obtain ⟨done, _, _, fails⟩ := failures fault outcome
      exact absurd fails ((sturdy.afterCycles done).not_computeFails stock order fault)
  · rw [run_build]
    rcases settled.idle order ordered with state | state
    · rw [state]
    · rw [state]
      exact (later.rebuilt_of_steady sound settled steady order ordered).1
  · intro cycle index region found
    exact (sturdy.afterCycles cycle).turn stock index region found

/-- A record of a source of two elements, without its output. -/
def narrowSource : RegionRecord where
  type := "CounterSource"
  params := .ofList [("width", .scalar ⟨.uint32, 2⟩), ("start", .scalar ⟨.int32, 0⟩),
    ("step", .scalar ⟨.int32, 1⟩)]
  state := Codec.uint64.encode 5
  outputs := ∅
  initialized := true

/-- A record of an accumulator that holds three sums and shows them. -/
def threeSums : RegionRecord where
  type := "Accumulator"
  params := ∅
  state := (Codec.list Codec.int64).encode [7, 8, 9]
  outputs := .ofList [("sum", Buffer.ofList .int64 [(7 : Int64), 8, 9])]
  initialized := true

/-- A bundle in which the source feeds the accumulator, and nothing is on its way. -/
def staleSums : Bundle where
  version := Bundle.formatVersion
  metadata := ⟨0, "", "", ∅⟩
  topology := some ⟨[⟨"source", "CounterSource"⟩, ⟨"sums", "Accumulator"⟩],
    [⟨{ LinkSpec.betweenDefaults "source" "sums" with delay := 1 }, []⟩], 5⟩
  records := .ofList [("source", narrowSource), ("sums", threeSums)]

/-- The network that the bundle describes. -/
def staleChain : Network Builtin :=
  (((load staleSums default).run (Registry.registerAll ∅ Builtin.types)).1.toOption).getD
    (new default)

/-- The network with sums of a wrong number does not fail once it was built, neither while it
runs nor after its sums were cleared. -/
theorem faultless_staleChain :
    (∃ region ∈ staleChain.regions, region.state = .accumulator ⟨[7, 8, 9]⟩) ∧
    ∃ built, (build (κ := Builtin)).run staleChain = (.ok (), built) ∧
      ∀ cycles, ((((setParameter "sums" "reset" (.scalar ⟨.bool, true⟩)).run
        (built.run 3 ([] : List Empty)).network).2).run cycles ([] : List Empty)).result =
          .ok () := by
  have held : ∃ region ∈ staleChain.regions, region.state = .accumulator ⟨[7, 8, 9]⟩ := by
    decide +kernel
  have offers := Registry.offers_registerAll Builtin.types
  have reachable : staleChain.Reachable
      (fun registry => registry.Offers (fun name => Builtin.types.lookup name)) := by
    obtain ⟨network, loaded⟩ := (Traversal.isOk_iff
      ((load staleSums default).run (Registry.registerAll ∅ Builtin.types)).1).mp (by decide +kernel)
    have same : staleChain = network := by
      rw [staleChain, loaded]
      rfl
    exact same ▸ .load staleSums default _ _ network offers (Prod.ext loaded rfl)
  obtain ⟨_, builds⟩ :=
    (Traversal.isOk_iff ((build (κ := Builtin)).run staleChain).1).mp (by decide +kernel)
  have built : (build (κ := Builtin)).run staleChain =
      (.ok (), ((build (κ := Builtin)).run staleChain).2) := Prod.ext builds rfl
  refine ⟨held, _, built, fun cycles => ?_⟩
  exact (faultless_of_working _ Builtin.stock_types staleChain _ _ reachable built
    ((Relation.ReflTransGen.single (.run Empty _ 3 [])).tail (.setParameter _ "sums" "reset"
      (.scalar ⟨.bool, true⟩)))).1 Empty cycles []

end Network

end RegionGraph
