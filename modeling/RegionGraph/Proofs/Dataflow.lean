import RegionGraph.Proofs.Propagation
import RegionGraph.Proofs.Turns

/-!
# The meaning of a network

What a region receives in a cycle is told without buffers that are used again, without
running offsets and without snapshots that move: every link shows what its source held
some cycles ago, and an input receives the pieces that its links hand on, in the order
of links. Before enough cycles have passed a delayed link shows what it held at the
start. What implementations write into their inputs is received by nobody.
-/

namespace RegionGraph

variable {κ ω : Type}

/-- The type and the elements of a buffer, with or without a mark of storage. -/
def Buffer.contents (buffer : Buffer) : (type : ElementType) × List type.Carrier :=
  ⟨buffer.type, buffer.elements⟩

namespace Link

/-- What a link hands on depends on its specification and the contents. -/
theorem handsOn_of_contents (first second : Link) (specs : first.spec = second.spec)
    (type : ElementType) (one other : Buffer) (same : one.contents = other.contents) :
    first.handsOn type one = second.handsOn type other := by
  obtain ⟨own, elements, allocated⟩ := one
  obtain ⟨another, others, mark⟩ := other
  cases same
  unfold handsOn
  rw [specs]
  rfl

/-- A snapshot that takes the place of another has the contents of what it shows. -/
theorem contents_reuse (storage live : Buffer) : (reuse storage live).contents = live.contents := by
  obtain ⟨own, elements, allocated⟩ := storage
  obtain ⟨type, others, mark⟩ := live
  unfold reuse
  split
  · rename_i lengths
    by_cases types : type = own
    · cases types
      have inside : ¬ elements.length < 0 + others.length := by
        rw [Nat.zero_add]
        exact Nat.not_lt.mpr (Nat.le_of_eq lengths.symm)
      have copied : (⟨own, elements, allocated⟩ : Buffer).copyFrom ⟨own, others, mark⟩ =
          .ok ⟨own, others, allocated⟩ := by
        rw [Buffer.copyFrom, if_pos lengths.symm]
        simp only [Buffer.copyInto, Reindex.widthFor, Reindex.selectFor, Buffer.length,
          Option.elim_none, inside, if_false, dite_true]
        rw [Buffer.overwrite_all elements others lengths.symm]
        rfl
      rw [copied]
      rfl
    · have refused : (⟨own, elements, allocated⟩ : Buffer).copyFrom ⟨type, others, mark⟩ =
          .error (.typeMismatch own type) := by
        rw [Buffer.copyFrom, if_pos lengths.symm]
        simp only [Buffer.copyInto, types, dite_false]
        rfl
      rw [refused]
  · rfl

end Link

namespace Network

/-- The live contents of a link depend on its specification. -/
theorem live_of_spec (network : Network κ) (first second : Link)
    (specs : first.spec = second.spec) : network.live first = network.live second := by
  simp only [live, sourceBuffer, specs]

variable [Implementation κ]

/-! ### What links show -/

/-- What a link of a network shows in a cycle, counted from the network: as long as
the cycle is earlier than its delay one of the snapshots that it holds, and then what
its source held at the end of the cycle that is the delay earlier. Without a delay that
is the end of the same cycle. -/
def shown (order : List Nat) (network : Network κ) (cycle : Nat) (link : Link) : Buffer :=
  if cycle < link.delay then link.pending[cycle]?.getD default
  else (afterCycles order (cycle + 1 - link.delay) network).live link

/-- A link of a network after a number of cycles. -/
def carried (order : List Nat) (network : Network κ) : Nat → Link → Link
  | 0, link => link
  | cycle + 1, link =>
    (carried order network cycle link).shift ((afterCycles order (cycle + 1) network).live link)

/-- Links keep their specifications. -/
theorem carried_spec (order : List Nat) (network : Network κ) (cycle : Nat) (link : Link) :
    (carried order network cycle link).spec = link.spec := by
  induction cycle with
  | zero => rfl
  | succ cycle inductionHypothesis =>
    exact (congrArg Prod.snd (shift_id_spec _ _)).trans inductionHypothesis

/-- The snapshots of a delayed link are what it shows in the next cycles, one after the
other: every cycle takes the first away and adds what is shown a delay later. -/
theorem contents_carried (order : List Nat) (network : Network κ) (link : Link)
    (delayed : link.isDelayed = true) (full : link.pending.length = link.delay) (cycle : Nat) :
    (carried order network cycle link).pending.map Buffer.contents =
      (List.range link.delay).map (fun ahead =>
        (shown order network (cycle + ahead) link).contents) := by
  induction cycle with
  | zero =>
    apply List.ext_getElem
    · simp only [carried, List.length_map, List.length_range, full]
    · intro place inside within
      rw [List.length_map, List.length_range] at within
      have held : place < link.pending.length := full ▸ within
      simp [carried, shown, within, List.getElem?_eq_getElem held]
  | succ cycle inductionHypothesis =>
    have positive : link.delay ≠ 0 := by simpa [Link.isDelayed] using delayed
    obtain ⟨rest, more⟩ := Nat.exists_eq_succ_of_ne_zero positive
    have moving : (carried order network cycle link).isDelayed = true := by
      rw [Link.isDelayed, Link.delay, carried_spec]
      exact delayed
    rw [more, List.range_succ_eq_map, List.map_cons, List.map_map] at inductionHypothesis
    obtain ⟨oldest, others, held, _, ahead⟩ := List.map_eq_cons_iff.mp inductionHypothesis
    have newest : shown order network (cycle + 1 + rest) link =
        (afterCycles order (cycle + 1) network).live link := by
      unfold shown
      rw [if_neg (by omega), show cycle + 1 + rest + 1 - link.delay = cycle + 1 by omega]
    rw [carried, Link.shift, if_pos moving, held, more, List.range_succ, List.map_append,
      List.map_append, ahead]
    simp only [List.map_singleton, Link.contents_reuse, newest]
    congr 1
    apply List.map_congr_left
    intro place _
    simp only [Function.comp_apply, Nat.succ_eq_add_one, Nat.add_assoc, Nat.add_comm 1]

/-- What the reader of a link sees in a cycle is what the link shows; for a direct
link that is so where its source has had its turn. -/
theorem contents_visible (order : List Nat) (network : Network κ) (link : Link) (cycle : Nat)
    (full : link.isDelayed = true → link.pending.length = link.delay) (live : Buffer)
    (written : link.isDelayed = false → live = (afterCycles order (cycle + 1) network).live link) :
    ((carried order network cycle link).visible live).contents =
      (shown order network cycle link).contents := by
  have kind : (carried order network cycle link).isDelayed = link.isDelayed := by
    rw [Link.isDelayed, Link.delay, carried_spec]
    rfl
  unfold Link.visible
  rw [kind]
  by_cases delayed : link.isDelayed = true
  · rw [if_pos delayed]
    have held := contents_carried order network link delayed (full delayed) cycle
    have positive : link.delay ≠ 0 := by simpa [Link.isDelayed] using delayed
    obtain ⟨rest, more⟩ := Nat.exists_eq_succ_of_ne_zero positive
    rw [more, List.range_succ_eq_map, List.map_cons] at held
    obtain ⟨oldest, others, front, first, _⟩ := List.map_eq_cons_iff.mp held
    rw [front]
    exact first
  · have direct : link.delay = 0 := by simpa [Link.isDelayed] using delayed
    rw [if_neg delayed, written (Bool.not_eq_true _ ▸ delayed)]
    simp [shown, direct]

/-! ### Cycles one after the other -/

/-- One more cycle comes last. -/
theorem afterCycles_succ (order : List Nat) (cycle : Nat) (network : Network κ) :
    afterCycles order (cycle + 1) network =
      ((Network.cycle order).run (afterCycles order cycle network)).2 := by
  induction cycle generalizing network with
  | zero => rfl
  | succ cycle inductionHypothesis =>
    rw [afterCycles, inductionHypothesis]
    rfl

/-- Cycles keep a network soundly wired and built. -/
theorem built_afterCycles (order : List Nat) (cycle : Nat) (network : Network κ)
    (sound : network.wiring.Sound) (built : network.Built order) :
    (afterCycles order cycle network).wiring.Sound ∧
      (afterCycles order cycle network).Built order := by
  induction cycle with
  | zero => exact ⟨sound, built⟩
  | succ cycle inductionHypothesis =>
    obtain ⟨soundBefore, builtBefore⟩ := inductionHypothesis
    rw [afterCycles_succ, wiring_cycle]
    exact ⟨soundBefore, (cycle_of_built order _ soundBefore builtBefore).1⟩

/-- A completed cycle is all computations and then the moving on of links. -/
theorem cycle_completed (order : List Nat) (cycles cycle : Nat) (network : Network κ)
    (sound : network.wiring.Sound) (built : network.Built order)
    (completed : Completes order cycles network) (earlier : cycle < cycles) :
    ∃ after, (stepAll order).run (afterCycles order cycle network) = (.ok (), after) ∧
      afterCycles order (cycle + 1) network = after.moved := by
  have succeeded := completed cycle earlier
  obtain ⟨soundBefore, _⟩ := built_afterCycles order cycle network sound built
  rw [afterCycles_succ]
  rcases computed : (stepAll order).run (afterCycles order cycle network) with ⟨outcome, after⟩
  cases outcome with
  | error fault =>
    rw [run_cycle, computed] at succeeded
    cases succeeded
  | ok _ =>
    refine ⟨after, rfl, ?_⟩
    rw [cycle_of_computed order _ after soundBefore computed]

/-- Completed cycles carry every link along and are counted. -/
theorem links_afterCycles (order : List Nat) (cycles cycle : Nat) (network : Network κ)
    (sound : network.wiring.Sound) (built : network.Built order)
    (completed : Completes order cycles network) (bound : cycle ≤ cycles) :
    (afterCycles order cycle network).links = network.links.map (carried order network cycle) ∧
      (afterCycles order cycle network).iteration =
        network.iteration + UInt64.ofNat cycle := by
  induction cycle with
  | zero =>
    refine ⟨(List.map_id _).symm, ?_⟩
    exact (UInt64.add_zero _).symm
  | succ cycle inductionHypothesis =>
    obtain ⟨links, iteration⟩ := inductionHypothesis (by omega)
    obtain ⟨after, computed, moved⟩ :=
      cycle_completed order cycles cycle network sound built completed bound
    obtain ⟨kept, counted, _⟩ := links_stepAll order (afterCycles order cycle network)
    rw [computed] at kept counted
    have live (link : Link) :
        after.live link = (afterCycles order (cycle + 1) network).live link := by
      rw [moved]
      rfl
    constructor
    · rw [moved, Network.moved]
      simp only [live]
      simp only at kept
      rw [kept, links, List.map_map]
      apply List.map_congr_left
      intro link _
      simp only [Function.comp_apply, carried]
      rw [live_of_spec _ _ link (carried_spec order network cycle link)]
    · rw [moved, Network.moved]
      simp only at counted ⊢
      rw [counted, iteration, UInt64.add_assoc, UInt64.ofNat_add]
      rfl

/-! ### What computations receive -/

/-- What the computation of a region receives in a cycle, counted from a network. -/
structure Receives (order : List Nat) (network : Network κ) (cycle : Nat) (region : Region κ)
    (io : Exchange) : Prop where
  name : io.region = region.name
  /-- Cycles are counted on. -/
  iteration : io.iteration = network.iteration + UInt64.ofNat cycle
  connected : io.connected =
    (region.inputs.entries.filter (fun entry => entry.2.isLinked)).map Prod.fst
  /-- An input holds what its links hand on of what they show, in the order of links. -/
  inputs : ∀ name input, region.inputs.get? name = some input →
    ∃ pieces, List.Forall₂ (fun link piece =>
        link.handsOn input.buffer.type (shown order network cycle link) = .ok piece)
        (network.entering region.name name) pieces ∧
      io.inputs.get? name = some (Buffer.ofList input.buffer.type pieces.flatten)
  /-- Outputs are as the region left them. -/
  outputs : io.outputs = region.outputs.map (fun _ output => output.buffer)

/-- In the turn of a reader the source of a direct link shows what it keeps to the end
of the cycle. -/
theorem live_of_turn (order : List Nat) (network after : Network κ)
    (sound : network.wiring.Sound) (topological : network.Topological order)
    (computed : (stepAll order).run network = (.ok (), after)) (index : Nat)
    (region : Region κ) (middle : Network κ) (filled : Region κ)
    (turn : network.Turn order index region middle filled) (link : Link)
    (member : link ∈ network.links) (direct : link.isDelayed = false)
    (reader : region.name = link.spec.destination) : middle.live link = after.live link := by
  obtain ⟨earlier, later, split, _, _, reached⟩ := turn.reached
  have kept := aftermath_stepAll earlier network
  rw [reached] at kept
  have soundMiddle : middle.wiring.Sound := kept.wiring ▸ sound
  have fits := topological_of_wiring network middle order kept.wiring topological
  obtain ⟨position, before, source, sourceFound, named⟩ :=
    middle.direct_source_earlier soundMiddle order fits link (kept.links ▸ member) direct earlier
      later index region split turn.found reader
  have rest := aftermath_stepAll (index :: later) middle
  rw [split, run_stepAll_append, reached] at computed
  simp only at computed
  rw [computed] at rest
  have stays := rest.elsewhere position ((topological.once split).1 position before)
  exact (middle.live_of_same_source after (middle.indexed_of_sound soundMiddle)
    (after.indexed_of_sound (rest.wiring ▸ soundMiddle)) link position source sourceFound stays
    named).symm

/-- In a completed cycle a region receives what its links hand on. -/
theorem receives_of_turn (order : List Nat) (cycles cycle : Nat) (network : Network κ)
    (sound : network.wiring.Sound) (built : network.Built order)
    (completed : Completes order cycles network) (earlier : cycle < cycles) (index : Nat)
    (region : Region κ) (middle : Network κ) (filled : Region κ)
    (turn : (afterCycles order cycle network).Turn order index region middle filled) :
    Receives order network cycle region (filled.exchange middle.iteration) := by
  obtain ⟨after, computed, moved⟩ :=
    cycle_completed order cycles cycle network sound built completed earlier
  obtain ⟨soundBefore, builtBefore⟩ := built_afterCycles order cycle network sound built
  obtain ⟨links, iteration⟩ := links_afterCycles order cycles cycle network sound built completed
    (Nat.le_of_lt earlier)
  have live := live_of_turn order _ after soundBefore
    (topological_of_built _ soundBefore order builtBefore) computed index region middle filled turn
  obtain ⟨first, later, split, absent, _, reached⟩ := turn.reached
  have builtMiddle := built_stepAll order first (afterCycles order cycle network) builtBefore
  have wiringMiddle := wiring_stepAll first (afterCycles order cycle network)
  obtain ⟨linksMiddle, iterationMiddle, _⟩ := links_stepAll first (afterCycles order cycle network)
  rw [reached] at builtMiddle wiringMiddle linksMiddle iterationMiddle
  simp only at builtMiddle wiringMiddle linksMiddle iterationMiddle
  obtain ⟨fill, fills, rfl⟩ := (middle.fillInputs_ok_iff region filled).mp turn.fills
  constructor
  · rfl
  · rw [← iteration, ← iterationMiddle]
    rfl
  · simp only [Region.exchange, NameMap.map, List.filter_map, List.map_map, Function.comp_def]
    rfl
  · intro name input found
    obtain ⟨pieces, handed, filling⟩ := middle.fillBuffer_of_shaped (wiringMiddle ▸ soundBefore)
      builtMiddle.shaped region (List.mem_of_getElem? turn.found) name input found
    refine ⟨pieces, ?_, ?_⟩
    · have enters : middle.entering region.name name =
          (network.entering region.name name).map (carried order network cycle) := by
        simp only [entering, linksMiddle, links, List.filter_map, Function.comp_def, carried_spec]
      rw [enters, List.forall₂_map_left_iff] at handed
      refine ((List.forall₂_and_left _ _).mpr ⟨fun _ member => member, handed⟩).imp ?_
      rintro link piece ⟨member, hands⟩
      obtain ⟨present, ends⟩ := List.mem_filter.mp member
      have reader := (of_decide_eq_true ends).1
      have seen := contents_visible order network link cycle
        (fun delayed => (built.shaped.pending link present delayed).1)
        (middle.live (carried order network cycle link)) (by
          intro direct
          rw [middle.live_of_spec _ link (carried_spec order network cycle link), moved]
          have carries := live (carried order network cycle link)
            (links ▸ List.mem_map_of_mem present)
          rw [middle.live_of_spec _ link (carried_spec order network cycle link),
            after.live_of_spec _ link (carried_spec order network cycle link)] at carries
          refine carries ?_ ?_
          · rw [Link.isDelayed, Link.delay, carried_spec]
            exact direct
          · rw [carried_spec]
            exact reader.symm)
      rw [← hands]
      exact link.handsOn_of_contents (carried order network cycle link)
        (carried_spec order network cycle link).symm input.buffer.type _ _ seen.symm
    · have same := (fills name input found).symm.trans filling
      replace same := (Prod.mk.inj same).2
      simp only [Region.exchange, NameMap.get?_map, found, Option.map_some, Input.withBuffer, same]
  · rfl

/-- What a region keeps of a computation: the state, and the contents of outputs as far
as they have the shape of before. -/
structure Keeps (region : Region κ) (io : Exchange) (next : Region κ) : Prop where
  state : next.state = (Implementation.compute region.state io).state
  outputs : next.outputs = region.outputs.map (fun name output =>
    { output with
      buffer := output.buffer.refill
        (((Implementation.compute region.state io).exchange.outputs.get? name).getD
          output.buffer) })

/-- A region keeps what its computation made. -/
theorem keeps_compute (region : Region κ) (iteration : UInt64) (profiling : Bool) :
    Keeps region (region.exchange iteration) (region.compute iteration profiling).1 := by
  unfold Region.compute
  simp only
  split
  · split <;> exact ⟨rfl, rfl⟩
  · exact ⟨rfl, rfl⟩

/-- In a completed cycle every region has its turn, receives what its links hand on,
and keeps what it makes of it. -/
theorem turn_of_cycle (order : List Nat) (cycles cycle : Nat) (network : Network κ)
    (sound : network.wiring.Sound) (built : network.Built order)
    (completed : Completes order cycles network) (earlier : cycle < cycles) (index : Nat)
    (region : Region κ) (found : (afterCycles order cycle network).regions[index]? = some region) :
    ∃ middle filled next,
      (afterCycles order cycle network).Turn order index region middle filled ∧
      Receives order network cycle region (filled.exchange middle.iteration) ∧
      (afterCycles order (cycle + 1) network).regions[index]? = some next ∧
      Keeps region (filled.exchange middle.iteration) next := by
  obtain ⟨after, computed, moved⟩ :=
    cycle_completed order cycles cycle network sound built completed earlier
  obtain ⟨soundBefore, builtBefore⟩ := built_afterCycles order cycle network sound built
  obtain ⟨middle, filled, turn, kept⟩ :=
    turn_of_computed order _ after soundBefore builtBefore.shaped
      (topological_of_built _ soundBefore order builtBefore) computed index region found
  refine ⟨middle, filled, _, turn, receives_of_turn order cycles cycle network sound built completed
    earlier index region middle filled turn, (by rw [moved]; exact kept), ?_⟩
  obtain ⟨fill, _, rfl⟩ := (middle.fillInputs_ok_iff region filled).mp turn.fills
  obtain ⟨state, outputs⟩ := keeps_compute
    { region with
      inputs := region.inputs.map (fun name input => input.withBuffer (fill name)) }
    middle.iteration middle.settings.profiling
  exact ⟨state, outputs⟩

/-! ### Runs and new links -/

/-- A run that ends without a fault and without a halt has completed all its cycles. -/
theorem runCycles_completed [Watcher κ ω] (order : List Nat) (cycles : Nat) (network : Network κ)
    (watchers : List ω) (succeeded : (runCycles order cycles network watchers).result = .ok ())
    (unhalted : (runCycles order cycles network watchers).network.state = .initialized) :
    Completes order cycles network ∧
      (runCycles order cycles network watchers).network =
        { afterCycles order cycles network with state := .initialized } := by
  induction cycles generalizing network watchers with
  | zero => exact ⟨fun _ impossible => absurd impossible (Nat.not_lt_zero _), rfl⟩
  | succ more inductionHypothesis =>
    unfold runCycles at succeeded unhalted ⊢
    rcases cycled : (Network.cycle order).run network with ⟨outcome, after⟩
    simp only [cycled] at succeeded unhalted ⊢
    cases outcome with
    | error fault => cases succeeded
    | ok _ =>
      simp only at succeeded unhalted ⊢
      rcases told : after.notifyAll watchers with ⟨informed, control⟩
      simp only [told] at succeeded unhalted ⊢
      cases control with
      | halt => cases unhalted
      | «continue» =>
        obtain ⟨completed, ended⟩ := inductionHypothesis after informed succeeded unhalted
        refine ⟨?_, ?_⟩
        · rintro (_ | done) bound
          · exact congrArg Prod.fst cycled
          · rw [afterCycles, cycled]
            exact completed done (Nat.lt_of_succ_lt_succ bound)
        · rw [afterCycles, cycled]
          exact ended

/-- A delayed link on which nothing is on its way is filled with zeros in the shape of
its source when the network is built. -/
theorem zeros_of_build (network built : Network κ) (sound : network.wiring.Sound)
    (settled : network.Settled) (succeeded : (build (κ := κ)).run network = (.ok (), built))
    (link : Link) (member : link ∈ network.links) (delayed : link.isDelayed = true)
    (fresh : link.pending = []) :
    ∃ ready ∈ built.links, ready.id = link.id ∧ ready.spec = link.spec ∧
      ready.pending = List.replicate link.delay
        (Buffer.zeroed (built.live link).type (built.live link).length) := by
  have worked (made : network.rebuilt = (.ok (), built)) :
      ∃ ready ∈ built.links, ready.id = link.id ∧ ready.spec = link.spec ∧
        ready.pending = List.replicate link.delay
          (Buffer.zeroed (built.live link).type (built.live link).length) := by
    obtain ⟨plan, _, _, rfl⟩ := (network.rebuilt_ok_iff built sound).mp made
    refine ⟨link.prepare ((network.sizedRegions plan).live link), ?_, ?_⟩
    · refine List.mem_map.mpr ⟨link, member, ?_⟩
      rw [if_pos delayed]
    · have extent := extent_live_of_frames (network.builtBy plan) (network.sized plan)
        (network.frames_builtBy plan) rfl link link rfl
      have positive : link.delay ≠ 0 := by simpa [Link.isDelayed] using delayed
      have short : ¬ (link.pending.length = link.delay ∧
          link.pending.all (fun snapshot =>
            snapshot.type == ((network.sizedRegions plan).live link).type &&
              snapshot.length == ((network.sizedRegions plan).live link).length) = true) := by
        rintro ⟨length, _⟩
        rw [fresh] at length
        exact positive length.symm
      rw [Link.prepare, if_neg short]
      refine ⟨rfl, rfl, ?_⟩
      obtain ⟨type, length⟩ := Prod.mk.inj extent
      rw [type, length]
      rfl
  rw [run_build] at succeeded
  cases lifecycle : network.state with
  | initialized =>
    rcases Option.eq_none_or_eq_some network.order with absent | ⟨order, ordered⟩
    · cases (settled.fresh absent).symm.trans lifecycle
    · have full := ((settled.built order ordered).shaped.pending link member delayed).1
      have positive : link.delay ≠ 0 := by simpa [Link.isDelayed] using delayed
      rw [fresh] at full
      exact absurd full.symm positive
  | running =>
    rw [lifecycle] at succeeded
    cases succeeded
  | unbuilt =>
    rw [lifecycle] at succeeded
    exact worked succeeded
  | stopped =>
    rw [lifecycle] at succeeded
    exact worked succeeded

/-- From a successful build until the topology is changed, a network means dataflow. A
run that ends without a fault and without a halt is as many completed cycles. In every
completed cycle every region computes once, on what the links of its inputs hand on of
what they show, in the order of their numbers, and on its own state and outputs; it
keeps the state and the outputs that the computation made. Delayed links on which
nothing was on its way before the build show zeros at first.

What a cycle does to one region is read off its turn: the regions before it have computed, so
the sources of its direct links hold what they made in this cycle, and delayed links show what
is oldest in them. By induction over the cycles a delayed link has by then moved on as often as
there were cycles, so what it shows came from its source as many cycles ago as it delays. -/
theorem dataflow_of_working (usable : Registry κ → Prop) (former built network : Network κ)
    (reachable : Reachable usable former)
    (succeeded : (build (κ := κ)).run former = (.ok (), built))
    (worked : Relation.ReflTransGen Working built network) :
    (∀ link ∈ former.links, link.isDelayed = true → link.pending = [] →
      ∃ ready ∈ built.links, ready.id = link.id ∧ ready.spec = link.spec ∧
        ready.pending = List.replicate link.delay
          (Buffer.zeroed (built.live link).type (built.live link).length)) ∧
    network.links.Pairwise (fun earlier later => earlier.id.number < later.id.number) ∧
    ∃ order, network.order = some order ∧
      (∀ (ω : Type) [Watcher κ ω] (cycles : Nat) (watchers : List ω),
        (network.run cycles watchers).result = .ok () →
        (network.run cycles watchers).network.state = .initialized →
        Completes order cycles { network with state := .running } ∧
          (network.run cycles watchers).network =
            { afterCycles order cycles { network with state := .running } with
              state := .initialized }) ∧
      ∀ cycles, Completes order cycles { network with state := .running } →
        ∀ cycle < cycles, ∀ (index : Nat) (region : Region κ),
          (afterCycles order cycle { network with state := .running }).regions[index]? =
            some region →
          ∃ middle filled next,
            (afterCycles order cycle { network with state := .running }).Turn order index region
              middle filled ∧
            Receives order { network with state := .running } cycle region
              (filled.exchange middle.iteration) ∧
            (afterCycles order (cycle + 1) { network with state := .running }).regions[index]? =
              some next ∧
            Keeps region (filled.exchange middle.iteration) next := by
  obtain ⟨sound, settled, order, ordered⟩ :=
    ordered_of_working usable former built network reachable succeeded worked
  refine ⟨?_, network.links_ascending sound, order, ordered, ?_, ?_⟩
  · intro link member delayed fresh
    exact former.zeros_of_build built (sound_of_reachable usable former reachable)
      (settled_of_reachable usable former reachable) succeeded link member delayed fresh
  · intro ω _ cycles watchers succeeded unhalted
    rw [network.run_of_order order ordered] at succeeded unhalted ⊢
    exact runCycles_completed order cycles _ watchers succeeded unhalted
  · intro cycles completed cycle earlier index region found
    have running := built_of_same network { network with state := .running } order
      (settled.built order ordered) rfl rfl rfl
    exact turn_of_cycle order cycles cycle { network with state := .running } sound running
      completed earlier index region found

/-- The late reader of the chain has its turn in the third cycle of four. -/
theorem dataflow_builtChain : ∃ region io,
    (afterCycles [0, 1] 2 { builtChain with state := .running }).regions[1]? = some region ∧
      Receives [0, 1] { builtChain with state := .running } 2 region io := by
  obtain ⟨_, _, order, ordered, runs, turns⟩ := dataflow_of_working (fun _ => True) lateChain
    builtChain builtChain (reachable_lateChain _ trivial) build_lateChain .refl
  have known : builtChain.order = some [0, 1] := by decide +kernel
  cases ordered.symm.trans known
  obtain ⟨completed, _⟩ := runs Empty 4 [] (by decide +kernel) (by decide +kernel)
  obtain ⟨region, found⟩ := Option.isSome_iff_exists.mp (show
    ((afterCycles [0, 1] 2 { builtChain with state := .running }).regions[1]?).isSome = true from
      by decide +kernel)
  obtain ⟨middle, filled, _, _, received, _⟩ := turns 4 completed 2 (by decide) 1 region found
  exact ⟨region, _, found, received⟩

end Network

end RegionGraph
