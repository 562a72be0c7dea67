import RegionGraph.Proofs.Steady

/-!
# Alike networks stay alike

Two networks that are alike and built show their implementations the same exchanges, so
they compute the same, fail the same and are alike afterwards. The same holds of
parameters that are set in both and of starting their regions. A fault of a computation
does not mention links, so it is the same fault.
-/

namespace RegionGraph

variable {κ ω : Type}

namespace Network

/-! ### Exchanges -/

/-- What an input receives: what its links hand on of what they show. -/
def received (network : Network κ) (region input : String) (type : ElementType) : Buffer :=
  Buffer.ofList type ((network.entering region input).flatMap (fun link =>
    (link.handsOn type (link.visible (network.live link))).toOption.getD []))

/-- In alike networks inputs receive the same. -/
theorem received_of_alike (first second : Network κ) (alike : first.Alike second)
    (region input : String) (type : ElementType) :
    first.received region input type = second.received region input type := by
  have read (network : Network κ) : network.received region input type =
      Buffer.ofList type (((network.entering region input).map
        (fun link => (link.spec, link.pending))).flatMap (fun pair =>
          ((Link.mk ⟨0⟩ pair.1 pair.2).handsOn type
            ((Link.mk ⟨0⟩ pair.1 pair.2).visible
              (network.live (Link.mk ⟨0⟩ pair.1 pair.2)))).toOption.getD [])) := by
    rw [List.flatMap_map]
    rfl
  have live (pair : LinkSpec × List Buffer) :
      first.live (Link.mk ⟨0⟩ pair.1 pair.2) = second.live (Link.mk ⟨0⟩ pair.1 pair.2) :=
    alike.live _ _ rfl
  rw [read, read, alike.entering]
  simp only [live]

/-- Pieces that are handed on one by one are handed on together. -/
theorem flatten_of_handed {α β : Type} {ε : Type} (hand : α → Except ε (List β)) (items : List α)
    (pieces : List (List β))
    (handed : List.Forall₂ (fun item piece => hand item = .ok piece) items pieces) :
    pieces.flatten = items.flatMap (fun item => (hand item).toOption.getD []) := by
  induction handed with
  | nil => rfl
  | cons here _ inductionHypothesis =>
    rw [List.flatten_cons, List.flatMap_cons, inductionHypothesis, here]
    rfl

/-- A region whose inputs hold what they receive. -/
def fed (network : Network κ) (region : Region κ) : Region κ :=
  { region with inputs := region.inputs.map (fun name input =>
      input.withBuffer (network.received region.name name input.buffer.type)) }

/-- In a shaped network filling the inputs of a region is giving them what they receive. -/
theorem fillInputs_fed (network : Network κ) (sound : network.wiring.Sound)
    (shaped : network.Shaped) (region : Region κ) (member : region ∈ network.regions) :
    network.fillInputs region = (.ok (), network.fed region) := by
  have fills : ∀ name input, region.inputs.get? name = some input →
      network.fillBuffer input.links 0 input.buffer =
        (.ok (), network.received region.name name
          (((region.inputs.get? name).map (fun input => input.buffer.type)).getD default)) := by
    intro name input found
    obtain ⟨pieces, handed, filled⟩ :=
      network.fillBuffer_of_shaped sound shaped region member name input found
    rw [filled, found, Option.map_some, Option.getD_some, received,
      ← flatten_of_handed _ _ pieces handed]
  rw [network.fillInputs_eq region _ fills, fed]
  refine congrArg (fun inputs => (Except.ok (), { region with inputs })) ?_
  apply NameMap.map_congr
  intro name input found
  rw [found, Option.map_some, Option.getD_some]

/-- In a shaped network filling the inputs of a region keeps what is lasting about it, and
its implementation gets to see what the inputs receive. -/
theorem exchange_eq (network : Network κ) (sound : network.wiring.Sound) (shaped : network.Shaped)
    (region : Region κ) (member : region ∈ network.regions) :
    ∃ filled, network.fillInputs region = (.ok (), filled) ∧ filled.essence = region.essence ∧
      ∀ iteration, filled.exchange iteration =
        { region := region.essence.name
          iteration
          connected := region.essence.inputs.names.filter (fun name =>
            (network.links.map Link.spec).any
              (fun spec => spec.destination = region.essence.name ∧ spec.input = name))
          inputs := region.essence.inputs.map (fun name declared =>
            network.received region.essence.name name declared.1)
          outputs := region.essence.outputs } := by
  refine ⟨_, network.fillInputs_fed sound shaped region member, ?_, ?_⟩
  · simp only [Region.essence, fed, NameMap.map_map, Input.withBuffer, received, Buffer.ofList]
  · intro iteration
    have connected : (region.inputs.entries.filter (fun entry => entry.2.isLinked)).map Prod.fst =
        region.inputs.names.filter (fun name => (network.links.map Link.spec).any
          (fun spec => spec.destination = region.name ∧ spec.input = name)) := by
      rw [NameMap.names, List.filter_map]
      congr 1
      apply List.filter_congr
      intro entry listed
      exact network.input_isLinked sound region member entry.1 entry.2
        (region.inputs.get?_of_mem entry listed)
    refine congr (congr (congrArg (Exchange.mk region.name iteration) ?_) ?_) rfl
    · rw [show region.essence.inputs.names = region.inputs.names from NameMap.names_map _ _]
      refine Eq.trans ?_ connected
      simp only [fed, NameMap.map, List.filter_map, List.map_map, Function.comp_def]
      rfl
    · simp only [Region.essence, fed, NameMap.map_map, Input.withBuffer]

/-! ### Turns and cycles -/

/-- Putting regions of the same essence in the same place keeps networks alike. -/
theorem alike_set (first second : Network κ) (alike : first.Alike second) (index : Nat)
    (region twin : Region κ) (same : region.essence = twin.essence) :
    Alike { first with regions := first.regions.set index region }
      { second with regions := second.regions.set index twin } where
  regions := by rw [List.map_set, List.map_set, alike.regions, same]
  index := alike.index
  links := alike.links
  iteration := alike.iteration

variable [Implementation κ]

/-- In alike networks that are shaped a turn ends alike. -/
theorem step_of_alike (first second : Network κ) (alike : first.Alike second)
    (soundFirst : first.wiring.Sound) (soundSecond : second.wiring.Sound)
    (shapedFirst : first.Shaped) (shapedSecond : second.Shaped) (index : Nat) :
    ((step index).run first).1 = ((step index).run second).1 ∧
      ((step index).run first).2.Alike ((step index).run second).2 := by
  have stands := alike.at_position index
  rw [run_step, run_step]
  cases here : first.regions[index]? with
  | none =>
    rw [here] at stands
    rw [Option.map_eq_none_iff.mp stands.symm]
    exact ⟨rfl, alike⟩
  | some region =>
    rw [here] at stands
    obtain ⟨twin, there, same⟩ := Option.map_eq_some_iff.mp stands.symm
    obtain ⟨filled, fills, kept, shows⟩ :=
      first.exchange_eq soundFirst shapedFirst region (List.mem_of_getElem? here)
    obtain ⟨other, fillsOther, keptOther, showsOther⟩ :=
      second.exchange_eq soundSecond shapedSecond twin (List.mem_of_getElem? there)
    have exchanges : filled.exchange first.iteration = other.exchange first.iteration := by
      rw [shows, showsOther, same, alike.specs]
      simp only [first.received_of_alike second alike]
    obtain ⟨computed, results⟩ := filled.compute_of_essence other
      (kept.trans (same.symm.trans keptOther.symm)) first.iteration first.settings.profiling
      second.settings.profiling exchanges
    have counted : other.compute first.iteration second.settings.profiling =
        other.compute second.iteration second.settings.profiling := by rw [alike.iteration]
    rw [counted] at computed results
    simp only [there, fills, fillsOther]
    exact ⟨results, first.alike_set second alike index _ _ computed⟩

/-- In alike networks that are shaped computing in order ends alike. -/
theorem stepAll_of_alike (order : List Nat) (first second : Network κ) (alike : first.Alike second)
    (soundFirst : first.wiring.Sound) (soundSecond : second.wiring.Sound)
    (shapedFirst : first.Shaped) (shapedSecond : second.Shaped) :
    ((stepAll order).run first).1 = ((stepAll order).run second).1 ∧
      ((stepAll order).run first).2.Alike ((stepAll order).run second).2 := by
  induction order generalizing first second with
  | nil => exact ⟨rfl, alike⟩
  | cons index rest inductionHypothesis =>
    obtain ⟨outcomes, alikeNext⟩ :=
      step_of_alike first second alike soundFirst soundSecond shapedFirst shapedSecond index
    have named := congrArg (Option.map Essence.name) (alike.at_position index)
    rw [Option.map_map, Option.map_map] at named
    obtain ⟨wiringFirst, shapedNext⟩ := first.step_keeps shapedFirst index
    obtain ⟨wiringSecond, shapedTwin⟩ := second.step_keeps shapedSecond index
    rw [run_stepAll_cons, run_stepAll_cons]
    rcases ran : (step index).run first with ⟨outcome, next⟩
    rcases ranTwin : (step index).run second with ⟨other, twin⟩
    rw [ran, ranTwin] at outcomes alikeNext
    rw [ran] at wiringFirst shapedNext
    rw [ranTwin] at wiringSecond shapedTwin
    simp only at outcomes
    subst outcomes
    cases outcome with
    | ok _ =>
      exact inductionHypothesis next twin alikeNext (wiringFirst ▸ soundFirst)
        (wiringSecond ▸ soundSecond) shapedNext shapedTwin
    | error fault =>
      refine ⟨?_, ⟨alikeNext.regions, alikeNext.index, alikeNext.links, alikeNext.iteration⟩⟩
      have same : first.regions[index]?.map Region.name = second.regions[index]?.map Region.name :=
        named
      simp only [same, alike.iteration]

omit [Implementation κ] in
/-- Links of alike networks move on alike. -/
theorem moved_of_alike (first second : Network κ) (alike : first.Alike second) :
    first.moved.Alike second.moved where
  regions := alike.regions
  index := alike.index
  links := by
    have shifted (link : Link) (live : Buffer) :
        ((link.shift live).spec, (link.shift live).pending) =
          (((Link.mk ⟨0⟩ link.spec link.pending).shift live).spec,
            ((Link.mk ⟨0⟩ link.spec link.pending).shift live).pending) := by
      obtain ⟨id, spec, pending⟩ := link
      unfold Link.shift
      simp only [Link.isDelayed, Link.delay]
      by_cases late : (spec.delay.toNat != 0) = true
      · simp only [late, if_true]
        cases pending <;> rfl
      · simp only [late]
        rfl
    have read (network : Network κ) :
        network.moved.links.map (fun link => (link.spec, link.pending)) =
          (network.links.map (fun link => (link.spec, link.pending))).map (fun pair =>
            (((Link.mk ⟨0⟩ pair.1 pair.2).shift (network.live (Link.mk ⟨0⟩ pair.1 pair.2))).spec,
              ((Link.mk ⟨0⟩ pair.1 pair.2).shift
                (network.live (Link.mk ⟨0⟩ pair.1 pair.2))).pending)) := by
      rw [moved, List.map_map, List.map_map]
      apply List.map_congr_left
      intro link _
      exact shifted link (network.live link)
    have live (pair : LinkSpec × List Buffer) :
        first.live (Link.mk ⟨0⟩ pair.1 pair.2) = second.live (Link.mk ⟨0⟩ pair.1 pair.2) :=
      alike.live _ _ rfl
    rw [read, read, alike.links]
    simp only [live]
  iteration := congrArg (· + 1) alike.iteration

/-- In alike networks that are built a cycle ends alike. -/
theorem cycle_of_alike (order : List Nat) (first second : Network κ) (alike : first.Alike second)
    (soundFirst : first.wiring.Sound) (soundSecond : second.wiring.Sound)
    (shapedFirst : first.Shaped) (shapedSecond : second.Shaped) :
    ((cycle order).run first).1 = ((cycle order).run second).1 ∧
      ((cycle order).run first).2.Alike ((cycle order).run second).2 := by
  obtain ⟨outcomes, alikeNext⟩ :=
    stepAll_of_alike order first second alike soundFirst soundSecond shapedFirst shapedSecond
  rcases computed : (stepAll order).run first with ⟨outcome, next⟩
  rcases computedTwin : (stepAll order).run second with ⟨other, twin⟩
  rw [computed, computedTwin] at outcomes alikeNext
  simp only at outcomes
  subst outcomes
  cases outcome with
  | error fault =>
    rw [run_cycle, run_cycle, computed, computedTwin]
    exact ⟨rfl, alikeNext⟩
  | ok _ =>
    rw [cycle_of_computed order first next soundFirst computed,
      cycle_of_computed order second twin soundSecond computedTwin]
    exact ⟨rfl, moved_of_alike next twin alikeNext⟩

/-- Alike networks that are built run alike when nobody watches. -/
theorem runCycles_of_alike [Watcher κ ω] (order : List Nat) (cycles : Nat)
    (first second : Network κ) (alike : first.Alike second)
    (soundFirst : first.wiring.Sound) (soundSecond : second.wiring.Sound)
    (builtFirst : first.Built order) (builtSecond : second.Built order) :
    (runCycles order cycles first ([] : List ω)).result =
        (runCycles order cycles second ([] : List ω)).result ∧
      (runCycles order cycles first ([] : List ω)).network.Alike
        (runCycles order cycles second ([] : List ω)).network := by
  induction cycles generalizing first second with
  | zero => exact ⟨rfl, alike.regions, alike.index, alike.links, alike.iteration⟩
  | succ more inductionHypothesis =>
    obtain ⟨outcomes, alikeNext⟩ := cycle_of_alike order first second alike soundFirst soundSecond
      builtFirst.shaped builtSecond.shaped
    have wiringFirst := wiring_cycle order first
    have wiringSecond := wiring_cycle order second
    have builtNext := (cycle_of_built order first soundFirst builtFirst).1
    have builtTwin := (cycle_of_built order second soundSecond builtSecond).1
    unfold runCycles
    rcases cycled : (cycle order).run first with ⟨outcome, next⟩
    rcases cycledTwin : (cycle order).run second with ⟨other, twin⟩
    rw [cycled, cycledTwin] at outcomes alikeNext
    rw [cycled] at wiringFirst builtNext
    rw [cycledTwin] at wiringSecond builtTwin
    simp only at outcomes
    subst outcomes
    cases outcome with
    | error fault => exact ⟨rfl, alikeNext⟩
    | ok _ =>
      exact inductionHypothesis next twin alikeNext (wiringFirst ▸ soundFirst)
        (wiringSecond ▸ soundSecond) builtNext builtTwin

omit [Implementation κ] in
/-- Putting regions of the same essence in the place of a name keeps networks alike. -/
theorem alike_setRegion (first second : Network κ) (alike : first.Alike second) (name : String)
    (region twin : Region κ) (same : region.essence = twin.essence) :
    (first.setRegion name region).Alike (second.setRegion name twin) := by
  have positions : second.position? name = first.position? name := by
    rw [position?, position?, alike.index]
  rw [setRegion, setRegion, positions]
  cases first.position? name with
  | none => exact alike
  | some index => exact alike_set first second alike index region twin same

/-- Alike networks take the same parameters and are alike afterwards. -/
theorem setParameter_of_alike (first second : Network κ) (alike : first.Alike second)
    (region name : String) (value : Value) :
    ((setParameter region name value).run first).1 =
        ((setParameter region name value).run second).1 ∧
      ((setParameter region name value).run first).2.Alike
        ((setParameter region name value).run second).2 := by
  have found := alike.region region
  rw [run_setParameter, run_setParameter]
  cases here : first.region region with
  | error fault =>
    cases there : second.region region with
    | error other =>
      rw [here, there] at found
      cases found
      exact ⟨rfl, alike⟩
    | ok twin =>
      rw [here, there] at found
      cases found
  | ok owner =>
    cases there : second.region region with
    | error other =>
      rw [here, there] at found
      cases found
    | ok twin =>
      rw [here, there] at found
      obtain ⟨same, results⟩ :=
        owner.setParameter_of_essence twin (Except.ok.inj found) name value
      exact ⟨results, alike_setRegion first second alike region _ _ same⟩

/-! ### Building -/

omit [Implementation κ] in
/-- Alike networks are alike after the regions were given new lengths. -/
theorem sizedRegions_of_alike (first second : Network κ) (alike : first.Alike second)
    (plan : Plan) : (first.sizedRegions plan).Alike (second.sizedRegions plan) where
  regions := by
    have read (network : Network κ) : (network.sizedRegions plan).regions.map Region.essence =
        (network.regions.map Region.essence).mapIdx (fun index essence => { essence with
          outputs := essence.outputs.map (fun name buffer =>
            buffer.sized (((plan.outputs[index]?.getD ∅).get? name).getD 0)) }) := by
      apply List.ext_getElem?
      intro index
      rw [sizedRegions, List.getElem?_map, List.getElem?_mapIdx, List.getElem?_mapIdx,
        List.getElem?_map]
      cases network.regions[index]? with
      | none => rfl
      | some region =>
        simp only [Option.map_some, Region.essence, sizedRegion, Region.sized, NameMap.map_map,
          Input.withBuffer, Buffer.sized_type]
    rw [read, read, alike.regions]
  index := alike.index
  links := alike.links
  iteration := alike.iteration

omit [Implementation κ] in
/-- Alike networks are alike after they were given new lengths. -/
theorem sized_of_alike (first second : Network κ) (alike : first.Alike second) (plan : Plan) :
    (first.sized plan).Alike (second.sized plan) where
  regions := (sizedRegions_of_alike first second alike plan).regions
  index := alike.index
  links := by
    have prepared (link : Link) (live : Buffer) : ((link.prepare live).spec,
        (link.prepare live).pending) = (link.spec, ((Link.mk ⟨0⟩ link.spec link.pending).prepare
          live).pending) := by
      obtain ⟨id, spec, pending⟩ := link
      by_cases fits : pending.length = spec.delay.toNat ∧ (pending.all fun snapshot =>
          snapshot.type == live.type && snapshot.length == live.length) = true
      · have here (id : LinkId) : (Link.mk id spec pending).prepare live = ⟨id, spec, pending⟩ :=
          if_pos fits
        rw [here, here]
      · have here (id : LinkId) : (Link.mk id spec pending).prepare live =
            ⟨id, spec, List.replicate spec.delay.toNat (.zeroed live.type live.length)⟩ := if_neg fits
        rw [here, here]
    have read (network : Network κ) :
        (network.sized plan).links.map (fun link => (link.spec, link.pending)) =
          (network.links.map (fun link => (link.spec, link.pending))).map (fun pair =>
            if (Link.mk ⟨0⟩ pair.1 pair.2).isDelayed then
              (pair.1, ((Link.mk ⟨0⟩ pair.1 pair.2).prepare
                ((network.sizedRegions plan).live (Link.mk ⟨0⟩ pair.1 pair.2))).pending)
            else pair) := by
      rw [sized, List.map_map, List.map_map]
      apply List.map_congr_left
      intro link _
      simp only [Function.comp_apply]
      by_cases late : link.isDelayed = true
      · rw [if_pos late, prepared]
        exact (if_pos (show (Link.mk ⟨0⟩ link.spec link.pending).isDelayed = true from late)).symm
      · rw [if_neg late]
        exact (if_neg (show ¬ (Link.mk ⟨0⟩ link.spec link.pending).isDelayed = true from late)).symm
    have live (pair : LinkSpec × List Buffer) :
        (first.sizedRegions plan).live (Link.mk ⟨0⟩ pair.1 pair.2) =
          (second.sizedRegions plan).live (Link.mk ⟨0⟩ pair.1 pair.2) :=
      (sizedRegions_of_alike first second alike plan).live _ _ rfl
    rw [read, read, alike.links]
    simp only [live]
  iteration := alike.iteration

/-- Alike networks start alike. -/
theorem startAll_of_alike (order : List Nat) (first second : Network κ)
    (alike : first.Alike second) :
    ((order.forM startAt).run first).1 = ((order.forM startAt).run second).1 ∧
      ((order.forM startAt).run first).2.Alike ((order.forM startAt).run second).2 := by
  induction order generalizing first second with
  | nil => exact ⟨rfl, alike⟩
  | cons index rest inductionHypothesis =>
    have stands := alike.at_position index
    rw [List.forM_eq_forM, List.forM_cons, Edit.run_bind, Edit.run_bind, run_startAt, run_startAt]
    cases here : first.regions[index]? with
    | none =>
      rw [here] at stands
      rw [Option.map_eq_none_iff.mp stands.symm]
      exact inductionHypothesis first second alike
    | some region =>
      rw [here] at stands
      obtain ⟨twin, there, same⟩ := Option.map_eq_some_iff.mp stands.symm
      obtain ⟨started, results⟩ := region.start_of_essence twin same.symm
      have placed := first.alike_set second alike index _ _ started
      simp only [there]
      rw [results]
      cases twin.start.2 with
      | error fault => exact ⟨rfl, placed⟩
      | ok _ => exact inductionHypothesis _ _ placed

/-- Building alike networks anew ends alike, with the same order. -/
theorem rebuilt_of_alike (first second : Network κ) (alike : first.Alike second)
    (soundFirst : first.wiring.Sound) (soundSecond : second.wiring.Sound) :
    Agree first.rebuilt.1 second.rebuilt.1 ∧ first.rebuilt.2.Alike second.rebuilt.2 ∧
      (first.rebuilt.1 = .ok () → second.rebuilt.2.order = first.rebuilt.2.order) := by
  have plans := plan_of_alike first second alike soundFirst soundSecond
  unfold rebuilt
  cases planned : first.plan with
  | error fault =>
    cases plannedTwin : second.plan with
    | ok plan =>
      rw [planned, plannedTwin] at plans
      cases plans
    | error other =>
      rw [planned, plannedTwin] at plans
      exact ⟨congrArg Except.error (Except.error.inj plans), alike, fun impossible => by
        cases impossible⟩
  | ok plan =>
    have plannedTwin := plans.ok plan planned
    rw [plannedTwin]
    simp only [first.shape_of_fits soundFirst plan (first.fits_of_plan soundFirst plan planned),
      second.shape_of_fits soundSecond plan (second.fits_of_plan soundSecond plan plannedTwin)]
    obtain ⟨outcomes, alikeNext⟩ := startAll_of_alike plan.schedule.order _ _
      (sized_of_alike first second alike plan)
    rcases started : (plan.schedule.order.forM startAt).run (first.sized plan) with ⟨outcome, next⟩
    rcases startedTwin : (plan.schedule.order.forM startAt).run (second.sized plan) with
      ⟨other, twin⟩
    rw [started, startedTwin] at outcomes alikeNext
    simp only at outcomes
    subst outcomes
    cases outcome with
    | error fault => exact ⟨rfl, alikeNext, fun impossible => by cases impossible⟩
    | ok _ =>
      exact ⟨rfl, ⟨alikeNext.regions, alikeNext.index, alikeNext.links, alikeNext.iteration⟩,
        fun _ => rfl⟩

omit [Implementation κ] in
/-- New lengths change nothing that lasts in a shaped network whose outputs have them. -/
theorem sized_of_exact (network : Network κ) (shaped : network.Shaped) (plan : Plan)
    (exact : network.Exact plan.outputs) : network.Alike (network.sized plan) := by
  have regions : network.Alike (network.sizedRegions plan) := by
    refine ⟨?_, rfl, rfl, rfl⟩
    apply List.ext_getElem?
    intro index
    rw [sizedRegions, List.getElem?_map, List.getElem?_map, List.getElem?_mapIdx]
    cases found : network.regions[index]? with
    | none => rfl
    | some region =>
      have kept : (region.outputs.map (fun name output =>
          output.buffer.sized (((plan.outputs[index]?.getD ∅).get? name).getD 0))) =
          region.outputs.map (fun _ output => output.buffer) := by
        apply NameMap.map_congr
        intro name output present
        exact if_pos ⟨shaped.outputs region (List.mem_of_getElem? found) name output present,
          exact index region found name output present⟩
      simp only [Option.map_some, Region.essence, sizedRegion, Region.sized, NameMap.map_map,
        Input.withBuffer, Buffer.sized_type, kept]
  refine ⟨regions.regions, rfl, ?_, rfl⟩
  rw [sized, List.map_map]
  apply List.map_congr_left
  intro link member
  simp only [Function.comp_apply]
  by_cases late : link.isDelayed = true
  · obtain ⟨count, like⟩ := shaped.pending link member late
    have kept := link.prepare_eq_self ((network.sizedRegions plan).live link) count
      (fun snapshot listed => regions.live link link rfl ▸ like snapshot listed)
    rw [if_pos late, kept]
  · rw [if_neg late]

/-- Building a steady network with an order anew changes nothing that lasts. -/
theorem rebuilt_of_steady (network : Network κ) (sound : network.wiring.Sound)
    (settled : network.Settled) (steady : network.Steady) (order : List Nat)
    (ordered : network.order = some order) :
    network.rebuilt.1 = .ok () ∧ network.Alike network.rebuilt.2 ∧
      network.rebuilt.2.order = some order := by
  obtain ⟨plan, planned, rfl, exact⟩ := steady order ordered
  have built := settled.built _ ordered
  have sized := network.sized_of_exact built.shaped plan exact
  rw [network.rebuilt_of_built sound _ built plan planned]
  exact ⟨rfl, ⟨sized.regions, sized.index, sized.links, sized.iteration⟩, rfl⟩

end Network

end RegionGraph
