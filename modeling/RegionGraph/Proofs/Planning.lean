import RegionGraph.Proofs.Alike
import RegionGraph.Proofs.Building

/-!
# What plans depend on

The checks before building look at little of a network: at names, at which inputs are
required, at the lengths that are declared or that implementations tell, at the
specifications of links, and last at the lengths that outputs have. What memory has to
hold is told by the lengths that were found and the specifications. Networks that agree
in this get the same plan or the same fault, except that a fault may name a link by
another number.
-/

namespace RegionGraph

variable {κ : Type}

/-- A fault without the numbers of links. -/
def GraphError.unnumbered : GraphError → GraphError
  | .alreadyAttached _ region endpoint => .alreadyAttached ⟨0⟩ region endpoint
  | .missingLink _ => .missingLink ⟨0⟩
  | .notAttached _ region endpoint => .notAttached ⟨0⟩ region endpoint
  | .reindexOutOfRange _ spec cause => .reindexOutOfRange ⟨0⟩ spec cause
  | .computeFailure region cycle cause => .computeFailure region cycle cause.unnumbered
  | fault => fault

/-- Two outcomes agree if they are the same up to numbers of links in a fault. -/
def Agree {α : Type} (first second : Except GraphError α) : Prop :=
  first.mapError GraphError.unnumbered = second.mapError GraphError.unnumbered

namespace Agree

variable {α β : Type}

/-- The same outcomes agree. -/
theorem of_eq {first second : Except GraphError α} (same : first = second) :
    Agree first second := congrArg (Except.mapError GraphError.unnumbered) same

/-- Computations that agree step by step agree. -/
theorem bind {first second : Except GraphError α} {next other : α → Except GraphError β}
    (agree : Agree first second) (further : ∀ value, Agree (next value) (other value)) :
    Agree (first >>= next) (second >>= other) := by
  cases first with
  | error fault =>
    cases second with
    | error another => exact congrArg Except.error (Except.error.inj agree)
    | ok value => cases agree
  | ok value =>
    cases second with
    | error another => cases agree
    | ok result =>
      cases Except.ok.inj agree
      exact further value

/-- Checks that agree item by item agree. -/
theorem forM {check other : α → Except GraphError Unit} (items : List α)
    (agree : ∀ item ∈ items, Agree (check item) (other item)) :
    Agree (items.forM check) (items.forM other) := by
  induction items with
  | nil => rfl
  | cons item rest inductionHypothesis =>
    simp only [List.forM_eq_forM, List.forM_cons] at inductionHypothesis ⊢
    exact bind (agree item List.mem_cons_self) (fun _ =>
      inductionHypothesis (fun other member => agree other (List.mem_cons_of_mem item member)))

/-- A value that one of two agreeing outcomes gives is given by the other. -/
theorem ok {first second : Except GraphError α} (agree : Agree first second) (value : α)
    (succeeded : first = .ok value) : second = .ok value := by
  rw [succeeded] at agree
  cases second with
  | error fault => cases agree
  | ok other => rw [Except.ok.inj agree]

end Agree

/-- What planning looks at in a region. -/
structure Outline where
  name : String
  /-- Whether each input has to be connected. -/
  inputs : NameMap Bool
  outputs : List String
  /-- Lengths of outputs, given lengths of inputs. -/
  counts : String → NameMap Nat → Option Nat
  /-- Declared lengths of inputs. -/
  expected : String → Nat

/-- What planning looks at in a region. -/
def Region.outline [Implementation κ] (region : Region κ) : Outline where
  name := region.name
  inputs := region.inputs.map (fun _ input => input.required)
  outputs := region.outputs.names
  counts := region.outputCount?
  expected := fun name => ((region.spec.input? name).map InputSpec.count).getD 0

/-- What planning looks at is lasting about a region. -/
def Essence.outline [Implementation κ] (essence : Essence κ) : Outline where
  name := essence.name
  inputs := essence.inputs.map (fun _ declared => declared.2)
  outputs := essence.outputs.names
  counts := fun output widths =>
    match essence.spec.output? output with
    | none => none
    | some declared =>
      if 0 < declared.count then some declared.count
      else Implementation.outputCount? essence.state output widths
  expected := fun name => ((essence.spec.input? name).map InputSpec.count).getD 0

/-- Planning looks at the same in a region and in what is lasting about it. -/
theorem Region.outline_of_essence [Implementation κ] (region : Region κ) :
    region.outline = region.essence.outline := by
  simp only [outline, Essence.outline, essence, NameMap.map_map, NameMap.names_map]
  rfl

/-- The check of the inputs of a region, given the specifications of all links and what
links bring to each input. -/
def Outline.inputCounts (outline : Outline) (specs : List LinkSpec)
    (brought : String → String → Option Nat) : Except GraphError (NameMap Nat) := do
  let widths := outline.inputs.filterMap (fun name _ => brought outline.name name)
  outline.inputs.names.forM (fun name =>
    let expected := outline.expected name
    let actual := (widths.get? name).getD 0
    if specs.any (fun spec => spec.destination = outline.name ∧ spec.input = name) ∧
        0 < expected ∧ actual ≠ expected then
      throw (.elementCountMismatch outline.name name expected actual)
    else pure ())
  return widths

namespace Network

/-! ### Lengths of outputs -/

/-- Networks that agree in their index and in specifications find the same lengths of
sources. -/
theorem brought_congr (first second : Network κ) (index : first.index = second.index)
    (counts : OutputCounts) (links others : List Link)
    (specs : links.map Link.spec = others.map Link.spec) :
    first.brought counts links = second.brought counts others := by
  have position (name : String) : first.position? name = second.position? name := by
    rw [position?, position?, index]
  induction links generalizing others with
  | nil =>
    rw [List.map_nil, eq_comm, List.map_eq_nil_iff] at specs
    rw [specs]
    rfl
  | cons link rest inductionHypothesis =>
    rw [List.map_cons, eq_comm, List.map_eq_cons_iff] at specs
    obtain ⟨other, more, rfl, same, tails⟩ := specs
    have source : first.sourceCount counts link = second.sourceCount counts other := by
      rw [sourceCount, sourceCount, position, same]
    have width : link.width = other.width := by
      unfold Link.width
      rw [same]
    rw [brought, brought, source, inductionHypothesis more tails.symm, width]

/-- Networks that agree in specifications have links of the same specifications enter
an input. -/
theorem entering_specs (first second : Network κ)
    (specs : first.links.map Link.spec = second.links.map Link.spec) (region input : String) :
    (first.entering region input).map Link.spec = (second.entering region input).map Link.spec := by
  have read (network : Network κ) : (network.entering region input).map Link.spec =
      (network.links.map Link.spec).filter
        (fun spec => spec.destination = region ∧ spec.input = input) := by
    rw [entering, List.filter_map]
    rfl
  rw [read, read, specs]

variable [Implementation κ]

/-- The known lengths of the inputs of a region, told by its outline. -/
theorem knownWidths_outline (network : Network κ) (sound : network.wiring.Sound)
    (counts : OutputCounts) (region : Region κ) (member : region ∈ network.regions) :
    network.knownWidths counts region = .ok (region.outline.inputs.filterMap
      (fun name _ => network.brought counts (network.entering region.outline.name name))) := by
  rw [network.knownWidths_eq sound counts region member, Except.ok.injEq]
  apply NameMap.ext_get?
  intro name
  rw [NameMap.get?_filterMap, NameMap.get?_filterMap, Region.outline, NameMap.get?_map]
  cases region.inputs.get? name <;> rfl

/-- A visit, told by outlines. -/
theorem visit_outline (network : Network κ) (sound : network.wiring.Sound)
    (counts : OutputCounts) (index : Nat) :
    network.visit counts index = .ok (
      match (network.regions.map Region.outline)[index]? with
      | none => counts
      | some outline =>
        if (outline.outputs.filter
            (fun name => !(counts[index]?.getD ∅).contains name)).isEmpty then counts
        else counts.set index ((outline.outputs.filter
            (fun name => !(counts[index]?.getD ∅).contains name)).foldl
          (fun known name => known.note name (outline.counts name (outline.inputs.filterMap
            (fun name _ => network.brought counts (network.entering outline.name name)))))
          (counts[index]?.getD ∅))) := by
  rw [network.visit_eq sound counts index, List.getElem?_map]
  cases found : network.regions[index]? with
  | none => rfl
  | some region =>
    have widths := network.knownWidths_outline sound counts region (List.mem_of_getElem? found)
    rw [network.knownWidths_eq sound counts region (List.mem_of_getElem? found),
      Except.ok.injEq] at widths
    simp only [widths, decideAll]
    rfl

section Congruence

variable (first second : Network κ) (soundFirst : first.wiring.Sound)
  (soundSecond : second.wiring.Sound)
  (outlines : first.regions.map Region.outline = second.regions.map Region.outline)
  (specs : first.links.map Link.spec = second.links.map Link.spec)

include outlines in
/-- Regions of the same outlines have the same names. -/
theorem names_of_outlines :
    first.regions.map Region.name = second.regions.map Region.name := by
  have read (network : Network κ) : network.regions.map Region.name =
      (network.regions.map Region.outline).map Outline.name := by
    rw [List.map_map]
    rfl
  rw [read, read, outlines]

include soundFirst soundSecond outlines specs in
/-- The search for lengths finds the same. -/
theorem outputCounts_congr (order : List Nat) :
    first.outputCounts order = second.outputCounts order := by
  have index := first.index_congr second soundFirst soundSecond
    (names_of_outlines first second outlines)
  have visits : first.visit = second.visit := by
    funext counts position
    rw [first.visit_outline soundFirst, second.visit_outline soundSecond, outlines]
    have brings (region input : String) :
        first.brought counts (first.entering region input) =
          second.brought counts (second.entering region input) :=
      brought_congr first second index counts _ _ (entering_specs first second specs region input)
    simp only [brings]
  have settles : first.settle = second.settle := by
    funext order rounds
    induction rounds with
    | zero => rfl
    | succ more inductionHypothesis =>
      funext counts
      simp only [settle, visits, inductionHypothesis]
  have totals (network : Network κ) :
      network.regions.map (fun region => region.outputs.size) =
        (network.regions.map Region.outline).map (fun outline => outline.outputs.length) := by
    rw [List.map_map]
    apply List.map_congr_left
    intro region _
    exact (List.length_map _).symm
  have starts (network : Network κ) : network.regions.map (fun _ => (∅ : NameMap Nat)) =
      (network.regions.map Region.outline).map (fun _ => ∅) := by
    rw [List.map_map]
    rfl
  have undecided (counts : OutputCounts) : first.undecided? counts = second.undecided? counts := by
    have read (network : Network κ) : network.undecided? counts =
        ((network.regions.map Region.outline).zip counts).findSome? (fun entry =>
          (entry.1.outputs.find? (fun name => !entry.2.contains name)).map (entry.1.name, ·)) := by
      rw [List.zip_map_left, List.findSome?_map]
      rfl
    rw [read, read, outlines]
  unfold outputCounts
  rw [totals, totals, starts, starts, settles, outlines]
  simp only [undecided]

end Congruence

/-! ### The other checks -/

/-- The demands of a region, told by its outline. -/
theorem demands_outline (network : Network κ) (sound : network.wiring.Sound) (region : Region κ)
    (member : region ∈ network.regions) :
    region.demands = (region.outline.name, region.outline.inputs.map (fun name required =>
      required && !(network.links.map Link.spec).any
        (fun spec => spec.destination = region.outline.name ∧ spec.input = name))) := by
  simp only [Region.demands, Region.outline, NameMap.map_map]
  congr 1
  apply NameMap.map_congr
  intro name input found
  rw [network.input_isLinked sound region member name input found]
  rfl

/-- The lengths of the inputs of a region, told by its outline. -/
theorem inputCounts_outline (network : Network κ) (sound : network.wiring.Sound)
    (counts : OutputCounts) (region : Region κ) (member : region ∈ network.regions) :
    network.inputCounts counts region = region.outline.inputCounts (network.links.map Link.spec)
      (fun region input => network.brought counts (network.entering region input)) := by
  have names : region.outline.inputs.names = region.inputs.entries.map Prod.fst :=
    NameMap.names_map _ _
  rw [inputCounts, network.knownWidths_outline sound counts region member, Traversal.ok_bind]
  unfold Outline.inputCounts
  dsimp only
  simp only [names, List.forM_eq_forM, List.forM_map]
  refine congrArg (fun checks => checks >>= fun _ => Except.ok _) ?_
  rw [← List.forM_eq_forM]
  refine Traversal.forM_congr _ _ region.inputs.entries ?_
  intro entry listed
  have linked := network.input_isLinked sound region member entry.1 entry.2
    (region.inputs.get?_of_mem entry listed)
  simp only [linked]
  rfl

omit [Implementation κ] in
/-- Whether rules stay inside their sources is told by the index and specifications. -/
theorem checkReindex_agree (network : Network κ) (counts : OutputCounts) :
    Agree (network.checkReindex counts) ((network.links.map Link.spec).forM (fun spec =>
      match spec.reindex with
      | none => .ok ()
      | some rule => do
        let source ← positionIn network.index spec.source
        let length := ((counts[source]?.getD ∅).get? spec.output).getD 0
        (rule.validate length).mapError (.reindexOutOfRange ⟨0⟩ spec))) := by
  rw [checkReindex, List.forM_eq_forM, List.forM_eq_forM, List.forM_map, ← List.forM_eq_forM]
  refine Agree.forM network.links ?_
  intro link _
  cases link.spec.reindex with
  | none => exact Agree.of_eq rfl
  | some rule =>
    simp only [network.position_eq]
    cases positionIn network.index link.spec.source with
    | error fault => exact Agree.of_eq rfl
    | ok source =>
      simp only [Traversal.ok_bind]
      cases rule.validate (((counts[source]?.getD ∅).get? link.spec.output).getD 0) <;> rfl

/-- All checks but the last, which looks at the lengths that outputs already have. -/
def draft (network : Network κ) : Except GraphError Plan := do
  let schedule ← network.schedule
  network.checkRequired
  let outputs ← network.outputCounts schedule.order
  network.checkReindex outputs
  let inputs ← network.regions.mapM (network.inputCounts outputs)
  return ⟨schedule, outputs, inputs⟩

/-- A plan is a draft whose lengths are compatible with those that outputs have, and which
memory can hold. -/
theorem plan_eq (network : Network κ) :
    network.plan = network.draft >>= fun plan =>
      network.checkResizes plan.outputs >>= fun _ =>
        network.checkMemory plan.outputs >>= fun _ => .ok plan := by
  unfold plan checks draft
  simp only [bind_assoc, pure_bind]
  rfl

omit [Implementation κ] in
/-- What memory has to hold is told by the lengths of outputs and the specifications. -/
theorem checkMemory_congr (first second : Network κ)
    (specs : first.links.map Link.spec = second.links.map Link.spec) (counts : OutputCounts) :
    first.checkMemory counts = second.checkMemory counts := by
  have read (network : Network κ) : network.need counts = elements counts +
      ((network.links.map Link.spec).map
        (fun spec => spec.reindex.elim 0 Reindex.stored)).sum := by
    rw [need, List.map_map]
    rfl
  rw [checkMemory, checkMemory, read first, read second, specs]

/-- Networks of the same outlines and specifications get the same draft, or the same
fault up to numbers of links. -/
theorem draft_congr (first second : Network κ) (soundFirst : first.wiring.Sound)
    (soundSecond : second.wiring.Sound)
    (outlines : first.regions.map Region.outline = second.regions.map Region.outline)
    (specs : first.links.map Link.spec = second.links.map Link.spec) :
    Agree first.draft second.draft := by
  have names := names_of_outlines first second outlines
  have index := first.index_congr second soundFirst soundSecond names
  have required : first.checkRequired = second.checkRequired := by
    have read (network : Network κ) (sound : network.wiring.Sound) :
        network.regions.map Region.demands = (network.regions.map Region.outline).map
          (fun outline => (outline.name, outline.inputs.map (fun name required =>
            required && !(network.links.map Link.spec).any
              (fun spec => spec.destination = outline.name ∧ spec.input = name)))) := by
      rw [List.map_map]
      apply List.map_congr_left
      intro region member
      exact network.demands_outline sound region member
    rw [checkRequired_eq, checkRequired_eq, read first soundFirst, read second soundSecond,
      outlines, specs]
  have reindexed (counts : OutputCounts) :
      Agree (first.checkReindex counts) (second.checkReindex counts) := by
    refine (first.checkReindex_agree counts).trans ?_
    rw [index, specs]
    exact (second.checkReindex_agree counts).symm
  have inputs (counts : OutputCounts) : first.regions.mapM (first.inputCounts counts) =
      second.regions.mapM (second.inputCounts counts) := by
    have read (network : Network κ) (sound : network.wiring.Sound) :
        network.regions.mapM (network.inputCounts counts) =
          (network.regions.map Region.outline).mapM (fun outline =>
            outline.inputCounts (network.links.map Link.spec)
              (fun region input => network.brought counts (network.entering region input))) := by
      rw [List.mapM_map]
      exact Traversal.mapM_congr _ _ network.regions (fun region member =>
        network.inputCounts_outline sound counts region member)
    have brings : (fun region input => first.brought counts (first.entering region input)) =
        fun region input => second.brought counts (second.entering region input) := by
      funext region input
      exact brought_congr first second index counts _ _
        (entering_specs first second specs region input)
    rw [read first soundFirst, read second soundSecond, outlines, specs, brings]
  unfold draft
  rw [first.schedule_eq, second.schedule_eq, index, names, specs, required]
  refine Agree.bind (Agree.of_eq rfl) ?_
  intro schedule
  refine Agree.bind (Agree.of_eq rfl) ?_
  intro _
  rw [outputCounts_congr first second soundFirst soundSecond outlines specs]
  refine Agree.bind (Agree.of_eq rfl) ?_
  intro counts
  refine Agree.bind (reindexed counts) ?_
  intro _
  exact Agree.of_eq (by rw [inputs counts])

/-! ### Plans that hold on -/

omit [Implementation κ] in
/-- All outputs have the lengths that are counted. -/
def Exact (network : Network κ) (counts : OutputCounts) : Prop :=
  ∀ (index : Nat) (region : Region κ), network.regions[index]? = some region →
    ∀ name output, region.outputs.get? name = some output →
      output.buffer.length = ((counts[index]?.getD ∅).get? name).getD 0

omit [Implementation κ] in
/-- Outputs that have the counted lengths already need no others. -/
theorem checkResizes_of_exact (network : Network κ) (counts : OutputCounts)
    (exact : network.Exact counts) : network.checkResizes counts = .ok () := by
  refine (Traversal.forM_ok_iff _ _).mpr ?_
  rintro ⟨region, known⟩ paired
  refine (Traversal.forM_ok_iff _ _).mpr ?_
  rintro ⟨name, output⟩ listed
  obtain ⟨index, here⟩ := List.getElem?_of_mem paired
  obtain ⟨found, counted⟩ := List.getElem?_zip_eq_some.mp here
  have length := exact index region found name output
    ((region.outputs.mem_entries_iff name output).mp listed)
  rw [counted, Option.getD_some] at length
  simp only [length, ne_eq, not_true_eq_false, false_and, and_false, if_false]

/-- A plan holds on while outlines and specifications stay, once outputs have the lengths
that it gives them. -/
theorem plan_of_exact (first second : Network κ) (soundFirst : first.wiring.Sound)
    (soundSecond : second.wiring.Sound)
    (outlines : first.regions.map Region.outline = second.regions.map Region.outline)
    (specs : first.links.map Link.spec = second.links.map Link.spec) (plan : Plan)
    (planned : first.plan = .ok plan) (exact : second.Exact plan.outputs) :
    second.plan = .ok plan := by
  rw [plan_eq] at planned
  obtain ⟨drafted, made, passed⟩ := (Traversal.bind_ok_iff _ _ _).mp planned
  obtain ⟨_, _, passed⟩ := (Traversal.bind_ok_iff _ _ _).mp passed
  obtain ⟨_, held, same⟩ := (Traversal.bind_ok_iff _ _ _).mp passed
  cases same
  have agree := draft_congr first second soundFirst soundSecond outlines specs
  rw [plan_eq, agree.ok plan made, Traversal.ok_bind, second.checkResizes_of_exact _ exact,
    Traversal.ok_bind, ← checkMemory_congr first second specs, held, Traversal.ok_bind]

/-- Alike networks have the same outlines. -/
theorem outlines_of_alike (first second : Network κ) (alike : first.Alike second) :
    first.regions.map Region.outline = second.regions.map Region.outline := by
  have read (network : Network κ) : network.regions.map Region.outline =
      (network.regions.map Region.essence).map Essence.outline := by
    rw [List.map_map]
    exact List.map_congr_left (fun region _ => region.outline_of_essence)
  rw [read, read, alike.regions]

omit [Implementation κ] in
/-- Outputs of alike networks can take the same lengths. -/
theorem checkResizes_of_alike (first second : Network κ) (alike : first.Alike second)
    (soundFirst : first.wiring.Sound) (soundSecond : second.wiring.Sound)
    (counts : OutputCounts) : first.checkResizes counts = second.checkResizes counts := by
  have read (network : Network κ) (sound : network.wiring.Sound) :
      network.checkResizes counts =
        ((network.regions.map Region.essence).zip counts).forM (fun (essence, known) =>
          essence.outputs.entries.forM (fun (name, buffer) =>
            let requested := (known.get? name).getD 0
            if buffer.allocated ∧ buffer.length ≠ requested ∧
                (network.links.map Link.spec).any
                  (fun spec => spec.source = essence.name ∧ spec.output = name) then
              .error (.bufferResize essence.name name buffer.length requested)
            else .ok ())) := by
    rw [List.zip_map_left, List.forM_eq_forM, List.forM_map, ← List.forM_eq_forM]
    refine Traversal.forM_congr _ _ _ ?_
    rintro ⟨region, known⟩ paired
    have member : region ∈ network.regions := (List.of_mem_zip paired).1
    simp only [Prod.map, Region.essence, NameMap.map, List.forM_eq_forM, List.forM_map]
    rw [← List.forM_eq_forM]
    refine Traversal.forM_congr _ _ _ ?_
    intro entry listed
    have linked := network.output_isLinked sound region member entry.1 entry.2
      (region.outputs.get?_of_mem entry listed)
    simp only [linked]
    rfl
  rw [read first soundFirst, read second soundSecond, alike.regions, alike.specs]

/-- Alike networks have the same plan, or the same fault up to numbers of links. -/
theorem plan_of_alike (first second : Network κ) (alike : first.Alike second)
    (soundFirst : first.wiring.Sound) (soundSecond : second.wiring.Sound) :
    Agree first.plan second.plan := by
  rw [plan_eq, plan_eq]
  refine Agree.bind (draft_congr first second soundFirst soundSecond
    (outlines_of_alike first second alike) alike.specs) ?_
  intro plan
  rw [checkResizes_of_alike first second alike soundFirst soundSecond,
    checkMemory_congr first second alike.specs]
  exact Agree.of_eq rfl

end Network

end RegionGraph
