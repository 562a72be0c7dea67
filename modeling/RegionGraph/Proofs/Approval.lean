import RegionGraph.Proofs.Assembly

/-!
# Which links are made

A wish for a link is approved if both of its regions are there, its endpoints, or the default ones
where it names none, are declared for elements of one type, no earlier link has the same ends,
and a rule that it brings selects something. Of the regions this asks for nothing but their
descriptions, as long as their endpoints are those that the descriptions declare. So it can be
told of a network before it is there, and of many wishes before the first link is made: each
has to fit the descriptions and the links that the wishes before it come to.
-/

namespace RegionGraph

variable {κ : Type}

/-- What a name given for an endpoint stands for: itself, or the default if it is empty. -/
def StandsFor (given : String) (default : Option String) (name : String) : Prop :=
  if given.isEmpty then default = some name else name = given

/-- A name that is given stands for itself. -/
theorem standsFor_given (given : String) (default : Option String)
    (named : given.isEmpty = false) : StandsFor given default given := by
  rw [StandsFor, named]
  rfl

/-- A wish fits regions of given descriptions and earlier links, and comes to a link whose
endpoints are named. -/
structure LinkSpec.Fits (describes : String → Spec → Prop) (earlier : List LinkSpec)
    (wish named : LinkSpec) : Prop where
  ends : ∃ source destination output input,
    describes wish.source source ∧ describes wish.destination destination ∧
    StandsFor wish.output source.defaultOutput? named.output ∧
    StandsFor wish.input destination.defaultInput? named.input ∧
    source.output? named.output = some output ∧ destination.input? named.input = some input ∧
    output.type = input.type
  kept : named = { wish with output := named.output, input := named.input }
  fresh : ∀ other ∈ earlier, ¬other.SameEnds named
  selecting : ∀ rule, wish.reindex = some rule → rule.width ≠ 0

/-- A region has the endpoints that its description declares, for elements of the types declared. -/
structure Essence.AsDeclared (essence : Essence κ) : Prop where
  outputs : ∀ name, (essence.outputs.get? name).map Buffer.type =
    (essence.spec.output? name).map OutputSpec.type
  inputs : ∀ name, (essence.inputs.get? name).map Prod.fst =
    (essence.spec.input? name).map InputSpec.type

namespace Region

variable (region : Region κ) (declared : region.essence.AsDeclared) (name : String)
  (type : ElementType)

include declared

/-- Outputs are found as they are declared. -/
theorem output_asDeclared :
    (∃ output, region.outputs.get? name = some output ∧ output.buffer.type = type) ↔
      ∃ output, region.spec.output? name = some output ∧ output.type = type := by
  have same := declared.outputs name
  rw [essence, NameMap.get?_map, Option.map_map] at same
  rw [← Option.map_eq_some_iff, ← Option.map_eq_some_iff]
  exact Eq.congr_left same

/-- Inputs are found as they are declared. -/
theorem input_asDeclared :
    (∃ input, region.inputs.get? name = some input ∧ input.buffer.type = type) ↔
      ∃ input, region.spec.input? name = some input ∧ input.type = type := by
  have same := declared.inputs name
  rw [essence, NameMap.get?_map, Option.map_map] at same
  rw [← Option.map_eq_some_iff, ← Option.map_eq_some_iff]
  exact Eq.congr_left same

end Region

namespace Network

/-- A region of the network has a name and a description. -/
def Describes (network : Network κ) (name : String) (spec : Spec) : Prop :=
  ∃ region ∈ network.regions, region.name = name ∧ region.spec = spec

/-- A link with named endpoints passes its checks exactly if it joins endpoints of one type that
are not joined yet, and selects something. -/
theorem checkLink_ok_iff (network : Network κ) (indexed : network.Indexed) (spec : LinkSpec) :
    network.checkLink spec = .ok () ↔
      ∃ source ∈ network.regions, ∃ destination ∈ network.regions, ∃ output input,
        source.name = spec.source ∧ source.outputs.get? spec.output = some output ∧
        destination.name = spec.destination ∧ destination.inputs.get? spec.input = some input ∧
        output.buffer.type = input.buffer.type ∧
        (∀ link ∈ network.links, ¬ link.spec.SameEnds spec) ∧
        ∀ rule, spec.reindex = some rule → rule.width ≠ 0 := by
  refine ⟨network.checkLink_ok indexed spec, ?_⟩
  rintro ⟨source, sourceMember, destination, destinationMember, output, input, sourceName,
    outputFound, destinationName, inputFound, types, fresh, selecting⟩
  have sourceFound := (network.region_ok_iff indexed _ source).mpr ⟨sourceMember, sourceName⟩
  have destinationFound :=
    (network.region_ok_iff indexed _ destination).mpr ⟨destinationMember, destinationName⟩
  have outputRead := (source.output_ok_iff spec.output output).mpr outputFound
  have inputRead := (destination.input_ok_iff spec.input input).mpr inputFound
  have absent : (network.findLink spec.source spec.output spec.destination
      spec.input).isSome = false := by
    rw [findLink, Option.isSome_map, Option.isSome_eq_false_iff, Option.isNone_iff_eq_none,
      List.find?_eq_none]
    intro other present joins
    simp only [Link.joins, Bool.and_eq_true, beq_iff_eq] at joins
    exact fresh other present ⟨joins.1.1.1, joins.1.1.2, joins.1.2, joins.2⟩
  simp only [checkLink, sourceFound, destinationFound, outputRead, inputRead, types, absent,
    Traversal.ok_bind, ne_eq, not_true_eq_false, if_false, Bool.false_eq_true]
  cases ruled : spec.reindex with
  | none => rfl
  | some rule =>
    simp only [selecting rule ruled, if_false]
    rfl

/-- An endpoint of a region that is found gets the name that the given one stands for. -/
theorem namedEndpoint_ok_iff (network : Network κ) (region : Region κ) (owner given name : String)
    (found : network.region owner = .ok region) (default? : Spec → Option String)
    (missing : GraphError) :
    network.namedEndpoint owner given default? missing = .ok name ↔
      StandsFor given (default? region.spec) name := by
  unfold namedEndpoint StandsFor
  by_cases empty : given.isEmpty
  · rw [if_pos empty, if_pos empty, found, Traversal.ok_bind]
    cases default? region.spec <;> simp
  · rw [if_neg empty, if_neg empty, Except.ok.injEq]
    exact eq_comm

section Declared

variable (network : Network κ) (indexed : network.Indexed)
  (declared : ∀ region ∈ network.regions, region.essence.AsDeclared) (wish named : LinkSpec)

include indexed declared

/-- A wish whose endpoints were named, and which passes the checks then, fits. -/
theorem fits_of_checked (resolved : network.resolveEndpoints wish = .ok named)
    (passed : network.checkLink named = .ok ()) :
    wish.Fits network.Describes (network.links.map Link.spec) named := by
  rw [resolveEndpoints_eq] at resolved
  obtain ⟨output, outputNamed, rest⟩ := (Traversal.bind_ok_iff _ _ _).mp resolved
  obtain ⟨input, inputNamed, made⟩ := (Traversal.bind_ok_iff _ _ _).mp rest
  cases made
  obtain ⟨source, sourceMember, destination, destinationMember, endpoint, entry, sourceName,
    outputFound, destinationName, inputFound, types, fresh, selecting⟩ :=
    network.checkLink_ok indexed _ passed
  have sourceFound := (network.region_ok_iff indexed _ source).mpr ⟨sourceMember, sourceName⟩
  have destinationFound :=
    (network.region_ok_iff indexed _ destination).mpr ⟨destinationMember, destinationName⟩
  obtain ⟨outputSpec, outputDeclared, outputType⟩ :=
    (source.output_asDeclared (declared source sourceMember) output entry.buffer.type).mp
      ⟨endpoint, outputFound, types⟩
  obtain ⟨inputSpec, inputDeclared, inputType⟩ :=
    (destination.input_asDeclared (declared destination destinationMember) input
      entry.buffer.type).mp ⟨entry, inputFound, rfl⟩
  refine ⟨⟨source.spec, destination.spec, outputSpec, inputSpec,
    ⟨source, sourceMember, sourceName, rfl⟩, ⟨destination, destinationMember, destinationName, rfl⟩,
    ?_, ?_, outputDeclared, inputDeclared, outputType.trans inputType.symm⟩, rfl, ?_, selecting⟩
  · exact (network.namedEndpoint_ok_iff source _ _ _ sourceFound _ _).mp outputNamed
  · exact (network.namedEndpoint_ok_iff destination _ _ _ destinationFound _ _).mp inputNamed
  · exact List.forall_mem_map.mpr fresh

/-- The endpoints of a wish that fits get their names, and then it passes the checks. -/
theorem checked_of_fits (fits : wish.Fits network.Describes (network.links.map Link.spec) named) :
    network.resolveEndpoints wish = .ok named ∧ network.checkLink named = .ok () := by
  obtain ⟨_, _, outputSpec, inputSpec, ⟨source, sourceMember, sourceName, rfl⟩,
    ⟨destination, destinationMember, destinationName, rfl⟩, outputStands, inputStands,
    outputDeclared, inputDeclared, types⟩ := fits.ends
  have sourceFound := (network.region_ok_iff indexed _ source).mpr ⟨sourceMember, sourceName⟩
  have destinationFound :=
    (network.region_ok_iff indexed _ destination).mpr ⟨destinationMember, destinationName⟩
  obtain ⟨endpoint, outputFound, outputType⟩ :=
    (source.output_asDeclared (declared source sourceMember) named.output outputSpec.type).mpr
      ⟨outputSpec, outputDeclared, rfl⟩
  obtain ⟨entry, inputFound, inputType⟩ :=
    (destination.input_asDeclared (declared destination destinationMember) named.input
      inputSpec.type).mpr ⟨inputSpec, inputDeclared, rfl⟩
  have kept := fits.kept
  constructor
  · rw [resolveEndpoints_eq,
      (network.namedEndpoint_ok_iff source _ _ _ sourceFound _ _).mpr outputStands,
      Traversal.ok_bind,
      (network.namedEndpoint_ok_iff destination _ _ _ destinationFound _ _).mpr inputStands]
    exact congrArg Except.ok kept.symm
  · refine (network.checkLink_ok_iff indexed named).mpr ⟨source, sourceMember, destination,
      destinationMember, endpoint, entry, ?_, outputFound, ?_, inputFound, ?_, ?_, ?_⟩
    · rw [kept, sourceName]
    · rw [kept, destinationName]
    · rw [outputType, inputType, types]
    · exact fun link present => fits.fresh link.spec (List.mem_map_of_mem present)
    · rw [kept]
      exact fits.selecting

/-- A wish is approved exactly if it fits the regions and links that are there. -/
theorem approve_ok_iff (mutable : network.ensureMutable = .ok ()) :
    network.approve wish = .ok named ↔
      wish.Fits network.Describes (network.links.map Link.spec) named := by
  rw [approve, mutable, Traversal.ok_bind, Traversal.bind_ok_iff]
  constructor
  · rintro ⟨spec, resolved, approved⟩
    obtain ⟨_, passed, same⟩ := (Traversal.bind_ok_iff _ _ _).mp approved
    cases same
    exact network.fits_of_checked indexed declared wish named resolved passed
  · intro fits
    obtain ⟨resolved, passed⟩ := network.checked_of_fits indexed declared wish named fits
    exact ⟨named, resolved, by rw [passed]; rfl⟩

end Declared

/-! ### Recorded links, one after the other -/

/-- Which regions are described how is told by what is lasting about regions. -/
theorem describes_of_essences (first second : Network κ)
    (essences : first.regions.map Region.essence = second.regions.map Region.essence) :
    first.Describes = second.Describes := by
  have read (network : Network κ) : network.Describes = fun name spec =>
      ∃ essence ∈ network.regions.map Region.essence,
        essence.name = name ∧ essence.spec = spec := by
    funext name spec
    simp only [List.mem_map, exists_exists_and_eq_and]
    rfl
  rw [read, read, essences]

/-- A network with a link that is made again of its record. -/
def carrying (network : Network κ) (record : LinkRecord) (named : LinkSpec) : Network κ :=
  { network.joined named with
    links := network.links ++ [⟨⟨network.nextLinkId⟩, named, record.pending⟩] }

/-- A link that is made again changes nothing that is lasting about regions. -/
theorem essences_carrying (network : Network κ) (record : LinkRecord) (named : LinkSpec) :
    (network.carrying record named).regions.map Region.essence =
      network.regions.map Region.essence :=
  Region.essence_linkFree.map_joined network named

/-- A recorded link is loaded exactly if its wish fits what is there. -/
theorem loadLink_ok_iff (network next : Network κ) (sound : network.wiring.Sound)
    (unbuilt : network.state = .unbuilt)
    (declared : ∀ region ∈ network.regions, region.essence.AsDeclared) (record : LinkRecord) :
    network.loadLink record = .ok next ↔
      ∃ named, record.spec.Fits network.Describes (network.links.map Link.spec) named ∧
        next = network.carrying record named := by
  have mutable : network.ensureMutable = .ok () := by rw [ensureMutable, unbuilt]
  have approves (named : LinkSpec) := network.approve_ok_iff (network.indexed_of_sound sound)
    declared record.spec named mutable
  constructor
  · intro loaded
    obtain ⟨named, approved, rfl⟩ := network.loadLink_ok next sound record loaded
    refine ⟨named, (approves named).mp approved, ?_⟩
    rw [network.links_resumed sound, carrying]
  · rintro ⟨named, fits, rfl⟩
    rw [loadLink, network.run_addLink sound, (approves named).mpr fits]
    dsimp only
    rw [network.links_resumed sound, carrying]

end Network

/-- Wishes fit one after the other, each with the links that the earlier ones come to. -/
inductive LinkSpec.FitAll (describes : String → Spec → Prop) :
    List LinkSpec → List LinkSpec → List LinkSpec → Prop where
  | nil (earlier : List LinkSpec) : FitAll describes earlier [] []
  | cons (earlier : List LinkSpec) (wish named : LinkSpec) (wishes others : List LinkSpec)
      (fits : wish.Fits describes earlier named)
      (rest : FitAll describes (earlier ++ [named]) wishes others) :
      FitAll describes earlier (wish :: wishes) (named :: others)

/-- Every wish comes to one link. -/
theorem LinkSpec.FitAll.length {describes : String → Spec → Prop}
    {earlier wishes named : List LinkSpec} (fit : FitAll describes earlier wishes named) :
    wishes.length = named.length := by
  induction fit with
  | nil earlier => rfl
  | cons earlier wish named wishes others fits rest inductionHypothesis =>
    rw [List.length_cons, List.length_cons, inductionHypothesis]

/-- A wish that names both of its endpoints comes to itself. -/
theorem LinkSpec.Fits.eq_of_named {describes : String → Spec → Prop} {earlier : List LinkSpec}
    {wish named : LinkSpec} (fits : wish.Fits describes earlier named)
    (output : wish.output.isEmpty = false) (input : wish.input.isEmpty = false) :
    named = wish := by
  obtain ⟨_, _, _, _, _, _, outputStands, inputStands, _⟩ := fits.ends
  rw [StandsFor, output] at outputStands
  rw [StandsFor, input] at inputStands
  have kept := fits.kept
  rwa [show named.output = wish.output from outputStands,
    show named.input = wish.input from inputStands] at kept

/-- Wishes that name their endpoints come to themselves. -/
theorem LinkSpec.FitAll.eq_of_named {describes : String → Spec → Prop}
    {earlier wishes named : List LinkSpec} (fit : FitAll describes earlier wishes named)
    (given : ∀ wish ∈ wishes, wish.output.isEmpty = false ∧ wish.input.isEmpty = false) :
    named = wishes := by
  induction fit with
  | nil earlier => rfl
  | cons earlier wish named wishes others fits rest inductionHypothesis =>
    obtain ⟨output, input⟩ := given wish List.mem_cons_self
    rw [fits.eq_of_named output input, inductionHypothesis fun other member =>
      given other (List.mem_cons_of_mem wish member)]

namespace Network

/-- A network with links that are made again of their records, one after the other. -/
def carryingAll (network : Network κ) (links : List (LinkRecord × LinkSpec)) : Network κ :=
  links.foldl (fun network link => network.carrying link.1 link.2) network

/-- Recorded links are loaded exactly if their wishes fit one after the other. What comes out has
the links made again. -/
theorem loadLinks_ok_iff (records : List LinkRecord) (start after : Network κ)
    (sound : start.wiring.Sound) (unbuilt : start.state = .unbuilt)
    (declared : ∀ region ∈ start.regions, region.essence.AsDeclared) :
    records.foldlM loadLink start = .ok after ↔
      ∃ named, LinkSpec.FitAll start.Describes (start.links.map Link.spec)
          (records.map LinkRecord.spec) named ∧
        after = start.carryingAll (records.zip named) := by
  induction records generalizing start with
  | nil =>
    constructor
    · intro loaded
      cases loaded
      exact ⟨[], .nil _, rfl⟩
    · rintro ⟨_, fit, rfl⟩
      cases fit
      rfl
  | cons record rest inductionHypothesis =>
    -- What loading the others asks for, put in terms of the network before.
    have others (named : LinkSpec)
        (loaded : start.loadLink record = .ok (start.carrying record named)) :
        rest.foldlM loadLink (start.carrying record named) = .ok after ↔
          ∃ more, LinkSpec.FitAll start.Describes (start.links.map Link.spec ++ [named])
              (rest.map LinkRecord.spec) more ∧
            after = (start.carrying record named).carryingAll (rest.zip more) := by
      have essences := start.essences_carrying record named
      have declaredNext : ∀ region ∈ (start.carrying record named).regions,
          region.essence.AsDeclared := by
        rw [← List.forall_mem_map (f := Region.essence) (P := Essence.AsDeclared), essences,
          List.forall_mem_map]
        exact declared
      refine (inductionHypothesis (start.carrying record named)
        (start.sound_loadLink _ sound record loaded) rfl declaredNext).trans ?_
      rw [describes_of_essences _ start essences, carrying, List.map_append]
      rfl
    have first (next : Network κ) := start.loadLink_ok_iff next sound unbuilt declared record
    rw [List.foldlM_cons, Traversal.bind_ok_iff]
    constructor
    · rintro ⟨next, loaded, remaining⟩
      obtain ⟨named, fits, rfl⟩ := (first next).mp loaded
      obtain ⟨more, fit, made⟩ := (others named loaded).mp remaining
      exact ⟨named :: more, .cons _ _ _ _ _ fits fit, made⟩
    · rintro ⟨_, fit, made⟩
      cases fit with
      | cons _ _ named _ more fits fit =>
        have loaded := (first (start.carrying record named)).mpr ⟨named, fits, rfl⟩
        exact ⟨_, loaded, (others named loaded).mpr ⟨more, fit, made⟩⟩

/-- Links that are made again come last, numbered on, and nothing that is lasting about regions
is changed. -/
theorem carryingAll_keeps (network : Network κ) (links : List (LinkRecord × LinkSpec)) :
    (network.carryingAll links).links = network.links ++
        (links.zipIdx network.nextLinkId).map (fun (link, number) =>
          ⟨⟨number⟩, link.2, link.1.pending⟩) ∧
      (network.carryingAll links).regions.map Region.essence =
        network.regions.map Region.essence ∧
      (network.carryingAll links).settings = network.settings ∧
      (network.state = .unbuilt → (network.carryingAll links).state = .unbuilt) := by
  induction links generalizing network with
  | nil => exact ⟨(List.append_nil _).symm, rfl, rfl, id⟩
  | cons link rest inductionHypothesis =>
    obtain ⟨made, essences, settings, state⟩ :=
      inductionHypothesis (network.carrying link.1 link.2)
    refine ⟨?_, essences.trans (network.essences_carrying link.1 link.2), settings,
      fun _ => state rfl⟩
    refine made.trans ?_
    rw [carrying, List.zipIdx_cons, List.map_cons, List.append_assoc, List.singleton_append]
    rfl

/-- Links that are made of records and of named wishes, numbered from zero on, have those wishes,
numbers and snapshots. -/
theorem links_zipIdx (links : List Link) (records : List LinkRecord) (named : List LinkSpec)
    (counts : records.length = named.length)
    (linked : links = (records.zip named).zipIdx.map (fun (link, number) =>
      ⟨⟨number⟩, link.2, link.1.pending⟩)) :
    links.map Link.spec = named ∧
      links.map Link.id = (List.range records.length).map LinkId.mk ∧
      links.map Link.pending = records.map LinkRecord.pending := by
  refine ⟨?_, ?_, ?_⟩
  · calc
      links.map Link.spec
          = ((records.zip named).zipIdx.map Prod.fst).map Prod.snd := by
            rw [linked, List.map_map, List.map_map]
            rfl
      _ = named := by
            rw [List.zipIdx_map_fst, List.map_snd_zip (Nat.le_of_eq counts.symm)]
  · calc
      links.map Link.id
          = ((records.zip named).zipIdx.map Prod.snd).map LinkId.mk := by
            rw [linked, List.map_map, List.map_map]
            rfl
      _ = (List.range records.length).map LinkId.mk := by
            rw [List.zipIdx_map_snd, List.length_zip, ← counts, Nat.min_self, List.range_eq_range']
  · calc
      links.map Link.pending
          = (((records.zip named).zipIdx.map Prod.fst).map Prod.fst).map LinkRecord.pending := by
            rw [linked, List.map_map, List.map_map, List.map_map]
            rfl
      _ = records.map LinkRecord.pending := by
            rw [List.zipIdx_map_fst, List.map_fst_zip (Nat.le_of_eq counts)]

/-- The links of a soundly wired network fit one after the other, if they name their endpoints. -/
theorem fitAll_links (network : Network κ) (sound : network.wiring.Sound)
    (declared : ∀ region ∈ network.regions, region.essence.AsDeclared)
    (given : ∀ link ∈ network.links,
      link.spec.output.isEmpty = false ∧ link.spec.input.isEmpty = false) :
    LinkSpec.FitAll network.Describes [] (network.links.map Link.spec)
      (network.links.map Link.spec) := by
  suffices fit : ∀ done rest, network.links = done ++ rest →
      LinkSpec.FitAll network.Describes (done.map Link.spec) (rest.map Link.spec)
        (rest.map Link.spec) from fit [] network.links rfl
  intro done rest split
  induction rest generalizing done with
  | nil => exact .nil _
  | cons link others inductionHypothesis =>
    have member : link ∈ network.links := by
      rw [split]
      exact List.mem_append_right done List.mem_cons_self
    have fits : link.spec.Fits network.Describes (done.map Link.spec) link.spec := by
      obtain ⟨source, sourceMember, destination, destinationMember, output, input, sourceName,
        outputFound, destinationName, inputFound, types⟩ := network.link_ends sound link member
      obtain ⟨outputSpec, outputDeclared, outputType⟩ :=
        (source.output_asDeclared (declared source sourceMember) link.spec.output
          output.buffer.type).mp ⟨output, outputFound, rfl⟩
      obtain ⟨inputSpec, inputDeclared, inputType⟩ :=
        (destination.input_asDeclared (declared destination destinationMember) link.spec.input
          input.buffer.type).mp ⟨input, inputFound, rfl⟩
      obtain ⟨outputGiven, inputGiven⟩ := given link member
      refine ⟨⟨source.spec, destination.spec, outputSpec, inputSpec,
        ⟨source, sourceMember, sourceName, rfl⟩,
        ⟨destination, destinationMember, destinationName, rfl⟩,
        standsFor_given _ _ outputGiven, standsFor_given _ _ inputGiven, outputDeclared,
        inputDeclared, ?_⟩, rfl, ?_, ?_⟩
      · rw [outputType, inputType, types]
      · refine List.forall_mem_map.mpr fun former before => ?_
        have single := sound.single
        rw [wiring, List.pairwise_map, split, List.pairwise_append] at single
        exact single.2.2 former before link List.mem_cons_self
      · exact sound.selecting (link.id, link.spec) (List.mem_map_of_mem member)
    have rest := inductionHypothesis (done ++ [link]) (by rw [split, List.append_assoc]; rfl)
    rw [List.map_append] at rest
    exact .cons _ _ _ _ _ fits rest

end Network

end RegionGraph
