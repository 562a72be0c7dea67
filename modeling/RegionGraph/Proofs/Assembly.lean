import RegionGraph.Proofs.Rearranged

/-!
# Networks put together in any order

A network is put together of declared regions and of links that are wished for. Every
link needs the regions at its ends, and otherwise regions and links may be added in any
order. What comes out is told by the declarations and the wishes alone: the regions are
those that registries make of the declarations, with the links that the wishes ask for.
So two networks of the same declarations and wishes differ in the order of their
regions only.
-/

namespace RegionGraph

variable {κ : Type}

namespace Registry

/-- The region that a registry makes of a declaration. -/
def Makes (registry : Registry κ) (declaration : Declaration) (region : Region κ) : Prop :=
  ∃ spec completed state middle later,
    (create declaration.type declaration.params declaration.name).run registry =
      (.ok (state, completed), middle) ∧
    (Registry.spec declaration.type).run middle = (.ok spec, later) ∧
    region = .new declaration.name declaration.type spec completed state

/-- Registries of a kind make the same region of the same declaration at all times. -/
def Deterministic (usable : Registry κ → Prop) : Prop :=
  ∀ registry other declaration region like, usable registry → usable other →
    registry.Makes declaration region → other.Makes declaration like → region = like

/-- Registries that offer the same types make the same regions. -/
theorem deterministic_offers (kind : String → Option (RegionType κ)) :
    Deterministic (fun registry : Registry κ => registry.Offers kind) := by
  rintro registry other declaration region like offers offersToo
    ⟨spec, completed, state, middle, later, created, described, rfl⟩
    ⟨specToo, completedToo, stateToo, middleToo, laterToo, createdToo, describedToo, rfl⟩
  obtain ⟨offersMiddle, type, offered, normal, creation⟩ :=
    create_ok kind registry middle offers _ _ _ _ _ created
  obtain ⟨offersMiddleToo, typeToo, offeredToo, normalToo, creationToo⟩ :=
    create_ok kind other middleToo offersToo _ _ _ _ _ createdToo
  obtain ⟨_, told, toldIs, rfl⟩ := spec_ok kind middle later offersMiddle _ spec described
  obtain ⟨_, toldToo, toldIsToo, rfl⟩ :=
    spec_ok kind middleToo laterToo offersMiddleToo _ specToo describedToo
  cases offered.symm.trans offeredToo
  cases toldIs.symm.trans toldIsToo
  cases normal.symm.trans normalToo
  cases creation.symm.trans creationToo
  rfl

end Registry

namespace Region

/-- A region as it was before it got links and a level. -/
def unlinked (region : Region κ) : Region κ :=
  (region.rewire (fun _ _ _ => []) (fun _ _ _ => [])).bare

/-- Regions that are the same but for links and places have the same name. -/
theorem name_of_unlinked {first second : Region κ} (same : first.unlinked = second.unlinked) :
    first.name = second.name :=
  show first.unlinked.name = second.unlinked.name from congrArg Region.name same

/-- Regions that are the same but for links and places have the same specification. -/
theorem spec_of_unlinked {first second : Region κ} (same : first.unlinked = second.unlinked) :
    first.spec = second.spec :=
  show first.unlinked.spec = second.unlinked.spec from congrArg Region.spec same

/-- Rewiring changes nothing but links. -/
theorem unlinked_rewire (outputs inputs : String → String → List LinkId → List LinkId)
    (region : Region κ) : (region.rewire outputs inputs).unlinked = region.unlinked := by
  simp only [unlinked, rewire, NameMap.map_map]

end Region

namespace Network

/-- Forgetting what building has found out changes nothing but places. -/
theorem unlinked_invalidated (network : Network κ) :
    network.invalidated.regions.map Region.unlinked = network.regions.map Region.unlinked := by
  rw [invalidated, List.map_map]
  rfl

/-- A further link changes nothing of the regions but links and places. -/
theorem unlinked_joined (network : Network κ) (spec : LinkSpec) :
    (network.joined spec).regions.map Region.unlinked = network.regions.map Region.unlinked := by
  rw [joined, unlinked_invalidated, List.map_map]
  exact List.map_congr_left (fun region _ => region.unlinked_rewire _ _)

/-- A further region leaves the others as they are. -/
theorem unlinked_insertRegion (network : Network κ) (region : Region κ) :
    (network.insertRegion region).regions.map Region.unlinked =
      network.regions.map Region.unlinked ++ [region.unlinked] := by
  rw [insertRegion, unlinked_invalidated, List.map_append, List.map_singleton]

/-- A region of a soundly wired network is what it was without links, with the links that
the list of links says end there. -/
theorem rewire_unlinked (network : Network κ) (sound : network.wiring.Sound) (region : Region κ)
    (member : region ∈ network.regions) :
    region.unlinked.rewire (fun owner output _ => network.wiring.leaving owner output)
      (fun owner input _ => network.wiring.entering owner input) = region.bare := by
  unfold Region.unlinked Region.rewire Region.bare
  simp only [NameMap.map_map]
  congr 1
  · apply NameMap.map_eq_self
    intro name endpoint found
    rw [← network.output_links sound region member name endpoint found]
  · apply NameMap.map_eq_self
    intro name input found
    rw [← network.input_links sound region member name input found]

/-- The name that a wish gives an endpoint, or else the default one of the region. -/
def namedEndpoint (network : Network κ) (owner given : String) (default? : Spec → Option String)
    (missing : GraphError) : Except GraphError String :=
  if given.isEmpty then do
    let region ← network.region owner
    match default? region.spec with
    | some name => .ok name
    | none => .error missing
  else .ok given

/-- Both endpoints of a wish are named in one way, the output first. -/
theorem resolveEndpoints_eq (network : Network κ) (wish : LinkSpec) :
    network.resolveEndpoints wish = do
      let output ← network.namedEndpoint wish.source wish.output Spec.defaultOutput?
        (.unknownOutput wish.source noDefault)
      let input ← network.namedEndpoint wish.destination wish.input Spec.defaultInput?
        (.unknownInput wish.destination noDefault)
      return { wish with output, input } := by
  have joint (owner given : String) (default? : Spec → Option String) (missing : GraphError)
      (next : String → Except GraphError LinkSpec) :
      network.namedEndpoint owner given default? missing >>= next =
        if given.isEmpty then network.region owner >>= fun region =>
          match default? region.spec with
          | some name => pure name >>= next
          | none => throw missing >>= next
        else pure given >>= next := by
    unfold namedEndpoint
    by_cases empty : given.isEmpty
    · rw [if_pos empty, if_pos empty]
      cases network.region owner with
      | error fault => rfl
      | ok region =>
        simp only [Traversal.ok_bind]
        cases default? region.spec <;> rfl
    · rw [if_neg empty, if_neg empty]
      rfl
  simp only [joint]
  rfl

/-- A name that an endpoint gets stays where specifications of regions do. -/
theorem namedEndpoint_of_unlinked (first second : Network κ) (indexed : first.Indexed)
    (indexedToo : second.Indexed)
    (kept : first.regions.map Region.unlinked ⊆ second.regions.map Region.unlinked)
    (owner given name : String) (default? : Spec → Option String) (missing : GraphError)
    (named : first.namedEndpoint owner given default? missing = .ok name) :
    second.namedEndpoint owner given default? missing = .ok name := by
  unfold namedEndpoint at named ⊢
  by_cases empty : given.isEmpty
  · rw [if_pos empty] at named ⊢
    obtain ⟨region, found, chosen⟩ := (Traversal.bind_ok_iff _ _ _).mp named
    obtain ⟨member, called⟩ := (first.region_ok_iff indexed owner region).mp found
    obtain ⟨like, present, same⟩ := List.mem_map.mp (kept (List.mem_map_of_mem member))
    refine (Traversal.bind_ok_iff _ _ _).mpr ⟨like, ?_, Region.spec_of_unlinked same ▸ chosen⟩
    exact (second.region_ok_iff indexedToo owner like).mpr
      ⟨present, (Region.name_of_unlinked same).trans called⟩
  · rw [if_neg empty] at named ⊢
    exact named

/-- Endpoints that a wish gets named stay where specifications of regions do. -/
theorem resolveEndpoints_of_unlinked (first second : Network κ) (indexed : first.Indexed)
    (indexedToo : second.Indexed)
    (kept : first.regions.map Region.unlinked ⊆ second.regions.map Region.unlinked)
    (wish spec : LinkSpec) (resolved : first.resolveEndpoints wish = .ok spec) :
    second.resolveEndpoints wish = .ok spec := by
  rw [resolveEndpoints_eq] at resolved ⊢
  obtain ⟨output, outputNamed, rest⟩ := (Traversal.bind_ok_iff _ _ _).mp resolved
  obtain ⟨input, inputNamed, made⟩ := (Traversal.bind_ok_iff _ _ _).mp rest
  have stays := namedEndpoint_of_unlinked first second indexed indexedToo kept
  rw [stays _ _ output _ _ outputNamed, stays _ _ input _ _ inputNamed]
  exact made

/-- The links that are registered for specifications, numbered in their order. -/
def registered (specs : List LinkSpec) : List Link :=
  specs.zipIdx.map (fun entry => .new ⟨entry.2⟩ entry.1)

/-- A network that was put together of declared regions and wished links, in this order
each, and between regions and links in any order. -/
inductive Assembled (usable : Registry κ → Prop) :
    List Declaration → List LinkSpec → Network κ → Prop where
  | new (settings : NetworkSettings) : Assembled usable [] [] (Network.new settings)
  | addRegion (declared : List Declaration) (wishes : List LinkSpec) (network : Network κ)
      (before : Assembled usable declared wishes network) (declaration : Declaration)
      (registry : Registry κ) (known : usable registry)
      (accepted : ((addRegion declaration.name declaration.type
        declaration.params).run (registry, network)).1.isOk) :
      Assembled usable (declared ++ [declaration]) wishes
        (network.added registry declaration.name declaration.type declaration.params)
  | addLink (declared : List Declaration) (wishes : List LinkSpec) (network : Network κ)
      (before : Assembled usable declared wishes network) (wish : LinkSpec)
      (accepted : ((addLink wish).run network).1.isOk) :
      Assembled usable declared (wishes ++ [wish]) ((addLink wish).run network).2

/-- A further specification is registered last, under the next number. -/
theorem registered_append (specs : List LinkSpec) (spec : LinkSpec) :
    registered (specs ++ [spec]) = registered specs ++ [.new ⟨specs.length⟩ spec] := by
  simp [registered, List.zipIdx_append]

/-- What declarations and wishes tell of a network that was put together of them. -/
structure MadeOf (network : Network κ) (usable : Registry κ → Prop) (declared : List Declaration)
    (wishes : List LinkSpec) : Prop where
  sound : network.wiring.Sound
  state : network.state = .unbuilt
  order : network.order = none
  iteration : network.iteration = 0
  regions : List.Forall₂ (fun declaration plain => ∃ registry made, usable registry ∧
    registry.Makes declaration made ∧ plain = made.unlinked) declared
    (network.regions.map Region.unlinked)
  links : ∃ specs, network.links = registered specs ∧ network.nextLinkId = specs.length ∧
    List.Forall₂ (fun wish spec => network.resolveEndpoints wish = .ok spec) wishes specs

variable {usable : Registry κ → Prop} {declared others : List Declaration}
  {wishes : List LinkSpec} {network : Network κ}

/-- A network of nothing. -/
theorem madeOf_new (settings : NetworkSettings) :
    (Network.new settings : Network κ).MadeOf usable [] [] where
  sound := Wiring.sound_empty 0
  state := rfl
  order := rfl
  iteration := rfl
  regions := .nil
  links := ⟨[], rfl, rfl, .nil⟩

/-- A region that is added is made of its declaration, and all else stays. -/
theorem MadeOf.addRegion (made : network.MadeOf usable declared wishes) (declaration : Declaration)
    (registry : Registry κ) (known : usable registry)
    (accepted : ((Network.addRegion declaration.name declaration.type
      declaration.params).run (registry, network)).1.isOk) :
    (network.added registry declaration.name declaration.type declaration.params).MadeOf usable
      (declared ++ [declaration]) wishes := by
  unfold added
  rcases outcome : (Network.addRegion declaration.name declaration.type
    declaration.params).run (registry, network) with ⟨fault | _, later, next⟩
  case error =>
    rw [outcome] at accepted
    cases accepted
  case ok =>
    obtain ⟨fresh, spec, completed, state, middle, created, described, rfl⟩ :=
      network.addRegion_ok next registry later _ _ _ outcome
    have free := links_new declaration.name declaration.type spec completed state
    have sound := network.sound_insertRegion made.sound
      (.new declaration.name declaration.type spec completed state) fresh free.1 free.2
    have regions := network.unlinked_insertRegion
      (.new declaration.name declaration.type spec completed state)
    obtain ⟨specs, links, count, resolved⟩ := made.links
    refine ⟨sound, rfl, rfl, made.iteration, ?_, specs, links, count, ?_⟩
    · rw [regions]
      refine List.rel_append made.regions (.cons ?_ .nil)
      exact ⟨registry, _, known, ⟨spec, completed, state, middle, later, created, described, rfl⟩,
        rfl⟩
    · refine resolved.imp (resolveEndpoints_of_unlinked _ _ (network.indexed_of_sound made.sound)
        (indexed_of_sound _ sound) ?_)
      rw [regions]
      exact List.subset_append_left _ _

/-- A link that is made is last and has the next number, and all else stays. -/
theorem MadeOf.addLink (made : network.MadeOf usable declared wishes) (wish : LinkSpec)
    (accepted : ((Network.addLink wish).run network).1.isOk) :
    ((Network.addLink wish).run network).2.MadeOf usable declared (wishes ++ [wish]) := by
  rw [network.run_addLink made.sound wish] at accepted ⊢
  cases approved : network.approve wish with
  | error fault =>
    rw [approved] at accepted
    cases accepted
  | ok named =>
    obtain ⟨_, _, checked⟩ := (Traversal.bind_ok_iff _ _ _).mp approved
    obtain ⟨spec, resolves, checked⟩ := (Traversal.bind_ok_iff _ _ _).mp checked
    obtain ⟨_, passed, same⟩ := (Traversal.bind_ok_iff _ _ _).mp checked
    cases same
    have sound := network.sound_joined made.sound named passed
    have regions := network.unlinked_joined named
    have stays := resolveEndpoints_of_unlinked _ _ (network.indexed_of_sound made.sound)
      (indexed_of_sound _ sound) (regions ▸ List.Subset.refl _)
    obtain ⟨specs, links, count, resolved⟩ := made.links
    refine ⟨sound, rfl, rfl, made.iteration, ?_, specs ++ [named], ?_, ?_, ?_⟩
    · rw [regions]
      exact made.regions
    · rw [registered_append, ← links, ← count]
      rfl
    · rw [List.length_append, ← count]
      rfl
    · exact List.rel_append (resolved.imp stays) (.cons (stays wish named resolves) .nil)

/-- Whatever the order in which regions and links were added, the network is made of its
declarations and wishes. -/
theorem madeOf_of_assembled (assembled : Assembled usable declared wishes network) :
    network.MadeOf usable declared wishes := by
  induction assembled with
  | new settings => exact madeOf_new settings
  | addRegion _ _ _ _ declaration registry known accepted inductionHypothesis =>
    exact inductionHypothesis.addRegion declaration registry known accepted
  | addLink _ _ _ _ wish accepted inductionHypothesis =>
    exact inductionHypothesis.addLink wish accepted

/-! ### Two networks of the same declarations -/

variable {first second : Network κ}

/-- The regions of one network are among those of the other, but for links and places. -/
theorem MadeOf.subset (deterministic : Registry.Deterministic usable)
    (made : first.MadeOf usable declared wishes) (madeToo : second.MadeOf usable others wishes)
    (among : declared ⊆ others) :
    first.regions.map Region.unlinked ⊆ second.regions.map Region.unlinked := by
  intro plain member
  obtain ⟨declaration, declares, registry, region, known, makes, rfl⟩ :=
    Traversal.exists_of_forall₂ made.regions plain member
  obtain ⟨like, present, other, twin, knownToo, makesToo, rfl⟩ :=
    Traversal.exists_of_forall₂ madeToo.regions.flip declaration (among declares)
  rw [deterministic registry other declaration region twin known knownToo makes makesToo]
  exact present

/-- The same wishes are registered as the same links where regions have the same
specifications. -/
theorem MadeOf.links_eq (made : first.MadeOf usable declared wishes)
    (madeToo : second.MadeOf usable others wishes)
    (among : first.regions.map Region.unlinked ⊆ second.regions.map Region.unlinked) :
    first.links = second.links := by
  obtain ⟨specs, links, _, resolved⟩ := made.links
  obtain ⟨specsToo, linksToo, _, resolvedToo⟩ := madeToo.links
  have stays := resolveEndpoints_of_unlinked _ _ (first.indexed_of_sound made.sound)
    (second.indexed_of_sound madeToo.sound) among
  have here := (Traversal.mapM_ok_iff second.resolveEndpoints wishes specs).mpr
    (resolved.imp stays)
  have there := (Traversal.mapM_ok_iff second.resolveEndpoints wishes specsToo).mpr resolvedToo
  rw [links, linksToo, Except.ok.inj (here.symm.trans there)]

/-- Where the links are the same, regions that are the same but for links and places are the
same but for places. -/
theorem bare_of_unlinked (soundFirst : first.wiring.Sound) (soundSecond : second.wiring.Sound)
    (links : first.links = second.links) (region like : Region κ) (member : region ∈ first.regions)
    (present : like ∈ second.regions) (same : region.unlinked = like.unlinked) :
    region.bare = like.bare := by
  have wired : first.wiring.links = second.wiring.links := congrArg (List.map _) links
  rw [← first.rewire_unlinked soundFirst region member,
    ← second.rewire_unlinked soundSecond like present, same]
  unfold Wiring.leaving Wiring.entering
  rw [wired]

/-- Networks put together of the same declarations in any two orders, with the same links,
differ in the order of their regions only. -/
theorem rearranged_of_assembled (deterministic : Registry.Deterministic usable)
    (assembled : Assembled usable declared wishes first)
    (assembledToo : Assembled usable others wishes second) (same : declared.Perm others) :
    first.Rearranged second := by
  have made := madeOf_of_assembled assembled
  have madeToo := madeOf_of_assembled assembledToo
  have among := made.subset deterministic madeToo same.subset
  have amongToo := madeToo.subset deterministic made same.symm.subset
  have links := made.links_eq madeToo among
  refine ⟨?_, links, made.iteration.trans madeToo.iteration.symm⟩
  refine regions_of_likes Region.bare (fun _ _ => Region.name_of_bare) first second
    (first.indexed_of_sound made.sound) (second.indexed_of_sound madeToo.sound) ?_ ?_
  · intro region member
    obtain ⟨like, present, alike⟩ := List.mem_map.mp (among (List.mem_map_of_mem member))
    exact ⟨like, present, bare_of_unlinked madeToo.sound made.sound links.symm like region present
      member alike⟩
  · intro like member
    obtain ⟨region, present, alike⟩ := List.mem_map.mp (amongToo (List.mem_map_of_mem member))
    exact ⟨region, present, bare_of_unlinked made.sound madeToo.sound links region like present
      member alike⟩

end Network

end RegionGraph
