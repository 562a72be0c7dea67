import RegionGraph.Network.Checkpoint
import RegionGraph.Proofs.Effects

/-!
# What loading makes

Loading replays the topology of a bundle with the operations that build a network
by hand: every region is inserted under a new name, and every link has to be
approved. A bundle is trusted in nothing else. So whatever holds of no regions and
is kept by adding regions and links holds of every network that was loaded, and
sound wiring is such a property.
-/

namespace RegionGraph

variable {κ : Type}

namespace Region

/-- Putting saved outputs in place changes nothing but the contents of outputs. -/
theorem restoreOutputs_ok (region restored : Region κ) (saved : List (String × Buffer))
    (done : region.restoreOutputs saved = .ok restored) :
    ∃ outputs, restored = { region with outputs } ∧
      outputs.map (fun _ output => output.port) = region.outputs.map (fun _ output => output.port)
      := by
  induction saved generalizing region with
  | nil =>
    cases done
    exact ⟨_, rfl, rfl⟩
  | cons first rest inductionHypothesis =>
    obtain ⟨next, placed, done⟩ := (Traversal.bind_ok_iff _ _ _).mp done
    have kept := region.view_modifyOutput Endpoint.port next first.1 _
      (fun endpoint after made => endpoint.port_restore after first.2 made) placed
    obtain ⟨_, _, placed⟩ := (Traversal.bind_ok_iff _ _ _).mp placed
    obtain ⟨changed, _, placed⟩ := (Traversal.bind_ok_iff _ _ _).mp placed
    cases placed
    obtain ⟨outputs, rfl, ports⟩ := inductionHypothesis _ done
    exact ⟨outputs, rfl, ports.trans (congrArg Node.outputs kept)⟩

/-- A restored region is wired as a new one. -/
theorem view_restored (name type : String) (spec : Spec) (record : RegionRecord) (state : κ)
    (region : Region κ) (done : restored name type spec record state = .ok region) :
    region.view Endpoint.port = (new name type spec record.params state).view Endpoint.port := by
  obtain ⟨middle, placed, done⟩ := (Traversal.bind_ok_iff _ _ _).mp done
  cases done
  obtain ⟨outputs, rfl, ports⟩ := restoreOutputs_ok _ middle _ placed
  simp only [view, ports]

end Region

namespace Network

/-- What loading one region has found, and what it adds. -/
theorem loadRegion_ok (network next : Network κ) (bundle : Bundle) (entry : RegionEntry)
    (registry later : Registry κ)
    (loaded : (loadRegion network bundle entry).run registry = (.ok next, later)) :
    network.hasRegion entry.name = false ∧
      ∃ record state middle spec region, bundle.readRegion entry.name = .ok record ∧
        record.type = entry.type ∧
        (Registry.restore entry.type record entry.name).run registry = (.ok state, middle) ∧
        (Registry.spec entry.type).run middle = (.ok spec, later) ∧
        Region.restored entry.name entry.type spec record state = .ok region ∧
        next = network.insertRegion region := by
  unfold loadRegion at loaded
  by_cases taken : network.hasRegion entry.name
  · simp only [taken, if_true] at loaded
    obtain ⟨_, _, impossible, _⟩ := (Edit.run_bind_ok_iff _ _ _ _ _).mp loaded
    cases (Prod.mk.inj impossible).1
  · simp only [taken, Bool.false_eq_true, if_false] at loaded
    obtain ⟨record, start, read, loaded⟩ := (Edit.run_bind_ok_iff _ _ _ _ _).mp loaded
    obtain ⟨lifted, rfl⟩ := (Edit.run_lift_ok_iff _ _ _ _).mp read
    have found := (Traversal.mapError_ok_iff _ _ _).mp lifted
    by_cases types : record.type = entry.type
    · simp only [types, ne_eq, not_true_eq_false, if_false] at loaded
      obtain ⟨state, middle, restored, loaded⟩ := (Edit.run_bind_ok_iff _ _ _ _ _).mp loaded
      obtain ⟨spec, last, described, loaded⟩ := (Edit.run_bind_ok_iff _ _ _ _ _).mp loaded
      obtain ⟨region, final, placed, finished⟩ := (Edit.run_bind_ok_iff _ _ _ _ _).mp loaded
      obtain ⟨made, rfl⟩ := (Edit.run_lift_ok_iff _ _ _ _).mp placed
      obtain ⟨inserted, rfl⟩ := Prod.mk.inj finished
      exact ⟨by simpa using taken, record, state, middle, spec, region, found, types, restored,
        described, made, (Except.ok.inj inserted).symm⟩
    · simp only [types, ne_eq, not_false_eq_true, if_true] at loaded
      obtain ⟨_, _, impossible, _⟩ := (Edit.run_bind_ok_iff _ _ _ _ _).mp loaded
      cases (Prod.mk.inj impossible).1

/-- The snapshots that are put in place are those of the new link, which is the last. -/
theorem links_resumed (network : Network κ) (sound : network.wiring.Sound) (named : LinkSpec)
    (pending : List Buffer) :
    (network.joined named).links.map (fun link =>
        if link.id = ⟨network.nextLinkId⟩ then { link with pending } else link) =
      network.links ++ [⟨⟨network.nextLinkId⟩, named, pending⟩] := by
  have numbered : ∀ link ∈ network.links, link.id ≠ ⟨network.nextLinkId⟩ := by
    intro link member same
    have below := sound.numbered (link.id, link.spec) (List.mem_map_of_mem member)
    rw [same] at below
    exact Nat.lt_irrefl _ below
  have others : network.links.map (fun link =>
      if link.id = ⟨network.nextLinkId⟩ then { link with pending } else link) = network.links := by
    refine (List.map_congr_left fun link member => ?_).trans (List.map_id network.links)
    exact if_neg (numbered link member)
  simp only [joined, invalidated, List.map_append, List.map_cons, List.map_nil, Link.new, others,
    if_true]

/-- Loading one link admits it like any other, and then puts its snapshots in place. -/
theorem loadLink_ok (network next : Network κ) (sound : network.wiring.Sound)
    (record : LinkRecord) (loaded : network.loadLink record = .ok next) :
    ∃ named, network.approve record.spec = .ok named ∧
      next = { network.joined named with
        links := (network.joined named).links.map (fun link =>
          if link.id = ⟨network.nextLinkId⟩ then { link with pending := record.pending }
          else link) } := by
  rw [loadLink, network.run_addLink sound] at loaded
  cases approved : network.approve record.spec with
  | error fault =>
    simp only [approved] at loaded
    cases loaded
  | ok named =>
    simp only [approved] at loaded
    exact ⟨named, rfl, (Except.ok.inj loaded).symm⟩

/-- Loading is loading all regions, then all links, then the count of cycles. -/
theorem load_ok (bundle : Bundle) (settings : NetworkSettings) (network : Network κ)
    (registry later : Registry κ)
    (loaded : (load bundle settings).run registry = (.ok network, later)) :
    ∃ topology unlinked linked, bundle.readTopology = .ok topology ∧
      (topology.regions.foldlM (fun network entry => loadRegion network bundle entry)
        (Network.new settings)).run registry = (.ok unlinked, later) ∧
      topology.links.foldlM loadLink unlinked = .ok linked ∧
      network = { linked with iteration := topology.iteration } := by
  obtain ⟨topology, start, read, loaded⟩ := (Edit.run_bind_ok_iff _ _ _ _ _).mp loaded
  obtain ⟨lifted, rfl⟩ := (Edit.run_lift_ok_iff _ _ _ _).mp read
  have found := (Traversal.mapError_ok_iff _ _ _).mp lifted
  obtain ⟨unlinked, last, regions, loaded⟩ := (Edit.run_bind_ok_iff _ _ _ _ _).mp loaded
  obtain ⟨linked, final, links, finished⟩ := (Edit.run_bind_ok_iff _ _ _ _ _).mp loaded
  obtain ⟨joined, rfl⟩ := (Edit.run_lift_ok_iff _ _ _ _).mp links
  obtain ⟨made, rfl⟩ := Prod.mk.inj finished
  exact ⟨topology, unlinked, linked, found, regions, joined, (Except.ok.inj made).symm⟩

/-- A loaded region keeps the wiring sound. -/
theorem sound_loadRegion (network next : Network κ) (sound : network.wiring.Sound)
    (bundle : Bundle) (entry : RegionEntry) (registry later : Registry κ)
    (loaded : (loadRegion network bundle entry).run registry = (.ok next, later)) :
    next.wiring.Sound := by
  obtain ⟨fresh, record, state, _, spec, region, _, _, _, _, made, rfl⟩ :=
    network.loadRegion_ok next bundle entry registry later loaded
  have view := Region.view_restored entry.name entry.type spec record state region made
  have name : region.name = entry.name := congrArg Node.name view
  have free := links_new entry.name entry.type spec record.params state
  refine network.sound_insertRegion sound region (name ▸ fresh) ?_ ?_
  · rw [view]
    exact free.1
  · rw [view]
    exact free.2

/-- A loaded link keeps the wiring sound. -/
theorem sound_loadLink (network next : Network κ) (sound : network.wiring.Sound)
    (record : LinkRecord) (loaded : network.loadLink record = .ok next) : next.wiring.Sound := by
  obtain ⟨named, approved, rfl⟩ := network.loadLink_ok next sound record loaded
  have kept := network.sound_addLink sound record.spec
  rw [network.run_addLink sound, approved] at kept
  refine Eq.mpr (congrArg Wiring.Sound ?_) kept
  refine wiring_of_frames _ (network.joined named) rfl rfl ?_ rfl
  rw [List.map_map]
  apply List.map_congr_left
  intro link _
  simp only [Function.comp_apply]
  split <;> rfl

/-- Whatever all steps of loading keep holds of the loaded network. The steps see soundly
wired networks only, and registries that have learnt in earlier steps. -/
theorem load_keeps (motive : Network κ → Prop) (learned : Registry κ → Prop) (bundle : Bundle)
    (settings : NetworkSettings)
    (network : Network κ) (registry later : Registry κ)
    (loaded : (load bundle settings).run registry = (.ok network, later))
    (begins : motive (Network.new settings)) (known : learned registry)
    (regions : ∀ former entry next before after, motive former → learned before →
      (loadRegion former bundle entry).run before = (.ok next, after) →
      motive next ∧ learned after)
    (links : ∀ (former : Network κ) record next, former.wiring.Sound → motive former →
      former.loadLink record = .ok next → motive next)
    (counted : ∀ former iteration, motive former → motive { former with iteration }) :
    network.wiring.Sound ∧ motive network := by
  obtain ⟨topology, unlinked, linked, _, added, joined, rfl⟩ :=
    load_ok bundle settings network registry later loaded
  have wired : (unlinked.wiring.Sound ∧ motive unlinked) ∧ learned later := by
    refine Edit.foldlM_keeps
      (fun network registry => (network.wiring.Sound ∧ motive network) ∧ learned registry)
      _ _ _ _ _ _ added ⟨⟨Wiring.sound_empty 0, begins⟩, known⟩ ?_
    rintro former entry next before after _ ⟨⟨sound, holds⟩, learns⟩ made
    obtain ⟨kept, more⟩ := regions former entry next before after holds learns made
    exact ⟨⟨former.sound_loadRegion next sound bundle entry before after made, kept⟩, more⟩
  have finished := Traversal.foldlM_keeps
    (fun network => network.wiring.Sound ∧ motive network) _ _ _ _ joined wired.1 (by
      rintro former record next _ ⟨sound, holds⟩ made
      exact ⟨former.sound_loadLink next sound record made, links former record next sound holds made⟩)
  exact ⟨finished.1, counted linked topology.iteration finished.2⟩

/-- Whatever bundle it was made of, a loaded network is wired soundly and unbuilt. -/
theorem sound_load (bundle : Bundle) (settings : NetworkSettings) (network : Network κ)
    (registry later : Registry κ)
    (loaded : (load bundle settings).run registry = (.ok network, later)) :
    network.wiring.Sound ∧ network.state = .unbuilt ∧ network.order = none := by
  refine load_keeps (fun network => network.state = .unbuilt ∧ network.order = none)
    (fun _ => True) bundle settings network registry later loaded ⟨rfl, rfl⟩ trivial ?_ ?_
    (fun _ _ fresh => fresh)
  · intro former entry next before after _ _ made
    obtain ⟨_, _, _, _, _, _, _, _, _, _, _, rfl⟩ :=
      former.loadRegion_ok next bundle entry before after made
    exact ⟨⟨rfl, rfl⟩, trivial⟩
  · intro former record next sound _ made
    obtain ⟨_, _, rfl⟩ := former.loadLink_ok next sound record made
    exact ⟨rfl, rfl⟩

end Network

end RegionGraph
