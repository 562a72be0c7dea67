import RegionGraph.Proofs.Copying
import RegionGraph.Proofs.Faultless

/-!
# Annals of networks of built-in regions

What an implementation has computed is told beside the network, from the calls that it
went through: for each name the deeds of the region of that name since it was added, which
are its computations and the parameters that it was given. A copy that is loaded from a
checkpoint has the annals of the network that was saved, at the moment at which it was
saved. A property of a state and the deeds that led to it holds of every region if it
holds of new ones and every deed keeps it.
-/

namespace RegionGraph

variable {κ ω : Type}

/-- What an implementation does, or takes, that its state may tell of later. -/
inductive Deed (κ : Type) where
  /-- A parameter was given a value. -/
  | set (name : String) (value : Value)
  /-- A computation: the region with its inputs filled, and what came of it. -/
  | computed (before after : Region κ) (outcome : Except GraphError Unit)

/-- The deeds of the region of each name since it was added, in order. -/
def Annals (κ : Type) : Type := String → List (Deed κ)

namespace Annals

/-- Annals of no deeds. -/
def empty : Annals κ := fun _ => []

/-- Deeds come after all earlier ones. -/
def note (annals : Annals κ) (deeds : List (String × Deed κ)) : Annals κ :=
  fun name => annals name ++ (deeds.filter (fun entry => entry.1 = name)).map Prod.snd

/-- A region is added: there are no deeds under its name. -/
def begin (annals : Annals κ) (name : String) : Annals κ :=
  fun other => if other = name then [] else annals other

/-- Nothing is noted. -/
@[simp] theorem note_nil (annals : Annals κ) : annals.note [] = annals := by
  funext name
  exact List.append_nil _

/-- Notes come one after the other. -/
theorem note_append (annals : Annals κ) (first second : List (String × Deed κ)) :
    annals.note (first ++ second) = (annals.note first).note second := by
  funext name
  simp only [note, List.filter_append, List.map_append, List.append_assoc]

/-- A deed is noted under its name and under no other. -/
theorem note_singleton (annals : Annals κ) (name other : String) (deed : Deed κ) :
    annals.note [(name, deed)] other =
      if name = other then annals other ++ [deed] else annals other := by
  by_cases same : name = other <;> simp [note, same]

end Annals

/-- What a region is known by: its name and the state of its implementation. -/
def Region.identity (region : Region κ) : String × κ := (region.name, region.state)

namespace Network

/-! ### Deeds of calls -/

section Deeds

variable [Implementation κ]

/-- The computation in a turn. There is none if the inputs cannot be filled. -/
def turnDeeds (network : Network κ) (index : Nat) : List (String × Deed κ) :=
  match network.regions[index]? with
  | none => []
  | some region =>
    match network.fillInputs region with
    | (.error _, _) => []
    | (.ok _, filled) =>
      let (after, outcome) := filled.compute network.iteration network.settings.profiling
      [(region.name, .computed filled after outcome)]

/-- The computations in turns one after the other, up to the first that fails. -/
def turnsDeeds (network : Network κ) : List Nat → List (String × Deed κ)
  | [] => []
  | index :: rest =>
    network.turnDeeds index ++
      match (step index).run network with
      | (.ok _, after) => after.turnsDeeds rest
      | (.error _, _) => []

/-- The computations in cycles, up to the cycle that fails or after which a watcher halts. -/
def cyclesDeeds [Watcher κ ω] (order : List Nat) :
    Nat → Network κ → List ω → List (String × Deed κ)
  | 0, _, _ => []
  | more + 1, network, watchers =>
    network.turnsDeeds order ++
      match (cycle order).run network with
      | (.error _, _) => []
      | (.ok _, after) =>
        match after.notifyAll watchers with
        | (_, .halt) => []
        | (watchers, .continue) => cyclesDeeds order more after watchers

/-- The computations in a run. -/
def runDeeds [Watcher κ ω] (network : Network κ) (cycles : Nat) (watchers : List ω) :
    List (String × Deed κ) :=
  match network.ready with
  | (.error _, _) => []
  | (.ok _, after) =>
    match after.order with
    | none => []
    | some order => cyclesDeeds order cycles { after with state := .running } watchers

/-- A parameter that was set. -/
def setDeeds (network : Network κ) (region name : String) (value : Value) :
    List (String × Deed κ) :=
  match ((setParameter region name value).run network).1 with
  | .ok _ => [(region, .set name value)]
  | .error _ => []

end Deeds

/-- The annals after a call that is to add a region. -/
def addedAnnals (network : Network κ) (annals : Annals κ) (registry : Registry κ)
    (name type : String) (params : Params) : Annals κ :=
  match ((addRegion name type params).run (registry, network)).1 with
  | .ok _ => annals.begin name
  | .error _ => annals

/-- A network of built-in regions and its annals: it was made empty and went through any calls,
each of which may have succeeded or failed, and at any time it may have been loaded from what it
saved at that time or before. A run may have any number of cycles, so whatever is saved at the
end of a cycle is saved between two calls. What is saved has fewer sums than 2^64, which is what
a record has room to say. -/
inductive Chronicled (kind : String → Option (RegionType Builtin)) :
    Network Builtin → Annals Builtin → Prop where
  | new (settings : NetworkSettings) : Chronicled kind (Network.new settings) .empty
  | addRegion {network : Network Builtin} {annals : Annals Builtin}
      (earlier : Chronicled kind network annals) (registry : Registry Builtin)
      (offers : registry.Offers kind) (name type : String) (params : Params) :
      Chronicled kind (network.added registry name type params)
        (network.addedAnnals annals registry name type params)
  | removeRegion {network : Network Builtin} {annals : Annals Builtin}
      (earlier : Chronicled kind network annals) (name : String) :
      Chronicled kind ((removeRegion name).run network).2 annals
  | addLink {network : Network Builtin} {annals : Annals Builtin}
      (earlier : Chronicled kind network annals) (spec : LinkSpec) :
      Chronicled kind ((addLink spec).run network).2 annals
  | linkDefault {network : Network Builtin} {annals : Annals Builtin}
      (earlier : Chronicled kind network annals) (source destination : String) :
      Chronicled kind ((linkDefault source destination).run network).2 annals
  | removeLink {network : Network Builtin} {annals : Annals Builtin}
      (earlier : Chronicled kind network annals) (id : LinkId) :
      Chronicled kind ((removeLink id).run network).2 annals
  | build {network : Network Builtin} {annals : Annals Builtin}
      (earlier : Chronicled kind network annals) :
      Chronicled kind ((build (κ := Builtin)).run network).2 annals
  | run {network : Network Builtin} {annals : Annals Builtin}
      (earlier : Chronicled kind network annals) (ω : Type) [Watcher Builtin ω] (cycles : Nat)
      (watchers : List ω) :
      Chronicled kind (network.run cycles watchers).network
        (annals.note (network.runDeeds cycles watchers))
  | stop {network : Network Builtin} {annals : Annals Builtin}
      (earlier : Chronicled kind network annals) :
      Chronicled kind ((stop (κ := Builtin)).run network).2 annals
  | setParameter {network : Network Builtin} {annals : Annals Builtin}
      (earlier : Chronicled kind network annals) (region name : String) (value : Value) :
      Chronicled kind ((setParameter region name value).run network).2
        (annals.note (network.setDeeds region name value))
  | restore {network copy : Network Builtin} {annals : Annals Builtin}
      (earlier : Chronicled kind network annals)
      (storable : ∀ region ∈ network.regions, region.state.Storable) (timestamp : UInt64)
      (bundle : Bundle) (saved : network.save timestamp = .ok bundle) (settings : NetworkSettings)
      (registry later : Registry Builtin) (offers : registry.Offers kind)
      (loaded : (load bundle settings).run registry = (.ok copy, later)) :
      Chronicled kind copy annals

/-- Chronicled networks are reachable. -/
theorem reachable_of_chronicled (kind : String → Option (RegionType Builtin))
    (network : Network Builtin) (annals : Annals Builtin)
    (chronicled : Chronicled kind network annals) :
    network.Reachable (fun registry => registry.Offers kind) := by
  induction chronicled with
  | new settings => exact .new settings
  | addRegion _ registry offers name type params before =>
    exact .step _ _ before (.addRegion _ registry name type params offers)
  | removeRegion _ name before => exact .step _ _ before (.removeRegion _ name)
  | addLink _ spec before => exact .step _ _ before (.addLink _ spec)
  | linkDefault _ source destination before =>
    exact .step _ _ before (.linkDefault _ source destination)
  | removeLink _ id before => exact .step _ _ before (.removeLink _ id)
  | build _ before => exact .step _ _ before (.build _)
  | run _ ω cycles watchers before => exact .step _ _ before (.run ω _ cycles watchers)
  | stop _ before => exact .step _ _ before (.stop _)
  | setParameter _ region name value before =>
    exact .step _ _ before (.setParameter _ region name value)
  | restore _ _ _ bundle _ settings registry later offers loaded _ =>
    exact .load bundle settings registry later _ offers loaded

/-- Where nothing was done yet, a new region leaves it so. -/
theorem addedAnnals_empty [Implementation κ] (network : Network κ) (registry : Registry κ)
    (name type : String) (params : Params) :
    network.addedAnnals .empty registry name type params = .empty := by
  unfold addedAnnals
  split
  · funext other
    exact ite_self []
  · rfl

/-- Nothing was done yet by regions that were put together. -/
theorem chronicled_putTogether (kind : String → Option (RegionType Builtin))
    (offers : (Registry.registerAll ∅ Builtin.types).Offers kind) (declared : List Declaration)
    (wishes : List LinkSpec) : Chronicled kind (putTogether declared wishes) .empty := by
  have populated (network : Network Builtin) (before : Chronicled kind network .empty) :
      Chronicled kind (declared.foldl (fun network declaration =>
        network.added (Registry.registerAll ∅ Builtin.types) declaration.name declaration.type
          declaration.params) network) .empty := by
    induction declared generalizing network with
    | nil => exact before
    | cons first rest inductionHypothesis =>
      have added := before.addRegion _ offers first.name first.type first.params
      rw [addedAnnals_empty] at added
      exact inductionHypothesis _ added
  have linked (network : Network Builtin) (before : Chronicled kind network .empty) :
      Chronicled kind (wishes.foldl (fun network wish => ((addLink wish).run network).2) network)
        .empty := by
    induction wishes generalizing network with
    | nil => exact before
    | cons wish rest inductionHypothesis => exact inductionHypothesis _ (before.addLink wish)
  exact linked _ (populated _ (.new default))

/-! ### What the annals tell -/

section Told

variable (honest : κ → List (Deed κ) → Prop) (follows : List (Deed κ) → Deed κ → Prop)

/-- The state of each region goes with its deeds, and every deed with those before it. -/
structure Told (network : Network κ) (annals : Annals κ) : Prop where
  honest : ∀ region ∈ network.regions, honest region.state (annals region.name)
  follows : ∀ name earlier deed later, annals name = earlier ++ deed :: later →
    follows earlier deed

variable {honest follows} {network : Network κ} {annals : Annals κ}

/-- Regions that are known already add nothing to tell. -/
theorem Told.of_identities (told : network.Told honest follows annals) (next : Network κ)
    (known : ∀ region ∈ next.regions, region.identity ∈ network.regions.map Region.identity) :
    next.Told honest follows annals where
  honest := by
    intro region member
    obtain ⟨former, present, same⟩ := List.mem_map.mp (known region member)
    obtain ⟨name, state⟩ := Prod.mk.inj same
    rw [← name, ← state]
    exact told.honest former present
  follows := told.follows

/-- A list of regions with the same identities adds nothing to tell. -/
theorem Told.of_same (told : network.Told honest follows annals) (next : Network κ)
    (same : next.regions.map Region.identity = network.regions.map Region.identity) :
    next.Told honest follows annals :=
  told.of_identities next (fun _ member => same ▸ List.mem_map_of_mem member)

/-- A deed of one region changes that region and goes after its earlier ones. -/
theorem Told.deed (told : network.Told honest follows annals) (indexed : network.Indexed)
    (index : Nat) (region changed : Region κ) (found : network.regions[index]? = some region)
    (name : changed.name = region.name) (deed : Deed κ)
    (kept : honest changed.state (annals region.name ++ [deed]))
    (following : follows (annals region.name) deed) :
    { network with regions := network.regions.set index changed }.Told honest follows
      (annals.note [(region.name, deed)]) where
  honest := by
    intro other member
    rw [Annals.note_singleton]
    obtain ⟨place, stands⟩ := List.mem_iff_getElem?.mp member
    rw [List.getElem?_set] at stands
    by_cases here : index = place
    · rw [if_pos here, if_pos (List.getElem?_eq_some_iff.mp found).1, Option.some.injEq] at stands
      subst stands
      rw [name, if_pos rfl]
      exact kept
    · rw [if_neg here] at stands
      -- Names are unique, so no other region has the new deed.
      have elsewhere : region.name ≠ other.name := by
        intro same
        have first := network.position?_of_stands indexed index region found
        have second := (network.position?_eq_some_iff indexed region.name place).mpr
          ⟨other, stands, same.symm⟩
        exact here (Option.some.inj (first.symm.trans second))
      rw [if_neg elsewhere]
      exact told.honest other (List.mem_of_getElem? stands)
  follows := by
    intro other earlier last later split
    rw [Annals.note_singleton] at split
    by_cases same : region.name = other
    · subst same
      rw [if_pos rfl] at split
      -- Either the new deed comes last or the split is one of the earlier deeds.
      rcases List.eq_nil_or_concat later with rfl | ⟨front, final, rfl⟩
      · obtain ⟨same, ends⟩ := List.append_inj' split rfl
        rw [← same, ← (List.cons.inj ends).1]
        exact following
      · rw [List.concat_eq_append, ← List.cons_append, ← List.append_assoc] at split
        exact told.follows region.name earlier last front (List.append_inj' split rfl).1
    · rw [if_neg same] at split
      exact told.follows other earlier last later split

end Told

/-- A property of states and the deeds that led to them, with what each deed says to the deeds
before it: it holds of new states, and deeds keep it. The region of a computation has outputs
of the lengths that it answers. -/
structure Lasting (kind : String → Option (RegionType Builtin))
    (honest : Builtin → List (Deed Builtin) → Prop)
    (follows : List (Deed Builtin) → Deed Builtin → Prop) : Prop where
  created : ∀ (name typeName : String) (type : RegionType Builtin) (params : Params)
    (state : Builtin), kind typeName = some type → type.create params name typeName = .ok state →
    honest state []
  set : ∀ (region changed : Region Builtin) (name : String) (value : Value)
    (deeds : List (Deed Builtin)), Builtin.Conforms kind region.core →
    region.setParameter name value = (changed, .ok ()) → honest region.state deeds →
    honest changed.state (deeds ++ [.set name value]) ∧ follows deeds (.set name value)
  computed : ∀ (region : Region Builtin) (iteration : UInt64) (profiling : Bool)
    (deeds : List (Deed Builtin)), Builtin.Conforms kind region.core →
    region.Answered → honest region.state deeds →
    honest (region.compute iteration profiling).1.state
        (deeds ++ [.computed region (region.compute iteration profiling).1
          (region.compute iteration profiling).2]) ∧
      follows deeds (.computed region (region.compute iteration profiling).1
        (region.compute iteration profiling).2)

section Lasting

variable {kind : String → Option (RegionType Builtin)}
  {honest : Builtin → List (Deed Builtin) → Prop}
  {follows : List (Deed Builtin) → Deed Builtin → Prop} (lasting : Lasting kind honest follows)
  {network : Network Builtin} {annals : Annals Builtin}

/-! ### Cycles -/

/-- A turn keeps a network sturdy. -/
theorem Sturdy.step {order : List Nat} (sturdy : network.Sturdy kind order) (index : Nat) :
    ((Network.step index).run network).2.Sturdy kind order := by
  obtain ⟨regions, effect, frames, marks⟩ := step_effect index network
  have evolves := evolves_step index network
  have wiring := wiring_of_frames { network with regions } network frames rfl rfl rfl
  rw [effect] at evolves ⊢
  exact sturdy.of_evolves _ wiring evolves frames rfl (built_of_frames network _ order sturdy.built
    frames rfl rfl (shaped_of_links network _ frames.symm rfl rfl sturdy.built.shaped) marks)

include lasting

/-- A turn of a sturdy network is told. -/
theorem Told.turn {order : List Nat} (sturdy : network.Sturdy kind order)
    (told : network.Told honest follows annals) (index : Nat) :
    ((Network.step index).run network).2.Told honest follows
      (annals.note (network.turnDeeds index)) := by
  rw [run_step, turnDeeds]
  cases found : network.regions[index]? with
  | none =>
    rw [Annals.note_nil]
    exact told
  | some region =>
    have member := List.mem_of_getElem? found
    obtain ⟨filled, fills⟩ :=
      network.fillInputs_of_shaped sturdy.sound sturdy.built.shaped region member
    have core := Region.core_fillInputs network region
    rw [fills] at core
    have state : filled.state = region.state := congrArg Core.state core
    have kept := lasting.computed filled network.iteration network.settings.profiling
      (annals region.name) (core.symm ▸ sturdy.conforms region member)
      (sturdy.answered region filled member fills) (state ▸ told.honest region member)
    have name : (filled.compute network.iteration network.settings.profiling).1.name =
        region.name :=
      (congrArg Core.name (filled.core_compute _ _)).trans (congrArg Core.name core)
    simp only [fills]
    exact told.deed (network.indexed_of_sound sturdy.sound) index region _ found name _ kept.1
      kept.2

/-- Turns one after the other are told. -/
theorem Told.turns {order : List Nat} (turns : List Nat) (sturdy : network.Sturdy kind order)
    (told : network.Told honest follows annals) :
    ((Network.stepAll turns).run network).2.Told honest follows
      (annals.note (network.turnsDeeds turns)) := by
  induction turns generalizing network annals with
  | nil =>
    rw [turnsDeeds, Annals.note_nil]
    exact told
  | cons index rest inductionHypothesis =>
    have sturdyNext := sturdy.step index
    have toldNext := told.turn lasting sturdy index
    rw [turnsDeeds, Annals.note_append, run_stepAll_cons]
    rcases stepped : (Network.step index).run network with ⟨outcome, after⟩
    rw [stepped] at sturdyNext toldNext
    cases outcome with
    | error fault =>
      rw [Annals.note_nil]
      exact toldNext.of_same _ rfl
    | ok _ => exact inductionHypothesis sturdyNext toldNext

/-- A cycle is told. -/
theorem Told.cycle {order : List Nat} (sturdy : network.Sturdy kind order)
    (told : network.Told honest follows annals) :
    ((Network.cycle order).run network).2.Told honest follows
      (annals.note (network.turnsDeeds order)) :=
  (told.turns lasting order sturdy).of_same _
    (congrArg (List.map Region.identity) (regions_cycle order network))

/-- Cycles are told, whoever watches. -/
theorem Told.cycles [Watcher Builtin ω] {order : List Nat} (cycles : Nat)
    (watchers : List ω) (sturdy : network.Sturdy kind order)
    (told : network.Told honest follows annals) :
    (runCycles order cycles network watchers).network.Told honest follows
      (annals.note (cyclesDeeds order cycles network watchers)) := by
  induction cycles generalizing network annals watchers with
  | zero =>
    rw [cyclesDeeds, Annals.note_nil]
    exact told.of_same _ rfl
  | succ more inductionHypothesis =>
    have sturdyNext := sturdy.cycle
    have toldNext := told.cycle lasting sturdy
    rw [cyclesDeeds, runCycles, Annals.note_append]
    rcases cycled : (Network.cycle order).run network with ⟨outcome, after⟩
    rw [cycled] at sturdyNext toldNext
    cases outcome with
    | error fault =>
      rw [Annals.note_nil]
      exact toldNext
    | ok _ =>
      rcases notified : after.notifyAll watchers with ⟨others, control⟩
      simp only [notified]
      cases control with
      | halt =>
        rw [Annals.note_nil]
        exact toldNext.of_same _ rfl
      | «continue» => exact inductionHypothesis others sturdyNext toldNext

end Lasting

/-! ### Other calls -/

/-- A reachable network with an order is sturdy when it starts to run. -/
theorem sturdy_of_reachable (kind : String → Option (RegionType Builtin))
    (stock : Builtin.Stock kind) (network : Network Builtin)
    (reachable : network.Reachable (fun registry => registry.Offers kind)) (order : List Nat)
    (ordered : network.order = some order) :
    Sturdy kind { network with state := .running } order where
  sound := sound_of_reachable _ network reachable
  built := built_of_same network _ order
    ((settled_of_reachable _ network reachable).built order ordered) rfl rfl rfl
  ordered := ordered
  steady := steady_of_evolves network _ (sound_of_reachable _ network reachable) rfl
    (.of_cores rfl) rfl rfl (steady_of_reachable _ network reachable)
  conforms := Builtin.conforms_of_reachable kind stock network reachable

/-- Building keeps the identities of regions, since built-in implementations start as they
are. -/
theorem identities_build (network : Network Builtin) (sound : network.wiring.Sound) :
    ((build (κ := Builtin)).run network).2.regions.map Region.identity =
      network.regions.map Region.identity := by
  refine build_keeps (fun after => after.regions.map Region.identity =
    network.regions.map Region.identity) network rfl ?_
  unfold rebuilt
  cases planned : network.plan with
  | error fault => rfl
  | ok plan =>
    have shaped : (network.sized plan).regions.map Region.identity =
        network.regions.map Region.identity :=
      network.map_sizedRegions plan Region.identity (fun _ _ => rfl)
    have started := startAll_keeps (fun after => after.regions.map Region.identity =
      network.regions.map Region.identity) (by
        intro current index region found same
        refine (map_set_of_eq _ current.regions index region _ found ?_).trans same
        rw [Region.start, Builtin.start_eq]
        split <;> rfl) plan.schedule.order (network.sized plan) shaped
    simp only [network.shape_of_fits sound plan (network.fits_of_plan sound plan planned)]
    rcases begun : (plan.schedule.order.forM startAt).run (network.sized plan) with
      ⟨outcome, after⟩
    rw [begun] at started
    cases outcome <;> exact started

/-- Identities are told without a look at links and levels. -/
theorem identity_linkFree : LinkFree (Region.identity (κ := κ)) :=
  ⟨fun _ _ _ => rfl, fun _ _ => rfl⟩

section Lasting

variable {kind : String → Option (RegionType Builtin)} (stock : Builtin.Stock kind)
  {honest : Builtin → List (Deed Builtin) → Prop}
  {follows : List (Deed Builtin) → Deed Builtin → Prop} (lasting : Lasting kind honest follows)
  {network : Network Builtin} {annals : Annals Builtin}
  (reachable : network.Reachable (fun registry => registry.Offers kind))

include reachable

/-- Building tells nothing new. -/
theorem Told.build (told : network.Told honest follows annals) :
    ((Network.build (κ := Builtin)).run network).2.Told honest follows annals :=
  told.of_same _ (network.identities_build (sound_of_reachable _ network reachable))

/-- Making a link tells nothing new. -/
theorem Told.addLink (told : network.Told honest follows annals) (spec : LinkSpec) :
    ((Network.addLink spec).run network).2.Told honest follows annals := by
  rw [network.run_addLink (sound_of_reachable _ network reachable) spec]
  cases network.approve spec with
  | error fault => exact told
  | ok named => exact told.of_same _ (identity_linkFree.map_joined network named)

/-- Removing a link tells nothing new. -/
theorem Told.removeLink (told : network.Told honest follows annals) (id : LinkId) :
    ((Network.removeLink id).run network).2.Told honest follows annals := by
  rw [network.run_removeLink (sound_of_reachable _ network reachable) id]
  cases network.ensureMutable with
  | error fault => exact told
  | ok _ =>
    cases network.link? id with
    | none => exact told
    | some link =>
      exact told.of_same _ ((identity_linkFree.map_invalidated _).trans
        (identity_linkFree.map_without network [id]))

/-- Removing a region tells nothing new of the others. -/
theorem Told.removeRegion (told : network.Told honest follows annals) (name : String) :
    ((Network.removeRegion name).run network).2.Told honest follows annals := by
  rw [network.run_removeRegion (sound_of_reachable _ network reachable) name]
  cases network.ensureMutable with
  | error fault => exact told
  | ok _ =>
    cases network.position name with
    | error fault => exact told
    | ok _ =>
      refine told.of_identities _ ?_
      intro region member
      have kept : region.identity ∈ (network.withoutRegion name).regions.map Region.identity :=
        List.mem_map_of_mem member
      rw [identity_linkFree.map_withoutRegion] at kept
      obtain ⟨former, remains, same⟩ := List.mem_map.mp kept
      exact List.mem_map.mpr ⟨former, List.mem_of_mem_filter remains, same⟩

include stock lasting

/-- A run is told, also if the network is built on the way. -/
theorem Told.run [Watcher Builtin ω] (told : network.Told honest follows annals) (cycles : Nat)
    (watchers : List ω) :
    (network.run cycles watchers).network.Told honest follows
      (annals.note (network.runDeeds cycles watchers)) := by
  have prepared : network.ready.2.Told honest follows annals ∧
      network.ready.2.Reachable (fun registry => registry.Offers kind) := by
    unfold ready
    split
    · exact ⟨told, reachable⟩
    · exact ⟨told.build reachable, .step _ _ reachable (.build network)⟩
  unfold Network.run runDeeds
  rcases made : network.ready with ⟨outcome, after⟩
  rw [made] at prepared
  obtain ⟨toldThen, reachableThen⟩ := prepared
  cases outcome with
  | error fault =>
    rw [Annals.note_nil]
    exact toldThen
  | ok _ =>
    simp only
    cases ordered : after.order with
    | none =>
      rw [Annals.note_nil]
      exact toldThen
    | some order =>
      have sturdy := sturdy_of_reachable kind stock after reachableThen order ordered
      rw [ordered] at sturdy
      exact Told.cycles lasting cycles watchers sturdy (toldThen.of_same _ rfl)

omit stock in
/-- Setting a parameter is told. -/
theorem Told.setParameter (conforms : ∀ region ∈ network.regions, Builtin.Conforms kind region.core)
    (told : network.Told honest follows annals) (region name : String) (value : Value) :
    ((Network.setParameter region name value).run network).2.Told honest follows
      (annals.note (network.setDeeds region name value)) := by
  have indexed := network.indexed_of_sound (sound_of_reachable _ network reachable)
  rw [setDeeds, run_setParameter]
  cases found : network.region region with
  | error fault =>
    rw [Annals.note_nil]
    exact told
  | ok owner =>
    obtain ⟨member, rfl⟩ := (network.region_ok_iff indexed region owner).mp found
    obtain ⟨index, stands⟩ := List.mem_iff_getElem?.mp member
    have located := network.position?_of_stands indexed index owner stands
    rcases tried : owner.setParameter name value with ⟨changed, fault | _⟩
    case error =>
      -- Built-in implementations change nothing before they refuse.
      obtain rfl := Builtin.setParameter_rejected owner changed name value fault tried
      have unchanged : network.regions.set index changed = network.regions := by
        obtain ⟨inside, rfl⟩ := List.getElem?_eq_some_iff.mp stands
        exact List.set_getElem_self inside
      simp only [setRegion, located, tried, unchanged, Annals.note_nil]
      exact told
    case ok =>
      have kept := lasting.set owner changed name value (annals owner.name)
        (conforms owner member) tried (told.honest owner member)
      have same : changed.name = owner.name := by
        have names := congrArg Frame.name (owner.frame_setParameter name value).1
        rw [tried] at names
        exact names
      simp only [setRegion, located, tried]
      exact told.deed indexed index owner changed stands same _ kept.1 kept.2

omit stock in
/-- Adding a region opens its annals. -/
theorem Told.added (told : network.Told honest follows annals) (registry : Registry Builtin)
    (offers : registry.Offers kind) (name type : String) (params : Params) :
    (network.added registry name type params).Told honest follows
      (network.addedAnnals annals registry name type params) := by
  unfold Network.added addedAnnals
  rcases outcome : (addRegion name type params).run (registry, network) with
    ⟨fault | _, later, next⟩
  case error =>
    rw [network.addRegion_error next registry later name type params fault outcome]
    exact told
  case ok =>
    obtain ⟨free, spec, completed, state, middle, made, _, rfl⟩ :=
      network.addRegion_ok next registry later name type params outcome
    obtain ⟨_, kinds, offered, _, creation⟩ :=
      Registry.create_ok kind registry middle offers type params completed name state made
    constructor
    · intro region member
      obtain ⟨former, listed, rfl⟩ := List.mem_map.mp member
      rcases List.mem_append.mp listed with before | new
      · have other : former.name ≠ name := by
          rintro rfl
          exact (network.hasRegion_eq_false_iff (network.indexed_of_sound
            (sound_of_reachable _ network reachable)) former.name).mp free
              (List.mem_map_of_mem before)
        show honest former.state (if former.name = name then [] else annals former.name)
        rw [if_neg other]
        exact told.honest former before
      · rw [List.mem_singleton.mp new]
        show honest state (if name = name then [] else annals name)
        rw [if_pos rfl]
        exact lasting.created name type kinds completed state offered creation
    · intro other earlier deed rest split
      simp only [Annals.begin] at split
      by_cases same : other = name
      · rw [if_pos same] at split
        cases earlier <;> cases split
      · rw [if_neg same] at split
        exact told.follows other earlier deed rest split

end Lasting

/-- Whatever holds of new states and is kept by deeds holds of every chronicled network. -/
theorem told_of_chronicled (kind : String → Option (RegionType Builtin))
    (stock : Builtin.Stock kind) (honest : Builtin → List (Deed Builtin) → Prop)
    (follows : List (Deed Builtin) → Deed Builtin → Prop) (lasting : Lasting kind honest follows)
    (network : Network Builtin) (annals : Annals Builtin)
    (chronicled : Chronicled kind network annals) : network.Told honest follows annals := by
  induction chronicled with
  | new settings =>
    refine ⟨nofun, ?_⟩
    intro name earlier deed later split
    cases earlier <;> cases split
  | addRegion earlier registry offers name type params told =>
    exact told.added lasting (reachable_of_chronicled kind _ _ earlier) registry offers name type
      params
  | removeRegion earlier name told =>
    exact told.removeRegion (reachable_of_chronicled kind _ _ earlier) name
  | addLink earlier spec told => exact told.addLink (reachable_of_chronicled kind _ _ earlier) spec
  | linkDefault earlier source destination told =>
    exact told.addLink (reachable_of_chronicled kind _ _ earlier)
      (.betweenDefaults source destination)
  | removeLink earlier id told =>
    exact told.removeLink (reachable_of_chronicled kind _ _ earlier) id
  | build earlier told => exact told.build (reachable_of_chronicled kind _ _ earlier)
  | run earlier ω cycles watchers told =>
    exact told.run stock lasting (reachable_of_chronicled kind _ _ earlier) cycles watchers
  | stop _ told => exact told.of_same _ (congrArg (List.map Region.identity) (regions_stop _))
  | setParameter earlier region name value told =>
    have reachable := reachable_of_chronicled kind _ _ earlier
    exact told.setParameter lasting reachable
      (Builtin.conforms_of_reachable kind stock _ reachable) region name value
  | restore earlier storable timestamp bundle saved settings registry later offers loaded told =>
    have reachable := reachable_of_chronicled kind _ _ earlier
    obtain ⟨_, _, _, alsoSaved, alsoLoaded, alike⟩ := load_save kind stock _
      (sound_of_reachable _ _ reachable) (Builtin.conforms_of_reachable kind stock _ reachable)
      storable timestamp settings registry offers
    cases saved.symm.trans alsoSaved
    cases loaded.symm.trans alsoLoaded
    refine told.of_same _ ?_
    have same := congrArg (List.map (fun essence => (essence.name, essence.state))) alike.regions
    rw [List.map_map, List.map_map] at same
    exact same.symm

end Network

end RegionGraph
