import RegionGraph.Proofs.Approval
import RegionGraph.Proofs.Coherence
import RegionGraph.Proofs.Completion

/-!
# Regions from their records

A bundle comes from outside, and whatever is wrong with it has to be found while it is loaded:
listed regions may have no record, or one of another type, or be listed twice; types may be
unknown or described badly; saved outputs may not be declared. Loading asks for all of this and
for nothing else, so it is told before which regions are made again, and what they are.

Looking types up teaches the registry, but the same types are found and the same specifications
are in force all the time. So every region is judged by the registry as it was in the beginning.
-/

namespace RegionGraph

variable {κ : Type}

/-- The topology that is read is the one that a bundle has. -/
theorem Bundle.readTopology_ok_iff (bundle : Bundle) (topology : Topology) :
    bundle.readTopology = .ok topology ↔ bundle.topology = some topology := by
  unfold readTopology
  cases bundle.topology <;> simp

/-- The record that is read is the one that a bundle has. -/
theorem Bundle.readRegion_ok_iff (bundle : Bundle) (name : String) (record : RegionRecord) :
    bundle.readRegion name = .ok record ↔ bundle.records.get? name = some record := by
  unfold readRegion
  cases bundle.records.get? name <;> simp

/-- A listed region can be made again: it has a record of its type, the type that the registry
finds makes an implementation of the record, a valid specification is in force for the type, and
this declares every saved output for elements of the same type. -/
structure Listed (registry : Registry κ) (bundle : Bundle) (entry : RegionEntry)
    (record : RegionRecord) (spec : Spec) (state : κ) : Prop where
  recorded : bundle.records.get? entry.name = some record
  typed : record.type = entry.type
  restores : ∃ type, ((Registry.resolve entry.type).run registry).1 = .ok type ∧
    type.restore record entry.name entry.type = .ok state
  described : ((Registry.spec entry.type).run registry).1 = .ok spec
  valid : spec.validate entry.type = .ok ()
  outputs : ∀ name buffer, record.outputs.get? name = some buffer →
    ∃ declared, spec.output? name = some declared ∧ declared.type = buffer.type

/-- Registries that find the same types and have the same specifications in force make the same
regions again. -/
theorem Listed.congr (first second : Registry κ) (found : second.found = first.found)
    (described : second.described? = first.described?) (bundle : Bundle) (entry : RegionEntry)
    (record : RegionRecord) (spec : Spec) (state : κ) :
    Listed first bundle entry record spec state ↔ Listed second bundle entry record spec state := by
  have same (one other : Registry κ) (found : other.found = one.found)
      (described : other.described? = one.described?)
      (listed : Listed one bundle entry record spec state) :
      Listed other bundle entry record spec state := by
    obtain ⟨type, resolved, made⟩ := listed.restores
    refine ⟨listed.recorded, listed.typed, ⟨type, ?_, made⟩, ?_, listed.valid, listed.outputs⟩
    · rw [Registry.resolved_iff, found, ← Registry.resolved_iff]
      exact resolved
    · rw [Registry.described_iff, described, ← Registry.described_iff]
      exact listed.described
  exact ⟨same first second found described, same second first found.symm described.symm⟩

namespace Region

/-- Putting saved outputs in place, each of which has the type of its output, puts all of
them in place. -/
theorem restoreOutputs_eq (region : Region κ) (saved : NameMap Buffer)
    (fits : ∀ entry ∈ saved.entries, ∃ endpoint, region.outputs.get? entry.1 = some endpoint ∧
      endpoint.buffer.type = entry.2.type) :
    region.restoreOutputs saved.entries = .ok { region with
      outputs := region.outputs.map (fun name endpoint =>
        { endpoint with buffer := (saved.get? name).getD endpoint.buffer }) } := by
  have unrolled (entries : List (String × Buffer)) (current : Region κ) :
      current.restoreOutputs entries = entries.foldlM (fun current entry =>
        current.modifyOutput entry.1 (fun endpoint => endpoint.restore entry.2)) current := by
    induction entries generalizing current with
    | nil => rfl
    | cons entry rest inductionHypothesis =>
      rw [restoreOutputs, List.foldlM_cons]
      simp only [inductionHypothesis]
  have placed := region.foldlM_modifyOutput saved.entries saved.names_nodup
    (fun buffer endpoint => endpoint.restore buffer)
    (fun buffer endpoint => { endpoint with buffer }) (by
      intro entry member
      obtain ⟨endpoint, present, type⟩ := fits entry member
      exact ⟨endpoint, present, if_pos type.symm⟩)
  rw [unrolled, placed, NameMap.revised_entries]
  refine congrArg (fun outputs => Except.ok { region with outputs }) ?_
  apply NameMap.map_congr
  intro name endpoint _
  cases saved.get? name <;> rfl

/-- Saved outputs that could be put in place have the types of their outputs. -/
theorem fits_of_restoreOutputs (region restored : Region κ) (saved : List (String × Buffer))
    (done : region.restoreOutputs saved = .ok restored) :
    ∀ entry ∈ saved, ∃ endpoint, region.outputs.get? entry.1 = some endpoint ∧
      endpoint.buffer.type = entry.2.type := by
  induction saved generalizing region with
  | nil => exact fun _ impossible => absurd impossible List.not_mem_nil
  | cons first rest inductionHypothesis =>
    obtain ⟨next, placed, others⟩ := (Traversal.bind_ok_iff _ _ _).mp done
    have ports := region.view_modifyOutput (fun endpoint => endpoint.buffer.type) next first.1 _
      (fun endpoint after made => congrArg Port.type (endpoint.port_restore after first.2 made))
      placed
    obtain ⟨endpoint, found, placed⟩ := (Traversal.bind_ok_iff _ _ _).mp placed
    obtain ⟨_, put, _⟩ := (Traversal.bind_ok_iff _ _ _).mp placed
    intro entry member
    rcases List.mem_cons.mp member with rfl | later
    · refine ⟨endpoint, (region.output_ok_iff entry.1 endpoint).mp found, ?_⟩
      simp only [Endpoint.restore] at put
      split at put
      case isTrue same => exact same.symm
      case isFalse differs => cases put
    · obtain ⟨after, present, type⟩ := inductionHypothesis next others entry later
      have same := congrArg (fun node => node.outputs.get? entry.1) ports
      simp only [view, NameMap.get?_map, present, Option.map_some] at same
      obtain ⟨before, there, types⟩ := Option.map_eq_some_iff.mp same.symm
      exact ⟨before, there, types.trans type⟩

/-- The region that is made again of a record. -/
def recalled (entry : RegionEntry) (record : RegionRecord) (spec : Spec) (state : κ) : Region κ :=
  let fresh := Region.new entry.name entry.type spec record.params state
  { fresh with
    outputs := fresh.outputs.map (fun name endpoint =>
      { endpoint with buffer := (record.outputs.get? name).getD endpoint.buffer })
    initialized := record.initialized }

section Valid

variable (spec : Spec) (type : String) (valid : spec.validate type = .ok ())

include valid

/-- A new region has the outputs that a valid specification declares. -/
theorem outputs_new (name : String) (params : Params) (state : κ) (output : String) :
    (new name type spec params state).outputs.get? output = (spec.output? output).map
      fun declared => Endpoint.new name output declared.type declared.isDefault :=
  NameMap.get?_ofList_table spec.outputs (spec.endpoints_of_valid type valid).1
    (fun output declared => Endpoint.new name output declared.type declared.isDefault) output

/-- A new region has the inputs that a valid specification declares. -/
theorem inputs_new (name : String) (params : Params) (state : κ) (input : String) :
    (new name type spec params state).inputs.get? input = (spec.input? input).map
      fun declared => Input.new name input declared.type declared.required declared.isDefault :=
  NameMap.get?_ofList_table spec.inputs (spec.endpoints_of_valid type valid).2
    (fun input declared =>
      Input.new name input declared.type declared.required declared.isDefault) input

/-- A region is restored exactly if every saved output is declared for elements of its type. -/
theorem restored_ok_iff (name : String) (record : RegionRecord) (state : κ) (region : Region κ) :
    restored name type spec record state = .ok region ↔
      (∀ output buffer, record.outputs.get? output = some buffer →
        ∃ declared, spec.output? output = some declared ∧ declared.type = buffer.type) ∧
      region = recalled ⟨name, type⟩ record spec state := by
  have declaredIff (output : String) (buffer : Buffer) :
      (∃ endpoint, (new name type spec record.params state).outputs.get? output = some endpoint ∧
        endpoint.buffer.type = buffer.type) ↔
      ∃ declared, spec.output? output = some declared ∧ declared.type = buffer.type := by
    rw [outputs_new spec type valid]
    cases spec.output? output <;> simp [Endpoint.new, Buffer.new]
  have placedIff : (∀ output buffer, record.outputs.get? output = some buffer →
        ∃ declared, spec.output? output = some declared ∧ declared.type = buffer.type) ↔
      ∀ entry ∈ record.outputs.entries, ∃ endpoint,
        (new name type spec record.params state).outputs.get? entry.1 = some endpoint ∧
          endpoint.buffer.type = entry.2.type := by
    simp only [declaredIff, Prod.forall, NameMap.mem_entries_iff]
  rw [placedIff, restored, Traversal.bind_ok_iff]
  constructor
  · rintro ⟨middle, placed, made⟩
    have fits := fits_of_restoreOutputs _ middle _ placed
    rw [restoreOutputs_eq _ record.outputs fits] at placed
    cases placed
    cases made
    exact ⟨fits, rfl⟩
  · rintro ⟨fits, rfl⟩
    exact ⟨_, restoreOutputs_eq _ record.outputs fits, rfl⟩

end Valid

end Region

/-- What is lasting about a region is what its record tells, with the endpoints that are
declared. A declared output that was not saved has no storage. -/
structure Essence.Recalls (essence : Essence κ) (entry : RegionEntry) (record : RegionRecord)
    (description : Spec) (implementation : κ) : Prop where
  name : essence.name = entry.name
  type : essence.type = entry.type
  spec : essence.spec = description
  params : essence.params = record.params
  state : essence.state = implementation
  initialized : essence.initialized = record.initialized
  outputs : ∀ name, essence.outputs.get? name = (description.output? name).map fun declared =>
    (record.outputs.get? name).getD (.new declared.type)
  inputs : ∀ name, essence.inputs.get? name = (description.input? name).map fun declared =>
    (declared.type, declared.required)

/-- What is lasting about a region that was made again is what was recorded. -/
theorem Region.recalls_recalled (entry : RegionEntry) (record : RegionRecord) (spec : Spec)
    (valid : spec.validate entry.type = .ok ()) (state : κ) :
    (recalled entry record spec state).essence.Recalls entry record spec state where
  name := rfl
  type := rfl
  spec := rfl
  params := rfl
  state := rfl
  initialized := rfl
  outputs name := by
    simp only [essence, recalled, NameMap.get?_map, outputs_new spec entry.type valid,
      Option.map_map]
    rfl
  inputs name := by
    simp only [essence, recalled, NameMap.get?_map, inputs_new spec entry.type valid,
      Option.map_map]
    rfl

/-- A region that recalls its record has the endpoints that its description declares. -/
theorem Essence.Recalls.asDeclared {essence : Essence κ} {entry : RegionEntry}
    {record : RegionRecord} {spec : Spec} {state : κ}
    (recalls : essence.Recalls entry record spec state)
    (outputs : ∀ name buffer, record.outputs.get? name = some buffer →
      ∃ declared, spec.output? name = some declared ∧ declared.type = buffer.type) :
    essence.AsDeclared where
  outputs name := by
    rw [recalls.outputs, recalls.spec, Option.map_map]
    refine Option.map_congr fun declared present => ?_
    cases saved : record.outputs.get? name with
    | none => simp [Buffer.new]
    | some buffer =>
      obtain ⟨other, same, types⟩ := outputs name buffer saved
      cases present.symm.trans same
      simp [types]
  inputs name := by
    rw [recalls.inputs, recalls.spec, Option.map_map]
    rfl

/-- A region that recalls a record with exactly the declared outputs is saved as this record, if
its implementation saves the recorded state. -/
theorem Region.record_of_recalls [Implementation κ] (region : Region κ) (entry : RegionEntry)
    (record : RegionRecord) (spec : Spec) (state : κ)
    (recalls : region.essence.Recalls entry record spec state)
    (typed : record.type = entry.type)
    (outputs : ∀ name, (record.outputs.get? name).isSome = (spec.output? name).isSome)
    (saves : Implementation.save state = .ok record.state) : region.record = .ok record := by
  have saved : Implementation.save region.state = .ok record.state := by
    rw [show region.state = state from recalls.state, saves]
  have contents : region.essence.outputs = record.outputs := by
    apply NameMap.ext_get?
    intro name
    rw [recalls.outputs]
    have known := outputs name
    cases present : record.outputs.get? name with
    | none =>
      rw [present] at known
      have undeclared := Option.isNone_iff_eq_none.mp (Option.isSome_eq_false_iff.mp known.symm)
      rw [undeclared, Option.map_none]
    | some buffer =>
      rw [present] at known
      obtain ⟨declared, described⟩ := Option.isSome_iff_exists.mp known.symm
      rw [described, Option.map_some, Option.getD_some]
  rw [Region.record, saved]
  obtain ⟨type, params, bytes, buffers, initialized⟩ := record
  have sameType : region.type = type := recalls.type.trans typed.symm
  have sameParams : region.params = params := recalls.params
  have sameStart : region.initialized = initialized := recalls.initialized
  rw [Traversal.ok_bind, sameType, sameParams, sameStart,
    show region.outputs.map (fun _ endpoint => endpoint.buffer) = buffers from contents]
  rfl

/-! ### Listed regions, one after the other -/

/-- The region that a listed one is made again as. -/
def Restores (registry : Registry κ) (bundle : Bundle) (entry : RegionEntry) (region : Region κ) :
    Prop :=
  ∃ record spec state, Listed registry bundle entry record spec state ∧
    region = .recalled entry record spec state

/-- What a region is made again as is told by the types found and the specifications in force. -/
theorem Restores.congr (first second : Registry κ) (found : second.found = first.found)
    (described : second.described? = first.described?) (bundle : Bundle) :
    Restores second bundle = Restores first bundle := by
  funext entry region
  simp only [Restores, Listed.congr first second found described]

namespace Network

/-- A saved region is added if its name is new, its record has its type, and the registry
makes of the record what the region is restored from. -/
theorem run_loadRegion (network : Network κ) (bundle : Bundle) (name type : String)
    (record : RegionRecord) (state : κ) (spec : Spec) (copy : Region κ)
    (registry middle later : Registry κ) (fresh : network.hasRegion name = false)
    (read : bundle.readRegion name = .ok record) (same : record.type = type)
    (restoring : (Registry.restore type record name).run registry = (.ok state, middle))
    (described : (Registry.spec type).run middle = (.ok spec, later))
    (placed : Region.restored name type spec record state = .ok copy) :
    (loadRegion network bundle ⟨name, type⟩).run registry =
      (.ok (network.insertRegion copy), later) := by
  have lifted : liftBundle (bundle.readRegion name) = .ok record := by
    rw [read]
    rfl
  simp only [loadRegion, fresh, Bool.false_eq_true, if_false, same, ne_eq, not_true_eq_false,
    Edit.run_bind, Edit.run_lift, lifted, restoring, described, placed, Edit.run_pure]

/-- A further region is the last of a network that is unbuilt. -/
theorem essences_insertRegion (network : Network κ) (region : Region κ) :
    (network.insertRegion region).regions.map Region.essence =
      network.regions.map Region.essence ++ [region.essence] :=
  Region.essence_linkFree.map_insertRegion network region

variable (bundle : Bundle)

/-- A listed region whose name is new is added as it is made again. -/
theorem run_loadRegion_of_restores (network : Network κ) (entry : RegionEntry) (region : Region κ)
    (registry : Registry κ) (fresh : network.hasRegion entry.name = false)
    (restores : Restores registry bundle entry region) :
    ∃ later, later.found = registry.found ∧ later.described? = registry.described? ∧
      (loadRegion network bundle entry).run registry =
        (.ok (network.insertRegion region), later) := by
  obtain ⟨record, spec, state, listed, made⟩ := restores
  obtain ⟨type, resolved, implementation⟩ := listed.restores
  have finds := (registry.resolved_iff entry.type type).mp resolved
  have describes := (registry.described_iff entry.type spec).mp listed.described
  obtain ⟨middle, foundMiddle, describedMiddle, restoring⟩ :=
    registry.run_restore_described entry.type type finds record entry.name
  rw [implementation] at restoring
  obtain ⟨later, foundLater, describedLater, told⟩ := middle.run_spec_described entry.type
  rw [describedMiddle, describes] at told
  have placed := (Region.restored_ok_iff spec entry.type listed.valid entry.name record state
    region).mpr ⟨listed.outputs, made⟩
  have read := (bundle.readRegion_ok_iff entry.name record).mpr listed.recorded
  refine ⟨later, foundLater.trans foundMiddle, describedLater.trans describedMiddle, ?_⟩
  exact network.run_loadRegion bundle entry.name entry.type record state spec region registry middle
    later fresh read listed.typed restoring told placed

/-- A region that was loaded is a listed one, whose name was new, as it is made again. The same
types are found afterwards, and the same specifications are in force. -/
theorem restores_of_loadRegion (network next : Network κ) (entry : RegionEntry)
    (registry later : Registry κ) (describing : registry.Describing)
    (loaded : (loadRegion network bundle entry).run registry = (.ok next, later)) :
    later.found = registry.found ∧ later.described? = registry.described? ∧
      network.hasRegion entry.name = false ∧
      ∃ region, Restores registry bundle entry region ∧ next = network.insertRegion region := by
  obtain ⟨fresh, record, state, middle, spec, region, read, typed, restoring, told, placed, rfl⟩ :=
    network.loadRegion_ok next bundle entry registry later loaded
  obtain ⟨_, type, finds, implementation⟩ :=
    registry.restore_found middle entry.type record entry.name state restoring
  obtain ⟨same, foundMiddle, describedMiddle, ran⟩ :=
    registry.run_restore_described entry.type type finds record entry.name
  cases (Prod.mk.inj (restoring.symm.trans ran)).2
  obtain ⟨last, foundLater, describedLater, telling⟩ := middle.run_spec_described entry.type
  rw [describedMiddle] at telling
  have recorded := (bundle.readRegion_ok_iff entry.name record).mp read
  cases describes : registry.described? entry.type with
  | none =>
    rw [describes] at telling
    obtain ⟨fault, failed⟩ := telling
    cases (Prod.mk.inj (told.symm.trans failed)).1
  | some inForce =>
    rw [describes] at telling
    cases told.symm.trans telling
    have valid := describing entry.type spec describes
    obtain ⟨outputs, made⟩ :=
      (Region.restored_ok_iff spec entry.type valid entry.name record state region).mp placed
    refine ⟨foundLater.trans foundMiddle, describedLater.trans describedMiddle, fresh, region,
      ⟨record, spec, state, ?_, made⟩, rfl⟩
    exact ⟨recorded, typed, ⟨type, (registry.resolved_iff _ _).mpr finds, implementation⟩,
      (registry.described_iff _ _).mpr describes, valid, outputs⟩

/-- Regions that are added one after the other. -/
def insertAll (network : Network κ) (regions : List (Region κ)) : Network κ :=
  regions.foldl insertRegion network

/-- Names of regions have nothing to do with links and levels. -/
theorem name_linkFree : LinkFree (Region.name (κ := κ)) :=
  ⟨fun _ _ _ => rfl, fun _ _ => rfl⟩

/-- The entries of a topology are loaded exactly if their names are new and different and every
entry can be made again. What comes out has the regions made again, in their order. -/
theorem loadRegions_ok_iff (entries : List RegionEntry) (start after : Network κ)
    (sound : start.wiring.Sound) (registry : Registry κ) (describing : registry.Describing) :
    ((entries.foldlM (fun network entry => loadRegion network bundle entry) start).run
        registry).1 = .ok after ↔
      (start.regions.map Region.name ++ entries.map RegionEntry.name).Nodup ∧
        ∃ regions, List.Forall₂ (Restores registry bundle) entries regions ∧
          after = start.insertAll regions := by
  have indexed := start.indexed_of_sound sound
  induction entries generalizing start registry with
  | nil =>
    rw [List.map_nil, List.append_nil]
    constructor
    · intro loaded
      cases loaded
      exact ⟨distinct_of_indexed _ indexed, [], .nil, rfl⟩
    · rintro ⟨_, _, each, rfl⟩
      cases each
      rfl
  | cons entry rest inductionHypothesis =>
    -- What loading the others asks for, put in terms of the network and registry before.
    have others (region : Region κ) (later : Registry κ) (found : later.found = registry.found)
        (described : later.described? = registry.described?)
        (restores : Restores registry bundle entry region)
        (loaded : (loadRegion start bundle entry).run registry =
          (.ok (start.insertRegion region), later)) :
        ((rest.foldlM (fun network entry => loadRegion network bundle entry)
            (start.insertRegion region)).run later).1 = .ok after ↔
          (start.regions.map Region.name ++ (entry :: rest).map RegionEntry.name).Nodup ∧
            ∃ regions, List.Forall₂ (Restores registry bundle) rest regions ∧
              after = (start.insertRegion region).insertAll regions := by
      have soundNext := start.sound_loadRegion _ sound bundle entry registry later loaded
      have name : region.name = entry.name := by
        obtain ⟨_, _, _, _, rfl⟩ := restores
        rfl
      refine (inductionHypothesis (start.insertRegion region) soundNext later
        (fun type spec inForce => describing type spec (described ▸ inForce))
        (indexed_of_sound _ soundNext)).trans ?_
      rw [Restores.congr registry later found described, name_linkFree.map_insertRegion, name,
        List.append_assoc]
      rfl
    rw [List.foldlM_cons, Edit.outcome_bind_ok_iff]
    constructor
    · rintro ⟨next, first, loaded⟩
      rcases ran : (loadRegion start bundle entry).run registry with ⟨outcome, later⟩
      rw [ran] at first loaded
      cases first
      obtain ⟨found, described, _, region, restores, rfl⟩ :=
        restores_of_loadRegion bundle start next entry registry later describing ran
      obtain ⟨distinct, regions, each, made⟩ :=
        (others region later found described restores ran).mp loaded
      exact ⟨distinct, region :: regions, .cons restores each, made⟩
    · rintro ⟨distinct, _, each, made⟩
      cases each with
      | @cons _ region _ regions restores each =>
        have fresh : start.hasRegion entry.name = false := by
          refine (start.hasRegion_eq_false_iff indexed entry.name).mpr fun present => ?_
          exact (List.nodup_append.mp distinct).2.2 entry.name present entry.name
            List.mem_cons_self rfl
        obtain ⟨later, found, described, ran⟩ :=
          run_loadRegion_of_restores bundle start entry region registry fresh restores
        refine ⟨start.insertRegion region, by rw [ran], ?_⟩
        rw [ran]
        exact (others region later found described restores ran).mpr
          ⟨distinct, regions, each, made⟩

/-- Regions that are added come last, and nothing else is changed but what building has found
out. -/
theorem insertAll_keeps (network : Network κ) (regions : List (Region κ)) :
    (network.insertAll regions).regions.map Region.essence =
        network.regions.map Region.essence ++ regions.map Region.essence ∧
      (network.insertAll regions).links = network.links ∧
      (network.insertAll regions).nextLinkId = network.nextLinkId ∧
      (network.insertAll regions).settings = network.settings ∧
      (network.state = .unbuilt → (network.insertAll regions).state = .unbuilt) := by
  induction regions generalizing network with
  | nil => exact ⟨(List.append_nil _).symm, rfl, rfl, rfl, id⟩
  | cons region rest inductionHypothesis =>
    obtain ⟨essences, links, next, settings, state⟩ :=
      inductionHypothesis (network.insertRegion region)
    rw [essences_insertRegion, List.append_assoc] at essences
    exact ⟨essences, links, next, settings, fun _ => state rfl⟩

/-- Loading regions keeps the wiring sound. -/
theorem sound_loadRegions (entries : List RegionEntry) (start after : Network κ)
    (sound : start.wiring.Sound) (registry later : Registry κ)
    (loaded : (entries.foldlM (fun network entry => loadRegion network bundle entry) start).run
      registry = (.ok after, later)) : after.wiring.Sound :=
  Edit.foldlM_keeps (fun network _ => network.wiring.Sound) _ _ _ _ _ _ loaded sound
    fun former entry next before middle _ sound made =>
      former.sound_loadRegion next sound bundle entry before middle made

end Network

end RegionGraph
