import RegionGraph.Proofs.Codecs
import RegionGraph.Proofs.Steady

/-!
# Built-in regions and their parameters

What a built-in implementation keeps of its parameters is what the parameters of its
region say, at all times: values that are set reach both. The rest of its state is what
it writes into its record. So parameters and record together are the whole state, and a
region that is restored from them is the region that was saved.
-/

namespace RegionGraph

namespace Params

/-- Binding another name leaves what is read. -/
theorem element_insert_of_ne (params : Params) (type : ElementType) (name other : String)
    (value : Value) (distinct : other ≠ name) :
    Params.element (params.insert name value) type other = Params.element params type other := by
  simp only [element, require, NameMap.get?_insert_of_ne params value distinct]

/-- An element that an implementation read from a value is read from the parameters that
bind the value. -/
theorem element_of_readElement (params : Params) (type : ElementType) (name : String)
    (value : Value) (element : type.Carrier) (read : readElement type name value = .ok element) :
    Params.element (params.insert name value) type name = .ok element := by
  unfold readElement at read
  cases found : value.scalar?.bind (fun scalar => scalar.element? type) with
  | none =>
    simp only [found] at read
    cases read
  | some other =>
    simp only [found] at read
    simp only [Params.element, require, NameMap.get?_insert_self, Traversal.ok_bind, found]
    exact congrArg Except.ok (Except.ok.inj read)

end Params

namespace Builtin

/-- Starting a built-in implementation does nothing. -/
theorem start_eq (state : Builtin) : Implementation.start state = (state, .ok ()) := by
  cases state <;> rfl

/-- What an implementation of a type keeps of given parameters is what they say. -/
inductive Configured : RegionType Builtin → Params → Builtin → Prop where
  | counterSource (params : Params) (state : CounterSource)
      (read : CounterSource.configure params state.ticks = .ok state) :
      Configured (CounterSource.type.map .counterSource) params (.counterSource state)
  | incrementer (params : Params) (state : Incrementer)
      (read : Incrementer.configure params = .ok state) :
      Configured (Incrementer.type.map .incrementer) params (.incrementer state)
  | accumulator (params : Params) (state : Accumulator) :
      Configured (Accumulator.type.map .accumulator) params (.accumulator state)
  | scaler (params : Params) (state : Scaler) (read : Scaler.configure params = .ok state) :
      Configured (Scaler.type.map .scaler) params (.scaler state)

/-- A source is configured by its parameters, whatever it has computed. -/
theorem configure_ok_iff (params : Params) (ticks : UInt64) (source : CounterSource) :
    CounterSource.configure params ticks = .ok source ↔
      Params.element params .uint32 "width" = .ok source.width ∧ source.width ≠ 0 ∧
        Params.element params .int32 "start" = .ok source.start ∧
        Params.element params .int32 "step" = .ok source.step ∧ source.ticks = ticks := by
  unfold CounterSource.configure liftData
  constructor
  · intro made
    obtain ⟨width, widthRead, made⟩ := (Traversal.bind_ok_iff _ _ _).mp made
    have widthSaid := (Traversal.mapError_ok_iff _ _ _).mp widthRead
    by_cases none : width = 0
    · simp only [none, if_true] at made
      cases made
    · simp only [none, if_false] at made
      obtain ⟨start, startRead, made⟩ := (Traversal.bind_ok_iff _ _ _).mp made
      obtain ⟨step, stepRead, made⟩ := (Traversal.bind_ok_iff _ _ _).mp made
      cases made
      exact ⟨widthSaid, none, (Traversal.mapError_ok_iff _ _ _).mp startRead,
        (Traversal.mapError_ok_iff _ _ _).mp stepRead, rfl⟩
  · rintro ⟨width, some, start, step, rfl⟩
    rw [width, start, step]
    simp only [Except.mapError, Traversal.ok_bind, some, if_false]
    rfl

/-- An incrementer is configured by its parameter. -/
theorem incrementer_ok_iff (params : Params) (state : Incrementer) :
    Incrementer.configure params = .ok state ↔
      Params.element params .int32 "increment" = .ok state.increment := by
  unfold Incrementer.configure liftData
  constructor
  · intro made
    obtain ⟨increment, read, made⟩ := (Traversal.bind_ok_iff _ _ _).mp made
    cases made
    exact (Traversal.mapError_ok_iff _ _ _).mp read
  · intro read
    rw [read]
    rfl

/-- A scaler is configured by its parameter. -/
theorem scaler_ok_iff (params : Params) (state : Scaler) :
    Scaler.configure params = .ok state ↔
      Params.element params .real32 "gain" = .ok state.gain := by
  unfold Scaler.configure liftData
  constructor
  · intro made
    obtain ⟨gain, read, made⟩ := (Traversal.bind_ok_iff _ _ _).mp made
    cases made
    exact (Traversal.mapError_ok_iff _ _ _).mp read
  · intro read
    rw [read]
    rfl

/-- A change that was made whole was made by the attempt. -/
theorem of_wholly {κ : Type} (state changed : κ) (attempt : Except GraphError κ)
    (accepted : wholly state attempt = (changed, .ok ())) : attempt = .ok changed := by
  cases attempt with
  | ok made =>
    cases accepted
    rfl
  | error fault => cases accepted

/-- A change that is made whole or not at all is not made where it is refused. -/
theorem wholly_refused {κ : Type} (state : κ) (attempt : Except GraphError κ) (fault : GraphError)
    (refused : (wholly state attempt).2 = .error fault) : (wholly state attempt).1 = state := by
  cases attempt with
  | ok made => cases refused
  | error other => rfl

/-- What was taken within a wider kind of state was taken. -/
theorem of_within {κ : Type} (embed : κ → Builtin) (outcome : κ × Except GraphError Unit)
    (changed : Builtin) (taken : (embed outcome.1, outcome.2) = (changed, .ok ())) :
    ∃ later, outcome = (later, .ok ()) ∧ embed later = changed := by
  obtain ⟨same, result⟩ := Prod.mk.inj taken
  exact ⟨outcome.1, Prod.ext rfl result, same⟩

/-- A source takes its first value and its step, and nothing else. -/
theorem setParameter_source (source later : CounterSource) (name : String) (value : Value)
    (accepted : Implementation.setParameter source name value = (later, .ok ())) :
    ∃ element, readElement .int32 name value = .ok element ∧
      (name = "start" ∧ later = { source with start := element } ∨
        name = "step" ∧ later = { source with step := element }) := by
  replace accepted := of_wholly source later _ accepted
  by_cases first : name = "start"
  · rw [if_pos first] at accepted
    obtain ⟨element, read, made⟩ := (Traversal.bind_ok_iff _ _ _).mp accepted
    exact ⟨element, read, Or.inl ⟨first, (Except.ok.inj made).symm⟩⟩
  · by_cases second : name = "step"
    · rw [if_neg first, if_pos second] at accepted
      obtain ⟨element, read, made⟩ := (Traversal.bind_ok_iff _ _ _).mp accepted
      exact ⟨element, read, Or.inr ⟨second, (Except.ok.inj made).symm⟩⟩
    · rw [if_neg first, if_neg second] at accepted
      cases accepted

/-- Computing leaves an implementation configured. -/
theorem configured_compute (type : RegionType Builtin) (params : Params) (state : Builtin)
    (io : Exchange) (configured : Configured type params state) :
    Configured type params (Implementation.compute state io).state := by
  cases configured with
  | counterSource _ state read =>
    obtain ⟨width, some, start, step, _⟩ := (configure_ok_iff params state.ticks state).mp read
    have later (ticks : UInt64) : Configured (CounterSource.type.map .counterSource) params
        (.counterSource { state with ticks }) :=
      .counterSource params { state with ticks }
        ((configure_ok_iff params ticks _).mpr ⟨width, some, start, step, rfl⟩)
    have reached : ∃ ticks, (Implementation.compute (counterSource state) io).state =
        .counterSource { state with ticks } := by
      simp only [Implementation.compute, Outcome.map]
      split
      · exact ⟨_, rfl⟩
      · exact ⟨state.ticks, rfl⟩
    obtain ⟨ticks, same⟩ := reached
    exact same ▸ later ticks
  | incrementer _ state read =>
    have kept : (Implementation.compute (incrementer state) io).state = .incrementer state := by
      simp only [Implementation.compute, Outcome.map]
      split <;> rfl
    rw [kept]
    exact .incrementer params state read
  | accumulator _ state =>
    have reached : ∃ later, (Implementation.compute (accumulator state) io).state =
        .accumulator later := ⟨_, rfl⟩
    obtain ⟨later, same⟩ := reached
    exact same ▸ .accumulator params later
  | scaler _ state read =>
    have kept : (Implementation.compute (scaler state) io).state = .scaler state := by
      simp only [Implementation.compute, Outcome.map]
      split <;> rfl
    rw [kept]
    exact .scaler params state read

/-- A value that an implementation takes leaves it configured by the parameters that bind
the value. -/
theorem configured_setParameter (type : RegionType Builtin) (params : Params)
    (state changed : Builtin) (name : String) (value : Value)
    (configured : Configured type params state)
    (taken : Implementation.setParameter state name value = (changed, .ok ())) :
    Configured type (params.insert name value) changed := by
  cases configured with
  | counterSource _ state read =>
    obtain ⟨width, some, start, step, _⟩ := (configure_ok_iff params state.ticks state).mp read
    obtain ⟨source, accepted, rfl⟩ := of_within counterSource _ changed taken
    obtain ⟨element, written, ⟨rfl, rfl⟩ | ⟨rfl, rfl⟩⟩ :=
      setParameter_source state source name value accepted
    · refine .counterSource _ _ ((configure_ok_iff _ _ _).mpr ⟨?_, some, ?_, ?_, rfl⟩)
      · rw [params.element_insert_of_ne _ _ _ _ (by decide)]
        exact width
      · exact params.element_of_readElement .int32 "start" value element written
      · rw [params.element_insert_of_ne _ _ _ _ (by decide)]
        exact step
    · refine .counterSource _ _ ((configure_ok_iff _ _ _).mpr ⟨?_, some, ?_, ?_, rfl⟩)
      · rw [params.element_insert_of_ne _ _ _ _ (by decide)]
        exact width
      · rw [params.element_insert_of_ne _ _ _ _ (by decide)]
        exact start
      · exact params.element_of_readElement .int32 "step" value element written
  | incrementer _ state read =>
    obtain ⟨later, accepted, rfl⟩ := of_within incrementer _ changed taken
    replace accepted := of_wholly state later _ accepted
    by_cases named : name = "increment"
    · subst named
      rw [if_pos rfl] at accepted
      obtain ⟨element, written, accepted⟩ := (Traversal.bind_ok_iff _ _ _).mp accepted
      obtain rfl := Except.ok.inj accepted
      exact .incrementer _ _ ((incrementer_ok_iff _ _).mpr
        (params.element_of_readElement .int32 "increment" value element written))
    · simp only [named, if_false] at accepted
      cases accepted
  | accumulator _ state =>
    obtain ⟨later, _, rfl⟩ := of_within accumulator _ changed taken
    exact .accumulator _ later
  | scaler _ state read =>
    obtain ⟨later, accepted, rfl⟩ := of_within scaler _ changed taken
    replace accepted := of_wholly state later _ accepted
    by_cases named : name = "gain"
    · subst named
      rw [if_pos rfl] at accepted
      obtain ⟨element, written, accepted⟩ := (Traversal.bind_ok_iff _ _ _).mp accepted
      obtain rfl := Except.ok.inj accepted
      exact .scaler _ _ ((scaler_ok_iff _ _).mpr
        (params.element_of_readElement .real32 "gain" value element written))
    · simp only [named, if_false] at accepted
      cases accepted

/-- A built-in implementation is as before when it refuses a value. -/
theorem setParameter_refused (state : Builtin) (name : String) (value : Value)
    (fault : GraphError)
    (refused : (Implementation.setParameter state name value).2 = .error fault) :
    (Implementation.setParameter state name value).1 = state := by
  cases state with
  | counterSource source => exact congrArg counterSource (wholly_refused source _ fault refused)
  | incrementer state => exact congrArg incrementer (wholly_refused state _ fault refused)
  | accumulator state => exact congrArg accumulator (wholly_refused state _ fault refused)
  | scaler state => exact congrArg scaler (wholly_refused state _ fault refused)

instance : Steadfast Builtin where
  start state := by rw [start_eq]
  compute state io := by
    cases state with
    | counterSource source =>
      simp only [Implementation.compute, Outcome.map]
      split <;> rfl
    | incrementer state =>
      simp only [Implementation.compute, Outcome.map]
      split <;> rfl
    | accumulator state => rfl
    | scaler state =>
      simp only [Implementation.compute, Outcome.map]
      split <;> rfl
  setParameter state name value := by
    rcases tried : Implementation.setParameter state name value with ⟨changed, _ | _⟩
    case error fault =>
      have same := setParameter_refused state name value fault (congrArg Prod.snd tried)
      rw [tried] at same
      exact congrArg Implementation.outputCount? same
    case ok =>
      cases state with
      | counterSource source =>
        obtain ⟨later, accepted, rfl⟩ := of_within counterSource _ changed tried
        obtain ⟨element, _, ⟨_, rfl⟩ | ⟨_, rfl⟩⟩ :=
          setParameter_source source later name value accepted
        · rfl
        · rfl
      | incrementer state =>
        obtain ⟨later, _, rfl⟩ := of_within incrementer _ changed tried
        rfl
      | accumulator state =>
        obtain ⟨later, _, rfl⟩ := of_within accumulator _ changed tried
        rfl
      | scaler state =>
        obtain ⟨later, _, rfl⟩ := of_within scaler _ changed tried
        rfl

/-! ### Records -/

/-- All types that are offered are built in. -/
def Stock (kind : String → Option (RegionType Builtin)) : Prop :=
  ∀ name type, kind name = some type → type ∈ types.map Prod.snd

/-- The built-in types under their own names are built in. -/
theorem stock_types : Stock (fun name => types.lookup name) := by
  intro name type offered
  obtain ⟨earlier, later, split, _⟩ := List.lookup_eq_some_iff.mp offered
  rw [split]
  exact List.mem_map.mpr ⟨(name, type), List.mem_append_right _ List.mem_cons_self, rfl⟩

/-- A new implementation is configured. -/
theorem configured_create (type : RegionType Builtin) (builtin : type ∈ types.map Prod.snd)
    (params : Params) (region name : String) (state : Builtin)
    (created : type.create params region name = .ok state) : Configured type params state := by
  simp only [types, List.map_cons, List.map_nil, List.mem_cons, List.not_mem_nil, or_false]
    at builtin
  rcases builtin with rfl | rfl | rfl | rfl
  · obtain ⟨source, made, rfl⟩ := (Traversal.map_ok_iff _ _ _).mp created
    have ticks := ((configure_ok_iff params 0 source).mp made).2.2.2.2
    exact .counterSource params source (ticks ▸ made)
  · obtain ⟨made, configured, rfl⟩ := (Traversal.map_ok_iff _ _ _).mp created
    exact .incrementer params made configured
  · obtain rfl := Except.ok.inj created
    exact .accumulator params ⟨[]⟩
  · obtain ⟨made, configured, rfl⟩ := (Traversal.map_ok_iff _ _ _).mp created
    exact .scaler params made configured

/-- A restored implementation is configured by the parameters of its record. -/
theorem configured_restore (type : RegionType Builtin) (builtin : type ∈ types.map Prod.snd)
    (record : RegionRecord) (region name : String) (state : Builtin)
    (restored : type.restore record region name = .ok state) :
    Configured type record.params state := by
  simp only [types, List.map_cons, List.map_nil, List.mem_cons, List.not_mem_nil, or_false]
    at builtin
  rcases builtin with rfl | rfl | rfl | rfl
  · obtain ⟨source, made, rfl⟩ := (Traversal.map_ok_iff _ _ _).mp restored
    obtain ⟨ticks, _, configured⟩ := (Traversal.bind_ok_iff _ _ _).mp made
    have same := ((configure_ok_iff record.params ticks source).mp configured).2.2.2.2
    exact .counterSource record.params source (same.symm ▸ configured)
  · obtain ⟨made, configured, rfl⟩ := (Traversal.map_ok_iff _ _ _).mp restored
    exact .incrementer record.params made configured
  · obtain ⟨made, _, rfl⟩ := (Traversal.map_ok_iff _ _ _).mp restored
    exact .accumulator record.params made
  · obtain ⟨made, configured, rfl⟩ := (Traversal.map_ok_iff _ _ _).mp restored
    exact .scaler record.params made configured

/-- The specifications of built-in types are valid. -/
theorem valid_of_stock (type : RegionType Builtin) (builtin : type ∈ types.map Prod.snd)
    (name : String) : type.spec.validate name = .ok () := by
  have flawless : ∀ type ∈ types.map Prod.snd, type.spec.flaw? = none := by decide
  rw [Spec.validate, flawless type builtin]

/-- A state whose record can be written: an accumulator must not hold more sums than their
number can say. -/
def Storable : Builtin → Prop
  | .accumulator state => state.sums.length < 2 ^ 64
  | _ => True

instance : DecidablePred Storable
  | .accumulator state => inferInstanceAs (Decidable (state.sums.length < 2 ^ 64))
  | .counterSource _ => inferInstanceAs (Decidable True)
  | .incrementer _ => inferInstanceAs (Decidable True)
  | .scaler _ => inferInstanceAs (Decidable True)

/-- The state of a configured implementation is restored from what it saves. -/
theorem restore_save (type : RegionType Builtin) (params : Params) (state : Builtin)
    (configured : Configured type params state) (storable : state.Storable) :
    ∃ bytes, Implementation.save state = .ok bytes ∧
      ∀ (record : RegionRecord) (region name : String), record.params = params →
        record.state = bytes → type.restore record region name = .ok state := by
  cases configured with
  | counterSource _ source read =>
    refine ⟨_, rfl, ?_⟩
    rintro record region name rfl saved
    have ticks := Codec.decodeAll_encode _ source.ticks (Codec.faithful_uint64 source.ticks)
    simp only [RegionType.map, CounterSource.type, decodeState, saved, ticks, Except.mapError,
      Traversal.ok_bind, read]
    rfl
  | incrementer _ state read =>
    refine ⟨_, rfl, ?_⟩
    rintro record region name rfl _
    simp only [RegionType.map, Incrementer.type, read]
    rfl
  | accumulator _ state =>
    refine ⟨_, rfl, ?_⟩
    rintro record region name rfl saved
    have sums := Codec.decodeAll_encode _ state.sums
      (Codec.faithful_list Codec.int64 state.sums storable
        (fun value _ => Codec.faithful_int64 value))
    simp only [RegionType.map, Accumulator.type, decodeState, saved, sums, Except.mapError]
    rfl
  | scaler _ state read =>
    refine ⟨_, rfl, ?_⟩
    rintro record region name rfl _
    simp only [RegionType.map, Scaler.type, read]
    rfl

/-! ### Regions -/

/-- The core of a region that is as its type describes it, with an implementation that is
configured by its parameters. -/
structure Conforms (kind : String → Option (RegionType Builtin)) (core : Core Builtin) :
    Prop where
  typed : ∃ type, kind core.type = some type ∧ core.spec = type.spec ∧
    Configured type core.params core.state
  outputs : core.outputs =
    (Region.new core.name core.type core.spec core.params core.state).core.outputs
  inputs : core.inputs =
    (Region.new core.name core.type core.spec core.params core.state).core.inputs

/-- A region of a built-in type is as before when it refuses a value. -/
theorem setParameter_rejected (region changed : Region Builtin) (name : String) (value : Value)
    (fault : GraphError) (refused : region.setParameter name value = (changed, .error fault)) :
    changed = region := by
  rcases region.setParameter_error changed name value fault refused with
    same | ⟨converted, state, given, rfl⟩
  · exact same
  · have kept := setParameter_refused region.state name converted fault (congrArg Prod.snd given)
    rw [given] at kept
    exact congrArg (fun state => { region with state }) kept

/-- A region goes on conforming as it evolves. -/
theorem conforms_of_evolves (kind : String → Option (RegionType Builtin))
    (first second : Region Builtin) (evolves : first.Evolves second)
    (conforms : Conforms kind first.core) : Conforms kind second.core := by
  induction evolves with
  | same first second cores => exact cores ▸ conforms
  | start region =>
    have kept : region.start.1.core = region.core := by
      unfold Region.start
      rw [start_eq]
      split <;> rfl
    exact kept ▸ conforms
  | compute region iteration profiling =>
    obtain ⟨type, offered, described, configured⟩ := conforms.typed
    rw [region.core_compute]
    exact ⟨⟨type, offered, described, configured_compute type _ _ _ configured⟩, conforms.outputs,
      conforms.inputs⟩
  | setParameter region name value =>
    rcases tried : region.setParameter name value with ⟨changed, fault | _⟩
    case error => exact setParameter_rejected region changed name value fault tried ▸ conforms
    case ok =>
      obtain ⟨type, offered, described, configured⟩ := conforms.typed
      obtain ⟨_, converted, state, _, taken, _, _, rfl⟩ :=
        region.setParameter_ok changed name value tried
      exact ⟨⟨type, offered, described,
        configured_setParameter type _ _ state name converted configured taken⟩, conforms.outputs,
        conforms.inputs⟩
  | trans _ _ _ _ _ earlier later => exact later (earlier conforms)

/-- In a network that is reachable with the built-in types every region conforms to its
type. -/
theorem conforms_of_reachable (kind : String → Option (RegionType Builtin)) (stock : Stock kind)
    (network : Network Builtin)
    (reachable : network.Reachable (fun registry => registry.Offers kind)) :
    ∀ region ∈ network.regions, Conforms kind region.core := by
  refine Network.every_of_reachable kind (fun region => Conforms kind region.core)
    (conforms_of_evolves kind) ?_ ?_ network reachable
  · intro name typeName type params state offered created
    exact ⟨⟨type, offered, rfl, configured_create type (stock typeName type offered) params name
      typeName state created⟩, rfl, rfl⟩
  · intro name typeName type record state region offered restored placed
    rw [Region.core_restored name typeName type.spec record state region placed]
    exact ⟨⟨type, offered, rfl, configured_restore type (stock typeName type offered) record name
      typeName state restored⟩, rfl, rfl⟩

/-- The declared endpoints of built-in types have names. -/
theorem named_of_stock : ∀ type ∈ types.map Prod.snd,
    (∀ declared ∈ type.spec.outputs, declared.1.isEmpty = false) ∧
      ∀ declared ∈ type.spec.inputs, declared.1.isEmpty = false := by
  decide

variable (kind : String → Option (RegionType Builtin)) (stock : Stock kind)

include stock

/-- No output of a region of a built-in type has the empty name. -/
theorem output_named (region : Region Builtin) (conforms : Conforms kind region.core)
    (name : String) (output : Endpoint) (found : region.outputs.get? name = some output) :
    name.isEmpty = false := by
  obtain ⟨type, offered, described, _⟩ := conforms.typed
  have same := congrArg (fun outputs => outputs.get? name) conforms.outputs
  simp only [Region.core, NameMap.get?_map, found, Option.map_some] at same
  obtain ⟨declared, present, _⟩ := Option.map_eq_some_iff.mp same.symm
  obtain ⟨entry, listed, told⟩ := List.mem_map.mp (NameMap.mem_of_get?_ofList _ _ _ present)
  have named := (named_of_stock type (stock _ type offered)).1 entry
    (described ▸ listed)
  exact (congrArg (fun pair => String.isEmpty pair.1) told).symm.trans named

/-- No input of a region of a built-in type has the empty name. -/
theorem input_named (region : Region Builtin) (conforms : Conforms kind region.core)
    (name : String) (input : Input) (found : region.inputs.get? name = some input) :
    name.isEmpty = false := by
  obtain ⟨type, offered, described, _⟩ := conforms.typed
  have same := congrArg (fun inputs => inputs.get? name) conforms.inputs
  simp only [Region.core, NameMap.get?_map, found, Option.map_some] at same
  obtain ⟨declared, present, _⟩ := Option.map_eq_some_iff.mp same.symm
  obtain ⟨entry, listed, told⟩ := List.mem_map.mp (NameMap.mem_of_get?_ofList _ _ _ present)
  have named := (named_of_stock type (stock _ type offered)).2 entry
    (described ▸ listed)
  exact (congrArg (fun pair => String.isEmpty pair.1) told).symm.trans named

end Builtin

end RegionGraph
