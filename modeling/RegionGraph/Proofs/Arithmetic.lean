import Mathlib.Algebra.Ring.Int.Defs
import Mathlib.Data.List.DropRight
import RegionGraph.Proofs.Annals

/-!
# Arithmetic over whole histories

A counting source keeps the number of its computations in 64 bits and counts in 32, and an
accumulator adds words in 64 bits to sums that come and go with the length of its input. What
they show is told over the integers by the annals alone: how often a source has computed, and
what stood at a place of the input of an accumulator since the sum there was zero. Words are
integers up to a power of two, so both agree whatever was lost on the way.
-/

namespace RegionGraph

variable {κ : Type}

/-! ### What is read after a computation -/

namespace Buffer

/-- Elements that replace all former ones, as many as there were, are read once they were taken
over. -/
theorem read_refill (buffer changed : Buffer) (type : ElementType)
    (change : List type.Carrier → List type.Carrier) (former : List type.Carrier)
    (read : buffer.read type = .ok former) (level : (change former).length = former.length)
    (made : buffer.modify type change = .ok changed) :
    (buffer.refill changed).read type = .ok (change former) := by
  obtain ⟨own, elements, allocated⟩ := buffer
  by_cases same : own = type
  · subst same
    have all : elements = former := by
      simpa only [Buffer.read, dite_true, Except.ok.injEq] using read
    subst all
    have whole : (change elements).take elements.length = change elements :=
      List.take_of_length_le level.le
    have rest : elements.drop (change elements).length = [] := List.drop_eq_nil_of_le level.ge
    have result : changed = ⟨own, change elements, allocated⟩ := by
      simpa only [Buffer.modify, dite_true, whole, rest, List.append_nil, Except.ok.injEq,
        eq_comm] using made
    subst result
    have lengths : (⟨own, change elements, allocated⟩ : Buffer).length =
        (⟨own, elements, allocated⟩ : Buffer).length := level
    have taken : (⟨own, elements, allocated⟩ : Buffer).refill ⟨own, change elements, allocated⟩ =
        ⟨own, change elements, allocated⟩ := by
      rw [Buffer.refill, dif_pos rfl, if_pos lengths]
    rw [taken, Buffer.read, dif_pos rfl]
  · simp only [Buffer.read, dif_neg same] at read
    cases read

end Buffer

/-- An output that is changed holds what its buffer was changed to. -/
theorem Exchange.modifyOutput_ok (io next : Exchange) (type : ElementType) (name : String)
    (change : List type.Carrier → List type.Carrier)
    (made : io.modifyOutput type name change = .ok next) :
    ∃ buffer changed, io.outputs.get? name = some buffer ∧
      buffer.modify type change = .ok changed ∧ next.outputs.get? name = some changed := by
  obtain ⟨buffer, found, made⟩ := (Traversal.bind_ok_iff _ _ _).mp made
  obtain ⟨changed, modified, made⟩ := (Traversal.bind_ok_iff _ _ _).mp made
  obtain rfl := Except.ok.inj made
  refine ⟨buffer, changed, ?_, (Traversal.mapError_ok_iff _ _ _).mp modified,
    NameMap.get?_insert_self _ _ _⟩
  unfold Exchange.output at found
  split at found
  case h_1 _ present => exact present.trans (congrArg some (Except.ok.inj found))
  case h_2 => cases found

namespace Region

/-- What a computation wrote over a whole output is read there after it was absorbed. -/
theorem read_absorb (region : Region κ) (iteration : UInt64) (io : Exchange) (name : String)
    (type : ElementType) (change : List type.Carrier → List type.Carrier) (output : Endpoint)
    (former : List type.Carrier) (found : region.outputs.get? name = some output)
    (read : output.buffer.read type = .ok former) (level : (change former).length = former.length)
    (made : (region.exchange iteration).modifyOutput type name change = .ok io) :
    ∃ shown, (region.absorb io).outputs.get? name = some shown ∧
      shown.buffer.read type = .ok (change former) := by
  obtain ⟨buffer, changed, here, modified, written⟩ :=
    (region.exchange iteration).modifyOutput_ok io type name change made
  rw [exchange, NameMap.get?_map, found] at here
  obtain rfl := Option.some.inj here
  refine ⟨{ output with buffer := output.buffer.refill changed }, ?_,
    output.buffer.read_refill changed type change former read level modified⟩
  simp only [absorb, NameMap.get?_map, found, Option.map_some, written, Option.getD_some]

/-- An output that a computation finds as it asks for can be read. -/
theorem read_of_holds (region : Region κ) (iteration : UInt64) (name : String) (type : ElementType)
    (holds : (region.exchange iteration).outputs.Holds (name, type)) :
    ∃ output former, region.outputs.get? name = some output ∧
      output.buffer.read type = .ok former ∧ former.length = output.buffer.length := by
  obtain ⟨buffer, here, typed⟩ := holds
  rw [exchange, NameMap.get?_map] at here
  obtain ⟨output, found, rfl⟩ := Option.map_eq_some_iff.mp here
  rcases output.buffer.read_cases type with ⟨_, former, read, length⟩ | ⟨other, _⟩
  · exact ⟨output, former, found, read, length⟩
  · exact absurd typed other

/-- What a computation reads stands at the input of the region. -/
theorem read_of_readInput (region : Region κ) (iteration : UInt64) (name : String)
    (type : ElementType) (elements : List type.Carrier)
    (read : (region.exchange iteration).readInput type name = .ok elements) :
    ∃ input, region.inputs.get? name = some input ∧ input.buffer.read type = .ok elements := by
  obtain ⟨buffer, found, read⟩ := (Traversal.bind_ok_iff _ _ _).mp read
  unfold Exchange.input at found
  split at found
  case h_1 _ present =>
    obtain rfl := Except.ok.inj found
    rw [exchange, NameMap.get?_map] at present
    obtain ⟨input, here, rfl⟩ := Option.map_eq_some_iff.mp present
    exact ⟨input, here, (Traversal.mapError_ok_iff _ _ _).mp read⟩
  case h_2 => cases found

variable [Implementation κ]

/-- The state after a computation is that in which the implementation is left. -/
theorem state_compute (region : Region κ) (iteration : UInt64) (profiling : Bool) :
    (region.compute iteration profiling).1.state =
      (Implementation.compute region.state (region.exchange iteration)).state :=
  congrArg Core.state (region.core_compute iteration profiling)

/-- The outputs after a computation are those that were absorbed. -/
theorem outputs_compute (region : Region κ) (iteration : UInt64) (profiling : Bool) :
    (region.compute iteration profiling).1.outputs = (region.absorb
      (Implementation.compute region.state (region.exchange iteration)).exchange).outputs := by
  unfold compute
  simp only
  split
  · split <;> rfl
  · rfl

/-- A computation that wrote over a whole output and did nothing else to buffers shows there what
it wrote. -/
theorem compute_writes (region : Region κ) (iteration : UInt64) (profiling : Bool) (state : κ)
    (io : Exchange) (name : String) (type : ElementType)
    (change : List type.Carrier → List type.Carrier) (output : Endpoint)
    (former : List type.Carrier) (found : region.outputs.get? name = some output)
    (read : output.buffer.read type = .ok former) (level : (change former).length = former.length)
    (made : (region.exchange iteration).modifyOutput type name change = .ok io)
    (computed : Implementation.compute region.state (region.exchange iteration) =
      ⟨state, io, .ok ()⟩) :
    (region.compute iteration profiling).2 = .ok () ∧
      (region.compute iteration profiling).1.state = state ∧
      ∃ shown, (region.compute iteration profiling).1.outputs.get? name = some shown ∧
        shown.buffer.read type = .ok (change former) := by
  obtain ⟨shown, present, shows⟩ :=
    region.read_absorb iteration io name type change output former found read level made
  refine ⟨?_, ?_, shown, ?_, shows⟩
  · rw [compute_result, computed]
  · rw [state_compute, computed]
  · rw [outputs_compute, computed]
    exact present

end Region

/-- Sums that are shown replace what the output held. -/
theorem Accumulator.publish_ok (state : Accumulator) (io next : Exchange)
    (published : state.publish io = .ok next) :
    io.modifyOutput .int64 "sum" (fun _ => state.sums) = .ok next := by
  obtain ⟨output, _, published⟩ := (Traversal.bind_ok_iff _ _ _).mp published
  obtain ⟨shown, made, published⟩ := (Traversal.bind_ok_iff _ _ _).mp published
  by_cases level : output.length = state.sums.length
  · rw [if_pos level] at published
    exact Except.ok.inj published ▸ made
  · rw [if_neg level] at published
    cases published

namespace Builtin

variable (kind : String → Option (RegionType Builtin)) (stock : Stock kind)
  (region : Region Builtin) (conforms : Conforms kind region.core) (answered : region.Answered)

/-- A source is as its type describes it, and configured by its parameters. -/
theorem source_of_conforms (conforms : Conforms kind region.core) (source : CounterSource)
    (same : region.state = .counterSource source) : region.spec = CounterSource.spec ∧
      CounterSource.configure region.params source.ticks = .ok source := by
  obtain ⟨type, _, described, configured⟩ := conforms.typed
  rw [show region.core.state = .counterSource source from same] at configured
  cases configured with
  | counterSource _ _ read => exact ⟨described, read⟩

/-- A source answers that its output is as long as it is wide. -/
theorem outputCount?_counterSource (conforms : Conforms kind region.core) (source : CounterSource)
    (same : region.state = .counterSource source) (widths : NameMap Nat) :
    region.outputCount? "out" widths = some source.width.toNat := by
  rw [Region.outputCount?, (source_of_conforms kind region conforms source same).1, same]
  rfl

/-- A source tells the values of its parameters that it computes with. -/
theorem parameters_counterSource (conforms : Conforms kind region.core) (source : CounterSource)
    (same : region.state = .counterSource source) :
    Params.element region.params .uint32 "width" = .ok source.width ∧
      region.parameter "start" = .ok (.scalar ⟨.int32, source.start⟩) ∧
      region.parameter "step" = .ok (.scalar ⟨.int32, source.step⟩) := by
  obtain ⟨described, configured⟩ := source_of_conforms kind region conforms source same
  refine ⟨((configure_ok_iff _ _ _).mp configured).1, ?_, ?_⟩
  · rw [Region.parameter, described, same]
    rfl
  · rw [Region.parameter, described, same]
    rfl

include stock conforms answered

/-- A computation of a source succeeds, shows as many elements as the source is wide and counts
itself. -/
theorem compute_counterSource (source : CounterSource) (same : region.state = .counterSource source)
    (iteration : UInt64) (profiling : Bool) :
    (region.compute iteration profiling).2 = .ok () ∧
      (region.compute iteration profiling).1.state =
        .counterSource { source with ticks := source.ticks + 1 } ∧
      ∃ shown, (region.compute iteration profiling).1.outputs.get? "out" = some shown ∧
        shown.buffer.read .int32 = .ok (source.elements source.width.toNat) := by
  have holds : (region.exchange iteration).outputs.Holds ("out", .int32) :=
    (served_of_answered kind stock region conforms answered iteration).writes _ (by
      rw [same]
      exact List.mem_cons_self)
  obtain ⟨output, former, found, read, length⟩ := region.read_of_holds iteration "out" .int32 holds
  have wide : former.length = source.width.toNat := by
    have answer := answered "out" output found
    rw [outputCount?_counterSource kind region conforms source same] at answer
    exact length.trans (Option.some.inj answer).symm
  have level : (source.elements former.length).length = former.length := by
    rw [CounterSource.elements, List.length_map, List.length_range]
  obtain ⟨io, made⟩ := ((region.exchange iteration).modifyOutput_ok_iff .int32 "out"
    (fun former => source.elements former.length)).mpr holds
  have computed : Implementation.compute region.state (region.exchange iteration) =
      ⟨.counterSource { source with ticks := source.ticks + 1 }, io, .ok ()⟩ := by
    rw [same]
    simp only [Implementation.compute, made, Outcome.map]
  rw [← wide]
  exact region.compute_writes iteration profiling _ io "out" .int32
    (fun former => source.elements former.length) output former found read level made computed

/-- A computation of an accumulator succeeds, adds its input to its sums and shows them. -/
theorem compute_accumulator (accumulator : Accumulator)
    (same : region.state = .accumulator accumulator) (iteration : UInt64) (profiling : Bool) :
    ∃ input elements, region.inputs.get? "in" = some input ∧
      input.buffer.read .int32 = .ok elements ∧
      (region.compute iteration profiling).2 = .ok () ∧
      (region.compute iteration profiling).1.state =
        .accumulator ⟨Accumulator.add accumulator.sums elements⟩ ∧
      ∃ shown, (region.compute iteration profiling).1.outputs.get? "sum" = some shown ∧
        shown.buffer.read .int64 = .ok (Accumulator.add accumulator.sums elements) := by
  have served := served_of_answered kind stock region conforms answered iteration
  have asks : (region.exchange iteration).inputs.Holds ("in", .int32) := served.reads _ (by
    rw [same]
    exact List.mem_cons_self)
  have holds : (region.exchange iteration).outputs.Holds ("sum", .int64) := served.writes _ (by
    rw [same]
    exact List.mem_cons_self)
  obtain ⟨output, former, found, written, length⟩ :=
    region.read_of_holds iteration "sum" .int64 holds
  rcases (region.exchange iteration).readInput_cases .int32 "in" with
    ⟨_, elements, _, _, read, _⟩ | ⟨missing, _⟩
  · obtain ⟨buffer, shown, typed⟩ := holds
    have own : buffer = output.buffer := by
      rw [Region.exchange, NameMap.get?_map, found] at shown
      exact (Option.some.inj shown).symm
    have level := served.level accumulator same elements buffer read shown
    obtain ⟨io, published⟩ :=
      ((Accumulator.mk (Accumulator.add accumulator.sums elements)).publish_ok_iff
        (region.exchange iteration)).mpr ⟨buffer, shown, typed, level⟩
    have computed : Implementation.compute region.state (region.exchange iteration) =
        ⟨.accumulator ⟨Accumulator.add accumulator.sums elements⟩, io, .ok ()⟩ := by
      rw [same]
      simp only [Implementation.compute, read, published, Outcome.map]
    obtain ⟨input, entered, taken⟩ :=
      region.read_of_readInput iteration "in" .int32 elements read
    refine ⟨input, elements, entered, taken, ?_⟩
    exact region.compute_writes iteration profiling _ io "sum" .int64
      (fun _ => Accumulator.add accumulator.sums elements) output former found written
      (level.symm.trans (own ▸ length.symm)) (Accumulator.publish_ok _ _ io published) computed
  · exact absurd asks missing

end Builtin

/-! ### Words and integers -/

/-- The elements of a source that has computed a number of times are those that this number
gives over the integers. -/
theorem CounterSource.elements_eq (source : CounterSource) (computed count : Nat)
    (ticks : source.ticks = UInt64.ofNat computed) :
    source.elements count = (List.range count).map (fun place : Nat =>
      Int32.ofInt (source.start.toInt + source.step.toInt * computed + place)) := by
  have low : source.ticks.toUInt32.toInt32 = Int32.ofInt computed := by
    rw [ticks, UInt64.toUInt32_ofNat', UInt32.toInt32_ofNat', Int32.ofInt_eq_ofNat]
  have base : source.base = Int32.ofInt (source.start.toInt + source.step.toInt * computed) := by
    rw [CounterSource.base, low, Int32.ofInt_add, Int32.ofInt_mul, Int32.ofInt_toInt,
      Int32.ofInt_toInt]
  refine List.map_congr_left (fun place _ => ?_)
  rw [Int32.ofInt_add, ← base, Int32.ofInt_eq_ofNat, UInt32.toInt32_ofNat']

/-- Sums brought to another length are the former ones, and zero where there were none. -/
theorem Accumulator.getElem?_resized (sums : List Int64) (count place : Nat)
    (inside : place < count) :
    (sums.take count ++ List.replicate (count - sums.length) 0)[place]? =
      some (sums.getD place 0) := by
  rw [List.getD_eq_getElem?_getD]
  by_cases held : place < sums.length
  · rw [List.getElem?_append_left (by rw [List.length_take]; omega),
      List.getElem?_take_of_lt inside, List.getElem?_eq_getElem held, Option.getD_some]
  · rw [List.getElem?_append_right (by rw [List.length_take]; omega), List.length_take,
      List.getElem?_replicate_of_lt (by omega), List.getElem?_eq_none (by omega), Option.getD_none]

/-- The sum at a place after an input was added: it goes on if the input reaches the place, and
is zero else. -/
theorem Accumulator.getD_add (sums : List Int64) (elements : List Int32) (place : Nat) :
    (Accumulator.add sums elements).getD place 0 =
      if elements.length ≤ place then 0
      else sums.getD place 0 + Int64.ofInt ((elements[place]?.map Int32.toInt).getD 0) := by
  rw [List.getD_eq_getElem?_getD]
  by_cases short : elements.length ≤ place
  · rw [if_pos short, List.getElem?_eq_none (by rw [Accumulator.length_add]; exact short),
      Option.getD_none]
  · have inside : place < elements.length := by omega
    rw [if_neg short, Accumulator.add, List.getElem?_zipWith,
      getElem?_resized sums elements.length place inside, List.getElem?_eq_getElem inside]
    simp only [Option.map_some, Option.getD_some, Int64.ofInt_int32ToInt]

/-! ### Clearing sums -/

/-- Only a truth value converts to a truth value, and it stays as it is. -/
theorem Scalar.eq_of_convert?_bool (scalar result : Scalar)
    (converted : scalar.convert? .bool = some result) : scalar = result := by
  unfold Scalar.convert? at converted
  split at converted
  case isTrue => exact Option.some.inj converted
  case isFalse =>
    obtain ⟨reading, _, converted⟩ := Option.bind_eq_some_iff.mp converted
    obtain ⟨value, written, _⟩ := Option.bind_eq_some_iff.mp converted
    obtain ⟨number, _, impossible⟩ := Option.bind_eq_some_iff.mp written
    cases impossible

/-- A truth value is read from a value that holds it and nothing else. -/
theorem eq_of_readElement_bool (name : String) (value : Value) (truth : Bool)
    (read : readElement .bool name value = .ok truth) : value = .scalar ⟨.bool, truth⟩ := by
  unfold readElement at read
  split at read
  case h_1 element found =>
    obtain rfl : element = truth := Except.ok.inj read
    obtain ⟨scalar, single, found⟩ := Option.bind_eq_some_iff.mp found
    obtain ⟨converted, same, taken⟩ := Option.bind_eq_some_iff.mp found
    obtain rfl := scalar.eq_of_convert?_bool converted same
    cases value with
    | scalar held =>
      obtain rfl := Option.some.inj single
      obtain ⟨type, value⟩ := held
      by_cases bool : type = .bool
      · subst bool
        simp only [Scalar.as?, dite_true, Option.some.injEq] at taken
        rw [taken]
      · simp only [Scalar.as?, dif_neg bool] at taken
        cases taken
    | text _ => cases single
    | sequence _ => cases single
  case h_2 => cases read

/-- A scalar that a parameter for truth values accepts is accepted as it is. -/
theorem ParameterSpec.eq_of_convert?_bool (parameter : ParameterSpec) (type : parameter.type = .bool)
    (value : Value) (scalar : Scalar) (converted : parameter.convert? value = some (.scalar scalar)) :
    value = .scalar scalar := by
  have noText : parameter.isText = false := by
    rw [ParameterSpec.isText, type]
    rfl
  rw [ParameterSpec.convert?, noText, type] at converted
  simp only [Bool.false_eq_true, if_false] at converted
  split at converted
  case isTrue =>
    cases value with
    | scalar held =>
      obtain ⟨result, same, wrapped⟩ := Option.map_eq_some_iff.mp converted
      rw [held.eq_of_convert?_bool result same]
      exact wrapped
    | text _ => cases converted
    | sequence items =>
      obtain ⟨_, _, wrapped⟩ := Option.map_eq_some_iff.mp converted
      cases wrapped
  case isFalse => cases converted

/-- An accumulator takes no value but for its reset: if it is true all sums become zero. -/
theorem Accumulator.setParameter_ok (state later : Accumulator) (name : String) (value : Value)
    (accepted : Implementation.setParameter state name value = (later, .ok ())) :
    name = "reset" ∧ ∃ reset, value = .scalar ⟨.bool, reset⟩ ∧
      later = if reset then ⟨state.sums.map (fun _ => 0)⟩ else state := by
  replace accepted := Builtin.of_wholly state later _ accepted
  by_cases named : name = "reset"
  · rw [if_pos named] at accepted
    obtain ⟨reset, read, made⟩ := (Traversal.bind_ok_iff _ _ _).mp accepted
    exact ⟨named, reset, eq_of_readElement_bool name value reset read, (Except.ok.inj made).symm⟩
  · rw [if_neg named] at accepted
    cases accepted

/-- What an accumulator takes at all is a truth value for its reset, as it was given. -/
theorem Builtin.reset_of_accepted (kind : String → Option (RegionType Builtin))
    (region changed : Region Builtin) (conforms : Conforms kind region.core)
    (former : Accumulator) (held : region.state = .accumulator former) (name : String)
    (value : Value) (accepted : region.setParameter name value = (changed, .ok ())) :
    name = "reset" ∧ ∃ reset, value = .scalar ⟨.bool, reset⟩ ∧
      changed.state =
        .accumulator (if reset then ⟨former.sums.map (fun _ => 0)⟩ else former) := by
  obtain ⟨type, _, described, configured⟩ := conforms.typed
  rw [show region.core.state = .accumulator former from held] at configured
  cases configured
  obtain ⟨declared, converted, state, found, taken, _, checked, rfl⟩ :=
    region.setParameter_ok changed name value accepted
  rw [held] at taken
  obtain ⟨later, sumsTaken, rfl⟩ := of_within accumulator _ state taken
  obtain ⟨rfl, reset, rfl, rfl⟩ := former.setParameter_ok later name converted sumsTaken
  have type : declared.type = .bool := by
    rw [show region.spec = Accumulator.spec from described] at found
    obtain rfl := Option.some.inj found
    rfl
  -- The value was converted before it was taken, but nothing else converts to a truth value.
  have given := declared.eq_of_convert?_bool type value _
    ((declared.check_ok_iff "reset" value _).mp checked)
  exact ⟨rfl, reset, given, rfl⟩

/-! ### Counts and sums that annals tell -/

/-- The words at the input of an accumulator. -/
def Region.summands (region : Region κ) : List Int32 :=
  match region.inputs.get? "in" with
  | none => []
  | some input => (input.buffer.read .int32).toOption.getD []

/-- What can be read at the input are its words. -/
theorem Region.summands_eq (region : Region κ) (input : Input) (elements : List Int32)
    (found : region.inputs.get? "in" = some input)
    (read : input.buffer.read .int32 = .ok elements) : region.summands = elements := by
  simp only [summands, found, read]
  rfl

namespace Deed

/-- Whether a deed is a computation. -/
def isComputation : Deed κ → Bool
  | .set _ _ => false
  | .computed _ _ _ => true

/-- The region before a computation, with its inputs filled. -/
def before? : Deed κ → Option (Region κ)
  | .set _ _ => none
  | .computed before _ _ => some before

/-- Whether a deed leaves an accumulator with no sum at a place: it was told to clear its sums, or
its input does not reach the place. -/
def clears (place : Nat) : Deed κ → Bool
  | .set name value => name = "reset" ∧ value = .scalar ⟨.bool, true⟩
  | .computed before _ _ => before.summands.length ≤ place

/-- The integer that a deed adds to the sum at a place. -/
def summand (place : Nat) : Deed κ → Int
  | .set _ _ => 0
  | .computed before _ _ => (before.summands[place]?.map Int32.toInt).getD 0

/-- If deeds end with a computation, the others are before it. -/
theorem exists_of_last (deeds : List (Deed κ)) (before : Region κ)
    (last : deeds.getLast?.bind before? = some before) :
    ∃ earlier after outcome, deeds = earlier ++ [.computed before after outcome] := by
  obtain ⟨deed, final, computation⟩ := Option.bind_eq_some_iff.mp last
  obtain ⟨earlier, rfl⟩ := List.getLast?_eq_some_iff.mp final
  cases deed with
  | set name value => cases computation
  | computed other after outcome =>
    obtain rfl := Option.some.inj computation
    exact ⟨earlier, after, outcome, rfl⟩

/-- A computation clears the sums that its input does not reach. -/
theorem clears_computed_iff (place : Nat) (before after : Region κ)
    (outcome : Except GraphError Unit) :
    (computed before after outcome).clears place = true ↔ before.summands.length ≤ place :=
  decide_eq_true_iff

end Deed

/-- How many of some deeds are computations. -/
def computations (deeds : List (Deed κ)) : Nat := deeds.countP Deed.isComputation

/-- The sum at a place of all that was added since it was last cleared. -/
def tally (place : Nat) (deeds : List (Deed κ)) : Int :=
  ((deeds.rtakeWhile (fun deed => !deed.clears place)).map (Deed.summand place)).sum

/-- A value for a parameter is no computation. -/
@[simp] theorem computations_set (deeds : List (Deed κ)) (name : String) (value : Value) :
    computations (deeds ++ [.set name value]) = computations deeds := by
  rw [computations, List.countP_append]
  rfl

/-- A computation counts. -/
@[simp] theorem computations_computed (deeds : List (Deed κ)) (before after : Region κ)
    (outcome : Except GraphError Unit) :
    computations (deeds ++ [.computed before after outcome]) = computations deeds + 1 := by
  rw [computations, List.countP_append]
  rfl

/-- A further deed clears a sum or adds to it. -/
theorem tally_append (place : Nat) (deeds : List (Deed κ)) (deed : Deed κ) :
    tally place (deeds ++ [deed]) =
      if deed.clears place then 0 else tally place deeds + deed.summand place := by
  unfold tally
  by_cases clears : deed.clears place = true
  · rw [List.rtakeWhile_concat_neg _ _ _ (by rw [clears]; decide), if_pos clears]
    rfl
  · rw [List.rtakeWhile_concat_pos _ _ _ (by rw [Bool.not_eq_true] at clears; rw [clears]; rfl),
      if_neg clears, List.map_append, List.sum_append, List.map_singleton, List.sum_singleton]

namespace Builtin

/-- What an implementation keeps goes with its deeds: a source has counted its computations, in
64 bits, and an accumulator has what was added at each place, in 64 bits. -/
def Remembers : Builtin → List (Deed Builtin) → Prop
  | .counterSource source, deeds => source.ticks = UInt64.ofNat (computations deeds)
  | .accumulator state, deeds =>
    ∀ place, state.sums.getD place 0 = Int64.ofInt (tally place deeds)
  | .incrementer _, _ => True
  | .scaler _, _ => True

/-- New implementations have no deeds, no count and no sums. -/
theorem remembers_create (kind : String → Option (RegionType Builtin)) (stock : Stock kind)
    (name typeName : String) (type : RegionType Builtin) (params : Params) (state : Builtin)
    (offered : kind typeName = some type) (created : type.create params name typeName = .ok state) :
    state.Remembers [] := by
  have builtin := stock typeName type offered
  simp only [types, List.map_cons, List.map_nil, List.mem_cons, List.not_mem_nil, or_false]
    at builtin
  rcases builtin with rfl | rfl | rfl | rfl
  · obtain ⟨source, made, rfl⟩ := (Traversal.map_ok_iff _ _ _).mp created
    exact ((configure_ok_iff params 0 source).mp made).2.2.2.2
  · obtain ⟨_, _, rfl⟩ := (Traversal.map_ok_iff _ _ _).mp created
    trivial
  · obtain rfl := Except.ok.inj created
    exact fun _ => rfl
  · obtain ⟨_, _, rfl⟩ := (Traversal.map_ok_iff _ _ _).mp created
    trivial

/-- A parameter that is set changes no count, and clears all sums or changes none. -/
theorem remembers_setParameter (kind : String → Option (RegionType Builtin))
    (region changed : Region Builtin) (name : String) (value : Value) (deeds : List (Deed Builtin))
    (conforms : Conforms kind region.core)
    (accepted : region.setParameter name value = (changed, .ok ()))
    (remembers : region.state.Remembers deeds) :
    changed.state.Remembers (deeds ++ [.set name value]) := by
  obtain ⟨_, converted, state, _, taken, _, _, same⟩ :=
    region.setParameter_ok changed name value accepted
  cases held : region.state with
  | counterSource source =>
    rw [held] at taken remembers
    obtain ⟨later, sourceTaken, rfl⟩ := of_within counterSource _ state taken
    have ticks : later.ticks = source.ticks := by
      obtain ⟨_, _, ⟨_, rfl⟩ | ⟨_, rfl⟩⟩ :=
        setParameter_source source later name converted sourceTaken
      · rfl
      · rfl
    rw [same]
    show later.ticks = UInt64.ofNat (computations (deeds ++ [.set name value]))
    rw [computations_set, ticks]
    exact remembers
  | accumulator former =>
    rw [held] at remembers
    obtain ⟨rfl, reset, rfl, state⟩ :=
      reset_of_accepted kind region changed conforms former held name value accepted
    rw [state]
    intro place
    rw [tally_append]
    cases reset with
    | true =>
      rw [if_pos (by decide)]
      show (former.sums.map (fun _ => (0 : Int64))).getD place 0 = 0
      rw [List.getD_eq_getElem?_getD, List.getElem?_map]
      cases former.sums[place]? <;> rfl
    | false =>
      rw [if_neg (by decide)]
      exact (remembers place).trans (congrArg Int64.ofInt (Int.add_zero _).symm)
  | incrementer _ =>
    rw [held] at taken
    obtain ⟨_, _, rfl⟩ := of_within incrementer _ state taken
    rw [same]
    trivial
  | scaler _ =>
    rw [held] at taken
    obtain ⟨_, _, rfl⟩ := of_within scaler _ state taken
    rw [same]
    trivial

end Builtin

/-! ### What computations show -/

/-- What a source shows after the computation with a given number, counted from zero: as many
elements as it is wide, and each of them what its start, its step and its place give over the
integers, reduced to 32 bits. -/
def CounterSource.Shows (number : Nat) (before after : Region Builtin) : Prop :=
  ∃ (width : UInt32) (start step : Int32) (shown : Endpoint),
    Params.element before.params .uint32 "width" = .ok width ∧
    before.parameter "start" = .ok (.scalar ⟨.int32, start⟩) ∧
    before.parameter "step" = .ok (.scalar ⟨.int32, step⟩) ∧
    after.outputs.get? "out" = some shown ∧
    shown.buffer.read .int32 = .ok ((List.range width.toNat).map (fun place : Nat =>
      Int32.ofInt (start.toInt + step.toInt * number + place)))

/-- What an accumulator shows after some deeds: as many sums as its input has words, and each of
them what was added at its place since it was last cleared, reduced to 64 bits. -/
def Accumulator.Shows (deeds : List (Deed Builtin)) (before after : Region Builtin) : Prop :=
  ∃ (input : Input) (shown : Endpoint),
    before.inputs.get? "in" = some input ∧
    input.buffer.read .int32 = .ok before.summands ∧
    after.outputs.get? "sum" = some shown ∧
    shown.buffer.read .int64 = .ok ((List.range before.summands.length).map (fun place : Nat =>
      Int64.ofInt (tally place deeds)))

/-- What a computation shows goes with the deeds before it. -/
def Deed.Follows (earlier : List (Deed Builtin)) : Deed Builtin → Prop
  | .set _ _ => True
  | .computed before after outcome =>
    (∀ source, before.state = .counterSource source →
      outcome = .ok () ∧ CounterSource.Shows (computations earlier) before after) ∧
    ∀ accumulator, before.state = .accumulator accumulator → outcome = .ok () ∧
      Accumulator.Shows (earlier ++ [.computed before after outcome]) before after

namespace Builtin

variable (kind : String → Option (RegionType Builtin)) (stock : Stock kind)
  (region : Region Builtin) (conforms : Conforms kind region.core) (answered : region.Answered)
  (iteration : UInt64) (profiling : Bool) (deeds : List (Deed Builtin))

include stock conforms answered

/-- A source goes on counting, and shows what it counted. -/
theorem counted_compute (source : CounterSource) (same : region.state = .counterSource source)
    (ticks : source.ticks = UInt64.ofNat (computations deeds)) :
    (region.compute iteration profiling).1.state.Remembers
        (deeds ++ [.computed region (region.compute iteration profiling).1
          (region.compute iteration profiling).2]) ∧
      (region.compute iteration profiling).2 = .ok () ∧
      CounterSource.Shows (computations deeds) region (region.compute iteration profiling).1 := by
  obtain ⟨succeeds, state, shown, present, shows⟩ :=
    compute_counterSource kind stock region conforms answered source same iteration profiling
  obtain ⟨width, start, step⟩ := parameters_counterSource kind region conforms source same
  refine ⟨?_, succeeds, source.width, source.start, source.step, shown, width, start, step, present,
    shows.trans (congrArg Except.ok (source.elements_eq (computations deeds) _ ticks))⟩
  rw [state]
  show source.ticks + 1 = UInt64.ofNat _
  rw [computations_computed, ticks, UInt64.ofNat_add]
  rfl

/-- An accumulator goes on adding, and shows what it added. -/
theorem summed_compute (accumulator : Accumulator)
    (same : region.state = .accumulator accumulator)
    (sums : ∀ place, accumulator.sums.getD place 0 = Int64.ofInt (tally place deeds)) :
    (region.compute iteration profiling).1.state.Remembers
        (deeds ++ [.computed region (region.compute iteration profiling).1
          (region.compute iteration profiling).2]) ∧
      (region.compute iteration profiling).2 = .ok () ∧
      Accumulator.Shows (deeds ++ [.computed region (region.compute iteration profiling).1
        (region.compute iteration profiling).2]) region (region.compute iteration profiling).1 := by
  obtain ⟨input, elements, found, read, succeeds, state, shown, present, shows⟩ :=
    compute_accumulator kind stock region conforms answered accumulator same iteration profiling
  obtain rfl := region.summands_eq input elements found read
  have remembered (place : Nat) :
      (Accumulator.add accumulator.sums region.summands).getD place 0 =
        Int64.ofInt (tally place (deeds ++ [.computed region
          (region.compute iteration profiling).1 (region.compute iteration profiling).2])) := by
    rw [Accumulator.getD_add, tally_append, sums]
    by_cases short : region.summands.length ≤ place
    · rw [if_pos short, if_pos ((Deed.clears_computed_iff place _ _ _).mpr short)]
      rfl
    · rw [if_neg short, if_neg (mt (Deed.clears_computed_iff place _ _ _).mp short),
        Int64.ofInt_add]
      rfl
  refine ⟨?_, succeeds, input, shown, found, read, present, shows.trans (congrArg Except.ok ?_)⟩
  · rw [state]
    exact remembered
  · apply List.ext_getElem
    · rw [Accumulator.length_add, List.length_map, List.length_range]
    · intro place inside _
      rw [List.getElem_map, List.getElem_range, ← remembered, List.getD_eq_getElem?_getD,
        List.getElem?_eq_getElem inside, Option.getD_some]

end Builtin

namespace Network

/-- What implementations remember lasts, and every computation shows it. -/
theorem lasting_arithmetic (kind : String → Option (RegionType Builtin))
    (stock : Builtin.Stock kind) : Lasting kind Builtin.Remembers Deed.Follows where
  created := Builtin.remembers_create kind stock
  set := fun region changed name value deeds conforms accepted remembers =>
    ⟨Builtin.remembers_setParameter kind region changed name value deeds conforms accepted
      remembers, trivial⟩
  computed := by
    intro region iteration profiling deeds conforms answered remembers
    cases held : region.state with
    | counterSource source =>
      rw [held] at remembers
      obtain ⟨kept, shows⟩ := Builtin.counted_compute kind stock region conforms answered iteration
        profiling deeds source held remembers
      exact ⟨kept, And.intro (fun _ _ => shows) (fun _ other => by cases held.symm.trans other)⟩
    | accumulator accumulator =>
      rw [held] at remembers
      obtain ⟨kept, shows⟩ := Builtin.summed_compute kind stock region conforms answered iteration
        profiling deeds accumulator held remembers
      exact ⟨kept, And.intro (fun _ other => by cases held.symm.trans other) (fun _ _ => shows)⟩
    | _ =>
      refine ⟨?_, And.intro (fun _ other => by cases held.symm.trans other)
        (fun _ other => by cases held.symm.trans other)⟩
      rw [Region.state_compute, held]
      simp only [Implementation.compute, Outcome.map]
      split <;> trivial

/-- The arithmetic of built-in regions is exact over every history, with saving and restoring in
it. Each computation of a source succeeds and shows what its number, counted from zero since the
source was added, gives over the integers. Each computation of an accumulator succeeds and shows
at each place the sum of all that was added there since it was last cleared. Both are reduced to
the words that the output holds, however long the history is; and so are the count and the sums
that the regions of the network keep, which no computation is missing from.

What a state remembers is a count or the sums of deeds that are written down beside the network.
Making a region, setting a parameter and computing each carry it on by one deed; calls and
loading do nothing else to states. By induction over the history it holds at its end, and
whatever was shown on the way was shown right. -/
theorem arithmetic_exact (kind : String → Option (RegionType Builtin))
    (stock : Builtin.Stock kind) (network : Network Builtin) (annals : Annals Builtin)
    (chronicled : Chronicled kind network annals) :
    (∀ region ∈ network.regions, region.state.Remembers (annals region.name)) ∧
    ∀ (name : String) (earlier later : List (Deed Builtin)) (before after : Region Builtin)
      (outcome : Except GraphError Unit),
      annals name = earlier ++ .computed before after outcome :: later →
      (∀ source, before.state = .counterSource source →
        outcome = .ok () ∧ CounterSource.Shows (computations earlier) before after) ∧
      ∀ accumulator, before.state = .accumulator accumulator →
        outcome = .ok () ∧
          Accumulator.Shows (earlier ++ [.computed before after outcome]) before after := by
  have told := told_of_chronicled kind stock Builtin.Remembers Deed.Follows
    (lasting_arithmetic kind stock) network annals chronicled
  refine ⟨told.honest, ?_⟩
  intro name earlier later before after outcome split
  exact told.follows name earlier (.computed before after outcome) later split

/-- A source that starts at the greatest word feeds an accumulator. -/
def brimming : Network Builtin :=
  putTogether [⟨"source", "CounterSource", .ofList [("width", .scalar ⟨.uint32, 2⟩),
    ("start", .scalar ⟨.int32, 2147483647⟩)]⟩, ⟨"sums", "Accumulator", ∅⟩]
    [.betweenDefaults "source" "sums"]

/-- The same after two cycles. -/
def overflown : Network Builtin := (brimming.run 2 ([] : List Empty)).network

/-- The same with its sums cleared. -/
def emptied : Network Builtin :=
  ((setParameter "sums" "reset" (.scalar ⟨.bool, true⟩)).run overflown).2

/-- The same with another step of the source. -/
def hastened : Network Builtin :=
  ((setParameter "source" "step" (.scalar ⟨.int32, 5⟩)).run emptied).2

/-- A checkpoint of it. -/
def checkpoint : Bundle := ((hastened.save 0).toOption).getD (Bundle.new ⟨0, "", "", ∅⟩)

/-- What is loaded from the checkpoint. -/
def reloaded : Network Builtin :=
  (((load checkpoint default).run (Registry.registerAll ∅ Builtin.types)).1.toOption).getD
    (new default)

/-- The annals of what was loaded, after one more cycle. -/
def reloadedAnnals : Annals Builtin :=
  (((Annals.empty.note (brimming.runDeeds 2 ([] : List Empty))).note
    (overflown.setDeeds "sums" "reset" (.scalar ⟨.bool, true⟩))).note
      (emptied.setDeeds "source" "step" (.scalar ⟨.int32, 5⟩))).note
        (reloaded.runDeeds 1 ([] : List Empty))

/-- What was loaded and run has these annals. -/
theorem chronicled_reloaded : Chronicled (fun name => Builtin.types.lookup name)
    (reloaded.run 1 ([] : List Empty)).network reloadedAnnals := by
  have offers := Registry.offers_registerAll Builtin.types
  have busy := ((chronicled_putTogether _ offers _ _ : Chronicled _ brimming _).run Empty 2 [])
  have changed := (busy.setParameter "sums" "reset" (.scalar ⟨.bool, true⟩)).setParameter "source"
    "step" (.scalar ⟨.int32, 5⟩)
  have saved : hastened.save 0 = .ok checkpoint := by
    obtain ⟨bundle, saved⟩ := (Traversal.isOk_iff (hastened.save 0)).mp (by decide +kernel)
    rw [checkpoint, saved]
    rfl
  have loaded : ((load checkpoint default).run (Registry.registerAll ∅ Builtin.types)).1 =
      .ok reloaded := by
    obtain ⟨copy, loaded⟩ := (Traversal.isOk_iff
      ((load checkpoint default).run (Registry.registerAll ∅ Builtin.types)).1).mp
        (by decide +kernel)
    rw [reloaded, loaded]
    rfl
  exact (changed.restore (show ∀ region ∈ hastened.regions, region.state.Storable by decide +kernel)
    0 checkpoint saved default _ _ offers (Prod.ext loaded rfl)).run Empty 1 []

/-- The source overflows at once and goes on counting where the checkpoint left it, with its new
step; the sums are those of the last cycle. -/
theorem arithmetic_reloaded :
    (∀ region ∈ (reloaded.run 1 ([] : List Empty)).network.regions,
      region.state.Remembers (reloadedAnnals region.name)) ∧
    (∃ earlier before after outcome,
      reloadedAnnals "source" = earlier ++ [.computed before after outcome] ∧
      before.state = .counterSource ⟨2, 2147483647, 5, 2⟩ ∧ outcome = .ok () ∧
      CounterSource.Shows (computations earlier) before after) ∧
    ∃ earlier before after outcome,
      reloadedAnnals "sums" = earlier ++ [.computed before after outcome] ∧
      before.state = .accumulator ⟨[0, 0]⟩ ∧ outcome = .ok () ∧
      Accumulator.Shows (reloadedAnnals "sums") before after ∧
      tally 0 (reloadedAnnals "sums") = -2147483639 := by
  obtain ⟨remembers, shows⟩ := arithmetic_exact _ Builtin.stock_types _ _ chronicled_reloaded
  refine ⟨remembers, ?_, ?_⟩
  · obtain ⟨before, found, state⟩ := Option.map_eq_some_iff.mp (show
      ((reloadedAnnals "source").getLast?.bind Deed.before?).map Region.state =
        some (.counterSource ⟨2, 2147483647, 5, 2⟩) by decide +kernel)
    obtain ⟨earlier, after, outcome, told⟩ := Deed.exists_of_last _ before found
    obtain ⟨succeeds, counts⟩ := (shows "source" earlier [] before after outcome told).1 _ state
    exact ⟨earlier, before, after, outcome, told, state, succeeds, counts⟩
  · obtain ⟨before, found, state⟩ := Option.map_eq_some_iff.mp (show
      ((reloadedAnnals "sums").getLast?.bind Deed.before?).map Region.state =
        some (.accumulator ⟨[0, 0]⟩) by decide +kernel)
    obtain ⟨earlier, after, outcome, told⟩ := Deed.exists_of_last _ before found
    obtain ⟨succeeds, sums⟩ := (shows "sums" earlier [] before after outcome told).2 _ state
    exact ⟨earlier, before, after, outcome, told, state, succeeds, told ▸ sums, by decide +kernel⟩

end Network

end RegionGraph
