import RegionGraph.Proofs.Builtins

/-!
# What computations ask for

A computation of a built-in implementation reads and writes buffers by name, each as
elements of one type, and can fail in two ways only: a buffer that it asks for is missing
or has another type, or an accumulator has more or fewer sums than its output has
elements. The types declare every buffer that is asked for.
-/

namespace RegionGraph

namespace Buffer

/-- A buffer can be read as its own type, and then all of it is read. -/
theorem read_cases (buffer : Buffer) (type : ElementType) :
    (buffer.type = type ∧ ∃ elements, buffer.read type = .ok elements ∧
        elements.length = buffer.length) ∨
      buffer.type ≠ type ∧ buffer.read type = .error (.typeMismatch buffer.type type) := by
  unfold read
  split
  case isTrue same =>
    subst same
    exact Or.inl ⟨rfl, _, rfl, rfl⟩
  case isFalse other => exact Or.inr ⟨other, rfl⟩

/-- A buffer can be changed as its own type. -/
theorem modify_cases (buffer : Buffer) (type : ElementType)
    (change : List type.Carrier → List type.Carrier) :
    (buffer.type = type ∧ ∃ changed, buffer.modify type change = .ok changed) ∨
      buffer.type ≠ type ∧ buffer.modify type change = .error (.typeMismatch buffer.type type) := by
  unfold modify
  split
  case isTrue same => exact Or.inl ⟨same, _, rfl⟩
  case isFalse other => exact Or.inr ⟨other, rfl⟩

end Buffer

/-- A buffer of a name is there and has the type. -/
def NameMap.Holds (buffers : NameMap Buffer) (access : String × ElementType) : Prop :=
  ∃ buffer, buffers.get? access.1 = some buffer ∧ buffer.type = access.2

namespace Exchange

/-- An input can be read exactly if it is there and has the type; then all of it is read. -/
theorem readInput_cases (io : Exchange) (type : ElementType) (name : String) :
    (∃ buffer elements, io.inputs.get? name = some buffer ∧ buffer.type = type ∧
        io.readInput type name = .ok elements ∧ elements.length = buffer.length) ∨
      ¬ io.inputs.Holds (name, type) ∧ ∃ fault, io.readInput type name = .error fault := by
  unfold readInput input NameMap.Holds
  cases found : io.inputs.get? name with
  | none => exact Or.inr ⟨by simp, _, rfl⟩
  | some buffer =>
    rcases buffer.read_cases type with ⟨same, elements, read, length⟩ | ⟨other, refused⟩
    · exact Or.inl ⟨buffer, elements, rfl, same, by rw [Traversal.ok_bind, read]; rfl, length⟩
    · refine Or.inr ⟨by simpa using other, .data (.typeMismatch buffer.type type), ?_⟩
      rw [Traversal.ok_bind, refused]
      rfl

/-- An output can be changed exactly if it is there and has the type. -/
theorem modifyOutput_ok_iff (io : Exchange) (type : ElementType) (name : String)
    (change : List type.Carrier → List type.Carrier) :
    (∃ next, io.modifyOutput type name change = .ok next) ↔ io.outputs.Holds (name, type) := by
  unfold modifyOutput output NameMap.Holds
  cases found : io.outputs.get? name with
  | none => simp [bind, Except.bind]
  | some buffer =>
    rw [Traversal.ok_bind]
    rcases buffer.modify_cases type change with ⟨same, changed, made⟩ | ⟨other, refused⟩
    · rw [made]
      exact ⟨fun _ => ⟨buffer, rfl, same⟩, fun _ => ⟨_, rfl⟩⟩
    · rw [refused]
      simp [liftData, Except.mapError, bind, Except.bind, other]

/-- An output can be filled from an input exactly if both are there and have their types. -/
theorem mapInto_ok_iff (io : Exchange) (source target : ElementType) (input output : String)
    (f : source.Carrier → target.Carrier) :
    (∃ next, io.mapInto source target input output f = .ok next) ↔
      io.inputs.Holds (input, source) ∧ io.outputs.Holds (output, target) := by
  unfold mapInto
  rcases io.readInput_cases source input with
    ⟨buffer, elements, found, same, read, _⟩ | ⟨missing, fault, refused⟩
  · have holds : io.inputs.Holds (input, source) := ⟨buffer, found, same⟩
    have here : io.input input = .ok buffer := by
      rw [Exchange.input, found]
    rw [here, read]
    cases there : io.outputs.get? output with
    | none =>
      have absent : ¬ io.outputs.Holds (output, target) := by
        rintro ⟨other, present, _⟩
        cases there.symm.trans present
      simp [Exchange.output, there, absent, bind, Except.bind]
    | some goal =>
      have known : io.output output = .ok goal := by
        rw [Exchange.output, there]
      rw [known, Traversal.ok_bind, Traversal.ok_bind, Traversal.ok_bind,
        io.modifyOutput_ok_iff]
      exact (and_iff_right holds).symm
  · refine ⟨?_, fun both => absurd both.1 missing⟩
    rintro ⟨next, made⟩
    obtain ⟨_, _, made⟩ := (Traversal.bind_ok_iff _ _ _).mp made
    obtain ⟨_, _, made⟩ := (Traversal.bind_ok_iff _ _ _).mp made
    obtain ⟨_, read, _⟩ := (Traversal.bind_ok_iff _ _ _).mp made
    cases refused.symm.trans read

end Exchange

namespace Accumulator

/-- Whatever the sums were, there are as many as the input has elements after they were added
to. -/
@[simp] theorem length_add (sums : List Int64) (elements : List Int32) :
    (add sums elements).length = elements.length := by
  simp only [add, List.length_zipWith, List.length_append, List.length_take,
    List.length_replicate]
  omega

/-- Sums can be shown exactly in an output that has as many elements. -/
theorem publish_ok_iff (state : Accumulator) (io : Exchange) :
    (∃ next, state.publish io = .ok next) ↔ ∃ output, io.outputs.get? "sum" = some output ∧
      output.type = .int64 ∧ output.length = state.sums.length := by
  unfold publish
  cases found : io.outputs.get? "sum" with
  | none => simp [Exchange.output, found, bind, Except.bind]
  | some output =>
    have known : io.output "sum" = .ok output := by
      rw [Exchange.output, found]
    have changes := io.modifyOutput_ok_iff .int64 "sum" (fun _ => state.sums)
    rw [known, Traversal.ok_bind]
    cases made : io.modifyOutput .int64 "sum" (fun _ => state.sums) with
    | error fault =>
      have other : output.type ≠ .int64 := by
        intro same
        obtain ⟨next, impossible⟩ := changes.mpr ⟨output, found, same⟩
        cases made.symm.trans impossible
      simp [bind, Except.bind, other]
    | ok shown =>
      obtain ⟨held, here, same⟩ := changes.mp ⟨shown, made⟩
      cases found.symm.trans here
      rw [Traversal.ok_bind]
      by_cases level : output.length = state.sums.length
      · simp [level, same, pure, Except.pure]
      · simp [level, throw, throwThe, MonadExceptOf.throw]

end Accumulator

namespace Builtin

/-- The inputs that a computation reads, and the types it reads them as. -/
def reads : Builtin → List (String × ElementType)
  | .counterSource _ => []
  | .incrementer _ => [("in", .int32)]
  | .accumulator _ => [("in", .int32)]
  | .scaler _ => [("in", .real32)]

/-- The outputs that a computation writes, and the types it writes them as. -/
def writes : Builtin → List (String × ElementType)
  | .counterSource _ => [("out", .int32)]
  | .incrementer _ => [("out", .int32)]
  | .accumulator _ => [("sum", .int64)]
  | .scaler _ => [("out", .real32)]

/-- A computation finds what it asks for: every buffer that it reads or writes is there and has
the type that it takes it for, and an output that shows sums has as many elements as there
are sums then. -/
structure Served (state : Builtin) (io : Exchange) : Prop where
  reads : ∀ access ∈ state.reads, io.inputs.Holds access
  writes : ∀ access ∈ state.writes, io.outputs.Holds access
  level : ∀ accumulator, state = .accumulator accumulator → ∀ elements output,
    io.readInput .int32 "in" = .ok elements → io.outputs.get? "sum" = some output →
    output.length = (Accumulator.add accumulator.sums elements).length

/-- The computation of an implementation other than an accumulator finds what it asks for if
it finds the buffers. -/
theorem served_iff (state : Builtin) (io : Exchange)
    (other : ∀ accumulator, state ≠ .accumulator accumulator) : state.Served io ↔
      (∀ access ∈ state.reads, io.inputs.Holds access) ∧
        ∀ access ∈ state.writes, io.outputs.Holds access :=
  ⟨fun served => ⟨served.reads, served.writes⟩, fun both => ⟨both.1, both.2,
    fun accumulator same => absurd same (other accumulator)⟩⟩

/-- A computation that fills its only output from its only input can do so exactly if it finds
what it asks for. -/
theorem served_of_mapInto (state : Builtin) (io : Exchange) (source target : ElementType)
    (input output : String) (f : source.Carrier → target.Carrier)
    (other : ∀ accumulator, state ≠ .accumulator accumulator)
    (reads : state.reads = [(input, source)]) (writes : state.writes = [(output, target)]) :
    (∃ next, io.mapInto source target input output f = .ok next) ↔ state.Served io := by
  rw [served_iff state io other, reads, writes, io.mapInto_ok_iff, List.forall_mem_singleton,
    List.forall_mem_singleton]

/-- A computation of an accumulator succeeds exactly if it finds its input and an output for as
many sums as there are then. -/
theorem accumulator_ok_iff (state : Accumulator) (io : Exchange) :
    (Implementation.compute (accumulator state) io).result = .ok () ↔
      (accumulator state).Served io := by
  rcases io.readInput_cases .int32 "in" with
    ⟨buffer, elements, found, same, read, _⟩ | ⟨missing, fault, refused⟩
  · have shows := (Accumulator.mk (Accumulator.add state.sums elements)).publish_ok_iff io
    have published : (Implementation.compute (accumulator state) io).result = .ok () ↔
        ∃ next, (Accumulator.mk (Accumulator.add state.sums elements)).publish io = .ok next := by
      simp only [Implementation.compute, Outcome.map, read]
      cases (Accumulator.mk (Accumulator.add state.sums elements)).publish io <;> simp
    rw [published, shows]
    constructor
    · rintro ⟨output, present, type, level⟩
      refine ⟨?_, ?_, ?_⟩
      · rintro access (_ | ⟨_, ⟨⟩⟩)
        exact ⟨buffer, found, same⟩
      · rintro access (_ | ⟨_, ⟨⟩⟩)
        exact ⟨output, present, type⟩
      · rintro _ ⟨⟩ others other readToo presentToo
        cases read.symm.trans readToo
        cases present.symm.trans presentToo
        exact level
    · intro served
      obtain ⟨output, present, type⟩ := served.writes _ List.mem_cons_self
      exact ⟨output, present, type, served.level state rfl elements output read present⟩
  · constructor
    · intro done
      simp only [Implementation.compute, Outcome.map, refused] at done
      cases done
    · intro served
      exact absurd (served.reads _ List.mem_cons_self) missing

/-- A computation of a built-in implementation succeeds exactly if it finds what it asks for. -/
theorem compute_ok_iff (state : Builtin) (io : Exchange) :
    (Implementation.compute state io).result = .ok () ↔ state.Served io := by
  cases state with
  | counterSource source =>
    have changes := io.modifyOutput_ok_iff .int32 "out" (fun former => source.elements former.length)
    have served := served_iff (.counterSource source) io (by rintro _ ⟨⟩)
    simp only [reads, writes, List.forall_mem_singleton] at served
    rw [served, ← changes]
    simp only [Implementation.compute, Outcome.map]
    cases io.modifyOutput .int32 "out" (fun former => source.elements former.length) <;> simp
  | incrementer state =>
    rw [← served_of_mapInto (.incrementer state) io .int32 .int32 "in" "out"
      (fun element => element + state.increment) (by rintro _ ⟨⟩) rfl rfl]
    simp only [Implementation.compute, Outcome.map]
    cases io.mapInto .int32 .int32 "in" "out" (fun element => element + state.increment) <;> simp
  | scaler state =>
    rw [← served_of_mapInto (.scaler state) io .real32 .real32 "in" "out"
      (fun element => element.mul state.gain) (by rintro _ ⟨⟩) rfl rfl]
    simp only [Implementation.compute, Outcome.map]
    cases io.mapInto .real32 .real32 "in" "out" (fun element => element.mul state.gain) <;> simp
  | accumulator state => exact accumulator_ok_iff state io

/-- The specification declares all that a computation reads and writes, with the types that it
takes them for. -/
structure Declared (state : Builtin) (spec : Spec) : Prop where
  reads : ∀ access ∈ state.reads, (spec.input? access.1).map InputSpec.type = some access.2
  writes : ∀ access ∈ state.writes, (spec.output? access.1).map OutputSpec.type = some access.2

/-- A built-in type declares all that the computations of its implementations ask for. -/
theorem declared_of_configured (type : RegionType Builtin) (params : Params) (state : Builtin)
    (configured : Configured type params state) : state.Declared type.spec := by
  cases configured with
  | counterSource => exact ⟨nofun, by rintro access (_ | ⟨_, ⟨⟩⟩); rfl⟩
  | incrementer =>
    exact ⟨by rintro access (_ | ⟨_, ⟨⟩⟩); rfl, by rintro access (_ | ⟨_, ⟨⟩⟩); rfl⟩
  | accumulator =>
    exact ⟨by rintro access (_ | ⟨_, ⟨⟩⟩); rfl, by rintro access (_ | ⟨_, ⟨⟩⟩); rfl⟩
  | scaler =>
    exact ⟨by rintro access (_ | ⟨_, ⟨⟩⟩); rfl, by rintro access (_ | ⟨_, ⟨⟩⟩); rfl⟩

end Builtin

end RegionGraph
