import RegionGraph.Network.Run
import RegionGraph.Proofs.Rewiring

/-!
# What computing leaves as it was

A frame is a region without the contents of its buffers and without the state and
parameters of its implementation: names, element types, lengths, marks of storage
and links. Starting, setting parameters, filling inputs and computing change no
frame, whatever the implementation does and however they end. Only building and
rewiring do. The wiring of a network is read off its frames.
-/

namespace RegionGraph

variable {κ ω : Type}

/-- What is told of an endpoint apart from its contents. -/
structure Form where
  type : ElementType
  length : Nat
  allocated : Bool
  links : List LinkId

/-- An endpoint without its contents. -/
def Endpoint.form (endpoint : Endpoint) : Form :=
  ⟨endpoint.buffer.type, endpoint.buffer.length, endpoint.buffer.allocated, endpoint.links⟩

/-- What is told of a region apart from contents, parameters and state. Of an input
it is also told whether it has to be connected. -/
structure Frame where
  name : String
  type : String
  spec : Spec
  outputs : NameMap Form
  inputs : NameMap (Form × Bool)

namespace Region

/-- A region without contents, parameters and state. -/
def frame (region : Region κ) : Frame where
  name := region.name
  type := region.type
  spec := region.spec
  outputs := region.outputs.map (fun _ endpoint => endpoint.form)
  inputs := region.inputs.map (fun _ input => (input.toEndpoint.form, input.required))

end Region

/-- What wiring knows of a frame. -/
def Frame.node (frame : Frame) : Node Port where
  name := frame.name
  outputs := frame.outputs.map (fun _ form => ⟨form.type, form.links⟩)
  inputs := frame.inputs.map (fun _ form => ⟨form.1.type, form.1.links⟩)

/-- The wiring of a region is part of its frame. -/
theorem Region.node_frame (region : Region κ) : region.frame.node = region.view Endpoint.port := by
  simp only [Frame.node, frame, view, NameMap.map_map, Endpoint.form, Endpoint.port]

/-- Putting refilled contents in place keeps the form. -/
theorem Endpoint.form_refill (endpoint : Endpoint) (contents : Buffer) :
    form { endpoint with buffer := endpoint.buffer.refill contents } = endpoint.form := by
  obtain ⟨type, length, allocated⟩ := endpoint.buffer.refill_shape contents
  simp only [form, type, length, allocated]

namespace Region

/-- Taking over what an implementation wrote keeps the frame: contents of another
shape are not taken. -/
theorem frame_absorb (region : Region κ) (io : Exchange) :
    (region.absorb io).frame = region.frame := by
  simp only [frame, absorb, NameMap.map_map, Endpoint.form_refill, Input.withBuffer]

variable [Implementation κ]

/-- Starting keeps the frame. -/
theorem frame_start (region : Region κ) : region.start.1.frame = region.frame := by
  unfold start
  split
  · rfl
  · split <;> rfl

/-- Computing keeps the frame. -/
theorem frame_compute (region : Region κ) (iteration : UInt64) (profiling : Bool) :
    (region.compute iteration profiling).1.frame = region.frame := by
  unfold compute
  simp only
  split
  · split
    · exact region.frame_absorb _
    · exact region.frame_absorb _
  · exact region.frame_absorb _

/-- Computing starts nothing. -/
theorem initialized_compute (region : Region κ) (iteration : UInt64) (profiling : Bool) :
    (region.compute iteration profiling).1.initialized = region.initialized := by
  unfold compute
  simp only
  split
  · split <;> rfl
  · rfl

/-- Setting a parameter keeps the frame and starts nothing, also when it is refused. -/
theorem frame_setParameter (region : Region κ) (name : String) (value : Value) :
    (region.setParameter name value).1.frame = region.frame ∧
      (region.setParameter name value).1.initialized = region.initialized := by
  unfold setParameter
  split
  · exact ⟨rfl, rfl⟩
  · split <;> exact ⟨rfl, rfl⟩

end Region

/-! ### Copying -/

namespace Buffer

/-- Writing a run inside a list keeps its length. -/
theorem length_overwrite {α : Type} (elements run : List α) (offset : Nat)
    (inside : offset + run.length ≤ elements.length) :
    (overwrite elements offset run).length = elements.length := by
  simp only [overwrite, List.length_append, List.length_take, List.length_drop]
  omega

/-- Two runs written one behind the other are one run. -/
theorem overwrite_overwrite {α : Type} (elements first second : List α) (offset : Nat)
    (inside : offset + first.length ≤ elements.length) :
    overwrite (overwrite elements offset first) (offset + first.length) second =
      overwrite elements offset (first ++ second) := by
  have start : (elements.take offset ++ first).length = offset + first.length := by
    rw [List.length_append, List.length_take]
    omega
  simp only [overwrite]
  rw [List.take_append_of_le_length (by omega), List.take_of_length_le (by omega),
    List.drop_append, start, List.length_append]
  rw [List.drop_of_length_le (by omega), List.nil_append, List.drop_drop, List.append_assoc,
    List.append_assoc, List.append_assoc]
  have rest : offset + first.length + (offset + first.length + second.length -
      (offset + first.length)) = offset + (first.length + second.length) := by omega
  rw [rest, List.append_assoc first]

/-- A run as long as the list replaces all of it. -/
theorem overwrite_all {α : Type} (elements run : List α) (whole : run.length = elements.length) :
    overwrite elements 0 run = run := by
  simp [overwrite, whole]

/-- What a copy has checked when it succeeds, and what it has made. -/
theorem copyInto_ok (source destination result : Buffer) (offset count : Nat)
    (rule : Option Reindex) (copied : source.copyInto destination offset rule = .ok (count, result)) :
    source.type = destination.type ∧
      (∀ named, rule = some named → named.validate source.length = .ok ()) ∧
      count = Reindex.widthFor rule source.length ∧ offset + count ≤ destination.length ∧
      result.length = destination.length := by
  obtain ⟨type, elements, allocated⟩ := source
  obtain ⟨other, former, mark⟩ := destination
  unfold copyInto at copied
  split at copied
  · rename_i same
    cases same
    have valid : ∀ named, rule = some named → named.validate elements.length = .ok () := by
      rintro named rfl
      obtain ⟨_, checked, _⟩ := (Traversal.bind_ok_iff _ _ _).mp copied
      exact checked
    have rest : (if former.length < offset + Reindex.widthFor rule elements.length then
        Except.error (DataError.outOfBounds (offset + Reindex.widthFor rule elements.length)
          former.length)
        else .ok (Reindex.widthFor rule elements.length,
          (⟨type, overwrite former offset (Reindex.selectFor rule elements), mark⟩ : Buffer))) =
        .ok (count, result) := by
      cases rule with
      | none => exact copied
      | some named =>
        obtain ⟨_, _, copied⟩ := (Traversal.bind_ok_iff _ _ _).mp copied
        exact copied
    have width : (Reindex.selectFor rule elements).length =
        Reindex.widthFor rule elements.length := by
      cases rule with
      | none => rfl
      | some named => exact Reindex.length_select (valid named rfl)
    split at rest
    · cases rest
    · rename_i fits
      cases rest
      refine ⟨rfl, valid, rfl, Nat.le_of_not_lt fits, ?_⟩
      exact length_overwrite former _ offset (width ▸ Nat.le_of_not_lt fits)
  · cases copied

end Buffer

namespace Network

/-- Copying the view of a link keeps the type, the length and the mark of a buffer. -/
theorem shape_copyView (network : Network κ) (id : LinkId) (offset width : Nat)
    (buffer result : Buffer)
    (copied : network.copyView id offset buffer = .ok (width, result)) :
    result.type = buffer.type ∧ result.length = buffer.length ∧
      result.allocated = buffer.allocated := by
  obtain ⟨link, _, copied⟩ := (Traversal.bind_ok_iff _ _ _).mp copied
  obtain ⟨live, _, copied⟩ := (Traversal.bind_ok_iff _ _ _).mp copied
  replace copied := (Traversal.mapError_ok_iff _ _ _).mp copied
  obtain ⟨type, allocated⟩ := Buffer.copyInto_shape copied
  exact ⟨type, (Buffer.copyInto_ok _ _ _ _ _ _ copied).2.2.2.2, allocated⟩

/-- Filling a buffer keeps its type, its length and its mark, also when it stops on the way. -/
theorem shape_fillBuffer (network : Network κ) (ids : List LinkId) (offset : Nat)
    (buffer : Buffer) :
    (network.fillBuffer ids offset buffer).2.type = buffer.type ∧
      (network.fillBuffer ids offset buffer).2.length = buffer.length ∧
      (network.fillBuffer ids offset buffer).2.allocated = buffer.allocated := by
  induction ids generalizing offset buffer with
  | nil => exact ⟨rfl, rfl, rfl⟩
  | cons id rest inductionHypothesis =>
    unfold fillBuffer
    cases copied : network.copyView id offset buffer with
    | error fault => exact ⟨rfl, rfl, rfl⟩
    | ok pair =>
      obtain ⟨width, next⟩ := pair
      obtain ⟨copyType, copyLength, copyAllocated⟩ :=
        network.shape_copyView id offset width buffer next copied
      obtain ⟨type, length, allocated⟩ := inductionHypothesis (offset + width) next
      exact ⟨type.trans copyType, length.trans copyLength, allocated.trans copyAllocated⟩

/-- Filling one input: its buffer is replaced by as much as was filled. -/
theorem run_fillInput (network : Network κ) (name : String) (input : Input)
    (region : Region κ) : (network.fillInput name input).run region =
      ((network.fillBuffer input.links 0 input.buffer).1,
        { region with
          inputs := region.inputs.insert name
            (input.withBuffer (network.fillBuffer input.links 0 input.buffer).2) }) := by
  simp only [fillInput, Edit.run_bind, Edit.run_modify, Edit.run_lift]

/-- However far filling the inputs of a region comes, it replaces their buffers by others of the
same type and length. The invariant of the pass is that this holds of the inputs passed so far. -/
theorem fillInputs_effect (network : Network κ) (region : Region κ) :
    ∃ fill : String → Buffer,
      (∀ name input, region.inputs.get? name = some input →
        (fill name).type = input.buffer.type ∧ (fill name).length = input.buffer.length ∧
          (fill name).allocated = input.buffer.allocated) ∧
      (network.fillInputs region).2 = { region with
        inputs := region.inputs.map (fun name input => input.withBuffer (fill name)) } := by
  refine Edit.forM_keeps (fun current => ∃ fill : String → Buffer,
    (∀ name input, region.inputs.get? name = some input →
      (fill name).type = input.buffer.type ∧ (fill name).length = input.buffer.length ∧
        (fill name).allocated = input.buffer.allocated) ∧
    current = { region with
      inputs := region.inputs.map (fun name input => input.withBuffer (fill name)) }) _ _ ?_ region
    ⟨fun name => ((region.inputs.get? name).map (fun input => input.buffer)).getD default, ?_, ?_⟩
  · rintro ⟨name, input⟩ member _ ⟨fill, same, rfl⟩
    have found := region.inputs.get?_of_mem (name, input) member
    rw [run_fillInput]
    refine ⟨Function.update fill name (network.fillBuffer input.links 0 input.buffer).2, ?_, ?_⟩
    · intro other former present
      by_cases here : other = name
      · subst here
        cases found.symm.trans present
        rw [Function.update_self]
        exact network.shape_fillBuffer input.links 0 input.buffer
      · rw [Function.update_of_ne here]
        exact same other former present
    · simp only
      congr 1
      apply NameMap.ext_get?
      intro other
      rw [NameMap.get?_insert, NameMap.get?_map, NameMap.get?_map]
      by_cases here : other = name
      · subst here
        rw [if_pos rfl, found, Option.map_some, Function.update_self]
      · rw [if_neg here]
        simp only [Function.update_of_ne here]
  · intro name input found
    simp only [found, Option.map_some, Option.getD_some, and_self]
  · have same : region.inputs.map (fun name input => input.withBuffer
        (((region.inputs.get? name).map (fun input => input.buffer)).getD default)) =
        region.inputs := by
      apply NameMap.ext_get?
      intro name
      rw [NameMap.get?_map]
      cases region.inputs.get? name <;> rfl
    rw [same]

/-- If every input of a region can be filled, filling the inputs replaces the buffer
of each by what its links bring. -/
theorem fillInputs_eq (network : Network κ) (region : Region κ) (fill : String → Buffer)
    (filled : ∀ name input, region.inputs.get? name = some input →
      network.fillBuffer input.links 0 input.buffer = (.ok (), fill name)) :
    network.fillInputs region = (.ok (), { region with
      inputs := region.inputs.map (fun name input => input.withBuffer (fill name)) }) := by
  have steps := Edit.forM_ok
    (fun entry : String × Input => network.fillInput (κ := κ) entry.1 entry.2)
    (fun current entry => { current with
      inputs := current.inputs.insert entry.1 (entry.2.withBuffer (fill entry.1)) })
    region.inputs.entries (by
      intro entry member current
      rw [run_fillInput, filled entry.1 entry.2 (region.inputs.get?_of_mem entry member)]) region
  have collected (entries : List (String × Input)) (current : Region κ) :
      entries.foldl (fun current entry => { current with
        inputs := current.inputs.insert entry.1 (entry.2.withBuffer (fill entry.1)) }) current =
      { current with inputs := entries.foldl (fun inputs entry =>
        inputs.insert entry.1 (entry.2.withBuffer (fill entry.1))) current.inputs } := by
    induction entries generalizing current with
    | nil => rfl
    | cons entry rest inductionHypothesis => exact inductionHypothesis _
  have inputs : region.inputs.entries.foldl (fun inputs entry =>
      inputs.insert entry.1 (entry.2.withBuffer (fill entry.1))) region.inputs =
      region.inputs.map (fun name input => input.withBuffer (fill name)) := by
    apply NameMap.ext_get?
    intro name
    rw [region.inputs.get?_foldl_insert (fun name input => input.withBuffer (fill name)),
      NameMap.get?_map]
    cases region.inputs.get? name <;> rfl
  rw [← inputs, ← collected]
  exact steps

/-- Filling the inputs of a region succeeds exactly if each input can be filled, and
then replaces the buffer of each by what its links bring. -/
theorem fillInputs_ok_iff (network : Network κ) (region filled : Region κ) :
    network.fillInputs region = (.ok (), filled) ↔
      ∃ fill : String → Buffer,
        (∀ name input, region.inputs.get? name = some input →
          network.fillBuffer input.links 0 input.buffer = (.ok (), fill name)) ∧
        filled = { region with
          inputs := region.inputs.map (fun name input => input.withBuffer (fill name)) } := by
  constructor
  · intro done
    have each (name : String) : ∃ buffer, ∀ input, region.inputs.get? name = some input →
        network.fillBuffer input.links 0 input.buffer = (.ok (), buffer) := by
      cases found : region.inputs.get? name with
      | none => exact ⟨default, fun input impossible => by cases impossible⟩
      | some input =>
        obtain ⟨before, after, made⟩ := Edit.exists_of_forM _ _ region filled done (name, input)
          ((region.inputs.mem_entries_iff name input).mpr found)
        rw [run_fillInput] at made
        refine ⟨(network.fillBuffer input.links 0 input.buffer).2, ?_⟩
        intro other same
        cases same
        exact Prod.ext (Prod.mk.inj made).1 rfl
    choose fill fills using each
    refine ⟨fill, fills, ?_⟩
    rw [network.fillInputs_eq region fill fills] at done
    exact (Prod.mk.inj done).2.symm
  · rintro ⟨fill, fills, rfl⟩
    exact network.fillInputs_eq region fill fills

/-- Filling the inputs of a region keeps its frame, also when it stops on the way. -/
theorem frame_fillInputs (network : Network κ) (region : Region κ) :
    (network.fillInputs region).2.frame = region.frame := by
  obtain ⟨fill, same, effect⟩ := network.fillInputs_effect region
  rw [effect]
  simp only [Region.frame, NameMap.map_map]
  congr 1
  apply NameMap.map_congr
  intro name input found
  obtain ⟨type, length, allocated⟩ := same name input found
  simp only [Input.withBuffer, Endpoint.form, type, length, allocated]

end Network

end RegionGraph
