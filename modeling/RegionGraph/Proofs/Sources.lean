import RegionGraph.Proofs.Effects

/-!
# What links carry

In a soundly wired network every link has a source and a reader, and the numbers
in the list of an input stand for the links that enter it, in their order. So what
an input receives can be told without numbers: the links that enter it hand on one
piece each, and the pieces lie in the buffer one after the other. Nothing of the
buffer's former contents is left if the pieces fill it.
-/

namespace RegionGraph

variable {κ : Type}

/-- What a link hands on of given contents to a reader of a type: the elements, if
they are of that type, selected by a rule that is in range. -/
def Link.handsOn (link : Link) (type : ElementType) (contents : Buffer) :
    Except DataError (List type.Carrier) := do
  let elements ← contents.read type
  if let some rule := link.spec.reindex then rule.validate contents.length
  return Reindex.selectFor link.spec.reindex elements

namespace Link

/-- A link hands on as many elements as its width says. -/
theorem handsOn_ok (link : Link) (type : ElementType) (contents : Buffer)
    (same : contents.type = type)
    (valid : ∀ rule, link.spec.reindex = some rule → rule.validate contents.length = .ok ()) :
    ∃ piece, link.handsOn type contents = .ok piece ∧
      piece.length = link.width contents.length := by
  obtain ⟨own, elements, allocated⟩ := contents
  cases same
  refine ⟨Reindex.selectFor link.spec.reindex elements, ?_, ?_⟩
  · unfold handsOn
    cases ruled : link.spec.reindex with
    | none => simp [Buffer.read]
    | some rule => simp [Buffer.read, valid rule ruled]
  · unfold width
    cases ruled : link.spec.reindex with
    | none => rfl
    | some rule => exact Reindex.length_select (valid rule ruled)

/-- Copying through a link writes what the link hands on. -/
theorem copyInto_of_handsOn (link : Link) (type : ElementType) (contents : Buffer)
    (piece former : List type.Carrier) (allocated : Bool) (offset : Nat)
    (handed : link.handsOn type contents = .ok piece)
    (fits : offset + piece.length ≤ former.length) :
    contents.copyInto ⟨type, former, allocated⟩ offset link.spec.reindex =
      .ok (piece.length, ⟨type, Buffer.overwrite former offset piece, allocated⟩) := by
  obtain ⟨own, elements, mark⟩ := contents
  obtain ⟨found, read, handed⟩ := (Traversal.bind_ok_iff _ _ _).mp handed
  unfold Buffer.read at read
  split at read
  · rename_i same
    cases same
    cases read
    cases ruled : link.spec.reindex with
    | none =>
      simp only [ruled] at handed
      cases handed
      have inside : ¬ former.length < offset + elements.length := Nat.not_lt.mpr fits
      simp [Buffer.copyInto, Reindex.widthFor, Reindex.selectFor, Buffer.length, inside]
    | some rule =>
      simp only [ruled] at handed
      obtain ⟨_, valid, handed⟩ := (Traversal.bind_ok_iff _ _ _).mp handed
      cases handed
      have width : (rule.select elements).length = rule.width := Reindex.length_select valid
      have inside : ¬ former.length < offset + rule.width := by
        rw [← width]
        exact Nat.not_lt.mpr fits
      have checked : rule.validate elements.length = .ok () := valid
      simp [Buffer.copyInto, Reindex.widthFor, Reindex.selectFor, Buffer.length, inside, checked,
        width]
  · cases read

end Link

namespace Network

/-- The links that enter an input, in the order of links. -/
def entering (network : Network κ) (region input : String) : List Link :=
  network.links.filter (fun link => link.spec.destination = region ∧ link.spec.input = input)

/-- The numbers at an input are those of the links that enter it. -/
theorem input_links_entering (network : Network κ) (sound : network.wiring.Sound)
    (region : Region κ) (member : region ∈ network.regions) (name : String) (input : Input)
    (found : region.inputs.get? name = some input) :
    input.links = (network.entering region.name name).map Link.id := by
  rw [network.input_links sound region member name input found]
  simp only [Wiring.entering, wiring, entering, List.filter_map, List.map_map, Function.comp_def]

/-- The live contents that a link starts from. -/
def live (network : Network κ) (link : Link) : Buffer :=
  match network.sourceBuffer link with
  | .ok buffer => buffer
  | .error _ => default

/-- Every link has a source, and its contents have the type of the reader. -/
theorem sourceBuffer_ok (network : Network κ) (sound : network.wiring.Sound) (link : Link)
    (member : link ∈ network.links) :
    network.sourceBuffer link = .ok (network.live link) ∧
      ∃ source ∈ network.regions, ∃ output, source.name = link.spec.source ∧
        source.outputs.get? link.spec.output = some output ∧
        output.buffer = network.live link := by
  obtain ⟨source, present, _, _, output, _, named, found, _⟩ := network.link_ends sound link member
  have located := (network.region_ok_iff (network.indexed_of_sound sound) link.spec.source
    source).mpr ⟨present, named⟩
  have starts : network.sourceBuffer link = .ok output.buffer := by
    simp only [sourceBuffer, located, Traversal.ok_bind,
      (source.output_ok_iff link.spec.output output).mpr found]
    rfl
  have same : output.buffer = network.live link := by rw [live, starts]
  exact ⟨same ▸ starts, source, present, output, named, found, same⟩

/-- The contents that a link starts from have the type of its reader. -/
theorem type_live (network : Network κ) (sound : network.wiring.Sound) (link : Link)
    (region : Region κ) (member : region ∈ network.regions) (name : String) (input : Input)
    (found : region.inputs.get? name = some input)
    (enters : link ∈ network.entering region.name name) :
    (network.live link).type = input.buffer.type := by
  obtain ⟨listed, ends⟩ := List.mem_filter.mp enters
  obtain ⟨destinationIs, inputIs⟩ := of_decide_eq_true ends
  obtain ⟨source, sourceMember, destination, destinationMember, output, reader, sourceName,
    outputFound, destinationName, readerFound, types⟩ := network.link_ends sound link listed
  have indexed := network.indexed_of_sound sound
  have sameRegion := network.region_unique indexed destination region destinationMember member
    (destinationName.trans destinationIs)
  rw [sameRegion, inputIs, found, Option.some.injEq] at readerFound
  obtain ⟨_, other, otherMember, otherOutput, otherName, otherFound, live⟩ :=
    network.sourceBuffer_ok sound link listed
  have sameSource := network.region_unique indexed other source otherMember sourceMember
    (otherName.trans sourceName.symm)
  rw [sameSource, outputFound, Option.some.injEq] at otherFound
  rw [← live, ← otherFound, types, readerFound]

/-- Filling a buffer from links writes what they hand on, one piece after the other,
from an offset on. -/
theorem fillBuffer_eq (network : Network κ) (sound : network.wiring.Sound) (links : List Link)
    (listed : ∀ link ∈ links, link ∈ network.links) (type : ElementType)
    (pieces : List (List type.Carrier))
    (handed : List.Forall₂ (fun link piece =>
      link.handsOn type (link.visible (network.live link)) = .ok piece) links pieces)
    (former : List type.Carrier) (allocated : Bool) (offset : Nat)
    (fits : offset + pieces.flatten.length ≤ former.length) :
    network.fillBuffer (links.map Link.id) offset ⟨type, former, allocated⟩ =
      (.ok (), ⟨type, Buffer.overwrite former offset pieces.flatten, allocated⟩) := by
  induction handed generalizing former offset with
  | nil => simp [fillBuffer, Buffer.overwrite]
  | cons here others inductionHypothesis =>
    rename_i link piece rest more
    have member := listed link List.mem_cons_self
    have located : network.link link.id = .ok link := by
      rw [Network.link, (network.link?_eq_some_iff (network.links_ascending sound) link.id link).mpr
        ⟨member, rfl⟩]
    rw [List.flatten_cons, List.length_append] at fits
    have copied := link.copyInto_of_handsOn type _ piece former allocated offset here (by omega)
    have length := Buffer.length_overwrite former piece offset (by omega)
    have next := inductionHypothesis
      (fun other present => listed other (List.mem_cons_of_mem link present))
      (Buffer.overwrite former offset piece) (offset + piece.length) (by omega)
    rw [List.map_cons, fillBuffer, copyView, located, Traversal.ok_bind,
      (network.sourceBuffer_ok sound link member).1, Traversal.ok_bind, copied]
    simp only [liftData, Except.mapError, next]
    rw [Buffer.overwrite_overwrite former piece more.flatten offset (by omega), List.flatten_cons]

end Network

end RegionGraph
