import Mathlib.Algebra.GroupWithZero.Nat
import RegionGraph.Proofs.Sources

/-!
# Shapes that let data flow

A network is shaped when every endpoint has storage, every input is as long as what
its links bring, every rule is in range of its source, and every delayed link holds
as many snapshots as its delay says, each like its source. Shape is a matter of
frames and snapshots, so computing cannot spoil it. In a shaped network filling
inputs and moving delayed links on never fails, and what an input receives does not
depend on what it held.
-/

namespace RegionGraph

variable {κ : Type}

/-- The type and the length of a buffer. -/
def Buffer.extent (buffer : Buffer) : ElementType × Nat := (buffer.type, buffer.length)

namespace Network

/-- The buffers fit together. -/
structure Shaped (network : Network κ) : Prop where
  outputs : ∀ region ∈ network.regions, ∀ name output, region.outputs.get? name = some output →
    output.buffer.allocated = true
  inputs : ∀ region ∈ network.regions, ∀ name input, region.inputs.get? name = some input →
    input.buffer.allocated = true ∧
      input.buffer.length = ((network.entering region.name name).map
        (fun link => link.width (network.live link).length)).sum
  rules : ∀ link ∈ network.links, ∀ rule, link.spec.reindex = some rule →
    rule.validate (network.live link).length = .ok ()
  pending : ∀ link ∈ network.links, link.isDelayed = true → link.pending.length = link.delay ∧
    ∀ snapshot ∈ link.pending, snapshot.extent = (network.live link).extent

/-! ### Shape is a matter of frames -/

/-- What the frames and their index tell of the output that a specification names. -/
def sourceForm (index : NameMap Nat) (frames : List Frame) (spec : LinkSpec) : Option Form :=
  ((index.get? spec.source).bind (frames[·]?)).bind (fun frame => frame.outputs.get? spec.output)

/-- The frames tell the extent of the contents that a link starts from. -/
theorem extent_live (network : Network κ) (link : Link) :
    (network.live link).extent =
      match sourceForm network.index (network.regions.map Region.frame) link.spec with
      | some form => (form.type, form.length)
      | none => (default : Buffer).extent := by
  have found : (network.index.get? link.spec.source).bind
      ((network.regions.map Region.frame)[·]?) =
      ((network.position? link.spec.source).bind (network.regions[·]?)).map Region.frame := by
    simp only [position?, List.getElem?_map, Option.map_bind, Function.comp_def]
  simp only [live, sourceBuffer, sourceForm, found, Network.region]
  cases (network.position? link.spec.source).bind (network.regions[·]?) with
  | none => rfl
  | some region =>
    simp only [Traversal.ok_bind, Option.map_some, Option.bind_some, Region.frame,
      NameMap.get?_map, Region.output]
    cases region.outputs.get? link.spec.output <;> rfl

/-- Networks with the same frames and index start links from contents of the same extent. -/
theorem extent_live_of_frames (first second : Network κ)
    (frames : first.regions.map Region.frame = second.regions.map Region.frame)
    (index : first.index = second.index)
    (link other : Link) (specs : link.spec = other.spec) :
    (first.live link).extent = (second.live other).extent := by
  rw [extent_live, extent_live, index, frames, specs]

/-- Widths of links depend on specifications, frames and their index. -/
theorem widths_of_frames (first second : Network κ)
    (frames : first.regions.map Region.frame = second.regions.map Region.frame)
    (index : first.index = second.index)
    (specs : first.links.map Link.spec = second.links.map Link.spec) (region input : String) :
    (first.entering region input).map (fun link => link.width (first.live link).length) =
      (second.entering region input).map (fun link => link.width (second.live link).length) := by
  have widths (network : Network κ) :
      (network.entering region input).map (fun link => link.width (network.live link).length) =
        ((network.links.map Link.spec).filter
          (fun spec => spec.destination = region ∧ spec.input = input)).map
          (fun spec => Reindex.widthFor spec.reindex
            (network.live (Link.new ⟨0⟩ spec)).length) := by
    simp only [entering, List.filter_map, List.map_map, Function.comp_def]
    rfl
  rw [widths, widths, specs]
  apply List.map_congr_left
  intro spec _
  have same := congrArg Prod.snd
    (extent_live_of_frames first second frames index (Link.new ⟨0⟩ spec) (Link.new ⟨0⟩ spec) rfl)
  simp only [Buffer.extent] at same
  rw [same]

/-- A network with the frames, index and specifications of a shaped one is shaped if its
snapshots fit. -/
theorem shaped_of_frames (first second : Network κ)
    (frames : first.regions.map Region.frame = second.regions.map Region.frame)
    (index : first.index = second.index)
    (specs : first.links.map Link.spec = second.links.map Link.spec) (shaped : first.Shaped)
    (pending : ∀ link ∈ second.links, link.isDelayed = true → link.pending.length = link.delay ∧
      ∀ snapshot ∈ link.pending, snapshot.extent = (second.live link).extent) :
    second.Shaped := by
  have former (region : Region κ) (member : region ∈ second.regions) :
      ∃ other ∈ first.regions, other.frame = region.frame := by
    have listed : region.frame ∈ first.regions.map Region.frame :=
      frames ▸ List.mem_map_of_mem member
    exact List.mem_map.mp listed
  constructor
  · intro region member name output found
    obtain ⟨other, otherMember, same⟩ := former region member
    have forms := congrArg (fun frame => frame.outputs.get? name) same
    simp only [Region.frame, NameMap.get?_map, found, Option.map_some, Option.map_eq_some_iff]
      at forms
    obtain ⟨before, beforeFound, form⟩ := forms
    have allocated := congrArg Form.allocated form
    exact allocated.symm.trans (shaped.outputs other otherMember name before beforeFound)
  · intro region member name input found
    obtain ⟨other, otherMember, same⟩ := former region member
    have names : other.name = region.name := congrArg Frame.name same
    have forms := congrArg (fun frame => frame.inputs.get? name) same
    simp only [Region.frame, NameMap.get?_map, found, Option.map_some, Option.map_eq_some_iff]
      at forms
    obtain ⟨before, beforeFound, form⟩ := forms
    have allocated := congrArg (fun form => Form.allocated form.1) form
    have length := congrArg (fun form => Form.length form.1) form
    obtain ⟨storage, sum⟩ := shaped.inputs other otherMember name before beforeFound
    refine ⟨allocated.symm.trans storage, ?_⟩
    rw [← widths_of_frames first second frames index specs, ← names, ← sum]
    exact length.symm
  · intro link member rule ruled
    have listed : link.spec ∈ first.links.map Link.spec := specs ▸ List.mem_map_of_mem member
    obtain ⟨other, otherMember, same⟩ := List.mem_map.mp listed
    have extent := congrArg Prod.snd (extent_live_of_frames first second frames index other link
      same)
    simp only [Buffer.extent] at extent
    rw [← extent]
    exact shaped.rules other otherMember rule (same ▸ ruled)
  · exact pending

/-- A network with the frames, index and links of a shaped one is shaped. -/
theorem shaped_of_links (first second : Network κ)
    (frames : first.regions.map Region.frame = second.regions.map Region.frame)
    (index : first.index = second.index)
    (links : first.links = second.links) (shaped : first.Shaped) : second.Shaped := by
  refine shaped_of_frames first second frames index (congrArg (List.map Link.spec) links) shaped ?_
  intro link member delayed
  rw [← extent_live_of_frames first second frames index link link rfl]
  exact shaped.pending link (links ▸ member) delayed

/-! ### Nothing fails in a shaped network -/

/-- What the reader of a link sees has the extent of the source. -/
theorem extent_visible (network : Network κ) (shaped : network.Shaped) (link : Link)
    (member : link ∈ network.links) :
    (link.visible (network.live link)).extent = (network.live link).extent := by
  unfold Link.visible
  split
  · rename_i delayed
    obtain ⟨count, like⟩ := shaped.pending link member delayed
    cases held : link.pending with
    | nil =>
      rw [held] at count
      have none : link.delay = 0 := count.symm
      simp [Link.isDelayed, none] at delayed
    | cons oldest rest => exact like oldest (held ▸ List.mem_cons_self)
  · rfl

/-- Every link that enters an input hands on a piece, and the pieces together are as
long as the input. -/
theorem pieces_of_shaped (network : Network κ) (sound : network.wiring.Sound)
    (shaped : network.Shaped) (region : Region κ) (member : region ∈ network.regions)
    (name : String) (input : Input) (found : region.inputs.get? name = some input) :
    ∃ pieces : List (List input.buffer.type.Carrier),
      List.Forall₂ (fun link piece => link.handsOn input.buffer.type
        (link.visible (network.live link)) = .ok piece) (network.entering region.name name)
        pieces ∧ pieces.flatten.length = input.buffer.length := by
  have each : ∀ links : List Link, (∀ link ∈ links, link ∈ network.entering region.name name) →
      ∃ pieces : List (List input.buffer.type.Carrier),
        List.Forall₂ (fun link piece => link.handsOn input.buffer.type
          (link.visible (network.live link)) = .ok piece) links pieces ∧
        pieces.flatten.length =
          (links.map (fun link => link.width (network.live link).length)).sum := by
    intro links enter
    induction links with
    | nil => exact ⟨[], .nil, rfl⟩
    | cons link rest inductionHypothesis =>
      have enters := enter link List.mem_cons_self
      have listed : link ∈ network.links := List.mem_of_mem_filter enters
      have extent := network.extent_visible shaped link listed
      have type := network.type_live sound link region member name input found enters
      have same : (link.visible (network.live link)).length = (network.live link).length :=
        congrArg Prod.snd extent
      obtain ⟨piece, handed, length⟩ := link.handsOn_ok input.buffer.type
        (link.visible (network.live link)) ((congrArg Prod.fst extent).trans type)
        (fun rule ruled => same ▸ shaped.rules link listed rule ruled)
      obtain ⟨pieces, others, total⟩ := inductionHypothesis
        (fun other present => enter other (List.mem_cons_of_mem link present))
      refine ⟨piece :: pieces, .cons handed others, ?_⟩
      rw [List.flatten_cons, List.length_append, total, length, same, List.map_cons,
        List.sum_cons]
  obtain ⟨pieces, handed, total⟩ := each _ (fun link enters => enters)
  exact ⟨pieces, handed, total.trans (shaped.inputs region member name input found).2.symm⟩

/-- An input of a shaped network receives the pieces of its links, one after the
other, and nothing else. -/
theorem fillBuffer_of_shaped (network : Network κ) (sound : network.wiring.Sound)
    (shaped : network.Shaped) (region : Region κ) (member : region ∈ network.regions)
    (name : String) (input : Input) (found : region.inputs.get? name = some input) :
    ∃ pieces : List (List input.buffer.type.Carrier),
      List.Forall₂ (fun link piece => link.handsOn input.buffer.type
        (link.visible (network.live link)) = .ok piece) (network.entering region.name name)
        pieces ∧
      network.fillBuffer input.links 0 input.buffer =
        (.ok (), Buffer.ofList input.buffer.type pieces.flatten) := by
  obtain ⟨pieces, handed, total⟩ := network.pieces_of_shaped sound shaped region member name input
    found
  refine ⟨pieces, handed, ?_⟩
  have storage := (shaped.inputs region member name input found).1
  have filled := network.fillBuffer_eq sound (network.entering region.name name)
    (fun link enters => List.mem_of_mem_filter enters) input.buffer.type pieces handed
    input.buffer.elements input.buffer.allocated 0
    (Nat.le_of_eq (by rw [Nat.zero_add, total]; rfl))
  rw [network.input_links_entering sound region member name input found, filled,
    Buffer.overwrite_all _ _ total, storage]
  rfl

/-- Filling the inputs of a region of a shaped network succeeds. -/
theorem fillInputs_of_shaped (network : Network κ) (sound : network.wiring.Sound)
    (shaped : network.Shaped) (region : Region κ) (member : region ∈ network.regions) :
    ∃ filled, network.fillInputs region = (.ok (), filled) := by
  have each (name : String) : ∃ buffer, ∀ input, region.inputs.get? name = some input →
      network.fillBuffer input.links 0 input.buffer = (.ok (), buffer) := by
    cases found : region.inputs.get? name with
    | none => exact ⟨default, fun _ impossible => by cases impossible⟩
    | some input =>
      obtain ⟨pieces, _, filled⟩ :=
        network.fillBuffer_of_shaped sound shaped region member name input found
      exact ⟨_, fun other same => by cases same; exact filled⟩
  choose fill fills using each
  exact ⟨_, network.fillInputs_eq region fill fills⟩

/-- Moving the links of a soundly wired network on succeeds, and moves every link by
the live contents of its source. -/
theorem shiftLinks_eq (network : Network κ) (sound : network.wiring.Sound) :
    shiftLinks.run network = (.ok (), { network with
      links := network.links.map (fun link => link.shift (network.live link)) }) := by
  rw [shiftLinks, editAllDelayed_ok Link.shift network network.live
    (fun link member => (network.sourceBuffer_ok sound link member).1)]
  have direct (link : Link) : (if link.isDelayed then link.shift (network.live link) else link) =
      link.shift (network.live link) := by
    unfold Link.shift
    split <;> rfl
  simp only [direct]

/-- The contents of a snapshot that takes the place of another have the extent of
what it shows. -/
theorem extent_reuse (storage live : Buffer) : (Link.reuse storage live).extent = live.extent := by
  unfold Link.reuse
  split
  · rename_i same
    cases copied : storage.copyFrom live with
    | error fault => rfl
    | ok refilled =>
      unfold Buffer.copyFrom at copied
      rw [if_pos same.symm] at copied
      cases outcome : live.copyInto storage 0 none with
      | error fault =>
        rw [outcome] at copied
        cases copied
      | ok made =>
        rw [outcome] at copied
        cases copied
        obtain ⟨types, _, _, _, lengths⟩ := Buffer.copyInto_ok live storage _ 0 _ none outcome
        have kept := (Buffer.copyInto_shape outcome).1
        simp only [Buffer.extent]
        rw [kept, types, lengths, same]
  · rfl

/-- Moving the links on keeps a network shaped. -/
theorem shaped_shift (network : Network κ) (shaped : network.Shaped) :
    Shaped { network with
      links := network.links.map (fun link => link.shift (network.live link)) } := by
  refine shaped_of_frames network _ rfl rfl ?_ shaped ?_
  · rw [List.map_map]
    apply List.map_congr_left
    intro link _
    exact (congrArg Prod.snd (shift_id_spec link (network.live link))).symm
  · intro moved member delayed
    obtain ⟨link, present, rfl⟩ := List.mem_map.mp member
    have spec : (link.shift (network.live link)).spec = link.spec :=
      congrArg Prod.snd (shift_id_spec link (network.live link))
    have delays : (link.shift (network.live link)).delay = link.delay := by
      rw [Link.delay, Link.delay, spec]
    have extent := extent_live_of_frames network { network with
      links := network.links.map (fun link => link.shift (network.live link)) } rfl rfl
      link (link.shift (network.live link)) spec.symm
    have wasDelayed : link.isDelayed = true := by
      rw [Link.isDelayed, delays] at delayed
      exact delayed
    obtain ⟨count, like⟩ := shaped.pending link present wasDelayed
    rw [delays, ← extent]
    simp only [Link.shift, wasDelayed, if_true]
    cases held : link.pending with
    | nil =>
      rw [held] at count
      have none : link.delay = 0 := count.symm
      simp [Link.isDelayed, none] at wasDelayed
    | cons oldest rest =>
      rw [held] at count like
      constructor
      · rw [List.length_append, List.length_singleton, ← count, List.length_cons]
      · intro snapshot listed
        rcases List.mem_append.mp listed with kept | new
        · exact like snapshot (List.mem_cons_of_mem oldest kept)
        · rw [List.mem_singleton.mp new, extent_reuse]

end Network

end RegionGraph
