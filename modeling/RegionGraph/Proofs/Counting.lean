import Mathlib.Algebra.GroupWithZero.Nat
import RegionGraph.Proofs.Sources

/-!
# Lengths that were decided

In a soundly wired network looking up links and positions never fails, so what the
links of an input bring is a plain sum of words, known as soon as all its sources are. A
visit decides lengths of outputs that the region has and of no others.
-/

namespace RegionGraph

variable {κ : Type}

namespace Network

/-- The length of the source of a link, if it is decided. -/
def sourceCount (network : Network κ) (counts : OutputCounts) (link : Link) : Option Nat :=
  (network.position? link.spec.source).bind
    (fun source => (counts[source]?.getD ∅).get? link.spec.output)

/-- What links bring together in words, if the lengths of all sources are decided. -/
def brought (network : Network κ) (counts : OutputCounts) : List Link → Option Nat
  | [] => some 0
  | link :: rest =>
    match network.sourceCount counts link with
    | none => none
    | some count =>
      (network.brought counts rest).map (fun total => (link.width count + total) % 2 ^ 64)

/-- The position of the source of a link. -/
theorem source_position (network : Network κ) (sound : network.wiring.Sound) (link : Link)
    (member : link ∈ network.links) :
    ∃ index source output, network.position link.spec.source = .ok index ∧
      network.position? link.spec.source = some index ∧ network.regions[index]? = some source ∧
      source.outputs.get? link.spec.output = some output ∧
      output.buffer = network.live link := by
  obtain ⟨_, source, present, output, named, found, live⟩ :=
    network.sourceBuffer_ok sound link member
  have indexed := network.indexed_of_sound sound
  obtain ⟨index, located, stands⟩ := network.position_of_mem indexed source present
  rw [named] at located
  have position := (network.position?_eq_some_iff indexed link.spec.source index).mpr
    ⟨source, stands, named⟩
  exact ⟨index, source, output, located, position, stands, found, live⟩

/-- In sound wiring no link number and no region is looked up in vain. -/
theorem broughtBy_eq (network : Network κ) (sound : network.wiring.Sound) (counts : OutputCounts)
    (links : List Link) (listed : ∀ link ∈ links, link ∈ network.links) :
    network.broughtBy counts (links.map Link.id) = .ok (network.brought counts links) := by
  induction links with
  | nil => rfl
  | cons link rest inductionHypothesis =>
    have member := listed link List.mem_cons_self
    have located : network.link link.id = .ok link := by
      rw [Network.link, (network.link?_eq_some_iff (network.links_ascending sound) link.id link).mpr
        ⟨member, rfl⟩]
    obtain ⟨index, _, _, position, found, _⟩ := network.source_position sound link member
    have others := inductionHypothesis
      (fun other present => listed other (List.mem_cons_of_mem link present))
    rw [List.map_cons, broughtBy, located, Traversal.ok_bind, position, Traversal.ok_bind, brought,
      sourceCount, found, Option.bind_some]
    cases (counts[index]?.getD ∅).get? link.spec.output with
    | none => rfl
    | some count =>
      simp only [others, Traversal.ok_bind]
      rfl

/-- The known lengths of the inputs of a region are those that their links bring. -/
theorem knownWidths_eq (network : Network κ) (sound : network.wiring.Sound)
    (counts : OutputCounts) (region : Region κ) (member : region ∈ network.regions) :
    network.knownWidths counts region = .ok (region.inputs.filterMap
      (fun name _ => network.brought counts (network.entering region.name name))) := by
  have made : region.inputs.entries.foldl (fun widths entry =>
      widths.note entry.1 (network.brought counts (network.entering region.name entry.1))) ∅ =
      region.inputs.filterMap
        (fun name _ => network.brought counts (network.entering region.name name)) := by
    apply NameMap.ext_get?
    intro name
    rw [NameMap.get?_filterMap, region.inputs.get?_foldl_note
      (fun name _ => network.brought counts (network.entering region.name name)),
      NameMap.get?_empty, Option.or_none]
  rw [← made]
  refine Traversal.foldlM_ok _ _ region.inputs.entries ∅ ?_
  intro widths entry present
  have found := region.inputs.get?_of_mem entry present
  dsimp only
  rw [network.input_links_entering sound region member entry.1 entry.2 found,
    network.broughtBy_eq sound counts (network.entering region.name entry.1)
      (fun link enters => List.mem_of_mem_filter enters),
    Traversal.ok_bind]
  cases network.brought counts (network.entering region.name entry.1) <;> rfl

/-- Links whose sources are all decided bring the sum of their widths, as far as it goes into
a word: reducing it after every addition or once at the end is the same. -/
theorem brought_of_decided (network : Network κ) (counts : OutputCounts) (links : List Link)
    (decided : ∀ link ∈ links, ∃ count, network.sourceCount counts link = some count) :
    network.brought counts links = some ((links.map
      (fun link => link.width ((network.sourceCount counts link).getD 0))).sum % 2 ^ 64) := by
  induction links with
  | nil => rfl
  | cons link rest inductionHypothesis =>
    obtain ⟨count, found⟩ := decided link List.mem_cons_self
    have others := inductionHypothesis
      (fun other present => decided other (List.mem_cons_of_mem link present))
    rw [brought, found, others, List.map_cons, List.sum_cons, found, ← Nat.add_mod_mod]
    rfl

/-! ### What is decided -/

/-- Lengths are noted for every region, and only of outputs that it has. -/
structure Noted (network : Network κ) (counts : OutputCounts) : Prop where
  length : counts.length = network.regions.length
  bound : ∀ (index : Nat) (region : Region κ) (known : NameMap Nat),
    network.regions[index]? = some region →
    counts[index]? = some known → ∀ name count, known.get? name = some count →
      ∃ output, region.outputs.get? name = some output

/-- Lengths are noted wherever a region stands. -/
theorem Noted.known {network : Network κ} {counts : OutputCounts} (noted : network.Noted counts)
    (index : Nat) (region : Region κ) (stands : network.regions[index]? = some region) :
    ∃ known, counts[index]? = some known :=
  ⟨_, List.getElem?_eq_getElem (noted.length ▸ (List.getElem?_eq_some_iff.mp stands).1)⟩

variable [Implementation κ]

/-- What one visit makes of the lengths of a region: undecided outputs are asked for. -/
def decideAll (region : Region κ) (widths known : NameMap Nat) : NameMap Nat :=
  (region.outputs.names.filter (fun name => !known.contains name)).foldl
    (fun known name => known.note name (region.outputCount? name widths)) known

/-- A visit notes lengths of outputs that the region has. -/
theorem get?_decideAll (region : Region κ) (widths known : NameMap Nat) (name : String)
    (count : Nat) (found : (decideAll region widths known).get? name = some count) :
    known.get? name = some count ∨ name ∈ region.outputs.names := by
  have each : ∀ (names : List String) (start : NameMap Nat),
      (∀ name ∈ names, name ∈ region.outputs.names) →
      (names.foldl (fun known name => known.note name (region.outputCount? name widths))
        start).get? name = some count →
      start.get? name = some count ∨ name ∈ region.outputs.names := by
    intro names
    induction names with
    | nil => exact fun start _ found => Or.inl found
    | cons first rest inductionHypothesis =>
      intro start listed found
      rcases inductionHypothesis _ (fun other member =>
        listed other (List.mem_cons_of_mem first member)) found with earlier | named
      · rw [NameMap.get?_note] at earlier
        split at earlier
        · rename_i same
          exact Or.inr (same ▸ listed first List.mem_cons_self)
        · exact Or.inl earlier
      · exact Or.inr named
  exact each _ known (fun name member => List.mem_of_mem_filter member) found

/-- A visit that does something asks one region for the lengths of its outputs. -/
theorem visit_eq (network : Network κ) (sound : network.wiring.Sound) (counts : OutputCounts)
    (index : Nat) :
    network.visit counts index = .ok (
      match network.regions[index]? with
      | none => counts
      | some region =>
        if (region.outputs.names.filter
            (fun name => !(counts[index]?.getD ∅).contains name)).isEmpty then counts
        else counts.set index (decideAll region (region.inputs.filterMap
          (fun name _ => network.brought counts (network.entering region.name name)))
          (counts[index]?.getD ∅))) := by
  unfold visit
  cases found : network.regions[index]? with
  | none => rfl
  | some region =>
    have member : region ∈ network.regions := List.mem_of_getElem? found
    simp only [network.knownWidths_eq sound counts region member, Traversal.ok_bind]
    split
    · rfl
    · refine congrArg (fun known => Except.ok (counts.set index known)) ?_
      unfold decideAll
      congr 1
      funext known name
      cases region.outputCount? name _ <;> rfl

/-- Visiting keeps to the outputs that exist. -/
theorem noted_visit (network : Network κ) (sound : network.wiring.Sound)
    (counts next : OutputCounts) (index : Nat) (noted : network.Noted counts)
    (visited : network.visit counts index = .ok next) : network.Noted next := by
  rw [network.visit_eq sound counts index, Except.ok.injEq] at visited
  cases found : network.regions[index]? with
  | none =>
    simp only [found] at visited
    exact visited ▸ noted
  | some region =>
    simp only [found] at visited
    split at visited
    · exact visited ▸ noted
    · subst visited
      refine ⟨by rw [List.length_set]; exact noted.length, ?_⟩
      intro other owner known ownerFound knownFound name count bound
      rw [List.getElem?_set] at knownFound
      split at knownFound
      · rename_i same
        split at knownFound
        · cases knownFound
          rw [← same, found, Option.some.injEq] at ownerFound
          rcases get?_decideAll region _ _ name count bound with earlier | named
          · cases former : counts[index]? with
            | none =>
              rw [former] at earlier
              cases earlier
            | some before =>
              rw [former] at earlier
              exact noted.bound index owner before (ownerFound ▸ found) former name count earlier
          · exact ownerFound ▸ (region.outputs.mem_names_iff name).mp named
        · cases knownFound
      · exact noted.bound other owner known ownerFound knownFound name count bound

end Network

end RegionGraph
