import Mathlib.Algebra.Order.BigOperators.Group.List
import Mathlib.Algebra.Order.Group.Nat
import RegionGraph.Proofs.Resolution

/-!
# What is in memory counts in words

Lengths are added as words of 64 bits, and so may come out too small. They do not in a
network that memory can hold: an output has one link to an input at most, so each of the
links of an input reads elements of an output of its own, or picks positions of a rule of
its own, and all of these are in memory at the same time. Hence no input is brought more
than memory holds.
-/

namespace RegionGraph

variable {κ : Type}

/-- A rule that stays inside its source hands on no more elements than there are, but for
the positions that it keeps itself. -/
theorem Link.width_le (link : Link) (count : Nat)
    (inside : ∀ rule, link.spec.reindex = some rule → rule.validate count = .ok ()) :
    link.width count ≤ count + link.spec.reindex.elim 0 Reindex.stored := by
  rw [width, Reindex.widthFor]
  cases ruled : link.spec.reindex with
  | none => exact Nat.le_refl count
  | some rule =>
    have valid := inside rule ruled
    cases rule with
    | range offset selected =>
      rw [Reindex.validate] at valid
      split at valid
      case isTrue overflow => cases valid
      case isFalse small =>
        split at valid
        case isTrue outside => cases valid
        case isFalse fits =>
          change selected.toNat ≤ count + 0
          omega
    | indices positions => exact Nat.le_add_left positions.length count

namespace Network

/-- The lengths that are noted, each with the place of its output. -/
def slots (counts : OutputCounts) : List ((Nat × String) × Nat) :=
  counts.zipIdx.flatMap fun known =>
    known.1.entries.map fun entry => ((known.2, entry.1), entry.2)

/-- The elements of all outputs are those of all places. -/
theorem elements_eq (counts : OutputCounts) :
    elements counts = ((slots counts).map Prod.snd).sum := by
  have lengths : (slots counts).map Prod.snd =
      counts.zipIdx.flatMap (fun known => known.1.entries.map Prod.snd) := by
    simp only [slots, List.map_flatMap, List.map_map, Function.comp_def]
  have places : counts.flatMap (fun known => known.entries.map Prod.snd) =
      counts.zipIdx.flatMap (fun known => known.1.entries.map Prod.snd) := by
    conv_lhs => rw [← List.zipIdx_map_fst 0 counts, List.flatMap_map]
  rw [elements, lengths, places]
  rfl

/-- The places are those of which a length is told. -/
theorem mem_slots_iff (counts : OutputCounts) (index : Nat) (name : String) (count : Nat) :
    ((index, name), count) ∈ slots counts ↔ told counts index name = some count := by
  simp only [slots, List.mem_flatMap, List.mem_map, Prod.mk.injEq]
  constructor
  · rintro ⟨known, listed, entry, bound, ⟨rfl, rfl⟩, rfl⟩
    rw [told, List.mem_zipIdx_iff_getElem?.mp listed, Option.getD_some]
    exact known.1.get?_of_mem entry bound
  · intro found
    rw [told] at found
    cases here : counts[index]? with
    | none =>
      rw [here] at found
      cases found
    | some known =>
      rw [here] at found
      exact ⟨(known, index), List.mem_zipIdx_iff_getElem?.mpr here, (name, count),
        (known.mem_entries_iff name count).mpr found, ⟨rfl, rfl⟩, rfl⟩

/-- Every output has one place. -/
theorem nodup_slots (counts : OutputCounts) : ((slots counts).map Prod.fst).Nodup := by
  rw [slots, List.map_flatMap, List.nodup_flatMap]
  constructor
  · intro known _
    simp only [List.map_map, Function.comp_def]
    refine List.pairwise_map.mpr ((List.pairwise_map.mp known.1.names_nodup).imp ?_)
    exact fun different same => different (Prod.mk.inj same).2
  · have numbered : (counts.zipIdx.map Prod.snd).Nodup := by
      rw [List.zipIdx_map_snd]
      exact List.nodup_range'
    refine (List.pairwise_map.mp numbered).imp ?_
    intro earlier later different place first second
    simp only [List.map_map, List.mem_map, Function.comp_apply] at first second
    obtain ⟨_, _, rfl⟩ := first
    obtain ⟨_, _, same⟩ := second
    exact different (Prod.mk.inj same).1.symm

/-- Outputs at different places hold no more elements together than all outputs do. -/
theorem sum_le_elements (counts : OutputCounts) (items : List ((Nat × String) × Nat))
    (apart : (items.map Prod.fst).Nodup)
    (noted : ∀ item ∈ items, told counts item.1.1 item.1.2 = some item.2) :
    (items.map Prod.snd).sum ≤ elements counts := by
  have listed : items ⊆ slots counts := fun item member =>
    (mem_slots_iff counts item.1.1 item.1.2 item.2).mpr (noted item member)
  obtain ⟨others, same, part⟩ := (apart.of_map Prod.fst).subperm listed
  rw [elements_eq, ← (same.map Prod.snd).sum_eq]
  exact (part.map Prod.snd).sum_le_sum fun _ _ => Nat.zero_le _

variable (network : Network κ) (sound : network.wiring.Sound) (counts : OutputCounts)
  (decided : ∀ link ∈ network.links, ∃ count, network.sourceCount counts link = some count)

include sound in
/-- The links of an input read different outputs. -/
theorem entering_apart (region input : String) :
    (network.entering region input).Pairwise (fun earlier later =>
      ¬(earlier.spec.source = later.spec.source ∧ earlier.spec.output = later.spec.output)) := by
  have single : network.links.Pairwise (fun earlier later =>
      ¬earlier.spec.SameEnds later.spec) := List.pairwise_map.mp sound.single
  refine (single.filter _).imp_of_mem ?_
  intro earlier later first second different ⟨source, output⟩
  have ends (link : Link) (enters : link ∈ network.entering region input) :
      link.spec.destination = region ∧ link.spec.input = input := by
    simpa using (List.mem_filter.mp enters).2
  obtain ⟨destination, into⟩ := ends earlier first
  obtain ⟨destinationToo, intoToo⟩ := ends later second
  exact different ⟨source, output, destination.trans destinationToo.symm, into.trans intoToo.symm⟩

include sound decided in
/-- The sources of the links of an input hold no more elements than all outputs do. -/
theorem sources_le_elements (region input : String) :
    ((network.entering region input).map
      (fun link => (network.sourceCount counts link).getD 0)).sum ≤ elements counts := by
  let place (link : Link) : Nat × String :=
    ((network.position? link.spec.source).getD 0, link.spec.output)
  have located (link : Link) (enters : link ∈ network.entering region input) :
      ∃ index, network.position? link.spec.source = some index ∧
        told counts index link.spec.output =
          some ((network.sourceCount counts link).getD 0) := by
    obtain ⟨count, found⟩ := decided link (List.mem_of_mem_filter enters)
    obtain ⟨index, position, noted⟩ := Option.bind_eq_some_iff.mp found
    exact ⟨index, position, by rw [found]; exact noted⟩
  have counted := sum_le_elements counts
    ((network.entering region input).map
      (fun link => (place link, (network.sourceCount counts link).getD 0)))
  rw [List.map_map, List.map_map] at counted
  refine counted ?_ ?_
  · refine List.pairwise_map.mpr ((network.entering_apart sound region input).imp_of_mem ?_)
    rintro earlier later first second different same
    obtain ⟨index, position, _⟩ := located earlier first
    obtain ⟨other, positionToo, _⟩ := located later second
    obtain ⟨places, outputs⟩ := Prod.mk.inj same
    refine different ⟨?_, outputs⟩
    rw [position, positionToo, Option.getD_some, Option.getD_some] at places
    exact network.position?_inj (network.indexed_of_sound sound) _ _ other (places ▸ position)
      positionToo
  · intro item member
    obtain ⟨link, enters, rfl⟩ := List.mem_map.mp member
    obtain ⟨index, position, noted⟩ := located link enters
    dsimp only [place]
    rw [position]
    exact noted

include sound decided in
/-- The links of an input bring no more than memory holds, if rules stay inside their
sources: what they hand on of different outputs is counted with these, and what they pick
by position with the positions. -/
theorem widths_le_need
    (rules : ∀ link ∈ network.links, ∀ rule, link.spec.reindex = some rule →
      rule.validate ((network.sourceCount counts link).getD 0) = .ok ())
    (region input : String) :
    ((network.entering region input).map
      (fun link => link.width ((network.sourceCount counts link).getD 0))).sum ≤
        network.need counts := by
  let length (link : Link) : Nat := (network.sourceCount counts link).getD 0
  let stored (link : Link) : Nat := link.spec.reindex.elim 0 Reindex.stored
  calc ((network.entering region input).map (fun link => link.width (length link))).sum
      ≤ ((network.entering region input).map (fun link => length link + stored link)).sum :=
        List.sum_le_sum fun link enters =>
          link.width_le (length link) (rules link (List.mem_of_mem_filter enters))
    _ = ((network.entering region input).map length).sum +
          ((network.entering region input).map stored).sum := List.sum_map_add
    _ ≤ elements counts + (network.links.map stored).sum :=
        Nat.add_le_add (network.sources_le_elements sound counts decided region input)
          ((List.filter_sublist.map stored).sum_le_sum fun _ _ => Nat.zero_le _)

end Network

end RegionGraph
