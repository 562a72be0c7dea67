import RegionGraph.Scalar
import RegionGraph.Proofs.Checks

/-!
# Copies gather

A copy takes the elements that a rule names, in its order, and writes them to consecutive
places of a destination. It is accepted exactly if both buffers are of one type, every position
of the rule is one of the source and every place is one of the destination, and these are checked
one after the other before anything is written. So a copy in place, which reads and writes one
element at a time, never misses an element or a place, and one that is refused has written
nothing.
-/

namespace RegionGraph

namespace Reindex

/-- The position in the source of what is selected for a place. -/
def position? (rule : Option Reindex) (place : Nat) : Option Nat :=
  match rule with
  | none => some place
  | some (range offset _) => some (offset.toNat + place)
  | some (indices positions) => positions[place]?.map UInt64.toNat

/-- The fault of a rule that does not stay inside a source of the given length: its end is no
word, or lies behind the source, or one of its positions is the first that does. -/
inductive Refuses (length : Nat) : Reindex → DataError → Prop where
  | overflowing (offset count : UInt64) (overflow : 2 ^ 64 ≤ offset.toNat + count.toNat) :
      Refuses length (range offset count) .rangeOverflow
  | beyond (offset count : UInt64) (word : offset.toNat + count.toNat < 2 ^ 64)
      (long : length < offset.toNat + count.toNat) :
      Refuses length (range offset count) (.outOfBounds (offset.toNat + count.toNat) length)
  | missing (earlier later : List UInt64) (position : UInt64)
      (present : ∀ other ∈ earlier, other.toNat < length) (absent : length ≤ position.toNat) :
      Refuses length (indices (earlier ++ position :: later)) (.outOfBounds position.toNat length)

/-- The check of a rule fails with the fault of the rule. -/
theorem validate_error_iff (rule : Reindex) (length : Nat) (fault : DataError) :
    rule.validate length = .error fault ↔ rule.Refuses length fault := by
  constructor
  · intro refused
    cases rule with
    | range offset count =>
      rw [validate] at refused
      split at refused
      case isTrue overflow =>
        cases refused
        exact .overflowing offset count overflow
      case isFalse word =>
        split at refused
        case isTrue long =>
          cases refused
          exact .beyond offset count (Nat.lt_of_not_le word) long
        case isFalse => cases refused
    | indices positions =>
      rw [validate] at refused
      cases found : positions.find? (fun position => length ≤ position.toNat) with
      | none =>
        rw [found] at refused
        cases refused
      | some position =>
        rw [found] at refused
        cases refused
        obtain ⟨large, earlier, later, rfl, before⟩ := List.find?_eq_some_iff_append.mp found
        refine .missing earlier later position (fun other member => ?_) (of_decide_eq_true large)
        simpa using before other member
  · intro refuses
    cases refuses with
    | overflowing offset count overflow => rw [validate, if_pos overflow]
    | beyond offset count word long => rw [validate, if_neg (Nat.not_le.mpr word), if_pos long]
    | missing earlier later position present absent =>
      have found : (earlier ++ position :: later).find? (fun position => length ≤ position.toNat) =
          some position := by
        refine List.find?_eq_some_iff_append.mpr
          ⟨decide_eq_true absent, earlier, later, rfl, fun other member => ?_⟩
        simpa using present other member
      rw [validate, found]

/-- A rule that stays inside has no fault. -/
theorem not_refuses_of_inside (rule : Reindex) (length : Nat) (inside : rule.Inside length)
    (fault : DataError) : ¬rule.Refuses length fault := by
  rw [← validate_error_iff, (rule.validate_ok_iff length).mpr inside]
  exact nofun

/-- The check of a rule that stays inside passes, and so does that of no rule. -/
theorem elim_validate_of_inside (rule : Option Reindex) (length : Nat)
    (inside : ∀ named, rule = some named → named.Inside length) :
    rule.elim (.ok ()) (fun rule => rule.validate length) = .ok () := by
  cases rule with
  | none => rfl
  | some named => exact (named.validate_ok_iff length).mpr (inside named rfl)

/-- Where every position is one of the source, the selection has an element for each of them. -/
theorem getElem?_select_indices {α : Type} (source : List α) (positions : List UInt64)
    (present : ∀ position ∈ positions, position.toNat < source.length) (place : Nat) :
    ((indices positions).select source)[place]? =
      positions[place]?.bind (fun position => source[position.toNat]?) := by
  induction positions generalizing place with
  | nil => rfl
  | cons first rest inductionHypothesis =>
    have here := List.getElem?_eq_getElem (present first List.mem_cons_self)
    have others := inductionHypothesis fun position member =>
      present position (List.mem_cons_of_mem first member)
    simp only [select, List.filterMap_cons, here] at others ⊢
    cases place with
    | zero => exact here.symm
    | succ place => exact others place

section Selecting

variable {α : Type} (rule : Option Reindex) (source : List α)
  (inside : ∀ named, rule = some named → named.Inside source.length)

include inside

/-- As many elements are selected as the width says. -/
theorem length_selectFor : (selectFor rule source).length = widthFor rule source.length := by
  cases rule with
  | none => rfl
  | some named => exact length_select ((named.validate_ok_iff _).mpr (inside named rfl))

/-- Every place has a position in the source, and the element there is selected for it. -/
theorem getElem?_selectFor (place : Nat) (within : place < widthFor rule source.length) :
    ∃ position < source.length, position? rule place = some position ∧
      (selectFor rule source)[place]? = source[position]? := by
  match rule with
  | none => exact ⟨place, within, rfl, rfl⟩
  | some (range offset count) =>
    obtain ⟨_, fits⟩ := inside _ rfl
    have small : place < count.toNat := within
    refine ⟨offset.toNat + place, by omega, rfl, ?_⟩
    simp only [selectFor, Option.elim_some, select]
    rw [List.getElem?_take_of_lt small, List.getElem?_drop]
  | some (indices positions) =>
    have small : place < positions.length := within
    have here := List.getElem?_eq_getElem small
    have present := inside _ rfl
    refine ⟨positions[place].toNat, present _ (List.getElem_mem small), ?_, ?_⟩
    · rw [position?, here, Option.map_some]
    · rw [selectFor, Option.elim_some, getElem?_select_indices source positions present, here,
        Option.bind_some]

end Selecting

end Reindex

namespace Buffer

/-! ### What a copy comes to -/

/-- An element with its type. -/
def scalar? (buffer : Buffer) (index : Nat) : Option Scalar :=
  buffer.elements[index]?.map (Scalar.mk buffer.type)

/-- Buffers of one type and allocation that hold the same elements are the same. -/
theorem ext_scalar? (first second : Buffer) (type : first.type = second.type)
    (allocated : first.allocated = second.allocated)
    (elements : ∀ index, first.scalar? index = second.scalar? index) : first = second := by
  obtain ⟨_, former, mark⟩ := first
  obtain ⟨_, latter, _⟩ := second
  cases type
  cases allocated
  have same : former = latter := by
    apply List.ext_getElem?
    intro index
    refine Option.map_injective ?_ (elements index)
    exact fun _ _ equal => eq_of_heq (Scalar.mk.inj equal).2
  rw [same]

section Copying

variable (source destination : Buffer) (offset : Nat) (rule : Option Reindex)

/-- A copy may be made: the types are the same, the rule stays inside the source, and what it
selects has room in the destination. -/
structure Fits : Prop where
  types : source.type = destination.type
  inside : ∀ named, rule = some named → named.Inside source.length
  room : offset + Reindex.widthFor rule source.length ≤ destination.length

/-- Why a copy may not be made. The types are compared first, then the rule is judged, and
the room last. -/
inductive Unfit : DataError → Prop where
  | types (differ : source.type ≠ destination.type) :
      Unfit (.typeMismatch destination.type source.type)
  | rule (types : source.type = destination.type) (named : Reindex) (given : rule = some named)
      (fault : DataError) (refuses : named.Refuses source.length fault) : Unfit fault
  | room (types : source.type = destination.type)
      (inside : ∀ named, rule = some named → named.Inside source.length)
      (crowded : destination.length < offset + Reindex.widthFor rule source.length) :
      Unfit (.outOfBounds (offset + Reindex.widthFor rule source.length) destination.length)

/-- What a copy makes of a destination: at consecutive places from the offset on it has the
elements that the rule selects, and all else about it is as before. -/
structure Gathers (result : Buffer) : Prop where
  type : result.type = destination.type
  length : result.length = destination.length
  allocated : result.allocated = destination.allocated
  written : ∀ place < Reindex.widthFor rule source.length, ∃ position < source.length,
    Reindex.position? rule place = some position ∧
      result.scalar? (offset + place) = source.scalar? position
  kept : ∀ index, index < offset ∨ offset + Reindex.widthFor rule source.length ≤ index →
    result.scalar? index = destination.scalar? index

variable {source destination offset rule}

/-- A copy that may be made has nothing against it. -/
theorem Fits.not_unfit (fits : Fits source destination offset rule) (fault : DataError) :
    ¬Unfit source destination offset rule fault := by
  intro unfit
  cases unfit with
  | types differ => exact differ fits.types
  | rule _ named given _ refuses =>
    exact named.not_refuses_of_inside _ (fits.inside named given) fault refuses
  | room _ _ crowded => exact Nat.not_lt.mpr fits.room crowded

/-- A copy makes one thing only of a destination. -/
theorem Gathers.unique {first second : Buffer}
    (gathersFirst : Gathers source destination offset rule first)
    (gathersSecond : Gathers source destination offset rule second) : first = second := by
  refine ext_scalar? first second (gathersFirst.type.trans gathersSecond.type.symm)
    (gathersFirst.allocated.trans gathersSecond.allocated.symm) (fun index => ?_)
  by_cases outside : index < offset ∨ offset + Reindex.widthFor rule source.length ≤ index
  · rw [gathersFirst.kept index outside, gathersSecond.kept index outside]
  · obtain ⟨place, rfl⟩ := Nat.exists_eq_add_of_le (show offset ≤ index by omega)
    have within : place < Reindex.widthFor rule source.length := by omega
    obtain ⟨position, _, selected, written⟩ := gathersFirst.written place within
    obtain ⟨other, _, also, writtenToo⟩ := gathersSecond.written place within
    cases selected.symm.trans also
    rw [written, writtenToo]

/-- Writing a run gives its places the elements of the run, and leaves all others alone. -/
theorem getElem?_overwrite {α : Type} (elements run : List α) (offset index : Nat)
    (room : offset + run.length ≤ elements.length) :
    (overwrite elements offset run)[index]? =
      if offset ≤ index ∧ index < offset + run.length then run[index - offset]?
      else elements[index]? := by
  have start : (elements.take offset).length = offset := by
    rw [List.length_take]
    omega
  rw [overwrite, List.append_assoc, List.getElem?_append, start]
  by_cases before : index < offset
  · rw [if_pos before, if_neg (by omega), List.getElem?_take_of_lt before]
  · rw [if_neg before, List.getElem?_append]
    by_cases within : index - offset < run.length
    · rw [if_pos within, if_pos (by omega)]
    · rw [if_neg within, if_neg (by omega), List.getElem?_drop]
      congr 1
      omega

/-- A copy that fits writes what the rule selects over the destination. -/
theorem copyInto_of_fits (type : ElementType) (elements former : List type.Carrier)
    (mark allocated : Bool)
    (fits : Fits ⟨type, elements, mark⟩ ⟨type, former, allocated⟩ offset rule) :
    copyInto ⟨type, elements, mark⟩ ⟨type, former, allocated⟩ offset rule =
      .ok (Reindex.widthFor rule elements.length,
        ⟨type, overwrite former offset (Reindex.selectFor rule elements), allocated⟩) := by
  have room : ¬ former.length < offset + Reindex.widthFor rule elements.length :=
    Nat.not_lt.mpr fits.room
  have valid : ∀ named, rule = some named → named.validate elements.length = .ok () :=
    fun named given => (named.validate_ok_iff _).mpr (fits.inside named given)
  unfold copyInto
  rw [dif_pos rfl]
  cases rule with
  | none => exact if_neg room
  | some named =>
    simp only [length, valid named rfl, Traversal.ok_bind]
    exact if_neg room

/-- A copy that fits succeeds, and gathers. -/
theorem copyInto_of_fitting (fits : Fits source destination offset rule) :
    ∃ result, source.copyInto destination offset rule =
        .ok (Reindex.widthFor rule source.length, result) ∧
      Gathers source destination offset rule result := by
  obtain ⟨type, elements, mark⟩ := source
  obtain ⟨_, former, allocated⟩ := destination
  cases fits.types
  have width := Reindex.length_selectFor rule elements fits.inside
  have room : offset + (Reindex.selectFor rule elements).length ≤ former.length := by
    rw [width]
    exact fits.room
  refine ⟨_, copyInto_of_fits type elements former mark allocated fits, ?_⟩
  constructor
  case type => rfl
  case length => exact length_overwrite former _ offset room
  case allocated => rfl
  case written =>
    intro place within
    obtain ⟨position, present, selected, same⟩ :=
      Reindex.getElem?_selectFor rule elements fits.inside place within
    have within : place < (Reindex.selectFor rule elements).length := width ▸ within
    refine ⟨position, present, selected, ?_⟩
    rw [scalar?, scalar?, getElem?_overwrite former _ offset _ room, if_pos (by omega),
      Nat.add_sub_cancel_left, same]
  case kept =>
    intro index outside
    have outside : ¬ (offset ≤ index ∧ index < offset + (Reindex.selectFor rule elements).length) := by
      rw [width]
      simp only [length] at outside
      omega
    rw [scalar?, scalar?, getElem?_overwrite former _ offset _ room, if_neg outside]

/-- A copy that does not fit fails, with the first fault that is against it. -/
theorem copyInto_of_unfit (fault : DataError)
    (unfit : Unfit source destination offset rule fault) :
    source.copyInto destination offset rule = .error fault := by
  unfold copyInto
  cases unfit with
  | types differ => rw [dif_neg differ]
  | rule types named given _ refuses =>
    have invalid := (named.validate_error_iff _ _).mpr refuses
    rw [dif_pos types, given]
    simp only [invalid, Traversal.error_bind]
  | room types inside crowded =>
    rw [dif_pos types]
    cases rule with
    | none => exact if_pos crowded
    | some named =>
      simp only [(named.validate_ok_iff _).mpr (inside named rfl), Traversal.ok_bind]
      exact if_pos crowded

variable (source destination offset rule) in
/-- A copy fits, or there is a fault against it. -/
theorem fits_or_unfit : Fits source destination offset rule ∨
    ∃ fault, Unfit source destination offset rule fault := by
  by_cases types : source.type = destination.type
  case neg => exact Or.inr ⟨_, .types types⟩
  by_cases inside : ∀ named, rule = some named → named.Inside source.length
  case neg =>
    simp only [not_forall] at inside
    obtain ⟨named, given, outside⟩ := inside
    cases checked : named.validate source.length with
    | ok _ => exact absurd ((named.validate_ok_iff _).mp checked) outside
    | error fault =>
      exact Or.inr ⟨fault, .rule types named given fault ((named.validate_error_iff _ _).mp checked)⟩
  by_cases room : offset + Reindex.widthFor rule source.length ≤ destination.length
  case pos => exact Or.inl ⟨types, inside, room⟩
  case neg => exact Or.inr ⟨_, .room types inside (Nat.lt_of_not_le room)⟩

end Copying

/-! ### Copying in place -/

/-- Work on a buffer in place: what was written stays written, however the work ends. It may
end with a fault, and it breaks off without one where an element or a place is missing. -/
abbrev InPlace (α : Type) := ExceptT (Option DataError) (StateM Buffer) α

/-- Write an element to a place, which has to exist and to be of its type. -/
def put (index : Nat) (scalar : Scalar) : InPlace Unit := do
  let buffer ← get
  if same : scalar.type = buffer.type then
    if index < buffer.length then
      set { buffer with elements := buffer.elements.set index (same ▸ scalar.value) }
    else throw none
  else throw none

/-- Copy the element that a rule selects for a place. -/
def copyElement (source : Buffer) (offset : Nat) (rule : Option Reindex) (place : Nat) :
    InPlace Unit :=
  match (Reindex.position? rule place).bind source.scalar? with
  | some element => put (offset + place) element
  | none => throw none

/-- A copy in place, element by element. -/
def copyOver (source : Buffer) (offset : Nat) (rule : Option Reindex) : InPlace Nat := do
  let destination ← get
  if source.type = destination.type then
    match rule.elim (.ok ()) (fun rule => rule.validate source.length) with
    | .error fault => throw (some fault)
    | .ok _ =>
      let width := Reindex.widthFor rule source.length
      if destination.length < offset + width then
        throw (some (.outOfBounds (offset + width) destination.length))
      else
        (List.range width).forM (source.copyElement offset rule)
        return width
  else throw (some (.typeMismatch destination.type source.type))

/-- One element more of a run is written. -/
theorem overwrite_take_succ {α : Type} (elements run : List α) (offset place : Nat)
    (room : offset + run.length ≤ elements.length) (element : α)
    (here : run[place]? = some element) :
    (overwrite elements offset (run.take place)).set (offset + place) element =
      overwrite elements offset (run.take (place + 1)) := by
  obtain ⟨within, _⟩ := List.getElem?_eq_some_iff.mp here
  have few : (run.take place).length = place := List.length_take_of_le (Nat.le_of_lt within)
  have more : (run.take (place + 1)).length = place + 1 := List.length_take_of_le within
  apply List.ext_getElem?
  intro index
  rw [List.getElem?_set, length_overwrite _ _ _ (by omega), getElem?_overwrite _ _ _ _ (by omega),
    getElem?_overwrite _ _ _ _ (by omega), few, more]
  by_cases written : offset + place = index
  · rw [if_pos written, if_pos (by omega), if_pos (by omega), List.getElem?_take_of_lt (by omega),
      ← here]
    congr 1
    omega
  · rw [if_neg written]
    by_cases before : offset ≤ index ∧ index < offset + place
    · rw [if_pos before, if_pos (by omega), List.getElem?_take_of_lt (by omega),
        List.getElem?_take_of_lt (by omega)]
    · rw [if_neg before, if_neg (by omega)]

/-- Copying element by element writes the selection, and misses nothing on the way. -/
theorem run_elements (type : ElementType) (elements former : List type.Carrier)
    (mark allocated : Bool) (offset : Nat) (rule : Option Reindex)
    (fits : Fits ⟨type, elements, mark⟩ ⟨type, former, allocated⟩ offset rule) (count : Nat)
    (few : count ≤ Reindex.widthFor rule elements.length) :
    ((List.range count).forM (copyElement ⟨type, elements, mark⟩ offset rule)).run
        ⟨type, former, allocated⟩ =
      (.ok (), ⟨type, overwrite former offset ((Reindex.selectFor rule elements).take count),
        allocated⟩) := by
  have width := Reindex.length_selectFor rule elements fits.inside
  have room : offset + (Reindex.selectFor rule elements).length ≤ former.length := by
    rw [width]
    exact fits.room
  induction count with
  | zero =>
    rw [List.take_zero, overwrite, List.append_nil, List.length_nil, Nat.add_zero,
      List.take_append_drop]
    rfl
  | succ place inductionHypothesis =>
    obtain ⟨position, present, selected, same⟩ :=
      Reindex.getElem?_selectFor rule elements fits.inside place few
    have there := List.getElem?_eq_getElem present
    have found : (Reindex.position? rule place).bind (scalar? ⟨type, elements, mark⟩) =
        some ⟨type, elements[position]⟩ := by
      rw [selected, Option.bind_some, scalar?, there, Option.map_some]
    have inside : offset + place < length ⟨type,
        overwrite former offset ((Reindex.selectFor rule elements).take place), allocated⟩ := by
      rw [length, length_overwrite _ _ _ (by rw [List.length_take]; omega)]
      omega
    have written : (copyElement ⟨type, elements, mark⟩ offset rule place).run ⟨type,
        overwrite former offset ((Reindex.selectFor rule elements).take place), allocated⟩ =
        (.ok (), ⟨type, overwrite former offset ((Reindex.selectFor rule elements).take (place + 1)),
          allocated⟩) := by
      simp only [copyElement, found, put, Edit.run_bind, Edit.run_get, dite_true]
      rw [if_pos inside, ← overwrite_take_succ former _ offset place room _ (same.trans there)]
      rfl
    rw [List.forM_eq_forM] at inductionHypothesis ⊢
    rw [List.range_succ, List.forM_append, Edit.run_bind,
      inductionHypothesis (Nat.le_of_succ_le few)]
    simp only [List.forM_cons, List.forM_nil, Edit.run_bind, written, Edit.run_pure]

/-- Copying in place does what copying does: it gives the same count or the same fault, leaves
what copying makes of the destination, or the destination itself if it is refused, and never
breaks off. -/
theorem run_copyOver (source destination : Buffer) (offset : Nat) (rule : Option Reindex) :
    (source.copyOver offset rule).run destination =
      match source.copyInto destination offset rule with
      | .ok (count, result) => (.ok count, result)
      | .error fault => (.error (some fault), destination) := by
  unfold copyOver
  rw [Edit.run_bind, Edit.run_get]
  rcases fits_or_unfit source destination offset rule with fits | ⟨fault, unfit⟩
  case inr =>
    rw [copyInto_of_unfit fault unfit]
    cases unfit with
    | types differ =>
      simp only [if_neg differ]
      rfl
    | rule types named given _ refuses =>
      simp only [if_pos types, given, Option.elim_some,
        (named.validate_error_iff _ _).mpr refuses]
      rfl
    | room types inside crowded =>
      simp only [if_pos types, Reindex.elim_validate_of_inside rule _ inside, if_pos crowded]
      rfl
  case inl =>
    simp only [if_pos fits.types, Reindex.elim_validate_of_inside rule _ fits.inside,
      if_neg (Nat.not_lt.mpr fits.room), Edit.run_bind]
    obtain ⟨type, elements, mark⟩ := source
    obtain ⟨_, former, allocated⟩ := destination
    cases fits.types
    have width := Reindex.length_selectFor rule elements fits.inside
    have copied := run_elements type elements former mark allocated offset rule fits _ (Nat.le_refl _)
    rw [← width, List.take_length, width] at copied
    rw [copyInto_of_fits type elements former mark allocated fits, length, copied]
    rfl

/-- Copying is a bounded, exact and atomic gather. It succeeds exactly if the types are the same,
the rule stays inside the source and the selection has room in the destination; then it counts
what was selected, and gathers. Otherwise it fails with the first of these that is missing. In
place it comes to the same: a copy that fails leaves the destination as it was, and no element and
no place is ever missed on the way.

The loop over the places is an induction over the positions that the rule selects: those before
the present one are written, all others are as they were. -/
theorem copyInto_exact (source destination : Buffer) (offset : Nat) (rule : Option Reindex) :
    ((∃ copied, source.copyInto destination offset rule = .ok copied) ↔
      Fits source destination offset rule) ∧
    (∀ count result, source.copyInto destination offset rule = .ok (count, result) ↔
      Fits source destination offset rule ∧ count = Reindex.widthFor rule source.length ∧
        Gathers source destination offset rule result) ∧
    (∀ fault, source.copyInto destination offset rule = .error fault ↔
      Unfit source destination offset rule fault) ∧
    (source.copyOver offset rule).run destination =
      match source.copyInto destination offset rule with
      | .ok (count, result) => (.ok count, result)
      | .error fault => (.error (some fault), destination) := by
  refine ⟨?_, ?_, ?_, run_copyOver source destination offset rule⟩
  case _ =>
    rcases fits_or_unfit source destination offset rule with fits | ⟨fault, unfit⟩
    · obtain ⟨result, copied, _⟩ := copyInto_of_fitting fits
      exact iff_of_true ⟨_, copied⟩ fits
    · rw [copyInto_of_unfit fault unfit]
      exact iff_of_false nofun (fun fits => fits.not_unfit fault unfit)
  case _ =>
    intro count result
    rcases fits_or_unfit source destination offset rule with fits | ⟨fault, unfit⟩
    · obtain ⟨made, copied, gathers⟩ := copyInto_of_fitting fits
      rw [copied, Except.ok.injEq, Prod.mk.injEq]
      constructor
      · rintro ⟨rfl, rfl⟩
        exact ⟨fits, rfl, gathers⟩
      · rintro ⟨_, rfl, also⟩
        exact ⟨rfl, gathers.unique also⟩
    · rw [copyInto_of_unfit fault unfit]
      exact iff_of_false nofun (fun claimed => claimed.1.not_unfit fault unfit)
  case _ =>
    intro fault
    rcases fits_or_unfit source destination offset rule with fits | ⟨other, unfit⟩
    · obtain ⟨_, copied, _⟩ := copyInto_of_fitting fits
      rw [copied]
      exact iff_of_false nofun (fits.not_unfit fault)
    · constructor
      · intro failed
        rw [copyInto_of_unfit other unfit] at failed
        exact Except.error.inj failed ▸ unfit
      · exact copyInto_of_unfit fault

end Buffer

end RegionGraph
