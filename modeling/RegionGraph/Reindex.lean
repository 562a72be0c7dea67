import RegionGraph.DataError

/-!
# Reindexing

A reindexing rule says which elements of a source a link hands on, and in what
order. Positions are 64-bit words, as they are stored. A rule is in range of a
source when every position it names exists there; only then is its selection
taken.
-/

namespace RegionGraph

/-- Which elements of a source to take. -/
inductive Reindex where
  /-- A contiguous run. -/
  | range (offset count : UInt64)
  /-- Chosen positions, in any order and with repetitions. -/
  | indices (positions : List UInt64)
deriving DecidableEq

namespace Reindex

/-- The number of elements that a rule selects. -/
def width : Reindex → Nat
  | range _ count => count.toNat
  | indices positions => positions.length

/-- The number of elements handed on from a source: all of them without a rule. -/
def widthFor (rule : Option Reindex) (length : Nat) : Nat :=
  rule.elim length width

/-- The number of positions that a rule keeps in memory. -/
def stored : Reindex → Nat
  | range _ _ => 0
  | indices positions => positions.length

/-- Check that a rule stays inside a source of the given length. The fault names
    the end of a run, or the first position that is too large. -/
def validate (rule : Reindex) (length : Nat) : Except DataError Unit :=
  match rule with
  | range offset count =>
    if 2 ^ 64 ≤ offset.toNat + count.toNat then .error .rangeOverflow
    else if length < offset.toNat + count.toNat then
      .error (.outOfBounds (offset.toNat + count.toNat) length)
    else .ok ()
  | indices positions =>
    match positions.find? (fun position => length ≤ position.toNat) with
    | some position => .error (.outOfBounds position.toNat length)
    | none => .ok ()

variable {α : Type}

/-- The selected elements of a source, in the order of the rule. -/
def select (rule : Reindex) (source : List α) : List α :=
  match rule with
  | range offset count => (source.drop offset.toNat).take count.toNat
  | indices positions => positions.filterMap (fun position => source[position.toNat]?)

/-- The elements handed on from a source. -/
def selectFor (rule : Option Reindex) (source : List α) : List α :=
  rule.elim source (fun rule => rule.select source)

/-- A rule in range selects as many elements as its width says. -/
theorem length_select {rule : Reindex} {source : List α}
    (inRange : rule.validate source.length = .ok ()) :
    (rule.select source).length = rule.width := by
  cases rule with
  | range offset count =>
    simp only [validate] at inRange
    split at inRange
    · cases inRange
    · split at inRange
      · cases inRange
      · simp only [select, width, List.length_take, List.length_drop]
        omega
  | indices positions =>
    simp only [validate] at inRange
    split at inRange
    · cases inRange
    · rename_i none
      simp only [List.find?_eq_none, decide_eq_true_eq] at none
      simp only [select, width]
      induction positions with
      | nil => rfl
      | cons first rest ih =>
        have inside : first.toNat < source.length := by
          have := none first List.mem_cons_self
          omega
        have here : source[first.toNat]? = some source[first.toNat] :=
          List.getElem?_eq_getElem inside
        simp only [List.filterMap_cons, here, List.length_cons]
        rw [ih (fun position member => none position (List.mem_cons_of_mem first member))]

end Reindex

end RegionGraph
