import Mathlib.Data.Finset.Lattice.Fold
import Mathlib.Data.Finset.Range
import Mathlib.Data.List.Sort
import Mathlib.Order.Bounds.Basic
import Mathlib.Order.Lattice.Nat
import RegionGraph.Proofs.Acyclic

/-!
# Levels are lengths of paths

The level of a vertex is the length of the longest path that ends in it: the vertices that are
done before a level are those to which only shorter paths lead, and to every other vertex leads
a path that is as long as there are levels before. So a schedule lists the vertices by level,
and within a level by number, and there is one level more than the longest path is long. A
schedule exists exactly if no path leads from a vertex back to itself.

Counting down the edges into a vertex never passes zero, and the levels end by themselves:
a countdown that refuses both, to lower a count of zero and to stop short, does the same.
-/

namespace RegionGraph

/-- A path of this many steps ends here. -/
inductive Trail {α : Type} (leads : α → α → Prop) : Nat → α → Prop where
  | start (vertex : α) : Trail leads 0 vertex
  | step {length : Nat} {source vertex : α} (before : Trail leads length source)
      (edge : leads source vertex) : Trail leads (length + 1) vertex

/-- A path is mapped to a path if its edges are mapped to edges. -/
theorem Trail.map {α β : Type} {leads : α → α → Prop} {other : β → β → Prop} (f : α → β)
    (edges : ∀ source vertex, leads source vertex → other (f source) (f vertex)) {length : Nat}
    {vertex : α} (trail : Trail leads length vertex) : Trail other length (f vertex) := by
  induction trail with
  | start vertex => exact .start (f vertex)
  | step _ edge inductionHypothesis => exact .step inductionHypothesis (edges _ _ edge)

namespace Digraph

/-- The vertices that no edge enters. -/
def entry (graph : Digraph) : List Nat :=
  (List.range graph.size).filter (fun vertex => graph.inDegrees[vertex]? = some 0)

/-- No more vertices are done or on the next level than there are. -/
theorem Counted.length_le {graph : Digraph} {degrees done level : List Nat}
    (counted : graph.Counted degrees done level) : done.length + level.length ≤ graph.size := by
  have within : done ++ level ⊆ List.range graph.size := fun vertex listed =>
    List.mem_range.mpr ((counted.mem_iff vertex).mp listed).1
  simpa using (List.subperm_of_subset counted.distinct within).length_le

/-! ### Levels and paths -/

/-- What is known before a level: its vertices ascend, only shorter paths than there are levels
before lead to vertices that are done, and a path of just that length leads to each of the
others. -/
structure Staged (graph : Digraph) (degrees done level : List Nat) (depth : Nat) : Prop extends
    Counted graph degrees done level where
  ascending : level.Pairwise (· < ·)
  shallow : ∀ vertex ∈ done, ∀ length, Trail graph.Leads length vertex → length < depth
  deep : ∀ vertex < graph.size, vertex ∉ done → Trail graph.Leads depth vertex

/-- Before the first level nothing is done. -/
theorem staged_entry (graph : Digraph) : graph.Staged graph.inDegrees [] graph.entry 0 where
  toCounted := graph.counted_entry
  ascending := List.pairwise_lt_range.filter _
  shallow := fun _ impossible => nomatch impossible
  deep := fun vertex _ _ => .start vertex

/-- The next level is found in ascending order. -/
theorem ascending_releaseLevel (graph : Digraph) (degrees level : List Nat)
    (distinct : (graph.releaseLevel degrees level).2.Nodup) :
    (graph.releaseLevel degrees level).2.Pairwise (· < ·) := by
  have ordered : (graph.releaseLevel degrees level).2.Pairwise (· ≤ ·) :=
    List.pairwise_mergeSort' (· ≤ ·) _
  exact (ordered.and distinct).imp fun ⟨atMost, differ⟩ => Nat.lt_of_le_of_ne atMost differ

/-- Only paths as long as there are levels before, or shorter ones, lead to a level. -/
theorem Staged.bounded {graph : Digraph} {degrees done level : List Nat} {depth : Nat}
    (staged : graph.Staged degrees done level depth) (vertex length : Nat)
    (listed : vertex ∈ done ++ level) (trail : Trail graph.Leads length vertex) :
    length ≤ depth := by
  cases trail with
  | start _ => exact Nat.zero_le depth
  | step before edge =>
    have finished := ((staged.mem_iff vertex).mp listed).2 _ edge
    exact staged.shallow _ finished _ before

/-- One level further: its vertices are done. -/
theorem Staged.next {graph : Digraph} {degrees done level : List Nat} {depth : Nat}
    (staged : graph.Staged degrees done level depth) (inside : graph.Inside) :
    graph.Staged (graph.releaseLevel degrees level).1 (done ++ level)
      (graph.releaseLevel degrees level).2 (depth + 1) where
  toCounted := graph.counted_releaseLevel degrees done level staged.toCounted
  ascending := graph.ascending_releaseLevel degrees level (List.nodup_append.mp
    (graph.counted_releaseLevel degrees done level staged.toCounted).distinct).2.1
  shallow := fun vertex listed length trail =>
    Nat.lt_succ_of_le (staged.bounded vertex length listed trail)
  deep := by
    intro vertex small open_
    rw [staged.mem_iff, not_and, not_forall] at open_
    obtain ⟨source, entered⟩ := open_ small
    obtain ⟨edge, open_⟩ := not_forall.mp entered
    exact .step (staged.deep source (inside source vertex edge).1 open_) edge

/-- The longest path to a vertex of a level is as long as there are levels before. -/
theorem Staged.isGreatest {graph : Digraph} {degrees done level : List Nat} {depth : Nat}
    (staged : graph.Staged degrees done level depth) (vertex : Nat) (here : vertex ∈ level) :
    IsGreatest {length | Trail graph.Leads length vertex} depth := by
  have listed : vertex ∈ done ++ level := List.mem_append_right done here
  have open_ : vertex ∉ done := fun earlier =>
    (List.nodup_append.mp staged.distinct).2.2 vertex earlier vertex here rfl
  exact ⟨staged.deep vertex ((staged.mem_iff vertex).mp listed).1 open_,
    fun length trail => staged.bounded vertex length listed trail⟩

/-- Every level that peeling lists is one that is staged, and has vertices. -/
theorem staged_of_peel (graph : Digraph) (inside : graph.Inside) (rounds : Nat)
    (degrees done level : List Nat) (depth : Nat)
    (staged : graph.Staged degrees done level depth) (place : Nat) (layer : List Nat)
    (found : (graph.peel rounds degrees level).1[place]? = some layer) :
    layer ≠ [] ∧ ∃ left finished, graph.Staged left finished layer (depth + place) := by
  induction rounds generalizing degrees done level depth place with
  | zero => simp [peel] at found
  | succ more inductionHypothesis =>
    by_cases empty : level.isEmpty
    · simp [peel, empty] at found
    · simp only [peel, empty, Bool.false_eq_true, if_false] at found
      cases place with
      | zero =>
        cases found
        exact ⟨fun none_ => empty (List.isEmpty_iff.mpr none_), degrees, done, staged⟩
      | succ place =>
        rw [List.getElem?_cons_succ] at found
        rw [← Nat.succ_add_eq_add_succ]
        exact inductionHypothesis _ _ _ _ (staged.next inside) place found

/-! ### Counting down without passing zero -/

/-- Take one edge into a vertex away, if there is one left. -/
def release? (progress : List Nat × List Nat) (vertex : Nat) : Option (List Nat × List Nat) :=
  match progress.1[vertex]? with
  | some (_ + 1) => some (release progress vertex)
  | _ => none

/-- Take all edges that leave a level away, if all of them are left. -/
def releaseLevel? (graph : Digraph) (degrees level : List Nat) : Option (List Nat × List Nat) :=
  ((level.flatMap graph.successors).foldlM release? (degrees, [])).map
    (fun progress => (progress.1, progress.2.mergeSort (· ≤ ·)))

/-- Levels, one after the other, until there is none. There is no answer if an edge is to be
taken away that is not left, or if the rounds end before the levels do. -/
def peel? (graph : Digraph) : Nat → List Nat → List Nat → Option (List (List Nat) × List Nat)
  | 0, degrees, level => if level.isEmpty then some ([], degrees) else none
  | more + 1, degrees, level =>
    if level.isEmpty then some ([], degrees)
    else do
      let (degrees, next) ← graph.releaseLevel? degrees level
      let (levels, degrees) ← graph.peel? more degrees next
      return (level :: levels, degrees)

/-- Taking edges away that are left never finds a count of zero. -/
theorem foldlM_release? (hits degrees freed : List Nat)
    (counted : ∀ vertex ∈ hits, ∃ count, degrees[vertex]? = some count)
    (enough : ∀ vertex count, degrees[vertex]? = some count → hits.count vertex ≤ count) :
    hits.foldlM release? (degrees, freed) = some (hits.foldl release (degrees, freed)) := by
  induction hits generalizing degrees freed with
  | nil => rfl
  | cons first rest inductionHypothesis =>
    obtain ⟨count, found⟩ := counted first List.mem_cons_self
    have positive : 0 < count := by
      have bound := enough first count found
      rw [List.count_cons_self] at bound
      exact Nat.lt_of_lt_of_le (Nat.succ_pos _) bound
    obtain ⟨less, rfl⟩ := Nat.exists_eq_add_one_of_ne_zero (Nat.pos_iff_ne_zero.mp positive)
    have released : release? (degrees, freed) first = some (release (degrees, freed) first) := by
      simp only [release?, found]
    rw [List.foldlM_cons, released, List.foldl_cons]
    refine inductionHypothesis (degrees.modify first (· - 1)) _ ?_
      (enough_lowered first rest degrees enough)
    intro vertex member
    obtain ⟨former, before⟩ := counted vertex (List.mem_cons_of_mem first member)
    rw [getElem?_lowered, before]
    exact ⟨_, rfl⟩

/-- All edges that leave a level are left. -/
theorem releaseLevel?_eq (graph : Digraph) (inside : graph.Inside) (degrees done level : List Nat)
    (counted : graph.Counted degrees done level) :
    graph.releaseLevel? degrees level = some (graph.releaseLevel degrees level) := by
  rw [releaseLevel?, foldlM_release?]
  · rfl
  · intro vertex hit
    obtain ⟨source, _, leaves⟩ := List.mem_flatMap.mp hit
    obtain ⟨⟨first, last⟩, edge, rfl⟩ := List.mem_map.mp leaves
    have small := (inside first last (List.mem_of_mem_filter edge)).2
    rw [counted.left, if_pos small]
    exact ⟨_, rfl⟩
  · intro vertex count found
    have hits := graph.count_successors level (List.nodup_append.mp counted.distinct).2.1 vertex
    have split := graph.edgesInto_level vertex done level counted.distinct
    rw [counted.left] at found
    split at found
    case isFalse outside => cases found
    case isTrue small =>
      rw [← Option.some.inj found, hits, split]
      exact Nat.le_add_right _ _

/-- With as many rounds as vertices are not done, or more, levels end by themselves and no count
passes zero. -/
theorem peel?_eq (graph : Digraph) (inside : graph.Inside) (rounds limit : Nat)
    (degrees done level : List Nat) (counted : graph.Counted degrees done level)
    (enough : graph.size ≤ done.length + rounds) (bound : graph.size ≤ done.length + limit) :
    graph.peel? rounds degrees level = some (graph.peel limit degrees level) := by
  induction rounds generalizing limit degrees done level with
  | zero =>
    have full := counted.length_le
    have empty : level = [] := List.length_eq_zero_iff.mp (by omega)
    subst empty
    cases limit <;> rfl
  | succ rounds inductionHypothesis =>
    by_cases empty : level.isEmpty
    · rw [List.isEmpty_iff] at empty
      subst empty
      cases limit <;> rfl
    · have full := counted.length_le
      have some_ : 0 < level.length :=
        List.length_pos_iff.mpr fun none_ => empty (List.isEmpty_iff.mpr none_)
      cases limit with
      | zero => omega
      | succ limit =>
        have rest := inductionHypothesis limit _ _ _
          (graph.counted_releaseLevel degrees done level counted)
          (by rw [List.length_append]; omega) (by rw [List.length_append]; omega)
        simp only [peel?, peel, empty, Bool.false_eq_true, if_false,
          graph.releaseLevel?_eq inside degrees done level counted, Option.bind_eq_bind,
          Option.bind_some, rest, Option.pure_def]

end Digraph

namespace Schedule

/-! ### Schedules -/

section Scheduled

variable (graph : Digraph) (inside : graph.Inside) (schedule : Schedule)
  (scheduled : ofGraph graph = .ok schedule)

include inside scheduled

/-- Every level of a schedule is one that is staged, and has vertices. -/
theorem staged_of_level (place : Nat) (layer : List Nat)
    (found : schedule.levels[place]? = some layer) :
    layer ≠ [] ∧ ∃ degrees done, graph.Staged degrees done layer place := by
  have levels : schedule.levels = (graph.peel graph.size graph.inDegrees graph.entry).1 := by
    unfold ofGraph at scheduled
    simp only at scheduled
    split at scheduled
    · cases scheduled
    · cases scheduled
      rfl
  rw [levels] at found
  simpa only [Nat.zero_add] using
    graph.staged_of_peel inside _ _ _ _ 0 graph.staged_entry place layer found

/-- The level of a vertex is the length of the longest path to it. -/
theorem phase_isGreatest (vertex : Nat) (small : vertex < graph.size) :
    IsGreatest {length | Trail graph.Leads length vertex} (schedule.phase vertex) := by
  have listed : vertex ∈ schedule.order :=
    (ofGraph_ok graph schedule scheduled).1.mem_iff.mpr (List.mem_range.mpr small)
  obtain ⟨layer, member, here⟩ := List.mem_flatten.mp listed
  have within : schedule.phase vertex < schedule.levels.length :=
    List.findIdx_lt_length_of_exists ⟨layer, member, by simpa using here⟩
  obtain ⟨_, _, _, staged⟩ := staged_of_level graph inside schedule scheduled _ _
    (List.getElem?_eq_getElem within)
  refine staged.isGreatest vertex ?_
  exact of_decide_eq_true (List.findIdx_getElem (w := within))

/-- A vertex has the level on which it is. -/
theorem phase_of_level (place : Nat) (layer : List Nat)
    (found : schedule.levels[place]? = some layer) (vertex : Nat) (here : vertex ∈ layer) :
    schedule.phase vertex = place := by
  have listed : vertex ∈ schedule.order :=
    List.mem_flatten.mpr ⟨layer, List.mem_of_getElem? found, here⟩
  have small := List.mem_range.mp ((ofGraph_ok graph schedule scheduled).1.mem_iff.mp listed)
  obtain ⟨_, _, _, staged⟩ := staged_of_level graph inside schedule scheduled place layer found
  exact (phase_isGreatest graph inside schedule scheduled vertex small).unique
    (staged.isGreatest vertex here)

/-- An edge leads to a higher level. -/
theorem phase_lt_of_leads (source vertex : Nat) (edge : graph.Leads source vertex) :
    schedule.phase source < schedule.phase vertex := by
  obtain ⟨first, last⟩ := inside source vertex edge
  have before := (phase_isGreatest graph inside schedule scheduled source first).1
  exact (phase_isGreatest graph inside schedule scheduled vertex last).2 (Trail.step before edge)

/-- A path leads to a higher level. -/
theorem phase_lt_of_path (source vertex : Nat)
    (path : Relation.TransGen graph.Leads source vertex) :
    schedule.phase source < schedule.phase vertex := by
  have step := phase_lt_of_leads graph inside schedule scheduled
  induction path with
  | single edge => exact step _ _ edge
  | tail _ edge inductionHypothesis => exact Nat.lt_trans inductionHypothesis (step _ _ edge)

/-- Vertices are listed by level, and on a level by number. -/
theorem order_pairwise : schedule.order.Pairwise (fun first second =>
    schedule.phase first < schedule.phase second ∨
      schedule.phase first = schedule.phase second ∧ first < second) := by
  have level := phase_of_level graph inside schedule scheduled
  rw [order, List.pairwise_flatten]
  constructor
  · intro layer member
    obtain ⟨place, found⟩ := List.mem_iff_getElem?.mp member
    obtain ⟨_, _, _, staged⟩ := staged_of_level graph inside schedule scheduled place layer found
    refine staged.ascending.imp_of_mem fun here there before => Or.inr ⟨?_, before⟩
    rw [level place layer found _ here, level place layer found _ there]
  · rw [List.pairwise_iff_getElem]
    intro first second firstSmall secondSmall before vertex here other there
    left
    rw [level first _ (List.getElem?_eq_getElem firstSmall) vertex here,
      level second _ (List.getElem?_eq_getElem secondSmall) other there]
    exact before

/-- There is one level more than the highest level of a vertex, and none without vertices. -/
theorem phaseCount_eq : schedule.phaseCount =
    (Finset.range graph.size).sup (fun vertex => schedule.phase vertex + 1) := by
  have order := (ofGraph_ok graph schedule scheduled).1
  apply Nat.le_antisymm
  · cases count : schedule.phaseCount with
    | zero => exact Nat.zero_le _
    | succ last =>
      have within : last < schedule.levels.length := by
        rw [phaseCount] at count
        omega
      have found : schedule.levels[last]? = some schedule.levels[last] :=
        List.getElem?_eq_getElem within
      obtain ⟨some_, _⟩ := staged_of_level graph inside schedule scheduled last _ found
      obtain ⟨vertex, here⟩ := List.exists_mem_of_ne_nil _ some_
      have small : vertex ∈ Finset.range graph.size := Finset.mem_range.mpr (List.mem_range.mp
        (order.mem_iff.mp (List.mem_flatten.mpr ⟨_, List.getElem_mem within, here⟩)))
      have level := phase_of_level graph inside schedule scheduled last _ found vertex here
      rw [← level]
      exact Finset.le_sup (f := fun vertex => schedule.phase vertex + 1) small
  · refine Finset.sup_le fun vertex small => ?_
    have listed : vertex ∈ schedule.order :=
      order.mem_iff.mpr (List.mem_range.mpr (Finset.mem_range.mp small))
    obtain ⟨layer, member, here⟩ := List.mem_flatten.mp listed
    exact List.findIdx_lt_length_of_exists ⟨layer, member, by simpa using here⟩

end Scheduled

/-- A graph has a schedule exactly if it has no cycle. -/
theorem ofGraph_ok_iff (graph : Digraph) (inside : graph.Inside) :
    (∃ schedule, ofGraph graph = .ok schedule) ↔ graph.Acyclic := by
  constructor
  · rintro ⟨schedule, scheduled⟩ vertex path
    exact Nat.lt_irrefl _ (phase_lt_of_path graph inside schedule scheduled vertex vertex path)
  · intro acyclic
    have complete := graph.peel_complete graph.size _ _ _ graph.counted_entry
    unfold ofGraph
    simp only
    split
    case isFalse whole => exact ⟨_, rfl⟩
    case isTrue short =>
      have counted := complete.resolve_right (Nat.not_le.mpr short)
      have covered : List.range graph.size ⊆ _ := fun vertex listed =>
        counted.done_of_acyclic inside acyclic vertex (List.mem_range.mp listed)
      have enough := (List.subperm_of_subset List.nodup_range covered).length_le
      rw [List.length_range] at enough
      exact absurd short (Nat.not_lt.mpr enough)

end Schedule

end RegionGraph
