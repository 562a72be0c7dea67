import Mathlib.Data.List.Nodup
import Mathlib.Data.List.Perm.Subperm
import RegionGraph.Schedule

/-!
# Schedules respect edges

A schedule that exists lists every vertex once, and every edge leads from an
earlier to a later vertex. Levels are found by counting down how many edges into
each vertex are left; the invariant is that this count is exactly the number of
edges from vertices that are on no level yet, and that the vertices listed so far
are those whose count is zero.
-/

namespace RegionGraph

namespace Digraph

/-- How many edges lead from vertices of a kind into a vertex. -/
def edgesInto (graph : Digraph) (vertex : Nat) (from_ : Nat → Bool) : Nat :=
  graph.edges.countP (fun edge => from_ edge.1 && edge.2 == vertex)

/-- Edges from two kinds of vertices that exclude each other add up. -/
theorem edgesInto_add (graph : Digraph) (vertex : Nat) (first second both : Nat → Bool)
    (either : ∀ source, both source = (first source || second source))
    (exclude : ∀ source, first source = true → second source = false) :
    graph.edgesInto vertex both = graph.edgesInto vertex first + graph.edgesInto vertex second := by
  unfold edgesInto
  induction graph.edges with
  | nil => rfl
  | cons edge rest inductionHypothesis =>
    rw [List.countP_cons, List.countP_cons, List.countP_cons, inductionHypothesis, either edge.1]
    cases chosen : first edge.1 with
    | true =>
      have other := exclude edge.1 chosen
      simp only [other, Bool.or_false, Bool.true_and, Bool.false_and, Bool.false_eq_true, if_false]
      omega
    | false =>
      simp only [Bool.false_or, Bool.false_and, Bool.false_eq_true, if_false]
      omega

/-- The edges that leave a level, counted at the vertex that they enter. -/
theorem count_successors (graph : Digraph) (level : List Nat) (distinct : level.Nodup)
    (vertex : Nat) : (level.flatMap graph.successors).count vertex =
      graph.edgesInto vertex (fun source => level.contains source) := by
  induction level with
  | nil => simp [edgesInto]
  | cons first rest inductionHypothesis =>
    rw [List.nodup_cons] at distinct
    have single : (graph.successors first).count vertex =
        graph.edgesInto vertex (fun source => source == first) := by
      rw [successors, List.count, List.countP_map, List.countP_filter, edgesInto]
      apply List.countP_congr
      intro edge _
      simp [and_comm]
    rw [List.flatMap_cons, List.count_append, inductionHypothesis distinct.2, single]
    refine (graph.edgesInto_add vertex _ _ _ ?_ ?_).symm
    · intro source
      rw [List.contains_cons]
    · intro source same
      rw [beq_iff_eq.mp same]
      simpa using distinct.1

/-! ### Taking edges away -/

/-- Taking an edge away lowers the count of its vertex. -/
theorem getElem?_lowered (degrees : List Nat) (first vertex : Nat) :
    (degrees.modify first (· - 1))[vertex]? =
      degrees[vertex]?.map (fun count => if vertex = first then count - 1 else count) := by
  rw [List.getElem?_modify]
  cases degrees[vertex]? with
  | none => rfl
  | some count =>
    by_cases same : first = vertex
    · simp [same]
    · simp [same, Ne.symm same]

/-- The edges into a vertex, with one more edge in front. -/
theorem count_cons_hit (first vertex : Nat) (rest : List Nat) :
    (first :: rest).count vertex = rest.count vertex + if vertex = first then 1 else 0 := by
  rw [List.count_cons]
  by_cases same : vertex = first
  · simp [same]
  · simp [same, Ne.symm same]

/-- If no vertex has fewer edges than are to be taken away, the same holds of the others
after one was taken away. -/
theorem enough_lowered (first : Nat) (rest degrees : List Nat)
    (enough : ∀ vertex count, degrees[vertex]? = some count →
      (first :: rest).count vertex ≤ count) (vertex count : Nat)
    (found : (degrees.modify first (· - 1))[vertex]? = some count) :
    rest.count vertex ≤ count := by
  rw [getElem?_lowered, Option.map_eq_some_iff] at found
  obtain ⟨former, before, rfl⟩ := found
  have bound := enough vertex former before
  rw [count_cons_hit] at bound
  split at bound
  case isTrue same =>
    rw [if_pos same]
    omega
  case isFalse other =>
    rw [if_neg other]
    exact bound

/-- Of the edges that are to be taken away one more comes first. Its vertex is freed by it if
the others leave nothing of it to take away; all other vertices are freed by the others. -/
theorem mem_freed_cons (first : Nat) (rest degrees news : List Nat)
    (enough : ∀ vertex count, degrees[vertex]? = some count →
      (first :: rest).count vertex ≤ count)
    (member : ∀ vertex, vertex ∈ news ↔ 0 < rest.count vertex ∧
      (degrees.modify first (· - 1))[vertex]? = some (rest.count vertex)) (vertex : Nat) :
    vertex ∈ (if (degrees.modify first (· - 1))[first]? = some 0 then first :: news else news) ↔
      0 < (first :: rest).count vertex ∧
        degrees[vertex]? = some ((first :: rest).count vertex) := by
  have others := member vertex
  rw [getElem?_lowered] at others
  rw [count_cons_hit]
  by_cases same : vertex = first
  · subst same
    rw [getElem?_lowered]
    cases found : degrees[vertex]? with
    | none => simpa [found] using others
    | some count =>
      have bound := enough vertex count found
      rw [count_cons_hit] at bound
      simp only [found, Option.map_some, if_true, Option.some.injEq] at others bound ⊢
      split
      case isTrue emptied =>
        simp only [List.mem_cons, true_or, true_iff]
        omega
      case isFalse remains =>
        rw [others]
        omega
  · have elsewhere : vertex ∈ news ↔
        0 < rest.count vertex ∧ degrees[vertex]? = some (rest.count vertex) := by
      rw [others]
      cases degrees[vertex]? <;> simp [same]
    rw [if_neg same, Nat.add_zero, ← elsewhere]
    split
    case isTrue emptied => rw [List.mem_cons, or_iff_right same]
    case isFalse remains => rfl

/-- Taking edges away one by one lowers the count of each vertex by its edges, and
adds a vertex to the list at its last edge. -/
theorem foldl_release (hits degrees freed : List Nat)
    (enough : ∀ vertex count, degrees[vertex]? = some count → hits.count vertex ≤ count) :
    ∃ news, hits.foldl release (degrees, freed) =
        ((hits.foldl release (degrees, freed)).1, freed ++ news) ∧ news.Nodup ∧
      (∀ vertex, (hits.foldl release (degrees, freed)).1[vertex]? =
        degrees[vertex]?.map (· - hits.count vertex)) ∧
      ∀ vertex, vertex ∈ news ↔
        0 < hits.count vertex ∧ degrees[vertex]? = some (hits.count vertex) := by
  induction hits generalizing degrees freed with
  | nil => exact ⟨[], by simp, List.nodup_nil, by simp, by simp⟩
  | cons first rest inductionHypothesis =>
    obtain ⟨news, made, distinct, left, member⟩ := inductionHypothesis (degrees.modify first (· - 1))
      (if (degrees.modify first (· - 1))[first]? = some 0 then freed ++ [first] else freed)
      (enough_lowered first rest degrees enough)
    refine ⟨if (degrees.modify first (· - 1))[first]? = some 0 then first :: news else news, ?_, ?_,
      ?_, mem_freed_cons first rest degrees news enough member⟩
    · rw [List.foldl_cons, release, made]
      split
      · rw [List.append_assoc, List.singleton_append]
      · rfl
    · split
      case isTrue emptied =>
        refine List.nodup_cons.mpr ⟨?_, distinct⟩
        rw [member first, emptied]
        rintro ⟨positive, same⟩
        have zero := Option.some.inj same
        omega
      case isFalse remains => exact distinct
    · intro vertex
      rw [List.foldl_cons, release, left vertex, getElem?_lowered, Option.map_map]
      congr 1
      funext count
      rw [Function.comp_apply, count_cons_hit]
      split <;> omega

/-! ### Levels -/

/-- What is known between two levels: how many edges into each vertex come from
vertices that are not done, and that the vertices that are done or on the next level
are those without such edges. -/
structure Counted (graph : Digraph) (degrees done level : List Nat) : Prop where
  left : ∀ vertex, degrees[vertex]? = if vertex < graph.size then
    some (graph.edgesInto vertex (fun source => !done.contains source)) else none
  distinct : (done ++ level).Nodup
  listed : ∀ vertex, vertex ∈ done ++ level ↔ degrees[vertex]? = some 0

/-- A vertex is done or on the next level exactly if all edges into it come from vertices that
are done. -/
theorem Counted.mem_iff {graph : Digraph} {degrees done level : List Nat}
    (counted : graph.Counted degrees done level) (vertex : Nat) : vertex ∈ done ++ level ↔
      vertex < graph.size ∧ ∀ source, (source, vertex) ∈ graph.edges → source ∈ done := by
  rw [counted.listed, counted.left]
  by_cases inside : vertex < graph.size
  · rw [if_pos inside, Option.some.injEq, edgesInto, List.countP_eq_zero]
    simp only [inside, true_and, Prod.forall, List.contains_eq_mem, Bool.and_eq_true,
      Bool.not_eq_true', decide_eq_false_iff_not, beq_iff_eq]
    constructor
    · intro none_ source edge
      by_contra open_
      exact none_ source vertex edge ⟨open_, rfl⟩
    · rintro all source _ edge ⟨open_, rfl⟩
      exact open_ (all source edge)
  · simp [inside]

/-- The first level: nothing is done. -/
theorem counted_entry (graph : Digraph) :
    graph.Counted graph.inDegrees []
      ((List.range graph.size).filter (fun vertex => graph.inDegrees[vertex]? = some 0)) where
  left := by
    intro vertex
    rw [inDegrees, List.getElem?_map]
    by_cases inside : vertex < graph.size
    · simp only [List.getElem?_range inside, Option.map_some, inside, if_true, edgesInto,
        List.countP_eq_length_filter]
      simp [Bool.beq_eq_decide_eq]
    · simp [inside]
  distinct := List.nodup_range.filter _
  listed := by
    intro vertex
    rw [List.nil_append, List.mem_filter, List.mem_range, decide_eq_true_eq]
    constructor
    · exact And.right
    · intro free
      have inside := (List.getElem?_eq_some_iff.mp free).1
      refine ⟨?_, free⟩
      simpa [inDegrees] using inside

/-- The edges that are left before a level are those of the level and those that are
left after it. -/
theorem edgesInto_level (graph : Digraph) (vertex : Nat) (done level : List Nat)
    (distinct : (done ++ level).Nodup) :
    graph.edgesInto vertex (fun source => !done.contains source) =
      graph.edgesInto vertex (fun source => level.contains source) +
        graph.edgesInto vertex (fun source => !(done ++ level).contains source) := by
  have apart := (List.nodup_append.mp distinct).2.2
  refine graph.edgesInto_add vertex _ _ _ ?_ ?_
  · intro source
    by_cases listed : source ∈ level
    · have absent : source ∉ done := fun earlier => apart source earlier source listed rfl
      simp [listed, absent]
    · simp [listed]
  · intro source listed
    simp only [List.contains_eq_mem, decide_eq_true_eq] at listed
    simp [listed]

/-- No vertex is entered by more edges of the next level than it has left. -/
theorem Counted.hits_le {graph : Digraph} {degrees done level : List Nat}
    (counted : graph.Counted degrees done level) (vertex count : Nat)
    (found : degrees[vertex]? = some count) :
    (level.flatMap graph.successors).count vertex ≤ count := by
  rw [counted.left vertex] at found
  by_cases inside : vertex < graph.size
  · rw [if_pos inside, Option.some.injEq,
      graph.edgesInto_level vertex done level counted.distinct,
      ← graph.count_successors level (List.nodup_append.mp counted.distinct).2.1 vertex] at found
    omega
  · rw [if_neg inside] at found
    cases found

/-- One level further: its edges are taken away. -/
theorem counted_releaseLevel (graph : Digraph) (degrees done level : List Nat)
    (counted : graph.Counted degrees done level) :
    graph.Counted (graph.releaseLevel degrees level).1 (done ++ level)
      (graph.releaseLevel degrees level).2 := by
  have hits (vertex : Nat) := graph.count_successors level
    (List.nodup_append.mp counted.distinct).2.1 vertex
  have split (vertex : Nat) := graph.edgesInto_level vertex done level counted.distinct
  obtain ⟨news, made, distinct, left, member⟩ :=
    foldl_release (level.flatMap graph.successors) degrees [] counted.hits_le
  rw [List.nil_append] at made
  have released : graph.releaseLevel degrees level =
      (((level.flatMap graph.successors).foldl release (degrees, [])).1,
        news.mergeSort (· ≤ ·)) := by
    rw [releaseLevel, made]
  have sorted (vertex : Nat) : vertex ∈ news.mergeSort (· ≤ ·) ↔ vertex ∈ news :=
    (List.mergeSort_perm news _).mem_iff
  rw [released]
  constructor
  · intro vertex
    rw [left vertex, counted.left vertex]
    by_cases inside : vertex < graph.size
    · rw [if_pos inside, if_pos inside, Option.map_some, split vertex, ← hits vertex,
        Nat.add_sub_cancel_left]
    · rw [if_neg inside, if_neg inside, Option.map_none]
  · refine List.nodup_append.mpr ⟨counted.distinct,
      (List.mergeSort_perm news _).nodup_iff.mpr distinct, ?_⟩
    intro vertex earlier other listed same
    subst same
    have free := (counted.listed vertex).mp earlier
    obtain ⟨positive, last⟩ := (member vertex).mp ((sorted vertex).mp listed)
    rw [free, Option.some.injEq] at last
    omega
  · intro vertex
    rw [List.mem_append, counted.listed vertex, sorted vertex, member vertex, left vertex]
    cases found : degrees[vertex]? with
    | none => simp
    | some count =>
      have bound := counted.hits_le vertex count found
      simp only [Option.some.injEq, Option.map_some]
      omega

/-- Peeling levels lists no vertex twice, stays inside the graph, and lists a vertex
only after every vertex that has an edge to it. -/
theorem peel_sound (graph : Digraph) (rounds : Nat) (degrees done level : List Nat)
    (counted : graph.Counted degrees done level) :
    (done ++ (graph.peel rounds degrees level).1.flatten).Nodup ∧
      ∀ vertex ∈ (graph.peel rounds degrees level).1.flatten, vertex < graph.size ∧
        ∀ source, (source, vertex) ∈ graph.edges →
          source ∈ (done ++ (graph.peel rounds degrees level).1.flatten).takeWhile
            (· ≠ vertex) := by
  induction rounds generalizing degrees done level with
  | zero => simpa [peel] using (List.nodup_append.mp counted.distinct).1
  | succ more inductionHypothesis =>
    by_cases empty : level.isEmpty
    · simpa [peel, empty] using (List.nodup_append.mp counted.distinct).1
    · have next := inductionHypothesis _ _ _ (graph.counted_releaseLevel degrees done level counted)
      have unfolded : (graph.peel (more + 1) degrees level).1.flatten =
          level ++ (graph.peel more (graph.releaseLevel degrees level).1
            (graph.releaseLevel degrees level).2).1.flatten := by
        simp only [peel, empty, Bool.false_eq_true, if_false, List.flatten_cons]
      rw [unfolded, ← List.append_assoc]
      refine ⟨next.1, ?_⟩
      intro vertex listed
      rcases List.mem_append.mp listed with here | later
      · obtain ⟨inside, entered⟩ := (counted.mem_iff vertex).mp (List.mem_append_right done here)
        have notYet : vertex ∉ done := fun earlier =>
          (List.nodup_append.mp counted.distinct).2.2 vertex earlier vertex here rfl
        refine ⟨inside, fun source edge => ?_⟩
        rw [List.append_assoc, List.takeWhile_append_of_pos ?_]
        · exact List.mem_append_left _ (entered source edge)
        · intro other earlier
          exact decide_eq_true (fun same => notYet (same ▸ earlier))
      · exact next.2 vertex later

end Digraph

namespace Schedule

/-- A schedule lists every vertex once, and the source of an edge before its end. -/
theorem ofGraph_ok (graph : Digraph) (schedule : Schedule)
    (exists_ : ofGraph graph = .ok schedule) :
    schedule.order.Perm (List.range graph.size) ∧
      ∀ source vertex, vertex < graph.size → (source, vertex) ∈ graph.edges →
        source ∈ schedule.order.takeWhile (· ≠ vertex) := by
  have peeled := graph.peel_sound graph.size _ _ _ graph.counted_entry
  simp only [List.nil_append] at peeled
  unfold ofGraph at exists_
  simp only at exists_
  split at exists_
  · cases exists_
  · rename_i complete
    cases exists_
    have all : (graph.peel graph.size graph.inDegrees ((List.range graph.size).filter
        (fun vertex => graph.inDegrees[vertex]? = some 0))).1.flatten.Perm
        (List.range graph.size) := by
      refine List.Subperm.perm_of_length_le (List.subperm_of_subset peeled.1 ?_) ?_
      · intro vertex listed
        exact List.mem_range.mpr (peeled.2 vertex listed).1
      · rw [List.length_range]
        exact Nat.le_of_not_lt complete
    refine ⟨all, ?_⟩
    intro source vertex inside edge
    exact (peeled.2 vertex (all.mem_iff.mpr (List.mem_range.mpr inside))).2 source edge

end Schedule

end RegionGraph
