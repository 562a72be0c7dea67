import Mathlib.Data.Set.Finite.Basic
import Mathlib.Logic.Relation
import Mathlib.Order.WellFounded
import RegionGraph.Proofs.Schedules

/-!
# Levels stop at cycles

Levels stop when every vertex that is left is entered by an edge from another that is left. As
they are finitely many, a path that closes leads to each of them; so in a graph without cycles
levels stop only when every vertex is done.
-/

namespace RegionGraph

/-- A cycle leads to a vertex, or goes through it. -/
def FromCycle {α : Type} (leads : α → α → Prop) (vertex : α) : Prop :=
  ∃ turn, Relation.TransGen leads turn turn ∧ Relation.ReflTransGen leads turn vertex

/-- Among finitely many vertices each of which is entered from among them, a cycle leads to
every one. -/
theorem fromCycle_of_entered {α : Type} (leads : α → α → Prop) (kind : Set α)
    (finite : kind.Finite) (entered : ∀ vertex ∈ kind, ∃ source ∈ kind, leads source vertex)
    (vertex : α) (member : vertex ∈ kind) : FromCycle leads vertex := by
  by_contra free
  let upstream : Set α := {source | source ∈ kind ∧ Relation.ReflTransGen leads source vertex}
  let path (source target : upstream) : Prop := Relation.TransGen leads source.val target.val
  have few : Finite upstream := (finite.subset fun _ => And.left).to_subtype
  have transitive : IsTrans upstream path := ⟨fun _ _ _ => Relation.TransGen.trans⟩
  have irreflexive : Std.Irrefl path :=
    ⟨fun source cycle => free ⟨source.val, cycle, source.property.2⟩⟩
  have founded : WellFounded path := Finite.wellFounded_of_trans_of_irrefl path
  -- A first vertex on the way to this one would be entered from one that is still earlier.
  obtain ⟨first, _, least⟩ := founded.has_min Set.univ ⟨⟨vertex, member, .refl⟩, trivial⟩
  obtain ⟨source, among, edge⟩ := entered first.val first.property.1
  exact least ⟨source, among, .head edge first.property.2⟩ trivial (.single edge)

namespace Digraph

/-- An edge leads from one vertex to another. -/
def Leads (graph : Digraph) (source vertex : Nat) : Prop := (source, vertex) ∈ graph.edges

/-- Both ends of every edge are vertices. -/
def Inside (graph : Digraph) : Prop :=
  ∀ source vertex, graph.Leads source vertex → source < graph.size ∧ vertex < graph.size

/-- No path leads back to where it began. -/
def Acyclic (graph : Digraph) : Prop := ∀ vertex, ¬Relation.TransGen graph.Leads vertex vertex

/-- Peeling ends because no level is left, or it has listed a vertex in every round. -/
theorem peel_complete (graph : Digraph) (rounds : Nat) (degrees done level : List Nat)
    (counted : graph.Counted degrees done level) :
    graph.Counted (graph.peel rounds degrees level).2
        (done ++ (graph.peel rounds degrees level).1.flatten) [] ∨
      rounds ≤ (graph.peel rounds degrees level).1.flatten.length := by
  induction rounds generalizing degrees done level with
  | zero => exact Or.inr (Nat.zero_le _)
  | succ more inductionHypothesis =>
    by_cases empty : level.isEmpty
    · rw [List.isEmpty_iff] at empty
      subst empty
      left
      simpa [peel] using counted
    · simp only [peel, empty, Bool.false_eq_true, if_false, List.flatten_cons]
      rcases inductionHypothesis _ _ _ (graph.counted_releaseLevel degrees done level counted) with
        finished | many
      · left
        rw [← List.append_assoc]
        exact finished
      · right
        have some : 0 < level.length :=
          List.length_pos_iff.mpr fun none => empty (List.isEmpty_iff.mpr none)
        rw [List.length_append]
        omega

/-- When levels stop, a cycle leads to every vertex that is not done. -/
theorem Counted.fromCycle {graph : Digraph} {left done : List Nat}
    (counted : graph.Counted left done []) (inside : graph.Inside) (vertex : Nat)
    (small : vertex < graph.size) (open_ : vertex ∉ done) : FromCycle graph.Leads vertex := by
  refine fromCycle_of_entered graph.Leads {vertex | vertex < graph.size ∧ vertex ∉ done}
    ((Set.finite_lt_nat graph.size).subset fun _ => And.left) ?_ vertex ⟨small, open_⟩
  rintro target ⟨within, unfinished⟩
  have unreleased := (counted.mem_iff target).not.mp (by rwa [List.append_nil])
  rw [not_and, not_forall] at unreleased
  obtain ⟨source, entering⟩ := unreleased within
  obtain ⟨edge, before⟩ := not_forall.mp entering
  exact ⟨source, ⟨(inside source target edge).1, before⟩, edge⟩

/-- In an acyclic graph levels stop only when every vertex is done. -/
theorem Counted.done_of_acyclic {graph : Digraph} {left done : List Nat}
    (counted : graph.Counted left done []) (inside : graph.Inside) (acyclic : graph.Acyclic)
    (vertex : Nat) (small : vertex < graph.size) : vertex ∈ done := by
  by_contra open_
  obtain ⟨turn, cycle, _⟩ := counted.fromCycle inside vertex small open_
  exact acyclic turn cycle

end Digraph

end RegionGraph
