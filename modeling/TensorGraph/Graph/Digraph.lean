/-!
# Directed graphs and their order

A directed graph on the numbers below its size is a list of edges.  The order in which the edges
stand is part of it, because it decides which of several possible orders of the vertices is
chosen.

`Digraph.finishOrder` walks the graph depth first, from each vertex in turn, and takes down the
vertices by the time at which they were finished, the latest first.  In a graph without cycles that
puts every vertex behind the ones it depends on.  Whether it did so is then checked from scratch:
`Digraph.stray?` looks for a vertex that is wanted before it has been placed.  So
`Digraph.topologicalOrder` never returns an order that is not one, and where it fails it names a
vertex on a cycle.
-/

set_option autoImplicit false

namespace TensorGraph

/-- A directed graph on the numbers below `size`. -/
structure Digraph where
  size : Nat
  edges : List (Nat × Nat)
  deriving DecidableEq, Repr

namespace Digraph

/-- The vertices to which edges lead from a vertex, in the order of the edges. -/
def successors (g : Digraph) (v : Nat) : List Nat :=
  g.edges.filterMap fun e => if e.1 = v then some e.2 else none

/-- The vertices from which edges lead to a vertex, in the order of the edges. -/
def predecessors (g : Digraph) (v : Nat) : List Nat :=
  g.edges.filterMap fun e => if e.2 = v then some e.1 else none

@[simp] theorem mem_successors {g : Digraph} {v w : Nat} :
    w ∈ g.successors v ↔ (v, w) ∈ g.edges := by
  simp only [successors, List.mem_filterMap, Option.ite_none_right_eq_some, Option.some.injEq]
  constructor
  · rintro ⟨⟨a, b⟩, he, rfl, rfl⟩
    exact he
  · intro h
    exact ⟨(v, w), h, rfl, rfl⟩

@[simp] theorem mem_predecessors {g : Digraph} {v w : Nat} :
    v ∈ g.predecessors w ↔ (v, w) ∈ g.edges := by
  simp only [predecessors, List.mem_filterMap, Option.ite_none_right_eq_some, Option.some.injEq]
  constructor
  · rintro ⟨⟨a, b⟩, he, rfl, rfl⟩
    exact he
  · intro h
    exact ⟨(v, w), h, rfl, rfl⟩

/-! ## Walking depth first -/

/-- A step of the walk that is still to be made: to go to a vertex, or to finish it after
everything that can be reached from it has been seen. -/
inductive Step where
  | enter (v : Nat)
  | leave (v : Nat)
  deriving DecidableEq, Repr

/-- Makes the steps of a walk, of which `fresh` are the vertices that have not been entered and
`finished` those that have been left, the latest first. -/
def walk (g : Digraph) : (fresh : List Nat) → List Step → (finished : List Nat) → List Nat
  | _, [], finished => finished
  | fresh, .leave v :: steps, finished => walk g fresh steps (v :: finished)
  | fresh, .enter v :: steps, finished =>
    if v ∈ fresh then
      walk g (fresh.erase v) ((g.successors v).map .enter ++ .leave v :: steps) finished
    else walk g fresh steps finished
termination_by fresh steps _ => (fresh.length, steps.length)
decreasing_by
  · exact .right _ (by simp)
  · rename_i h
    have := List.length_erase_of_mem h
    have := List.length_pos_of_mem h
    exact .left _ _ (by omega)
  · exact .right _ (by simp)

/-- The vertices by the time at which a walk through the whole graph finished them, the latest
first. -/
def finishOrder (g : Digraph) : List Nat :=
  g.walk (List.range g.size) ((List.range g.size).map .enter) []

/-! ## Checking an order -/

/-- The first vertex, of those that the vertices in turn depend on, that has not been placed when
it is wanted. -/
def stray? (g : Digraph) : (placed : List Nat) → List Nat → Option Nat
  | _, [] => none
  | placed, v :: rest =>
    match (g.predecessors v).find? fun w => !(v :: placed).contains w with
    | some w => some w
    | none => stray? g (v :: placed) rest

/-- The vertices in an order in which every edge leads forward, or a vertex on a cycle. -/
def topologicalOrder (g : Digraph) : Except Nat (List Nat) :=
  match g.stray? [] g.finishOrder with
  | some v => .error v
  | none => .ok g.finishOrder

end Digraph

end TensorGraph
