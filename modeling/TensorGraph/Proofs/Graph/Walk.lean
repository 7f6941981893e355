import Mathlib.Data.List.Nodup
import Mathlib.Data.List.Perm.Basic
import Mathlib.Logic.Relation
import TensorGraph.Graph.Digraph

/-!
# What a depth-first walk finds

`Digraph.finishOrder` makes the steps of one long walk, and `Digraph.stray?` looks at the order it
comes back with.  This file says what the two together decide.

* `Walk` is the invariant: what is known about the vertices that have not been entered, the steps
  that are still to be made and the vertices that are finished.  There is one lemma for each of the
  three things a walk can do with its first step, and `Walk.run` puts them together by the
  recursion of `Digraph.walk`.
* `finishOrder_perm` and `finishOrder_settled` are the two halves of what is left of the invariant
  when no step remains: every vertex is finished exactly once, and it stands before the vertices it
  has edges to, except where an edge closes a cycle.
* `topologicalOrder_eq_ok` and `topologicalOrder_eq_error` are the payoff: an order that is returned
  puts the start of every edge before its end, and a vertex that is named instead lies on a cycle.

The argument needs no case for cycles of its own.  An edge `v → w` can only fail to lead forward if
`w` was still open when `v` was finished, and the vertices that are open are exactly those from
which the walk has come down to `v`.
-/

set_option autoImplicit false

namespace TensorGraph
namespace Digraph

/-! ## Edges and ways -/

/-- There is an edge from `v` to `w`. -/
def Edge (g : Digraph) (v w : Nat) : Prop := (v, w) ∈ g.edges

/-- There is a way from `v` to `w`, possibly of no edges. -/
def Reaches (g : Digraph) (v w : Nat) : Prop := Relation.ReflTransGen g.Edge v w

/-- All edges run between vertices of the graph. -/
def Bounded (g : Digraph) : Prop := ∀ v w, g.Edge v w → v < g.size ∧ w < g.size

/-- In the list `order`, a vertex stands before the ends of its edges, or there is a way back. -/
def Settled (g : Digraph) (order : List Nat) : Prop :=
  ∀ v ∈ order, ∀ w, g.Edge v w → w < g.size → [v, w].Sublist order ∨ g.Reaches w v

/-- The vertex of a step. -/
def Step.vertex : Step → Nat
  | enter v => v
  | leave v => v

/-- The vertices that have been entered and not yet left. -/
def opened (steps : List Step) : List Nat :=
  steps.filterMap fun
    | .enter _ => none
    | .leave v => some v

@[simp] theorem opened_nil : opened [] = [] := rfl

@[simp] theorem opened_enter (v : Nat) (steps : List Step) :
    opened (.enter v :: steps) = opened steps := rfl

@[simp] theorem opened_leave (v : Nat) (steps : List Step) :
    opened (.leave v :: steps) = v :: opened steps := rfl

@[simp] theorem opened_append (s t : List Step) : opened (s ++ t) = opened s ++ opened t :=
  List.filterMap_append

@[simp] theorem opened_map_enter (vs : List Nat) : opened (vs.map .enter) = [] := by
  induction vs with
  | nil => rfl
  | cons v vs ih => exact ih

theorem mem_opened {v : Nat} {steps : List Step} : v ∈ opened steps ↔ .leave v ∈ steps := by
  induction steps with
  | nil => simp
  | cons s steps ih => cases s <;> simp [ih]

/-! ## The invariant -/

/-- What holds at every point of a walk through `g`. -/
structure Walk (g : Digraph) (fresh : List Nat) (steps : List Step) (finished : List Nat) :
    Prop where
  /-- A vertex is fresh, open or finished, and only one of these. -/
  perm : (fresh ++ opened steps ++ finished).Perm (List.range g.size)
  /-- A vertex that is fresh will be entered. -/
  covered : ∀ v ∈ fresh, .enter v ∈ steps
  /-- From an open vertex there is a way to everything that comes before it is left. -/
  below : steps.Pairwise fun s t => ∀ v, t = .leave v → g.Reaches v s.vertex
  /-- What an open vertex has an edge to and is fresh will be entered before that vertex is left. -/
  ahead : ∀ v w, g.Edge v w → .leave v ∈ steps → w ∈ fresh →
    [.enter w, .leave v].Sublist steps
  settled : g.Settled finished

namespace Walk

variable {g : Digraph} {fresh : List Nat} {steps : List Step} {finished : List Nat} {v : Nat}

theorem nodup (h : Walk g fresh steps finished) : (fresh ++ opened steps ++ finished).Nodup :=
  h.perm.nodup_iff.2 List.nodup_range

theorem nodup_fresh (h : Walk g fresh steps finished) : fresh.Nodup :=
  h.nodup.of_append_left.of_append_left

/-- The walk starts with every vertex to be entered. -/
theorem start (g : Digraph) :
    Walk g (List.range g.size) ((List.range g.size).map .enter) [] where
  perm := by simp
  covered v hv := List.mem_map_of_mem hv
  below := by
    rw [List.pairwise_map]
    exact List.pairwise_of_forall fun _ _ _ h => by cases h
  ahead v w _ hv := by simp at hv
  settled v hv := by simp at hv

/-- A vertex that is not fresh is passed over. -/
theorem pass (h : Walk g fresh (.enter v :: steps) finished) (hv : v ∉ fresh) :
    Walk g fresh steps finished where
  perm := h.perm
  covered w hw := by
    have hne : w ≠ v := fun e => hv (e ▸ hw)
    simpa [hne] using h.covered w hw
  below := h.below.of_cons
  ahead u w he hu hw := by
    have hne : Step.enter w ≠ .enter v := fun e => hv (Step.enter.inj e ▸ hw)
    exact (h.ahead u w he (List.mem_cons_of_mem _ hu) hw).of_cons_of_ne hne
  settled := h.settled

/-- A fresh vertex is opened, and the ends of its edges are to be entered before it is left. -/
theorem enter (h : Walk g fresh (.enter v :: steps) finished) (hv : v ∈ fresh) :
    Walk g (fresh.erase v) ((g.successors v).map .enter ++ .leave v :: steps) finished where
  perm := by
    refine List.Perm.trans ?_ h.perm
    simp only [opened_append, opened_map_enter, opened_leave, opened_enter, List.nil_append]
    refine List.Perm.append_right _ ?_
    exact List.perm_middle.trans ((List.perm_cons_erase hv).symm.append_right _)
  covered w hw := by
    rw [h.nodup_fresh.mem_erase_iff] at hw
    have hmem : Step.enter w ∈ steps := by simpa [hw.1] using h.covered w hw.2
    simp [hmem]
  below := by
    obtain ⟨hhead, htail⟩ := List.pairwise_cons.1 h.below
    refine List.pairwise_append.2 ⟨?_, List.pairwise_cons.2 ⟨hhead, htail⟩, ?_⟩
    · rw [List.pairwise_map]
      exact List.pairwise_of_forall fun _ _ _ h => by cases h
    · intro s hs t ht u hu
      obtain ⟨w, hw, rfl⟩ := List.mem_map.1 hs
      have hedge : g.Edge v w := mem_successors.1 hw
      rcases List.mem_cons.1 ht with rfl | ht
      · cases hu
        exact .single hedge
      · exact (hhead t ht u hu).tail hedge
  ahead u w he hu hw := by
    rw [h.nodup_fresh.mem_erase_iff] at hw
    rcases List.mem_append.1 hu with hu | hu
    · simp at hu
    rcases List.mem_cons.1 hu with hu | hu
    · -- the vertex that has just been opened: the ends of its edges stand right above it
      cases hu
      have hmem : Step.enter w ∈ (g.successors v).map .enter :=
        List.mem_map_of_mem (mem_successors.2 he)
      exact List.Sublist.append (List.singleton_sublist.2 hmem)
        (List.singleton_sublist.2 List.mem_cons_self)
    · have hne : Step.enter w ≠ .enter v := fun e => hw.1 (Step.enter.inj e)
      have hs := (h.ahead u w he (List.mem_cons_of_mem _ hu) hw.2).of_cons_of_ne hne
      exact (hs.cons _).trans (List.sublist_append_right _ _)
  settled := h.settled

/-- When an open vertex is on top, nothing it has an edge to is fresh any more. -/
theorem not_mem_fresh_of_edge (h : Walk g fresh (.leave v :: steps) finished) {w : Nat}
    (he : g.Edge v w) : w ∉ fresh := by
  intro hw
  have hs := (h.ahead v w he List.mem_cons_self hw).of_cons_of_ne (by simp)
  have hagain : v ∈ opened steps := mem_opened.2 (hs.subset (by simp))
  have hnodup : (v :: opened steps).Nodup := h.nodup.of_append_left.of_append_right
  exact (List.nodup_cons.1 hnodup).1 hagain

/-- A vertex is left when what it has edges to is finished, or still open around it. -/
theorem leave (h : Walk g fresh (.leave v :: steps) finished) :
    Walk g fresh steps (v :: finished) where
  perm := by
    refine List.Perm.trans ?_ h.perm
    simp only [opened_leave]
    rw [List.append_assoc, List.append_assoc]
    exact List.perm_middle.append_left _
  covered w hw := by simpa using h.covered w hw
  below := h.below.of_cons
  ahead u w he hu hw :=
    (h.ahead u w he (List.mem_cons_of_mem _ hu) hw).of_cons_of_ne (by simp)
  settled := by
    intro u hu w he hlt
    rcases List.mem_cons.1 hu with rfl | hu
    · have hmem : w ∈ fresh ++ opened (.leave u :: steps) ++ finished :=
        h.perm.mem_iff.2 (List.mem_range.2 hlt)
      simp only [List.mem_append, opened_leave, List.mem_cons] at hmem
      rcases hmem with (hfresh | rfl | hopen) | hfin
      · exact absurd hfresh (h.not_mem_fresh_of_edge he)
      · exact .inr .refl
      · exact .inr ((List.pairwise_cons.1 h.below).1 _ (mem_opened.1 hopen) w rfl)
      · exact .inl ((List.singleton_sublist.2 hfin).cons_cons u)
    · exact (h.settled u hu w he hlt).imp_left fun hs => hs.cons _

/-- **The invariant holds to the end of the walk**, when there are no steps left. -/
theorem run (h : Walk g fresh steps finished) : Walk g [] [] (g.walk fresh steps finished) := by
  fun_induction walk g fresh steps finished with
  | case1 fresh finished =>
    have hfresh : fresh = [] :=
      List.eq_nil_iff_forall_not_mem.2 fun v hv => by simpa using h.covered v hv
    exact hfresh ▸ h
  | case2 fresh v steps finished ih => exact ih h.leave
  | case3 fresh v steps finished hv ih => exact ih (h.enter hv)
  | case4 fresh v steps finished hv ih => exact ih (h.pass hv)

end Walk

/-! ## The finish order -/

theorem walk_finishOrder (g : Digraph) : Walk g [] [] g.finishOrder := (Walk.start g).run

/-- Every vertex is finished exactly once. -/
theorem finishOrder_perm (g : Digraph) : g.finishOrder.Perm (List.range g.size) := by
  simpa using (walk_finishOrder g).perm

theorem finishOrder_nodup (g : Digraph) : g.finishOrder.Nodup :=
  (finishOrder_perm g).nodup_iff.2 List.nodup_range

theorem mem_finishOrder {g : Digraph} {v : Nat} : v ∈ g.finishOrder ↔ v < g.size := by
  rw [(finishOrder_perm g).mem_iff, List.mem_range]

theorem finishOrder_settled (g : Digraph) : g.Settled g.finishOrder := (walk_finishOrder g).settled

/-! ## The check of the order -/

/-- If the check finds nothing, every edge leads forward. -/
theorem sublist_of_stray?_eq_none {g : Digraph} {placed order : List Nat}
    (h : g.stray? placed order = none) {v w : Nat} (hw : w ∈ order) (he : g.Edge v w) :
    v ∈ placed ∨ v = w ∨ [v, w].Sublist order := by
  induction order generalizing placed with
  | nil => simp at hw
  | cons u rest ih =>
    rw [stray?] at h
    split at h
    · simp at h
    · rename_i hfind
      rcases List.mem_cons.1 hw with rfl | hrest
      · have hplaced := List.find?_eq_none.1 hfind v (mem_predecessors.2 he)
        have hmem : v ∈ w :: placed := by simpa [or_iff_not_imp_left] using hplaced
        rcases List.mem_cons.1 hmem with hv | hv
        · exact .inr (.inl hv)
        · exact .inl hv
      · rcases ih h hrest with hv | hv | hs
        · rcases List.mem_cons.1 hv with rfl | hv
          · exact .inr (.inr ((List.singleton_sublist.2 hrest).cons_cons v))
          · exact .inl hv
        · exact .inr (.inl hv)
        · exact .inr (.inr (hs.cons u))

/-- What the check finds has an edge to a vertex of the order and does not stand before it. -/
theorem edge_of_stray?_eq_some {g : Digraph} {placed order : List Nat} {v : Nat}
    (hnodup : order.Nodup) (h : g.stray? placed order = some v) :
    v ∉ placed ∧ ∃ w ∈ order, g.Edge v w ∧ ¬ [v, w].Sublist order := by
  induction order generalizing placed with
  | nil => simp [stray?] at h
  | cons u rest ih =>
    rw [List.nodup_cons] at hnodup
    rw [stray?] at h
    split at h
    · rename_i w hfind
      cases h
      have hnot : v ∉ u :: placed := by simpa using List.find?_some hfind
      rw [List.mem_cons, not_or] at hnot
      have hedge : g.Edge v u := mem_predecessors.1 (List.mem_of_find?_eq_some hfind)
      refine ⟨hnot.2, u, by simp, hedge, fun hs => ?_⟩
      exact hnodup.1 ((hs.of_cons_of_ne hnot.1).subset (by simp))
    · obtain ⟨hnot, w, hw, he, hs⟩ := ih hnodup.2 h
      rw [List.mem_cons, not_or] at hnot
      exact ⟨hnot.2, w, List.mem_cons_of_mem _ hw, he, fun h' => hs (h'.of_cons_of_ne hnot.1)⟩

/-! ## Orders and cycles -/

/-- Of two entries of a list without repetitions the one that stands first has the smaller
index. -/
theorem idxOf_lt_of_sublist {order : List Nat} (hnodup : order.Nodup) {v w : Nat}
    (h : [v, w].Sublist order) : order.idxOf v < order.idxOf w := by
  induction order with
  | nil => simp at h
  | cons u rest ih =>
    rw [List.nodup_cons] at hnodup
    have hw : w ∈ rest := by
      cases h with
      | cons _ h => exact h.subset (by simp)
      | cons_cons _ h => exact h.subset (by simp)
    have hwu : u ≠ w := fun e => hnodup.1 (e ▸ hw)
    rw [List.idxOf_cons_ne _ hwu]
    by_cases hvu : u = v
    · subst hvu
      rw [List.idxOf_cons_self]
      exact Nat.succ_pos _
    · rw [List.idxOf_cons_ne _ hvu]
      exact Nat.succ_lt_succ (ih hnodup.2 (h.of_cons_of_ne (Ne.symm hvu)))

/-- **An order that is returned is one**: it lists every vertex once, and every edge that is not a
loop leads forward. -/
theorem topologicalOrder_eq_ok {g : Digraph} (hg : g.Bounded) {order : List Nat}
    (h : g.topologicalOrder = .ok order) :
    order.Perm (List.range g.size) ∧ ∀ v w, g.Edge v w → v ≠ w → [v, w].Sublist order := by
  rw [topologicalOrder] at h
  split at h
  · simp at h
  · rename_i hstray
    cases h
    refine ⟨finishOrder_perm g, fun v w he hne => ?_⟩
    have hw : w ∈ g.finishOrder := mem_finishOrder.2 (hg v w he).2
    rcases sublist_of_stray?_eq_none hstray hw he with hv | hv | hs
    · simp at hv
    · exact absurd hv hne
    · exact hs

/-- Where all edges lead forward in some order, no way leads back to where it started. -/
theorem not_transGen_self {g : Digraph} {order : List Nat} (hnodup : order.Nodup)
    (h : ∀ v w, g.Edge v w → [v, w].Sublist order) (v : Nat) :
    ¬ Relation.TransGen g.Edge v v := by
  have hlt : ∀ u w, Relation.TransGen g.Edge u w → order.idxOf u < order.idxOf w := by
    intro u w huw
    induction huw with
    | single he => exact idxOf_lt_of_sublist hnodup (h _ _ he)
    | tail _ he ih => exact Nat.lt_trans ih (idxOf_lt_of_sublist hnodup (h _ _ he))
  exact fun hv => Nat.lt_irrefl _ (hlt v v hv)

/-- **A vertex that is named instead of an order lies on a cycle.** -/
theorem topologicalOrder_eq_error {g : Digraph} (hg : g.Bounded) {v : Nat}
    (h : g.topologicalOrder = .error v) : Relation.TransGen g.Edge v v := by
  rw [topologicalOrder] at h
  split at h
  · rename_i u hstray
    cases h
    obtain ⟨-, w, hw, he, hs⟩ := edge_of_stray?_eq_some (finishOrder_nodup g) hstray
    have hv : v ∈ g.finishOrder := mem_finishOrder.2 (hg v w he).1
    rcases finishOrder_settled g v hv w he (hg v w he).2 with hforward | hback
    · exact absurd hforward hs
    · exact .head' he hback
  · simp at h

end Digraph
end TensorGraph
