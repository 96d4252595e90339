-- The search for an order of a graph. Whatever the graph, the search counts for each node the
-- dependencies that did not come yet, has at hand just the nodes that wait for nothing any more,
-- and lets no node come before something it depends on.
import EntityPipeline.Proofs.Graph.Building
import Mathlib.Data.List.Count
import Mathlib.Data.List.Perm.Subperm

namespace EntityPipeline.DependencyGraph

/-- The number of dependencies of a node that did not come yet. -/
def waiting (graph : DependencyGraph) (order : List Nat) (index : Nat) : Nat :=
  graph.edges.countP fun edge => edge.2 == index && !order.contains edge.1

/-- What holds all through a search. Some dependents of the node that came last may still be
counted too high. -/
structure Tracks (graph : DependencyGraph) (late : List Nat) (state : Sweep) : Prop where
  order_nodup : state.order.Nodup
  order_lt : ∀ index ∈ state.order, index < graph.size
  order_closed : ∀ before index after, state.order = before ++ index :: after →
    ∀ edge ∈ graph.edges, edge.2 = index → edge.1 ∈ before
  pending : state.pending = (List.range graph.size).map fun index =>
    ((graph.waiting state.order index + late.count index : Nat) : Int)
  ready_nodup : state.ready.Nodup
  ready : ∀ index, index ∈ state.ready ↔ index < graph.size ∧ index ∉ state.order ∧
    graph.waiting state.order index + late.count index = 0

variable {graph : DependencyGraph} {state : Sweep} {late order : List Nat} {index other steps : Nat}

/-! ## Waiting -/

theorem waiting_eq_zero : graph.waiting order index = 0 ↔
    ∀ edge ∈ graph.edges, edge.2 = index → edge.1 ∈ order := by
  simp [waiting, List.countP_eq_zero]

/-- At first a node waits for all it depends on. -/
theorem waiting_nil (graph : DependencyGraph) (index : Nat) :
    graph.waiting [] index = graph.dependencyCount index := by
  simp [waiting, dependencyCount, List.countP_eq_length_filter]

/-- When a node comes, each edge from it makes its dependents wait for one less. -/
theorem waiting_snoc (hnew : index ∉ order) (other : Nat) :
    graph.waiting order other =
      graph.waiting (order ++ [index]) other + (graph.dependents index).count other := by
  -- the edges that still count are split into those from the node itself and all others
  have hown : (graph.dependents index).count other =
      graph.edges.countP fun edge =>
        (edge.2 == other && !order.contains edge.1) && edge.1 == index := by
    unfold dependents
    rw [List.count, List.countP_map, List.countP_filter]
    refine List.countP_congr fun edge _ => ?_
    by_cases h : edge.1 = index <;> simp [h, hnew]
  have hothers : graph.waiting (order ++ [index]) other =
      graph.edges.countP fun edge =>
        (edge.2 == other && !order.contains edge.1) && !(edge.1 == index) := by
    unfold waiting
    refine List.countP_congr fun edge _ => ?_
    simp [and_assoc]
  rw [hown, hothers]
  unfold waiting
  rw [List.countP_eq_countP_filter_add graph.edges _ fun edge => edge.1 == index,
    List.countP_filter, List.countP_filter, Nat.add_comm]

/-! ## One step -/

theorem tracks_start (graph : DependencyGraph) : graph.Tracks [] graph.startSweep := by
  refine ⟨List.nodup_nil, by simp [startSweep], by simp [startSweep], ?_, ?_, ?_⟩
  · simp [startSweep, waiting_nil]
  · exact List.nodup_range.filter _
  · intro index
    simp [startSweep, waiting_nil]

/-- Counting one dependency of a node as come. -/
theorem Tracks.lower (h : graph.Tracks (index :: late) state) (hlt : index < graph.size)
    (hnew : index ∉ state.order) : graph.Tracks late (state.lower index) := by
  obtain ⟨hnodup, horder, hclosed, hpending, hrnodup, hready⟩ := h
  have hleft : state.pending[index]?.getD 0 - 1 =
      ((graph.waiting state.order index + late.count index : Nat) : Int) := by
    simp only [hpending, List.getElem?_map, List.getElem?_range hlt, Option.map_some,
      Option.getD_some, List.count_cons_self]
    omega
  have hfresh : index ∉ state.ready := by
    rw [hready]
    simp
  refine ⟨hnodup, horder, hclosed, ?_, ?_, ?_⟩
  · simp only [Sweep.lower, hleft]
    refine List.ext_getElem (by simp [hpending]) fun i hi hi' => ?_
    rw [List.getElem_set]
    split
    · simp_all
    · rename_i hne
      -- no other count changes, so the late entry of the node counts for itself alone
      simp [hpending, List.count_cons, hne]
  · simp only [Sweep.lower]
    split
    · refine hrnodup.append (List.nodup_singleton _) ?_
      exact List.disjoint_singleton.2 hfresh
    · exact hrnodup
  · intro i
    simp only [Sweep.lower, hleft]
    by_cases hi : i = index
    · subst hi
      simp only [beq_iff_eq, Int.natCast_eq_zero]
      split
      · rename_i hzero
        simp [hlt, hnew, hzero]
      · rename_i hsome
        exact ⟨fun hin => absurd hin hfresh, fun hi => absurd hi.2.2 hsome⟩
    · have hcount : (index :: late).count i = late.count i := List.count_cons_of_ne (Ne.symm hi)
      rw [← hcount, ← hready]
      split <;> simp [hi]

/-- What is late counts only by how often each node is late. -/
theorem Tracks.perm_late {late' : List Nat} (h : graph.Tracks late state)
    (hperm : late.Perm late') : graph.Tracks late' state where
  order_nodup := h.order_nodup
  order_lt := h.order_lt
  order_closed := h.order_closed
  pending := by simpa only [hperm.count_eq] using h.pending
  ready_nodup := h.ready_nodup
  ready := by simpa only [hperm.count_eq] using h.ready

/-- Counting some of the edges from a node that came. -/
theorem Tracks.lower_all {rest : List Nat} (h : graph.Tracks (late ++ rest) state)
    (hlate : ∀ index ∈ late, index < graph.size ∧ index ∉ state.order) :
    graph.Tracks rest (late.foldl Sweep.lower state) ∧
      (late.foldl Sweep.lower state).order = state.order := by
  induction late generalizing state with
  | nil => exact ⟨h, rfl⟩
  | cons index late ih =>
    obtain ⟨hlt, hnew⟩ := hlate index List.mem_cons_self
    exact ih (h.lower hlt hnew) fun other hin => hlate other (List.mem_cons_of_mem _ hin)

/-- What holds of each member and those before it, with one more member at the end. -/
theorem forall_split_snoc {P : List Nat → Nat → Prop}
    (h : ∀ before index after, order = before ++ index :: after → P before index)
    (hlast : P order index) :
    ∀ before other after, order ++ [index] = before ++ other :: after → P before other := by
  intro before other after heq
  rcases List.eq_nil_or_concat after with rfl | ⟨init, last, rfl⟩
  · obtain ⟨rfl, hother⟩ := List.append_inj' heq rfl
    cases hother
    exact hlast
  · have hsplit : order ++ [index] = (before ++ other :: init) ++ [last] := by simpa using heq
    exact h before other init (List.append_inj' hsplit rfl).1

/-- Letting a ready node come leaves its dependents to be counted. -/
theorem Tracks.place (h : graph.Tracks [] state) (hr : index ∈ state.ready) :
    graph.Tracks (graph.dependents index) (state.place index) := by
  obtain ⟨hnodup, horder, hclosed, hpending, hrnodup, hready⟩ := h
  obtain ⟨hlt, hnew, hwait⟩ := (hready index).1 hr
  simp only [List.count_nil, Nat.add_zero] at hpending hready hwait
  have hindex := waiting_eq_zero.1 hwait
  refine ⟨?_, ?_, ?_, ?_, ?_, ?_⟩
  · exact hnodup.append (List.nodup_singleton _) (List.disjoint_singleton.2 hnew)
  · intro i hi
    rcases List.mem_append.1 hi with hi | hi
    · exact horder i hi
    · rw [List.mem_singleton.1 hi]
      exact hlt
  · exact forall_split_snoc hclosed hindex
  · simp only [Sweep.place, hpending, ← waiting_snoc hnew]
  · exact hrnodup.erase _
  · intro i
    simp only [Sweep.place, ← waiting_snoc hnew, hrnodup.mem_erase_iff, hready, List.mem_append,
      List.mem_singleton]
    tauto

/-- An edge from a node that comes next leads to a node that did not come. -/
theorem Tracks.dependents_new (h : graph.Tracks [] state) (hr : index ∈ state.ready)
    (hb : graph.Bounded) : ∀ other ∈ graph.dependents index,
      other < graph.size ∧ other ∉ (state.place index).order := by
  obtain ⟨_, hnew, hwait⟩ := (h.ready index).1 hr
  intro other hother
  obtain ⟨edge, hedge, rfl⟩ := List.mem_map.1 hother
  simp only [List.mem_filter, beq_iff_eq] at hedge
  refine ⟨(hb edge hedge.1).2, fun hin => ?_⟩
  have hplaced := h.place hr
  obtain ⟨before, after, heq⟩ := List.append_of_mem hin
  have hbefore := hplaced.order_closed before edge.2 after heq edge hedge.1 rfl
  rw [hedge.2] at hbefore
  -- the node itself is the last of the order, so nothing comes after it
  rcases List.eq_nil_or_concat after with rfl | ⟨init, last, rfl⟩
  · have hsplit : state.order ++ [index] = before ++ [edge.2] := heq
    obtain ⟨rfl, _⟩ := List.append_inj' hsplit rfl
    exact hnew hbefore
  · have hsplit : state.order ++ [index] = (before ++ edge.2 :: init) ++ [last] := by
      simpa [Sweep.place] using heq
    obtain ⟨hfirst, _⟩ := List.append_inj' hsplit rfl
    exact hnew (hfirst ▸ List.mem_append_left _ hbefore)

theorem Tracks.next (h : graph.Tracks [] state) (hb : graph.Bounded) (hr : index ∈ state.ready) :
    graph.Tracks [] ((graph.dependents index).foldl Sweep.lower (state.place index)) ∧
      ((graph.dependents index).foldl Sweep.lower (state.place index)).order =
        state.order ++ [index] := by
  have hplaced := h.place hr
  rw [← List.append_nil (graph.dependents index)] at hplaced
  exact hplaced.lower_all (h.dependents_new hr hb)

/-! ## The whole search -/

theorem Tracks.sweep (h : graph.Tracks [] state) (hb : graph.Bounded) :
    graph.Tracks [] (graph.sweep steps state) := by
  induction steps generalizing state with
  | zero => exact h
  | succ steps ih =>
    unfold DependencyGraph.sweep
    split
    · exact h
    · rename_i index hmin
      exact ih (h.next hb (List.min?_mem hmin)).1

/-- A search that lets every node come lets each come once. -/
theorem Tracks.perm (h : graph.Tracks late state) (hlen : state.order.length = graph.size) :
    state.order.Perm (List.range graph.size) := by
  have hsub := List.subperm_of_subset h.order_nodup fun i hi => List.mem_range.2 (h.order_lt i hi)
  exact hsub.perm_of_length_le (by simp [hlen])

theorem nodesAt_range (graph : DependencyGraph) :
    graph.nodesAt (List.range graph.size) = graph.nodes := by
  unfold nodesAt size
  induction graph.nodes using List.reverseRecOn with
  | nil => rfl
  | append_singleton init last ih =>
    rw [List.length_append, List.length_singleton, List.range_succ, List.filterMap_append]
    congr 1
    · refine Eq.trans (List.filterMap_congr fun i hi => ?_) ih
      exact List.getElem?_append_left (List.mem_range.1 hi)
    · simp

theorem perm_of_sorted (hb : graph.Bounded) {nodes : List DependencyNode}
    (h : graph.sorted = .ok nodes) : nodes.Perm graph.nodes := by
  unfold sorted at h
  dsimp only at h
  split at h
  · rename_i hlen
    cases h
    rw [beq_iff_eq] at hlen
    have hperm := ((tracks_start graph).sweep hb).perm hlen
    exact (hperm.filterMap _).trans (.of_eq (nodesAt_range graph))
  · cases h

/-! ## Nodes that are added after what they depend on -/

/-- When every edge leads from a node to a later one, the nodes come one by one. -/
theorem order_sweep_of_forward (hb : graph.Bounded) (hf : ∀ edge ∈ graph.edges, edge.1 < edge.2)
    (h : graph.Tracks [] state) (came : Nat) (horder : state.order = List.range came)
    (hle : came + steps ≤ graph.size) :
    (graph.sweep steps state).order = List.range (came + steps) := by
  induction steps generalizing state came with
  | zero => exact horder
  | succ steps ih =>
    -- what is ready did not come, and all numbers below `came` did
    have hready : ∀ index, index ∈ state.ready → came ≤ index := by
      intro index hin
      obtain ⟨_, hnew, _⟩ := (h.ready index).1 hin
      simpa [horder] using hnew
    have hnext : came ∈ state.ready := by
      refine (h.ready came).2 ⟨by omega, by simp [horder], ?_⟩
      rw [List.count_nil, Nat.add_zero, waiting_eq_zero, horder]
      intro edge hedge heq
      exact List.mem_range.2 (heq ▸ hf edge hedge)
    have hmin : state.ready.min? = some came := List.min?_eq_some_iff.2 ⟨hnext, hready⟩
    obtain ⟨hstep, hstate⟩ := h.next hb hnext
    unfold DependencyGraph.sweep
    simp only [hmin]
    rw [ih hstep (came + 1) (by rw [hstate, horder, List.range_succ]) (by omega)]
    congr 1
    omega

/-- When every edge leads from a node to a later one, the nodes are in order as they are. -/
theorem sorted_of_forward (hb : graph.Bounded) (hf : ∀ edge ∈ graph.edges, edge.1 < edge.2) :
    graph.sorted = .ok graph.nodes := by
  have horder : (graph.sweep graph.size graph.startSweep).order = List.range (0 + graph.size) :=
    order_sweep_of_forward hb hf (tracks_start graph) 0 rfl (by omega)
  rw [Nat.zero_add] at horder
  unfold sorted
  simp [horder, nodesAt_range]

end EntityPipeline.DependencyGraph
