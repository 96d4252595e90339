-- The order of a graph. A connected graph has one just when no node depends on itself. Of all
-- orders it is the one that lets early nodes come early: whenever several nodes may come next, the
-- one added first does, and so no other order comes before it when the numbers are compared one by
-- one.
import EntityPipeline.Proofs.Graph.Circles
import EntityPipeline.Proofs.Graph.Sweep
import Mathlib.Data.List.Perm.Lattice

namespace EntityPipeline

/-- Everything a node depends on is among the nodes before it. -/
def DependencyNode.MayFollow (node : DependencyNode) (before : List DependencyNode) : Prop :=
  ∀ name ∈ node.dependsOn, name ∈ before.map DependencyNode.name

namespace DependencyGraph

/-- The number of a node: how many nodes were added before it. -/
def numberOf (graph : DependencyGraph) (node : DependencyNode) : Nat := graph.nodes.idxOf node

/-- All nodes of a graph, each once and after everything it depends on. -/
structure IsOrder (graph : DependencyGraph) (nodes : List DependencyNode) : Prop where
  perm : nodes.Perm graph.nodes
  follows : ∀ before node after, nodes = before ++ node :: after → node.MayFollow before

/-- What is true of the order of a graph and of the search for it. -/
structure SortsEarliestFirst (graph : DependencyGraph) : Prop where
  /-- There is an order just when no node depends on itself, directly or through others. -/
  succeeds_iff : graph.sorted.isOk = true ↔ ∀ name, ¬Relation.TransGen graph.DependsOn name name
  is_order : ∀ nodes, graph.sorted = .ok nodes → graph.IsOrder nodes
  /-- No order comes before it, compared number by number. -/
  least : ∀ nodes other, graph.sorted = .ok nodes → graph.IsOrder other →
    ¬List.Lex (· < ·) (other.map graph.numberOf) (nodes.map graph.numberOf)
  /-- At each place stands the node added first among those that may follow. -/
  earliest : ∀ nodes before node after, graph.sorted = .ok nodes →
    nodes = before ++ node :: after → ∀ other ∈ graph.nodes, other ∉ before →
      other.MayFollow before → graph.numberOf node ≤ graph.numberOf other
  /-- A counter that is lowered, in whatever order the dependents of a node are, is not zero yet. -/
  lowered : ∀ steps index done next rest,
    (graph.sweep steps graph.startSweep).ready.min? = some index →
    (done ++ next :: rest).Perm (graph.dependents index) →
    ∃ left, (done.foldl Sweep.lower
      ((graph.sweep steps graph.startSweep).place index)).pending[next]? = some left ∧ 0 < left

variable {graph : DependencyGraph} {state : Sweep} {order : List Nat} {nodes : List DependencyNode}
  {index steps : Nat}

/-! ## Numbers and nodes -/

theorem numberOf_eq (hc : graph.Connected) {node : DependencyNode}
    (hnode : graph.nodes[index]? = some node) : graph.numberOf node = index := by
  obtain ⟨hlt, rfl⟩ := List.getElem?_eq_some_iff.1 hnode
  exact hc.nodup.idxOf_getElem index hlt

theorem getElem?_numberOf {node : DependencyNode} (hin : node ∈ graph.nodes) :
    graph.nodes[graph.numberOf node]? = some node := by
  rw [numberOf, List.getElem?_eq_getElem (List.idxOf_lt_length_of_mem hin), List.getElem_idxOf]

/-- Nodes told by their numbers are these nodes. -/
theorem nodesAt_numbers (hin : ∀ node ∈ nodes, node ∈ graph.nodes) :
    graph.nodesAt (nodes.map graph.numberOf) = nodes := by
  rw [nodesAt, List.filterMap_map]
  refine Eq.trans (List.filterMap_congr fun node h => ?_) List.filterMap_some
  exact getElem?_numberOf (hin node h)

/-- Numbers of nodes are the numbers of the nodes there. -/
theorem numbers_nodesAt (hc : graph.Connected) (hlt : ∀ index ∈ order, index < graph.size) :
    (graph.nodesAt order).map graph.numberOf = order := by
  rw [nodesAt, List.map_filterMap]
  refine Eq.trans (List.filterMap_congr fun index hin => ?_) List.filterMap_some
  have hnode := List.getElem?_eq_getElem (hlt index hin)
  rw [hnode, Option.map_some, numberOf_eq hc hnode]

theorem mem_nodesAt {node : DependencyNode} :
    node ∈ graph.nodesAt order ↔ ∃ index ∈ order, graph.nodes[index]? = some node :=
  List.mem_filterMap

/-- A node may follow others just when every edge to it comes from one of them. -/
theorem mayFollow_iff (hc : graph.Connected) {node : DependencyNode}
    (hnode : graph.nodes[index]? = some node) : node.MayFollow (graph.nodesAt order) ↔
      ∀ edge ∈ graph.edges, edge.2 = index → edge.1 ∈ order := by
  constructor
  · rintro hfollow ⟨first, second⟩ hedge rfl
    obtain ⟨dependency, node', hdependency, hnode', hname⟩ := (hc.edges first second).1 hedge
    rw [hnode] at hnode'
    cases hnode'
    obtain ⟨other, hother, heq⟩ := List.mem_map.1 (hfollow _ hname)
    obtain ⟨i, hi, hplace⟩ := mem_nodesAt.1 hother
    -- the names differ, so both are the node with that number
    have hfirst := (index?_eq_some_iff hc.names_nodup).2 ⟨dependency, hdependency, rfl⟩
    have hsecond := (index?_eq_some_iff hc.names_nodup).2 ⟨other, hplace, heq⟩
    rw [hfirst] at hsecond
    cases hsecond
    exact hi
  · intro hedges name hname
    obtain ⟨dependency, hin, rfl⟩ := List.mem_map.1
      (hc.known node (List.mem_of_getElem? hnode) name hname)
    obtain ⟨i, hi⟩ := List.mem_iff_getElem?.1 hin
    have hedge := (hc.edges i index).2 ⟨dependency, node, hi, hnode, hname⟩
    exact List.mem_map_of_mem (mem_nodesAt.2 ⟨i, hedges _ hedge rfl, hi⟩)

/-- The numbers of all nodes, each after those of its dependencies. -/
structure IsNumbering (graph : DependencyGraph) (order : List Nat) : Prop where
  perm : order.Perm (List.range graph.size)
  closed : ∀ before index after, order = before ++ index :: after →
    ∀ edge ∈ graph.edges, edge.2 = index → edge.1 ∈ before

theorem IsNumbering.lt_size (h : graph.IsNumbering order) : ∀ index ∈ order, index < graph.size :=
  fun _ hin => List.mem_range.1 (h.perm.mem_iff.1 hin)

theorem IsNumbering.isOrder (hc : graph.Connected) (h : graph.IsNumbering order) :
    graph.IsOrder (graph.nodesAt order) where
  perm := (h.perm.filterMap _).trans (.of_eq (nodesAt_range graph))
  follows := by
    intro before node after heq
    obtain ⟨first, rest, rfl, hbefore, hrest⟩ := List.filterMap_eq_append_iff.1 heq
    obtain ⟨skipped, index, last, rfl, hskipped, hnode, _⟩ := List.filterMap_eq_cons_iff.1 hrest
    -- every number has a node, so none is skipped
    have hnone : skipped = [] := by
      refine List.eq_nil_iff_forall_not_mem.2 fun i hi => ?_
      have hlt := h.lt_size i (by simp [hi])
      simpa [List.getElem?_eq_getElem hlt] using hskipped i hi
    subst hnone
    rw [← hbefore]
    exact (mayFollow_iff hc hnode).2 (h.closed first index last (by simp))

theorem IsOrder.isNumbering (hc : graph.Connected) (h : graph.IsOrder nodes) :
    graph.IsNumbering (nodes.map graph.numberOf) where
  perm := by
    have hall : graph.nodes.map graph.numberOf = List.range graph.size := by
      rw [← nodesAt_range graph]
      exact numbers_nodesAt hc fun i hi => List.mem_range.1 hi
    exact hall ▸ h.perm.map _
  closed := by
    intro before index after heq
    obtain ⟨first, rest, rfl, rfl, hrest⟩ := List.map_eq_append_iff.1 heq
    obtain ⟨node, last, rfl, rfl, _⟩ := List.map_eq_cons_iff.1 hrest
    have hin : ∀ other ∈ first ++ node :: last, other ∈ graph.nodes :=
      fun other => h.perm.mem_iff.1
    rw [← mayFollow_iff hc (getElem?_numberOf (hin node (by simp))),
      nodesAt_numbers fun other ho => hin other (List.mem_append_left _ ho)]
    exact h.follows first node last rfl

/-! ## Circles -/

/-- A graph with an order has no circle. -/
theorem IsOrder.no_circle (hc : graph.Connected) (h : graph.IsOrder nodes) (name : String) :
    ¬Relation.TransGen graph.DependsOn name name := by
  have hnodup : (nodes.map DependencyNode.name).Nodup :=
    (h.perm.map DependencyNode.name).nodup_iff.2 hc.names_nodup
  refine no_circle_of_rank (nodes.map DependencyNode.name).idxOf ?_ name
  rintro _ other ⟨node, hin, rfl, hother⟩
  obtain ⟨before, after, rfl⟩ := List.append_of_mem (h.perm.mem_iff.2 hin)
  have hbefore := h.follows before node after rfl other hother
  rw [List.map_append, List.map_cons] at hnodup ⊢
  have hnew : node.name ∉ before.map DependencyNode.name := fun hmem =>
    List.disjoint_of_nodup_append hnodup hmem List.mem_cons_self
  rw [List.idxOf_append_of_mem hbefore, List.idxOf_append_of_notMem hnew]
  exact (List.idxOf_lt_length_of_mem hbefore).trans_le (Nat.le_add_right _ _)

/-- A search that is stuck before every node came has met a circle. -/
theorem Tracks.exists_circle (hc : graph.Connected) (h : graph.Tracks [] state)
    (hstuck : state.ready = []) (hlen : state.order.length ≠ graph.size) :
    ∃ name, Relation.TransGen graph.DependsOn name name := by
  let left := (List.range graph.size).filter (· ∉ state.order)
  have hleft : ∀ index, index ∈ left ↔ index < graph.size ∧ index ∉ state.order := by simp [left]
  have hne : left ≠ [] := by
    intro hnil
    have hsub : List.range graph.size ⊆ state.order := by
      intro index hin
      by_contra hnew
      exact (hnil ▸ List.not_mem_nil) ((hleft index).2 ⟨List.mem_range.1 hin, hnew⟩)
    have hle := (List.subperm_of_subset List.nodup_range hsub).length_le
    have hge := (List.subperm_of_subset h.order_nodup
      fun i hi => List.mem_range.2 (h.order_lt i hi)).length_le
    simp only [List.length_range] at hle hge
    omega
  -- who is left waits for another one that is left
  have hstep : ∀ index ∈ left, ∃ other ∈ left, (other, index) ∈ graph.edges := by
    intro index hin
    obtain ⟨hlt, hnew⟩ := (hleft index).1 hin
    have hwait : ¬graph.waiting state.order index = 0 := by
      intro hzero
      have hready := (h.ready index).2 ⟨hlt, hnew, by simpa using hzero⟩
      simp [hstuck] at hready
    rw [waiting_eq_zero] at hwait
    push Not at hwait
    obtain ⟨⟨other, _⟩, hedge, rfl, hother⟩ := hwait
    exact ⟨other, (hleft other).2 ⟨(hc.bounded _ hedge).1, hother⟩, hedge⟩
  obtain ⟨index, _, hcircle⟩ := EntityPipeline.exists_circle
    (r := fun a b => (b, a) ∈ graph.edges) hne hstep
  refine ⟨_, hcircle.lift (fun i => (graph.nodes[i]?.map DependencyNode.name).getD "") ?_⟩
  intro second first hedge
  obtain ⟨dependency, node, hdependency, hnode, hname⟩ := (hc.edges first second).1 hedge
  exact ⟨node, List.mem_of_getElem? hnode, by simp [hnode], by simpa [hdependency] using hname⟩

/-! ## The earliest first -/

/-- A search ends when all steps are made or nothing is ready any more. -/
theorem length_sweep (hb : graph.Bounded) (h : graph.Tracks [] state) :
    (graph.sweep steps state).order.length = state.order.length + steps ∨
      (graph.sweep steps state).ready = [] := by
  induction steps generalizing state with
  | zero => exact Or.inl rfl
  | succ steps ih =>
    unfold DependencyGraph.sweep
    split
    · rename_i hnone
      exact Or.inr (List.min?_eq_none_iff.1 hnone)
    · rename_i index hmin
      obtain ⟨hnext, horder⟩ := h.next hb (List.min?_mem hmin)
      refine (ih hnext).imp_left fun hlen => ?_
      rw [hlen, horder, List.length_append, List.length_singleton]
      omega

/-- At each place stands the least number of those whose dependencies all came before. -/
def Greedy (graph : DependencyGraph) (order : List Nat) : Prop :=
  ∀ before index after, order = before ++ index :: after →
    ∀ other < graph.size, other ∉ before →
      (∀ edge ∈ graph.edges, edge.2 = other → edge.1 ∈ before) → index ≤ other

/-- Who comes next is the least of those that wait for nothing. -/
theorem Tracks.min_le (h : graph.Tracks [] state) (hmin : state.ready.min? = some index) :
    ∀ other < graph.size, other ∉ state.order →
      (∀ edge ∈ graph.edges, edge.2 = other → edge.1 ∈ state.order) → index ≤ other := by
  intro other hlt hnew hedges
  refine (List.min?_eq_some_iff.1 hmin).2 other ((h.ready other).2 ⟨hlt, hnew, ?_⟩)
  simpa using waiting_eq_zero.2 hedges

theorem greedy_sweep (hb : graph.Bounded) (h : graph.Tracks [] state)
    (hgreedy : graph.Greedy state.order) : graph.Greedy (graph.sweep steps state).order := by
  induction steps generalizing state with
  | zero => exact hgreedy
  | succ steps ih =>
    unfold DependencyGraph.sweep
    split
    · exact hgreedy
    · rename_i index hmin
      obtain ⟨hnext, horder⟩ := h.next hb (List.min?_mem hmin)
      refine ih hnext ?_
      rw [horder]
      exact forall_split_snoc hgreedy (h.min_le hmin)

/-- Where two orders part, the greedy one has the smaller number. -/
theorem Greedy.not_lex {other : List Nat} (hgreedy : graph.Greedy order)
    (h : graph.IsNumbering order) (ho : graph.IsNumbering other) :
    ¬List.Lex (· < ·) other order := by
  intro hlex
  have hlen : order.length = other.length := (h.perm.trans ho.perm.symm).length_eq
  rcases List.lt_iff_exists.1 hlex with ⟨_, hless⟩ | ⟨i, hi, hi', hsame, hless⟩
  · omega
  · have htaken : order.take i = other.take i := by
      refine List.ext_getElem (by simp; omega) fun j hj _ => ?_
      rw [List.length_take] at hj
      rw [List.getElem_take, List.getElem_take]
      exact (hsame j (by omega)).symm
    have hsplit : other = order.take i ++ other[i] :: other.drop (i + 1) := by
      rw [htaken, List.cons_getElem_drop_succ, List.take_append_drop]
    have hnew : other[i] ∉ order.take i := by
      intro hin
      have hnodup : other.Nodup := ho.perm.nodup_iff.2 List.nodup_range
      rw [hsplit] at hnodup
      exact List.disjoint_of_nodup_append hnodup hin List.mem_cons_self
    have hle := hgreedy (order.take i) order[i] (order.drop (i + 1))
      (by rw [List.cons_getElem_drop_succ, List.take_append_drop]) other[i]
      (ho.lt_size _ (List.getElem_mem hi)) hnew (ho.closed _ _ _ hsplit)
    exact absurd hless (Nat.not_lt.2 hle)

/-! ## Sorting -/

/-- A sorted graph is told by a numbering of its nodes. -/
theorem sorted_eq_ok (hc : graph.Connected) (h : graph.sorted = .ok nodes) :
    ∃ order, nodes = graph.nodesAt order ∧ graph.IsNumbering order ∧ graph.Greedy order := by
  have htracks : graph.Tracks [] (graph.sweep graph.size graph.startSweep) :=
    (tracks_start graph).sweep hc.bounded
  unfold sorted at h
  dsimp only at h
  split at h
  · rename_i hlen
    cases h
    refine ⟨_, rfl, ⟨htracks.perm (beq_iff_eq.1 hlen), htracks.order_closed⟩, ?_⟩
    refine greedy_sweep hc.bounded (tracks_start graph) fun before index after heq => ?_
    simp [startSweep] at heq
  · cases h

theorem isOrder_of_sorted (hc : graph.Connected) (h : graph.sorted = .ok nodes) :
    graph.IsOrder nodes := by
  obtain ⟨order, rfl, horder, _⟩ := sorted_eq_ok hc h
  exact horder.isOrder hc

/-- Without a circle the search ends with every node in place. -/
theorem isOk_sorted (hc : graph.Connected)
    (hnone : ∀ name, ¬Relation.TransGen graph.DependsOn name name) : graph.sorted.isOk = true := by
  have htracks : graph.Tracks [] (graph.sweep graph.size graph.startSweep) :=
    (tracks_start graph).sweep hc.bounded
  have hlen : (graph.sweep graph.size graph.startSweep).order.length = graph.size := by
    by_contra hshort
    rcases length_sweep hc.bounded (tracks_start graph) with hall | hstuck
    · exact hshort (by simpa [startSweep] using hall)
    · obtain ⟨name, hcircle⟩ := htracks.exists_circle hc hstuck hshort
      exact hnone name hcircle
  simp [sorted, hlen, Except.isOk, Except.toBool]

theorem earliest_of_sorted (hc : graph.Connected) {before after : List DependencyNode}
    {node other : DependencyNode} (h : graph.sorted = .ok (before ++ node :: after))
    (hin : other ∈ graph.nodes) (hnew : other ∉ before) (hfollow : other.MayFollow before) :
    graph.numberOf node ≤ graph.numberOf other := by
  obtain ⟨order, heq, horder, hgreedy⟩ := sorted_eq_ok hc h
  have hsplit : order = before.map graph.numberOf ++ graph.numberOf node ::
      after.map graph.numberOf := by
    rw [← numbers_nodesAt hc horder.lt_size, ← heq, List.map_append, List.map_cons]
  have hbefore : graph.nodesAt (before.map graph.numberOf) = before :=
    nodesAt_numbers fun n hn =>
      (isOrder_of_sorted hc h).perm.mem_iff.1 (List.mem_append_left _ hn)
  have hother := getElem?_numberOf hin
  refine hgreedy _ _ _ hsplit _ (List.getElem?_eq_some_iff.1 hother).1 ?_ ?_
  · intro hmem
    exact hnew (hbefore ▸ mem_nodesAt.2 ⟨_, hmem, hother⟩)
  · exact (mayFollow_iff hc hother).1 (hbefore.symm ▸ hfollow)

/-- What is lowered counts at least the dependency that comes just now. -/
theorem Tracks.lowered {done rest : List Nat} {next : Nat} (hb : graph.Bounded)
    (h : graph.Tracks [] state) (hr : index ∈ state.ready)
    (hperm : (done ++ next :: rest).Perm (graph.dependents index)) :
    ∃ left, (done.foldl Sweep.lower (state.place index)).pending[next]? = some left ∧
      0 < left := by
  have hnew := h.dependents_new hr hb
  obtain ⟨htracks, _⟩ := ((h.place hr).perm_late hperm.symm).lower_all
    fun other hin => hnew other (hperm.mem_iff.1 (List.mem_append_left _ hin))
  have hlt := (hnew next (hperm.mem_iff.1 (by simp))).1
  -- the node itself is still late, so its counter is at least one
  have hpending := congrArg (·[next]?) htracks.pending
  simp only [List.getElem?_map, List.getElem?_range hlt, Option.map_some,
    List.count_cons_self] at hpending
  exact ⟨_, hpending, by omega⟩

theorem sortsEarliestFirst (hc : graph.Connected) : graph.SortsEarliestFirst where
  succeeds_iff := by
    refine ⟨fun hok => ?_, isOk_sorted hc⟩
    obtain ⟨nodes, hsorted⟩ : ∃ nodes, graph.sorted = .ok nodes := by
      cases hsorted : graph.sorted with
      | error e => simp [hsorted, Except.isOk, Except.toBool] at hok
      | ok nodes => exact ⟨nodes, rfl⟩
    exact (isOrder_of_sorted hc hsorted).no_circle hc
  is_order := fun nodes => isOrder_of_sorted hc
  least := by
    intro nodes other hsorted hother
    obtain ⟨order, rfl, horder, hgreedy⟩ := sorted_eq_ok hc hsorted
    rw [numbers_nodesAt hc horder.lt_size]
    exact hgreedy.not_lex horder (hother.isNumbering hc)
  earliest := by
    rintro _ before node after hsorted rfl other hin hnew hfollow
    exact earliest_of_sorted hc hsorted hin hnew hfollow
  lowered := fun _ _ _ _ _ hmin hperm =>
    ((tracks_start graph).sweep hc.bounded).lowered hc.bounded (List.min?_mem hmin) hperm

/-- Nodes that are added one after another and then connected have an order just when none depends
on itself. It is the least of all orders, has the earliest node at each place, and the search for
it lowers no counter below zero. -/
theorem sorted_ofNodes {added : List DependencyNode} (h : (ofNodes added).connect = .ok graph) :
    graph.Collects added ∧ graph.SortsEarliestFirst := by
  have hadded := collects_ofNodes added
  have hnodes := nodes_connect h
  have hc := connected_of_connect (edges_ofNodes added) hadded.names_nodup h
  refine ⟨⟨hc.names_nodup, hnodes ▸ hadded.in_order, fun name => ?_⟩, sortsEarliestFirst hc⟩
  rw [← hadded.first, node?, node?, hnodes]

/-- A node that is added twice, a dependency that is named twice, and one that is added later. -/
theorem sorted_ofNodes_web :
    let added : List DependencyNode := [⟨"web", ["core", "core"]⟩, ⟨"docs", []⟩, ⟨"core", []⟩,
      ⟨"docs", ["web"]⟩]
    ∃ graph, (ofNodes added).connect = .ok graph ∧
      graph.sorted = .ok [⟨"docs", []⟩, ⟨"core", []⟩, ⟨"web", ["core", "core"]⟩] ∧
      graph.Collects added ∧ graph.SortsEarliestFirst :=
  ⟨⟨[⟨"web", ["core", "core"]⟩, ⟨"docs", []⟩, ⟨"core", []⟩], [(2, 0)]⟩, by decide +kernel,
    by decide +kernel, sorted_ofNodes (by decide +kernel)⟩

end DependencyGraph

end EntityPipeline
