-- What a graph tells of its cycles. Three searches look for them: one for the nodes that lead to
-- themselves, one for long walks, and one for an order. They agree on every graph whose edges are
-- the declared ones, and only nodes that depend on themselves are named. The same nodes are found
-- in components, whose members are reached from each other.
import EntityPipeline.Proofs.Graph.EarliestFirst
import EntityPipeline.Proofs.Graph.Growth
import EntityPipeline.Proofs.Graph.Walks
import Mathlib.Data.List.Flatten

namespace EntityPipeline.DependencyGraph

open Relation

/-- A graph in parts that hold each number once. What shares a part is reached from each other. -/
structure Decomposes (graph : DependencyGraph) (components : List (List Nat)) : Prop where
  perm : components.flatten.Perm (List.range graph.size)
  joined : ∀ component ∈ components, ∀ first ∈ component, ∀ second < graph.size,
    second ∈ component ↔
      ReflTransGen graph.Leads first second ∧ ReflTransGen graph.Leads second first

/-- Whether a component holds a cycle: it has several members, or an edge leads from its only one to
itself. -/
def hasCycleIn (graph : DependencyGraph) (component : List Nat) : Bool :=
  1 < component.length || component.head?.any fun index => graph.edges.contains (index, index)

/-- The names of the nodes in components that hold a cycle, in the order of their numbers. -/
def membersIn (graph : DependencyGraph) (components : List (List Nat)) : List String :=
  (graph.nodesAt ((components.filter graph.hasCycleIn).flatten.mergeSort fun i j => i ≤ j)).map
    DependencyNode.name

variable {graph : DependencyGraph} {index other : Nat} {node : DependencyNode} {name : String}
  {components : List (List Nat)} {component : List Nat}

/-! ## Numbers and names -/

/-- The name of the node with a number. -/
def nameAt (graph : DependencyGraph) (index : Nat) : String :=
  (graph.nodes[index]?.map DependencyNode.name).getD ""

theorem nameAt_eq (h : graph.nodes[index]? = some node) : graph.nameAt index = node.name := by
  simp [nameAt, h]

theorem dependsOn_of_leads (hc : graph.Connected) (h : graph.Leads other index) :
    graph.DependsOn (graph.nameAt index) (graph.nameAt other) := by
  obtain ⟨dependency, node, hdependency, hnode, hname⟩ := (hc.edges other index).1 h
  rw [nameAt_eq hdependency, nameAt_eq hnode]
  exact ⟨node, List.mem_of_getElem? hnode, rfl, hname⟩

theorem leads_of_dependsOn (hc : graph.Connected) {first second : String}
    (h : graph.DependsOn first second) :
    graph.Leads ((graph.index? second).getD 0) ((graph.index? first).getD 0) := by
  obtain ⟨node, hin, rfl, hname⟩ := h
  obtain ⟨dependency, hdependency, rfl⟩ := List.mem_map.1 (hc.known node hin _ hname)
  obtain ⟨i, hi⟩ := List.mem_iff_getElem?.1 hdependency
  obtain ⟨j, hj⟩ := List.mem_iff_getElem?.1 hin
  rw [(index?_eq_some_iff hc.names_nodup).2 ⟨dependency, hi, rfl⟩,
    (index?_eq_some_iff hc.names_nodup).2 ⟨node, hj, rfl⟩]
  exact (hc.edges i j).2 ⟨dependency, node, hi, hj, hname⟩

/-- A number leads to itself just when its name depends on itself. -/
theorem circle_iff (hc : graph.Connected) (hnode : graph.nodes[index]? = some node) :
    TransGen graph.Leads index index ↔ TransGen graph.DependsOn node.name node.name := by
  have hindex : (graph.index? node.name).getD 0 = index := by
    rw [(index?_eq_some_iff hc.names_nodup).2 ⟨node, hnode, rfl⟩, Option.getD_some]
  constructor
  · intro h
    have hback : TransGen (Function.swap graph.Leads) index index := transGen_swap.2 h
    have hnames : TransGen graph.DependsOn (graph.nameAt index) (graph.nameAt index) :=
      hback.lift graph.nameAt fun _ _ => dependsOn_of_leads hc
    rwa [nameAt_eq hnode] at hnames
  · intro h
    have hback : TransGen (Function.swap graph.DependsOn) node.name node.name := transGen_swap.2 h
    have hnumbers : TransGen graph.Leads ((graph.index? node.name).getD 0)
        ((graph.index? node.name).getD 0) :=
      hback.lift (fun name => (graph.index? name).getD 0) fun _ _ => leads_of_dependsOn hc
    rwa [hindex] at hnumbers

/-- Only nodes depend on anything. -/
theorem exists_node_of_circle (h : TransGen graph.DependsOn name name) :
    ∃ (index : Nat) (node : DependencyNode),
      graph.nodes[index]? = some node ∧ node.name = name := by
  obtain ⟨_, ⟨node, hin, hname, -⟩, -⟩ := TransGen.head'_iff.1 h
  obtain ⟨index, hindex⟩ := List.mem_iff_getElem?.1 hin
  exact ⟨index, node, hindex, hname⟩

/-! ## The three searches -/

theorem mem_cycleMembers (hc : graph.Connected) :
    name ∈ graph.cycleMembers ↔ TransGen graph.DependsOn name name := by
  unfold cycleMembers
  rw [List.mem_map]
  constructor
  · rintro ⟨node, hin, rfl⟩
    obtain ⟨index, hindex, hnode⟩ := mem_nodesAt.1 hin
    exact (circle_iff hc hnode).1 ((isCyclic_iff hc.bounded).1 (List.mem_filter.1 hindex).2)
  · intro h
    obtain ⟨index, node, hnode, rfl⟩ := exists_node_of_circle h
    have hlt : index < graph.size := (List.getElem?_eq_some_iff.1 hnode).1
    have hcyclic := (isCyclic_iff hc.bounded).2 ((circle_iff hc hnode).2 h)
    exact ⟨node, mem_nodesAt.2 ⟨index, List.mem_filter.2 ⟨List.mem_range.2 hlt, hcyclic⟩, hnode⟩,
      rfl⟩

theorem cycleMembers_sublist (graph : DependencyGraph) :
    graph.cycleMembers.Sublist (graph.nodes.map DependencyNode.name) := by
  have hnodes : (graph.nodesAt ((List.range graph.size).filter graph.isCyclic)).Sublist
      (graph.nodesAt (List.range graph.size)) := List.filter_sublist.filterMap _
  rw [nodesAt_range] at hnodes
  exact hnodes.map _

theorem hasCycles_iff_members (hc : graph.Connected) :
    graph.hasCycles = true ↔ ∃ name, name ∈ graph.cycleMembers := by
  rw [hasCycles_iff hc.bounded]
  constructor
  · rintro ⟨index, h⟩
    obtain ⟨_, -, hleads⟩ := TransGen.tail'_iff.1 h
    have hnode := List.getElem?_eq_getElem (hc.bounded _ hleads).2
    exact ⟨_, (mem_cycleMembers hc).2 ((circle_iff hc hnode).1 h)⟩
  · rintro ⟨name, hname⟩
    have h := (mem_cycleMembers hc).1 hname
    obtain ⟨index, node, hnode, rfl⟩ := exists_node_of_circle h
    exact ⟨index, (circle_iff hc hnode).2 h⟩

/-- A search for an order gives one or names the members of cycles. -/
theorem sorted_cases (graph : DependencyGraph) :
    (∃ nodes, graph.sorted = .ok nodes) ∨ graph.sorted = .error (.cycle graph.cycleMembers) := by
  unfold sorted
  dsimp only
  split
  · exact Or.inl ⟨_, rfl⟩
  · exact Or.inr rfl

theorem sorted_eq_error (hc : graph.Connected) {error : GraphError} :
    graph.sorted = .error error ↔
      graph.cycleMembers ≠ [] ∧ error = .cycle graph.cycleMembers := by
  have hnone : graph.cycleMembers = [] ↔ graph.sorted.isOk = true := by
    rw [(sortsEarliestFirst hc).succeeds_iff, List.eq_nil_iff_forall_not_mem]
    exact forall_congr' fun name => not_congr (mem_cycleMembers hc)
  rw [ne_eq, hnone]
  rcases sorted_cases graph with ⟨nodes, hok⟩ | hfails
  · simp [hok, Except.isOk, Except.toBool]
  · simp [hfails, Except.isOk, Except.toBool, eq_comm]

/-! ## Components -/

namespace Decomposes

theorem lt_size (h : graph.Decomposes components) (hin : component ∈ components)
    (hindex : index ∈ component) : index < graph.size :=
  List.mem_range.1 (h.perm.mem_iff.1 (List.mem_flatten.2 ⟨component, hin, hindex⟩))

theorem nodup (h : graph.Decomposes components) (hin : component ∈ components) : component.Nodup :=
  (List.nodup_flatten.1 (h.perm.nodup_iff.2 List.nodup_range)).1 component hin

/-- A component without other members is a single number. -/
theorem eq_singleton (h : graph.Decomposes components) (hin : component ∈ components)
    (hindex : index ∈ component) (hall : ∀ other ∈ component, other = index) :
    component = [index] := by
  have hperm : component.Perm [index] := by
    rw [List.perm_ext_iff_of_nodup (h.nodup hin) (List.nodup_singleton index)]
    intro other
    rw [List.mem_singleton]
    exact ⟨hall other, fun heq => heq ▸ hindex⟩
  exact List.perm_singleton.1 hperm

/-- A component holds a cycle just when each of its members leads to itself. -/
theorem hasCycleIn_iff (h : graph.Decomposes components) (hb : graph.Bounded)
    (hin : component ∈ components) (hindex : index ∈ component) :
    graph.hasCycleIn component = true ↔ TransGen graph.Leads index index := by
  by_cases hall : ∀ other ∈ component, other = index
  · -- without other members, only an edge that leads straight back makes a cycle
    rw [h.eq_singleton hin hindex hall]
    have hself : graph.hasCycleIn [index] = true ↔ graph.Leads index index := by
      simp [hasCycleIn, Leads]
    rw [hself]
    refine ⟨.single, fun hcircle => ?_⟩
    obtain ⟨before, hto, hleads⟩ := TransGen.tail'_iff.1 hcircle
    have hbefore : before ∈ component :=
      (h.joined component hin index hindex before (hb _ hleads).1).2 ⟨hto, .single hleads⟩
    rw [hall before hbefore] at hleads
    exact hleads
  · -- another member is reached and leads back
    push Not at hall
    obtain ⟨other, hother, hne⟩ := hall
    have hlong : 1 < component.length := by
      by_contra hshort
      refine hne (List.mem_singleton.1 ?_)
      have hle := ((List.singleton_sublist.2 hindex).eq_of_length_le (by simpa using hshort))
      exact hle ▸ hother
    obtain ⟨hto, hback⟩ :=
      (h.joined component hin index hindex other (h.lt_size hin hother)).1 hother
    have hcircle : TransGen graph.Leads index index :=
      ((reflTransGen_iff_eq_or_transGen.1 hto).resolve_left hne).trans_left hback
    simp [hasCycleIn, hlong, hcircle]

/-- The numbers in components that hold a cycle are those that lead to themselves. -/
theorem mem_flatten_iff (h : graph.Decomposes components) (hb : graph.Bounded) :
    index ∈ (components.filter graph.hasCycleIn).flatten ↔
      index < graph.size ∧ TransGen graph.Leads index index := by
  simp only [List.mem_flatten, List.mem_filter]
  constructor
  · rintro ⟨component, ⟨hin, hholds⟩, hindex⟩
    exact ⟨h.lt_size hin hindex, (h.hasCycleIn_iff hb hin hindex).1 hholds⟩
  · rintro ⟨hlt, hcircle⟩
    obtain ⟨component, hin, hindex⟩ :=
      List.mem_flatten.1 (h.perm.mem_iff.2 (List.mem_range.2 hlt))
    exact ⟨component, ⟨hin, (h.hasCycleIn_iff hb hin hindex).2 hcircle⟩, hindex⟩

/-- However a graph is taken apart, the components name the same members of cycles. -/
theorem membersIn_eq (h : graph.Decomposes components) (hb : graph.Bounded) :
    graph.membersIn components = graph.cycleMembers := by
  have hnodup : ((components.filter graph.hasCycleIn).flatten).Nodup :=
    (h.perm.nodup_iff.2 List.nodup_range).sublist (List.Sublist.flatten List.filter_sublist)
  have hperm : ((components.filter graph.hasCycleIn).flatten).Perm
      ((List.range graph.size).filter graph.isCyclic) := by
    rw [List.perm_ext_iff_of_nodup hnodup (List.nodup_range.filter _)]
    intro index
    rw [h.mem_flatten_iff hb, List.mem_filter, List.mem_range, isCyclic_iff hb]
  have hsorted : ((components.filter graph.hasCycleIn).flatten.mergeSort fun i j => i ≤ j).Pairwise
      (· ≤ ·) := by
    refine (List.pairwise_mergeSort ?_ ?_ _).imp of_decide_eq_true
    · intro a b c hab hbc
      exact decide_eq_true ((of_decide_eq_true hab).trans (of_decide_eq_true hbc))
    · intro a b
      simpa using Nat.le_total a b
  have hsame := List.Perm.eq_of_pairwise (fun _ _ _ _ => Nat.le_antisymm) hsorted
    (List.pairwise_le_range.filter graph.isCyclic) ((List.mergeSort_perm _ _).trans hperm)
  rw [membersIn, cycleMembers, hsame]

end Decomposes

/-! ## All graphs -/

/-- What is true of the searches for cycles. -/
structure TellsCycles (graph : DependencyGraph) : Prop where
  /-- Just those are named that depend on themselves, directly or through others. -/
  members : ∀ name, name ∈ graph.cycleMembers ↔ TransGen graph.DependsOn name name
  in_order : graph.cycleMembers.Sublist (graph.nodes.map DependencyNode.name)
  nodup : graph.cycleMembers.Nodup
  hasCycles : graph.hasCycles = false ↔ graph.cycleMembers = []
  /-- No order is found just where some are named, and these are told. -/
  sorted : ∀ error, graph.sorted = .error error ↔
    graph.cycleMembers ≠ [] ∧ error = .cycle graph.cycleMembers
  components : ∀ components, graph.Decomposes components →
    graph.membersIn components = graph.cycleMembers

/-- Whatever was called on a graph before edges were added to it, it names the nodes that depend on
themselves, each once and in the order in which they were added. All three searches agree on
whether there are any, and components tell the same ones. -/
theorem graphs_tell_their_cycles {calls : List Call}
    (h : (afterCalls calls).connect = .ok graph) :
    graph.Collects (broughtBy (calls ++ [.connect])) ∧ graph.TellsCycles := by
  have hgraph : afterCalls (calls ++ [.connect]) = graph := by
    rw [afterCalls_concat, leave_connect_of_ok h]
  have hbefore := accounts_afterCalls calls
  have hc := connected_of_declares hbefore.declared hbefore.collects.names_nodup h
  refine ⟨hgraph ▸ (accounts_afterCalls (calls ++ [.connect])).collects, ?_⟩
  have horder := cycleMembers_sublist graph
  refine ⟨fun _ => mem_cycleMembers hc, horder, horder.nodup hc.names_nodup, ?_,
    fun _ => sorted_eq_error hc, fun _ hcomponents => hcomponents.membersIn_eq hc.bounded⟩
  rw [← Bool.not_eq_true, hasCycles_iff_members hc, List.eq_nil_iff_forall_not_mem, not_exists]

/-- A node that depends on itself, two that depend on each other and on it, one that they depend on,
and one that depends on them. Edges could not be added at first, and one node was added twice. -/
theorem graphs_tell_their_cycles_web :
    let calls : List Call := [.add ⟨"docs", ["api"]⟩, .connect, .add ⟨"core", []⟩,
      .add ⟨"web", ["web", "core"]⟩, .add ⟨"api", ["db", "web"]⟩, .add ⟨"db", ["api"]⟩,
      .add ⟨"web", []⟩]
    ∃ graph, (afterCalls calls).connect = .ok graph ∧ graph.cycleMembers = ["web", "api", "db"] ∧
      graph.Decomposes [[4, 3], [2], [0], [1]] ∧
      graph.Collects (broughtBy (calls ++ [.connect])) ∧ graph.TellsCycles := by
  intro calls
  let graph : DependencyGraph :=
    ⟨[⟨"docs", ["api"]⟩, ⟨"core", []⟩, ⟨"web", ["web", "core"]⟩, ⟨"api", ["db", "web"]⟩,
      ⟨"db", ["api"]⟩], [(3, 0), (2, 2), (1, 2), (4, 3), (2, 3), (3, 4)]⟩
  have hconnect : (afterCalls calls).connect = .ok graph := by decide +kernel
  have hb : graph.Bounded := by
    unfold Bounded
    decide
  have hparts : graph.Decomposes [[4, 3], [2], [0], [1]] := by
    refine ⟨by decide, ?_⟩
    simp only [reflTransGen_iff hb]
    decide +kernel
  exact ⟨graph, hconnect, by decide +kernel, hparts, graphs_tell_their_cycles hconnect⟩

end EntityPipeline.DependencyGraph
