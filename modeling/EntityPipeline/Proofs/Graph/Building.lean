-- Graphs that nodes are added to one by one and that are connected afterwards. Of the nodes with
-- one name the first one stays, and the edges are just the dependencies that the nodes declare.
import EntityPipeline.DependencyGraph
import Mathlib.Data.List.Induction
import Mathlib.Data.List.Nodup

namespace EntityPipeline.DependencyGraph

/-- Every edge lies between nodes of the graph. -/
def Bounded (graph : DependencyGraph) : Prop :=
  ∀ edge ∈ graph.edges, edge.1 < graph.size ∧ edge.2 < graph.size

/-- The graph of nodes that were added one after another. -/
def ofNodes (added : List DependencyNode) : DependencyGraph :=
  added.foldl (fun graph node => (graph.add node).1) {}

/-- A graph has the nodes that were added, in that order; of those with one name, the first. -/
structure Collects (graph : DependencyGraph) (added : List DependencyNode) : Prop where
  names_nodup : (graph.nodes.map DependencyNode.name).Nodup
  in_order : graph.nodes.Sublist added
  first : ∀ name, graph.node? name = added.find? (·.name == name)

/-- The node of one name names the other one among its dependencies. -/
def DependsOn (graph : DependencyGraph) (name other : String) : Prop :=
  ∃ node ∈ graph.nodes, node.name = name ∧ other ∈ node.dependsOn

/-- A graph whose names differ, whose nodes depend on nodes of the graph, and whose edges are just
these dependencies. -/
structure Connected (graph : DependencyGraph) : Prop where
  names_nodup : (graph.nodes.map DependencyNode.name).Nodup
  known : ∀ node ∈ graph.nodes, ∀ name ∈ node.dependsOn,
    name ∈ graph.nodes.map DependencyNode.name
  edges : ∀ first second, (first, second) ∈ graph.edges ↔ ∃ dependency node,
    graph.nodes[first]? = some dependency ∧ graph.nodes[second]? = some node ∧
      dependency.name ∈ node.dependsOn

variable {graph : DependencyGraph} {index : Nat}

/-! ## Numbers of names -/

theorem isSome_index? {name : String} :
    (graph.index? name).isSome = true ↔ name ∈ graph.nodes.map DependencyNode.name := by
  simp [index?, List.findIdx?_isSome]

theorem lt_size_of_index? {name : String} (h : graph.index? name = some index) :
    index < graph.size := (List.findIdx?_eq_some_iff_getElem.1 h).1

/-- A name among the first nodes has a number among the first. -/
theorem index?_lt {before after : List DependencyNode} {name : String}
    (hnodes : graph.nodes = before ++ after) (hin : name ∈ before.map DependencyNode.name) :
    ∃ index, graph.index? name = some index ∧ index < before.length := by
  obtain ⟨node, hnode, rfl⟩ := List.mem_map.1 hin
  have hfound : (before.findIdx? (·.name == node.name)).isSome = true := by
    rw [List.findIdx?_isSome, List.any_eq_true]
    exact ⟨node, hnode, beq_self_eq_true _⟩
  obtain ⟨index, hindex⟩ := Option.isSome_iff_exists.1 hfound
  refine ⟨index, ?_, (List.findIdx?_eq_some_iff_getElem.1 hindex).1⟩
  rw [index?, hnodes, List.findIdx?_append, hindex]
  rfl

theorem index?_eq_some_iff {name : String}
    (hnodup : (graph.nodes.map DependencyNode.name).Nodup) :
    graph.index? name = some index ↔
      ∃ node, graph.nodes[index]? = some node ∧ node.name = name := by
  rw [index?, List.findIdx?_eq_some_iff_getElem]
  constructor
  · rintro ⟨hlt, hname, _⟩
    exact ⟨_, List.getElem?_eq_getElem hlt, by simpa using hname⟩
  · rintro ⟨node, hnode, rfl⟩
    obtain ⟨hlt, rfl⟩ := List.getElem?_eq_some_iff.1 hnode
    refine ⟨hlt, by simp, fun j hj => ?_⟩
    simp only [beq_iff_eq]
    intro heq
    have hlt' : j < graph.nodes.length := Nat.lt_trans hj hlt
    -- two nodes of one name are the same node
    have hplaces : (graph.nodes.map DependencyNode.name)[j]? =
        (graph.nodes.map DependencyNode.name)[index]? := by
      rw [List.getElem?_map, List.getElem?_map, List.getElem?_eq_getElem hlt', hnode,
        Option.map_some, Option.map_some, heq]
    have hsame := (List.getElem?_inj (by rwa [List.length_map]) hnodup).1 hplaces
    omega

/-! ## Adding -/

theorem ofNodes_snoc (added : List DependencyNode) (node : DependencyNode) :
    ofNodes (added ++ [node]) = ((ofNodes added).add node).1 := by
  simp [ofNodes]

theorem edges_ofNodes (added : List DependencyNode) : (ofNodes added).edges = [] := by
  induction added using List.reverseRecOn with
  | nil => rfl
  | append_singleton init last ih => rw [ofNodes_snoc, edges_add, ih]

/-- Of nodes with one name, the one that is added first stays. -/
theorem Collects.add {added : List DependencyNode} (h : graph.Collects added)
    (node : DependencyNode) : (graph.add node).1.Collects (added ++ [node]) := by
  obtain ⟨hnodup, hsub, hfirst⟩ := h
  by_cases hknown : node.name ∈ graph.nodes.map DependencyNode.name
  · have hnodes : (graph.add node).1.nodes = graph.nodes := by
      rw [nodes_add, if_pos (isSome_index?.2 hknown)]
    refine ⟨hnodes ▸ hnodup, hnodes ▸ hsub.trans (List.sublist_append_left _ _), fun name => ?_⟩
    rw [node?, hnodes, List.find?_append, ← hfirst, node?]
    by_cases hname : node.name = name
    · -- the name is found among the nodes before
      obtain ⟨other, hin, heq⟩ := List.mem_map.1 hknown
      have hfound : (graph.nodes.find? (·.name == name)).isSome = true := by
        rw [List.find?_isSome]
        exact ⟨other, hin, by simp [heq, hname]⟩
      rw [Option.or_of_isSome hfound]
    · simp [hname]
  · have hnodes : (graph.add node).1.nodes = graph.nodes ++ [node] := by
      rw [nodes_add, if_neg (mt isSome_index?.1 hknown)]
    refine ⟨?_, hnodes ▸ hsub.append_right _, fun name => ?_⟩
    · rw [hnodes, List.map_append]
      exact hnodup.append (List.nodup_singleton _) (List.disjoint_singleton.2 hknown)
    · rw [node?, hnodes, List.find?_append, List.find?_append, ← hfirst, node?]

theorem collects_ofNodes (added : List DependencyNode) : (ofNodes added).Collects added := by
  induction added using List.reverseRecOn with
  | nil => exact ⟨List.nodup_nil, .slnil, fun _ => rfl⟩
  | append_singleton init last ih =>
    rw [ofNodes_snoc]
    exact ih.add last

/-! ## Connecting -/

theorem mem_foldl_addEdge {edges added : List (Nat × Nat)} {edge : Nat × Nat} :
    edge ∈ added.foldl addEdge edges ↔ edge ∈ edges ∨ edge ∈ added := by
  induction added generalizing edges with
  | nil => simp
  | cons first rest ih => rw [List.foldl_cons, ih, mem_addEdge, List.mem_cons, or_assoc]

/-- A declared edge leads from a dependency to the node that declares it. -/
theorem mem_declared {edge : Nat × Nat} : edge ∈ graph.declared ↔
    ∃ node, graph.nodes[edge.2]? = some node ∧
      ∃ dependency ∈ node.dependsOn, graph.index? dependency = some edge.1 := by
  obtain ⟨first, second⟩ := edge
  simp only [declared, List.mem_flatMap, List.mem_filterMap, Option.map_eq_some_iff, Prod.mk.injEq]
  constructor
  · rintro ⟨⟨node, index⟩, hin, dependency, hd, other, hother, rfl, rfl⟩
    exact ⟨node, List.mk_mem_zipIdx_iff_getElem?.1 hin, dependency, hd, hother⟩
  · rintro ⟨node, hnode, dependency, hd, hother⟩
    exact ⟨(node, second), List.mk_mem_zipIdx_iff_getElem?.2 hnode, dependency, hd, first, hother,
      rfl, rfl⟩

/-- Nodes declare an edge that leads from one of them to another one which depends on it. -/
def Declares (nodes : List DependencyNode) (edge : Nat × Nat) : Prop :=
  ∃ dependency node, nodes[edge.1]? = some dependency ∧ nodes[edge.2]? = some node ∧
    dependency.name ∈ node.dependsOn

theorem mem_declared_iff (hnodup : (graph.nodes.map DependencyNode.name).Nodup)
    {edge : Nat × Nat} : edge ∈ graph.declared ↔ Declares graph.nodes edge := by
  rw [mem_declared]
  constructor
  · rintro ⟨node, hnode, name, hname, hindex⟩
    obtain ⟨dependency, hdependency, rfl⟩ := (index?_eq_some_iff hnodup).1 hindex
    exact ⟨dependency, node, hdependency, hnode, hname⟩
  · rintro ⟨dependency, node, hdependency, hnode, hname⟩
    exact ⟨node, hnode, _, hname, (index?_eq_some_iff hnodup).2 ⟨dependency, hdependency, rfl⟩⟩

theorem mem_edges_connect {connected : DependencyGraph} (h : graph.connect = .ok connected)
    {edge : Nat × Nat} : edge ∈ connected.edges ↔ edge ∈ graph.edges ∨ edge ∈ graph.declared := by
  unfold connect at h
  split at h <;> cases h
  exact mem_foldl_addEdge

/-- A connected graph that had no edges has the declared ones. -/
theorem edges_connect {connected : DependencyGraph} (hnil : graph.edges = [])
    (h : graph.connect = .ok connected) {edge : Nat × Nat} :
    edge ∈ connected.edges ↔ edge ∈ graph.declared := by
  simp [mem_edges_connect h, hnil]

theorem bounded_of_connect {connected : DependencyGraph} (hnil : graph.edges = [])
    (h : graph.connect = .ok connected) : connected.Bounded := by
  intro edge hedge
  obtain ⟨node, hnode, dependency, _, hindex⟩ := mem_declared.1 ((edges_connect hnil h).1 hedge)
  unfold size
  rw [nodes_connect h]
  exact ⟨lt_size_of_index? hindex, (List.getElem?_eq_some_iff.1 hnode).1⟩

theorem known_of_connect {connected : DependencyGraph} (h : graph.connect = .ok connected) :
    ∀ node ∈ graph.nodes, ∀ name ∈ node.dependsOn,
      name ∈ graph.nodes.map DependencyNode.name := by
  unfold connect at h
  split at h
  · rename_i hmissing
    intro node hin name hname
    rw [← isSome_index?, Option.isSome_iff_ne_none]
    intro hnone
    refine (List.ne_nil_of_mem (a := (node.name, name)) ?_) hmissing
    exact List.mem_flatMap.2 ⟨node, hin, List.mem_map_of_mem (by simp [hname, hnone])⟩
  · cases h

/-- Edges that were there before make no difference where the nodes declare them. -/
theorem connected_of_declares {connected : DependencyGraph}
    (hold : ∀ edge ∈ graph.edges, Declares graph.nodes edge)
    (hnodup : (graph.nodes.map DependencyNode.name).Nodup) (h : graph.connect = .ok connected) :
    connected.Connected := by
  have hnodes := nodes_connect h
  refine ⟨hnodes ▸ hnodup, hnodes ▸ known_of_connect h, fun first second => ?_⟩
  rw [mem_edges_connect h, mem_declared_iff hnodup, or_iff_right_of_imp (hold _), hnodes]
  rfl

theorem connected_of_connect {connected : DependencyGraph} (hnil : graph.edges = [])
    (hnodup : (graph.nodes.map DependencyNode.name).Nodup) (h : graph.connect = .ok connected) :
    connected.Connected :=
  connected_of_declares (by simp [hnil]) hnodup h

namespace Connected

theorem nodup (hc : graph.Connected) : graph.nodes.Nodup := .of_map _ hc.names_nodup

theorem bounded (hc : graph.Connected) : graph.Bounded := by
  rintro ⟨first, second⟩ hedge
  obtain ⟨_, _, hfirst, hsecond, _⟩ := (hc.edges first second).1 hedge
  exact ⟨(List.getElem?_eq_some_iff.1 hfirst).1, (List.getElem?_eq_some_iff.1 hsecond).1⟩

end Connected

end EntityPipeline.DependencyGraph
