-- Graphs while they are built. Whatever is called on a graph, and whichever of the calls fail, a
-- node keeps the number that it was given, and the edges are just those that the nodes declare
-- which were there when edges were last added.
import EntityPipeline.Proofs.Graph.Building

namespace EntityPipeline.DependencyGraph

/-- What is called on a graph while it is built. -/
inductive Call where
  | add (node : DependencyNode)
  | connect
deriving DecidableEq, Repr

namespace Call

/-- The graph after a call. One that fails leaves it as it was. -/
def leave (graph : DependencyGraph) : Call → DependencyGraph
  | .add node => (graph.add node).1
  | .connect => graph.connect.toOption.getD graph

/-- The node that a call brings. -/
def brings? : Call → Option DependencyNode
  | .add node => some node
  | .connect => none

end Call

/-- An empty graph after calls. -/
def afterCalls (calls : List Call) : DependencyGraph := calls.foldl Call.leave {}

/-- The nodes that calls bring, in order. -/
def broughtBy (calls : List Call) : List DependencyNode := calls.filterMap Call.brings?

/-- Edges can be added after calls. -/
def Connects (calls : List Call) : Prop := ∃ connected, (afterCalls calls).connect = .ok connected

/-- What nodes depend on and none of them is: for each node in order, what it names in order. -/
def lackedBy (nodes : List DependencyNode) : List (String × String) :=
  nodes.flatMap fun node =>
    (node.dependsOn.filter fun name => name ∉ nodes.map DependencyNode.name).map (node.name, ·)

variable {graph connected : DependencyGraph} {node other : DependencyNode} {call : Call}
  {calls before after : List Call} {edge : Nat × Nat} {error : GraphError} {index : Nat}

/-! ## What a call does -/

theorem missing_eq (graph : DependencyGraph) : graph.missing = lackedBy graph.nodes := by
  unfold missing lackedBy
  refine List.flatMap_congr fun node _ => congrArg _ (List.filter_congr fun name _ => ?_)
  rw [← Option.not_isSome, Bool.eq_iff_iff]
  simp only [Bool.not_eq_true', Bool.eq_false_iff, ne_eq, isSome_index?, decide_eq_true_eq]

/-- Adding edges fails just where something is lacked, and tells all of that. -/
theorem connect_eq_error : graph.connect = .error error ↔
    lackedBy graph.nodes ≠ [] ∧ error = .missing (lackedBy graph.nodes) := by
  unfold connect
  rw [missing_eq]
  split
  · rename_i hnone
    simp [hnone]
  · rename_i hsome
    rw [Except.error.injEq, eq_comm]
    exact (and_iff_right hsome).symm

theorem leave_connect_of_ok (h : graph.connect = .ok connected) :
    Call.connect.leave graph = connected := by
  unfold Call.leave
  rw [h]
  rfl

theorem leave_connect_of_error (h : graph.connect = .error error) :
    Call.connect.leave graph = graph := by
  unfold Call.leave
  rw [h]
  rfl

/-- A node with a name that is known changes nothing. -/
theorem add_of_known (h : graph.index? node.name = some index) :
    graph.add node = (graph, index) := by
  unfold add
  rw [h]

/-- A node with a new name comes last. -/
theorem add_of_new (h : node.name ∉ graph.nodes.map DependencyNode.name) :
    graph.add node = ({ graph with nodes := graph.nodes ++ [node] }, graph.size) := by
  have hnone : graph.index? node.name = none := by
    rw [← Option.not_isSome_iff_eq_none, isSome_index?]
    exact h
  unfold add
  rw [hnone]

/-- No call takes a node away or moves one. -/
theorem nodes_leave (graph : DependencyGraph) (call : Call) :
    graph.nodes <+: (call.leave graph).nodes := by
  cases call with
  | add node =>
    unfold Call.leave
    rw [nodes_add]
    split
    · exact List.prefix_rfl
    · exact List.prefix_append _ _
  | connect =>
    have hnodes : (Call.connect.leave graph).nodes = graph.nodes := by
      cases h : graph.connect with
      | error error => rw [leave_connect_of_error h]
      | ok connected => rw [leave_connect_of_ok h, nodes_connect h]
    exact hnodes ▸ List.prefix_rfl

theorem getElem?_of_prefix {nodes more : List DependencyNode} (h : nodes <+: more)
    (hnode : nodes[index]? = some node) : more[index]? = some node := by
  obtain ⟨hlt, rfl⟩ := List.getElem?_eq_some_iff.1 hnode
  exact List.prefix_iff_getElem?.1 h index hlt

theorem Declares.mono {nodes more : List DependencyNode} (h : Declares nodes edge)
    (hmore : nodes <+: more) : Declares more edge := by
  obtain ⟨dependency, node, hdependency, hnode, hname⟩ := h
  exact ⟨dependency, node, getElem?_of_prefix hmore hdependency,
    getElem?_of_prefix hmore hnode, hname⟩

theorem nodup_foldl_addEdge {edges added : List (Nat × Nat)} (h : edges.Nodup) :
    (added.foldl addEdge edges).Nodup := by
  induction added generalizing edges with
  | nil => exact h
  | cons first rest ih =>
    refine ih ?_
    unfold addEdge
    split
    · exact h
    · rename_i hnew
      exact h.append (List.nodup_singleton _) (by simpa using hnew)

/-! ## What holds all along -/

/-- The nodes are the first of each name among those that were brought, and each edge is there once
and is declared by them. -/
structure Accounts (graph : DependencyGraph) (added : List DependencyNode) : Prop where
  collects : graph.Collects added
  edges_nodup : graph.edges.Nodup
  declared : ∀ edge ∈ graph.edges, Declares graph.nodes edge

theorem Accounts.leave {added : List DependencyNode} (h : graph.Accounts added) (call : Call) :
    (call.leave graph).Accounts (added ++ call.brings?.toList) := by
  cases call with
  | add node =>
    have hedges : ((Call.add node).leave graph).edges = graph.edges := edges_add graph node
    refine ⟨h.collects.add node, hedges ▸ h.edges_nodup, hedges ▸ fun edge hedge => ?_⟩
    exact (h.declared edge hedge).mono (nodes_leave graph (.add node))
  | connect =>
    rw [Call.brings?.eq_def, Option.toList_none, List.append_nil]
    cases hconnect : graph.connect with
    | error error =>
      rw [leave_connect_of_error hconnect]
      exact h
    | ok connected =>
      rw [leave_connect_of_ok hconnect]
      have hnodes := nodes_connect hconnect
      have hc := connected_of_declares h.declared h.collects.names_nodup hconnect
      refine ⟨⟨hc.names_nodup, hnodes ▸ h.collects.in_order, fun name => ?_⟩, ?_,
        fun edge hedge => (hc.edges edge.1 edge.2).1 hedge⟩
      · rw [← h.collects.first, node?, node?, hnodes]
      · unfold connect at hconnect
        split at hconnect <;> cases hconnect
        exact nodup_foldl_addEdge h.edges_nodup

theorem afterCalls_concat (calls : List Call) (call : Call) :
    afterCalls (calls ++ [call]) = call.leave (afterCalls calls) := by
  simp [afterCalls]

theorem afterCalls_append (calls rest : List Call) :
    afterCalls (calls ++ rest) = rest.foldl Call.leave (afterCalls calls) := by
  simp [afterCalls]

theorem accounts_afterCalls (calls : List Call) :
    (afterCalls calls).Accounts (broughtBy calls) := by
  induction calls using List.reverseRecOn with
  | nil => exact ⟨⟨List.nodup_nil, .slnil, fun _ => rfl⟩, List.nodup_nil, List.forall_mem_nil _⟩
  | append_singleton init last ih =>
    have hbrought : broughtBy (init ++ [last]) = broughtBy init ++ last.brings?.toList := by
      unfold broughtBy
      cases last <;> simp [Call.brings?]
    rw [afterCalls_concat, hbrought]
    exact ih.leave last

theorem nodes_afterCalls_append (calls rest : List Call) :
    (afterCalls calls).nodes <+: (afterCalls (calls ++ rest)).nodes := by
  induction rest using List.reverseRecOn with
  | nil => exact (List.append_nil calls).symm ▸ List.prefix_rfl
  | append_singleton init last ih =>
    rw [← List.append_assoc, afterCalls_concat]
    exact ih.trans (nodes_leave _ _)

/-! ## When edges are added -/

/-- A graph gets no edge from calls that cannot add any. -/
theorem edges_afterCalls_append (before after : List Call)
    (hnone : ∀ middle rest, after = middle ++ .connect :: rest → ¬Connects (before ++ middle)) :
    (afterCalls (before ++ after)).edges = (afterCalls before).edges := by
  induction after using List.reverseRecOn with
  | nil => rw [List.append_nil]
  | append_singleton init last ih =>
    have hinit := ih fun middle rest heq => hnone middle (rest ++ [last]) (by simp [heq])
    rw [← List.append_assoc, afterCalls_concat]
    cases last with
    | add node => exact (edges_add _ _).trans hinit
    | connect =>
      cases hconnect : (afterCalls (before ++ init)).connect with
      | ok connected => exact absurd ⟨connected, hconnect⟩ (hnone init [] rfl)
      | error error => rw [leave_connect_of_error hconnect, hinit]

/-- When edges are added, they are those that the nodes declare. -/
theorem mem_edges_of_connects (h : Connects calls) :
    edge ∈ (afterCalls (calls ++ [.connect])).edges ↔ Declares (afterCalls calls).nodes edge := by
  obtain ⟨connected, hconnect⟩ := h
  have haccounts := accounts_afterCalls calls
  have hc := connected_of_declares haccounts.declared haccounts.collects.names_nodup hconnect
  rw [afterCalls_concat, leave_connect_of_ok hconnect, ← nodes_connect hconnect]
  exact hc.edges edge.1 edge.2

/-! ## All calls -/

/-- What is true of a graph after calls. -/
structure KeepsAccount (calls : List Call) : Prop where
  collects : (afterCalls calls).Collects (broughtBy calls)
  /-- The first node of a name has its number for ever, and others of that name get the same. -/
  first : ∀ before node after, calls = before ++ .add node :: after →
    node.name ∉ (broughtBy before).map DependencyNode.name →
    ((afterCalls before).add node).2 = (afterCalls before).size ∧
    (afterCalls calls).nodes[(afterCalls before).size]? = some node ∧
    ∀ other : DependencyNode, other.name = node.name →
      (afterCalls calls).add other = (afterCalls calls, (afterCalls before).size)
  edges_nodup : (afterCalls calls).edges.Nodup
  /-- There is no edge before any could be added. -/
  edges_none : (∀ before after, calls = before ++ .connect :: after → ¬Connects before) →
    (afterCalls calls).edges = []
  /-- The edges are those declared by the nodes that were there when edges were last added. -/
  edges_last : ∀ before after, calls = before ++ .connect :: after → Connects before →
    (∀ middle rest, after = middle ++ .connect :: rest →
      ¬Connects (before ++ .connect :: middle)) →
    ∀ edge, edge ∈ (afterCalls calls).edges ↔ Declares (afterCalls before).nodes edge
  /-- Edges cannot be added just where a dependency is missing, and all of these are told. -/
  fails : ∀ error, (afterCalls calls).connect = .error error ↔
    lackedBy (afterCalls calls).nodes ≠ [] ∧ error = .missing (lackedBy (afterCalls calls).nodes)
  /-- Then the call is as good as not made. -/
  failed : ¬Connects calls → ∀ rest,
    afterCalls (calls ++ .connect :: rest) = afterCalls (calls ++ rest)

theorem mem_names_of_collects {added : List DependencyNode} (h : graph.Collects added)
    {name : String} (hname : name ∈ graph.nodes.map DependencyNode.name) :
    name ∈ added.map DependencyNode.name :=
  (h.in_order.map _).subset hname

/-- Over any calls on an empty graph, whichever of them fail: names differ, and the first node of a
name keeps its number and what it depends on. The edges are, each once, those declared by the nodes
that were there when edges were last added. Where a dependency is missing no edge is added, and all
that is missing is told. -/
theorem built_graphs_keep_account (calls : List Call) : KeepsAccount calls := by
  have haccounts := accounts_afterCalls calls
  refine ⟨haccounts.collects, ?_, haccounts.edges_nodup, ?_, ?_, fun _ => connect_eq_error, ?_⟩
  · rintro before node after rfl hnew
    have hbefore := accounts_afterCalls before
    have hadd := add_of_new (mt (mem_names_of_collects hbefore.collects) hnew)
    have hplace : (afterCalls (before ++ .add node :: after)).nodes[(afterCalls before).size]? =
        some node := by
      have hlater := nodes_afterCalls_append (before ++ [.add node]) after
      rw [List.append_assoc, List.singleton_append] at hlater
      refine getElem?_of_prefix hlater ?_
      rw [afterCalls_concat, Call.leave, hadd]
      exact List.getElem?_concat_length
    refine ⟨by rw [hadd], hplace, fun other hname => add_of_known ?_⟩
    exact (index?_eq_some_iff haccounts.collects.names_nodup).2 ⟨node, hplace, hname.symm⟩
  · intro hnone
    exact edges_afterCalls_append [] calls hnone
  · rintro before after rfl hconnects hlast edge
    have hedges := edges_afterCalls_append (before ++ [.connect]) after
      fun middle rest heq => by simpa using hlast middle rest heq
    rw [List.append_assoc, List.singleton_append] at hedges
    rw [hedges, mem_edges_of_connects hconnects]
  · intro hfails rest
    cases hconnect : (afterCalls calls).connect with
    | ok connected => exact absurd ⟨connected, hconnect⟩ hfails
    | error error =>
      rw [afterCalls_append, List.foldl_cons, leave_connect_of_error hconnect, afterCalls_append]

-- what is missing is told as often as it is named, and a second node of a name is forgotten
example :
    let calls : List Call := [.add ⟨"web", ["db", "core", "db"]⟩, .add ⟨"docs", ["web", "core"]⟩]
    (afterCalls calls).connect = .error (.missing [("web", "db"), ("web", "core"), ("web", "db"),
      ("docs", "core")]) ∧
    (afterCalls (calls ++ [.connect, .add ⟨"db", []⟩, .add ⟨"core", []⟩, .add ⟨"db", ["docs"]⟩,
      .connect])).edges = [(2, 0), (3, 0), (0, 1), (3, 1)] := by
  decide +kernel

end EntityPipeline.DependencyGraph
