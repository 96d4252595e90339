-- Graphs of named nodes that depend on one another. Nodes are numbered in the order they were
-- added. A graph without cycles has an order in which every node follows what it depends on; among
-- the nodes that could come next, the one added first does.
import EntityPipeline.Failure

namespace EntityPipeline

/-- A node and the names it depends on. -/
structure DependencyNode where
  name : String
  dependsOn : List String
deriving DecidableEq, Repr, Inhabited

/-- Nodes, and edges that each lead from a dependency to a node that depends on it. -/
structure DependencyGraph where
  nodes : List DependencyNode := []
  edges : List (Nat × Nat) := []
deriving DecidableEq, Repr, Inhabited

/-- Why a graph has no order. -/
inductive GraphError where
  | cycle (members : List String)
  | missing (pairs : List (String × String))
deriving DecidableEq, Repr, Inhabited

namespace GraphError

/-- The wording of an error. -/
def message : GraphError → String
  | .cycle members => "Cycle detected in dependency graph: " ++ " -> ".intercalate members
  | .missing pairs =>
    "Missing dependencies: " ++ ", ".intercalate (pairs.map fun (node, dependency) =>
      Failure.named node ++ " depends on missing " ++ Failure.named dependency)

/-- The failure of a run that an error leads to; of missing dependencies, the first counts. -/
def toFailure : GraphError → Failure
  | .cycle members => .cyclicDependency members
  | .missing [] => .unknownGenerator "" (some "")
  | .missing ((node, dependency) :: _) => .unknownGenerator dependency (some node)

end GraphError

namespace DependencyGraph

/-! ## Building -/

/-- The number of a name. -/
def index? (graph : DependencyGraph) (name : String) : Option Nat :=
  graph.nodes.findIdx? (·.name == name)

/-- The node of a name. -/
def node? (graph : DependencyGraph) (name : String) : Option DependencyNode :=
  graph.nodes.find? (·.name == name)

/-- The number of nodes. -/
def size (graph : DependencyGraph) : Nat := graph.nodes.length

/-- The graph with a node and the number of the node; a name that is known keeps its node. -/
def add (graph : DependencyGraph) (node : DependencyNode) : DependencyGraph × Nat :=
  match graph.index? node.name with
  | some index => (graph, index)
  | none => ({ graph with nodes := graph.nodes ++ [node] }, graph.size)

/-- A known name leaves the graph as it is; a new node is the last one. -/
theorem nodes_add (graph : DependencyGraph) (node : DependencyNode) :
    (graph.add node).1.nodes =
      if (graph.index? node.name).isSome then graph.nodes else graph.nodes ++ [node] := by
  unfold add
  split <;> simp [*]

/-- A node that is added gets no edge yet. -/
theorem edges_add (graph : DependencyGraph) (node : DependencyNode) :
    (graph.add node).1.edges = graph.edges := by
  unfold add
  split <;> rfl

/-- The declared dependencies without a node, each after the node that declares it. -/
def missing (graph : DependencyGraph) : List (String × String) :=
  graph.nodes.flatMap fun node =>
    (node.dependsOn.filter fun dependency => (graph.index? dependency).isNone).map
      fun dependency => (node.name, dependency)

/-- The edges that the nodes declare. -/
def declared (graph : DependencyGraph) : List (Nat × Nat) :=
  graph.nodes.zipIdx.flatMap fun (node, index) =>
    node.dependsOn.filterMap fun dependency =>
      (graph.index? dependency).map fun other => (other, index)

/-- Adds an edge unless it is there. -/
def addEdge (edges : List (Nat × Nat)) (edge : Nat × Nat) : List (Nat × Nat) :=
  if edges.contains edge then edges else edges ++ [edge]

/-- An edge that is added is there. -/
theorem mem_addEdge (edges : List (Nat × Nat)) (edge other : Nat × Nat) :
    other ∈ addEdge edges edge ↔ other ∈ edges ∨ other = edge := by
  unfold addEdge
  split
  · rename_i h
    have := List.contains_iff_mem.1 h
    constructor
    · exact Or.inl
    · rintro (h | rfl) <;> assumption
  · simp

/-- The graph with the edges that its nodes declare; a missing dependency adds no edge at all. -/
def connect (graph : DependencyGraph) : Except GraphError DependencyGraph :=
  match graph.missing with
  | [] => .ok { graph with edges := graph.declared.foldl addEdge graph.edges }
  | pairs => .error (.missing pairs)

/-- Edges are added between the nodes that are there. -/
theorem nodes_connect {graph connected : DependencyGraph} (h : graph.connect = .ok connected) :
    connected.nodes = graph.nodes := by
  unfold connect at h
  split at h <;> cases h
  rfl

/-! ## Cycles -/

/-- The nodes that an edge from some node of a list leads to. -/
def below (graph : DependencyGraph) (above : List Nat) : List Nat :=
  let targets := (graph.edges.filter fun edge => above.contains edge.1).map Prod.snd
  (List.range graph.size).filter targets.contains

/-- The ends of all walks of a length. -/
def walkEnds (graph : DependencyGraph) : Nat → List Nat
  | 0 => List.range graph.size
  | length + 1 => graph.below (graph.walkEnds length)

/-- Whether there is a cycle: some walk has as many edges as there are nodes. -/
def hasCycles (graph : DependencyGraph) : Bool := !(graph.walkEnds graph.size).isEmpty

/-- The nodes reached from a node by walks of at least one and at most so many edges. -/
def reached (graph : DependencyGraph) (start : Nat) : Nat → List Nat
  | 0 => []
  | length + 1 => graph.below (start :: graph.reached start length)

/-- Whether a node depends on itself, directly or through others. -/
def isCyclic (graph : DependencyGraph) (index : Nat) : Bool :=
  (graph.reached index graph.size).contains index

/-- The nodes with given numbers. -/
def nodesAt (graph : DependencyGraph) (indices : List Nat) : List DependencyNode :=
  indices.filterMap fun index => graph.nodes[index]?

/-- The names of the nodes that depend on themselves. -/
def cycleMembers (graph : DependencyGraph) : List String :=
  (graph.nodesAt ((List.range graph.size).filter graph.isCyclic)).map DependencyNode.name

/-! ## Order -/

/-- A search for an order: for each node the number of its dependencies still to come, the nodes
that may come next, and those that came. -/
structure Sweep where
  pending : List Int
  ready : List Nat
  order : List Nat
deriving DecidableEq, Repr, Inhabited

namespace Sweep

/-- Counts one dependency of a node as come; a node without any more may come next. -/
def lower (sweep : Sweep) (index : Nat) : Sweep :=
  let left := sweep.pending[index]?.getD 0 - 1
  { sweep with
    pending := sweep.pending.set index left
    ready := if left == 0 then sweep.ready ++ [index] else sweep.ready }

/-- Lets a node come next. -/
def place (sweep : Sweep) (index : Nat) : Sweep :=
  { sweep with ready := sweep.ready.erase index, order := sweep.order ++ [index] }

end Sweep

/-- The number of dependencies of a node. -/
def dependencyCount (graph : DependencyGraph) (index : Nat) : Nat :=
  (graph.edges.filter (·.2 == index)).length

/-- The nodes that depend on a node. -/
def dependents (graph : DependencyGraph) (index : Nat) : List Nat :=
  (graph.edges.filter (·.1 == index)).map Prod.snd

/-- The beginning of a search: nodes without dependencies may come next. -/
def startSweep (graph : DependencyGraph) : Sweep where
  pending := (List.range graph.size).map fun index => graph.dependencyCount index
  ready := (List.range graph.size).filter fun index => graph.dependencyCount index == 0
  order := []

/-- A search after so many nodes: each time the node added first comes next. -/
def sweep (graph : DependencyGraph) : Nat → Sweep → Sweep
  | 0, state => state
  | steps + 1, state =>
    match state.ready.min? with
    | none => state
    | some index =>
      graph.sweep steps ((graph.dependents index).foldl Sweep.lower (state.place index))

/-- The nodes in order, each after all it depends on; a cycle leaves nodes without a place. -/
def sorted (graph : DependencyGraph) : Except GraphError (List DependencyNode) :=
  let order := (graph.sweep graph.size graph.startSweep).order
  if order.length == graph.size then .ok (graph.nodesAt order)
  else .error (.cycle graph.cycleMembers)

end DependencyGraph

end EntityPipeline
