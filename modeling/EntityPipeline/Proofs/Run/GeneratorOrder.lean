-- The order of the composed generators. Each is composed after all it depends on, so the order they
-- were composed in is the order they are put in.
import EntityPipeline.Proofs.Graph.Sweep
import EntityPipeline.Proofs.Run.Calls

namespace EntityPipeline

variable {σ : Type}

/-- A call puts no generator into the catalog under another name than its own. -/
def Call.honest : Call σ → Prop
  | .offer name generator => generator.name = name
  | _ => True

namespace Scheduler

variable {s : Scheduler σ} {generators : List String}

/-! ## The graph -/

/-- The node of a composed generator. -/
def nodeOf (entry : String × Composed) : DependencyNode := ⟨entry.1, entry.2.dependsOn⟩

theorem nodes_foldl_add {composed : List (String × Composed)} {graph : DependencyGraph}
    (hn : (graph.nodes.map DependencyNode.name ++ composed.map Prod.fst).Nodup) :
    (composed.foldl (fun graph entry => (graph.add (nodeOf entry)).1) graph).nodes =
      graph.nodes ++ composed.map nodeOf := by
  induction composed generalizing graph with
  | nil => simp
  | cons entry rest ih =>
    have hnew : graph.index? entry.1 = none := by
      refine List.findIdx?_eq_none_iff.2 fun node hin => ?_
      rw [beq_eq_false_iff_ne]
      intro hname
      exact List.disjoint_of_nodup_append hn (List.mem_map_of_mem hin) (by simp [hname])
    have hadd : (graph.add (nodeOf entry)).1.nodes = graph.nodes ++ [nodeOf entry] := by
      rw [DependencyGraph.nodes_add]
      simp [nodeOf, hnew]
    rw [List.foldl_cons, ih]
    · simp [hadd]
    · rw [hadd]
      simpa [nodeOf] using hn

theorem nodes_graph (hn : s.generators.Nodup) : s.graph.nodes = s.composed.map nodeOf :=
  nodes_foldl_add (by simpa [generators] using hn)

theorem edges_graph (s : Scheduler σ) : s.graph.edges = [] := by
  have hnodes := DependencyGraph.edges_ofNodes (s.composed.map nodeOf)
  rwa [DependencyGraph.ofNodes, List.foldl_map] at hnodes

/-- An order has every composed generator once. -/
theorem perm_of_generatorOrder (hn : s.generators.Nodup) (h : s.generatorOrder = .ok generators) :
    generators.Perm s.generators := by
  unfold generatorOrder at h
  split at h
  · cases h
  · rename_i graph hconnect
    split at h
    · cases h
    · rename_i nodes hsorted
      cases h
      have hbounded := DependencyGraph.bounded_of_connect (edges_graph s) hconnect
      have hperm := DependencyGraph.perm_of_sorted hbounded hsorted
      rw [DependencyGraph.nodes_connect hconnect, nodes_graph hn] at hperm
      have hnames := hperm.map DependencyNode.name
      rwa [List.map_map] at hnames

/-! ## Layers -/

/-- Generators stand in the catalog under their own names. -/
def Honest (catalog : Catalog σ) : Prop := ∀ entry ∈ catalog, entry.2.name = entry.1

/-- Everything a composed generator depends on was composed before it. -/
structure Layered (scheduler : Scheduler σ) : Prop where
  catalog : Honest scheduler.catalog
  below : ∀ before name composed after, scheduler.composed = before ++ (name, composed) :: after →
    ∀ dependency ∈ composed.dependsOn, dependency ∈ before.map Prod.fst

theorem Honest.putUnder {catalog : Catalog σ} {name : String} {g : Generator σ}
    (h : Honest catalog) (hg : g.name = name) : Honest (putUnder name g catalog) := by
  induction catalog with
  | nil => simpa [EntityPipeline.putUnder, Honest] using hg
  | cons entry rest ih =>
    obtain ⟨hfirst, hrest⟩ := List.forall_mem_cons.1 h
    unfold EntityPipeline.putUnder
    split
    · rename_i hname
      exact List.forall_mem_cons.2 ⟨hg.trans (beq_iff_eq.1 hname).symm, hrest⟩
    · exact List.forall_mem_cons.2 ⟨hfirst, ih hrest⟩

/-- In an honest catalog, what provides a dependency is the dependency. -/
theorem Provides.mem_generators {dependency : String} (h : s.Provides dependency)
    (hc : Honest s.catalog) : dependency ∈ s.generators := by
  rcases h with h | ⟨g, hl, h⟩
  · exact Scheduler.mem_generators.2 h
  · obtain ⟨before, after, heq, _⟩ := List.lookup_eq_some_iff.1 hl
    have hname : g.name = dependency := hc (dependency, g) (by simp [heq])
    exact hname ▸ Scheduler.mem_generators.2 h

theorem Layered.enlist {t : Scheduler σ} {g : Generator σ} (h : s.Layered)
    (hd : ∀ d ∈ g.dependsOn, s.Provides d) (he : s.enlist g = .ok t) : t.Layered := by
  obtain ⟨_, rfl⟩ := enlist_eq he
  refine ⟨h.catalog, ?_⟩
  intro before name composed after heq dependency hdep
  rcases List.eq_nil_or_concat after with rfl | ⟨init, last, rfl⟩
  · obtain ⟨rfl, hlast⟩ := List.append_inj' heq rfl
    cases hlast
    exact (hd dependency hdep).mem_generators h.catalog
  · have hsplit : s.composed ++ [(g.name, ⟨g.dependsOn, false⟩)] =
        (before ++ (name, composed) :: init) ++ [last] := by simpa using heq
    have hinit := (List.append_inj' hsplit rfl).1
    exact h.below before name composed init hinit dependency hdep

theorem Layered.begun (h : s.Layered) : s.begun.Layered := by
  refine ⟨h.catalog, ?_⟩
  intro before name composed after heq dependency hdep
  obtain ⟨first, rest, hsplit, rfl, hrest⟩ := List.map_eq_append_iff.1 heq
  obtain ⟨entry, last, rfl, hentry, rfl⟩ := List.map_eq_cons_iff.1 hrest
  cases hentry
  have hbelow := h.below first entry.1 entry.2 last hsplit dependency hdep
  simpa using hbelow

/-- In a scheduler whose catalog is always honest, generators stay layered. -/
theorem layered_afterAll (h : s.Fresh) (hc : Honest s.catalog) {calls : List (Call σ)}
    (hcalls : ∀ call ∈ calls, call.honest) : (s.afterAll calls).Layered := by
  refine afterAll_induction Call.honest (fun _ _ _ hs _ hd he => hs.enlist hd he) ?_
    (fun _ _ _ hs hname => ⟨hs.catalog.putUnder hname, hs.below⟩) (fun _ hs => hs.begun) hcalls ?_
  · intro s t generator priority group hs hr
    unfold registerGroup at hr
    split at hr
    · cases hr
    · split at hr <;> cases hr
      exact ⟨hs.catalog, hs.below⟩
  · exact ⟨hc, by simp [h.composed]⟩

/-! ## Names and numbers -/

/-- In a list without repetitions, what stands before an entry has a smaller place. -/
theorem idxOf_lt_of_append {l before after : List String} {a b : String}
    (heq : l = before ++ a :: after) (hn : l.Nodup) (hb : b ∈ before) : l.idxOf b < l.idxOf a := by
  subst heq
  have hlater : a ∉ before := fun hin => List.disjoint_of_nodup_append hn hin List.mem_cons_self
  rw [List.idxOf_append_of_mem hb, List.idxOf_append_of_notMem hlater, List.idxOf_cons_self]
  exact Nat.lt_of_lt_of_le (List.idxOf_lt_length_iff.2 hb) (Nat.le_add_right _ _)

/-- What a composed generator depends on stands before it. -/
theorem Layered.idxOf_lt (h : s.Layered) (hn : s.generators.Nodup) {name dependency : String}
    {dependsOn : List String} (hname : s.dependsOn? name = some dependsOn)
    (hd : dependency ∈ dependsOn) : dependency ∈ s.generators ∧
      s.generators.idxOf dependency < s.generators.idxOf name := by
  obtain ⟨composed, hlookup, rfl⟩ := Option.map_eq_some_iff.1 hname
  obtain ⟨before, after, heq, hfirst⟩ := List.lookup_eq_some_iff.1 hlookup
  have hbelow := h.below before name composed after heq dependency hd
  have hgen : s.generators = before.map Prod.fst ++ name :: after.map Prod.fst := by
    simp [generators, heq]
  exact ⟨hgen ▸ List.mem_append_left _ hbelow, idxOf_lt_of_append hgen hn hbelow⟩

/-- The number of what a composed generator depends on is smaller than its own. -/
theorem Layered.index?_lt (h : s.Layered) (hn : s.generators.Nodup) {index : Nat}
    {node : DependencyNode} (hnode : s.graph.nodes[index]? = some node) {dependency : String}
    (hd : dependency ∈ node.dependsOn) :
    ∃ other, s.graph.index? dependency = some other ∧ other < index := by
  have hnodes := nodes_graph hn
  rw [hnodes, List.getElem?_map] at hnode
  obtain ⟨entry, hentry, rfl⟩ := Option.map_eq_some_iff.1 hnode
  obtain ⟨hlt, hget⟩ := List.getElem?_eq_some_iff.1 hentry
  -- nodes have the places of the generators they stand for
  have hsplit : s.composed = s.composed.take index ++ entry :: s.composed.drop (index + 1) := by
    rw [← hget, List.cons_getElem_drop_succ, List.take_append_drop]
  have hbelow := h.below _ entry.1 entry.2 _ hsplit dependency hd
  have hbefore : s.graph.nodes = (s.composed.take index).map nodeOf ++
      (entry :: s.composed.drop (index + 1)).map nodeOf := by
    rw [hnodes, ← List.map_append, ← hsplit]
  have hin : dependency ∈ ((s.composed.take index).map nodeOf).map DependencyNode.name := by
    rw [List.map_map]
    exact hbelow
  obtain ⟨other, hother, hless⟩ := DependencyGraph.index?_lt hbefore hin
  refine ⟨other, hother, Nat.lt_of_lt_of_le hless ?_⟩
  rw [List.length_map, List.length_take]
  exact Nat.min_le_left _ _

/-- Layered generators are in order as they were composed. -/
theorem Layered.generatorOrder_eq (h : s.Layered) (hn : s.generators.Nodup) :
    s.generatorOrder = .ok s.generators := by
  have hmissing : s.graph.missing = [] := by
    refine List.flatMap_eq_nil_iff.2 fun node hnode => ?_
    rw [List.map_eq_nil_iff, List.filter_eq_nil_iff]
    intro dependency hd
    obtain ⟨index, hlt, rfl⟩ := List.getElem_of_mem hnode
    obtain ⟨other, hother, _⟩ := h.index?_lt hn (List.getElem?_eq_getElem hlt) hd
    simp [hother]
  have hconnect : ∃ graph, s.graph.connect = .ok graph := by
    unfold DependencyGraph.connect
    rw [hmissing]
    exact ⟨_, rfl⟩
  obtain ⟨graph, hgraph⟩ := hconnect
  have hnil := edges_graph s
  have hforward : ∀ edge ∈ graph.edges, edge.1 < edge.2 := by
    intro edge hedge
    obtain ⟨node, hnode, dependency, hd, hindex⟩ := DependencyGraph.mem_declared.1
      ((DependencyGraph.edges_connect hnil hgraph).1 hedge)
    obtain ⟨other, hother, hlt⟩ := h.index?_lt hn hnode hd
    rw [hindex] at hother
    cases hother
    exact hlt
  have hsorted := DependencyGraph.sorted_of_forward
    (DependencyGraph.bounded_of_connect hnil hgraph) hforward
  unfold generatorOrder
  simp only [hgraph, hsorted, DependencyGraph.nodes_connect hgraph, nodes_graph hn]
  simp [generators, nodeOf]

end Scheduler

end EntityPipeline
