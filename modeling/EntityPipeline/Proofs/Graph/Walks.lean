-- Walks through a graph. What is reached from a node, and where walks of a length end, is found
-- step by step. There are only so many nodes, and so after as many steps nothing changes any more.
import EntityPipeline.Proofs.Graph.Building
import EntityPipeline.Proofs.Graph.Circles

namespace EntityPipeline

open Relation

/-- What grows with each step, until it stands still, stands still after as many steps as it can
grow by. -/
theorem still_of_bounded (size : Nat → Nat) (Still : Nat → Prop) {bound : Nat}
    (hbound : ∀ n, size n ≤ bound) (hgrows : ∀ n, size n < size (n + 1) ∨ Still n)
    (hstays : ∀ n, Still n → Still (n + 1)) : Still bound := by
  have hall : ∀ n, n ≤ size n ∨ Still n := by
    intro n
    induction n with
    | zero => exact Or.inl (Nat.zero_le _)
    | succ n ih =>
      rcases ih with hle | hstill
      · exact (hgrows n).imp (Nat.lt_of_le_of_lt hle) (hstays n)
      · exact Or.inr (hstays n hstill)
  rcases hall bound with hle | hstill
  · rcases hgrows bound with hlt | hstill
    · have := hbound (bound + 1)
      omega
    · exact hstill
  · exact hstill

namespace DependencyGraph

/-- An edge leads from one number to another. -/
def Leads (graph : DependencyGraph) (first second : Nat) : Prop := (first, second) ∈ graph.edges

variable {graph : DependencyGraph} {above more : List Nat} {start index other length : Nat}

theorem mem_below : index ∈ graph.below above ↔
    index < graph.size ∧ ∃ first ∈ above, graph.Leads first index := by
  unfold below Leads
  dsimp only
  rw [List.mem_filter, List.mem_range, List.contains_iff_mem, List.mem_map]
  simp only [List.mem_filter, List.contains_iff_mem, Prod.exists, exists_eq_right]
  exact and_congr_right fun _ => exists_congr fun first => and_comm

/-- From more nodes, more are led to. -/
theorem below_sublist (h : above ⊆ more) : (graph.below above).Sublist (graph.below more) := by
  refine List.monotone_filter_right _ fun index hin => ?_
  rw [List.contains_iff_mem, List.mem_map] at hin ⊢
  obtain ⟨edge, hedge, hindex⟩ := hin
  rw [List.mem_filter, List.contains_iff_mem] at hedge
  exact ⟨edge, List.mem_filter.2 ⟨hedge.1, List.contains_iff_mem.2 (h hedge.2)⟩, hindex⟩

theorem length_below_le (graph : DependencyGraph) (above : List Nat) :
    (graph.below above).length ≤ graph.size :=
  (List.length_filter_le _ _).trans_eq List.length_range

/-! ## What is reached -/

theorem reached_sublist (graph : DependencyGraph) (start length : Nat) :
    (graph.reached start length).Sublist (graph.reached start (length + 1)) := by
  induction length with
  | zero => exact List.nil_sublist _
  | succ length ih => exact below_sublist (List.cons_subset_cons start ih.subset)

/-- All that is reached at all is reached by walks with no more edges than there are nodes. -/
theorem reached_still (graph : DependencyGraph) (start : Nat) :
    graph.reached start (graph.size + 1) = graph.reached start graph.size := by
  refine still_of_bounded (fun length => (graph.reached start length).length)
    (fun length => graph.reached start (length + 1) = graph.reached start length)
    (fun length => ?_) (fun length => ?_) fun length hstill => ?_
  · cases length with
    | zero => exact Nat.zero_le _
    | succ length => exact length_below_le graph _
  · have hsub := reached_sublist graph start length
    rcases Nat.lt_or_eq_of_le hsub.length_le with hlt | heq
    · exact Or.inl hlt
    · exact Or.inr (hsub.eq_of_length heq).symm
  · exact congrArg (fun ends => graph.below (start :: ends)) hstill

theorem transGen_of_mem_reached (h : index ∈ graph.reached start length) :
    TransGen graph.Leads start index := by
  induction length generalizing index with
  | zero => cases h
  | succ length ih =>
    obtain ⟨-, first, hfirst, hleads⟩ := mem_below.1 h
    rcases List.mem_cons.1 hfirst with rfl | hin
    · exact .single hleads
    · exact (ih hin).tail hleads

theorem mem_reached_of_transGen (hb : graph.Bounded) (h : TransGen graph.Leads start index) :
    index ∈ graph.reached start graph.size := by
  induction h with
  | single hleads =>
    rw [← reached_still]
    exact mem_below.2 ⟨(hb _ hleads).2, _, List.mem_cons_self, hleads⟩
  | tail _ hleads ih =>
    rw [← reached_still]
    exact mem_below.2 ⟨(hb _ hleads).2, _, List.mem_cons_of_mem _ ih, hleads⟩

theorem mem_reached_iff (hb : graph.Bounded) :
    index ∈ graph.reached start graph.size ↔ TransGen graph.Leads start index :=
  ⟨transGen_of_mem_reached, mem_reached_of_transGen hb⟩

theorem reflTransGen_iff (hb : graph.Bounded) : ReflTransGen graph.Leads start index ↔
    index = start ∨ index ∈ graph.reached start graph.size := by
  rw [reflTransGen_iff_eq_or_transGen, mem_reached_iff hb]

/-- A node is found on a cycle just when it leads to itself. -/
theorem isCyclic_iff (hb : graph.Bounded) :
    graph.isCyclic index = true ↔ TransGen graph.Leads index index := by
  rw [isCyclic, List.contains_iff_mem, mem_reached_iff hb]

/-! ## Where walks end -/

theorem length_walkEnds_le (graph : DependencyGraph) (length : Nat) :
    (graph.walkEnds length).length ≤ graph.size := by
  cases length with
  | zero => exact List.length_range.le
  | succ length => exact length_below_le graph _

theorem walkEnds_sublist (graph : DependencyGraph) (length : Nat) :
    (graph.walkEnds (length + 1)).Sublist (graph.walkEnds length) := by
  induction length with
  | zero => exact List.filter_sublist
  | succ length ih => exact below_sublist ih.subset

/-- Where walks with as many edges end as there are nodes, longer ones end as well. -/
theorem walkEnds_still (graph : DependencyGraph) :
    graph.walkEnds (graph.size + 1) = graph.walkEnds graph.size := by
  refine still_of_bounded (fun length => graph.size - (graph.walkEnds length).length)
    (fun length => graph.walkEnds (length + 1) = graph.walkEnds length)
    (fun length => Nat.sub_le _ _) (fun length => ?_) fun length hstill => ?_
  · have hsub := walkEnds_sublist graph length
    have hle := length_walkEnds_le graph length
    rcases Nat.lt_or_eq_of_le hsub.length_le with hlt | heq
    · left
      omega
    · exact Or.inr (hsub.eq_of_length heq)
  · exact congrArg graph.below hstill

/-- On a cycle, walks of any length end. -/
theorem mem_walkEnds_of_cycle (hb : graph.Bounded) (h : TransGen graph.Leads index index) :
    index ∈ graph.walkEnds length := by
  induction length generalizing index with
  | zero =>
    obtain ⟨_, -, hleads⟩ := TransGen.tail'_iff.1 h
    exact List.mem_range.2 (hb _ hleads).2
  | succ length ih =>
    obtain ⟨before, hto, hleads⟩ := TransGen.tail'_iff.1 h
    exact mem_below.2 ⟨(hb _ hleads).2, before, ih (.head' hleads hto), hleads⟩

/-- There are long walks just when there is a cycle. -/
theorem hasCycles_iff (hb : graph.Bounded) :
    graph.hasCycles = true ↔ ∃ index, TransGen graph.Leads index index := by
  have hnonempty : graph.hasCycles = true ↔ graph.walkEnds graph.size ≠ [] := by
    simp [hasCycles]
  rw [hnonempty]
  constructor
  · intro hne
    have hstep : ∀ index ∈ graph.walkEnds graph.size,
        ∃ before ∈ graph.walkEnds graph.size, Function.swap graph.Leads index before := by
      intro index hin
      rw [← walkEnds_still] at hin
      exact (mem_below.1 hin).2
    obtain ⟨index, -, hcircle⟩ := exists_circle hne hstep
    exact ⟨index, transGen_swap.1 hcircle⟩
  · rintro ⟨index, hcircle⟩ hnil
    have hin : index ∈ graph.walkEnds graph.size := mem_walkEnds_of_cycle hb hcircle
    rw [hnil] at hin
    cases hin

end DependencyGraph

end EntityPipeline
