-- The places of priorities in a resolved order. An order holds each priority of its plan once,
-- those with a place of their own as they were given. What leads to a priority stands in one block
-- directly before it, and of those on one anchor the last one declared stands next to the anchor.
import EntityPipeline.Proofs.Run.AnchorForest
import Mathlib.Data.List.Infix

namespace EntityPipeline

namespace PriorityPlan

variable {plan : PriorityPlan} {order : PriorityOrder} {p q : Priority} {k : Nat}

/-! ## What an order means for its plan -/

theorem distinct_of_resolve (h : plan.resolve = .ok order) : plan.Distinct := by
  unfold resolve at h
  split at h
  · cases h
  · rename_i hnone
    exact ((firstRepeated_eq_none _ _).1 hnone).1

theorem priorities_of_resolve (h : plan.resolve = .ok order) : order.priorities = plan.placed := by
  unfold resolve at h
  split at h
  · cases h
  · split at h
    · cases h
    · cases h
      rfl

/-- A plan with an order places every priority. -/
theorem mem_placed_of_resolve (h : plan.resolve = .ok order) (hp : p ∈ plan.all) :
    ∃ k, plan.Level k p := by
  have hd := distinct_of_resolve h
  rcases List.mem_append.1 hp with hf | hc
  · exact ⟨0, .root (mem_roots.2 (Or.inl hf))⟩
  · unfold resolve at h
    split at h
    · cases h
    · split at h
      · cases h
      · rename_i hplaced
        -- a priority without a place would have been reported
        have hin : p.name ∈ plan.placed.map Priority.name := by
          have := List.find?_eq_none.1 hplaced p hc
          simpa using this
        obtain ⟨q, hq, hname⟩ := List.mem_map.1 hin
        obtain ⟨k, hk⟩ := (mem_placed hd).1 hq
        cases eq_of_name_eq hd hk.mem_all hp hname
        exact ⟨k, hk⟩

/-! ## Each priority once -/

theorem nodup_all (hd : plan.Distinct) : plan.all.Nodup := List.Nodup.of_map _ hd

/-- Of distinct priorities on one level, the blocks have nothing in common. -/
theorem nodup_blocks (hd : plan.Distinct) {l : List Priority} (hl : l.Nodup)
    (hlevel : ∀ p ∈ l, plan.Level k p) (hblock : ∀ p ∈ l, (plan.block p).Nodup) :
    (l.flatMap plan.block).Nodup := by
  refine List.nodup_flatMap.2 ⟨hblock, hl.imp_of_mem ?_⟩
  intro p r hp hr hne q hqp hqr
  apply hne
  exact (hlevel p hp).eq_of_reach hd (hlevel r hr) ((mem_block hd (hlevel p hp)).1 hqp)
    ((mem_block hd (hlevel r hr)).1 hqr)

/-- The blocks of those anchored on a priority hold what leads to it. -/
theorem mem_anchored_blocks (hd : plan.Distinct) (h : plan.Level k p) :
    q ∈ (plan.anchoredOn p.name).flatMap plan.block ↔ plan.LeadsTo q p := by
  rw [List.mem_flatMap, LeadsTo, Relation.TransGen.tail'_iff]
  constructor
  · rintro ⟨r, hr, hq⟩
    have ha := (mem_anchoredOn h.mem_all).1 hr
    exact ⟨r, (mem_block hd (.anchored h ha)).1 hq, ha⟩
  · rintro ⟨r, hq, ha⟩
    exact ⟨r, (mem_anchoredOn h.mem_all).2 ha, (mem_block hd (.anchored h ha)).2 hq⟩

theorem nodup_block (hd : plan.Distinct) (h : plan.Level k p) : (plan.block p).Nodup := by
  refine Level.induction hd (motive := fun p => (plan.block p).Nodup) ?_ h
  intro k p h ih
  rw [block_eq hd h]
  refine List.Nodup.append ?_ (List.nodup_singleton p) ?_
  · apply nodup_blocks (k := k + 1) hd
    · exact ((nodup_all hd).sublist (List.sublist_append_right _ _)).filter _
    · exact fun q hq => .anchored h ((mem_anchoredOn h.mem_all).1 hq)
    · exact fun q hq => ih q ((mem_anchoredOn h.mem_all).1 hq)
  · rw [List.disjoint_singleton]
    -- a priority among those that lead to it would stand on two levels
    intro hin
    obtain ⟨n, hn, hp⟩ := h.of_leadsTo ((mem_anchored_blocks hd h).1 hin)
    have := h.unique hd hp
    omega

theorem nodup_placed (hd : plan.Distinct) : plan.placed.Nodup := by
  rw [placed_eq]
  apply nodup_blocks (k := 0) hd
  · exact (nodup_all hd).sublist ((List.Sublist.refl _).append List.filter_sublist)
  · exact fun p hp => .root hp
  · exact fun p hp => nodup_block hd (.root hp)

/-- An order holds what its plan gives, each priority once. -/
theorem perm_of_resolve (h : plan.resolve = .ok order) : order.priorities.Perm plan.all := by
  have hd := distinct_of_resolve h
  rw [priorities_of_resolve h]
  apply (List.perm_ext_iff_of_nodup (nodup_placed hd) (nodup_all hd)).2
  intro p
  rw [mem_placed hd]
  exact ⟨fun ⟨_, hk⟩ => hk.mem_all, mem_placed_of_resolve h⟩

theorem nodup_names_of_resolve (h : plan.resolve = .ok order) : order.names.Nodup :=
  ((perm_of_resolve h).map Priority.name).nodup_iff.2 (distinct_of_resolve h)

/-! ## Blocks in the order -/

/-- Items that end the parts of a list stand in it in their order. -/
theorem sublist_flatMap_of_ends {α : Type} {f : α → List α} {l : List α}
    (h : ∀ a ∈ l, ∃ before, f a = before ++ [a]) : l.Sublist (l.flatMap f) := by
  induction l with
  | nil => exact List.Sublist.slnil
  | cons a rest ih =>
    obtain ⟨before, hf⟩ := h a List.mem_cons_self
    rw [List.flatMap_cons, hf, List.append_assoc]
    refine List.Sublist.trans ?_ (List.sublist_append_right _ _)
    exact (ih fun b hb => h b (List.mem_cons_of_mem _ hb)).cons_cons a

/-- A block is one piece of what is placed. -/
theorem block_infix_placed (hd : plan.Distinct) (h : plan.Level k p) :
    plan.block p <:+: plan.placed := by
  induction h with
  | root h =>
    obtain ⟨before, after, heq⟩ := List.append_of_mem h
    exact ⟨before.flatMap plan.block, after.flatMap plan.block, by simp [placed_eq, heq]⟩
  | @anchored k p q hp ha ih =>
    refine List.IsInfix.trans ?_ ih
    obtain ⟨before, after, heq⟩ := List.append_of_mem ((mem_anchoredOn hp.mem_all).2 ha)
    refine ⟨before.flatMap plan.block, after.flatMap plan.block ++ [p], ?_⟩
    rw [block_eq hd hp, heq]
    simp

/-- The last one declared on an anchor stands directly before it. -/
theorem last_before_anchor (hd : plan.Distinct) (h : plan.Level k p)
    (hq : q ∈ (plan.anchoredOn p.name).getLast?) : [q, p] <:+: plan.placed := by
  refine List.IsInfix.trans (List.IsSuffix.isInfix ?_) (block_infix_placed hd h)
  obtain ⟨others, heq⟩ := List.getLast?_eq_some_iff.1 hq
  have ha : plan.Anchored q p := (mem_anchoredOn h.mem_all).1 (List.mem_of_mem_getLast? hq)
  refine ⟨others.flatMap plan.block ++ (plan.anchoredOn q.name).flatMap plan.block, ?_⟩
  rw [block_eq hd h, heq, List.flatMap_append, List.flatMap_singleton,
    block_eq hd (.anchored h ha)]
  simp

/-- Those anchored on a priority stand in the order they were declared in. -/
theorem anchoredOn_sublist_placed (hd : plan.Distinct) (h : plan.Level k p) :
    (plan.anchoredOn p.name).Sublist plan.placed := by
  refine List.Sublist.trans ?_ (block_infix_placed hd h).sublist
  rw [block_eq hd h]
  refine List.Sublist.trans ?_ (List.sublist_append_left _ _)
  apply sublist_flatMap_of_ends
  intro q hq
  exact ⟨_, block_eq hd (.anchored h ((mem_anchoredOn h.mem_all).1 hq))⟩

end PriorityPlan

/-- Where a priority stands among priorities of distinct names. -/
theorem PriorityOrder.position?_of_split {order : PriorityOrder} {before after : List Priority}
    {p : Priority} (hn : order.names.Nodup) (h : order.priorities = before ++ p :: after) :
    order.position? p.name = some before.length := by
  unfold names at hn
  rw [h, List.map_append, List.map_cons] at hn
  unfold position?
  rw [h, List.findIdx?_append, List.findIdx?_eq_none_iff.2]
  · simp [List.findIdx?_cons]
  · intro q hq
    have hdisj := List.disjoint_of_nodup_append hn (List.mem_map_of_mem hq)
    simp only [beq_eq_false_iff_ne]
    exact fun hname => hdisj (hname ▸ List.mem_cons_self)

/-! ## The law -/

/-- How an order stands to the plan it is made of. -/
structure PriorityOrder.Arranges (order : PriorityOrder) (plan : PriorityPlan) : Prop where
  /-- Every priority of the plan is there once, unchanged, and no name is there twice. -/
  once : order.priorities.Perm plan.all ∧ order.names.Nodup
  /-- The priorities with a place of their own keep their order. -/
  roots : plan.roots.Sublist order.priorities
  /-- What leads to a priority stands in one piece directly before it. -/
  block : ∀ p ∈ plan.all, ∃ before block after,
    order.priorities = before ++ (block ++ [p]) ++ after ∧ ∀ q, q ∈ block ↔ plan.LeadsTo q p
  /-- Priorities on one anchor stand as declared, the last of them next to the anchor. -/
  siblings : ∀ p ∈ plan.all, (plan.anchoredOn p.name).Sublist order.priorities ∧
    ∀ q ∈ (plan.anchoredOn p.name).getLast?, [q, p] <:+: order.priorities
  /-- A custom priority with an anchor comes before it. -/
  before_anchor : ∀ q ∈ plan.custom, ∀ anchor, q.before = some anchor →
    ∃ i j, order.position? q.name = some i ∧ order.position? anchor = some j ∧ i < j

namespace PriorityPlan

variable {plan : PriorityPlan} {order : PriorityOrder} {p q : Priority}

/-- What leads to a priority stands before it in one piece. -/
theorem exists_block (h : plan.resolve = .ok order) (hp : p ∈ plan.all) :
    ∃ before block after, order.priorities = before ++ (block ++ [p]) ++ after ∧
      ∀ q, q ∈ block ↔ plan.LeadsTo q p := by
  have hd := distinct_of_resolve h
  obtain ⟨k, hk⟩ := mem_placed_of_resolve h hp
  obtain ⟨before, after, heq⟩ := block_infix_placed hd hk
  refine ⟨before, (plan.anchoredOn p.name).flatMap plan.block, after, ?_, ?_⟩
  · rw [priorities_of_resolve h, ← heq, block_eq hd hk]
  · exact fun q => mem_anchored_blocks hd hk

/-- In a plan with an order, every anchor is one of its priorities. -/
theorem anchored_of_before (h : plan.resolve = .ok order) (hq : q ∈ plan.custom) {anchor : String}
    (hb : q.before = some anchor) : ∃ p, plan.Anchored q p ∧ p.name = anchor := by
  have hd := distinct_of_resolve h
  obtain ⟨k, hk⟩ := mem_placed_of_resolve h (List.mem_append_right _ hq)
  cases hk with
  | root hr =>
    rcases mem_roots.1 hr with hf | ⟨_, hnone⟩
    · have hnames := nodup_all hd
      exact absurd hq (List.disjoint_of_nodup_append hnames hf)
    · rw [hnone] at hb
      cases hb
  | @anchored _ p _ _ ha =>
    have hname := ha.2.2.symm.trans hb
    exact ⟨p, ha, by simpa using hname⟩

theorem position_lt_anchor (h : plan.resolve = .ok order) (hq : q ∈ plan.custom) {anchor : String}
    (hb : q.before = some anchor) :
    ∃ i j, order.position? q.name = some i ∧ order.position? anchor = some j ∧ i < j := by
  have hn := nodup_names_of_resolve h
  obtain ⟨p, ha, rfl⟩ := anchored_of_before h hq hb
  obtain ⟨before, block, after, heq, hmem⟩ := exists_block h ha.2.1
  obtain ⟨first, rest, rfl⟩ := List.append_of_mem ((hmem q).2 (.single ha))
  have hfirst : order.priorities = (before ++ first) ++ q :: (rest ++ [p] ++ after) := by
    simp [heq]
  have hsecond : order.priorities = (before ++ (first ++ q :: rest)) ++ p :: after := by
    simp [heq]
  refine ⟨_, _, PriorityOrder.position?_of_split hn hfirst,
    PriorityOrder.position?_of_split hn hsecond, ?_⟩
  simp

/-- A plan that has an order has one in which everything stands in its place. -/
theorem an_order_arranges_its_plan (plan : PriorityPlan) (order : PriorityOrder)
    (h : plan.resolve = .ok order) : order.Arranges plan := by
  have hd := distinct_of_resolve h
  refine ⟨⟨perm_of_resolve h, nodup_names_of_resolve h⟩, ?_, fun p hp => exists_block h hp, ?_,
    fun q hq anchor hb => position_lt_anchor h hq hb⟩
  · rw [priorities_of_resolve h, placed_eq]
    exact sublist_flatMap_of_ends fun p hp => ⟨_, block_eq hd (.root hp)⟩
  · intro p hp
    obtain ⟨k, hk⟩ := mem_placed_of_resolve h hp
    rw [priorities_of_resolve h]
    exact ⟨anchoredOn_sublist_placed hd hk, fun q hq => last_before_anchor hd hk hq⟩

/-- Two phases, and a chain before the second one that is declared from its far end. -/
def chainedPlan : PriorityPlan where
  fixed := [.fixed "start", .fixed "end"]
  custom := [.custom "first" "second", .custom "second" "third", .custom "third" "end",
    .custom "aside" "third"]

theorem chained_plan_is_arranged :
    chainedPlan.resolve = .ok ⟨[.fixed "start", .custom "first" "second",
      .custom "second" "third", .custom "aside" "third", .custom "third" "end", .fixed "end"]⟩ ∧
    PriorityOrder.Arranges ⟨[.fixed "start", .custom "first" "second",
      .custom "second" "third", .custom "aside" "third", .custom "third" "end", .fixed "end"]⟩
      chainedPlan :=
  have h : chainedPlan.resolve = .ok ⟨[.fixed "start", .custom "first" "second",
      .custom "second" "third", .custom "aside" "third", .custom "third" "end", .fixed "end"]⟩ := by
    decide +kernel
  ⟨h, an_order_arranges_its_plan _ _ h⟩

end PriorityPlan

end EntityPipeline
