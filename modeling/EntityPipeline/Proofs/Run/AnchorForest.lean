-- The forest of a plan: its trees stand on the priorities with a place of their own, and every
-- custom priority hangs on its anchor. Names that are all different give each priority one anchor
-- and one distance from the ground, so no tree is higher than there are custom priorities. Down to
-- that depth, expanding a priority is a recursion over the tree below it.
import EntityPipeline.Run.Priority
import Mathlib.Data.List.Nodup
import Mathlib.Data.List.Perm.Subperm
import Mathlib.Logic.Relation

namespace EntityPipeline

/-- No name is repeated when all are different and none of them was seen before. -/
theorem firstRepeated_eq_none (seen names : List String) :
    firstRepeated seen names = none ↔ names.Nodup ∧ ∀ name ∈ names, name ∉ seen := by
  induction names generalizing seen with
  | nil => simp [firstRepeated]
  | cons name rest ih =>
    unfold firstRepeated
    by_cases h : seen.contains name = true
    · simp only [h, if_true, reduceCtorEq, false_iff]
      rintro ⟨_, hnew⟩
      exact hnew name List.mem_cons_self (List.contains_iff_mem.1 h)
    · simp only [h, if_false, Bool.false_eq_true, ih, List.nodup_cons, List.mem_cons]
      have hn : name ∉ seen := fun hm => h (List.contains_iff_mem.2 hm)
      constructor
      · rintro ⟨hnodup, hnew⟩
        refine ⟨⟨fun hm => hnew name hm (Or.inl rfl), hnodup⟩, ?_⟩
        rintro other (rfl | hm)
        · exact hn
        · exact fun hs => hnew other hm (Or.inr hs)
      · rintro ⟨⟨hfresh, hnodup⟩, hnew⟩
        refine ⟨hnodup, fun other hm => ?_⟩
        rintro (rfl | hs)
        · exact hfresh hm
        · exact hnew other (Or.inr hm) hs

namespace PriorityPlan

/-! ## Anchors -/

/-- A custom priority is anchored on a priority of the plan. -/
def Anchored (plan : PriorityPlan) (q p : Priority) : Prop :=
  q ∈ plan.custom ∧ p ∈ plan.all ∧ q.before = some p.name

/-- The anchors of a priority lead to another one, over one anchor or more. -/
def LeadsTo (plan : PriorityPlan) : Priority → Priority → Prop := Relation.TransGen plan.Anchored

/-- No name is given twice. -/
def Distinct (plan : PriorityPlan) : Prop := (plan.all.map Priority.name).Nodup

/-- Priorities with so many anchors below them, the last of which has a place of its own. -/
inductive Level (plan : PriorityPlan) : Nat → Priority → Prop
  | root {p : Priority} : p ∈ plan.roots → Level plan 0 p
  | anchored {k : Nat} {p q : Priority} :
      Level plan k p → plan.Anchored q p → Level plan (k + 1) q

variable {plan : PriorityPlan} {p q r : Priority} {k n : Nat}

theorem mem_anchoredOn (hp : p ∈ plan.all) :
    q ∈ plan.anchoredOn p.name ↔ plan.Anchored q p := by
  simp [anchoredOn, Anchored, List.mem_filter, hp]

theorem mem_roots : p ∈ plan.roots ↔ p ∈ plan.fixed ∨ p ∈ plan.custom ∧ p.before = none := by
  simp [roots, List.mem_filter]

theorem Level.mem_all (h : plan.Level k p) : p ∈ plan.all := by
  cases h with
  | root h => exact List.mem_append.2 ((mem_roots.1 h).imp_right And.left)
  | anchored _ h => exact List.mem_append_right _ h.1

/-- Names tell the priorities of a plan apart. -/
theorem eq_of_name_eq (hd : plan.Distinct) (hp : p ∈ plan.all) (hq : q ∈ plan.all)
    (h : p.name = q.name) : p = q := List.inj_on_of_nodup_map hd hp hq h

theorem Anchored.unique (hd : plan.Distinct) : Relator.RightUnique plan.Anchored := by
  rintro q p r ⟨_, hp, h1⟩ ⟨_, hr, h2⟩
  apply eq_of_name_eq hd hp hr
  have hsame := h1.symm.trans h2
  simpa using hsame

/-- What has a place of its own is anchored nowhere. -/
theorem not_anchored_of_root (hd : plan.Distinct) (h : q ∈ plan.roots) : ¬ plan.Anchored q p := by
  rintro ⟨hc, _, hb⟩
  rcases mem_roots.1 h with h | ⟨_, h⟩
  · have hnames := hd
    simp only [Distinct, all, List.map_append] at hnames
    exact List.disjoint_of_nodup_append hnames (List.mem_map_of_mem h) (List.mem_map_of_mem hc)
  · simp [hb] at h

/-! ## Levels -/

theorem Level.unique (hd : plan.Distinct) (h : plan.Level k p) (hn : plan.Level n p) : k = n := by
  induction h generalizing n with
  | root h =>
    cases hn with
    | root _ => rfl
    | anchored _ ha => exact absurd ha (not_anchored_of_root hd h)
  | anchored hp ha ih =>
    cases hn with
    | root h => exact absurd ha (not_anchored_of_root hd h)
    | anchored hr hb =>
      cases Anchored.unique hd ha hb
      rw [ih hr]

/-- On the way up to a priority, each anchored one is met once. -/
theorem Level.chain (hd : plan.Distinct) (h : plan.Level k p) :
    ∃ chain : List Priority, chain.length = k ∧ chain.Nodup ∧
      ∀ q ∈ chain, q ∈ plan.custom ∧ ∃ j ≤ k, plan.Level j q := by
  induction h with
  | root _ => exact ⟨[], rfl, List.nodup_nil, by simp⟩
  | @anchored k p q hp ha ih =>
    obtain ⟨chain, hlen, hnodup, hmem⟩ := ih
    have hq : plan.Level (k + 1) q := .anchored hp ha
    refine ⟨q :: chain, by simp [hlen], List.nodup_cons.2 ⟨?_, hnodup⟩, ?_⟩
    · intro hin
      obtain ⟨_, j, hj, hlevel⟩ := hmem q hin
      have := hq.unique hd hlevel
      omega
    · intro r hr
      rcases List.mem_cons.1 hr with rfl | hr
      · exact ⟨ha.1, k + 1, Nat.le_refl _, hq⟩
      · obtain ⟨hc, j, hj, hlevel⟩ := hmem r hr
        exact ⟨hc, j, by omega, hlevel⟩

/-- There are no more levels above the ground than custom priorities. -/
theorem Level.le (hd : plan.Distinct) (h : plan.Level k p) : k ≤ plan.custom.length := by
  obtain ⟨chain, rfl, hnodup, hmem⟩ := h.chain hd
  exact (hnodup.subperm fun q hq => (hmem q hq).1).length_le

/-- A property that passes from all priorities on an anchor to the anchor holds of every priority
of the forest: the induction starts at the tips. -/
theorem Level.induction (hd : plan.Distinct) {motive : Priority → Prop}
    (step : ∀ k p, plan.Level k p → (∀ q, plan.Anchored q p → motive q) → motive p)
    (h : plan.Level k p) : motive p := by
  -- the induction is on the number of levels that can still lie above
  obtain ⟨left, hleft⟩ : ∃ left, left = plan.custom.length - k := ⟨_, rfl⟩
  induction left generalizing k p with
  | zero =>
    refine step k p h fun q hq => ?_
    have := (Level.anchored h hq).le hd
    omega
  | succ left ih =>
    exact step k p h fun q hq => ih (.anchored h hq) (by omega)

/-! ## Blocks -/

/-- A priority after everything that its anchors lead to. -/
def block (plan : PriorityPlan) (p : Priority) : List Priority := plan.expand plan.custom.length p

/-- Beyond the number of levels above a priority, more depth changes nothing. -/
theorem expand_stable (hd : plan.Distinct) (h : plan.Level k p)
    (hn : plan.custom.length ≤ k + n) : plan.expand (n + 1) p = plan.expand n p := by
  induction n generalizing k p with
  | zero =>
    -- on the highest level nothing is anchored any more
    have hnone : plan.anchoredOn p.name = [] := by
      apply List.eq_nil_iff_forall_not_mem.2
      intro q hq
      have := (Level.anchored h ((mem_anchoredOn h.mem_all).1 hq)).le hd
      omega
    simp [expand, hnone]
  | succ n ih =>
    rw [expand, expand]
    congr 1
    apply List.flatMap_congr
    intro q hq
    exact ih (.anchored h ((mem_anchoredOn h.mem_all).1 hq)) (by omega)

/-- The block of a priority: the blocks of those anchored on it, and then itself. -/
theorem block_eq (hd : plan.Distinct) (h : plan.Level k p) :
    plan.block p = (plan.anchoredOn p.name).flatMap plan.block ++ [p] := by
  unfold block
  rw [← expand_stable hd h (by omega), expand]

theorem placed_eq : plan.placed = plan.roots.flatMap plan.block := rfl

/-- The block of a priority holds it and what leads to it. -/
theorem mem_block (hd : plan.Distinct) (h : plan.Level k p) :
    q ∈ plan.block p ↔ Relation.ReflTransGen plan.Anchored q p := by
  refine Level.induction hd
    (motive := fun p => q ∈ plan.block p ↔ Relation.ReflTransGen plan.Anchored q p) ?_ h
  intro k p h ih
  rw [block_eq hd h, List.mem_append, List.mem_flatMap, List.mem_singleton,
    Relation.ReflTransGen.cases_tail_iff]
  constructor
  · rintro (⟨r, hr, hq⟩ | rfl)
    · have ha := (mem_anchoredOn h.mem_all).1 hr
      exact Or.inr ⟨r, (ih r ha).1 hq, ha⟩
    · exact Or.inl rfl
  · rintro (rfl | ⟨r, hq, hr⟩)
    · exact Or.inr rfl
    · exact Or.inl ⟨r, (mem_anchoredOn h.mem_all).2 hr, (ih r hr).2 hq⟩

/-- What leads to a priority of the forest stands in the forest, higher up. -/
theorem Level.of_leadsTo (h : plan.Level k p) (hq : plan.LeadsTo q p) :
    ∃ n, k < n ∧ plan.Level n q := by
  induction hq using Relation.TransGen.head_induction_on with
  | single ha => exact ⟨k + 1, by omega, .anchored h ha⟩
  | head ha _ ih =>
    obtain ⟨n, hn, hlevel⟩ := ih
    exact ⟨n + 1, by omega, .anchored hlevel ha⟩

/-- Two blocks of one level have nothing in common. -/
theorem Level.eq_of_reach (hd : plan.Distinct) (hp : plan.Level k p) (hr : plan.Level k r)
    (h1 : Relation.ReflTransGen plan.Anchored q p)
    (h2 : Relation.ReflTransGen plan.Anchored q r) : p = r := by
  have apart : ∀ {a b : Priority}, plan.Level k a → plan.Level k b →
      Relation.ReflTransGen plan.Anchored a b → a = b := by
    intro a b ha hb hab
    rcases Relation.reflTransGen_iff_eq_or_transGen.1 hab with rfl | hab
    · rfl
    · obtain ⟨n, hn, hlevel⟩ := hb.of_leadsTo hab
      have := ha.unique hd hlevel
      omega
  -- anchors are unique, so of two priorities that are reached one reaches the other
  rcases h1.total_of_right_unique (Anchored.unique hd) h2 with h | h
  · exact apart hp hr h
  · exact (apart hr hp h).symm

/-- The forest holds exactly what is placed. -/
theorem mem_placed (hd : plan.Distinct) : p ∈ plan.placed ↔ ∃ k, plan.Level k p := by
  rw [placed_eq, List.mem_flatMap]
  constructor
  · rintro ⟨root, hroot, hp⟩
    have hreach := (mem_block hd (.root hroot)).1 hp
    rcases Relation.reflTransGen_iff_eq_or_transGen.1 hreach with rfl | hreach
    · exact ⟨0, .root hroot⟩
    · obtain ⟨n, _, h⟩ := Level.of_leadsTo (.root hroot) hreach
      exact ⟨n, h⟩
  · rintro ⟨k, h⟩
    induction h with
    | root h => exact ⟨_, h, (mem_block hd (.root h)).2 .refl⟩
    | anchored _ ha ih =>
      obtain ⟨root, hroot, hp⟩ := ih
      have hreach := (mem_block hd (.root hroot)).1 hp
      exact ⟨root, hroot, (mem_block hd (.root hroot)).2 (.head ha hreach)⟩

end PriorityPlan

end EntityPipeline
