-- Orders under changes of their plan. A priority with a new name that is put into a plan finds a
-- place between the others, which keep their order; and the order of the custom priorities matters
-- only among those on one anchor. So an extension of a plan never reorders the phases it had.
import EntityPipeline.Proofs.Run.AnchorChains

namespace EntityPipeline

namespace PriorityPlan

variable {plan extended : PriorityPlan} {order : PriorityOrder} {new p q : Priority} {k : Nat}

/-! ## Plans without one priority -/

/-- A plan without a priority. -/
def without (plan : PriorityPlan) (p : Priority) : PriorityPlan where
  fixed := plan.fixed.filter (· != p)
  custom := plan.custom.filter (· != p)

theorem roots_without : (plan.without p).roots = plan.roots.filter (· != p) := by
  simp only [roots, without, List.filter_append, List.filter_filter, Bool.and_comm]

theorem anchoredOn_without (name : String) :
    (plan.without p).anchoredOn name = (plan.anchoredOn name).filter (· != p) := by
  simp only [anchoredOn, without, List.filter_filter, Bool.and_comm]

theorem all_without : (plan.without p).all = plan.all.filter (· != p) :=
  (List.filter_append ..).symm

theorem Distinct.without (hd : plan.Distinct) (p : Priority) : (plan.without p).Distinct := by
  unfold Distinct
  rw [all_without]
  exact (List.filter_sublist.map Priority.name).nodup hd

theorem Anchored.of_without (h : (plan.without new).Anchored q p) : plan.Anchored q p := by
  obtain ⟨hq, hp, hanchor⟩ := h
  rw [all_without] at hp
  exact ⟨List.mem_of_mem_filter hq, List.mem_of_mem_filter hp, hanchor⟩

theorem Level.of_without (h : (plan.without new).Level k p) : plan.Level k p := by
  induction h with
  | root h =>
    rw [roots_without] at h
    exact .root (List.mem_of_mem_filter h)
  | anchored _ ha ih => exact .anchored ih ha.of_without

/-! ## A priority that nothing is anchored on -/

/-- Parts of a list that are filtered: those of the items that are kept, filtered. -/
theorem filter_flatMap_of_skipped {α β : Type} {l : List α} {f g : α → List β} {keep : α → Bool}
    {p : β → Bool} (hkept : ∀ a ∈ l, keep a = true → (f a).filter p = g a)
    (hskipped : ∀ a ∈ l, keep a = false → (f a).filter p = []) :
    (l.flatMap f).filter p = (l.filter keep).flatMap g := by
  induction l with
  | nil => rfl
  | cons a rest ih =>
    obtain ⟨hkeep, hkept⟩ := List.forall_mem_cons.1 hkept
    obtain ⟨hskip, hskipped⟩ := List.forall_mem_cons.1 hskipped
    rw [List.flatMap_cons, List.filter_append, ih hkept hskipped]
    cases ha : keep a with
    | true => rw [List.filter_cons_of_pos ha, List.flatMap_cons, hkeep ha]
    | false => rw [List.filter_cons_of_neg (by simp [ha]), hskip ha, List.nil_append]

/-- The block of a priority that nothing is anchored on is that priority. -/
theorem block_of_leaf (hd : plan.Distinct) (h : plan.Level k p)
    (hleaf : plan.anchoredOn p.name = []) : plan.block p = [p] := by
  rw [block_eq hd h, hleaf]
  rfl

/-- Without a priority that nothing is anchored on, each block is as it was but for that one. -/
theorem block_without (hd : plan.Distinct) (hleaf : plan.anchoredOn new.name = [])
    (h : (plan.without new).Level k p) :
    (plan.block p).filter (· != new) = (plan.without new).block p := by
  have hd' := hd.without new
  refine Level.induction hd' (motive := fun p =>
    (plan.block p).filter (· != new) = (plan.without new).block p) ?_ h
  intro k p h ih
  have hlevel : plan.Level k p := h.of_without
  have hne : (p != new) = true := by
    have hall := h.mem_all
    rw [all_without] at hall
    exact (List.mem_filter.1 hall).2
  have hself : [p].filter (· != new) = [p] := by simp [hne]
  rw [block_eq hd hlevel, block_eq hd' h, List.filter_append, hself, anchoredOn_without]
  congr 1
  apply filter_flatMap_of_skipped
  · intro q hq hkeep
    apply ih
    rw [← mem_anchoredOn h.mem_all, anchoredOn_without]
    exact List.mem_filter.2 ⟨hq, hkeep⟩
  · intro q hq hskip
    obtain rfl : q = new := by simpa using hskip
    have ha := (mem_anchoredOn hlevel.mem_all).1 hq
    rw [block_of_leaf hd (.anchored hlevel ha) hleaf]
    simp

/-- Without a priority that nothing is anchored on, the others are placed as before. -/
theorem placed_without (hd : plan.Distinct) (hleaf : plan.anchoredOn new.name = []) :
    plan.placed.filter (· != new) = (plan.without new).placed := by
  rw [placed_eq, placed_eq, roots_without]
  apply filter_flatMap_of_skipped
  · intro p hp hkeep
    have hroot : p ∈ (plan.without new).roots := by
      rw [roots_without]
      exact List.mem_filter.2 ⟨hp, hkeep⟩
    exact block_without hd hleaf (.root hroot)
  · intro p hp hskip
    obtain rfl : p = new := by simpa using hskip
    rw [block_of_leaf hd (.root hp) hleaf]
    simp

/-! ## Plans with one more priority -/

/-- A plan with one more priority: a fixed one anywhere among the fixed ones, or a custom one
anywhere among the custom ones whose anchor, if it has one, names a priority of the plan. -/
inductive Inserted (plan : PriorityPlan) (new : Priority) : PriorityPlan → Prop
  | fixed {before after : List Priority} : plan.fixed = before ++ after →
      Inserted plan new { plan with fixed := before ++ new :: after }
  | custom {before after : List Priority} : plan.custom = before ++ after →
      (∀ anchor, new.before = some anchor → plan.contains anchor = true) →
      Inserted plan new { plan with custom := before ++ new :: after }

theorem contains_iff {name : String} :
    plan.contains name = true ↔ ∃ p ∈ plan.all, p.name = name := by
  simp [contains]

theorem Inserted.perm (h : plan.Inserted new extended) : extended.all.Perm (new :: plan.all) := by
  cases h with
  | fixed heq =>
    simp only [all, heq, List.append_assoc, List.cons_append]
    exact List.perm_middle
  | custom heq _ =>
    simp only [all, heq]
    rw [← List.append_assoc, ← List.append_assoc]
    exact List.perm_middle

theorem filter_of_notMem {l : List Priority} (h : p ∉ l) : l.filter (· != p) = l := by
  refine List.filter_eq_self.2 fun q hq => ?_
  have hne : q ≠ p := fun heq => h (heq ▸ hq)
  simpa using hne

theorem filter_inserted {before after : List Priority} (h : p ∉ before ++ after) :
    (before ++ p :: after).filter (· != p) = before ++ after := by
  rw [List.filter_append, List.filter_cons_of_neg (by simp), ← List.filter_append]
  exact filter_of_notMem h

/-- Without the new priority, the plan is the old one. -/
theorem Inserted.without_eq (h : plan.Inserted new extended) (hnew : new ∉ plan.all) :
    extended.without new = plan := by
  obtain ⟨hfixed, hcustom⟩ := not_or.1 (mt List.mem_append.2 hnew)
  cases h with
  | fixed heq =>
    rw [heq] at hfixed
    simp only [without, filter_inserted hfixed, filter_of_notMem hcustom, ← heq]
  | custom heq _ =>
    rw [heq] at hcustom
    simp only [without, filter_inserted hcustom, filter_of_notMem hfixed, ← heq]

/-- The new priority has a place of its own, or is anchored on an old one. -/
theorem Inserted.anchored (h : plan.Inserted new extended) :
    new ∈ extended.roots ∨ ∃ p ∈ plan.all, extended.Anchored new p := by
  have hperm := h.perm
  cases h with
  | fixed _ => exact Or.inl (mem_roots.2 (Or.inl (by simp)))
  | custom _ hanchor =>
    cases hb : new.before with
    | none => exact Or.inl (mem_roots.2 (Or.inr ⟨by simp, hb⟩))
    | some anchor =>
      obtain ⟨p, hp, rfl⟩ := contains_iff.1 (hanchor anchor hb)
      exact Or.inr ⟨p, hp, by simp, hperm.mem_iff.2 (List.mem_cons_of_mem _ hp), hb⟩

theorem name_ne_of_not_contains {name : String} (h : plan.contains name = false)
    (hp : p ∈ plan.all) : p.name ≠ name := by
  intro heq
  rw [contains_iff.2 ⟨p, hp, heq⟩] at h
  cases h

theorem Inserted.distinct (h : plan.Inserted new extended) (hd : plan.Distinct)
    (hname : plan.contains new.name = false) : extended.Distinct := by
  have hnew : new.name ∉ plan.all.map Priority.name := by
    intro hin
    obtain ⟨p, hp, heq⟩ := List.mem_map.1 hin
    exact name_ne_of_not_contains hname hp heq
  exact (h.perm.map Priority.name).nodup_iff.2 (List.nodup_cons.2 ⟨hnew, hd⟩)

/-- Where the old plan has an order and the new priority a new name, nothing is anchored on it. -/
theorem Inserted.anchoredOn_eq_nil (h : plan.Inserted new extended)
    (hresolve : plan.resolve = .ok order) (hname : plan.contains new.name = false) :
    extended.anchoredOn new.name = [] := by
  have hcustom : ∀ q ∈ plan.custom, q.before ≠ some new.name := by
    intro q hq hb
    obtain ⟨p, ha, hp⟩ := anchored_of_before hresolve hq hb
    exact name_ne_of_not_contains hname ha.2.1 hp
  refine List.filter_eq_nil_iff.2 fun q hq => ?_
  cases h with
  | fixed _ => simpa using hcustom q hq
  | custom heq hanchor =>
    rw [List.mem_append, List.mem_cons] at hq
    rcases hq with hq | rfl | hq
    · simpa using hcustom q (heq ▸ List.mem_append_left _ hq)
    · intro hb
      have hself := hanchor q.name (by simpa using hb)
      rw [hname] at hself
      cases hself
    · simpa using hcustom q (heq ▸ List.mem_append_right _ hq)

/-- Where the old plan is without the new priority and has an order, all anchors lead to a root. -/
theorem Inserted.exists_level (h : plan.Inserted new extended) (hnew : new ∉ plan.all)
    (hresolve : plan.resolve = .ok order) : ∀ p ∈ extended.all, ∃ k, extended.Level k p := by
  have hold : ∀ p ∈ plan.all, ∃ k, extended.Level k p := by
    intro p hp
    obtain ⟨k, hk⟩ := mem_placed_of_resolve hresolve hp
    exact ⟨k, Level.of_without ((h.without_eq hnew).symm ▸ hk)⟩
  intro p hp
  rcases List.mem_cons.1 (h.perm.subset hp) with rfl | hp
  · rcases h.anchored with hroot | ⟨q, hq, ha⟩
    · exact ⟨0, .root hroot⟩
    · obtain ⟨k, hk⟩ := hold q hq
      exact ⟨k + 1, .anchored hk ha⟩
  · exact hold p hp

/-- A plan with an order, with one more priority of a new name, has an order in which the new one
stands somewhere between the others. -/
theorem Inserted.exists_order (h : plan.Inserted new extended)
    (hresolve : plan.resolve = .ok order) (hname : plan.contains new.name = false) :
    ∃ before after, extended.resolve = .ok ⟨before ++ new :: after⟩ ∧
      order.priorities = before ++ after := by
  have hnew : new ∉ plan.all := fun hin => name_ne_of_not_contains hname hin rfl
  have hd := h.distinct (distinct_of_resolve hresolve) hname
  have hlevel := h.exists_level hnew hresolve
  have hresolves : extended.resolve = .ok ⟨extended.placed⟩ := by
    refine resolve_eq_ok hd fun p hp => ?_
    exact exists_level_iff.1 (hlevel p (List.mem_append_right _ hp))
  -- what is placed is the new one between two parts, and these are what is left without it
  have hin : new ∈ extended.placed :=
    (mem_placed hd).2 (hlevel new (h.perm.symm.subset List.mem_cons_self))
  obtain ⟨before, after, heq⟩ := List.append_of_mem hin
  have hnodup := nodup_placed hd
  rw [heq, List.nodup_middle, List.nodup_cons] at hnodup
  have hplaced := placed_without hd (h.anchoredOn_eq_nil hresolve hname)
  rw [heq, filter_inserted hnodup.1, h.without_eq hnew] at hplaced
  refine ⟨before, after, ?_, ?_⟩
  · rw [hresolves, heq]
  · rw [priorities_of_resolve hresolve, hplaced]

/-! ## Custom priorities in another order -/

/-- Two different items of a list without repetitions stand in it in one order only. -/
theorem eq_of_pair_sublists {α : Type} {l : List α} {a b : α} (hn : l.Nodup)
    (h : [a, b].Sublist l) (h' : [b, a].Sublist l) : a = b := by
  induction l with
  | nil => cases h
  | cons c rest ih =>
    obtain ⟨hc, hn⟩ := List.nodup_cons.1 hn
    rcases List.sublist_cons_iff.1 h with hab | ⟨_, ⟨⟩, hb⟩
    · rcases List.sublist_cons_iff.1 h' with hba | ⟨_, ⟨⟩, ha⟩
      · exact ih hn hab hba
      · exact absurd (hab.subset (List.mem_cons_of_mem _ List.mem_cons_self)) hc
    · rcases List.sublist_cons_iff.1 h' with hba | ⟨_, ⟨⟩, ha⟩
      · exact absurd (hba.subset (List.mem_cons_of_mem _ List.mem_cons_self)) hc
      · rfl

/-- Lists without repetitions that hold the same items, any two of them in the same order, are the
same. -/
theorem eq_of_same_pairs {α : Type} {l l' : List α} (hn : l.Nodup) (hperm : l'.Perm l)
    (h : ∀ a b, [a, b].Sublist l → [a, b].Sublist l') : l' = l := by
  have hn' := hperm.nodup_iff.2 hn
  have hpairs' : l'.Pairwise fun a b => [a, b].Sublist l' := List.pairwise_iff_forall_sublist.2 id
  have hpairs : l.Pairwise fun a b => [a, b].Sublist l' :=
    List.pairwise_iff_forall_sublist.2 fun hab => h _ _ hab
  exact hperm.eq_of_pairwise (fun _ _ _ _ hab hba => eq_of_pair_sublists hn' hab hba) hpairs' hpairs

/-- The custom priorities of a plan in an order that is the same among those on one anchor, and
among those on none. -/
structure KeepsTies (plan : PriorityPlan) (custom : List Priority) : Prop where
  perm : custom.Perm plan.custom
  ties : ∀ p q, p.before = q.before → [p, q].Sublist plan.custom → [p, q].Sublist custom

theorem KeepsTies.filter_eq {custom : List Priority} (h : plan.KeepsTies custom)
    (hn : plan.custom.Nodup) (anchor : Option String) :
    custom.filter (·.before == anchor) = plan.custom.filter (·.before == anchor) := by
  apply eq_of_same_pairs (hn.filter _) (h.perm.filter _)
  intro p q hpq
  have hp : p.before = anchor := by
    simpa using (List.mem_filter.1 (hpq.subset List.mem_cons_self)).2
  have hq : q.before = anchor := by
    simpa using (List.mem_filter.1 (hpq.subset (List.mem_cons_of_mem _ List.mem_cons_self))).2
  have hpair := (h.ties p q (hp.trans hq.symm) (hpq.trans List.filter_sublist)).filter
    (·.before == anchor)
  simpa [hp, hq] using hpair

/-- Plans that anchor the same on each name expand alike. -/
theorem expand_congr {other : PriorityPlan}
    (h : ∀ name, other.anchoredOn name = plan.anchoredOn name) (depth : Nat) (p : Priority) :
    other.expand depth p = plan.expand depth p := by
  induction depth generalizing p with
  | zero => rfl
  | succ depth ih =>
    rw [expand, expand, h]
    congr 1
    exact List.flatMap_congr fun q _ => ih q

/-- Custom priorities that are declared in another order, but for ties, are placed as before. -/
theorem KeepsTies.placed_eq {custom : List Priority} (h : plan.KeepsTies custom)
    (hd : plan.Distinct) : ({ plan with custom } : PriorityPlan).placed = plan.placed := by
  have hn : plan.custom.Nodup := (nodup_all hd).sublist (List.sublist_append_right _ _)
  have hroots : ({ plan with custom } : PriorityPlan).roots = plan.roots := by
    have hnone : ∀ l : List Priority, l.filter (·.before.isNone) = l.filter (·.before == none) :=
      fun l => List.filter_congr fun p _ => by cases p.before <;> rfl
    unfold roots
    rw [hnone, hnone, h.filter_eq hn none]
  have hanchored : ∀ name, ({ plan with custom } : PriorityPlan).anchoredOn name =
      plan.anchoredOn name := fun name => h.filter_eq hn (some name)
  unfold placed
  rw [hroots, h.perm.length_eq]
  exact List.flatMap_congr fun p _ => expand_congr hanchored _ p

theorem KeepsTies.resolve_eq {custom : List Priority} (h : plan.KeepsTies custom)
    (hresolve : plan.resolve = .ok order) :
    ({ plan with custom } : PriorityPlan).resolve = .ok order := by
  have hd := distinct_of_resolve hresolve
  have hplaced := h.placed_eq hd
  have hall : ({ plan with custom } : PriorityPlan).all.Perm plan.all := h.perm.append_left _
  have hd' : ({ plan with custom } : PriorityPlan).Distinct :=
    (hall.map Priority.name).nodup_iff.2 hd
  have horder : order = ⟨plan.placed⟩ := by
    rw [← priorities_of_resolve hresolve]
  rw [horder, ← hplaced]
  refine resolve_eq_ok hd' fun p hp => ?_
  rw [← mem_placed_iff hd', hplaced, mem_placed_iff hd]
  exact grounded_of_resolve hresolve (List.mem_append_right _ (h.perm.subset hp))

/-- An extension never reorders a plan that has an order: with one more priority of a new name
anywhere there is an order again, which is the old one but for the new priority, and with the custom
priorities in another order but for ties there is the same order. -/
theorem extensions_keep_the_order (plan : PriorityPlan) (order : PriorityOrder)
    (h : plan.resolve = .ok order) :
    (∀ new extended, plan.contains new.name = false → plan.Inserted new extended →
      ∃ before after, extended.resolve = .ok ⟨before ++ new :: after⟩ ∧
        order.priorities = before ++ after) ∧
    ∀ custom, plan.KeepsTies custom → ({ plan with custom } : PriorityPlan).resolve = .ok order :=
  ⟨fun _ _ hname hinserted => hinserted.exists_order h hname, fun _ hties => hties.resolve_eq h⟩

/-- Two phases, and before the second one a review of what comes before it. -/
def essayPlan : PriorityPlan where
  fixed := [.fixed "outline", .fixed "publish"]
  custom := [.custom "spelling" "review", .custom "draft" "review", .custom "review" "publish",
    .custom "notes" "draft"]

/-- The order of the essay. -/
def essayOrder : PriorityOrder :=
  ⟨[.fixed "outline", .custom "spelling" "review", .custom "notes" "draft",
    .custom "draft" "review", .custom "review" "publish", .fixed "publish"]⟩

/-- The custom priorities of the essay, declared from the far end of their chains. -/
def essayChain : List Priority :=
  [.custom "notes" "draft", .custom "spelling" "review", .custom "review" "publish",
    .custom "draft" "review"]

theorem essays_keep_their_order :
    essayPlan.resolve = .ok essayOrder ∧
    (∃ before after, ({ essayPlan with
        custom := .custom "quotes" "draft" :: essayPlan.custom } : PriorityPlan).resolve =
          .ok ⟨before ++ .custom "quotes" "draft" :: after⟩ ∧
        essayOrder.priorities = before ++ after) ∧
    ({ essayPlan with custom := essayChain } : PriorityPlan).resolve = .ok essayOrder := by
  have h : essayPlan.resolve = .ok essayOrder := by decide +kernel
  have hinserted : essayPlan.Inserted (.custom "quotes" "draft")
      { essayPlan with custom := .custom "quotes" "draft" :: essayPlan.custom } := by
    refine .custom (List.nil_append _).symm ?_
    rintro anchor ⟨⟩
    decide
  have hpairs : ∀ p ∈ essayPlan.custom, ∀ q ∈ essayPlan.custom, p.before = q.before →
      [p, q].Sublist essayPlan.custom → [p, q].Sublist essayChain := by decide
  have hties : essayPlan.KeepsTies essayChain := by
    refine ⟨by decide, fun p q hbefore hpq => ?_⟩
    exact hpairs p (hpq.subset (by simp)) q (hpq.subset (by simp)) hbefore hpq
  obtain ⟨hextended, hrearranged⟩ := extensions_keep_the_order essayPlan essayOrder h
  exact ⟨h, hextended _ _ (by decide) hinserted, hrearranged _ hties⟩

end PriorityPlan

end EntityPipeline
