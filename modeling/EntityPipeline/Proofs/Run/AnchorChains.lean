-- What becomes of a plan, told from its names and anchors alone. A priority is grounded when its
-- anchors lead to a place; a plan has an order exactly when its names are all different and every
-- custom priority is grounded. Otherwise the first name given before is reported, or else the first
-- priority whose anchors lead nowhere.
import EntityPipeline.Proofs.Run.PriorityPlaces

namespace EntityPipeline

/-- A name that was seen, or stands behind itself, is reported where no name in front of it is. -/
theorem firstRepeated_of_split {seen before after : List String} {name : String}
    (hnodup : before.Nodup) (hnew : ∀ other ∈ before, other ∉ seen)
    (hname : name ∈ before ∨ name ∈ seen) :
    firstRepeated seen (before ++ name :: after) = some name := by
  induction before generalizing seen with
  | nil =>
    have hseen : name ∈ seen := hname.resolve_left List.not_mem_nil
    simp [firstRepeated, hseen]
  | cons first before ih =>
    obtain ⟨hfirst, hnodup⟩ := List.nodup_cons.1 hnodup
    obtain ⟨hfresh, hnew⟩ := List.forall_mem_cons.1 hnew
    rw [List.cons_append, firstRepeated, if_neg (by simpa using hfresh)]
    apply ih hnodup
    · intro other hin hseen
      rcases List.mem_cons.1 hseen with rfl | hseen
      · exact hfirst hin
      · exact hnew other hin hseen
    · simp only [List.mem_cons] at hname ⊢
      tauto

/-- A name that is reported was seen, or stands behind itself, and no name in front of it does. -/
theorem exists_split_of_firstRepeated {seen names : List String} {name : String}
    (h : firstRepeated seen names = some name) : ∃ before after, names = before ++ name :: after ∧
      before.Nodup ∧ (∀ other ∈ before, other ∉ seen) ∧ (name ∈ before ∨ name ∈ seen) := by
  induction names generalizing seen with
  | nil => cases h
  | cons first rest ih =>
    unfold firstRepeated at h
    by_cases hfirst : first ∈ seen
    · rw [if_pos (by simpa using hfirst)] at h
      cases h
      exact ⟨[], rest, rfl, List.nodup_nil, List.forall_mem_nil _, Or.inr hfirst⟩
    · rw [if_neg (by simpa using hfirst)] at h
      obtain ⟨before, after, rfl, hnodup, hnew, hname⟩ := ih h
      have hbefore : first ∉ before := fun hin => hnew first hin List.mem_cons_self
      refine ⟨first :: before, after, rfl, List.nodup_cons.2 ⟨hbefore, hnodup⟩, ?_, ?_⟩
      · refine List.forall_mem_cons.2 ⟨hfirst, fun other hin hseen => ?_⟩
        exact hnew other hin (List.mem_cons_of_mem _ hseen)
      · simp only [List.mem_cons] at hname ⊢
        tauto

namespace PriorityPlan

variable {plan : PriorityPlan} {order : PriorityOrder} {p q : Priority} {k : Nat}

/-! ## Chains of anchors -/

/-- The anchors of a priority end at one with a place of its own. -/
def Grounded (plan : PriorityPlan) (p : Priority) : Prop :=
  ∃ root ∈ plan.roots, Relation.ReflTransGen plan.Anchored p root

theorem exists_level_iff : (∃ k, plan.Level k p) ↔ plan.Grounded p := by
  constructor
  · rintro ⟨k, h⟩
    induction h with
    | root h => exact ⟨_, h, .refl⟩
    | anchored _ ha ih =>
      obtain ⟨root, hroot, hreach⟩ := ih
      exact ⟨root, hroot, .head ha hreach⟩
  · rintro ⟨root, hroot, hreach⟩
    induction hreach using Relation.ReflTransGen.head_induction_on with
    | refl => exact ⟨0, .root hroot⟩
    | head ha _ ih =>
      obtain ⟨k, h⟩ := ih
      exact ⟨k + 1, .anchored h ha⟩

theorem Grounded.mem_all (h : plan.Grounded p) : p ∈ plan.all := by
  obtain ⟨k, h⟩ := exists_level_iff.2 h
  exact h.mem_all

theorem mem_placed_iff (hd : plan.Distinct) : p ∈ plan.placed ↔ plan.Grounded p :=
  (mem_placed hd).trans exists_level_iff

/-- What is not grounded has an anchor. -/
theorem exists_anchor (hp : p ∈ plan.custom) (h : ¬ plan.Grounded p) :
    ∃ anchor, p.before = some anchor := by
  cases hb : p.before with
  | none => exact absurd ⟨p, mem_roots.2 (Or.inr ⟨hp, hb⟩), .refl⟩ h
  | some anchor => exact ⟨anchor, rfl⟩

/-- Every fixed priority is grounded, so all are as soon as the custom ones are. -/
theorem grounded_of_custom (h : ∀ p ∈ plan.custom, plan.Grounded p) :
    ∀ p ∈ plan.all, plan.Grounded p :=
  List.forall_mem_append.2 ⟨fun p hp => ⟨p, mem_roots.2 (Or.inl hp), .refl⟩, h⟩

/-! ## Putting priorities down -/

/-- Priorities are put down one after the other, each behind all that is anchored on it. Nothing
bounds the depth of this walk or records where it has been, so on a circle of anchors it would not
come to an end. -/
inductive PutsDown (plan : PriorityPlan) : List Priority → List Priority → Prop
  | done : PutsDown plan [] []
  | next {p : Priority} {rest above later : List Priority} :
      PutsDown plan (plan.anchoredOn p.name) above → PutsDown plan rest later →
      PutsDown plan (p :: rest) (above ++ p :: later)

theorem PutsDown.unique {todo found other : List Priority} (h : plan.PutsDown todo found)
    (h' : plan.PutsDown todo other) : found = other := by
  induction h generalizing other with
  | done =>
    cases h'
    rfl
  | next _ _ ihabove ihlater =>
    cases h' with
    | next habove hlater => rw [ihabove habove, ihlater hlater]

/-- A walk over priorities ends if it ends above each of them. -/
theorem putsDown_blocks (hd : plan.Distinct) {todo : List Priority}
    (h : ∀ p ∈ todo, (∃ k, plan.Level k p) ∧
      plan.PutsDown (plan.anchoredOn p.name) ((plan.anchoredOn p.name).flatMap plan.block)) :
    plan.PutsDown todo (todo.flatMap plan.block) := by
  induction todo with
  | nil => exact .done
  | cons p rest ih =>
    obtain ⟨⟨⟨k, hk⟩, habove⟩, hrest⟩ := List.forall_mem_cons.1 h
    have hwalk := PutsDown.next habove (ih hrest)
    rw [List.flatMap_cons, block_eq hd hk, List.append_assoc]
    exact hwalk

/-- Above a priority of the forest the walk ends: no circle of anchors can be reached from there. -/
theorem Level.putsDown (hd : plan.Distinct) (h : plan.Level k p) :
    plan.PutsDown (plan.anchoredOn p.name) ((plan.anchoredOn p.name).flatMap plan.block) := by
  refine Level.induction hd (motive := fun p => plan.PutsDown (plan.anchoredOn p.name)
    ((plan.anchoredOn p.name).flatMap plan.block)) ?_ h
  intro k p h ih
  apply putsDown_blocks hd
  intro q hq
  have ha := (mem_anchoredOn h.mem_all).1 hq
  exact ⟨⟨k + 1, .anchored h ha⟩, ih q ha⟩

/-- With distinct names, the walk from the priorities with a place of their own ends, and puts down
what the plan places. -/
theorem putsDown_placed (hd : plan.Distinct) : plan.PutsDown plan.roots plan.placed := by
  rw [placed_eq]
  apply putsDown_blocks hd
  intro p hp
  have h : plan.Level 0 p := .root hp
  exact ⟨⟨0, h⟩, h.putsDown hd⟩

/-! ## Counting what was put down -/

theorem placed_perm (hd : plan.Distinct) (h : ∀ p ∈ plan.custom, plan.Grounded p) :
    plan.placed.Perm plan.all := by
  apply (List.perm_ext_iff_of_nodup (nodup_placed hd) (nodup_all hd)).2
  intro p
  rw [mem_placed_iff hd]
  exact ⟨Grounded.mem_all, grounded_of_custom h p⟩

theorem length_placed_lt (hd : plan.Distinct) (hp : p ∈ plan.all) (h : ¬ plan.Grounded p) :
    plan.placed.length < plan.all.length := by
  have hnew : p ∉ plan.placed := mt (mem_placed_iff hd).1 h
  have hnodup : (p :: plan.placed).Nodup := List.nodup_cons.2 ⟨hnew, nodup_placed hd⟩
  have hsub : p :: plan.placed ⊆ plan.all :=
    List.cons_subset.2 ⟨hp, fun q hq => ((mem_placed_iff hd).1 hq).mem_all⟩
  have hlen := (hnodup.subperm hsub).length_le
  rw [List.length_cons] at hlen
  omega

/-! ## The outcome of resolving -/

theorem firstRepeated_eq_none_iff :
    firstRepeated [] (plan.all.map Priority.name) = none ↔ plan.Distinct := by
  simp [firstRepeated_eq_none, Distinct]

/-- With distinct names, a name was put down if its priority is grounded. -/
theorem name_mem_placed (hd : plan.Distinct) (hp : p ∈ plan.all) :
    p.name ∈ plan.placed.map Priority.name ↔ plan.Grounded p := by
  rw [← mem_placed_iff hd]
  constructor
  · intro h
    obtain ⟨q, hq, hname⟩ := List.mem_map.1 h
    have hall := ((mem_placed_iff hd).1 hq).mem_all
    rwa [← eq_of_name_eq hd hall hp hname]
  · exact List.mem_map_of_mem

theorem unplaced?_eq_none (hd : plan.Distinct) :
    plan.unplaced? = none ↔ ∀ p ∈ plan.custom, plan.Grounded p := by
  unfold unplaced?
  rw [List.find?_eq_none]
  refine forall₂_congr fun p hp => ?_
  rw [← name_mem_placed hd (List.mem_append_right _ hp)]
  simp

theorem unplaced?_eq_some (hd : plan.Distinct) : plan.unplaced? = some p ↔
    ∃ before after, plan.custom = before ++ p :: after ∧ (∀ q ∈ before, plan.Grounded q) ∧
      ¬ plan.Grounded p := by
  have hplaced : ∀ q ∈ plan.custom,
      (!(plan.placed.map Priority.name).contains q.name) = true ↔ ¬ plan.Grounded q := by
    intro q hq
    rw [← name_mem_placed hd (List.mem_append_right _ hq)]
    simp
  unfold unplaced?
  rw [List.find?_eq_some_iff_append]
  constructor
  · rintro ⟨hp, before, after, heq, hbefore⟩
    refine ⟨before, after, heq, fun q hq => ?_, (hplaced p (by simp [heq])).1 hp⟩
    have hgrounded := mt (hplaced q (by simp [heq, hq])).2
    simpa using hgrounded (by simpa using hbefore q hq)
  · rintro ⟨before, after, heq, hbefore, hp⟩
    refine ⟨(hplaced p (by simp [heq])).2 hp, before, after, heq, fun q hq => ?_⟩
    have hgrounded := mt (hplaced q (by simp [heq, hq])).1
    simpa using hgrounded (not_not.2 (hbefore q hq))

/-- How resolving a plan ends. -/
inductive ResolvesTo (plan : PriorityPlan) : Except Failure PriorityOrder → Prop
  /-- Of all names, the fixed priorities first, one is the first that stood before. -/
  | repeated {before after : List String} {name : String} :
      plan.all.map Priority.name = before ++ name :: after → before.Nodup → name ∈ before →
      ResolvesTo plan (.error (.duplicatePriority name))
  /-- The walk from the roots ends short of some priorities, and of the custom ones in their order
  this is the first whose anchors lead to no root. -/
  | adrift {found before after : List Priority} {p : Priority} {anchor : String} :
      plan.Distinct → plan.PutsDown plan.roots found → found.length < plan.all.length →
      plan.custom = before ++ p :: after → (∀ q ∈ before, plan.Grounded q) →
      ¬ plan.Grounded p → p.before = some anchor →
      ResolvesTo plan (.error (.unknownAnchor p.name anchor))
  /-- The walk from the roots ends with all priorities put down. -/
  | ordered {found : List Priority} :
      plan.Distinct → (∀ p ∈ plan.custom, plan.Grounded p) → plan.PutsDown plan.roots found →
      found.length = plan.all.length → ResolvesTo plan (.ok ⟨found⟩)

theorem resolvesTo_resolve (plan : PriorityPlan) : plan.ResolvesTo plan.resolve := by
  unfold resolve
  cases hrepeated : firstRepeated [] (plan.all.map Priority.name) with
  | some name =>
    obtain ⟨before, after, hnames, hnodup, -, hname⟩ := exists_split_of_firstRepeated hrepeated
    exact .repeated hnames hnodup (hname.resolve_right List.not_mem_nil)
  | none =>
    have hd := firstRepeated_eq_none_iff.1 hrepeated
    cases hunplaced : plan.unplaced? with
    | some p =>
      obtain ⟨before, after, hcustom, hbefore, hp⟩ := (unplaced?_eq_some hd).1 hunplaced
      have hin : p ∈ plan.custom := by simp [hcustom]
      obtain ⟨anchor, hanchor⟩ := exists_anchor hin hp
      have hshort := length_placed_lt hd (List.mem_append_right _ hin) hp
      have hends := ResolvesTo.adrift hd (putsDown_placed hd) hshort hcustom hbefore hp hanchor
      simpa only [hanchor, Option.getD_some] using hends
    | none =>
      have hall := (unplaced?_eq_none hd).1 hunplaced
      exact .ordered hd hall (putsDown_placed hd) (placed_perm hd hall).length_eq

theorem resolve_of_resolvesTo {outcome : Except Failure PriorityOrder}
    (h : plan.ResolvesTo outcome) : plan.resolve = outcome := by
  cases h with
  | @repeated before after name hnames hnodup hname =>
    have hrepeated : firstRepeated [] (plan.all.map Priority.name) = some name := by
      rw [hnames]
      exact firstRepeated_of_split hnodup (fun _ _ => List.not_mem_nil) (Or.inl hname)
    simp only [resolve, hrepeated]
  | @adrift found before after p anchor hd _ _ hcustom hbefore hp hanchor =>
    have hunplaced := (unplaced?_eq_some hd).2 ⟨before, after, hcustom, hbefore, hp⟩
    simp only [resolve, firstRepeated_eq_none_iff.2 hd, hunplaced, hanchor, Option.getD_some]
  | @ordered found hd hall hwalk _ =>
    obtain rfl := (putsDown_placed hd).unique hwalk
    simp only [resolve, firstRepeated_eq_none_iff.2 hd, (unplaced?_eq_none hd).2 hall]

/-- With distinct names and every custom priority grounded, the order is what is placed. -/
theorem resolve_eq_ok (hd : plan.Distinct) (h : ∀ p ∈ plan.custom, plan.Grounded p) :
    plan.resolve = .ok ⟨plan.placed⟩ :=
  resolve_of_resolvesTo (.ordered hd h (putsDown_placed hd) (placed_perm hd h).length_eq)

theorem grounded_of_resolve (h : plan.resolve = .ok order) (hp : p ∈ plan.all) :
    plan.Grounded p := exists_level_iff.1 (mem_placed_of_resolve h hp)

/-- Resolving ends for every plan: with an order exactly when all names are different and the
anchors of every custom priority end at a root, and else with the first name that stood before or,
where all are different, with the first custom priority whose anchors end nowhere. -/
theorem every_plan_resolves_by_its_anchors (plan : PriorityPlan) :
    ((∃ order, plan.resolve = .ok order) ↔
      plan.Distinct ∧ ∀ p ∈ plan.custom, plan.Grounded p) ∧
    ∀ outcome, plan.resolve = outcome ↔ plan.ResolvesTo outcome := by
  refine ⟨⟨?_, fun ⟨hd, hall⟩ => ⟨_, resolve_eq_ok hd hall⟩⟩, fun outcome => ⟨?_, ?_⟩⟩
  · rintro ⟨order, h⟩
    exact ⟨distinct_of_resolve h, fun p hp => grounded_of_resolve h (List.mem_append_right _ hp)⟩
  · rintro rfl
    exact resolvesTo_resolve plan
  · exact resolve_of_resolvesTo

/-- One that hangs off a circle is reported before the circle if it is declared first. -/
example : resolve ⟨[.fixed "start"], [.custom "loose" "left", .custom "left" "right",
    .custom "right" "left"]⟩ = .error (.unknownAnchor "loose" "left") := by
  decide +kernel

end PriorityPlan

end EntityPipeline
