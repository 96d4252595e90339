-- What a generator requires. Composing a generator goes through the names that it leads to and that
-- are not composed yet. It succeeds if the catalog has all of them, none of them leads back to itself
-- and all can be enlisted, and then these names join. Otherwise it fails on one of them.
import EntityPipeline.Proofs.Run.Histories

namespace EntityPipeline

variable {σ : Type}

theorem Reached.exists_lookup {catalog : Catalog σ} {dependencies : List String}
    {g : Generator σ} (h : Reached catalog dependencies g) :
    ∃ name, catalog.lookup name = some g := by
  induction h with
  | named _ hl => exact ⟨_, hl⟩
  | beyond _ _ _ ih => exact ih

namespace Scheduler

variable {s t u : Scheduler σ} {g : Generator σ} {stack members dependencies : List String}
  {name other owner : String} {failure : Failure}

theorem Honest.name_eq {catalog : Catalog σ} (hc : Honest catalog)
    (hl : catalog.lookup name = some g) : g.name = name := by
  obtain ⟨before, after, heq, -⟩ := List.lookup_eq_some_iff.1 hl
  exact hc (name, g) (by simp [heq])

/-! ## Names that a generator leads to -/

/-- What is composed under a name when a generator is: that generator under its own name, and what
the catalog has under the others. -/
def chosen (s : Scheduler σ) (g : Generator σ) (name : String) : Option (Generator σ) :=
  if name = g.name then some g else s.catalog.lookup name

/-- What is composed under a name declares another one as a dependency. -/
def Asks (s : Scheduler σ) (g : Generator σ) (name dependency : String) : Prop :=
  ∃ h, s.chosen g name = some h ∧ dependency ∈ h.dependsOn

/-- A name needs another one that is not composed yet. -/
def Needs (s : Scheduler σ) (g : Generator σ) (name dependency : String) : Prop :=
  s.Asks g name dependency ∧ s.isComposed dependency = false

/-- A generator requires its own name and those that it leads to through names that are needed. -/
def Requires (s : Scheduler σ) (g : Generator σ) : String → Prop :=
  Relation.ReflTransGen (s.Needs g) g.name

/-- Nothing is in the way of a generator: of the names that it requires none is missing from the
catalog, none leads back to itself, and all groups are for known priorities. -/
structure Composable (s : Scheduler σ) (g : Generator σ) : Prop where
  offered : ∀ name, s.Requires g name → (s.chosen g name).isSome = true
  acyclic : ∀ name, s.Requires g name → ¬ Relation.TransGen (s.Needs g) name name
  registers : ∀ name h, s.Requires g name → s.chosen g name = some h →
    ∀ entry ∈ h.groups, s.order.contains entry.1 = true

/-- A walk through names that are required, each of which needs the next. It ends where it begins
and comes nowhere else twice. -/
structure ClosedWalk (s : Scheduler σ) (g : Generator σ) (members : List String) : Prop where
  returns : members.head? = members.getLast?
  moves : 2 ≤ members.length
  distinct : members.dropLast.Nodup
  needs : members.IsChain (s.Needs g)
  required : ∀ member ∈ members, s.Requires g member

/-- What a failed composition may be put down to: a name that is missing from the catalog, a closed
walk, or a group for an unknown priority. -/
inductive Obstacle (s : Scheduler σ) (g : Generator σ) : Failure → Prop
  | missing {owner dependency : String} : s.Requires g owner → s.Needs g owner dependency →
      s.catalog.lookup dependency = none →
      Obstacle s g (.unknownGenerator dependency (some owner))
  | circle {members : List String} : s.ClosedWalk g members →
      Obstacle s g (.cyclicDependency members)
  | refused {found : Generator σ} {priority : String} : s.Requires g found.name →
      s.chosen g found.name = some found → priority ∈ found.groups.map Prod.fst →
      s.order.contains priority = false → Obstacle s g (.unknownPriority priority found.name)

theorem chosen_self (s : Scheduler σ) (g : Generator σ) : s.chosen g g.name = some g :=
  if_pos rfl

theorem ClosedWalk.transGen (h : s.ClosedWalk g members) :
    ∃ name, s.Requires g name ∧ Relation.TransGen (s.Needs g) name name := by
  obtain ⟨hreturns, hmoves, -, hneeds, hrequired⟩ := h
  match members with
  | first :: second :: rest =>
    obtain ⟨hfirst, hrest⟩ := List.isChain_cons_cons.1 hneeds
    have hreaches : ∀ member ∈ second :: rest,
        Relation.ReflTransGen (s.Needs g) second member :=
      hrest.induction _ _ (fun _ _ hstep hpath => hpath.tail hstep) fun _ => .refl
    have hlast : first ∈ second :: rest := by
      rw [List.getLast?_cons_cons, List.head?_cons] at hreturns
      exact List.mem_of_getLast? hreturns.symm
    exact ⟨first, hrequired first List.mem_cons_self, .head' hfirst (hreaches first hlast)⟩

/-- Something is in the way where composing fails. -/
theorem Obstacle.not_composable (h : s.Obstacle g failure) : ¬ s.Composable g := by
  intro hcomposable
  cases h with
  | @missing owner dependency howner hneeds hnone =>
    by_cases hself : dependency = g.name
    · subst hself
      exact hcomposable.acyclic g.name .refl (.tail' howner hneeds)
    · have hoffered := hcomposable.offered dependency (howner.tail hneeds)
      rw [chosen, if_neg hself, hnone] at hoffered
      cases hoffered
  | circle hwalk =>
    obtain ⟨name, hname, hcircle⟩ := hwalk.transGen
    exact hcomposable.acyclic name hname hcircle
  | refused hname hchosen hpriority hunknown =>
    obtain ⟨entry, hentry, rfl⟩ := List.mem_map.1 hpriority
    rw [hcomposable.registers _ _ hname hchosen entry hentry] at hunknown
    cases hunknown

/-! ## On the way -/

/-- A later scheduler has the priorities and the catalog of an earlier one, and whatever is composed
there. -/
structure Extends (s t : Scheduler σ) : Prop where
  order : t.order = s.order
  catalog : t.catalog = s.catalog
  composed : ∀ name, s.isComposed name = true → t.isComposed name = true

theorem Extends.refl (s : Scheduler σ) : s.Extends s := ⟨rfl, rfl, fun _ => id⟩

theorem Extends.enlist (h : s.Extends t) (he : t.enlist g = .ok u) : s.Extends u := by
  refine ⟨?_, (catalog_enlist he).trans h.catalog,
    fun name hname => (isComposed_enlist he).2 (Or.inl (h.composed name hname))⟩
  obtain ⟨-, rfl⟩ := enlist_eq he
  exact h.order

theorem Extends.grow (h : s.Extends t) (hgrow : Grows stack t u) : s.Extends u := by
  induction hgrow with
  | refl => exact h
  | enlist _ _ _ _ he ih => exact ih.enlist he

theorem Extends.not_isComposed (h : s.Extends t) (hn : ¬ t.isComposed name = true) :
    s.isComposed name = false :=
  Bool.eq_false_iff.2 (mt (h.composed name) hn)

/-- The stack leads from a generator to the one whose dependencies are composed, each name on it
being needed by the one before. -/
structure LeadsTo (s : Scheduler σ) (g : Generator σ) (stack : List String) (owner : String) :
    Prop where
  begins : stack.head? = some g.name
  ends : stack.getLast? = some owner
  needs : stack.IsChain (s.Needs g)
  distinct : stack.Nodup

theorem LeadsTo.begin (s : Scheduler σ) (g : Generator σ) : s.LeadsTo g [g.name] g.name :=
  ⟨rfl, rfl, .singleton _, List.nodup_singleton _⟩

theorem LeadsTo.required (h : s.LeadsTo g stack owner) : ∀ name ∈ stack, s.Requires g name := by
  refine h.needs.induction _ _ (fun _ _ hstep hpath => hpath.tail hstep) fun hne => ?_
  rw [Option.some.inj ((List.head?_eq_some_head hne).symm.trans h.begins)]
  exact .refl

theorem LeadsTo.requires_owner (h : s.LeadsTo g stack owner) : s.Requires g owner :=
  h.required owner (List.mem_of_getLast? h.ends)

theorem LeadsTo.mem_stack (h : s.LeadsTo g stack owner) : g.name ∈ stack :=
  List.mem_of_head? h.begins

theorem LeadsTo.push (h : s.LeadsTo g stack owner) (hneeds : s.Needs g owner name)
    (hnew : name ∉ stack) : s.LeadsTo g (stack ++ [name]) name := by
  refine ⟨?_, List.getLast?_concat, ?_, ?_⟩
  · rw [List.head?_append, h.begins]
    rfl
  · refine h.needs.append (.singleton _) fun last hlast first hfirst => ?_
    rw [Option.mem_def, h.ends, Option.some.injEq] at hlast
    rw [Option.mem_def, List.head?_cons, Option.some.injEq] at hfirst
    exact hlast ▸ hfirst ▸ hneeds
  · exact h.distinct.append (List.nodup_singleton _) (List.disjoint_singleton.2 hnew)

theorem exists_dropWhile_eq_cons (hon : name ∈ stack) :
    ∃ rest, stack.dropWhile (· != name) = name :: rest := by
  induction stack with
  | nil => cases hon
  | cons first stack ih =>
    by_cases hfirst : first = name
    · exact ⟨stack, by simp [hfirst]⟩
    · obtain ⟨rest, hrest⟩ := ih ((List.mem_cons.1 hon).resolve_left (Ne.symm hfirst))
      exact ⟨rest, by simp [hfirst, hrest]⟩

/-- A name on the stack that is needed again closes a walk. -/
theorem LeadsTo.closedWalk (h : s.LeadsTo g stack owner) (hneeds : s.Needs g owner name)
    (hon : name ∈ stack) : s.ClosedWalk g (closedCycle stack name) := by
  obtain ⟨rest, hrest⟩ := exists_dropWhile_eq_cons hon
  have hsuffix : name :: rest <:+ stack := hrest ▸ List.dropWhile_suffix _
  have hlast : (name :: rest).getLast? = some owner := by
    obtain ⟨before, hbefore⟩ := hsuffix
    rw [← h.ends, ← hbefore]
    exact (List.getLast?_append_of_ne_nil _ (List.cons_ne_nil _ _)).symm
  rw [closedCycle, hrest]
  refine ⟨?_, ?_, ?_, ?_, ?_⟩
  · rw [List.getLast?_concat]
    rfl
  · simp
  · rw [List.dropLast_concat]
    exact h.distinct.sublist hsuffix.sublist
  · refine (h.needs.suffix hsuffix).append (.singleton _) fun last hin first hfirst => ?_
    rw [Option.mem_def, hlast, Option.some.injEq] at hin
    rw [Option.mem_def, List.head?_cons, Option.some.injEq] at hfirst
    exact hin ▸ hfirst ▸ hneeds
  · refine List.forall_mem_append.2 ⟨fun member hin => h.required member (hsuffix.subset hin), ?_⟩
    exact List.forall_mem_singleton.2 (h.required name hon)

/-! ## What composing comes to -/

theorem unknownPriority_of_enlist (he : s.enlist g = .error failure) :
    ∃ priority ∈ g.groups.map Prod.fst, s.order.contains priority = false ∧
      failure = .unknownPriority priority g.name := by
  unfold enlist at he
  split at he
  · rename_i priority hfound
    cases he
    exact ⟨priority, List.mem_of_find?_eq_some hfound, by simpa using List.find?_some hfound, rfl⟩
  · cases he

/-- A dependency that is begun goes on the stack and is chosen from the catalog. -/
theorem LeadsTo.begins_dependency {found : Generator σ} (h : s.LeadsTo g stack owner)
    (hasks : s.Asks g owner found.name) (hnew : s.isComposed found.name = false)
    (hl : s.catalog.lookup found.name = some found) (hoff : ¬ stack.contains found.name = true) :
    s.LeadsTo g (stack ++ [found.name]) found.name ∧ s.chosen g found.name = some found := by
  have hnotMem := mt List.contains_iff_mem.2 hoff
  have hother : found.name ≠ g.name := fun hself => hnotMem (hself ▸ h.mem_stack)
  exact ⟨h.push ⟨hasks, hnew⟩ hnotMem, (if_neg hother).trans hl⟩

/-- Composing dependencies adds only names that are required, and fails only where something is in
the way. -/
theorem composeEach_requires (hhonest : Honest s.catalog) (hextends : s.Extends t)
    (hleads : s.LeadsTo g stack owner)
    (hasks : ∀ dependency ∈ dependencies, s.Asks g owner dependency) :
    (∀ name, (composeEach s.catalog stack owner t dependencies).1.isComposed name = true →
        t.isComposed name = true ∨ s.Requires g name) ∧
      ∀ failure, (composeEach s.catalog stack owner t dependencies).2 = .error failure →
        s.Obstacle g failure := by
  -- `t` and the stack change on the way, and what is needed is told throughout by `s`
  fun_induction composeEach s.catalog stack owner t dependencies with
  | case1 => exact ⟨fun _ => Or.inl, by simp⟩
  | case2 stack owner t dependency rest hc ih =>
    exact ih hextends hleads (List.forall_mem_cons.1 hasks).2
  -- the catalog has nothing for the dependency
  | case3 stack owner t dependency rest hc hl =>
    refine ⟨fun _ => Or.inl, ?_⟩
    rintro _ ⟨⟩
    exact .missing hleads.requires_owner ⟨(List.forall_mem_cons.1 hasks).1,
      hextends.not_isComposed hc⟩ hl
  | case4 stack owner t dependency rest hn found hl hc ih =>
    rw [hhonest.name_eq hl] at hc
    exact absurd hc hn
  -- the dependency is on the stack
  | case5 stack owner t dependency rest hn found hl hc hs =>
    have hname := hhonest.name_eq hl
    have hneeds : s.Needs g owner found.name := hname ▸ ⟨(List.forall_mem_cons.1 hasks).1,
      hextends.not_isComposed hn⟩
    refine ⟨fun _ => Or.inl, ?_⟩
    rintro _ ⟨⟩
    exact .circle (hleads.closedWalk hneeds (List.contains_iff_mem.1 hs))
  -- the dependency is begun: its own dependencies fail, it is refused, or it joins
  | case6 stack owner t dependency rest hn found hl hc hs done e hd ih =>
    obtain rfl := hhonest.name_eq hl
    obtain ⟨hpush, hchosen⟩ := hleads.begins_dependency (List.forall_mem_cons.1 hasks).1
      (hextends.not_isComposed hn) hl hs
    obtain ⟨hadds, hfails⟩ := ih hextends hpush fun d hin => ⟨found, hchosen, hin⟩
    refine ⟨hadds, ?_⟩
    rintro _ ⟨⟩
    exact hfails e hd
  | case7 stack owner t dependency rest hn found hl hc hs done hd e he ih =>
    obtain rfl := hhonest.name_eq hl
    obtain ⟨hpush, hchosen⟩ := hleads.begins_dependency (List.forall_mem_cons.1 hasks).1
      (hextends.not_isComposed hn) hl hs
    obtain ⟨hadds, -⟩ := ih hextends hpush fun d hin => ⟨found, hchosen, hin⟩
    obtain ⟨hgrow, -⟩ : Grows (stack ++ [found.name]) t done.1 ∧ _ :=
      composeEach_grows hextends.catalog
    obtain ⟨priority, hpriority, hunknown, rfl⟩ := unknownPriority_of_enlist he
    refine ⟨hadds, ?_⟩
    rintro _ ⟨⟩
    exact .refused hpush.requires_owner hchosen hpriority ((hextends.grow hgrow).order ▸ hunknown)
  | case8 stack owner t dependency rest hn found hl hc hs done hd u he ih1 ih2 =>
    obtain rfl := hhonest.name_eq hl
    obtain ⟨hfirst, hrest⟩ := List.forall_mem_cons.1 hasks
    obtain ⟨hpush, hchosen⟩ := hleads.begins_dependency hfirst (hextends.not_isComposed hn) hl hs
    obtain ⟨hadds, -⟩ := ih1 hextends hpush fun d hin => ⟨found, hchosen, hin⟩
    obtain ⟨hgrow, -⟩ : Grows (stack ++ [found.name]) t done.1 ∧ _ :=
      composeEach_grows hextends.catalog
    obtain ⟨hmore, hfails⟩ := ih2 ((hextends.grow hgrow).enlist he) hleads hrest
    refine ⟨fun name hname => ?_, hfails⟩
    rcases hmore name hname with hcomposed | hrequired
    · rcases (isComposed_enlist he).1 hcomposed with hdone | rfl
      · exact hadds name hdone
      · exact Or.inr hpush.requires_owner
    · exact Or.inr hrequired

/-- Composing adds only names that are required, and fails only where something is in the way. -/
theorem compose_requires (hhonest : Honest s.catalog) (hn : s.isComposed g.name = false) :
    (∀ name, (s.compose g).1.isComposed name = true → s.isComposed name = true ∨
        s.Requires g name) ∧
      ∀ failure, (s.compose g).2 = .error failure → s.Obstacle g failure := by
  obtain ⟨hadds, hfails⟩ := composeEach_requires hhonest (.refl s) (.begin s g)
    fun d hin => ⟨g, s.chosen_self g, hin⟩
  obtain ⟨hgrow, -⟩ : Grows [g.name] s
    (composeEach s.catalog [g.name] g.name s g.dependsOn).1 ∧ _ := composeEach_grows rfl
  unfold compose
  rw [if_neg (by simp [hn])]
  dsimp only
  split
  · rename_i e hd
    refine ⟨hadds, ?_⟩
    rintro _ ⟨⟩
    exact hfails e hd
  · split
    · rename_i e he
      obtain ⟨priority, hpriority, hunknown, rfl⟩ := unknownPriority_of_enlist he
      refine ⟨hadds, ?_⟩
      rintro _ ⟨⟩
      exact .refused .refl (s.chosen_self g) hpriority
        (((Extends.refl s).grow hgrow).order ▸ hunknown)
    · rename_i u he
      refine ⟨fun name hname => ?_, by simp⟩
      rcases (isComposed_enlist he).1 hname with hdone | rfl
      · exact hadds name hdone
      · exact Or.inr .refl

/-! ## What a success adds -/

/-- What a scheduler grows by stands in it after what it depends on. -/
theorem Grows.ordered (hgrow : Grows stack s t) (hhonest : Honest s.catalog) :
    ∃ added, t.composed = s.composed ++ added ∧
      ∀ before entry after, added = before ++ entry :: after →
        ∀ d ∈ entry.2.dependsOn, s.isComposed d = true ∨ d ∈ before.map Prod.fst := by
  induction hgrow with
  | refl => exact ⟨[], (List.append_nil _).symm, by simp⟩
  | @enlist t u found hgrow _ _ hd he ih =>
    obtain ⟨added, hcomposed, hordered⟩ := ih
    have hgenerators : t.generators = s.generators ++ added.map Prod.fst := by
      simp [generators, hcomposed]
    have hcatalog := hgrow.catalog_eq
    obtain ⟨-, rfl⟩ := enlist_eq he
    refine ⟨added ++ [(found.name, ⟨found.dependsOn, false⟩)], by simp [hcomposed], ?_⟩
    intro before entry after heq d hin
    rcases List.eq_nil_or_concat after with rfl | ⟨init, last, rfl⟩
    · obtain ⟨rfl, hlast⟩ := List.append_inj' heq rfl
      cases hlast
      have hmem := (hd d hin).mem_generators (hcatalog ▸ hhonest)
      rw [hgenerators, List.mem_append] at hmem
      exact hmem.imp_left mem_generators.1
    · have hsplit : added ++ [(found.name, ⟨found.dependsOn, false⟩)] =
          (before ++ entry :: init) ++ [last] := by simpa using heq
      exact hordered before entry init (List.append_inj' hsplit rfl).1 d hin

/-- A composition that succeeds adds the names that a generator requires, each after its dependencies
and that of the generator last. Below the generator, the catalog has what is added. -/
structure Adds (s : Scheduler σ) (g : Generator σ) (t : Scheduler σ)
    (joining : List (Generator σ)) : Prop where
  joined : Joined s t (joining ++ [g])
  exactly : ∀ name, name ∈ (joining ++ [g]).map Generator.name ↔ s.Requires g name
  chosen : ∀ found ∈ joining ++ [g], s.chosen g found.name = some found
  ordered : ∀ before found after, joining ++ [g] = before ++ found :: after →
    ∀ d ∈ found.dependsOn, s.isComposed d = true ∨ d ∈ before.map Generator.name

theorem exists_adds (hhonest : Honest s.catalog) (hn : s.isComposed g.name = false)
    (hok : (s.compose g).2 = .ok true) : ∃ joining, s.Adds g (s.compose g).1 joining := by
  obtain ⟨hrequires, -⟩ := compose_requires hhonest hn
  obtain ⟨added, hadded, hordered⟩ := (compose_grows s g).ordered hhonest
  have hcases := compose_cases s g
  generalize hdone : s.compose g = done at hok hrequires hadded hcases ⊢
  cases hcases with
  | again _ => cases hok
  | fails _ _ _ _ => cases hok
  | @joins t joining _ hreached hjoined =>
    obtain rfl := List.append_cancel_left (hadded.symm.trans hjoined.composed)
    have hchosen : ∀ found ∈ joining ++ [g], s.chosen g found.name = some found := by
      refine List.forall_mem_append.2 ⟨fun found hin => ?_,
        List.forall_mem_singleton.2 (s.chosen_self g)⟩
      obtain ⟨name, hl⟩ := (hreached found hin).exists_lookup
      have hother : found.name ≠ g.name := by
        have hnodup := hjoined.new.1
        rw [List.map_append, List.nodup_append] at hnodup
        exact hnodup.2.2 _ (List.mem_map_of_mem hin) _ (by simp)
      exact (if_neg hother).trans (hhonest.name_eq hl ▸ hl)
    have hordered' : ∀ before found after, joining ++ [g] = before ++ found :: after →
        ∀ d ∈ found.dependsOn, s.isComposed d = true ∨ d ∈ before.map Generator.name := by
      intro before found after heq d hin
      have hbefore := hordered (before.map _) _ (after.map _)
        (by rw [heq, List.map_append, List.map_cons]) d hin
      rwa [List.map_map] at hbefore
    refine ⟨joining, hjoined, fun name => ⟨fun hin => ?_, fun hrequired => ?_⟩, hchosen, hordered'⟩
    · rcases hrequires name (hjoined.isComposed.2 (Or.inr hin)) with hcomposed | hrequired
      · obtain ⟨found, hfound, rfl⟩ := List.mem_map.1 hin
        rw [hjoined.new.2 found hfound] at hcomposed
        cases hcomposed
      · exact hrequired
    · induction hrequired with
      | refl => simp
      | @tail name dependency _ hneeds ih =>
        obtain ⟨found, hfound, rfl⟩ := List.mem_map.1 ih
        obtain ⟨⟨other, hother, hin⟩, hnew⟩ := hneeds
        obtain rfl := Option.some.inj ((hchosen found hfound).symm.trans hother)
        have hmem := (hjoined.provided found hfound dependency hin).mem_generators
          (hjoined.catalog ▸ hhonest)
        rw [mem_generators, hjoined.isComposed, hnew] at hmem
        exact hmem.resolve_left Bool.false_ne_true

/-- Of names that are added, one that needs another stands after it. -/
theorem Adds.idxOf_lt {joining : List (Generator σ)} (h : s.Adds g t joining)
    (hname : name ∈ (joining ++ [g]).map Generator.name) (hneeds : s.Needs g name other) :
    other ∈ (joining ++ [g]).map Generator.name ∧
      ((joining ++ [g]).map Generator.name).idxOf other <
        ((joining ++ [g]).map Generator.name).idxOf name := by
  obtain ⟨found, hfound, rfl⟩ := List.mem_map.1 hname
  obtain ⟨⟨wanted, hwanted, hin⟩, hnew⟩ := hneeds
  obtain rfl := Option.some.inj ((h.chosen found hfound).symm.trans hwanted)
  obtain ⟨before, after, heq⟩ := List.append_of_mem hfound
  have hbefore : other ∈ before.map Generator.name := by
    refine (h.ordered before found after heq other hin).resolve_left ?_
    simp [hnew]
  have hnames : (joining ++ [g]).map Generator.name =
      before.map Generator.name ++ found.name :: after.map Generator.name := by
    rw [heq, List.map_append, List.map_cons]
  exact ⟨hnames ▸ List.mem_append_left _ hbefore,
    idxOf_lt_of_append hnames h.joined.new.1 hbefore⟩

/-- Nothing was in the way of a generator whose composition succeeded. -/
theorem Adds.composable {joining : List (Generator σ)} (h : s.Adds g t joining) :
    s.Composable g := by
  have hchosen : ∀ name, s.Requires g name → ∃ found ∈ joining ++ [g],
      found.name = name ∧ s.chosen g name = some found := by
    intro name hname
    obtain ⟨found, hfound, rfl⟩ := List.mem_map.1 ((h.exactly name).2 hname)
    exact ⟨found, hfound, rfl, h.chosen found hfound⟩
  refine ⟨fun name hname => ?_, fun name hname hcircle => ?_, fun name wanted hname hwanted => ?_⟩
  · obtain ⟨found, -, -, hfound⟩ := hchosen name hname
    rw [hfound]
    rfl
  · -- along what is needed, places get smaller
    have hfalls : ∀ other, Relation.TransGen (s.Needs g) name other →
        other ∈ (joining ++ [g]).map Generator.name ∧
          ((joining ++ [g]).map Generator.name).idxOf other <
            ((joining ++ [g]).map Generator.name).idxOf name := by
      intro other hpath
      induction hpath with
      | single hneeds => exact h.idxOf_lt ((h.exactly name).2 hname) hneeds
      | tail _ hneeds ih =>
        obtain ⟨hmem, hlt⟩ := h.idxOf_lt ih.1 hneeds
        exact ⟨hmem, hlt.trans ih.2⟩
    exact lt_irrefl _ (hfalls name hcircle).2
  · obtain ⟨found, hmem, -, hfound⟩ := hchosen name hname
    obtain rfl := Option.some.inj (hfound.symm.trans hwanted)
    exact h.joined.known found hmem

/-! ## Through composed generators -/

/-- A name depends on another one: it is composed and declared that one, or what is to be composed
under it does. -/
def DependsOn (s : Scheduler σ) (g : Generator σ) (name dependency : String) : Prop :=
  s.Declares name dependency ∨ s.isComposed name = false ∧ s.Asks g name dependency

theorem Layered.mem_of_declares (h : s.Layered) (hd : s.Declares name other) :
    other ∈ s.generators := by
  obtain ⟨dependsOn, hname, hin⟩ := hd
  obtain ⟨composed, hlookup, rfl⟩ := Option.map_eq_some_iff.1 hname
  obtain ⟨before, after, heq, -⟩ := List.lookup_eq_some_iff.1 hlookup
  rw [generators, heq, List.map_append]
  exact List.mem_append_left _ (h.below before name composed after heq other hin)

/-- Composed generators lead to none that is not composed, so that it makes no difference to go
through them. -/
theorem Layered.transGen_iff (h : s.Layered) (hname : s.isComposed name = false)
    (hother : s.isComposed other = false) :
    Relation.TransGen (s.Needs g) name other ↔ Relation.TransGen (s.DependsOn g) name other := by
  constructor
  · intro hpath
    induction hpath with
    | single hneeds => exact .single (Or.inr ⟨hname, hneeds.1⟩)
    | @tail middle last hpath hneeds ih =>
      have hmiddle : s.isComposed middle = false := by
        cases hpath with
        | single hneeds => exact hneeds.2
        | tail _ hneeds => exact hneeds.2
      exact (ih hmiddle).tail (Or.inr ⟨hmiddle, hneeds.1⟩)
  · intro hpath
    induction hpath with
    | single hstep =>
      rcases hstep with hdeclares | ⟨-, hasks⟩
      · rw [mem_generators.1 (h.mem_of_declares hdeclares)] at hother
        cases hother
      · exact .single ⟨hasks, hother⟩
    | tail _ hstep ih =>
      rcases hstep with hdeclares | ⟨hmiddle, hasks⟩
      · rw [mem_generators.1 (h.mem_of_declares hdeclares)] at hother
        cases hother
      · exact (ih hmiddle).tail ⟨hasks, hother⟩

/-! ## The outcome -/

/-- What becomes of composing a generator is decided by the names that it requires. It comes to one
end, by the rule of the stack, and that is a success if nothing is in the way of the generator; then
these names are added. Otherwise it fails on what is in the way, and on a circle with a closed walk.
Where all that composed generators depend on is composed, it makes no difference if paths may go
through these. -/
structure DecidedByRequirements (s : Scheduler σ) (g : Generator σ) : Prop where
  ends : ∀ r d, Composing.Composes ⟨s, []⟩ (.one g) r d ↔
    d = ⟨(s.compose g).1, []⟩ ∧ r = (s.compose g).2.map fun _ => ()
  succeeds : (s.compose g).2 = .ok true ↔ s.Composable g
  adds : s.Composable g → ∃ joining, s.Adds g (s.compose g).1 joining
  fails : ¬ s.Composable g → ∃ failure, (s.compose g).2 = .error failure ∧ s.Obstacle g failure
  circles : ∀ members, (s.compose g).2 = .error (.cyclicDependency members) →
    s.ClosedWalk g members
  through : s.Layered → ∀ name other, s.isComposed name = false → s.isComposed other = false →
    (Relation.TransGen (s.Needs g) name other ↔ Relation.TransGen (s.DependsOn g) name other)

/-- A generator that is not composed is composed or its composition fails. -/
theorem result_compose (hn : s.isComposed g.name = false) :
    (s.compose g).2 = .ok true ∨ ∃ failure, (s.compose g).2 = .error failure := by
  have hcases := compose_cases s g
  generalize s.compose g = done at hcases
  cases hcases with
  | again hc => exact absurd hc (by simp [hn])
  | joins _ _ _ => exact Or.inl rfl
  | fails _ _ _ _ => exact Or.inr ⟨_, rfl⟩

theorem composing_is_decided_by_requirements (s : Scheduler σ) (g : Generator σ)
    (hhonest : Honest s.catalog) (hn : s.isComposed g.name = false) :
    s.DecidedByRequirements g := by
  obtain ⟨-, hobstacle⟩ := compose_requires hhonest hn
  have hcomposable : (s.compose g).2 = .ok true → s.Composable g := by
    intro hok
    obtain ⟨joining, hadds⟩ := exists_adds hhonest hn hok
    exact hadds.composable
  have hsucceeds : s.Composable g → (s.compose g).2 = .ok true := by
    intro hclear
    refine (result_compose hn).resolve_right ?_
    rintro ⟨failure, hfails⟩
    exact (hobstacle failure hfails).not_composable hclear
  refine ⟨fun _ _ => Composing.composes_iff, ⟨hcomposable, hsucceeds⟩,
    fun hclear => exists_adds hhonest hn (hsucceeds hclear), fun hclear => ?_,
    fun members hfails => ?_, fun hlayered _ _ => hlayered.transGen_iff⟩
  · obtain ⟨failure, hfails⟩ := (result_compose hn).resolve_left (mt hcomposable hclear)
    exact ⟨failure, hfails, hobstacle failure hfails⟩
  · cases hobstacle _ hfails with
    | circle hwalk => exact hwalk

/-- A scheduler with one composed generator, and a catalog in which two generators share what they
depend on and two others depend on each other. -/
def workshop : Scheduler (List String) where
  order := unused.order
  catalog := [("left", ⟨"left", ["base"], []⟩), ("right", ⟨"right", ["base", "tools"], []⟩),
    ("base", ⟨"base", [], [("end", ⟨"first", [noting "a"]⟩)]⟩), ("knot", ⟨"knot", ["loop"], []⟩),
    ("loop", ⟨"loop", ["base", "knot"], []⟩)]
  composed := [("tools", ⟨[], true⟩)]

/-- A roof over both sides can be built, and one that is tied to a knot cannot. -/
theorem roofs_are_decided_by_requirements :
    workshop.Composable ⟨"roof", ["left", "right"], []⟩ ∧
    workshop.ClosedWalk ⟨"roof", ["left", "knot"], []⟩ ["knot", "loop", "knot"] := by
  have hhonest : Honest workshop.catalog := by simp [Honest, workshop]
  constructor
  · exact (composing_is_decided_by_requirements workshop ⟨"roof", ["left", "right"], []⟩ hhonest
      (by cbv)).succeeds.1 (by cbv)
  · exact (composing_is_decided_by_requirements workshop ⟨"roof", ["left", "knot"], []⟩ hhonest
      (by cbv)).circles _ (by cbv)

end Scheduler

end EntityPipeline
