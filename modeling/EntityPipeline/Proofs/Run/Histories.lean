-- Histories of calls. Whatever is called and whatever of it fails, a generator joins at most once
-- and brings its groups then, and what arrives is taken by one run or still waits. A composition
-- that fails leaves behind only dependencies that joined completely, and an empty stack.
import EntityPipeline.Proofs.Run.CompositionStack
import EntityPipeline.Proofs.Run.DependenciesFirst

namespace EntityPipeline

variable {σ : Type}

/-- The groups of a generator as they are queued. -/
def Generator.queued (g : Generator σ) : List (QueuedGroup σ) :=
  g.groups.map fun (priority, group) => ⟨priority, g.name, group⟩

/-- A generator that dependencies lead to: the catalog has it for one of them, or for what one of
those depends on. -/
inductive Reached (catalog : Catalog σ) : List String → Generator σ → Prop
  | named {dependencies dependency g} : dependency ∈ dependencies →
      catalog.lookup dependency = some g → Reached catalog dependencies g
  | beyond {dependencies dependency g d} : dependency ∈ dependencies →
      catalog.lookup dependency = some g → Reached catalog g.dependsOn d →
      Reached catalog dependencies d

theorem Reached.weaken {catalog : Catalog σ} {dependencies others : List String}
    {g : Generator σ} (h : Reached catalog dependencies g)
    (hs : ∀ d ∈ dependencies, d ∈ others) : Reached catalog others g := by
  cases h with
  | named hin hl => exact .named (hs _ hin) hl
  | beyond hin hl hr => exact .beyond (hs _ hin) hl hr

/-- The generators that a failed composition is put down to. -/
def Failure.blamed : Failure → List String
  | .unknownPriority _ generator => [generator]
  | .unknownGenerator _ (some owner) => [owner]
  | .cyclicDependency members => members
  | _ => []

namespace Scheduler

/-! ## Joining -/

/-- Generators joined a scheduler, in order and completely: each is new, all its groups are queued
under known priorities and all it depends on is there. Everything else is as it was. -/
structure Joined (s t : Scheduler σ) (joining : List (Generator σ)) : Prop where
  composed : t.composed = s.composed ++ joining.map fun g => (g.name, ⟨g.dependsOn, false⟩)
  queue : t.queue = s.queue ++ joining.flatMap Generator.queued
  new : (joining.map Generator.name).Nodup ∧ ∀ g ∈ joining, s.isComposed g.name = false
  known : ∀ g ∈ joining, ∀ entry ∈ g.groups, s.order.contains entry.1 = true
  provided : ∀ g ∈ joining, ∀ d ∈ g.dependsOn, t.Provides d
  order : t.order = s.order
  catalog : t.catalog = s.catalog

variable {s t u : Scheduler σ} {g : Generator σ} {joining more : List (Generator σ)}
  {name : String} {stack : List String}

theorem Joined.refl (s : Scheduler σ) : Joined s s [] :=
  ⟨by simp, by simp, by simp, by simp, by simp, rfl, rfl⟩

theorem Joined.generators (h : Joined s t joining) :
    t.generators = s.generators ++ joining.map Generator.name := by
  simp [Scheduler.generators, h.composed]

theorem Joined.isComposed (h : Joined s t joining) : t.isComposed name = true ↔
    s.isComposed name = true ∨ name ∈ joining.map Generator.name := by
  rw [← mem_generators, h.generators, List.mem_append, mem_generators]

theorem Joined.provides {d : String} (h : Joined s t joining) (hp : s.Provides d) :
    t.Provides d := by
  unfold Provides at hp ⊢
  rw [h.catalog]
  exact hp.imp (fun hc => h.isComposed.2 (Or.inl hc)) fun ⟨g, hl, hc⟩ =>
    ⟨g, hl, h.isComposed.2 (Or.inl hc)⟩

theorem Joined.trans (h1 : Joined s t joining) (h2 : Joined t u more) :
    Joined s u (joining ++ more) := by
  have hnew : ∀ g ∈ more, s.isComposed g.name = false ∧ g.name ∉ joining.map Generator.name := by
    intro g hg
    have hn := Bool.eq_false_iff.1 (h2.new.2 g hg)
    rw [ne_eq, h1.isComposed, not_or] at hn
    exact ⟨Bool.eq_false_iff.2 hn.1, hn.2⟩
  refine ⟨?_, ?_, ⟨?_, ?_⟩, ?_, ?_, h2.order.trans h1.order, h2.catalog.trans h1.catalog⟩
  · simp [h2.composed, h1.composed]
  · simp [h2.queue, h1.queue]
  · rw [List.map_append]
    refine h1.new.1.append h2.new.1 fun name hin hin' => ?_
    obtain ⟨g, hg, rfl⟩ := List.mem_map.1 hin'
    exact (hnew g hg).2 hin
  · exact List.forall_mem_append.2 ⟨h1.new.2, fun g hg => (hnew g hg).1⟩
  · exact List.forall_mem_append.2 ⟨h1.known, h1.order ▸ h2.known⟩
  · refine List.forall_mem_append.2 ⟨fun g hg d hd => ?_, h2.provided⟩
    exact h2.provides (h1.provided g hg d hd)

/-- A generator that is enlisted after its dependencies joins. -/
theorem joined_of_enlist (hn : s.isComposed g.name = false) (hd : ∀ d ∈ g.dependsOn, s.Provides d)
    (he : s.enlist g = .ok t) : Joined s t [g] := by
  have hprovided : ∀ d ∈ g.dependsOn, t.Provides d := fun d hin => (hd d hin).enlist he
  obtain ⟨hknown, rfl⟩ := enlist_eq he
  exact ⟨rfl, by simp [Generator.queued], by simpa using hn, by simpa using hknown,
    by simpa using hprovided, rfl, rfl⟩

/-- The cycle that a name closes goes through generators of the stack. -/
theorem mem_closedCycle {member : String} (hn : name ∈ stack)
    (h : member ∈ closedCycle stack name) : member ∈ stack := by
  rcases List.mem_append.1 h with hin | hin
  · exact (List.dropWhile_sublist _).subset hin
  · exact List.mem_singleton.1 hin ▸ hn

theorem not_isComposed_of_enlist {e : Failure} (hn : s.isComposed g.name = false)
    (h : s.enlist g = .error e) : ∀ name ∈ e.blamed, s.isComposed name = false := by
  unfold enlist at h
  split at h
  · cases h
    simpa [Failure.blamed] using hn
  · cases h

theorem not_isComposed_of_push (hstack : ∀ name ∈ stack, s.isComposed name = false)
    (hc : ¬s.isComposed g.name = true) :
    ∀ name ∈ stack ++ [g.name], s.isComposed name = false :=
  List.forall_mem_append.2 ⟨hstack, by simpa using hc⟩

/-- What joined for the sake of dependencies: generators they lead to. A failure is put down to
generators that did not join. -/
structure JoinedFor (s : Scheduler σ) (dependencies : List String)
    (done : Scheduler σ × Except Failure Unit) (joining : List (Generator σ)) : Prop where
  joined : Joined s done.1 joining
  reached : ∀ g ∈ joining, Reached s.catalog dependencies g
  blamed : ∀ e, done.2 = .error e → ∀ name ∈ e.blamed, done.1.isComposed name = false

theorem composeEach_joined {catalog : Catalog σ} {owner : String} {dependencies : List String}
    (hcat : s.catalog = catalog) (howner : owner ∈ stack)
    (hstack : ∀ name ∈ stack, s.isComposed name = false) :
    ∃ joining, JoinedFor s dependencies (composeEach catalog stack owner s dependencies)
      joining := by
  fun_induction composeEach catalog stack owner s dependencies with
  | case1 => exact ⟨[], .refl _, by simp, by simp⟩
  | case2 stack owner s dependency rest _ ih =>
    obtain ⟨joining, h⟩ := ih hcat howner hstack
    exact ⟨joining, h.joined, fun g hg => (h.reached g hg).weaken fun _ => .tail _, h.blamed⟩
  | case3 stack owner s dependency rest _ _ =>
    refine ⟨[], .refl _, by simp, ?_⟩
    rintro e ⟨⟩ name hname
    exact hstack name (List.mem_singleton.1 hname ▸ howner)
  | case4 stack owner s dependency rest _ g _ _ ih =>
    obtain ⟨joining, h⟩ := ih hcat howner hstack
    exact ⟨joining, h.joined, fun g hg => (h.reached g hg).weaken fun _ => .tail _, h.blamed⟩
  | case5 stack owner s dependency rest _ g _ _ hs =>
    refine ⟨[], .refl _, by simp, ?_⟩
    rintro e ⟨⟩ name hname
    exact hstack name (mem_closedCycle (List.contains_iff_mem.1 hs) hname)
  -- what the dependency needs joins first, and then the dependency unless it is refused
  | case6 stack owner s dependency rest hn g hl hc hs done e hd ih =>
    subst hcat
    obtain ⟨joining, h⟩ := ih rfl (by simp) (not_isComposed_of_push hstack hc)
    refine ⟨joining, h.joined, fun d hin => .beyond List.mem_cons_self hl (h.reached d hin), ?_⟩
    rintro _ ⟨⟩
    exact h.blamed e hd
  | case7 stack owner s dependency rest hn g hl hc hs done hd e he ih =>
    subst hcat
    have hpush := not_isComposed_of_push hstack hc
    obtain ⟨joining, h⟩ := ih rfl (by simp) hpush
    obtain ⟨hgrow, _⟩ : Grows (stack ++ [g.name]) s done.1 ∧ _ := composeEach_grows rfl
    refine ⟨joining, h.joined, fun d hin => .beyond List.mem_cons_self hl (h.reached d hin), ?_⟩
    rintro _ ⟨⟩
    have hnew := hgrow.isComposed_eq_false (by simp) (hpush g.name (by simp))
    exact not_isComposed_of_enlist hnew he
  | case8 stack owner s dependency rest hn g hl hc hs done hd t he ih1 ih2 =>
    subst hcat
    have hpush := not_isComposed_of_push hstack hc
    obtain ⟨joining, h⟩ := ih1 rfl (by simp) hpush
    obtain ⟨hgrow, hprovides⟩ : Grows (stack ++ [g.name]) s done.1 ∧ _ := composeEach_grows rfl
    have hnew := hgrow.isComposed_eq_false (by simp) (hpush g.name (by simp))
    have hg : Joined s t (joining ++ [g]) :=
      h.joined.trans (joined_of_enlist hnew (hprovides hd) he)
    have hstack' : ∀ name ∈ stack, t.isComposed name = false := by
      intro name hin
      have hmore := Grows.compose hgrow (mt List.contains_iff_mem.2 hs) (Bool.eq_false_iff.2 hc)
        (hprovides hd) he
      exact hmore.isComposed_eq_false hin (hstack name hin)
    obtain ⟨more, hmore⟩ := ih2 hg.catalog howner hstack'
    refine ⟨(joining ++ [g]) ++ more, hg.trans hmore.joined, ?_, hmore.blamed⟩
    refine List.forall_mem_append.2 ⟨List.forall_mem_append.2 ⟨fun d hin => ?_, ?_⟩, ?_⟩
    · exact .beyond List.mem_cons_self hl (h.reached d hin)
    · simpa using Reached.named List.mem_cons_self hl
    · intro d hin
      exact (hg.catalog ▸ hmore.reached d hin).weaken fun _ => .tail _

/-- What composing a generator comes to: it is composed already and nothing happens, it joins after
generators that its dependencies lead to, or it fails and only some of those join. -/
inductive ComesTo (s : Scheduler σ) (g : Generator σ) : Scheduler σ × Except Failure Bool → Prop
  | again : s.isComposed g.name = true → ComesTo s g (s, .ok false)
  | joins {t : Scheduler σ} {joining : List (Generator σ)} : s.isComposed g.name = false →
      (∀ d ∈ joining, Reached s.catalog g.dependsOn d) → Joined s t (joining ++ [g]) →
      ComesTo s g (t, .ok true)
  | fails {t : Scheduler σ} {joining : List (Generator σ)} {e : Failure} :
      s.isComposed g.name = false → (∀ d ∈ joining, Reached s.catalog g.dependsOn d) →
      Joined s t joining → (∀ name ∈ g.name :: e.blamed, t.isComposed name = false) →
      ComesTo s g (t, .error e)

theorem compose_cases (s : Scheduler σ) (g : Generator σ) : ComesTo s g (s.compose g) := by
  unfold compose
  split
  · exact .again ‹_›
  rename_i hc
  have hn := Bool.eq_false_iff.2 hc
  obtain ⟨joining, h⟩ : ∃ joining, JoinedFor s g.dependsOn
      (composeEach s.catalog [g.name] g.name s g.dependsOn) joining :=
    composeEach_joined rfl (List.mem_singleton_self g.name) (by simpa using hn)
  obtain ⟨hgrow, hprovides⟩ : Grows [g.name] s
    (composeEach s.catalog [g.name] g.name s g.dependsOn).1 ∧ _ := composeEach_grows rfl
  have hnew := hgrow.isComposed_eq_false (by simp) hn
  dsimp only
  split
  · rename_i e hd
    exact .fails hn h.reached h.joined (List.forall_mem_cons.2 ⟨hnew, h.blamed e hd⟩)
  · rename_i hd
    split
    · rename_i e he
      exact .fails hn h.reached h.joined
        (List.forall_mem_cons.2 ⟨hnew, not_isComposed_of_enlist hnew he⟩)
    · rename_i t he
      exact .joins hn h.reached (h.joined.trans (joined_of_enlist hnew (hprovides hd) he))

/-! ## Calls -/

/-- The groups that arrive with a call. -/
def arriving (s : Scheduler σ) (call : Call σ) : List (QueuedGroup σ) :=
  (s.after call).queue.drop s.queue.length

/-- The groups that generators bring with a call when they join. -/
def contributing (s : Scheduler σ) : Call σ → List (QueuedGroup σ)
  | .compose generator => s.arriving (.compose generator)
  | .composeNamed name => s.arriving (.composeNamed name)
  | _ => []

/-- The generators that join with a call. -/
def newcomers (s : Scheduler σ) (call : Call σ) : List String :=
  (s.after call).generators.drop s.generators.length

/-- The groups that a call takes to run them. -/
def taking (s : Scheduler σ) : Call σ → List (QueuedGroup σ)
  | .run _ =>
    match s.generatorOrder with
    | .error _ => []
    | .ok _ => s.queue
  | _ => []

/-- What calls add up to, each on the scheduler that those before it left. -/
def total {α : Type} (f : Scheduler σ → Call σ → List α) (s : Scheduler σ) :
    List (Call σ) → List α
  | [] => []
  | call :: rest => f s call ++ total f (s.after call) rest

theorem total_concat {α : Type} (f : Scheduler σ → Call σ → List α) (s : Scheduler σ)
    (calls : List (Call σ)) (call : Call σ) :
    s.total f (calls ++ [call]) = s.total f calls ++ f (s.afterAll calls) call := by
  induction calls generalizing s with
  | nil => simp [total, afterAll]
  | cons first rest ih =>
    simp only [List.cons_append, total, ih, List.append_assoc]
    rfl

theorem afterAll_concat (s : Scheduler σ) (calls : List (Call σ)) (call : Call σ) :
    s.afterAll (calls ++ [call]) = (s.afterAll calls).after call := by
  simp [afterAll]

theorem joined_compose (s : Scheduler σ) (g : Generator σ) :
    ∃ joining, Joined s (s.compose g).1 joining := by
  have h := compose_cases s g
  generalize s.compose g = done at h ⊢
  cases h with
  | again => exact ⟨_, .refl s⟩
  | joins _ _ hj => exact ⟨_, hj⟩
  | fails _ _ hj _ => exact ⟨_, hj⟩

/-- Composing a generator of the catalog is composing what the catalog has, or it fails. -/
theorem composeNamed_cases (s : Scheduler σ) (name : String) :
    (s.catalog.lookup name = none ∧
      s.composeNamed name = (s, .error (.unknownGenerator name none))) ∨
    ∃ g, s.catalog.lookup name = some g ∧ s.composeNamed name = s.compose g := by
  unfold composeNamed
  split
  · exact Or.inl ⟨‹_›, rfl⟩
  · exact Or.inr ⟨_, ‹_›, rfl⟩

/-- A group is queued for a generator that is composed, under a known priority, or nothing is. -/
theorem registerGroup_eq_ok {generator priority : String} {group : TaskGroup σ}
    (h : s.registerGroup generator priority group = .ok t) :
    t = { s with queue := s.queue ++ [⟨priority, generator, group⟩] } := by
  unfold registerGroup at h
  split at h
  · cases h
  split at h <;> cases h
  rfl

/-- What a call does: generators join, a group is queued, the catalog changes, a run takes all that
is queued, or nothing happens. -/
inductive Step (s : Scheduler σ) : Call σ → Scheduler σ → Prop
  | composed {g : Generator σ} {t : Scheduler σ} {joining : List (Generator σ)} :
      Joined s t joining → Step s (.compose g) t
  | named {name : String} {t : Scheduler σ} {joining : List (Generator σ)} :
      Joined s t joining → Step s (.composeNamed name) t
  | registered {generator priority group} : Step s (.registerGroup generator priority group)
      { s with queue := s.queue ++ [⟨priority, generator, group⟩] }
  | unregistered {generator priority group} : Step s (.registerGroup generator priority group) s
  | offered {name : String} {g : Generator σ} : Step s (.offer name g) (s.offer name g)
  | begun {state generators} : s.generatorOrder = .ok generators → Step s (.run state) s.begun
  | unordered {state e} : s.generatorOrder = .error e → Step s (.run state) s

theorem step_after (s : Scheduler σ) (call : Call σ) : Step s call (s.after call) := by
  cases call with
  | compose g => exact .composed (joined_compose s g).choose_spec
  | composeNamed name =>
    rw [after]
    rcases composeNamed_cases s name with ⟨_, heq⟩ | ⟨g, _, heq⟩
    · rw [heq]
      exact .named (.refl s)
    · rw [heq]
      exact .named (joined_compose s g).choose_spec
  | registerGroup generator priority group =>
    cases hr : s.registerGroup generator priority group with
    | error e =>
      have hafter : s.after (.registerGroup generator priority group) = s := by simp [after, hr]
      rw [hafter]
      exact .unregistered
    | ok t =>
      have hafter : s.after (.registerGroup generator priority group) = t := by simp [after, hr]
      rw [hafter, registerGroup_eq_ok hr]
      exact .registered
  | offer name g => exact .offered
  | run state =>
    simp only [after, Scheduler.run]
    split
    · exact .unordered ‹_›
    · exact .begun ‹_›

/-- What arrives with a call is what a run takes and what is left, less what was there. -/
theorem queue_after (s : Scheduler σ) (call : Call σ) :
    s.queue ++ s.arriving call = s.taking call ++ (s.after call).queue := by
  have h := step_after s call
  unfold arriving
  generalize s.after call = t at h ⊢
  cases h with
  | composed hj => simp [taking, hj.queue]
  | named hj => simp [taking, hj.queue]
  | registered => simp [taking]
  | unregistered => simp [taking]
  | offered => simp [taking, offer]
  | begun hg => simp [taking, hg, Scheduler.begun]
  | unordered hg => simp [taking, hg]

theorem generators_after (s : Scheduler σ) (call : Call σ) :
    s.generators ++ s.newcomers call = (s.after call).generators := by
  have h := step_after s call
  unfold newcomers
  generalize s.after call = t at h ⊢
  cases h with
  | composed hj => simp [hj.generators]
  | named hj => simp [hj.generators]
  | begun => simp [generators_begun]
  | registered => simp [Scheduler.generators]
  | offered => simp [Scheduler.generators, offer]
  | unregistered => simp
  | unordered => simp

theorem order_after (s : Scheduler σ) (call : Call σ) : (s.after call).order = s.order := by
  have h := step_after s call
  generalize s.after call = t at h ⊢
  cases h with
  | composed hj => exact hj.order
  | named hj => exact hj.order
  | _ => rfl

/-! ## Contributions -/

theorem generator_of_mem_queued {queued : QueuedGroup σ} (h : queued ∈ g.queued) :
    queued.generator = g.name := by
  obtain ⟨entry, _, rfl⟩ := List.mem_map.1 h
  rfl

/-- Generators of other names bring nothing under a name. -/
theorem filter_queued_of_notMem (h : name ∉ joining.map Generator.name) :
    (joining.flatMap Generator.queued).filter (·.generator == name) = [] := by
  refine List.filter_eq_nil_iff.2 fun queued hin => ?_
  obtain ⟨g, hg, hqueued⟩ := List.mem_flatMap.1 hin
  rw [generator_of_mem_queued hqueued, beq_iff_eq]
  exact fun hname => h (hname ▸ List.mem_map_of_mem hg)

/-- Among generators of different names, each brings its own groups under its name. -/
theorem filter_queued_of_mem (hn : (joining.map Generator.name).Nodup) (hg : g ∈ joining) :
    (joining.flatMap Generator.queued).filter (·.generator == g.name) = g.queued := by
  obtain ⟨before, after, rfl⟩ := List.append_of_mem hg
  have hown : g.queued.filter (·.generator == g.name) = g.queued :=
    List.filter_eq_self.2 fun queued hin => by simp [generator_of_mem_queued hin]
  rw [List.map_append, List.map_cons, List.nodup_middle, List.nodup_cons, List.mem_append,
    not_or] at hn
  simp [List.flatMap_append, filter_queued_of_notMem hn.1.1, filter_queued_of_notMem hn.1.2, hown]

/-- What came under a name: nothing while it is not among the composed generators, and from then on
the groups of one generator. -/
inductive Contributed (generators : List String) (name : String) : List (QueuedGroup σ) → Prop
  | nothing : name ∉ generators → Contributed generators name []
  | groups {g : Generator σ} : g.name = name → name ∈ generators →
      Contributed generators name g.queued

theorem Contributed.joined {queued : List (QueuedGroup σ)}
    (h : Contributed s.generators name queued) (hj : Joined s t joining) :
    Contributed t.generators name
      (queued ++ (joining.flatMap Generator.queued).filter (·.generator == name)) := by
  rw [hj.generators]
  cases h with
  | nothing hs =>
    rw [List.nil_append]
    by_cases hin : name ∈ joining.map Generator.name
    · obtain ⟨g, hg, rfl⟩ := List.mem_map.1 hin
      rw [filter_queued_of_mem hj.new.1 hg]
      exact .groups rfl (List.mem_append_right _ hin)
    · rw [filter_queued_of_notMem hin]
      exact .nothing (by simp [hs, hin])
  | groups hname hs =>
    -- nothing that joins has a name that is composed
    have hnot : name ∉ joining.map Generator.name := by
      intro hin
      obtain ⟨g, hg, rfl⟩ := List.mem_map.1 hin
      exact absurd (mem_generators.1 hs) (Bool.eq_false_iff.1 (hj.new.2 g hg))
    rw [filter_queued_of_notMem hnot, List.append_nil]
    exact .groups hname (List.mem_append_left _ hs)

theorem Contributed.after {queued : List (QueuedGroup σ)}
    (h : Contributed s.generators name queued) (call : Call σ) :
    Contributed (s.after call).generators name
      (queued ++ (s.contributing call).filter (·.generator == name)) := by
  have hstep := step_after s call
  have harriving : s.arriving call = (s.after call).queue.drop s.queue.length := rfl
  generalize s.after call = t at hstep harriving ⊢
  cases hstep with
  | composed hj => simpa [contributing, harriving, hj.queue] using h.joined hj
  | named hj => simpa [contributing, harriving, hj.queue] using h.joined hj
  | begun => simpa [contributing, generators_begun] using h
  | registered => simpa [contributing, Scheduler.generators] using h
  | unregistered => simpa [contributing] using h
  | offered => simpa [contributing, offer, Scheduler.generators] using h
  | unordered => simpa [contributing] using h

/-- However often a generator is composed, its groups come once. -/
theorem contributed_afterAll (hc : s.composed = []) (calls : List (Call σ)) (name : String) :
    Contributed (s.afterAll calls).generators name
      ((s.total contributing calls).filter (·.generator == name)) := by
  induction calls using List.reverseRecOn with
  | nil => exact .nothing (by simp [afterAll, Scheduler.generators, hc])
  | append_singleton calls call ih =>
    rw [afterAll_concat, total_concat, List.filter_append]
    exact ih.after call

/-! ## Sequences of calls -/

/-- All that arrives is taken by one run or still waits. -/
theorem queue_afterAll (s : Scheduler σ) (calls : List (Call σ)) :
    s.queue ++ s.total arriving calls = s.total taking calls ++ (s.afterAll calls).queue := by
  induction calls using List.reverseRecOn with
  | nil => simp [afterAll, total]
  | append_singleton calls call ih =>
    rw [afterAll_concat, total_concat, total_concat, ← List.append_assoc, ih, List.append_assoc,
      queue_after, List.append_assoc]

theorem generators_afterAll (s : Scheduler σ) (calls : List (Call σ)) :
    s.generators ++ s.total newcomers calls = (s.afterAll calls).generators := by
  induction calls using List.reverseRecOn with
  | nil => simp [afterAll, total]
  | append_singleton calls call ih =>
    rw [afterAll_concat, total_concat, ← List.append_assoc, ih, generators_after]

theorem order_afterAll (s : Scheduler σ) (calls : List (Call σ)) :
    (s.afterAll calls).order = s.order := by
  induction calls using List.reverseRecOn with
  | nil => rfl
  | append_singleton calls call ih => rw [afterAll_concat, order_after, ih]

/-- A run takes all groups that are queued, leaves none, and runs only tasks of those, unless the
generators have no order: then it takes nothing and does nothing. -/
def RunsWhatItTakes (scheduler : Scheduler σ) (state : σ) : Prop :=
  match scheduler.generatorOrder with
  | .error cause => scheduler.taking (.run state) = [] ∧
      scheduler.run state = (scheduler, ⟨.error cause, state, []⟩)
  | .ok generators => scheduler.taking (.run state) = scheduler.queue ∧
      (scheduler.run state).1.queue = [] ∧ scheduler.RunsInOrder generators state ∧
      ∀ entry ∈ (execute (scheduler.schedule generators) state).ran, ∃ queued,
        scheduler.queue[entry.arrival]? = some queued ∧ entry ∈ queued.entries entry.arrival

/-- Calls account for every generator and every group. After them, what is queued belongs to a
priority and a composed generator; every generator joined once and brought its groups once; every
group that arrived was taken by one run or still waits. So it goes on: whatever is composed next, it
joins completely, or it fails with everything in place and nothing of it queued. -/
structure Account (scheduler : Scheduler σ) (calls : List (Call σ)) : Prop where
  belongs : ∀ queued ∈ (scheduler.afterAll calls).queue,
    queued.priority ∈ scheduler.order.names ∧
      queued.generator ∈ (scheduler.afterAll calls).generators
  joined_once : (scheduler.afterAll calls).generators = scheduler.total newcomers calls ∧
    (scheduler.total newcomers calls).Nodup
  contributed_once : ∀ name, Contributed (scheduler.afterAll calls).generators name
    ((scheduler.total contributing calls).filter (·.generator == name))
  taken_once : scheduler.total arriving calls =
    scheduler.total taking calls ++ (scheduler.afterAll calls).queue
  runs : ∀ state, (scheduler.afterAll calls).RunsWhatItTakes state
  succeeds : ∀ state summary, ((scheduler.afterAll calls).run state).2.result = .ok summary →
    ((scheduler.afterAll calls).run state).1.queue = []
  composes : ∀ g, ComesTo (scheduler.afterAll calls) g ((scheduler.afterAll calls).compose g)
  composes_named : ∀ name,
    ((scheduler.afterAll calls).catalog.lookup name = none ∧
      (scheduler.afterAll calls).composeNamed name =
        (scheduler.afterAll calls, .error (.unknownGenerator name none))) ∨
    ∃ g, (scheduler.afterAll calls).catalog.lookup name = some g ∧
      (scheduler.afterAll calls).composeNamed name = (scheduler.afterAll calls).compose g
  empties_stack : ∀ g r d, Composing.Composes ⟨scheduler.afterAll calls, []⟩ (.one g) r d ↔
    d = ⟨((scheduler.afterAll calls).compose g).1, []⟩ ∧
      r = ((scheduler.afterAll calls).compose g).2.map fun _ => ()
  fails : ∀ g e, ((scheduler.afterAll calls).compose g).2 = .error e →
    ∀ name ∈ g.name :: e.blamed, ∀ queued ∈ ((scheduler.afterAll calls).compose g).1.queue,
      queued.generator ≠ name

theorem runsWhatItTakes_of_sound (h : s.Sound) (state : σ) : s.RunsWhatItTakes state := by
  unfold RunsWhatItTakes
  split
  · rename_i cause hg
    exact ⟨by simp [taking, hg], by simp [Scheduler.run, hg]⟩
  · rename_i generators hg
    have hruns := runsInOrder_of_sound h hg state
    refine ⟨by simp [taking, hg], by simp [hruns.leaves.1, Scheduler.begun], hruns, ?_⟩
    intro entry hin
    have hscheduled := (ran_starts _ _).subset hin
    exact mem_queuedTasks.1 ((schedule_perm s generators).mem_iff.1 hscheduled)

/-- A run that succeeds leaves nothing queued. -/
theorem queue_of_run_eq_ok {state : σ} {summary : RunSummary}
    (h : (s.run state).2.result = .ok summary) : (s.run state).1.queue = [] := by
  unfold Scheduler.run at h ⊢
  split
  · rename_i cause hg
    simp [hg] at h
  · rfl

/-- No group is queued for a generator that composition failed for. -/
theorem queue_of_compose_eq_error {e : Failure} (h : (s.compose g).1.Sound)
    (he : (s.compose g).2 = .error e) : ∀ name ∈ g.name :: e.blamed,
      ∀ queued ∈ (s.compose g).1.queue, queued.generator ≠ name := by
  rintro name hname queued hin rfl
  have hgenerator := mem_generators.1 (h.queue queued hin).2
  have hcases := compose_cases s g
  generalize s.compose g = done at hcases he hgenerator
  cases hcases with
  | again => cases he
  | joins => cases he
  | fails _ _ _ hnot =>
    cases he
    rw [hnot _ hname] at hgenerator
    cases hgenerator

/-- Every sequence of calls on a fresh scheduler accounts for its generators and groups. -/
theorem calls_keep_account (h : s.Fresh) (calls : List (Call σ)) : s.Account calls := by
  have hsound := sound_afterAll h calls
  have hgenerators := generators_afterAll s calls
  have hqueue := queue_afterAll s calls
  rw [Scheduler.generators, h.composed, List.map_nil, List.nil_append] at hgenerators
  rw [h.queue, List.nil_append] at hqueue
  refine ⟨?_, ⟨hgenerators.symm, hgenerators ▸ hsound.generators⟩,
    contributed_afterAll h.composed calls, hqueue, runsWhatItTakes_of_sound hsound,
    fun _ _ => queue_of_run_eq_ok, compose_cases _, composeNamed_cases _,
    fun _ _ _ => Composing.composes_iff, fun g e he => ?_⟩
  · rw [← order_afterAll s calls]
    exact hsound.queue
  · have hnext := sound_afterAll h (calls ++ [.compose g])
    rw [afterAll_concat] at hnext
    exact queue_of_compose_eq_error hnext he

/-- Calls that compose a generator twice for nothing, once before a run and once after it, and queue
a group for another one that has run. -/
def resumingCalls : List (Call (List String)) :=
  retryingCalls ++ [.composeNamed "base",
    .compose ⟨"app", [], [("start", ⟨"never", [noting "c"]⟩)]⟩,
    .registerGroup "base" "start" ⟨"third", [noting "d"]⟩,
    .run [],
    .compose ⟨"late", ["base"], [("nowhere", ⟨"never", [noting "e"]⟩)]⟩]

theorem resuming_calls_keep_account : unused.Fresh ∧
    unused.total newcomers resumingCalls = ["base", "middle", "app"] ∧
    (unused.total taking resumingCalls).map (·.group.name) = ["first", "second", "third"] ∧
    (unused.afterAll resumingCalls).queue.length = 0 ∧ unused.Account resumingCalls :=
  ⟨unused_is_fresh, by cbv, by cbv, by cbv, calls_keep_account unused_is_fresh resumingCalls⟩

end Scheduler

end EntityPipeline
