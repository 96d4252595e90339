-- Calls on a scheduler. However many generators a call composes before it succeeds or fails, the
-- scheduler grows by one generator after the other, each of them new and each after everything it
-- depends on. From that step alone follows what holds after every sequence of calls.
import EntityPipeline.Proofs.Run.PriorityPlaces
import EntityPipeline.Run.Execution

namespace EntityPipeline

variable {σ : Type}

/-- A call on a scheduler. -/
inductive Call (σ : Type) where
  | compose (generator : Generator σ)
  | composeNamed (name : String)
  | registerGroup (generator priority : String) (group : TaskGroup σ)
  | offer (name : String) (generator : Generator σ)
  | run (state : σ)

namespace Scheduler

/-- A scheduler after a call, which may have failed. -/
def after (scheduler : Scheduler σ) : Call σ → Scheduler σ
  | .compose generator => (scheduler.compose generator).1
  | .composeNamed name => (scheduler.composeNamed name).1
  | .registerGroup generator priority group =>
    match scheduler.registerGroup generator priority group with
    | .ok changed => changed
    | .error _ => scheduler
  | .offer name generator => scheduler.offer name generator
  | .run state => (scheduler.run state).1

/-- A scheduler after calls in order. -/
def afterAll (scheduler : Scheduler σ) (calls : List (Call σ)) : Scheduler σ :=
  calls.foldl after scheduler

/-- A scheduler over resolved priorities on which nothing was called yet. -/
structure Fresh (scheduler : Scheduler σ) : Prop where
  resolved : ∃ plan : PriorityPlan, plan.resolve = .ok scheduler.order
  composed : scheduler.composed = []
  queue : scheduler.queue = []

/-! ## Growing by one generator -/

/-- Everything on the way to a dependency is composed: itself, or what the catalog has for it. -/
def Provides (scheduler : Scheduler σ) (dependency : String) : Prop :=
  scheduler.isComposed dependency = true ∨ ∃ generator,
    scheduler.catalog.lookup dependency = some generator ∧
      scheduler.isComposed generator.name = true

/-- A scheduler grows by generators that are new, that no generator on the stack is one of, and
that come after what they depend on. -/
inductive Grows (stack : List String) : Scheduler σ → Scheduler σ → Prop
  | refl (s : Scheduler σ) : Grows stack s s
  | enlist {s t u : Scheduler σ} {g : Generator σ} : Grows stack s t → g.name ∉ stack →
      t.isComposed g.name = false → (∀ d ∈ g.dependsOn, t.Provides d) → t.enlist g = .ok u →
      Grows stack s u

variable {s t u : Scheduler σ} {g : Generator σ} {stack : List String} {name : String}

theorem mem_generators : name ∈ s.generators ↔ s.isComposed name = true := by
  unfold generators isComposed
  rw [List.lookup_isSome_iff, List.mem_map]
  constructor
  · rintro ⟨entry, hin, rfl⟩
    exact ⟨entry, hin, beq_self_eq_true _⟩
  · rintro ⟨entry, hin, hname⟩
    exact ⟨entry, hin, (beq_iff_eq.1 hname).symm⟩

/-- A generator that is enlisted brings itself and its groups, each under a known priority. -/
theorem enlist_eq (h : s.enlist g = .ok u) :
    (∀ entry ∈ g.groups, s.order.contains entry.1 = true) ∧
      u = { s with
        composed := s.composed ++ [(g.name, ⟨g.dependsOn, false⟩)]
        queue := s.queue ++ g.groups.map fun (priority, group) => ⟨priority, g.name, group⟩ } := by
  unfold enlist at h
  split at h
  · cases h
  · rename_i hnone
    cases h
    refine ⟨fun entry hin => ?_, rfl⟩
    have hknown := List.find?_eq_none.1 hnone entry.1 (List.mem_map_of_mem hin)
    simpa using hknown

theorem generators_enlist (h : s.enlist g = .ok u) : u.generators = s.generators ++ [g.name] := by
  obtain ⟨_, rfl⟩ := enlist_eq h
  simp [generators]

theorem isComposed_enlist (h : s.enlist g = .ok u) :
    u.isComposed name = true ↔ s.isComposed name = true ∨ name = g.name := by
  rw [← mem_generators, generators_enlist h, List.mem_append, List.mem_singleton, mem_generators]

theorem catalog_enlist (h : s.enlist g = .ok u) : u.catalog = s.catalog := by
  obtain ⟨_, rfl⟩ := enlist_eq h
  rfl

theorem Provides.enlist {dependency : String} (hp : s.Provides dependency)
    (h : s.enlist g = .ok u) : u.Provides dependency := by
  rcases hp with hc | ⟨other, hl, hc⟩
  · exact Or.inl ((isComposed_enlist h).2 (Or.inl hc))
  · exact Or.inr ⟨other, by rw [catalog_enlist h]; exact hl, (isComposed_enlist h).2 (Or.inl hc)⟩

theorem Grows.catalog_eq (h : Grows stack s t) : t.catalog = s.catalog := by
  induction h with
  | refl => rfl
  | enlist _ _ _ _ he ih => rw [catalog_enlist he, ih]

theorem Grows.provides {dependency : String} (h : Grows stack s t) (hp : s.Provides dependency) :
    t.Provides dependency := by
  induction h with
  | refl => exact hp
  | enlist _ _ _ _ he ih => exact ih.enlist he

theorem Grows.trans (h1 : Grows stack s t) (h2 : Grows stack t u) : Grows stack s u := by
  induction h2 with
  | refl => exact h1
  | enlist _ hs hn hd he ih => exact .enlist ih hs hn hd he

/-- A longer stack forbids more. -/
theorem Grows.shorten (more : List String) (h : Grows (stack ++ more) s t) : Grows stack s t := by
  induction h with
  | refl => exact .refl _
  | enlist _ hs hn hd he ih => exact .enlist ih (fun hin => hs (by simp [hin])) hn hd he

/-- What is on the stack is not composed meanwhile. -/
theorem Grows.isComposed_eq_false (h : Grows stack s t) (hin : name ∈ stack)
    (hn : s.isComposed name = false) : t.isComposed name = false := by
  induction h with
  | refl => exact hn
  | @enlist t u g _ hs _ _ he ih =>
    rw [Bool.eq_false_iff] at ih ⊢
    intro hc
    rcases (isComposed_enlist he).1 hc with hc | rfl
    · exact ih hc
    · exact hs hin

/-- A scheduler grows by a generator once it has grown by its dependencies. -/
theorem Grows.compose (h : Grows (stack ++ [g.name]) s t) (hs : g.name ∉ stack)
    (hn : s.isComposed g.name = false) (hd : ∀ d ∈ g.dependsOn, t.Provides d)
    (he : t.enlist g = .ok u) : Grows stack s u :=
  .enlist (h.shorten [g.name]) hs (h.isComposed_eq_false (by simp) hn) hd he

/-- Composing dependencies makes a scheduler grow, and provides all of them unless it fails. -/
theorem composeEach_grows {catalog : Catalog σ} {owner : String} {dependencies : List String}
    (hcat : s.catalog = catalog) :
    Grows stack s (composeEach catalog stack owner s dependencies).1 ∧
      ((composeEach catalog stack owner s dependencies).2 = .ok () →
        ∀ d ∈ dependencies, (composeEach catalog stack owner s dependencies).1.Provides d) := by
  fun_induction composeEach catalog stack owner s dependencies with
  -- nothing is left to compose
  | case1 => exact ⟨.refl _, by simp⟩
  -- the dependency is composed already
  | case2 stack owner s dependency rest hc ih =>
    obtain ⟨hg, hp⟩ := ih hcat
    refine ⟨hg, fun hok => List.forall_mem_cons.2 ⟨?_, hp hok⟩⟩
    exact hg.provides (Or.inl hc)
  -- the catalog has nothing for the dependency
  | case3 => exact ⟨.refl _, by simp⟩
  -- what the catalog has for it is composed already
  | case4 stack owner s dependency rest _ g hl hc ih =>
    obtain ⟨hg, hp⟩ := ih hcat
    refine ⟨hg, fun hok => List.forall_mem_cons.2 ⟨?_, hp hok⟩⟩
    exact hg.provides (Or.inr ⟨g, by rw [hcat]; exact hl, hc⟩)
  -- it is on the stack
  | case5 => exact ⟨.refl _, by simp⟩
  -- its own dependencies fail, or it cannot be enlisted
  | case6 stack owner s _ _ _ g _ _ _ _ _ _ ih => exact ⟨(ih hcat).1.shorten _, by simp⟩
  | case7 stack owner s _ _ _ g _ _ _ _ _ _ _ ih => exact ⟨(ih hcat).1.shorten _, by simp⟩
  -- it is enlisted, and those that are left follow
  | case8 stack owner s dependency rest _ g hl hc hs done hok t he ih1 ih2 =>
    obtain ⟨hg, hd⟩ := ih1 hcat
    have hgrow : Grows stack s t := hg.compose (fun hin => hs (List.contains_iff_mem.2 hin))
      (Bool.eq_false_iff.2 hc) (hd hok) he
    have hcat' : t.catalog = catalog := hgrow.catalog_eq.trans hcat
    obtain ⟨hmore, hp⟩ := ih2 hcat'
    refine ⟨hgrow.trans hmore, fun hok => List.forall_mem_cons.2 ⟨?_, hp hok⟩⟩
    refine hmore.provides (Or.inr ⟨g, by rw [hcat']; exact hl, ?_⟩)
    exact (isComposed_enlist he).2 (Or.inr rfl)

/-- Composing makes a scheduler grow, whether it succeeds or fails. -/
theorem compose_grows (s : Scheduler σ) (g : Generator σ) : Grows [] s (s.compose g).1 := by
  unfold compose
  split
  · exact .refl _
  · rename_i hn
    let done := composeEach s.catalog [g.name] g.name s g.dependsOn
    have hgrow : Grows ([] ++ [g.name]) s done.1 ∧
      (done.2 = .ok () → ∀ d ∈ g.dependsOn, done.1.Provides d) := composeEach_grows rfl
    dsimp only
    split
    · exact hgrow.1.shorten [g.name]
    · rename_i hok
      split
      · exact hgrow.1.shorten [g.name]
      · rename_i u he
        exact Grows.compose hgrow.1 (by simp) (Bool.eq_false_iff.2 hn) (hgrow.2 hok) he

theorem composeNamed_grows (s : Scheduler σ) (name : String) :
    Grows [] s (s.composeNamed name).1 := by
  unfold composeNamed
  split
  · exact .refl _
  · exact compose_grows s _

/-! ## Every sequence of calls -/

/-- A property that growing by one generator, queueing, offering and running keep holds after
every sequence of calls. -/
theorem afterAll_induction {motive : Scheduler σ → Prop} (allowed : Call σ → Prop)
    (grow : ∀ s t g, motive s → s.isComposed g.name = false →
      (∀ d ∈ g.dependsOn, s.Provides d) → s.enlist g = .ok t → motive t)
    (register : ∀ s t generator priority group, motive s →
      s.registerGroup generator priority group = .ok t → motive t)
    (offer : ∀ s name g, motive s → allowed (.offer name g) → motive (s.offer name g))
    (run : ∀ s, motive s → motive s.begun) {calls : List (Call σ)}
    (hcalls : ∀ call ∈ calls, allowed call) (h : motive s) : motive (s.afterAll calls) := by
  have grown : ∀ {s t : Scheduler σ}, motive s → Grows [] s t → motive t := by
    intro s t hs hgrow
    induction hgrow with
    | refl => exact hs
    | enlist _ _ hn hd he ih => exact grow _ _ _ ih hn hd he
  induction calls generalizing s with
  | nil => exact h
  | cons call rest ih =>
    refine ih (fun c hc => hcalls c (List.mem_cons_of_mem _ hc)) ?_
    cases call with
    | compose g => exact grown h (compose_grows s g)
    | composeNamed name => exact grown h (composeNamed_grows s name)
    | registerGroup generator priority group =>
      unfold after
      dsimp only
      split
      · exact register _ _ _ _ _ h ‹_›
      · exact h
    | offer name g => exact offer s name g h (hcalls _ List.mem_cons_self)
    | run state =>
      simp only [after, Scheduler.run]
      split
      · exact h
      · exact run s h

/-- What holds of every scheduler: priorities and generators have distinct names, and what is
queued is queued on a known priority for a composed generator. -/
structure Sound (scheduler : Scheduler σ) : Prop where
  priorities : scheduler.order.names.Nodup
  generators : scheduler.generators.Nodup
  queue : ∀ queued ∈ scheduler.queue,
    queued.priority ∈ scheduler.order.names ∧ queued.generator ∈ scheduler.generators

theorem mem_names_of_contains {order : PriorityOrder} {priority : String}
    (h : order.contains priority = true) : priority ∈ order.names := by
  unfold PriorityOrder.contains PriorityOrder.get? at h
  obtain ⟨p, hp⟩ := Option.isSome_iff_exists.1 h
  have hname := List.find?_some hp
  rw [beq_iff_eq] at hname
  exact hname ▸ List.mem_map_of_mem (List.mem_of_find?_eq_some hp)

theorem Sound.enlist (h : s.Sound) (hn : s.isComposed g.name = false) (he : s.enlist g = .ok t) :
    t.Sound := by
  have hgen := generators_enlist he
  obtain ⟨hknown, rfl⟩ := enlist_eq he
  refine ⟨h.priorities, ?_, ?_⟩
  · rw [hgen]
    refine h.generators.append (List.nodup_singleton _) (List.disjoint_singleton.2 fun hin => ?_)
    rw [mem_generators, hn] at hin
    cases hin
  · intro queued hin
    rw [hgen]
    rcases List.mem_append.1 hin with hin | hin
    · exact (h.queue queued hin).imp_right (List.mem_append_left _)
    · obtain ⟨entry, hentry, rfl⟩ := List.mem_map.1 hin
      exact ⟨mem_names_of_contains (hknown entry hentry), by simp⟩

theorem Sound.registerGroup {generator priority : String} {group : TaskGroup σ} (h : s.Sound)
    (hr : s.registerGroup generator priority group = .ok t) : t.Sound := by
  unfold Scheduler.registerGroup at hr
  split at hr
  · cases hr
  · rename_i hknown
    split at hr
    · cases hr
    · rename_i hc
      cases hr
      have hgen : generator ∈ s.generators := mem_generators.2 (by simpa using hc)
      refine ⟨h.priorities, h.generators, fun queued hin => ?_⟩
      rcases List.mem_append.1 hin with hin | hin
      · exact h.queue queued hin
      · rw [List.mem_singleton] at hin
        subst hin
        exact ⟨mem_names_of_contains (by simpa using hknown), hgen⟩

theorem generators_begun (s : Scheduler σ) : s.begun.generators = s.generators := by
  simp [begun, generators]

theorem Sound.begun (h : s.Sound) : s.begun.Sound :=
  ⟨h.priorities, by rw [generators_begun]; exact h.generators, by simp [Scheduler.begun]⟩

/-- Every sequence of calls on a fresh scheduler leaves a sound one. -/
theorem sound_afterAll (h : s.Fresh) (calls : List (Call σ)) : (s.afterAll calls).Sound := by
  refine afterAll_induction (fun _ => True) (fun s t g hs hn _ he => hs.enlist hn he)
    (fun s t _ _ _ hs hr => hs.registerGroup hr) ?_ (fun s hs => hs.begun) (by simp) ?_
  · intro s name g hs _
    exact ⟨hs.priorities, hs.generators, hs.queue⟩
  · obtain ⟨⟨plan, hplan⟩, hc, hq⟩ := h
    refine ⟨PriorityPlan.nodup_names_of_resolve hplan, ?_, ?_⟩
    · simp [generators, hc]
    · simp [hq]

end Scheduler

end EntityPipeline
