-- Dependencies that loop back. Composing a generator comes upon its dependencies and upon theirs;
-- one of them may be a generator that is still being composed. Whether that is told as a loop is
-- settled by what the catalog has under its name, for the catalog is asked before the stack.
import EntityPipeline.Proofs.Run.Requirements

namespace EntityPipeline

variable {σ : Type}

namespace Composing

/-- Composing comes upon a dependency that its owner declares, with what is composed and what is on
the stack by then. -/
inductive Meets : Composing σ → Request σ → Composing σ → String → String → Prop
  | here {c owner dependency rest} :
      Meets c (.each owner (dependency :: rest)) c owner dependency
  | begins {c g d owner dependency} : c.scheduler.isComposed g.name = false → g.name ∉ c.stack →
      Meets (c.push g.name) (.each g.name g.dependsOn) d owner dependency →
      Meets c (.one g) d owner dependency
  | passes {c first rest above d owner dependency} : c.scheduler.isComposed first = true →
      Meets c (.each above rest) d owner dependency →
      Meets c (.each above (first :: rest)) d owner dependency
  | within {c first rest above g d owner dependency} : c.scheduler.isComposed first = false →
      c.scheduler.catalog.lookup first = some g → Meets c (.one g) d owner dependency →
      Meets c (.each above (first :: rest)) d owner dependency
  | goesOn {c first rest above g t d owner dependency} : c.scheduler.isComposed first = false →
      c.scheduler.catalog.lookup first = some g → Composes c (.one g) (.ok ()) t →
      Meets t (.each above rest) d owner dependency →
      Meets c (.each above (first :: rest)) d owner dependency

variable {c d t : Composing σ} {request : Request σ} {g h : Generator σ} {s : Scheduler σ}
  {owner dependency : String} {failure : Failure} {members : List String}

/-! ## On the way -/

/-- Composing a generator composes nothing that is on the stack. -/
theorem one_grows (c : Composing σ) (g : Generator σ) :
    Scheduler.Grows c.stack c.scheduler (c.one g).1 := by
  unfold one
  dsimp only
  split
  · exact .refl _
  split
  · exact .refl _
  rename_i hn hoff
  obtain ⟨hgrow, hprovides⟩ : Scheduler.Grows (c.stack ++ [g.name]) c.scheduler
      ((c.push g.name).each g.name g.dependsOn).1 ∧ _ := Scheduler.composeEach_grows rfl
  split
  · exact hgrow.shorten [g.name]
  · rename_i hd
    split
    · exact hgrow.shorten [g.name]
    · rename_i u he
      exact hgrow.compose (mt List.contains_iff_mem.2 hoff) (Bool.eq_false_iff.2 hn)
        (hprovides hd) he

theorem Composes.grows {r : Except Failure Unit} (h : Composes c (.one g) r d) :
    Scheduler.Grows c.stack c.scheduler d.scheduler ∧ d.stack = c.stack := by
  obtain ⟨heq, hstack⟩ := h.handedOn_eq
  have hgrow := c.one_grows g
  rw [handedOn] at heq
  rw [heq] at hgrow
  exact ⟨hgrow, hstack⟩

/-- What holds where a dependency is met: the catalog is the one that composing began with, the
stack has grown up to the owner of the dependency, and nothing on it is composed. -/
structure Above (c d : Composing σ) (owner : String) : Prop where
  catalog : d.scheduler.catalog = c.scheduler.catalog
  stack : c.stack <+: d.stack
  last : d.stack.getLast? = some owner
  waiting : ∀ name ∈ d.stack, d.scheduler.isComposed name = false

theorem Above.trans {above : String} (h : Above c t above) (h' : Above t d owner) :
    Above c d owner :=
  ⟨h'.catalog.trans h.catalog, h.stack.trans h'.stack, h'.last, h'.waiting⟩

/-- A generator that is begun is the last one on the stack and waits like all others there. -/
theorem above_push (hn : c.scheduler.isComposed g.name = false)
    (hwaiting : ∀ name ∈ c.stack, c.scheduler.isComposed name = false) :
    Above c (c.push g.name) g.name := by
  refine ⟨rfl, List.prefix_append _ _, List.getLast?_concat, ?_⟩
  exact List.forall_mem_append.2 ⟨hwaiting, List.forall_mem_singleton.2 hn⟩

/-- A generator that was composed on the way leaves the stack as it was. -/
theorem Composes.above (h : Composes c (.one g) (.ok ()) t) (hlast : c.stack.getLast? = some owner)
    (hwaiting : ∀ name ∈ c.stack, c.scheduler.isComposed name = false) : Above c t owner := by
  obtain ⟨hgrow, hstack⟩ := h.grows
  refine ⟨hgrow.catalog_eq, hstack ▸ List.prefix_rfl, hstack ▸ hlast, fun name hin => ?_⟩
  rw [hstack] at hin
  exact hgrow.isComposed_eq_false hin (hwaiting name hin)

theorem Meets.above (h : Meets c request d owner dependency)
    (hlast : ∀ above dependencies, request = .each above dependencies →
      c.stack.getLast? = some above)
    (hwaiting : ∀ name ∈ c.stack, c.scheduler.isComposed name = false) : Above c d owner := by
  induction h with
  | here => exact ⟨rfl, List.prefix_rfl, hlast _ _ rfl, hwaiting⟩
  | begins hn _ _ ih =>
    have hpush := above_push hn hwaiting
    refine hpush.trans (ih ?_ hpush.waiting)
    rintro _ _ ⟨⟩
    exact hpush.last
  | passes _ _ ih =>
    refine ih ?_ hwaiting
    rintro _ _ ⟨⟩
    exact hlast _ _ rfl
  | within _ _ _ ih => exact ih nofun hwaiting
  | goesOn _ _ hone _ ih =>
    have hnext := hone.above (hlast _ _ rfl) hwaiting
    refine hnext.trans (ih ?_ hnext.waiting)
    rintro _ _ ⟨⟩
    exact hnext.last

/-- Where a dependency is met that composing fails at, composing fails. -/
theorem Meets.fails (h : Meets c request d owner dependency) :
    ∃ rest, ∀ failure t, Composes d (.each owner (dependency :: rest)) (.error failure) t →
      ∃ u, Composes c request (.error failure) u := by
  induction h with
  | @here _ _ _ rest => exact ⟨rest, fun _ t hfails => ⟨t, hfails⟩⟩
  | begins hn hoff _ ih =>
    obtain ⟨rest, ih⟩ := ih
    refine ⟨rest, fun failure t hfails => ?_⟩
    obtain ⟨u, hu⟩ := ih failure t hfails
    exact ⟨u.pop, .lacks hn hoff hu⟩
  | passes hc _ ih =>
    obtain ⟨rest, ih⟩ := ih
    refine ⟨rest, fun failure t hfails => ?_⟩
    obtain ⟨u, hu⟩ := ih failure t hfails
    exact ⟨u, .passes hc hu⟩
  | within hc hl _ ih =>
    obtain ⟨rest, ih⟩ := ih
    refine ⟨rest, fun failure t hfails => ?_⟩
    obtain ⟨u, hu⟩ := ih failure t hfails
    exact ⟨u, .stops hc hl hu⟩
  | goesOn hc hl hone _ ih =>
    obtain ⟨rest, ih⟩ := ih
    refine ⟨rest, fun failure t hfails => ?_⟩
    obtain ⟨u, hu⟩ := ih failure t hfails
    exact ⟨u, .goesOn hc hl hone hu⟩

/-- A cycle is told where what the catalog has for a dependency is on the stack, and only there. -/
theorem Composes.exists_meets {r : Except Failure Unit} (h : Composes c request r t)
    (hr : r = .error (.cyclicDependency members)) :
    (∃ g, request = .one g ∧ g.name ∈ c.stack ∧
      members = Scheduler.closedCycle c.stack g.name) ∨
    ∃ d owner dependency g, Meets c request d owner dependency ∧
      d.scheduler.isComposed dependency = false ∧
      d.scheduler.catalog.lookup dependency = some g ∧ g.name ∈ d.stack ∧
      members = Scheduler.closedCycle d.stack g.name := by
  induction h with
  | again => cases hr
  | @cycle c g _ hon =>
    cases hr
    exact Or.inl ⟨g, rfl, hon, rfl⟩
  | lacks hn hoff _ ih =>
    obtain ⟨_, hone, -⟩ | ⟨d, owner, dependency, g, hmeets, hrest⟩ := ih hr
    · cases hone
    · exact Or.inr ⟨d, owner, dependency, g, .begins hn hoff hmeets, hrest⟩
  | refuses _ _ _ he =>
    cases hr
    obtain ⟨_, _, _, hunknown⟩ := Scheduler.unknownPriority_of_enlist he
    cases hunknown
  | joins => cases hr
  | done => cases hr
  | passes hc _ ih =>
    obtain ⟨_, hone, -⟩ | ⟨d, owner, dependency, g, hmeets, hrest⟩ := ih hr
    · cases hone
    · exact Or.inr ⟨d, owner, dependency, g, .passes hc hmeets, hrest⟩
  | misses => cases hr
  | @stops c owner dependency rest g e d hc hl _ ih =>
    obtain ⟨_, hone, hon, hmembers⟩ | ⟨d, other, name, found, hmeets, hrest⟩ := ih hr
    · cases hone
      exact Or.inr ⟨c, owner, dependency, g, .here, hc, hl, hon, hmembers⟩
    · exact Or.inr ⟨d, other, name, found, .within hc hl hmeets, hrest⟩
  | goesOn hc hl hone _ _ ih =>
    obtain ⟨_, heach, -⟩ | ⟨d, owner, dependency, g, hmeets, hrest⟩ := ih hr
    · cases heach
    · exact Or.inr ⟨d, owner, dependency, g, .goesOn hc hl hone hmeets, hrest⟩

/-! ## Composing a generator -/

theorem Meets.above_of_one (h : Meets ⟨s, []⟩ (.one g) d owner dependency) :
    Above ⟨s, []⟩ d owner :=
  h.above nofun (List.forall_mem_nil _)

theorem Meets.head_stack (h : Meets ⟨s, []⟩ (.one g) d owner dependency) :
    d.stack.head? = some g.name := by
  cases h with
  | begins hn _ hmeets =>
    have hpush := above_push (c := ⟨s, []⟩) hn (List.forall_mem_nil _)
    have habove := hmeets.above (by rintro _ _ ⟨⟩; exact hpush.last) hpush.waiting
    obtain ⟨rest, hrest⟩ := habove.stack
    rw [← hrest]
    rfl

theorem compose_eq_error (h : Composes ⟨s, []⟩ (.one g) (.error failure) d) :
    (s.compose g).2 = .error failure := by
  obtain ⟨-, hresult⟩ := composes_iff.1 h
  cases hcompose : (s.compose g).2 with
  | error e =>
    rw [hcompose] at hresult
    cases hresult
    rfl
  | ok new =>
    rw [hcompose] at hresult
    cases hresult

/-- Composing fails as it fails at a dependency that is met. -/
theorem Meets.compose_eq_error (h : Meets ⟨s, []⟩ (.one g) d owner dependency)
    (hfails : ∀ rest, Composes d (.each owner (dependency :: rest)) (.error failure) t) :
    (s.compose g).2 = .error failure := by
  obtain ⟨rest, hall⟩ := h.fails
  obtain ⟨u, hu⟩ := hall failure t (hfails rest)
  exact Composing.compose_eq_error hu

/-- What the catalog has for a dependency is composed in its place, and composing fails where that
fails. -/
theorem Meets.compose_eq_error_of_lookup (hmeets : Meets ⟨s, []⟩ (.one g) d owner dependency)
    (hnew : d.scheduler.isComposed dependency = false)
    (hl : s.catalog.lookup dependency = some h)
    (hfails : Composes d (.one h) (.error failure) t) : (s.compose g).2 = .error failure := by
  have hfound : d.scheduler.catalog.lookup dependency = some h :=
    hmeets.above_of_one.catalog.symm ▸ hl
  exact hmeets.compose_eq_error fun _ => .stops hnew hfound hfails

/-- Composing fails with a cycle where the catalog hands out what is being composed. -/
theorem Meets.compose_eq_cycle (hmeets : Meets ⟨s, []⟩ (.one g) d owner dependency)
    (hnew : d.scheduler.isComposed dependency = false)
    (hl : s.catalog.lookup dependency = some h) (hon : h.name ∈ d.stack) :
    (s.compose g).2 = .error (.cyclicDependency (Scheduler.closedCycle d.stack h.name)) :=
  hmeets.compose_eq_error_of_lookup hnew hl (.cycle (hmeets.above_of_one.waiting _ hon) hon)

/-- Composing fails with an unknown generator where the catalog has nothing for a dependency. -/
theorem Meets.compose_eq_unknown (hmeets : Meets ⟨s, []⟩ (.one g) d owner dependency)
    (hnew : d.scheduler.isComposed dependency = false)
    (hl : s.catalog.lookup dependency = none) :
    (s.compose g).2 = .error (.unknownGenerator dependency (some owner)) := by
  have hfound : d.scheduler.catalog.lookup dependency = none :=
    hmeets.above_of_one.catalog.symm ▸ hl
  exact hmeets.compose_eq_error fun _ => .misses hnew hfound

theorem exists_meets_of_cycle (h : (s.compose g).2 = .error (.cyclicDependency members)) :
    ∃ d owner dependency h, Meets ⟨s, []⟩ (.one g) d owner dependency ∧
      d.scheduler.isComposed dependency = false ∧ s.catalog.lookup dependency = some h ∧
      h.name ∈ d.stack ∧ members = Scheduler.closedCycle d.stack h.name := by
  have hcomposes := composes_iff.2 ⟨rfl, congrArg (Except.map fun _ => ()) h.symm⟩
  obtain ⟨_, -, hnone, -⟩ | ⟨d, owner, dependency, h, hmeets, hnew, hl, hrest⟩ :=
    hcomposes.exists_meets rfl
  · cases hnone
  · exact ⟨d, owner, dependency, h, hmeets, hnew, hmeets.above_of_one.catalog ▸ hl, hrest⟩

end Composing

namespace Scheduler

open Composing

/-- Where composing a generator comes upon a dependency on one that is being composed, the catalog
settles what becomes of it. If it has the generator that is being composed, the loop is told, and
loops are told nowhere else. If it has none, composing ends with an unknown generator. If it has one
of another name, that one is composed in its place. So where generators are in the catalog under
their own names, a loop is told if the catalog has the name. -/
structure TellsLoops (s : Scheduler σ) (g : Generator σ) : Prop where
  waiting : ∀ d owner dependency, Meets ⟨s, []⟩ (.one g) d owner dependency →
    d.stack.head? = some g.name ∧ d.stack.getLast? = some owner ∧
      ∀ name ∈ d.stack, d.scheduler.isComposed name = false
  told : ∀ d owner dependency h, Meets ⟨s, []⟩ (.one g) d owner dependency →
    dependency ∈ d.stack → s.catalog.lookup dependency = some h → h.name ∈ d.stack →
    (s.compose g).2 = .error (.cyclicDependency (closedCycle d.stack h.name))
  missed : ∀ d owner dependency, Meets ⟨s, []⟩ (.one g) d owner dependency →
    dependency ∈ d.stack → s.catalog.lookup dependency = none →
    (s.compose g).2 = .error (.unknownGenerator dependency (some owner))
  mistaken : ∀ d owner dependency h, Meets ⟨s, []⟩ (.one g) d owner dependency →
    dependency ∈ d.stack → s.catalog.lookup dependency = some h → h.name ∉ d.stack →
    ∀ failure t, Composes d (.one h) (.error failure) t → (s.compose g).2 = .error failure
  nowhere_else : ∀ members, (s.compose g).2 = .error (.cyclicDependency members) →
    ∃ d owner dependency h, Meets ⟨s, []⟩ (.one g) d owner dependency ∧
      d.scheduler.isComposed dependency = false ∧ s.catalog.lookup dependency = some h ∧
      h.name ∈ d.stack ∧ members = closedCycle d.stack h.name
  exactly : Honest s.catalog → ∀ d owner dependency,
    Meets ⟨s, []⟩ (.one g) d owner dependency → dependency ∈ d.stack →
    ((∃ members, (s.compose g).2 = .error (.cyclicDependency members)) ↔
      (s.catalog.lookup dependency).isSome = true)

theorem loops_are_told_through_the_catalog (s : Scheduler σ) (g : Generator σ) :
    s.TellsLoops g := by
  have hnew : ∀ {d owner dependency}, Meets ⟨s, []⟩ (.one g) d owner dependency →
      dependency ∈ d.stack → d.scheduler.isComposed dependency = false :=
    fun hmeets hon => hmeets.above_of_one.waiting _ hon
  refine ⟨fun d owner dependency hmeets => ?_, ?_, ?_, ?_, fun _ => exists_meets_of_cycle, ?_⟩
  · exact ⟨hmeets.head_stack, hmeets.above_of_one.last, hmeets.above_of_one.waiting⟩
  · exact fun _ _ _ _ hmeets hon hl => hmeets.compose_eq_cycle (hnew hmeets hon) hl
  · exact fun _ _ _ hmeets hon => hmeets.compose_eq_unknown (hnew hmeets hon)
  · exact fun _ _ _ _ hmeets hon hl _ _ _ => hmeets.compose_eq_error_of_lookup (hnew hmeets hon) hl
  · intro hhonest d owner dependency hmeets hon
    cases hl : s.catalog.lookup dependency with
    | none => simp [hmeets.compose_eq_unknown (hnew hmeets hon) hl]
    | some h =>
      have hself : h.name ∈ d.stack := hhonest.name_eq hl ▸ hon
      simp [hmeets.compose_eq_cycle (hnew hmeets hon) hl hself]

/-- A scheduler whose catalog has a lender that depends on a library. -/
def lending : Scheduler (List String) where
  order := unused.order
  catalog := [("lender", ⟨"lender", ["library"], []⟩)]

/-- A library that depends on the lender. -/
def library : Generator (List String) := ⟨"library", ["lender"], []⟩

/-- The library is composed first, then its lender comes upon it. -/
theorem lender_meets_library (s : Scheduler (List String)) (hn : s.composed = [])
    (hl : s.catalog.lookup "lender" = some ⟨"lender", ["library"], []⟩) :
    Meets ⟨s, []⟩ (.one library) ⟨s, ["library", "lender"]⟩ "lender" "library" := by
  have hnew : ∀ name, s.isComposed name = false := fun name => by simp [isComposed, hn]
  have hoff : "lender" ∉ (push ⟨s, []⟩ library.name).stack := by simp [push, library]
  exact .begins (hnew _) List.not_mem_nil (.within (hnew _) hl (.begins (hnew _) hoff .here))

/-- A library in the catalog is told to loop back. -/
theorem the_offered_library_is_told :
    ((lending.offer "library" library).compose library).2 =
      .error (.cyclicDependency ["library", "lender", "library"]) :=
  (loops_are_told_through_the_catalog (lending.offer "library" library) library).told _ _ _ library
    (lender_meets_library _ rfl rfl) (by decide) rfl (by decide)

/-- A library that is not in the catalog is unknown to its lender while it is being composed. -/
theorem the_explicit_library_is_missed :
    Meets ⟨lending, []⟩ (.one library) ⟨lending, ["library", "lender"]⟩ "lender" "library" ∧
    "library" ∈ ["library", "lender"] ∧
    (lending.compose library).2 = .error (.unknownGenerator "library" (some "lender")) ∧
    ¬ ∃ members, (lending.compose library).2 = .error (.cyclicDependency members) := by
  have hmissed : (lending.compose library).2 =
      .error (.unknownGenerator "library" (some "lender")) := by
    cbv
  exact ⟨lender_meets_library _ rfl rfl, by decide, hmissed, by simp [hmissed]⟩

end Scheduler

end EntityPipeline
