-- The stack of compositions. A scheduler keeps the generators it is composing on a stack: each is
-- put there before its dependencies are composed and is taken off after them, whatever came of
-- them. Composing by that rule comes to what composing comes to, and the stack is empty in the
-- end.
import EntityPipeline.Proofs.Run.Calls

namespace EntityPipeline

variable {σ : Type}

/-- A scheduler and the generators that it is composing, the outermost one first. -/
structure Composing (σ : Type) where
  scheduler : Scheduler σ
  stack : List String

/-- Something to compose: a generator, or what a generator depends on. -/
inductive Request (σ : Type) where
  | one (generator : Generator σ)
  | each (owner : String) (dependencies : List String)

namespace Composing

/-- Begins with a generator. -/
def push (c : Composing σ) (name : String) : Composing σ := ⟨c.scheduler, c.stack ++ [name]⟩

/-- Is done with the generator that was begun last. -/
def pop (c : Composing σ) : Composing σ := ⟨c.scheduler, c.stack.dropLast⟩

theorem pop_push (c : Composing σ) (name : String) : (c.push name).pop = c := by
  simp [push, pop]

/-- Composing by the rule of the stack, step by step. -/
inductive Composes : Composing σ → Request σ → Except Failure Unit → Composing σ → Prop
  | again {c g} : c.scheduler.isComposed g.name = true → Composes c (.one g) (.ok ()) c
  | cycle {c g} : c.scheduler.isComposed g.name = false → g.name ∈ c.stack →
      Composes c (.one g) (.error (.cyclicDependency (Scheduler.closedCycle c.stack g.name))) c
  | lacks {c g d e} : c.scheduler.isComposed g.name = false → g.name ∉ c.stack →
      Composes (c.push g.name) (.each g.name g.dependsOn) (.error e) d →
      Composes c (.one g) (.error e) d.pop
  | refuses {c g d e} : c.scheduler.isComposed g.name = false → g.name ∉ c.stack →
      Composes (c.push g.name) (.each g.name g.dependsOn) (.ok ()) d →
      d.scheduler.enlist g = .error e → Composes c (.one g) (.error e) d.pop
  | joins {c g d t} : c.scheduler.isComposed g.name = false → g.name ∉ c.stack →
      Composes (c.push g.name) (.each g.name g.dependsOn) (.ok ()) d →
      d.scheduler.enlist g = .ok t → Composes c (.one g) (.ok ()) (pop ⟨t, d.stack⟩)
  | done {c owner} : Composes c (.each owner []) (.ok ()) c
  | passes {c owner dependency rest r d} : c.scheduler.isComposed dependency = true →
      Composes c (.each owner rest) r d → Composes c (.each owner (dependency :: rest)) r d
  | misses {c owner dependency rest} : c.scheduler.isComposed dependency = false →
      c.scheduler.catalog.lookup dependency = none →
      Composes c (.each owner (dependency :: rest))
        (.error (.unknownGenerator dependency (some owner))) c
  | stops {c owner dependency rest g e d} : c.scheduler.isComposed dependency = false →
      c.scheduler.catalog.lookup dependency = some g → Composes c (.one g) (.error e) d →
      Composes c (.each owner (dependency :: rest)) (.error e) d
  | goesOn {c owner dependency rest g d r t} : c.scheduler.isComposed dependency = false →
      c.scheduler.catalog.lookup dependency = some g → Composes c (.one g) (.ok ()) d →
      Composes d (.each owner rest) r t → Composes c (.each owner (dependency :: rest)) r t

variable {c d : Composing σ} {g : Generator σ} {r : Except Failure Unit} {e : Failure}

/-! ## Handing the stack on -/

/-- What composing dependencies comes to when the stack is handed on. -/
def each (c : Composing σ) (owner : String) (dependencies : List String) :
    Scheduler σ × Except Failure Unit :=
  c.scheduler.composeEach c.scheduler.catalog c.stack owner dependencies

/-- What composing a generator comes to when the stack is handed on. -/
def one (c : Composing σ) (g : Generator σ) : Scheduler σ × Except Failure Unit :=
  if c.scheduler.isComposed g.name then (c.scheduler, .ok ())
  else if c.stack.contains g.name then
    (c.scheduler, .error (.cyclicDependency (Scheduler.closedCycle c.stack g.name)))
  else
    let done := (c.push g.name).each g.name g.dependsOn
    match done.2 with
    | .error e => (done.1, .error e)
    | .ok () =>
      match done.1.enlist g with
      | .error e => (done.1, .error e)
      | .ok t => (t, .ok ())

/-- What a request comes to when the stack is handed on. -/
def handedOn (c : Composing σ) : Request σ → Scheduler σ × Except Failure Unit
  | .one g => c.one g
  | .each owner dependencies => c.each owner dependencies

theorem catalog_each (c : Composing σ) (owner : String) (dependencies : List String) :
    (c.each owner dependencies).1.catalog = c.scheduler.catalog :=
  (Scheduler.composeEach_grows rfl).1.catalog_eq

theorem catalog_one (c : Composing σ) (g : Generator σ) :
    (c.one g).1.catalog = c.scheduler.catalog := by
  have heach := (c.push g.name).catalog_each g.name g.dependsOn
  unfold one
  dsimp only
  split
  · rfl
  split
  · rfl
  split
  · exact heach
  split
  · exact heach
  · rename_i he
    rw [Scheduler.catalog_enlist he]
    exact heach

/-- One dependency, and then the others with what is composed by then. -/
theorem each_cons (c : Composing σ) (owner dependency : String) (rest : List String) :
    c.each owner (dependency :: rest) =
      if c.scheduler.isComposed dependency then c.each owner rest
      else match c.scheduler.catalog.lookup dependency with
        | none => (c.scheduler, .error (.unknownGenerator dependency (some owner)))
        | some g =>
          match (c.one g).2 with
          | .error e => ((c.one g).1, .error e)
          | .ok () => each ⟨(c.one g).1, c.stack⟩ owner rest := by
  conv_lhs => unfold each Scheduler.composeEach
  split
  · rfl
  split
  · rename_i hnone
    simp only [hnone]
  · rename_i g hsome
    simp only [hsome]
    by_cases hc : c.scheduler.isComposed g.name = true
    · simp only [one, hc, if_true]
      rfl
    by_cases hs : c.stack.contains g.name = true
    · simp only [one, hc, hs, if_true, dite_true]
      rfl
    have hcatalog := (c.push g.name).catalog_each g.name g.dependsOn
    simp only [one, hc, hs]
    unfold each push at hcatalog ⊢
    generalize Scheduler.composeEach c.scheduler.catalog (c.stack ++ [g.name]) g.name c.scheduler
      g.dependsOn = done at hcatalog ⊢
    obtain ⟨u, r⟩ := done
    cases r with
    | error e => rfl
    | ok value =>
      cases he : u.enlist g with
      | error e => simp
      | ok t =>
        have ht : t.catalog = c.scheduler.catalog := (Scheduler.catalog_enlist he).trans hcatalog
        simp [ht]

/-! ## One rule -/

/-- By the rule of the stack, a request comes to what it comes to when the stack is handed on, and
the stack is what it was. -/
theorem Composes.handedOn_eq {request : Request σ} (h : Composes c request r d) :
    c.handedOn request = (d.scheduler, r) ∧ d.stack = c.stack := by
  induction h with
  | again hc => exact ⟨by simp [handedOn, one, hc], rfl⟩
  | cycle hc hs => exact ⟨by simp [handedOn, one, hc, hs], rfl⟩
  | lacks hc hs _ ih =>
    obtain ⟨heq, hstack⟩ := ih
    simp only [handedOn] at heq
    exact ⟨by simp [handedOn, one, hc, hs, heq, pop], by simp [pop, hstack, push]⟩
  | refuses hc hs _ he ih =>
    obtain ⟨heq, hstack⟩ := ih
    simp only [handedOn] at heq
    exact ⟨by simp [handedOn, one, hc, hs, heq, he, pop], by simp [pop, hstack, push]⟩
  | joins hc hs _ he ih =>
    obtain ⟨heq, hstack⟩ := ih
    simp only [handedOn] at heq
    exact ⟨by simp [handedOn, one, hc, hs, heq, he, pop], by simp [pop, hstack, push]⟩
  | done => exact ⟨by simp [handedOn, each, Scheduler.composeEach], rfl⟩
  | passes hc _ ih => exact ⟨by simpa [handedOn, each_cons, hc] using ih.1, ih.2⟩
  | misses hc hl => exact ⟨by simp [handedOn, each_cons, hc, hl], rfl⟩
  | stops hc hl _ ih =>
    obtain ⟨heq, hstack⟩ := ih
    simp only [handedOn] at heq
    exact ⟨by simp [handedOn, each_cons, hc, hl, heq], hstack⟩
  | goesOn hc hl _ _ ih1 ih2 =>
    obtain ⟨heq, hstack⟩ := ih1
    simp only [handedOn] at heq
    refine ⟨?_, ih2.2.trans hstack⟩
    simpa [handedOn, each_cons, hc, hl, heq, ← hstack] using ih2.1

/-- A generator comes to something by the rule of the stack when its dependencies do. -/
theorem composes_one (h : Composes (c.push g.name) (.each g.name g.dependsOn)
      ((c.push g.name).each g.name g.dependsOn).2
      (push ⟨((c.push g.name).each g.name g.dependsOn).1, c.stack⟩ g.name)) :
    Composes c (.one g) (c.one g).2 ⟨(c.one g).1, c.stack⟩ := by
  unfold one
  by_cases hc : c.scheduler.isComposed g.name = true
  · simp only [hc, if_true]
    exact .again hc
  by_cases hs : c.stack.contains g.name = true
  · simp only [hc, hs]
    exact .cycle (Bool.eq_false_iff.2 hc) (List.contains_iff_mem.1 hs)
  have hnew := Bool.eq_false_iff.2 hc
  have hoff := mt List.contains_iff_mem.2 hs
  simp only [hc, hs]
  generalize (c.push g.name).each g.name g.dependsOn = done at h ⊢
  obtain ⟨t, r⟩ := done
  cases r with
  | error e =>
    have hlacks := Composes.lacks hnew hoff h
    rwa [pop_push] at hlacks
  | ok value =>
    cases he : t.enlist g with
    | error e =>
      have hrefuses := Composes.refuses hnew hoff h he
      rwa [pop_push] at hrefuses
    | ok u =>
      have hjoins := Composes.joins hnew hoff h he
      exact pop_push ⟨u, c.stack⟩ g.name ▸ hjoins

/-- Dependencies come to something by the rule of the stack. -/
theorem composes_each (s : Scheduler σ) (stack : List String) (owner : String)
    (dependencies : List String) : Composes ⟨s, stack⟩ (.each owner dependencies)
      (each ⟨s, stack⟩ owner dependencies).2
      ⟨(each ⟨s, stack⟩ owner dependencies).1, stack⟩ := by
  unfold each
  dsimp only
  generalize hcat : s.catalog = catalog
  fun_induction Scheduler.composeEach catalog stack owner s dependencies with
  | case1 => exact .done
  | case2 stack owner s dependency rest hc ih => exact .passes hc (ih hcat)
  | case3 stack owner s dependency rest hc hl =>
    exact .misses (Bool.eq_false_iff.2 hc) (hcat ▸ hl)
  | case4 stack owner s dependency rest hn g hl hc ih =>
    exact .goesOn (Bool.eq_false_iff.2 hn) (hcat ▸ hl) (.again hc) (ih hcat)
  | case5 stack owner s dependency rest hn g hl hc hs =>
    exact .stops (Bool.eq_false_iff.2 hn) (hcat ▸ hl)
      (.cycle (Bool.eq_false_iff.2 hc) (List.contains_iff_mem.1 hs))
  -- the dependency is begun: its own dependencies fail, it is refused, or it joins
  | case6 stack owner s dependency rest hn g hl hc hs done e hd ih =>
    subst hcat
    have hoff : g.name ∉ stack := mt List.contains_iff_mem.2 hs
    have hone := composes_one (c := ⟨s, stack⟩) (ih rfl)
    have heq : one ⟨s, stack⟩ g = (done.1, .error e) := by
      simp [one, hc, hoff, each, push, done, hd]
    rw [heq] at hone
    exact .stops (Bool.eq_false_iff.2 hn) hl hone
  | case7 stack owner s dependency rest hn g hl hc hs done hd e he ih =>
    subst hcat
    have hoff : g.name ∉ stack := mt List.contains_iff_mem.2 hs
    have hone := composes_one (c := ⟨s, stack⟩) (ih rfl)
    have heq : one ⟨s, stack⟩ g = (done.1, .error e) := by
      simp [one, hc, hoff, each, push, done, hd, he]
    rw [heq] at hone
    exact .stops (Bool.eq_false_iff.2 hn) hl hone
  | case8 stack owner s dependency rest hn g hl hc hs done hd t he ih1 ih2 =>
    subst hcat
    have hoff : g.name ∉ stack := mt List.contains_iff_mem.2 hs
    have hone := composes_one (c := ⟨s, stack⟩) (ih1 rfl)
    have heq : one ⟨s, stack⟩ g = (t, .ok ()) := by
      simp [one, hc, hoff, each, push, done, hd, he]
    have hcatalog := catalog_one ⟨s, stack⟩ g
    rw [heq] at hone hcatalog
    exact .goesOn (Bool.eq_false_iff.2 hn) hl hone (ih2 hcatalog)

/-- On an empty stack, handing on is what composing does. -/
theorem one_eq_compose (s : Scheduler σ) (g : Generator σ) :
    one ⟨s, []⟩ g = ((s.compose g).1, (s.compose g).2.map fun _ => ()) := by
  unfold one Scheduler.compose each push
  simp only [List.nil_append, List.contains_nil, Bool.false_eq_true, if_false]
  split
  · rfl
  generalize Scheduler.composeEach s.catalog [g.name] g.name s g.dependsOn = done
  obtain ⟨t, r⟩ := done
  cases r with
  | error e => rfl
  | ok value => cases he : t.enlist g <;> simp [Except.map]

/-- Composing by the rule of the stack, which is empty before, comes to what composing comes to, and
the stack is empty in the end. -/
theorem composes_iff {s : Scheduler σ} : Composes ⟨s, []⟩ (.one g) r d ↔
    d = ⟨(s.compose g).1, []⟩ ∧ r = (s.compose g).2.map fun _ => () := by
  constructor
  · intro h
    obtain ⟨heq, hstack⟩ := h.handedOn_eq
    rw [handedOn, one_eq_compose, Prod.mk.injEq] at heq
    obtain ⟨t, stack⟩ := d
    cases hstack
    exact ⟨by rw [heq.1], heq.2.symm⟩
  · rintro ⟨rfl, rfl⟩
    have h := composes_one (c := ⟨s, []⟩) (g := g) (composes_each s [g.name] g.name g.dependsOn)
    rwa [one_eq_compose] at h

end Composing

end EntityPipeline
