-- The schedule of a run: everything that is queued, in the order of priority, generator, arrival of
-- the group and position in the group. Going through the priorities and sorting the groups of each
-- takes the tasks in just that order.
import EntityPipeline.Run.Execution
import Mathlib.Data.List.Nodup
import Mathlib.Data.Prod.Lex
import Mathlib.Order.Nat

namespace EntityPipeline

variable {σ : Type}

/-- A task that waits for a run: what it is queued on, who queued it, when its group arrived and
which of the group it is. -/
structure QueuedTask (σ : Type) where
  priority : String
  generator : String
  arrival : Nat
  position : Nat
  task : Task σ

/-- The tasks of a group that was the so-many-th to arrive. -/
def QueuedGroup.entries (queued : QueuedGroup σ) (arrival : Nat) : List (QueuedTask σ) :=
  queued.group.tasks.zipIdx.map fun (task, position) =>
    ⟨queued.priority, queued.generator, arrival, position, task⟩

namespace Scheduler

/-- Everything that is queued, by arrival. -/
def queuedTasks (scheduler : Scheduler σ) : List (QueuedTask σ) :=
  scheduler.queue.zipIdx.flatMap fun (queued, arrival) => queued.entries arrival

/-- Where a task stands: by the rank of its priority, then by the rank of its generator, then by
the arrival of its group, then by its position there. -/
def standing (scheduler : Scheduler σ) (generators : List String) (entry : QueuedTask σ) :
    Nat ×ₗ Nat ×ₗ Nat ×ₗ Nat :=
  toLex (scheduler.order.names.idxOf entry.priority, toLex (generators.idxOf entry.generator,
    toLex (entry.arrival, entry.position)))

/-- Everything that is queued, by its standing. -/
def schedule (scheduler : Scheduler σ) (generators : List String) : List (QueuedTask σ) :=
  scheduler.queuedTasks.mergeSort fun first second =>
    scheduler.standing generators first ≤ scheduler.standing generators second

variable {s : Scheduler σ} {generators : List String} {entry other : QueuedTask σ}

/-! ## What is queued -/

theorem mem_entries {queued : QueuedGroup σ} {arrival : Nat} :
    entry ∈ queued.entries arrival ↔ queued.group.tasks[entry.position]? = some entry.task ∧
      entry.priority = queued.priority ∧ entry.generator = queued.generator ∧
      entry.arrival = arrival := by
  unfold QueuedGroup.entries
  rw [List.mem_map]
  constructor
  · rintro ⟨⟨task, position⟩, hin, rfl⟩
    exact ⟨List.mk_mem_zipIdx_iff_getElem?.1 hin, rfl, rfl, rfl⟩
  · rintro ⟨hin, hp, hg, ha⟩
    refine ⟨(entry.task, entry.position), List.mk_mem_zipIdx_iff_getElem?.2 hin, ?_⟩
    rw [← hp, ← hg, ← ha]

/-- A queued task is a task of a group that is queued, at its place. -/
theorem mem_queuedTasks : entry ∈ s.queuedTasks ↔ ∃ queued, s.queue[entry.arrival]? = some queued ∧
    entry ∈ queued.entries entry.arrival := by
  unfold queuedTasks
  rw [List.mem_flatMap]
  constructor
  · rintro ⟨⟨queued, arrival⟩, hin, hentry⟩
    obtain ⟨_, _, _, rfl⟩ := mem_entries.1 hentry
    exact ⟨queued, List.mk_mem_zipIdx_iff_getElem?.1 hin, hentry⟩
  · rintro ⟨queued, hin, hentry⟩
    exact ⟨(queued, entry.arrival), List.mk_mem_zipIdx_iff_getElem?.2 hin, hentry⟩

/-- Arrival and position tell queued tasks apart. -/
theorem eq_of_arrival_of_position (h1 : entry ∈ s.queuedTasks) (h2 : other ∈ s.queuedTasks)
    (ha : entry.arrival = other.arrival) (hp : entry.position = other.position) :
    entry = other := by
  obtain ⟨queued, hq, he⟩ := mem_queuedTasks.1 h1
  obtain ⟨queued', hq', he'⟩ := mem_queuedTasks.1 h2
  rw [ha, hq'] at hq
  cases hq
  obtain ⟨ht, hpr, hg, _⟩ := mem_entries.1 he
  obtain ⟨ht', hpr', hg', _⟩ := mem_entries.1 he'
  rw [hp, ht'] at ht
  cases entry
  cases other
  simp_all

theorem pairwise_zipIdx {α : Type} (l : List α) : l.zipIdx.Pairwise (·.2 < ·.2) := by
  have h : (l.zipIdx.map Prod.snd).Pairwise (· < ·) := by
    rw [List.zipIdx_map_snd]
    exact List.pairwise_lt_range'
  exact List.pairwise_map.1 h

theorem pairwise_entries (queued : QueuedGroup σ) (arrival : Nat) :
    (queued.entries arrival).Pairwise (·.position < ·.position) :=
  List.pairwise_map.2 (pairwise_zipIdx _)

theorem nodup_queuedTasks (s : Scheduler σ) : s.queuedTasks.Nodup := by
  refine List.pairwise_flatMap.2 ⟨fun pair _ => ?_, (pairwise_zipIdx _).imp ?_⟩
  · refine (pairwise_entries _ _).imp ?_
    rintro a b hlt rfl
    exact Nat.lt_irrefl _ hlt
  · rintro pair pair' hlt a ha b hb rfl
    have h1 := (mem_entries.1 ha).2.2.2
    have h2 := (mem_entries.1 hb).2.2.2
    omega

/-! ## Sorting -/

/-- Sorting keeps the order of arrival among equals. -/
theorem pairwise_mergeSort_of_arrival {α : Type} (le : α → α → Bool) {l : List (α × Nat)}
    (trans : ∀ a b c, le a b → le b c → le a c) (total : ∀ a b, le a b || le b a)
    (hl : l.Pairwise (·.2 < ·.2)) : (l.mergeSort fun a b => le a.1 b.1).Pairwise fun a b =>
      le a.1 b.1 = true ∧ (le b.1 a.1 = true → a.2 < b.2) := by
  rw [← List.mergeSort_zipIdx, List.pairwise_map]
  have hsorted := List.pairwise_mergeSort
    (List.zipIdxLE_trans fun a b c => trans (a : α × Nat).1 b.1 c.1)
    (List.zipIdxLE_total fun a b => total (a : α × Nat).1 b.1) l.zipIdx
  have hdistinct : (l.zipIdx.mergeSort (List.zipIdxLE fun a b => le a.1 b.1)).Pairwise
      fun x y => x.2 ≠ y.2 := by
    have hperm := List.mergeSort_perm l.zipIdx (List.zipIdxLE fun a b => le a.1 b.1)
    refine (hperm.pairwise_iff fun h => h.symm).2 ?_
    exact (pairwise_zipIdx l).imp fun h => Nat.ne_of_lt h
  refine (hsorted.and hdistinct).imp_of_mem ?_
  rintro ⟨a, i⟩ ⟨b, j⟩ ha hb ⟨hle, hne⟩
  simp only [List.zipIdxLE] at hle
  split at hle
  · rename_i hab
    -- the sort is stable, so equals stand by their places in the list, which go by arrival
    refine ⟨hab, fun hba => ?_⟩
    simp only [hba, if_true, decide_eq_true_eq] at hle
    have hi := List.mk_mem_zipIdx_iff_getElem?.1 (List.mem_mergeSort.1 ha)
    have hj := List.mk_mem_zipIdx_iff_getElem?.1 (List.mem_mergeSort.1 hb)
    obtain ⟨hilt, rfl⟩ := List.getElem?_eq_some_iff.1 hi
    obtain ⟨hjlt, rfl⟩ := List.getElem?_eq_some_iff.1 hj
    exact List.pairwise_iff_getElem.1 hl i j hilt hjlt (Nat.lt_of_le_of_ne hle hne)
  · cases hle

/-- Earlier items of a list without repetitions have smaller ranks. -/
theorem pairwise_idxOf {α : Type} [DecidableEq α] {l : List α} (hl : l.Nodup) :
    l.Pairwise fun a b => l.idxOf a < l.idxOf b := by
  refine List.pairwise_iff_getElem.2 fun i j hi hj hij => ?_
  rwa [hl.idxOf_getElem i hi, hl.idxOf_getElem j hj]

theorem standing_lt : s.standing generators entry < s.standing generators other ↔
    s.order.names.idxOf entry.priority < s.order.names.idxOf other.priority ∨
    s.order.names.idxOf entry.priority = s.order.names.idxOf other.priority ∧
      (generators.idxOf entry.generator < generators.idxOf other.generator ∨
      generators.idxOf entry.generator = generators.idxOf other.generator ∧
        (entry.arrival < other.arrival ∨
          entry.arrival = other.arrival ∧ entry.position < other.position)) := by
  simp [standing, Prod.Lex.toLex_lt_toLex]

theorem eq_of_standing_eq (h1 : entry ∈ s.queuedTasks) (h2 : other ∈ s.queuedTasks)
    (h : s.standing generators entry = s.standing generators other) : entry = other := by
  simp only [standing, EmbeddingLike.apply_eq_iff_eq, Prod.mk.injEq] at h
  exact eq_of_arrival_of_position h1 h2 h.2.2.1 h.2.2.2

theorem schedule_perm (s : Scheduler σ) (generators : List String) :
    (s.schedule generators).Perm s.queuedTasks := List.mergeSort_perm _ _

theorem nodup_schedule (s : Scheduler σ) (generators : List String) :
    (s.schedule generators).Nodup :=
  (schedule_perm s generators).nodup_iff.2 (nodup_queuedTasks s)

theorem pairwise_schedule (s : Scheduler σ) (generators : List String) :
    (s.schedule generators).Pairwise fun a b =>
      s.standing generators a < s.standing generators b := by
  have hsorted : (s.schedule generators).Pairwise fun a b =>
      decide (s.standing generators a ≤ s.standing generators b) = true := by
    apply List.pairwise_mergeSort
    · intro a b c hab hbc
      simp only [decide_eq_true_eq] at hab hbc ⊢
      exact hab.trans hbc
    · intro a b
      simpa using le_total _ _
  refine (hsorted.and (nodup_schedule s generators)).imp_of_mem ?_
  rintro a b ha hb ⟨hle, hne⟩
  refine lt_of_le_of_ne (of_decide_eq_true hle) fun heq => hne ?_
  have hperm := schedule_perm s generators
  exact eq_of_standing_eq (hperm.mem_iff.1 ha) (hperm.mem_iff.1 hb) heq

/-! ## Going through the priorities -/

/-- The groups of a priority with their arrivals, by generator and then by arrival. -/
def arrivalsOf (scheduler : Scheduler σ) (generators : List String) (priority : String) :
    List (QueuedGroup σ × Nat) :=
  (scheduler.queue.zipIdx.filter (·.1.priority == priority)).mergeSort fun first second =>
    generators.idxOf first.1.generator ≤ generators.idxOf second.1.generator

/-- The tasks of a priority as they are taken. -/
def taken (scheduler : Scheduler σ) (generators : List String) (priority : String) :
    List (QueuedTask σ) :=
  (scheduler.arrivalsOf generators priority).flatMap fun (queued, arrival) => queued.entries arrival

theorem mem_arrivalsOf {priority : String} {pair : QueuedGroup σ × Nat} :
    pair ∈ s.arrivalsOf generators priority ↔
      s.queue[pair.2]? = some pair.1 ∧ pair.1.priority = priority := by
  simp [arrivalsOf, List.mem_zipIdx_iff_getElem?]

theorem mem_taken {priority : String} : entry ∈ s.taken generators priority ↔
    entry ∈ s.queuedTasks ∧ entry.priority = priority := by
  unfold taken
  rw [List.mem_flatMap, mem_queuedTasks]
  constructor
  · rintro ⟨⟨queued, arrival⟩, hpair, hentry⟩
    obtain ⟨hq, hp⟩ := mem_arrivalsOf.1 hpair
    obtain ⟨_, hpr, _, rfl⟩ := mem_entries.1 hentry
    exact ⟨⟨queued, hq, hentry⟩, hpr.trans hp⟩
  · rintro ⟨⟨queued, hq, hentry⟩, hp⟩
    obtain ⟨_, hpr, _, _⟩ := mem_entries.1 hentry
    exact ⟨(queued, entry.arrival), mem_arrivalsOf.2 ⟨hq, hpr.symm.trans hp⟩, hentry⟩

/-- Without the arrivals, those are the groups that a run takes. -/
theorem map_arrivalsOf (s : Scheduler σ) (generators : List String) (priority : String) :
    (s.arrivalsOf generators priority).map Prod.fst = groupsOf generators s.queue priority := by
  unfold arrivalsOf groupsOf
  rw [List.map_mergeSort (s := fun first second : QueuedGroup σ =>
    decide (generators.idxOf first.generator ≤ generators.idxOf second.generator))
    fun _ _ _ _ => rfl]
  congr 1
  have hfilter : s.queue.zipIdx.filter (·.1.priority == priority) =
      s.queue.zipIdx.filter
        ((fun queued : QueuedGroup σ => queued.priority == priority) ∘ Prod.fst) := rfl
  rw [hfilter, ← List.filter_map, List.zipIdx_map_fst]

/-- Those are the tasks that a run takes under a priority. -/
theorem map_taken (s : Scheduler σ) (generators : List String) (priority : String) :
    (s.taken generators priority).map (fun entry => (entry.generator, entry.task)) =
      tasksOf (groupsOf generators s.queue priority) := by
  unfold taken tasksOf
  rw [← map_arrivalsOf, List.map_flatMap, List.flatMap_map]
  apply List.flatMap_congr
  rintro ⟨queued, arrival⟩ _
  simp only [QueuedGroup.entries, List.map_map]
  conv_rhs => rw [← List.zipIdx_map_fst 0 queued.group.tasks, List.map_map]
  rfl

/-- The tasks of a priority are taken by standing. -/
theorem pairwise_taken (s : Scheduler σ) (generators : List String) (priority : String) :
    (s.taken generators priority).Pairwise fun a b =>
      s.standing generators a < s.standing generators b := by
  have hgroups : (s.arrivalsOf generators priority).Pairwise fun a b =>
      decide (generators.idxOf a.1.generator ≤ generators.idxOf b.1.generator) = true ∧
      (decide (generators.idxOf b.1.generator ≤ generators.idxOf a.1.generator) = true →
        a.2 < b.2) := by
    apply pairwise_mergeSort_of_arrival fun a b : QueuedGroup σ =>
      decide (generators.idxOf a.generator ≤ generators.idxOf b.generator)
    · intro a b c hab hbc
      simp only [decide_eq_true_eq] at hab hbc ⊢
      omega
    · intro a b
      simpa using Nat.le_total _ _
    · exact (pairwise_zipIdx _).filter _
  refine List.pairwise_flatMap.2 ⟨fun pair _ => ?_, hgroups.imp_of_mem ?_⟩
  · refine (pairwise_entries pair.1 pair.2).imp_of_mem ?_
    intro a b ha hb hlt
    obtain ⟨_, hp, hg, harr⟩ := mem_entries.1 ha
    obtain ⟨_, hp', hg', harr'⟩ := mem_entries.1 hb
    rw [standing_lt, hp, hp', hg, hg', harr, harr']
    simp [hlt]
  · rintro first second hfirst hsecond ⟨hle, harrival⟩ a ha b hb
    obtain ⟨_, hp, hg, harr⟩ := mem_entries.1 ha
    obtain ⟨_, hp', hg', harr'⟩ := mem_entries.1 hb
    simp only [decide_eq_true_eq] at hle harrival
    rw [standing_lt, hp, hp', (mem_arrivalsOf.1 hfirst).2, (mem_arrivalsOf.1 hsecond).2,
      hg, hg', harr, harr']
    refine Or.inr ⟨rfl, ?_⟩
    rcases Nat.lt_or_eq_of_le hle with hlt | heq
    · exact Or.inl hlt
    · exact Or.inr ⟨heq, Or.inl (harrival (Nat.le_of_eq heq.symm))⟩

/-- Going through the priorities takes the tasks by standing. -/
theorem pairwise_all_taken (generators : List String) (hn : s.order.names.Nodup) :
    (s.order.priorities.flatMap fun priority => s.taken generators priority.name).Pairwise
      fun a b => s.standing generators a < s.standing generators b := by
  have hnames := List.pairwise_map.1 (pairwise_idxOf hn)
  refine List.pairwise_flatMap.2 ⟨fun priority _ => pairwise_taken _ _ _, hnames.imp ?_⟩
  intro first second hlt a ha b hb
  rw [standing_lt, (mem_taken.1 ha).2, (mem_taken.1 hb).2]
  exact Or.inl hlt

/-- A run takes the tasks as they are scheduled. -/
theorem schedule_eq (hn : s.order.names.Nodup)
    (hq : ∀ queued ∈ s.queue, queued.priority ∈ s.order.names) :
    s.schedule generators =
      s.order.priorities.flatMap fun priority => s.taken generators priority.name := by
  have htaken := pairwise_all_taken generators hn
  have hnodup : (s.order.priorities.flatMap fun priority =>
      s.taken generators priority.name).Nodup := by
    refine htaken.imp ?_
    rintro a b hlt rfl
    exact lt_irrefl _ hlt
  -- both sides are sorted by a strict order, so it is enough that they have the same members
  refine List.Perm.eq_of_pairwise ?_ (pairwise_schedule s generators) htaken ?_
  · exact fun a b _ _ hab hba => absurd (hab.trans hba) (lt_irrefl _)
  · apply (List.perm_ext_iff_of_nodup (nodup_schedule s generators) hnodup).2
    intro entry
    rw [(schedule_perm s generators).mem_iff, List.mem_flatMap]
    constructor
    · intro hentry
      obtain ⟨queued, hqueued, hin⟩ := mem_queuedTasks.1 hentry
      obtain ⟨_, hp, _, _⟩ := mem_entries.1 hin
      obtain ⟨priority, hpriority, hname⟩ := List.mem_map.1 (hq _ (List.mem_of_getElem? hqueued))
      exact ⟨priority, hpriority, mem_taken.2 ⟨hentry, by rw [hp, hname]⟩⟩
    · rintro ⟨priority, _, hin⟩
      exact (mem_taken.1 hin).1

end Scheduler

end EntityPipeline
