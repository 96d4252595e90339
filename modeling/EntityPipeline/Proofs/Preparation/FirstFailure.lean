-- Going through items up to the first failure. Each loop of the preparation is one such pass, so
-- that it either gets a result for every item or fails with the first one that has none.
import EntityPipeline.Registry
import Mathlib.Data.List.Forall2

namespace EntityPipeline

variable {α β ε : Type} {f : α → Except ε β} {l : List α} {m : List β} {e : ε}

/-- A failure is that of the first item that fails. -/
def FailsFirst (f : α → Except ε β) (l : List α) (e : ε) : Prop :=
  ∃ before a after, l = before ++ a :: after ∧ (∀ b ∈ before, ∃ c, f b = .ok c) ∧ f a = .error e

theorem eq_ok_getD {result : Except ε α} (default : α) (h : result.toOption.isSome = true) :
    result = .ok (result.toOption.getD default) := by
  cases result with
  | error e => cases h
  | ok a => rfl

theorem mapM_cons_eq (f : α → Except ε β) (a : α) (l : List α) :
    (a :: l).mapM f = match f a with
      | .error e => .error e
      | .ok b => match l.mapM f with
        | .error e => .error e
        | .ok m => .ok (b :: m) := by
  rw [List.mapM_cons]
  cases f a with
  | error e => rfl
  | ok b => cases l.mapM f <;> rfl

theorem mapM_eq_ok : l.mapM f = .ok m ↔ List.Forall₂ (fun a b => f a = .ok b) l m := by
  induction l generalizing m with
  | nil =>
    rw [List.forall₂_nil_left_iff]
    constructor
    · intro h
      cases h
      rfl
    · rintro rfl
      rfl
  | cons a l ih =>
    rw [mapM_cons_eq, List.forall₂_cons_left_iff]
    constructor
    · intro h
      split at h
      · cases h
      · split at h
        · cases h
        · rename_i hb _ _ hm
          cases h
          exact ⟨_, _, hb, ih.1 hm, rfl⟩
    · rintro ⟨b, m, hb, hm, rfl⟩
      rw [hb, ih.2 hm]

theorem failsFirst_of_mapM (h : l.mapM f = .error e) : FailsFirst f l e := by
  induction l with
  | nil => cases h
  | cons a l ih =>
    rw [mapM_cons_eq] at h
    split at h
    · rename_i cause ha
      cases h
      exact ⟨[], a, l, rfl, by simp, ha⟩
    · rename_i b hb
      split at h
      · rename_i cause hl
        cases h
        obtain ⟨before, c, after, rfl, hbefore, hc⟩ := ih hl
        refine ⟨a :: before, c, after, rfl, ?_, hc⟩
        exact List.forall_mem_cons.2 ⟨⟨b, hb⟩, hbefore⟩
      · cases h

/-- Every item got a result of the pass. -/
theorem exists_of_mapM (h : l.mapM f = .ok m) : ∀ a ∈ l, ∃ b ∈ m, f a = .ok b := by
  have hall := mapM_eq_ok.1 h
  clear h
  induction hall with
  | nil => simp
  | cons hab _ ih =>
    refine List.forall_mem_cons.2 ⟨⟨_, List.mem_cons_self, hab⟩, fun a ha => ?_⟩
    obtain ⟨b, hb, hfa⟩ := ih a ha
    exact ⟨b, List.mem_cons_of_mem _ hb, hfa⟩

/-- Every result is that of an item of the pass. -/
theorem exists_source_of_mapM (h : l.mapM f = .ok m) : ∀ b ∈ m, ∃ a ∈ l, f a = .ok b := by
  have hall := mapM_eq_ok.1 h
  clear h
  induction hall with
  | nil => simp
  | cons hab _ ih =>
    refine List.forall_mem_cons.2 ⟨⟨_, List.mem_cons_self, hab⟩, fun b hb => ?_⟩
    obtain ⟨a, ha, hfa⟩ := ih b hb
    exact ⟨a, List.mem_cons_of_mem _ ha, hfa⟩

end EntityPipeline
