-- Circles of a relation: when something leads to itself, directly or through others. Entities
-- borrow identifiers from each other, and nodes of a graph depend on each other; in both cases a
-- circle is just what stops the search for an order.
import Mathlib.Data.Fintype.EquivFin
import Mathlib.Data.Fintype.Sets
import Mathlib.Logic.Relation
import Mathlib.Order.WellFounded

namespace EntityPipeline

/-- Where every member of a list leads on to another member, there is a circle. -/
theorem exists_circle {r : Nat → Nat → Prop} {l : List Nat} (hne : l ≠ [])
    (hstep : ∀ a ∈ l, ∃ b ∈ l, r a b) : ∃ a ∈ l, Relation.TransGen r a a := by
  by_contra hnone
  push Not at hnone
  -- without a circle the members are well-founded, and a least one leads nowhere
  let below : {a // a ∈ l} → {a // a ∈ l} → Prop := fun a b => Relation.TransGen r b.1 a.1
  have htrans : IsTrans {a // a ∈ l} below := ⟨fun _ _ _ hab hbc => hbc.trans hab⟩
  have hirrefl : Std.Irrefl below := ⟨fun a => hnone a.1 a.2⟩
  have hwf : WellFounded below := Finite.wellFounded_of_trans_of_irrefl below
  obtain ⟨first, hfirst⟩ := List.exists_mem_of_ne_nil l hne
  obtain ⟨last, _, hlast⟩ := hwf.has_min Set.univ ⟨⟨first, hfirst⟩, trivial⟩
  obtain ⟨next, hnext, hr⟩ := hstep last.1 last.2
  exact hlast ⟨next, hnext⟩ trivial (.single hr)

/-- Where every step leads to a smaller rank, there is no circle. -/
theorem no_circle_of_rank {α : Type} {r : α → α → Prop} (rank : α → Nat)
    (hrank : ∀ a b, r a b → rank b < rank a) (a : α) : ¬Relation.TransGen r a a := by
  intro hcircle
  have hless : Relation.TransGen (fun m n : Nat => n < m) (rank a) (rank a) :=
    hcircle.lift rank hrank
  have htrans : IsTrans Nat fun m n => n < m := ⟨fun _ _ _ hab hbc => hbc.trans hab⟩
  rw [Relation.transGen_eq_self] at hless
  exact Nat.lt_irrefl _ hless

end EntityPipeline
