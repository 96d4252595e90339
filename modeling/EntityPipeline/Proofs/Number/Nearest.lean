-- The double nearest to a fraction depends on the fraction alone, not on how it is reduced, and a
-- fraction that is a double already is nearest to itself.
import EntityPipeline.Number.Binary64
import Mathlib.Algebra.Order.Field.Power
import Mathlib.Data.Rat.Cast.Order
import Mathlib.Tactic.FieldSimp
import Mathlib.Tactic.Linarith
import Mathlib.Tactic.Positivity
import Mathlib.Tactic.Ring

namespace EntityPipeline.Binary64

variable {num den num' den' : Nat} {e : Int} {r : ℚ} {x : Binary64}

/-! ## Rounding -/

theorem roundHalfEven_mul_right (num : Nat) {den c : Nat} (hc : 0 < c) :
    roundHalfEven (num * c) (den * c) = roundHalfEven num den := by
  have htwice : 2 * (num % den * c) = 2 * (num % den) * c := by ring
  unfold roundHalfEven
  simp only [Nat.mul_div_mul_right _ _ hc, Nat.mul_mod_mul_right, htwice, gt_iff_lt,
    Nat.mul_lt_mul_right hc, beq_eq_decide, Nat.mul_right_cancel_iff hc]

/-- Rounding depends on the fraction alone. -/
theorem roundHalfEven_congr (hden : 0 < den) (hden' : 0 < den') (h : num * den' = num' * den) :
    roundHalfEven num den = roundHalfEven num' den' := by
  rw [← roundHalfEven_mul_right num hden', h, Nat.mul_comm den den',
    roundHalfEven_mul_right num' hden]

theorem roundHalfEven_mul_self (m : Nat) (hden : 0 < den) : roundHalfEven (m * den) den = m := by
  unfold roundHalfEven
  simp [Nat.mul_div_cancel _ hden, hden.ne]

theorem roundHalfEven_le {k : Nat} (h : num < den * k) :
    roundHalfEven num den ≤ k := by
  have hq : num / den < k := Nat.div_lt_of_lt_mul h
  unfold roundHalfEven
  dsimp only
  split <;> omega

theorem le_roundHalfEven {k : Nat} (hden : 0 < den) (h : k * den ≤ num) :
    k ≤ roundHalfEven num den := by
  have hq : k ≤ num / den := (Nat.le_div_iff_mul_le hden).2 h
  unfold roundHalfEven
  dsimp only
  split <;> omega

/-! ## Exponents -/

theorem divPow_pos (num : Nat) (hden : 0 < den) (e : Int) : 0 < (divPow num den e).2 := by
  unfold divPow
  split
  · exact hden
  · exact Nat.mul_pos hden (Nat.pow_pos (by decide))

theorem divPow_congr (h : num * den' = num' * den) (e : Int) :
    (divPow num den e).1 * (divPow num' den' e).2 =
      (divPow num' den' e).1 * (divPow num den e).2 := by
  unfold divPow
  split
  · calc num * Nat.pow 2 e.natAbs * den' = num * den' * Nat.pow 2 e.natAbs := by ring
      _ = num' * Nat.pow 2 e.natAbs * den := by rw [h]; ring
  · calc num * (den' * Nat.pow 2 e.natAbs) = num * den' * Nat.pow 2 e.natAbs := by ring
      _ = num' * (den * Nat.pow 2 e.natAbs) := by rw [h]; ring

theorem zpow_of_neg (b : ℚ) (h : e < 0) : b ^ e = (b ^ e.natAbs)⁻¹ := by
  have he : e = -(e.natAbs : Int) := by omega
  conv_lhs => rw [he]
  rw [zpow_neg, zpow_natCast]

theorem zpow_of_not_neg (b : ℚ) (h : ¬e < 0) : b ^ e = b ^ e.natAbs := by
  have he : e = (e.natAbs : Int) := by omega
  conv_lhs => rw [he]
  rw [zpow_natCast]

theorem cast_divPow (num den : Nat) (e : Int) :
    ((divPow num den e).1 : ℚ) / (divPow num den e).2 = (num : ℚ) / den / 2 ^ e := by
  unfold divPow
  split
  · rename_i h
    rw [zpow_of_neg 2 h, div_inv_eq_mul]
    simp only [Nat.pow_eq]
    push_cast
    ring
  · rename_i h
    rw [zpow_of_not_neg 2 h, div_div]
    simp only [Nat.pow_eq]
    push_cast
    rfl

/-- An exponent at which a positive number has a mantissa of 53 bits, or of fewer if it is the
least exponent. -/
structure InBinade (r : ℚ) (e : Int) : Prop where
  low : minExponent ≤ e
  lt : r < 2 ^ (53 + e)
  normal : e = minExponent ∨ (2 : ℚ) ^ (52 + e) ≤ r

theorem zpow_le_two {a b : Int} (h : a ≤ b) : (2 : ℚ) ^ a ≤ 2 ^ b :=
  zpow_le_zpow_right₀ one_le_two h

theorem lt_of_zpow_lt_two {a b : Int} (h : (2 : ℚ) ^ a < 2 ^ b) : a < b :=
  (zpow_lt_zpow_iff_right₀ one_lt_two).1 h

/-- A number is in one binade at most. -/
theorem InBinade.unique {e e' : Int} (h : InBinade r e) (h' : InBinade r e') : e = e' := by
  have hle : ∀ {a b : Int}, InBinade r a → InBinade r b → a ≤ b := by
    intro a b ha hb
    rcases ha.normal with rfl | hnormal
    · exact hb.low
    · have hlt := lt_of_zpow_lt_two (lt_of_le_of_lt hnormal hb.lt)
      omega
  exact le_antisymm (hle h h') (hle h' h)

theorem inBinade_max (hlt : r < 2 ^ (53 + e)) (hle : (2 : ℚ) ^ (52 + e) ≤ r) :
    InBinade r (max minExponent e) := by
  rcases le_total minExponent e with h | h
  · rw [max_eq_right h]
    exact ⟨h, hlt, Or.inr hle⟩
  · rw [max_eq_left h]
    exact ⟨le_rfl, lt_of_lt_of_le hlt (zpow_le_two (by omega)), Or.inl rfl⟩

theorem zpow_log2_le {n : Nat} (hn : 0 < n) : (2 : ℚ) ^ (Nat.log2 n : Int) ≤ n := by
  rw [zpow_natCast]
  exact_mod_cast Nat.log2_self_le hn.ne'

theorem lt_zpow_log2 (n : Nat) : (n : ℚ) < 2 ^ ((Nat.log2 n : Int) + 1) := by
  exact_mod_cast Nat.lt_log2_self

/-- A scaled fraction stays below 53 bits when the number itself does at that exponent. -/
theorem divPow_lt_iff (num : Nat) (hden : 0 < den) (e : Int) :
    (divPow num den e).1 < (divPow num den e).2 * Nat.pow 2 53 ↔
      (num : ℚ) / den < 2 ^ (53 + e) := by
  have hpos : (0 : ℚ) < (divPow num den e).2 := by exact_mod_cast divPow_pos num hden e
  rw [zpow_add₀ two_ne_zero, ← div_lt_iff₀ (by positivity), ← cast_divPow, div_lt_iff₀ hpos,
    mul_comm, Nat.pow_eq]
  norm_cast

/-- A positive fraction is in the binade of its exponent. -/
theorem inBinade_exponentOf (hnum : 0 < num) (hden : 0 < den) :
    InBinade ((num : ℚ) / den) (exponentOf num den) := by
  have hden' : (0 : ℚ) < den := by exact_mod_cast hden
  let guess : Int := (Nat.log2 num : Int) - Nat.log2 den - 53
  -- the logarithms leave two binades to choose from
  have hlow : (2 : ℚ) ^ (52 + guess) ≤ (num : ℚ) / den := by
    rw [le_div_iff₀ hden']
    calc (2 : ℚ) ^ (52 + guess) * den ≤ 2 ^ (52 + guess) * 2 ^ ((Nat.log2 den : Int) + 1) := by
          gcongr
          exact (lt_zpow_log2 den).le
      _ = 2 ^ (Nat.log2 num : Int) := by
          rw [← zpow_add₀ two_ne_zero]
          congr 1
          simp only [guess]
          ring
      _ ≤ num := zpow_log2_le hnum
  have hhigh : (num : ℚ) / den < 2 ^ (53 + (guess + 1)) := by
    rw [div_lt_iff₀ hden']
    calc (num : ℚ) < 2 ^ ((Nat.log2 num : Int) + 1) := lt_zpow_log2 num
      _ = 2 ^ (53 + (guess + 1)) * 2 ^ (Nat.log2 den : Int) := by
          rw [← zpow_add₀ two_ne_zero]
          congr 1
          simp only [guess]
          ring
      _ ≤ 2 ^ (53 + (guess + 1)) * den := by
          gcongr
          exact zpow_log2_le hden
  have hchoice := divPow_lt_iff num hden guess
  unfold exponentOf
  simp only
  split
  · rename_i h
    exact inBinade_max (hchoice.1 h) hlow
  · rename_i h
    refine inBinade_max hhigh ?_
    have hup : (52 : Int) + (guess + 1) = 53 + guess := by ring
    rw [hup]
    exact not_lt.1 (mt hchoice.2 h)

/-! ## The nearest double -/

/-- The doubles that are read and computed: the mantissa has 53 bits unless the exponent is the
least one. -/
structure IsCanonical (x : Binary64) : Prop where
  lt : x.mantissa < Nat.pow 2 53
  low : minExponent ≤ x.exponent
  high : x.exponent ≤ maxExponent
  normal : x.exponent = minExponent ∨ Nat.pow 2 52 ≤ x.mantissa

theorem isCanonical_zero (negative : Bool) : (zero negative).IsCanonical where
  lt := Nat.pow_pos (by decide)
  low := le_rfl
  high := show minExponent ≤ maxExponent by decide
  normal := Or.inl rfl

theorem exponentOf_congr (hnum : 0 < num) (hden : 0 < den) (hden' : 0 < den')
    (h : num * den' = num' * den) : exponentOf num den = exponentOf num' den' := by
  have hnum' : 0 < num' := by
    rcases Nat.eq_zero_or_pos num' with rfl | hpos
    · rw [Nat.zero_mul] at h
      exact absurd h (Nat.mul_pos hnum hden').ne'
    · exact hpos
  have hratio : (num : ℚ) / den = (num' : ℚ) / den' := by
    rw [div_eq_div_iff (by positivity) (by positivity)]
    exact_mod_cast h
  exact (inBinade_exponentOf hnum hden).unique (hratio ▸ inBinade_exponentOf hnum' hden')

/-- A rounded mantissa at its exponent; one that has reached 54 bits moves up a binade. -/
def rounded (negative : Bool) (m : Nat) (e : Int) : Option Binary64 :=
  let (m, e) := if m == Nat.pow 2 53 then (Nat.pow 2 52, e + 1) else (m, e)
  if e > maxExponent then none else some ⟨negative, m, e⟩

theorem ofRatio_zero (negative : Bool) (den : Nat) :
    ofRatio negative 0 den = some (zero negative) := by
  unfold ofRatio
  exact if_pos rfl

theorem ofRatio_of_divPow (negative : Bool) {n d : Nat} (hnum : num ≠ 0)
    (h : divPow num den (exponentOf num den) = (n, d)) :
    ofRatio negative num den = rounded negative (roundHalfEven n d) (exponentOf num den) := by
  unfold ofRatio rounded
  rw [if_neg (by rwa [beq_iff_eq])]
  extract_lets e
  rw [show divPow num den e = (n, d) from h]

theorem ofRatio_eq_rounded (negative : Bool) (den : Nat) (hnum : num ≠ 0) :
    ofRatio negative num den =
      rounded negative (roundHalfEven (divPow num den (exponentOf num den)).1
        (divPow num den (exponentOf num den)).2) (exponentOf num den) :=
  ofRatio_of_divPow negative hnum Prod.mk.eta.symm

theorem rounded_carry (negative : Bool) (e : Int) :
    rounded negative (Nat.pow 2 53) e =
      if e + 1 > maxExponent then none else some ⟨negative, Nat.pow 2 52, e + 1⟩ := by
  unfold rounded
  rw [if_pos (beq_self_eq_true _)]

theorem rounded_of_ne {negative : Bool} {m : Nat} (hm : m ≠ Nat.pow 2 53) :
    rounded negative m e = if e > maxExponent then none else some ⟨negative, m, e⟩ := by
  unfold rounded
  rw [if_neg (by rwa [beq_iff_eq])]

/-- The nearest double depends on the fraction alone. -/
theorem ofRatio_congr (negative : Bool) (hden : 0 < den) (hden' : 0 < den')
    (h : num * den' = num' * den) : ofRatio negative num den = ofRatio negative num' den' := by
  have hzero : num = 0 ↔ num' = 0 := by
    have hboth : num * den' = 0 ↔ num' * den = 0 := by rw [h]
    simpa [hden.ne', hden'.ne'] using hboth
  by_cases hnum : num = 0
  · rw [hnum, hzero.1 hnum, ofRatio_zero, ofRatio_zero]
  · have hexponent := exponentOf_congr (Nat.pos_of_ne_zero hnum) hden hden' h
    rw [ofRatio_eq_rounded negative den hnum, ofRatio_eq_rounded negative den' (mt hzero.2 hnum),
      ← hexponent,
      roundHalfEven_congr (divPow_pos num hden _) (divPow_pos num' hden' _) (divPow_congr h _)]

theorem isCanonical_of_rounded {negative : Bool} {m : Nat} (hlow : minExponent ≤ e)
    (hle : m ≤ Nat.pow 2 53) (hnormal : e = minExponent ∨ Nat.pow 2 52 ≤ m)
    (h : rounded negative m e = some x) : x.IsCanonical := by
  by_cases hm : m = Nat.pow 2 53
  · rw [hm, rounded_carry] at h
    split at h
    · exact absurd h (Option.some_ne_none _).symm
    · rename_i hhigh
      obtain rfl := Option.some.inj h
      exact ⟨Nat.pow_lt_pow_right (by decide) (by decide), hlow.trans (Int.le_add_one le_rfl),
        not_lt.1 hhigh, Or.inr le_rfl⟩
  · rw [rounded_of_ne hm] at h
    split at h
    · exact absurd h (Option.some_ne_none _).symm
    · rename_i hhigh
      obtain rfl := Option.some.inj h
      exact ⟨lt_of_le_of_ne hle hm, hlow, not_lt.1 hhigh, hnormal⟩

/-- The nearest double is canonical. -/
theorem isCanonical_of_ofRatio {negative : Bool} (hden : 0 < den)
    (h : ofRatio negative num den = some x) : x.IsCanonical := by
  by_cases hnum : num = 0
  · obtain rfl := Option.some.inj (h.symm.trans (by rw [hnum, ofRatio_zero]))
    exact isCanonical_zero negative
  · rw [ofRatio_eq_rounded negative den hnum] at h
    have hbinade := inBinade_exponentOf (Nat.pos_of_ne_zero hnum) hden
    have hpos := divPow_pos num hden (exponentOf num den)
    have hcast := cast_divPow num den (exponentOf num den)
    generalize exponentOf num den = e at h hbinade hpos hcast
    generalize divPow num den e = fraction at h hpos hcast
    obtain ⟨n, d⟩ := fraction
    dsimp only at h hpos hcast
    have hd : (0 : ℚ) < d := by exact_mod_cast hpos
    have htwo : (0 : ℚ) < 2 ^ e := by positivity
    have hle : roundHalfEven n d ≤ Nat.pow 2 53 := by
      have hlt : (n : ℚ) < d * 2 ^ 53 := by
        rw [mul_comm, ← div_lt_iff₀ hd, hcast, div_lt_iff₀ htwo]
        exact_mod_cast hbinade.lt.trans_eq (zpow_add₀ two_ne_zero 53 e)
      exact roundHalfEven_le (by rw [Nat.pow_eq]; exact_mod_cast hlt)
    refine isCanonical_of_rounded hbinade.low hle (hbinade.normal.imp_right fun hge => ?_) h
    have hle : (2 : ℚ) ^ 52 * d ≤ n := by
      rw [← le_div_iff₀ hd, hcast, le_div_iff₀ htwo]
      exact_mod_cast (zpow_add₀ two_ne_zero 52 e).symm.trans_le hge
    exact le_roundHalfEven hpos (by rw [Nat.pow_eq]; exact_mod_cast hle)

theorem IsCanonical.inBinade (hx : x.IsCanonical) :
    InBinade ((x.mantissa : ℚ) * 2 ^ x.exponent) x.exponent where
  low := hx.low
  lt := by
    have hlt : (x.mantissa : ℚ) < 2 ^ (53 : Int) := by
      have hlt := hx.lt
      rw [Nat.pow_eq] at hlt
      exact_mod_cast hlt
    rw [zpow_add₀ two_ne_zero]
    exact mul_lt_mul_of_pos_right hlt (by positivity)
  normal := hx.normal.imp_right fun hge => by
    have hle : (2 : ℚ) ^ (52 : Int) ≤ x.mantissa := by
      rw [Nat.pow_eq] at hge
      exact_mod_cast hge
    rw [zpow_add₀ two_ne_zero]
    exact mul_le_mul_of_nonneg_right hle (by positivity)

/-- A canonical double is nearest to itself. -/
theorem ofRatio_eq_self (hx : x.IsCanonical) (hm : x.mantissa ≠ 0) (hden : 0 < den)
    (h : (num : ℚ) / den = x.mantissa * 2 ^ x.exponent) :
    ofRatio x.negative num den = some x := by
  have hd : (0 : ℚ) < den := by exact_mod_cast hden
  have hmantissa : (0 : ℚ) < x.mantissa := by exact_mod_cast Nat.pos_of_ne_zero hm
  have hpos : (0 : ℚ) < (num : ℚ) / den := by rw [h]; positivity
  have hnum : 0 < num := by
    have hcast : (0 : ℚ) < num := by
      have := mul_pos hpos hd
      rwa [div_mul_cancel₀ _ hd.ne'] at this
    exact_mod_cast hcast
  have hexponent : exponentOf num den = x.exponent :=
    (inBinade_exponentOf hnum hden).unique (h ▸ hx.inBinade)
  have hdivPow := divPow_pos num hden x.exponent
  have hround : (divPow num den x.exponent).1 =
      x.mantissa * (divPow num den x.exponent).2 := by
    have hcast := cast_divPow num den x.exponent
    have hd' : ((divPow num den x.exponent).2 : ℚ) ≠ 0 := by exact_mod_cast hdivPow.ne'
    rw [h, mul_div_cancel_right₀ _ (by positivity), div_eq_iff hd'] at hcast
    exact_mod_cast hcast
  rw [ofRatio_eq_rounded x.negative den hnum.ne', hexponent, hround,
    roundHalfEven_mul_self _ hdivPow]
  rw [rounded_of_ne hx.lt.ne, if_neg (not_lt.2 hx.high)]

end EntityPipeline.Binary64
