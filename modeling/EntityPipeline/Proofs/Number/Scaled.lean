-- Reading decimals by scaling. Digits of 53 bits and the powers of ten up to the 22nd are doubles
-- themselves, so that a decimal made of both is rounded once when it is read, and is read as the
-- double nearest to it. Any other decimal may be missed by a little.
import EntityPipeline.Proofs.Number.Shortest

namespace EntityPipeline.Binary64

variable {negative : Bool} {num den d k : Nat} {e : Int} {x y : Binary64}

/-! ## Magnitudes -/

/-- The magnitude of a double as a number. -/
def magnitude (x : Binary64) : ℚ := x.mantissa * 2 ^ x.exponent

theorem ratio_pos (x : Binary64) : 0 < x.ratio.2 := by
  unfold ratio
  split
  · exact Nat.pow_pos (by decide)
  · exact Nat.one_pos

theorem cast_ratio (x : Binary64) : (x.ratio.1 : ℚ) / x.ratio.2 = x.magnitude := by
  unfold ratio magnitude
  split
  · rename_i h
    rw [zpow_of_neg 2 h]
    simp only [Nat.pow_eq]
    push_cast
    rfl
  · rename_i h
    rw [zpow_of_not_neg 2 h]
    simp only [Nat.pow_eq]
    push_cast
    rw [div_one]

theorem ratio_ne_zero (h : x.mantissa ≠ 0) : 0 < x.ratio.1 := by
  unfold ratio
  split
  · exact Nat.pos_of_ne_zero h
  · exact Nat.mul_pos (Nat.pos_of_ne_zero h) (Nat.pow_pos (by decide))

/-- A product rounds as any fraction of its value. -/
theorem times_eq (hden : 0 < den) (h : (num : ℚ) / den = x.magnitude * y.magnitude) :
    x.times y = ofRatio x.negative num den := by
  refine ofRatio_eq_of_cast (Nat.mul_pos x.ratio_pos y.ratio_pos) hden ?_
  rw [h, ← cast_ratio x, ← cast_ratio y, div_mul_div_comm]
  push_cast
  rfl

/-- A quotient rounds as any fraction of its value. -/
theorem dividedBy_eq (hy : y.mantissa ≠ 0) (hden : 0 < den)
    (h : (num : ℚ) / den = x.magnitude / y.magnitude) :
    x.dividedBy y = ofRatio x.negative num den := by
  refine ofRatio_eq_of_cast (Nat.mul_pos x.ratio_pos (ratio_ne_zero hy)) hden ?_
  rw [h, ← cast_ratio x, ← cast_ratio y, div_div_div_eq]
  push_cast
  rfl

/-! ## Doubles without rounding -/

/-- A number of 53 bits times a power of two in range is a double. -/
theorem exists_isCanonical (negative : Bool) {m : Nat} {j : Int} (hm : m ≠ 0)
    (hlt : m < 2 ^ 53) (hlow : minExponent ≤ j) (hhigh : j ≤ maxExponent) :
    ∃ x : Binary64, x.IsCanonical ∧ x.negative = negative ∧ x.mantissa ≠ 0 ∧
      x.magnitude = (m : ℚ) * 2 ^ j := by
  have hlog : Nat.log2 m < 53 := (Nat.log2_lt hm).2 hlt
  have hself := Nat.log2_self_le hm
  have hself' : m < 2 ^ (Nat.log2 m + 1) := Nat.lt_log2_self
  generalize Nat.log2 m = bits at hlog hself hself'
  -- the mantissa moves up until it has 53 bits or the exponent is least
  obtain ⟨shift, hbits, hexponent, hnormal⟩ : ∃ shift : Nat, bits + shift ≤ 52 ∧
      minExponent ≤ j - shift ∧ (j - shift = minExponent ∨ bits + shift = 52) := by
    rcases Nat.le_total (52 - bits) (j - minExponent).toNat with h | h
    · exact ⟨52 - bits, by omega, by omega, Or.inr (by omega)⟩
    · exact ⟨(j - minExponent).toNat, by omega, by omega, Or.inl (by omega)⟩
  refine ⟨⟨negative, m * 2 ^ shift, j - shift⟩, ⟨?_, hexponent, ?_, ?_⟩, rfl, ?_, ?_⟩
  · calc m * 2 ^ shift < 2 ^ (bits + 1) * 2 ^ shift :=
          Nat.mul_lt_mul_of_pos_right hself' (by positivity)
      _ = 2 ^ (bits + 1 + shift) := (pow_add _ _ _).symm
      _ ≤ 2 ^ 53 := Nat.pow_le_pow_right (by decide) (by omega)
  · exact (Int.sub_le_self j (by omega)).trans hhigh
  · refine hnormal.imp_right fun h => ?_
    calc 2 ^ 52 = 2 ^ bits * 2 ^ shift := by rw [← pow_add, h]
      _ ≤ m * 2 ^ shift := Nat.mul_le_mul_right _ hself
  · exact Nat.mul_ne_zero hm (by positivity)
  · unfold magnitude
    push_cast
    rw [mul_assoc, ← zpow_natCast, ← zpow_add₀ two_ne_zero]
    congr 2
    ring

/-- A natural number with such a value is rounded to itself. -/
theorem exists_ofRatio_nat (negative : Bool) {m j : Nat} (hm : m ≠ 0) (hlt : m < 2 ^ 53)
    (hj : (j : Int) ≤ maxExponent) :
    ∃ x, ofRatio negative (m * 2 ^ j) 1 = some x ∧ x.negative = negative ∧ x.mantissa ≠ 0 ∧
      x.magnitude = (m : ℚ) * 2 ^ j := by
  have hlow : minExponent ≤ (j : Int) := (show minExponent ≤ 0 by decide).trans (by omega)
  obtain ⟨x, hx, rfl, hne, hvalue⟩ := exists_isCanonical negative hm hlt hlow hj
  rw [zpow_natCast] at hvalue
  refine ⟨x, ofRatio_eq_self hx hne Nat.one_pos ?_, rfl, hne, hvalue⟩
  have hcast : ((m * 2 ^ j : Nat) : ℚ) / (1 : Nat) = m * 2 ^ j := by
    push_cast
    rw [div_one]
  exact hcast.trans hvalue.symm

/-- Digits of 53 bits are a double. -/
theorem exists_ofRatio_digits (negative : Bool) (hd : d < 2 ^ 53) :
    ∃ x, ofRatio negative d 1 = some x ∧ x.negative = negative ∧ x.magnitude = d := by
  rcases Nat.eq_zero_or_pos d with rfl | hpos
  · exact ⟨_, ofRatio_zero negative 1, rfl, by simp [magnitude, zero]⟩
  · obtain ⟨x, hx, hnegative, -, hvalue⟩ :=
      exists_ofRatio_nat (j := 0) negative hpos.ne' hd (by decide)
    rw [pow_zero, mul_one] at hx
    exact ⟨x, hx, hnegative, by simpa using hvalue⟩

/-- The powers of ten up to the 22nd are doubles. -/
theorem exists_tenPower (hk : k ≤ 22) :
    ∃ p, tenPower k = some p ∧ p.mantissa ≠ 0 ∧ p.magnitude = 10 ^ k := by
  have hlt : 5 ^ k < 2 ^ 53 := (Nat.pow_le_pow_right (by decide) hk).trans_lt (by decide)
  have hhigh : (k : Int) ≤ maxExponent := by
    unfold maxExponent
    omega
  obtain ⟨p, hp, -, hne, hvalue⟩ :=
    exists_ofRatio_nat false (Nat.pow_pos (by decide)).ne' hlt hhigh
  rw [← Nat.mul_pow] at hp
  refine ⟨p, hp, hne, hvalue.trans ?_⟩
  push_cast
  rw [← mul_pow]
  norm_num

/-! ## Decimals that are read without a miss -/

theorem scaled_of_neg (h : e < 0) (hlow : -308 ≤ e) : x.scaled e = x.overTen e.natAbs := by
  have hsteps : (e.natAbs - 1) / maxTen = 0 := Nat.div_eq_of_lt (by unfold maxTen; omega)
  unfold scaled
  simp only [if_pos h, hsteps, overMaxTen, Nat.zero_mul, Nat.sub_zero, Option.bind_some]

theorem scaled_of_not_neg (h : ¬e < 0) (hhigh : e ≤ 308) : x.scaled e = x.timesTen e.natAbs := by
  unfold scaled
  rw [if_neg h, if_pos (by unfold maxTen; omega)]

/-- A double is scaled by a small power of ten as its exact value is. -/
theorem scaled_eq (hlow : -22 ≤ e) (hhigh : e ≤ 22) (hvalue : x.magnitude = d) :
    x.scaled e = ofRatio x.negative (decimalRatio d e).1 (decimalRatio d e).2 := by
  obtain ⟨p, hp, hne, hten⟩ := exists_tenPower (k := e.natAbs) (by omega)
  have hdecimal := cast_decimalRatio d e
  by_cases he : e < 0
  · rw [scaled_of_neg he (by omega), overTen, hp]
    refine dividedBy_eq hne (decimalRatio_pos d e) ?_
    rw [hdecimal, hvalue, hten, zpow_of_neg 10 he, div_eq_mul_inv]
  · rw [scaled_of_not_neg he (by omega), timesTen, hp]
    refine times_eq (decimalRatio_pos d e) ?_
    rw [hdecimal, hvalue, hten, zpow_of_not_neg 10 he]

/-- A decimal of few digits and a small power of ten is read as the double nearest to it. -/
theorem readDecimal_eq_ofDecimal (negative : Bool) (hd : d < 2 ^ 53) (hlow : -22 ≤ e)
    (hhigh : e ≤ 22) : readDecimal negative d e = ofDecimal negative d e := by
  obtain ⟨x, hx, rfl, hvalue⟩ := exists_ofRatio_digits negative hd
  have hread : readDecimal x.negative d e =
      ofRatio x.negative (decimalRatio d e).1 (decimalRatio d e).2 := by
    unfold readDecimal
    rw [hx]
    exact scaled_eq hlow hhigh hvalue
  rw [hread]
  rcases Nat.eq_zero_or_pos d with rfl | hpos
  · have hzero : (decimalRatio 0 e).1 = 0 := by
      unfold decimalRatio
      split
      · rfl
      · exact Nat.zero_mul _
    rw [hzero, ofRatio_zero, ofDecimal_zero]
  · have hcount : digitCount d ≤ 16 := digitCount_le (by decide) (hd.trans_le (by decide))
    rw [ofDecimal_eq x.negative e hpos.ne', if_neg (by omega), if_neg (by omega)]

/-! ## Every double that is read -/

theorem mantissa_ne_zero_of_rounded {m : Nat} (hm : m ≠ 0)
    (h : rounded negative m e = some x) : x.mantissa ≠ 0 := by
  by_cases hcarry : m = Nat.pow 2 53
  · rw [hcarry, rounded_carry] at h
    split at h
    · cases h
    · exact Option.some.inj h ▸ (Nat.pow_pos (by decide)).ne'
  · rw [rounded_of_ne hcarry] at h
    split at h
    · cases h
    · exact Option.some.inj h ▸ hm

/-- What is at least one does not vanish by being rounded. -/
theorem mantissa_ne_zero_of_ofRatio (hden : 0 < den) (hle : den ≤ num)
    (h : ofRatio negative num den = some x) : x.mantissa ≠ 0 := by
  have hnum : 0 < num := hden.trans_le hle
  have hone : (1 : ℚ) ≤ (num : ℚ) / den := by
    rw [one_le_div (by exact_mod_cast hden)]
    exact_mod_cast hle
  have hbinade := inBinade_exponentOf hnum hden
  have hscale : (2 : ℚ) ^ exponentOf num den ≤ (num : ℚ) / den := by
    rcases hbinade.normal with hleast | hge
    · rw [hleast]
      exact (zpow_le_two (by decide : minExponent ≤ 0)).trans (by simpa using hone)
    · exact (zpow_le_two (by omega)).trans hge
  have hpos := divPow_pos num hden (exponentOf num den)
  have hle : 1 * (divPow num den (exponentOf num den)).2 ≤
      (divPow num den (exponentOf num den)).1 := by
    have hcast : (1 : ℚ) ≤ ((divPow num den (exponentOf num den)).1 : ℚ) /
        (divPow num den (exponentOf num den)).2 := by
      rwa [cast_divPow, one_le_div (by positivity)]
    rw [one_le_div (by exact_mod_cast hpos)] at hcast
    rw [one_mul]
    exact_mod_cast hcast
  rw [ofRatio_eq_rounded negative den hnum.ne'] at h
  exact mantissa_ne_zero_of_rounded (Nat.one_le_iff_ne_zero.1 (le_roundHalfEven hpos hle)) h

theorem isCanonical_of_timesTen (h : x.timesTen k = some y) : y.IsCanonical := by
  obtain ⟨p, -, hp⟩ := Option.bind_eq_some_iff.1 h
  exact isCanonical_of_ofRatio (Nat.mul_pos x.ratio_pos p.ratio_pos) hp

theorem isCanonical_of_overTen (h : x.overTen k = some y) : y.IsCanonical := by
  obtain ⟨p, hten, hp⟩ := Option.bind_eq_some_iff.1 h
  have hne := mantissa_ne_zero_of_ofRatio Nat.one_pos (Nat.pow_pos (by decide)) hten
  exact isCanonical_of_ofRatio (Nat.mul_pos x.ratio_pos (ratio_ne_zero hne)) hp

theorem isCanonical_of_scaled (hx : x.IsCanonical) (h : x.scaled e = some y) :
    y.IsCanonical := by
  unfold scaled at h
  split at h
  · obtain ⟨z, -, hz⟩ := Option.bind_eq_some_iff.1 h
    exact isCanonical_of_overTen hz
  · split at h
    · exact isCanonical_of_timesTen h
    · split at h
      · exact Option.some.inj h ▸ hx
      · cases h

/-- Every double that is read is canonical. -/
theorem isCanonical_of_readDecimal (h : readDecimal negative d e = some x) : x.IsCanonical := by
  obtain ⟨y, hy, hscaled⟩ := Option.bind_eq_some_iff.1 h
  exact isCanonical_of_scaled (isCanonical_of_ofRatio Nat.one_pos hy) hscaled

end EntityPipeline.Binary64
