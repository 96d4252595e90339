-- The shortest decimal of a double rounds to the double. Every candidate that is taken has been
-- rounded, and the exact decimal, which is taken when none rounds to it, has the value itself.
import EntityPipeline.Proofs.Number.Nearest

namespace EntityPipeline.Binary64

variable {negative : Bool} {d d' : Nat} {e e' : Int} {x : Binary64}

/-! ## Counting digits -/

theorem digitCount_mul_ten (hd : d ≠ 0) : digitCount (d * 10) = digitCount d + 1 := by
  have happend := Nat.toDigits_append_toDigits (b := 10) (d := 0) (by decide)
    (Nat.pos_of_ne_zero hd) (by decide)
  rw [Nat.add_zero, Nat.mul_comm] at happend
  unfold digitCount
  rw [← happend, List.length_append, Nat.toDigits_zero]
  rfl

theorem digitCount_pos (n : Nat) : 0 < digitCount n :=
  Nat.length_toDigits_pos

theorem digitCount_le {n k : Nat} (hk : 0 < k) (h : n < 10 ^ k) : digitCount n ≤ k :=
  (Nat.length_toDigits_le_iff (by decide) hk).2 h

theorem lt_digitCount {n k : Nat} (h : 10 ^ k ≤ n) : k < digitCount n := by
  rcases Nat.eq_zero_or_pos k with rfl | hk
  · exact digitCount_pos n
  · exact not_le.1 fun hle => not_lt.2 h ((Nat.length_toDigits_le_iff (by decide) hk).1 hle)

/-! ## Decimals as fractions -/

theorem decimalRatio_pos (d : Nat) (e : Int) : 0 < (decimalRatio d e).2 := by
  unfold decimalRatio
  split
  · exact Nat.pow_pos (by decide)
  · exact Nat.one_pos

theorem cast_decimalRatio (d : Nat) (e : Int) :
    ((decimalRatio d e).1 : ℚ) / (decimalRatio d e).2 = d * 10 ^ e := by
  unfold decimalRatio
  split
  · rename_i h
    rw [zpow_of_neg 10 h]
    simp only [Nat.pow_eq]
    push_cast
    rfl
  · rename_i h
    rw [zpow_of_not_neg 10 h]
    simp only [Nat.pow_eq]
    push_cast
    rw [div_one]

theorem ofDecimal_zero (negative : Bool) (e : Int) : ofDecimal negative 0 e = some (zero negative) := by
  unfold ofDecimal
  exact if_pos rfl

/-- What decides about a decimal other than zero: its size, then the fraction it stands for. -/
theorem ofDecimal_eq (negative : Bool) (e : Int) (hd : d ≠ 0) :
    ofDecimal negative d e =
      if (digitCount d : Int) + e < -330 then some (zero negative)
      else if (digitCount d : Int) + e > 330 then none
      else ofRatio negative (decimalRatio d e).1 (decimalRatio d e).2 := by
  unfold ofDecimal
  simp only [beq_eq_false_iff_ne.2 hd, Bool.false_or, decide_eq_true_eq]

theorem ofRatio_eq_of_cast {num den num' den' : Nat} (hden : 0 < den) (hden' : 0 < den')
    (h : (num : ℚ) / den = (num' : ℚ) / den') :
    ofRatio negative num den = ofRatio negative num' den' := by
  have hd : (den : ℚ) ≠ 0 := by exact_mod_cast hden.ne'
  have hd' : (den' : ℚ) ≠ 0 := by exact_mod_cast hden'.ne'
  rw [div_eq_div_iff hd hd'] at h
  exact ofRatio_congr negative hden hden' (by exact_mod_cast h)

/-- A zero at the end of the digits stands for a power of ten. -/
theorem ofDecimal_mul_ten (negative : Bool) (hd : d ≠ 0) (e : Int) :
    ofDecimal negative (d * 10) e = ofDecimal negative d (e + 1) := by
  have hsize : (digitCount (d * 10) : Int) + e = digitCount d + (e + 1) := by
    rw [digitCount_mul_ten hd]
    push_cast
    ring
  have hratio : ofRatio negative (decimalRatio (d * 10) e).1 (decimalRatio (d * 10) e).2 =
      ofRatio negative (decimalRatio d (e + 1)).1 (decimalRatio d (e + 1)).2 := by
    refine ofRatio_eq_of_cast (decimalRatio_pos _ _) (decimalRatio_pos _ _) ?_
    rw [cast_decimalRatio, cast_decimalRatio, zpow_add₀ (by norm_num)]
    push_cast
    ring
  rw [ofDecimal_eq negative e (Nat.mul_ne_zero hd (by decide)), ofDecimal_eq negative (e + 1) hd,
    hsize, hratio]

theorem ofDecimal_mul_pow (negative : Bool) (hd : d ≠ 0) (k : Nat) (e : Int) :
    ofDecimal negative (d * 10 ^ k) e = ofDecimal negative d (e + k) := by
  induction k generalizing e with
  | zero => simp
  | succ k ih =>
    rw [pow_succ, ← mul_assoc, ofDecimal_mul_ten negative (by positivity), ih]
    congr 1
    push_cast
    ring

/-- A decimal that rounds to another number than zero has digits other than zero. -/
theorem ne_zero_of_ofDecimal (hx : x.mantissa ≠ 0) (h : ofDecimal negative d e = some x) :
    d ≠ 0 := by
  rintro rfl
  rw [ofDecimal_zero] at h
  exact hx (Option.some.inj h ▸ rfl)

/-- Every decimal of a number's magnitude rounds to it, unless it is too large or too small to be
looked at. -/
theorem ofDecimal_eq_self (hx : x.IsCanonical) (hm : x.mantissa ≠ 0) (hd : d ≠ 0)
    (hlow : -330 ≤ (digitCount d : Int) + e) (hhigh : (digitCount d : Int) + e ≤ 330)
    (h : (d : ℚ) * 10 ^ e = x.mantissa * 2 ^ x.exponent) :
    ofDecimal x.negative d e = some x := by
  rw [ofDecimal_eq x.negative e hd, if_neg (not_lt.2 hlow), if_neg (not_lt.2 hhigh)]
  exact ofRatio_eq_self hx hm (decimalRatio_pos d e) ((cast_decimalRatio d e).trans h)

/-! ## The exact decimal -/

theorem mul_five_pow (m k : Nat) : ((m * Nat.pow 5 k : Nat) : ℚ) * (10 ^ k)⁻¹ = m * (2 ^ k)⁻¹ := by
  have hten : (10 : ℚ) ^ k = 5 ^ k * 2 ^ k := by
    rw [← mul_pow]
    norm_num
  rw [hten, Nat.pow_eq]
  push_cast
  field_simp

/-- Two powers compare as powers of a smaller comparison of the same bases. -/
theorem pow_le_pow_of_pow_le {a b i j k l : Nat} (n : Nat) (ha : 0 < a) (hb : 0 < b)
    (h : a ^ i ≤ b ^ j) (hk : k ≤ i * n) (hl : j * n ≤ l) : a ^ k ≤ b ^ l := by
  calc a ^ k ≤ a ^ (i * n) := Nat.pow_le_pow_right ha hk
    _ = (a ^ i) ^ n := pow_mul _ _ _
    _ ≤ (b ^ j) ^ n := Nat.pow_le_pow_left h _
    _ = b ^ (j * n) := (pow_mul _ _ _).symm
    _ ≤ b ^ l := Nat.pow_le_pow_right hb hl

/-- Powers of five up to the least exponent are large enough not to fall below the range. -/
theorem ten_pow_le_five_pow {k : Nat} (hk : k ≤ 1074) : 10 ^ (k - 331) ≤ 5 ^ k := by
  rcases Nat.lt_or_ge k 331 with h | h
  · rw [Nat.sub_eq_zero_of_le h.le, pow_zero]
    exact Nat.one_le_pow _ _ (by decide)
  · have htwo : 2 ^ (k - 331) ≤ 5 ^ 331 :=
      pow_le_pow_of_pow_le 47 (by decide) (by decide) (by decide : 2 ^ 16 ≤ 5 ^ 7) (by omega)
        (by decide)
    calc 10 ^ (k - 331) = 5 ^ (k - 331) * 2 ^ (k - 331) := Nat.mul_pow 5 2 _
      _ ≤ 5 ^ (k - 331) * 5 ^ 331 := Nat.mul_le_mul_left _ htwo
      _ = 5 ^ k := by rw [← pow_add, Nat.sub_add_cancel h]

/-- No double has more digits before its point than are looked at. -/
theorem two_pow_le_ten_pow {k : Nat} (hk : k ≤ 1024) : 2 ^ k ≤ 10 ^ 330 :=
  pow_le_pow_of_pow_le 79 (by decide) (by decide) (by decide : 2 ^ 13 ≤ 10 ^ 4) (by omega)
    (by decide)

/-- The exact decimal rounds to the number. -/
theorem ofDecimal_exactDecimal (hx : x.IsCanonical) (hm : x.mantissa ≠ 0) :
    ofDecimal x.negative x.exactDecimal.1 x.exactDecimal.2 = some x := by
  have hlt := hx.lt
  have hlow := hx.low
  have hhigh := hx.high
  simp only [minExponent, maxExponent, Nat.pow_eq] at hlt hlow hhigh
  unfold exactDecimal
  split
  · rename_i he
    dsimp only
    have hcount : digitCount (x.mantissa * Nat.pow 5 x.exponent.natAbs) ≤
        16 + x.exponent.natAbs := by
      refine digitCount_le (by omega) ?_
      calc x.mantissa * 5 ^ x.exponent.natAbs < 2 ^ 53 * 5 ^ x.exponent.natAbs :=
            Nat.mul_lt_mul_of_pos_right hlt (by positivity)
        _ ≤ 10 ^ 16 * 10 ^ x.exponent.natAbs :=
            Nat.mul_le_mul (by decide) (Nat.pow_le_pow_left (by decide) _)
        _ = 10 ^ (16 + x.exponent.natAbs) := (pow_add _ _ _).symm
    have hcount' : x.exponent.natAbs - 331 <
        digitCount (x.mantissa * Nat.pow 5 x.exponent.natAbs) :=
      lt_digitCount ((ten_pow_le_five_pow (by omega)).trans
        (Nat.le_mul_of_pos_left _ (Nat.pos_of_ne_zero hm)))
    refine ofDecimal_eq_self hx hm (Nat.mul_ne_zero hm (Nat.pow_pos (by decide)).ne')
      (by omega) (by omega) ?_
    rw [zpow_of_neg 10 he, zpow_of_neg 2 he, mul_five_pow]
  · rename_i he
    dsimp only
    have hcount : digitCount (x.mantissa * Nat.pow 2 x.exponent.natAbs) ≤ 330 := by
      refine digitCount_le (by decide) ?_
      calc x.mantissa * 2 ^ x.exponent.natAbs < 2 ^ 53 * 2 ^ x.exponent.natAbs :=
            Nat.mul_lt_mul_of_pos_right hlt (by positivity)
        _ = 2 ^ (53 + x.exponent.natAbs) := (pow_add _ _ _).symm
        _ ≤ 10 ^ 330 := two_pow_le_ten_pow (by omega)
    refine ofDecimal_eq_self hx hm (Nat.mul_ne_zero hm (Nat.pow_pos (by decide)).ne')
      (by omega) (by omega) ?_
    rw [zpow_of_not_neg 2 he, zpow_zero, mul_one, Nat.pow_eq]
    push_cast
    rfl

/-! ## The shortest decimal -/

theorem ofDecimal_of_decimalAt {power : Int} (h : decimalAt x power = some (d, e)) :
    ofDecimal x.negative d e = some x := by
  unfold decimalAt at h
  extract_lets at h
  obtain ⟨found, hfound, hpair⟩ := Option.map_eq_some_iff.1 h
  obtain ⟨rfl, rfl⟩ := Prod.mk.inj hpair
  have hrounds := List.find?_some hfound
  exact beq_iff_eq.1 hrounds

theorem dropZeros_spec (negative : Bool) (fuel : Nat) (hd : d ≠ 0) :
    (dropZeros fuel d e).1 ≠ 0 ∧
      ofDecimal negative (dropZeros fuel d e).1 (dropZeros fuel d e).2 =
        ofDecimal negative d e := by
  induction fuel generalizing d e with
  | zero => exact ⟨hd, rfl⟩
  | succ fuel ih =>
    unfold dropZeros
    split
    · rename_i h
      have hmod : d % 10 = 0 := by simpa [hd] using h
      have hten : d / 10 * 10 = d := Nat.div_mul_cancel (Nat.dvd_of_mod_eq_zero hmod)
      have hdiv : d / 10 ≠ 0 := by omega
      obtain ⟨hne, heq⟩ := ih (e := e + 1) hdiv
      refine ⟨hne, heq.trans ?_⟩
      rw [← ofDecimal_mul_ten negative hdiv, hten]
    · exact ⟨hd, rfl⟩

theorem shortest_eq (x : Binary64) : ∃ lead : Int, x.shortest =
    let chosen := ((List.range 17).findSome? fun (n : Nat) =>
      decimalAt x (lead - (n : Int))).getD x.exactDecimal
    dropZeros (digitCount chosen.1) chosen.1 chosen.2 :=
  ⟨leadingPower x.ratio.1 x.ratio.2, rfl⟩

/-- The shortest decimal of a double other than zero rounds to it. -/
theorem shortest_spec (hx : x.IsCanonical) (hm : x.mantissa ≠ 0) :
    x.shortest.1 ≠ 0 ∧ ofDecimal x.negative x.shortest.1 x.shortest.2 = some x := by
  obtain ⟨lead, hlead⟩ := shortest_eq x
  extract_lets chosen at hlead
  have hread : ofDecimal x.negative chosen.1 chosen.2 = some x := by
    cases hfound : (List.range 17).findSome? fun (n : Nat) => decimalAt x (lead - (n : Int)) with
    | none =>
      simp only [chosen, hfound, Option.getD_none]
      exact ofDecimal_exactDecimal hx hm
    | some found =>
      simp only [chosen, hfound, Option.getD_some]
      obtain ⟨n, -, hn⟩ := List.exists_of_findSome?_eq_some hfound
      exact ofDecimal_of_decimalAt hn
  have hne := ne_zero_of_ofDecimal hm hread
  rw [hlead]
  exact ⟨(dropZeros_spec x.negative _ hne).1, (dropZeros_spec x.negative _ hne).2.trans hread⟩

end EntityPipeline.Binary64
