-- Which numbers read back from their texts. An integer does, from its digits. A double is read from
-- the digits of its shortest decimal, wherever the point stands, with an exponent or without; it
-- reads back if they are few and the power of ten is small, while with more digits or a greater
-- power it may become another double, which may even become the first one again.
import EntityPipeline.Json.Number
import EntityPipeline.Proofs.Number.Scaled

namespace EntityPipeline.Number

variable {n : Nat} {ds whole fraction rest text : List Char} {negative : Bool} {x : Binary64}

/-! ## Digits -/

theorem isDigit_of_mem_digits {c : Char} (hc : c ∈ digits n) : c.isDigit = true :=
  Nat.isDigit_of_mem_toDigits (by decide) (by decide) hc

theorem digits_ne_nil (n : Nat) : digits n ≠ [] :=
  Nat.toDigits_ne_nil

theorem value_eq_ofDigitChars (ds : List Char) : value ds = Nat.ofDigitChars 10 ds 0 := by
  rw [Nat.ofDigitChars_eq_foldl]
  unfold value
  congr 1
  funext sofar c
  rw [Nat.mul_comm]
  rfl

theorem value_append (ds es : List Char) : value (ds ++ es) = value ds * 10 ^ es.length + value es := by
  rw [value_eq_ofDigitChars, value_eq_ofDigitChars, value_eq_ofDigitChars, Nat.ofDigitChars_append,
    Nat.ofDigitChars_eq_ofDigitChars_zero, Nat.mul_comm]

theorem value_zeros (k : Nat) : value (List.replicate k '0') = 0 := by
  rw [value_eq_ofDigitChars, Nat.ofDigitChars_replicate_zero, Nat.mul_zero]

theorem value_digits (n : Nat) : value (digits n) = n := by
  rw [value_eq_ofDigitChars]
  exact Nat.ofDigitChars_ten_toDigits

/-- Only zero is written with a leading zero. -/
theorem head_digits_ne_zero (hn : n ≠ 0) : (digits n).head? ≠ some '0' := by
  unfold digits
  induction n using Nat.base_induction 10 (by decide) with
  | single m hm =>
    rw [Nat.toDigits_of_lt_base hm, List.head?_cons]
    exact fun h => hn (Nat.digitChar_eq_zero.1 (Option.some.inj h))
  | digit m k hk hm ih =>
    rw [← Nat.toDigits_append_toDigits (by decide) hm hk,
      List.head?_append_of_ne_nil _ Nat.toDigits_ne_nil]
    exact ih hm.ne'

/-! ## Parts of a number -/

theorem takeWhile_digits (hds : ∀ c ∈ ds, c.isDigit = true)
    (hrest : ∀ c ∈ rest.head?, c.isDigit = false) :
    (ds ++ rest).takeWhile Char.isDigit = ds ∧ (ds ++ rest).dropWhile Char.isDigit = rest := by
  rw [List.takeWhile_append_of_pos hds, List.dropWhile_append_of_pos hds]
  cases rest with
  | nil => exact ⟨List.append_nil ds, rfl⟩
  | cons c rest =>
    have hc : c.isDigit = false := hrest c rfl
    rw [List.takeWhile_cons_of_neg (by simp [hc]), List.dropWhile_cons_of_neg (by simp [hc])]
    exact ⟨List.append_nil ds, rfl⟩

/-- The digits before the point: at least one, and no leading zero before another digit. -/
structure IsWhole (ds : List Char) : Prop where
  digit : ∀ c ∈ ds, c.isDigit = true
  ne_nil : ds ≠ []
  zero_alone : ds.head? = some '0' → ds.length = 1

theorem IsWhole.of_head (hdigit : ∀ c ∈ ds, c.isDigit = true) (hne : ds ≠ [])
    (hhead : ds.head? ≠ some '0') : IsWhole ds :=
  ⟨hdigit, hne, fun h => absurd h hhead⟩

theorem isWhole_digits (n : Nat) : IsWhole (digits n) where
  digit _ := isDigit_of_mem_digits
  ne_nil := digits_ne_nil n
  zero_alone h := by
    by_cases hn : n = 0
    · rw [hn]
      rfl
    · exact absurd h (head_digits_ne_zero hn)

/-- The sign of a negative number. -/
def sign (negative : Bool) : List Char := if negative then ['-'] else []

theorem read_sign (negative : Bool) (htext : text.head? ≠ some '-') :
    read (sign negative ++ text) = readMagnitude negative text := by
  cases negative with
  | true => rfl
  | false =>
    rw [sign, if_neg (by decide), List.nil_append]
    unfold read
    split
    · exact absurd rfl htext
    · rfl

/-- Digits that 64 bits hold are all taken. -/
theorem absorb_eq {significand : Nat} (h : significand * 10 ^ ds.length + value ds < 2 ^ 64) :
    absorb significand ds = (significand * 10 ^ ds.length + value ds, 0) := by
  induction ds generalizing significand with
  | nil => simp [absorb, value]
  | cons c ds ih =>
    have hvalue : value (c :: ds) = digitValue c * 10 ^ ds.length + value ds := by
      have hone : value [c] = digitValue c := Nat.zero_add _
      rw [← hone, ← value_append, List.singleton_append]
    have htaken : significand * 10 ^ (c :: ds).length + value (c :: ds) =
        (significand * 10 + digitValue c) * 10 ^ ds.length + value ds := by
      rw [hvalue, List.length_cons, pow_succ]
      ring
    have hnext : significand * 10 + digitValue c < Nat.pow 2 64 := by
      have hone : 1 ≤ 10 ^ ds.length := Nat.one_le_pow _ _ (by decide)
      have hle := Nat.le_mul_of_pos_right (significand * 10 + digitValue c) hone
      rw [htaken] at h
      exact ((hle.trans (Nat.le_add_right _ _)).trans_lt h)
    rw [htaken] at h ⊢
    rw [absorb]
    exact (if_pos hnext).trans (ih h)

theorem readMagnitude_whole (negative : Bool) (hwhole : IsWhole whole)
    (hfits : value whole < 2 ^ 64) (hrest : ∀ c ∈ rest.head?, c.isDigit = false) :
    readMagnitude negative (whole ++ rest) = readAfterWhole negative (value whole) 0 rest := by
  obtain ⟨htake, hdrop⟩ := takeWhile_digits hwhole.digit hrest
  have hzero : (whole.head? == some '0' && decide (whole.length > 1)) = false := by
    by_cases h : whole.head? = some '0'
    · simp [hwhole.zero_alone h]
    · simp [h]
  have htaken : absorb 0 whole = (value whole, 0) := by
    have hbound : 0 * 10 ^ whole.length + value whole < 2 ^ 64 := by rwa [Nat.zero_mul, Nat.zero_add]
    have h := absorb_eq hbound
    rwa [Nat.zero_mul, Nat.zero_add] at h
  unfold readMagnitude
  rw [htake, hdrop]
  simp only [List.isEmpty_eq_false_iff.2 hwhole.ne_nil, hzero, htaken, Bool.false_eq_true, if_false]

theorem readMagnitude_int (negative : Bool) (hwhole : IsWhole whole)
    (hfits : value whole < 2 ^ 64) :
    readMagnitude negative whole = readWhole negative (value whole) 0 := by
  have hnil : ∀ c ∈ ([] : List Char).head?, c.isDigit = false := by simp
  have h := readMagnitude_whole negative hwhole hfits hnil
  rwa [List.append_nil] at h

theorem readMagnitude_fraction (negative : Bool) (hwhole : IsWhole whole)
    (hfraction : ∀ c ∈ fraction, c.isDigit = true) (hne : fraction ≠ [])
    (hfits : value (whole ++ fraction) < 2 ^ 64) (hrest : ∀ c ∈ rest.head?, c.isDigit = false) :
    readMagnitude negative (whole ++ '.' :: (fraction ++ rest)) =
      readTail negative (value (whole ++ fraction)) (-(fraction.length : Int)) rest := by
  obtain ⟨htake, hdrop⟩ := takeWhile_digits hfraction hrest
  rw [value_append] at hfits
  have hle : value whole ≤ value whole * 10 ^ fraction.length :=
    Nat.le_mul_of_pos_right _ (Nat.pow_pos (by decide))
  rw [readMagnitude_whole negative hwhole (by omega) (by simp), readAfterWhole, readFraction]
  simp only [htake, hdrop, absorb_eq hfits, List.isEmpty_eq_false_iff.2 hne, Bool.false_eq_true,
    if_false, value_append]
  congr 1
  simp

/-! ## Exponents -/

/-- An exponent with its sign. -/
def exponentText (power : Int) : List Char :=
  'e' :: (if power < 0 then '-' else '+') :: digits power.natAbs

theorem readExponent_signed (negative minus : Bool) (n k : Nat) (exponent : Int) :
    readExponent negative n exponent ((if minus then '-' else '+') :: digits k) =
      readReal negative n (if minus then exponent - k else exponent + k) := by
  have hdigit : ∀ c ∈ digits k, c.isDigit = true := fun _ => isDigit_of_mem_digits
  have hnil : ∀ c ∈ ([] : List Char).head?, c.isDigit = false := by simp
  obtain ⟨htake, hdrop⟩ := takeWhile_digits hdigit hnil
  rw [List.append_nil] at htake hdrop
  have hne := List.isEmpty_eq_false_iff.2 (digits_ne_nil k)
  unfold readExponent
  cases minus <;> simp [htake, hdrop, hne, value_digits]

theorem readTail_exponent (negative : Bool) (n : Nat) (exponent power : Int) :
    readTail negative n exponent (exponentText power) = readReal negative n (exponent + power) := by
  have hsigned := readExponent_signed negative (decide (power < 0)) n power.natAbs exponent
  have hpower : (if power < 0 then exponent - power.natAbs else exponent + power.natAbs) =
      exponent + power := by
    split <;> omega
  simp only [decide_eq_true_eq, hpower] at hsigned
  exact hsigned

/-! ## The places of the point -/

theorem readMagnitude_point (negative : Bool) (hwhole : IsWhole whole)
    (hfraction : ∀ c ∈ fraction, c.isDigit = true) (hne : fraction ≠ [])
    (hfits : value (whole ++ fraction) < 2 ^ 64) :
    readMagnitude negative (whole ++ '.' :: fraction) =
      readReal negative (value (whole ++ fraction)) (-(fraction.length : Int)) := by
  have hnil : ∀ c ∈ ([] : List Char).head?, c.isDigit = false := by simp
  have h := readMagnitude_fraction negative hwhole hfraction hne hfits hnil
  rwa [List.append_nil] at h

theorem isDigit_of_mem_zeros {c : Char} {k : Nat} (h : c ∈ List.replicate k '0') :
    c.isDigit = true := by
  rw [List.eq_of_mem_replicate h]
  rfl

section Point

variable (negative : Bool) (k : Nat) (hdigit : ∀ c ∈ ds, c.isDigit = true) (hne : ds ≠ [])

include hdigit hne in
/-- The digits stand behind the point, after some zeros. -/
theorem readMagnitude_behind (hfits : value ds < 2 ^ 64) :
    readMagnitude negative ('0' :: '.' :: List.replicate k '0' ++ ds) =
      readReal negative (value ds) (-(k + ds.length : Int)) := by
  have hzero : IsWhole ['0'] := isWhole_digits 0
  have hfraction : ∀ c ∈ List.replicate k '0' ++ ds, c.isDigit = true := by
    intro c hc
    exact (List.mem_append.1 hc).elim isDigit_of_mem_zeros (hdigit c)
  have hvalue : value (['0'] ++ (List.replicate k '0' ++ ds)) = value ds := by
    rw [value_append, value_append, value_zeros]
    simp [value, digitValue]
  have h := readMagnitude_point negative hzero hfraction (by simp [hne]) (hvalue ▸ hfits)
  rw [hvalue, List.length_append, List.length_replicate] at h
  exact_mod_cast h

include hdigit hne in
/-- The digits stand before the point, and zeros fill the places up to it. The zeros are digits that
are read as well, and so is the one behind the point. -/
theorem readMagnitude_before (hhead : ds.head? ≠ some '0')
    (hfits : value ds * 10 ^ (k + 1) < 2 ^ 64) :
    readMagnitude negative (ds ++ List.replicate k '0' ++ ['.', '0']) =
      readReal negative (value ds * 10 ^ (k + 1)) (-1) := by
  have hwhole : IsWhole (ds ++ List.replicate k '0') := by
    refine .of_head ?_ (by simp [hne]) (by rwa [List.head?_append_of_ne_nil _ hne])
    intro c hc
    exact (List.mem_append.1 hc).elim (hdigit c) isDigit_of_mem_zeros
  have hdecimal : value (ds ++ List.replicate k '0' ++ ['0']) = value ds * 10 ^ (k + 1) := by
    rw [value_append, value_append, value_zeros, List.length_replicate, pow_succ]
    simp [value, digitValue, mul_assoc]
  have hzero : ∀ c ∈ ['0'], c.isDigit = true := by simp
  have h := readMagnitude_point negative hwhole hzero (by simp) (hdecimal ▸ hfits)
  rwa [hdecimal] at h

include hdigit in
/-- The point stands between the digits. -/
theorem readMagnitude_between (hhead : ds.head? ≠ some '0') (hlt : k + 1 < ds.length)
    (hfits : value ds < 2 ^ 64) :
    readMagnitude negative (ds.take (k + 1) ++ '.' :: ds.drop (k + 1)) =
      readReal negative (value ds) (k + 1 - ds.length) := by
  have hne : ds ≠ [] := List.ne_nil_of_length_pos (by omega)
  have hwhole : IsWhole (ds.take (k + 1)) :=
    .of_head (fun c hc => hdigit c (List.mem_of_mem_take hc)) (by simp [hne])
      (by rwa [List.head?_take, if_neg (Nat.succ_ne_zero k)])
  rw [readMagnitude_point negative hwhole (fun c hc => hdigit c (List.mem_of_mem_drop hc))
    (by simp; omega) (by rwa [List.take_append_drop]), List.take_append_drop, List.length_drop]
  congr 1
  omega

end Point

/-- Without an exponent, the decimal is read with the zeros up to the point and one more, or without
any, depending on where the point stands. -/
theorem readMagnitude_positional (negative : Bool) {d : Nat} (hd : d ≠ 0) {e : Int}
    (hfits : d * 10 ^ (e.toNat + 1) < 2 ^ 64) :
    ∃ k : Nat, (k = 0 ∨ (k : Int) = e + 1) ∧
      readMagnitude negative (positional (digits d) (e + (digits d).length - 1)) =
        readReal negative (d * 10 ^ k) (e - k) := by
  have hvalue := value_digits d
  have hdigit : ∀ c ∈ digits d, c.isDigit = true := fun _ => isDigit_of_mem_digits
  have hne := digits_ne_nil d
  have hhead := head_digits_ne_zero hd
  generalize digits d = ds at hvalue hdigit hne hhead
  have hlength := List.length_pos_iff.2 hne
  subst hvalue
  have hplain : value ds < 2 ^ 64 :=
    (Nat.le_mul_of_pos_right _ (Nat.pow_pos (by decide))).trans_lt hfits
  unfold positional
  split
  · refine ⟨0, Or.inl rfl, ?_⟩
    rw [readMagnitude_behind negative _ hdigit hne hplain, pow_zero, mul_one]
    congr 1
    omega
  · dsimp only
    split
    · refine ⟨e.toNat + 1, Or.inr (by omega), ?_⟩
      have hzeros : (e + (ds.length : Int) - 1).natAbs + 1 - ds.length = e.toNat := by omega
      rw [hzeros, readMagnitude_before negative _ hdigit hne hhead hfits]
      congr 1
      omega
    · rename_i hlt
      refine ⟨0, Or.inl rfl, ?_⟩
      rw [readMagnitude_between negative _ hdigit hhead (Nat.lt_of_not_le hlt) hplain, pow_zero,
        mul_one]
      congr 1
      omega

/-- With an exponent, the same decimal is read. -/
theorem readMagnitude_scientific (negative : Bool) {d : Nat} (hd : d ≠ 0) (hfits : d < 2 ^ 64)
    (e : Int) :
    readMagnitude negative (scientific (digits d) (e + (digits d).length - 1)) =
      readReal negative d e := by
  have hvalue := value_digits d
  have hdigit : ∀ c ∈ digits d, c.isDigit = true := fun _ => isDigit_of_mem_digits
  have hhead := head_digits_ne_zero hd
  have hne := digits_ne_nil d
  have hexponent (power : Int) : ∀ c ∈ (exponentText power).head?, c.isDigit = false := by
    intro c hc
    obtain rfl : 'e' = c := by simpa [exponentText] using hc
    rfl
  generalize digits d = ds at hvalue hdigit hne hhead
  rw [← hvalue] at hfits
  unfold scientific
  match ds with
  | [] => exact absurd rfl hne
  | [c] =>
    show readMagnitude negative ([c] ++ exponentText (e + ([c].length : Int) - 1)) = _
    rw [readMagnitude_whole negative (.of_head hdigit hne hhead) hfits (hexponent _)]
    show readTail negative (value [c]) 0 (exponentText _) = _
    rw [readTail_exponent, hvalue]
    congr 1
    simp
  | c :: c' :: rest =>
    generalize hpower : e + ((c :: c' :: rest).length : Int) - 1 = power
    show readMagnitude negative ([c] ++ '.' :: ((c' :: rest) ++ exponentText power)) = _
    have hwhole : IsWhole [c] :=
      .of_head (fun x hx => hdigit x (List.mem_cons.2 (Or.inl (List.mem_singleton.1 hx))))
        (List.cons_ne_nil _ _) hhead
    rw [readMagnitude_fraction negative hwhole (fun x hx => hdigit x (List.mem_cons_of_mem _ hx))
      (List.cons_ne_nil _ _) hfits (hexponent _), readTail_exponent]
    show readReal negative (value (c :: c' :: rest)) _ = _
    rw [hvalue]
    congr 1
    simp only [List.length_cons] at hpower ⊢
    omega

/-! ## Whole numbers and doubles -/

theorem lacking_ne_read (rest : List Char) (number : Number) : lacking rest ≠ .read number := by
  unfold lacking
  split <;> exact nofun

/-- A sign before a magnitude is read as the sign. -/
theorem read_signed {number : Number} (h : readMagnitude negative text = .read number) :
    read (sign negative ++ text) = .read number := by
  rw [read_sign negative ?_, h]
  intro hminus
  obtain ⟨rest, rfl⟩ := List.head?_eq_some_iff.1 hminus
  have hlacking : readMagnitude negative ('-' :: rest) = lacking ('-' :: rest) := rfl
  exact lacking_ne_read _ _ (hlacking.symm.trans h)

theorem read_intText {n : Int} (hn : fits n = true) : read (intText n) = .read (.int n) := by
  have htext : intText n = sign (decide (n < 0)) ++ digits n.natAbs := by
    unfold intText sign
    by_cases h : n < 0 <;> simp [h]
  have hvalue : (if decide (n < 0) = true then -(n.natAbs : Int) else n.natAbs) = n := by
    simp only [decide_eq_true_eq]
    split <;> omega
  have hzero : (decide (n < 0) && n.natAbs == 0) = false := by
    simp only [Bool.and_eq_false_iff, decide_eq_false_iff_not, beq_eq_false_iff_ne]
    omega
  have hlt : n.natAbs < 2 ^ 64 := by
    obtain ⟨hlow, hhigh⟩ : -9223372036854775808 ≤ n ∧ n < 18446744073709551616 := by
      simpa [fits] using hn
    omega
  rw [htext]
  refine read_signed ?_
  rw [readMagnitude_int _ (isWhole_digits _) (by rwa [value_digits]), value_digits]
  unfold readWhole
  simp only [hvalue, hn, hzero, Bool.not_false, Bool.and_self, beq_self_eq_true, if_true]

theorem eq_zero_of_isZero (hx : x.IsCanonical) (h : x.isZero = true) : x = .zero x.negative := by
  have hm : x.mantissa = 0 := beq_iff_eq.1 h
  rcases hx.normal with he | hle
  · cases x
    simp_all [Binary64.zero]
  · rw [hm] at hle
    exact absurd hle (by decide)

theorem readMagnitude_zero (negative : Bool) :
    readMagnitude negative ['0', '.', '0'] = .read (.real (.zero negative)) := by
  have hwhole : IsWhole ['0'] := isWhole_digits 0
  have hvalue : value (['0'] ++ ['0']) = 0 := rfl
  have hzero : ∀ c ∈ ['0'], c.isDigit = true := by simp
  have hread := readMagnitude_point negative hwhole hzero (by simp) (by rw [hvalue]; decide)
  have hdecimal : Binary64.readDecimal negative 0 (-1) = some (.zero negative) :=
    (Binary64.readDecimal_eq_ofDecimal negative (by decide) (by decide) (by decide)).trans
      (Binary64.ofDecimal_zero negative _)
  rw [hvalue] at hread
  refine hread.trans ?_
  show readReal negative 0 (-1) = _
  rw [readReal, hdecimal]

/-- Few digits and a small power of ten are read as the double that they round to. -/
theorem readReal_of_ofDecimal {d k : Nat} {e : Int} (hd : d ≠ 0) (hlt : d * 10 ^ k < 2 ^ 53)
    (hlow : -22 ≤ e - k) (hhigh : e - k ≤ 22)
    (h : Binary64.ofDecimal negative d e = some x) :
    readReal negative (d * 10 ^ k) (e - k) = .read (.real x) := by
  unfold readReal
  rw [Binary64.readDecimal_eq_ofDecimal negative hlt hlow hhigh,
    Binary64.ofDecimal_mul_pow negative hd, Int.sub_add_cancel, h]

/-- A double with few digits and a small power of ten. The zeros up to the point count as digits, and
so does the one behind it. -/
def IsShort (x : Binary64) : Prop :=
  x.isZero = true ∨
    x.shortest.1 * 10 ^ (x.shortest.2.toNat + 1) < 2 ^ 53 ∧ -22 ≤ x.shortest.2

instance (x : Binary64) : Decidable (IsShort x) := inferInstanceAs (Decidable (_ ∨ _))

theorem read_realText (hx : x.IsCanonical) (hshort : IsShort x) :
    read (realText x) = .read (.real x) := by
  unfold realText
  extract_lets mark
  have hmark : mark = sign x.negative := rfl
  split
  · rename_i hzero
    rw [hmark, eq_zero_of_isZero hx hzero]
    exact read_signed (readMagnitude_zero x.negative)
  · rename_i hzero
    obtain ⟨hlt, hlow⟩ := hshort.resolve_left hzero
    obtain ⟨hne, hround⟩ := Binary64.shortest_spec hx (mt beq_iff_eq.2 hzero)
    generalize x.shortest = decimal at hlt hlow hne hround
    obtain ⟨d, e⟩ := decimal
    dsimp only at hlt hlow hne hround ⊢
    have hd : d < 2 ^ 53 := (Nat.le_mul_of_pos_right _ (Nat.pow_pos (by decide))).trans_lt hlt
    have hhigh : e.toNat + 1 < 16 := by
      have hle : 10 ^ (e.toNat + 1) < 10 ^ 16 :=
        ((Nat.le_mul_of_pos_left _ (Nat.pos_of_ne_zero hne)).trans_lt hlt).trans (by decide)
      exact (Nat.pow_lt_pow_iff_right (by decide)).1 hle
    rw [hmark]
    refine read_signed ?_
    split
    · obtain ⟨k, hk, hread⟩ :=
        readMagnitude_positional x.negative hne (hlt.trans (by decide))
      have hpow : d * 10 ^ k < 2 ^ 53 :=
        (Nat.mul_le_mul_left d (Nat.pow_le_pow_right (by decide) (by omega))).trans_lt hlt
      rw [hread]
      exact readReal_of_ofDecimal hne hpow (by omega) (by omega) hround
    · rw [readMagnitude_scientific x.negative hne (hd.trans (by decide))]
      have hread := readReal_of_ofDecimal (k := 0) hne (by rwa [pow_zero, mul_one]) (by simpa)
        (by omega) hround
      rwa [pow_zero, mul_one, Int.natCast_zero, Int.sub_zero] at hread

/-! ## Numbers that read back -/

/-- A number that is read again from its text. -/
def ReadsBack (number : Number) : Prop := read number.chars = .read number

instance (number : Number) : Decidable number.ReadsBack :=
  inferInstanceAs (Decidable (_ = _))

/-- A number that has been read: an integer of 64 bits or a canonical double. -/
def IsSound : Number → Prop
  | .int n => fits n = true
  | .real x => x.IsCanonical

theorem isSound_of_readReal {e : Int} {number : Number}
    (h : readReal negative n e = .read number) : number.IsSound := by
  unfold readReal at h
  split at h
  · rename_i x hx
    obtain rfl := Reading.read.inj h
    exact Binary64.isCanonical_of_readDecimal hx
  · cases h

theorem isSound_of_readWhole {leftOut : Nat} {number : Number}
    (h : readWhole negative n leftOut = .read number) : number.IsSound := by
  unfold readWhole at h
  extract_lets signed at h
  split at h
  · rename_i hfits
    obtain rfl := Reading.read.inj h
    exact (Bool.and_eq_true_iff.1 (Bool.and_eq_true_iff.1 hfits).1).2
  · exact isSound_of_readReal h

theorem isSound_of_readExponent {e : Int} {number : Number}
    (h : readExponent negative n e text = .read number) : number.IsSound := by
  unfold readExponent at h
  split at h
  extract_lets ds rest at h
  split at h
  · exact absurd h (lacking_ne_read _ _)
  · split at h
    · cases h
    · exact isSound_of_readReal h

theorem isSound_of_readTail {e : Int} {number : Number}
    (h : readTail negative n e rest = .read number) : number.IsSound := by
  unfold readTail at h
  split at h
  · exact isSound_of_readReal h
  · split at h
    · exact isSound_of_readExponent h
    · cases h

theorem isSound_of_readAfterWhole {leftOut : Nat} {number : Number}
    (h : readAfterWhole negative n leftOut rest = .read number) : number.IsSound := by
  unfold readAfterWhole at h
  split at h
  · exact isSound_of_readWhole h
  · unfold readFraction at h
    extract_lets fraction rest at h
    split at h
    · exact absurd h (lacking_ne_read _ _)
    · exact isSound_of_readTail h
  · exact isSound_of_readTail h

theorem isSound_of_readMagnitude {number : Number}
    (h : readMagnitude negative text = .read number) : number.IsSound := by
  unfold readMagnitude at h
  extract_lets whole rest at h
  split at h
  · exact absurd h (lacking_ne_read _ _)
  · split at h
    · cases h
    · exact isSound_of_readAfterWhole h

theorem isSound_of_read {number : Number} (h : read text = .read number) : number.IsSound := by
  unfold read at h
  split at h <;> exact isSound_of_readMagnitude h

/-- What has been read reads back, if it is an integer or a short double. -/
theorem readsBack_of_read {number : Number} (h : read text = .read number)
    (hshort : ∀ x, number = .real x → IsShort x) : number.ReadsBack := by
  have hsound := isSound_of_read h
  cases number with
  | int n => exact read_intText hsound
  | real x => exact read_realText hsound (hshort x rfl)

end EntityPipeline.Number
