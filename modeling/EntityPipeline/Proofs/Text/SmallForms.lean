-- The small form of a text, character by character. But for the capital sigma, a character has one
-- small form wherever it stands, and no character beyond ASCII has an ASCII letter as its small
-- form, the sign for Kelvin apart.
import EntityPipeline.Text.Case
import Mathlib.Data.List.Basic

namespace EntityPipeline.Text

variable {c d : Char} {before front rest small : List Char}

/-- What may stand for a character in the small form of a text. -/
inductive IsSmallForm : Char → List Char → Prop
  | plain {c : Char} : c ≠ 'Σ' → IsSmallForm c (lowerChar c)
  | sigma : IsSmallForm 'Σ' ['σ']
  | finalSigma : IsSmallForm 'Σ' ['ς']

theorem exists_lowerAfter_cons (before : List Char) (c : Char) (rest : List Char) :
    ∃ small, IsSmallForm c small ∧
      lowerAfter before (c :: rest) = small ++ lowerAfter (c :: before) rest := by
  have hfirst : lowerAfter before (c :: rest) =
      (if c == 'Σ' then [if meetsCased before && !meetsCased rest then 'ς' else 'σ']
        else lowerChar c) ++ lowerAfter (c :: before) rest := rfl
  rw [hfirst]
  by_cases hsigma : c = 'Σ'
  · subst hsigma
    rw [if_pos (by decide)]
    split
    · exact ⟨['ς'], .finalSigma, rfl⟩
    · exact ⟨['σ'], .sigma, rfl⟩
  · rw [if_neg (by simpa using hsigma)]
    exact ⟨lowerChar c, .plain hsigma, rfl⟩

/-- What stands behind a part of a text is behind its small form too. -/
theorem exists_lowerAfter_append (before front rest : List Char) :
    ∃ small, lowerAfter before (front ++ rest) =
      small ++ lowerAfter (front.reverse ++ before) rest := by
  induction front generalizing before with
  | nil => exact ⟨[], rfl⟩
  | cons c front ih =>
    obtain ⟨first, -, heq⟩ := exists_lowerAfter_cons before c (front ++ rest)
    obtain ⟨small, hsmall⟩ := ih (c :: before)
    refine ⟨first ++ small, ?_⟩
    rw [List.cons_append, heq, hsmall, List.reverse_cons, List.append_assoc, List.append_assoc]
    rfl

/-! ## ASCII letters -/

/-- A row of the table leads to ASCII only from the sign for Kelvin. -/
theorem toLower_rows : ∀ row ∈ CaseTable.toLower,
    row = (0x212a, 0x212a, 1, -8383) ∨ 128 ≤ row.1 + row.2.2.2 := by
  decide +kernel

theorem toNat_ofNat_cases (n : Nat) : (Char.ofNat n).toNat = n ∨ (Char.ofNat n).toNat = 0 := by
  by_cases hvalid : n.isValidChar
  · have hchar : Char.ofNat n = Char.ofNatAux n hvalid := dif_pos hvalid
    exact Or.inl (congrArg Char.toNat hchar)
  · have hchar : Char.ofNat n = Char.ofNat 0 := dif_neg hvalid
    exact Or.inr (congrArg Char.toNat hchar)

/-- What a character beyond ASCII is shifted to is no ASCII letter but `k`. -/
theorem of_shifted_toLower {n : Nat} (h : shifted CaseTable.toLower n = some d) :
    d = 'k' ∨ d.toNat = 0 ∨ 128 ≤ d.toNat := by
  obtain ⟨⟨first, last, step, distance⟩, hrow, hsome⟩ := List.exists_of_findSome?_eq_some h
  dsimp only at hsome
  split at hsome
  · rename_i hin
    obtain rfl := Option.some.inj hsome
    simp only [Bool.and_eq_true, decide_eq_true_eq] at hin
    rcases toLower_rows _ hrow with heq | hfar
    · simp only [Prod.mk.injEq] at heq
      obtain ⟨rfl, rfl, rfl, rfl⟩ := heq
      obtain rfl : n = 0x212a := by omega
      exact Or.inl rfl
    · dsimp only at hfar
      rcases toNat_ofNat_cases (n + distance).toNat with heq | heq
      · exact Or.inr (Or.inr (by omega))
      · exact Or.inr (Or.inl heq)
  · cases hsome

theorem isAscii_of_isLower (h : d.isLower = true) : isAscii d = true ∧ d.toNat ≠ 0 := by
  change (decide ('a'.val ≤ d.val) && decide (d.val ≤ 'z'.val)) = true at h
  simp only [Bool.and_eq_true, decide_eq_true_eq, UInt32.le_iff_toNat_le] at h
  simp only [isAscii, decide_eq_true_eq, Char.toNat]
  have hfirst : ('a' : Char).val.toNat = 97 := rfl
  have hlast : ('z' : Char).val.toNat = 122 := rfl
  omega

/-- An ASCII character has the case of its small form or the other one. -/
theorem ascii_cases (h : isAscii c = true) : c = c.toLower ∨ c = c.toLower.toUpper := by
  have hall : ∀ n : Fin 128, Char.ofNat n = (Char.ofNat n).toLower ∨
      Char.ofNat n = (Char.ofNat n).toLower.toUpper := by
    decide
  have hlt : c.toNat < 128 := by simpa [isAscii] using h
  have hc := hall ⟨c.toNat, hlt⟩
  rwa [Char.ofNat_toNat] at hc

/-- A small ASCII letter is the small form of itself and of its capital. -/
theorem toLower_of_isLower (h : d.isLower = true) :
    d.toLower = d ∧ d.toUpper.toLower = d ∧ isAscii d.toUpper = true := by
  have hall : ∀ n : Fin 128, (Char.ofNat n).isLower = true → (Char.ofNat n).toLower = Char.ofNat n ∧
      (Char.ofNat n).toUpper.toLower = Char.ofNat n ∧ isAscii (Char.ofNat n).toUpper = true := by
    decide
  have hlt : d.toNat < 128 := of_decide_eq_true (isAscii_of_isLower h).1
  have hd := hall ⟨d.toNat, hlt⟩
  rw [Char.ofNat_toNat] at hd
  exact hd h

theorem IsSmallForm.eq_of_isAscii (h : IsSmallForm c small) (hc : isAscii c = true) :
    small = [c.toLower] := by
  cases h with
  | sigma => exact absurd hc (by decide)
  | finalSigma => exact absurd hc (by decide)
  | plain _ => rw [lowerChar, if_pos hc]

theorem IsSmallForm.ne_nil (h : IsSmallForm c small) : small ≠ [] := by
  cases h with
  | sigma => exact List.cons_ne_nil _ _
  | finalSigma => exact List.cons_ne_nil _ _
  | plain _ =>
    unfold lowerChar
    split
    · exact List.cons_ne_nil _ _
    · split
      · rename_i image himage
        rw [CaseTable.toLowerSpecial, List.lookup_cons] at himage
        split at himage
        · obtain rfl := Option.some.inj himage
          exact List.cons_ne_nil _ _
        · cases himage
      · exact List.cons_ne_nil _ _

/-- Beyond ASCII no character but the sign for Kelvin has a small form that ends in an ASCII
letter. -/
theorem IsSmallForm.cases_of_getLast? (h : IsSmallForm c small) (hlast : small.getLast? = some d)
    (hletter : d.isLower = true) (hk : d ≠ 'k') : c = d ∨ c = d.toUpper := by
  obtain ⟨hascii, hzero⟩ := isAscii_of_isLower hletter
  cases h with
  | sigma =>
    obtain rfl := Option.some.inj hlast
    exact absurd hletter (by decide)
  | finalSigma =>
    obtain rfl := Option.some.inj hlast
    exact absurd hletter (by decide)
  | plain _ =>
    unfold lowerChar at hlast
    by_cases hc : isAscii c = true
    · rw [if_pos hc] at hlast
      obtain rfl := Option.some.inj hlast
      exact ascii_cases hc
    · rw [if_neg hc] at hlast
      split at hlast
      · rename_i image himage
        -- the small form of the dotted capital ends in its dot
        have hdotted : image = [0x69, 0x307] := by
          rw [CaseTable.toLowerSpecial, List.lookup_cons] at himage
          split at himage
          · exact (Option.some.inj himage).symm
          · cases himage
        subst hdotted
        obtain rfl := Option.some.inj hlast
        exact absurd hletter (by decide)
      · obtain rfl := Option.some.inj hlast
        cases hshifted : shifted CaseTable.toLower c.toNat with
        | none =>
          rw [hshifted] at hascii
          exact absurd hascii hc
        | some image =>
          rw [hshifted, Option.getD_some] at hascii hzero hk
          have hlt : image.toNat < 128 := of_decide_eq_true hascii
          rcases of_shifted_toLower hshifted with heq | heq | hfar
          · exact absurd heq hk
          · exact absurd heq hzero
          · omega

/-- The small form of a character ends in a small ASCII letter but `k` just when the character is
that letter in one of its cases. -/
theorem IsSmallForm.getLast?_eq_some_iff (h : IsSmallForm c small) (hletter : d.isLower = true)
    (hk : d ≠ 'k') : small.getLast? = some d ↔ c = d ∨ c = d.toUpper := by
  obtain ⟨hself, hcapital, hascii⟩ := toLower_of_isLower hletter
  constructor
  · exact fun hlast => h.cases_of_getLast? hlast hletter hk
  · rintro (rfl | rfl)
    · rw [h.eq_of_isAscii (isAscii_of_isLower hletter).1, hself]
      rfl
    · rw [h.eq_of_isAscii hascii, hcapital]
      rfl

end EntityPipeline.Text
