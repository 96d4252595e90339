-- Plurals of words that end in a capital. Where the plural is the word with an ending behind it,
-- the ending is in capitals too. A changed `y` stands where the word had its last letter, and so the
-- `i` that takes its place stays small.
import EntityPipeline.Proofs.Text.SmallForms
import EntityPipeline.Text.Naming

namespace EntityPipeline.Text

variable {c d : Char} {stem word front small : List Char}

/-! ## Words that change their last letter -/

/-- A word ends in a capital `Y` that is changed in the plural: no `a`, `e` or `o` stands before
it, in either case. -/
def ChangesY (word : List Char) : Prop :=
  ∃ stem, word = stem ++ ['Y'] ∧
    ∀ c, stem.getLast? = some c → c ∉ ['a', 'A', 'e', 'E', 'o', 'O']

theorem isSuffixOf_singleton : [d].isSuffixOf small = true ↔ small.getLast? = some d :=
  List.isSuffixOf_iff_suffix.trans List.singleton_suffix_iff_getLast?_eq_some

theorem isSuffixOf_concat : [d, c].isSuffixOf (small ++ [c]) = [d].isSuffixOf small := by
  rw [Bool.eq_iff_iff, List.isSuffixOf_iff_suffix, List.isSuffixOf_iff_suffix]
  change [d] ++ [c] <:+ small ++ [c] ↔ [d] <:+ small
  exact List.suffix_append_self_iff

/-- The small form of a word ends in that of its last letter. -/
theorem exists_lower_concat (front : List Char) (c : Char) :
    ∃ before small, IsSmallForm c small ∧ lower (front ++ [c]) = before ++ small := by
  obtain ⟨before, hbefore⟩ := exists_lowerAfter_append [] front [c]
  obtain ⟨small, hsmall, hlast⟩ := exists_lowerAfter_cons (front.reverse ++ []) c []
  have hend : lowerAfter (front.reverse ++ []) [c] = small := hlast.trans (List.append_nil small)
  exact ⟨before, small, hsmall, hbefore.trans (congrArg (before ++ ·) hend)⟩

theorem getLast?_lower_concat (front : List Char) (c : Char) (hletter : d.isLower = true)
    (hk : d ≠ 'k') :
    (lower (front ++ [c])).getLast? = some d ↔ c = d ∨ c = d.toUpper := by
  obtain ⟨before, small, hsmall, heq⟩ := exists_lower_concat front c
  rw [heq, List.getLast?_append_of_ne_nil _ hsmall.ne_nil,
    hsmall.getLast?_eq_some_iff hletter hk]

/-- In front of a last `Y`, the small form of a word ends in that of the letter there. -/
theorem exists_lower_of_lastY (front : List Char) (c : Char) :
    ∃ before small, IsSmallForm c small ∧
      lower (front ++ [c] ++ ['Y']) = before ++ small ++ ['y'] := by
  obtain ⟨before, hbefore⟩ := exists_lowerAfter_append [] front [c, 'Y']
  obtain ⟨small, hsmall, hlast⟩ := exists_lowerAfter_cons (front.reverse ++ []) c ['Y']
  have hend : lowerAfter (c :: (front.reverse ++ [])) ['Y'] = ['y'] := rfl
  rw [hlast, hend, ← List.append_assoc] at hbefore
  rw [List.append_assoc]
  exact ⟨before, small, hsmall, hbefore⟩

/-- Of the words in `Y`, those change that have no `a`, `e` or `o` before it. -/
theorem takesIes_of_lastY (stem : List Char) : takesIes (lower (stem ++ ['Y'])) = true ↔
    ∀ c, stem.getLast? = some c → c ∉ ['a', 'A', 'e', 'E', 'o', 'O'] := by
  rcases List.eq_nil_or_concat' stem with rfl | ⟨front, c, rfl⟩
  · refine iff_of_true (by decide) ?_
    intro c hc
    cases hc
  · obtain ⟨before, small, hsmall, heq⟩ := exists_lower_of_lastY front c
    have hbehind (d : Char) (hletter : d.isLower = true) (hk : d ≠ 'k') :
        [d, 'y'].isSuffixOf (lower (front ++ [c] ++ ['Y'])) = true ↔ c = d ∨ c = d.toUpper := by
      rw [heq, isSuffixOf_concat, isSuffixOf_singleton,
        List.getLast?_append_of_ne_nil _ hsmall.ne_nil, hsmall.getLast?_eq_some_iff hletter hk]
    have hlast : ['y'].isSuffixOf (lower (front ++ [c] ++ ['Y'])) = true := by
      rw [heq, isSuffixOf_singleton, List.getLast?_concat]
    have ha := hbehind 'a' rfl (by decide)
    have he := hbehind 'e' rfl (by decide)
    have ho := hbehind 'o' rfl (by decide)
    have hA : 'a'.toUpper = 'A' := rfl
    have hE : 'e'.toUpper = 'E' := rfl
    have hO : 'o'.toUpper = 'O' := rfl
    rw [hA] at ha
    rw [hE] at he
    rw [hO] at ho
    simp only [takesIes, hlast, Bool.true_and, Bool.and_eq_true, Bool.not_eq_true',
      ← Bool.not_eq_true, ha, he, ho]
    simp [and_assoc]

theorem getLast?_of_isSuffixOf (h : (front ++ [d]).isSuffixOf small = true) :
    small.getLast? = some d := by
  obtain ⟨before, rfl⟩ := List.isSuffixOf_iff_suffix.1 h
  rw [← List.append_assoc, List.getLast?_concat]

/-- A word that changes its last letter does not take `es`. -/
theorem takesEs_of_takesIes (h : takesIes small = true) : takesEs small = false := by
  simp only [takesIes, Bool.and_eq_true, isSuffixOf_singleton] at h
  have hlast : small.getLast? = some 'y' := h.1.1.1
  have hnot (front : List Char) (d : Char) (hd : d ≠ 'y') :
      (front ++ [d]).isSuffixOf small = false := by
    rw [Bool.eq_false_iff]
    intro hsuffix
    have hother := getLast?_of_isSuffixOf hsuffix
    rw [hlast] at hother
    exact hd (Option.some.inj hother).symm
  have hs : ['s'].isSuffixOf small = false := hnot [] 's' (by decide)
  have hsh : ['s', 'h'].isSuffixOf small = false := hnot ['s'] 'h' (by decide)
  have hch : ['c', 'h'].isSuffixOf small = false := hnot ['c'] 'h' (by decide)
  have hx : ['x'].isSuffixOf small = false := hnot [] 'x' (by decide)
  rw [takesEs, hs, hsh, hch, hx]
  rfl

/-- Of the words that end in a capital, those take `ies` that change their `Y`. -/
theorem takesIes_iff (hcapital : isUppercase c = true) :
    takesIes (lower (stem ++ [c])) = true ↔ ChangesY (stem ++ [c]) := by
  constructor
  · intro h
    have hlast : ['y'].isSuffixOf (lower (stem ++ [c])) = true := by
      simp only [takesIes, Bool.and_eq_true] at h
      exact h.1.1.1
    rw [isSuffixOf_singleton, getLast?_lower_concat stem c rfl (by decide)] at hlast
    rcases hlast with rfl | rfl
    · exact absurd hcapital (by decide)
    · exact ⟨stem, rfl, (takesIes_of_lastY stem).1 h⟩
  · rintro ⟨front, heq, hbehind⟩
    obtain ⟨rfl, hc⟩ := List.append_inj' heq rfl
    obtain rfl := List.head_eq_of_cons_eq hc
    exact (takesIes_of_lastY stem).2 hbehind

/-! ## Plurals of words that end in a capital -/

/-- A plural keeps to the capitals of a word: it is a first part of the word and an ending without
small letters. -/
def KeepsCapitals (word plural : List Char) : Prop :=
  ∃ kept ending, plural = kept ++ ending ∧ kept <+: word ∧ ∀ c ∈ ending, isLowercase c = false

theorem pluralChars_of_capital (hstem : stem ≠ []) (hcapital : isUppercase c = true) :
    pluralChars (stem ++ [c]) =
      if takesEs (lower (stem ++ [c])) then stem ++ [c] ++ ['E', 'S']
      else if takesIes (lower (stem ++ [c])) then stem ++ ['i', 'E', 'S']
      else stem ++ [c] ++ ['S'] := by
  have hshouted : isShouted (stem ++ [c]) = true := by
    have hlength : 0 < stem.length := List.length_pos_of_ne_nil hstem
    simp [isShouted, hcapital, hlength]
  have hEs : upper ['e', 's'] = ['E', 'S'] := rfl
  have hS : upper ['s'] = ['S'] := rfl
  by_cases hes : takesEs (lower (stem ++ [c])) = true
  · simp [pluralChars, pluralParts, hes, hshouted, hEs]
  · by_cases hies : takesIes (lower (stem ++ [c])) = true
    · simp [pluralChars, pluralParts, hes, hies, hshouted, hEs]
    · simp [pluralChars, pluralParts, hes, hies, hshouted, hS]

theorem keepsCapitals_append {ending : List Char} (h : ∀ c ∈ ending, isLowercase c = false) :
    KeepsCapitals word (word ++ ending) :=
  ⟨word, ending, rfl, List.prefix_rfl, h⟩

/-- The `i` that takes the place of a capital `Y` belongs to no part of the word. -/
theorem not_keepsCapitals_of_changed (stem : List Char) :
    ¬KeepsCapitals (stem ++ ['Y']) (stem ++ ['i', 'E', 'S']) := by
  rintro ⟨kept, ending, heq, hkept, hsmall⟩
  rcases List.prefix_concat_iff.1 hkept with rfl | ⟨rest, rfl⟩
  · rw [List.append_assoc, List.append_cancel_left_eq] at heq
    cases heq
  · rw [List.append_assoc, List.append_cancel_left_eq] at heq
    have hi : 'i' ∈ ending := by
      rw [← heq]
      exact List.mem_append_right _ List.mem_cons_self
    exact absurd (hsmall 'i' hi) (by decide)

/-- A word of two or more characters that ends in a capital has an ending in capitals in the plural,
unless it ends in a `Y` that changes; then a small `i` takes the place of that. -/
theorem plurals_keep_capitals_unless_y_changes (word : String) (hlength : 2 ≤ word.length)
    (hcapital : word.toList.getLast?.any isUppercase = true) :
    (KeepsCapitals word.toList (pluralize word).toList ↔ ¬ChangesY word.toList) ∧
    (¬ChangesY word.toList →
      pluralize word = word ++ if takesEs (lower word.toList) then "ES" else "S") ∧
    ∀ stem : String, word = stem ++ "Y" → ChangesY word.toList →
      pluralize word = stem ++ "iES" := by
  obtain ⟨c, hlast, hupper⟩ := (Option.any_eq_true _ _).1 hcapital
  obtain ⟨stem, hword⟩ := List.getLast?_eq_some_iff.1 hlast
  have hstem : stem ≠ [] := by
    rintro rfl
    rw [← String.length_toList, hword] at hlength
    simp at hlength
  have hplural : (pluralize word).toList = pluralChars (stem ++ [c]) := by
    rw [pluralize, String.toList_ofList, hword]
  rw [pluralChars_of_capital hstem hupper, ← hword] at hplural
  have hies : takesIes (lower word.toList) = true ↔ ChangesY word.toList := by
    rw [hword]
    exact takesIes_iff hupper
  have hregular (hnot : ¬ChangesY word.toList) :
      pluralize word = word ++ if takesEs (lower word.toList) then "ES" else "S" := by
    rw [← hies, Bool.not_eq_true] at hnot
    apply String.ext
    rw [hplural, hnot, String.toList_append]
    split <;> rfl
  have hchanged (hchanges : ChangesY word.toList) :
      c = 'Y' ∧ (pluralize word).toList = stem ++ ['i', 'E', 'S'] := by
    have htakes := hies.2 hchanges
    rw [hplural, htakes, takesEs_of_takesIes htakes]
    obtain ⟨front, heq, -⟩ := hchanges
    rw [hword] at heq
    exact ⟨List.head_eq_of_cons_eq (List.append_inj' heq rfl).2, rfl⟩
  refine ⟨⟨?_, ?_⟩, hregular, ?_⟩
  · intro hkeeps hchanges
    obtain ⟨rfl, heq⟩ := hchanged hchanges
    rw [hword, heq] at hkeeps
    exact not_keepsCapitals_of_changed stem hkeeps
  · intro hnot
    rw [hregular hnot, String.toList_append]
    apply keepsCapitals_append
    have hES : "ES".toList = ['E', 'S'] := rfl
    have hS : "S".toList = ['S'] := rfl
    split
    · rw [hES]
      exact List.forall_mem_cons.2 ⟨by decide, List.forall_mem_singleton.2 (by decide)⟩
    · rw [hS]
      exact List.forall_mem_singleton.2 (by decide)
  · rintro front rfl hchanges
    obtain ⟨rfl, heq⟩ := hchanged hchanges
    have hfront : front.toList = stem :=
      (List.append_inj' (String.toList_append.symm.trans hword) rfl).1
    apply String.ext
    rw [heq, String.toList_append, hfront]
    rfl

/-- A name whose last word is a single capital. -/
theorem entityA_keeps_its_capitals : 2 ≤ "EntityA".length ∧
    "EntityA".toList.getLast?.any isUppercase = true ∧ ¬ChangesY "EntityA".toList ∧
    pluralize "EntityA" = "EntityAS" ∧
    KeepsCapitals "EntityA".toList (pluralize "EntityA").toList := by
  have hcapital : "EntityA".toList.getLast?.any isUppercase = true := by decide +kernel
  have hnot : ¬ChangesY "EntityA".toList := by
    rintro ⟨stem, heq, -⟩
    have hlast := congrArg List.getLast? heq
    rw [List.getLast?_concat] at hlast
    exact absurd hlast (by decide +kernel)
  obtain ⟨hkeeps, hplural, -⟩ :=
    plurals_keep_capitals_unless_y_changes "EntityA" (by decide) hcapital
  exact ⟨by decide, hcapital, hnot, hplural hnot, hkeeps.2 hnot⟩

/-- A name in capitals gets a small `i` in its plural. -/
theorem the_plural_of_a_shouted_entity_has_a_small_i : 2 ≤ "ENTITY".length ∧
    "ENTITY".toList.getLast?.any isUppercase = true ∧ pluralize "ENTITY" = "ENTITiES" ∧
    ¬KeepsCapitals "ENTITY".toList (pluralize "ENTITY").toList := by
  have hplural : pluralize "ENTITY" = "ENTITiES" := by decide +kernel
  refine ⟨by decide, by decide +kernel, hplural, ?_⟩
  rw [hplural]
  exact not_keepsCapitals_of_changed ['E', 'N', 'T', 'I', 'T']

end EntityPipeline.Text
