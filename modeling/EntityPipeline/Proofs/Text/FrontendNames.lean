-- The ending of the name of the client application. A base name that does not end in `App` gets it.
-- One that does keeps it only if the letters come out of camel case as they went in: `App` must be
-- a word of its own there, and not the first one.
import EntityPipeline.Config
import EntityPipeline.Proofs.Text.SmallForms

namespace EntityPipeline.Text

variable {current part last stem : List Char}

/-! ## Clusters of a longer text -/

/-- Behind a text only its last cluster may still grow. -/
theorem exists_clustersFrom_append (current front : List Char) (h : current ≠ []) :
    ∃ closed last, last ≠ [] ∧ clustersFrom current front = closed ++ [last] ∧
      ∀ rest, clustersFrom current (front ++ rest) = closed ++ clustersFrom last rest := by
  induction front generalizing current with
  | nil => exact ⟨[], current, h, rfl, fun rest => rfl⟩
  | cons c front ih =>
    by_cases hjoins : joins current c = true
    · obtain ⟨closed, last, hlast, heq, happend⟩ := ih (current ++ [c]) (by simp)
      refine ⟨closed, last, hlast, ?_, ?_⟩
      · rw [clustersFrom, if_pos hjoins, heq]
      · intro rest
        rw [List.cons_append, clustersFrom, if_pos hjoins, happend]
    · obtain ⟨closed, last, hlast, heq, happend⟩ := ih [c] (by simp)
      refine ⟨current :: closed, last, hlast, ?_, ?_⟩
      · rw [clustersFrom, if_neg hjoins, heq, List.cons_append]
      · intro rest
        rw [List.cons_append, clustersFrom, if_neg hjoins, happend, List.cons_append]

/-- Nothing visible in ASCII grows by a letter `p`. -/
theorem joins_p (h : last.getLast? = some 'A' ∨ last.getLast? = some 'p') :
    joins last 'p' = false := by
  have hpicture : isPictograph 'p' = false := rfl
  rcases h with h | h <;> rw [joins, h, hpicture, Bool.false_and] <;> rfl

theorem clustersFrom_pp (h : last.getLast? = some 'A') :
    clustersFrom last ['p', 'p'] = [last, ['p'], ['p']] := by
  rw [clustersFrom, if_neg (by rw [joins_p (Or.inl h)]; decide), clustersFrom,
    if_neg (by rw [joins_p (Or.inr rfl)]; decide), clustersFrom]

/-- The clusters of a text in `App`: the capital may lean on what stands before it. -/
theorem clusters_append_app (h : stem ≠ []) :
    ∃ closed last, last ≠ [] ∧ clusters stem = closed ++ [last] ∧
      clusters (stem ++ ['A', 'p', 'p']) =
        if joins last 'A' then closed ++ [last ++ ['A'], ['p'], ['p']]
        else closed ++ [last] ++ [['A'], ['p'], ['p']] := by
  obtain _ | ⟨c, front⟩ := stem
  · contradiction
  · obtain ⟨closed, last, hlast, heq, happend⟩ :=
      exists_clustersFrom_append [c] front (List.cons_ne_nil c [])
    refine ⟨closed, last, hlast, heq, ?_⟩
    have hclusters : clusters (c :: front ++ ['A', 'p', 'p']) =
        clustersFrom [c] (front ++ ['A', 'p', 'p']) := rfl
    rw [hclusters, happend, clustersFrom]
    split
    · rw [clustersFrom_pp List.getLast?_concat]
    · rw [clustersFrom_pp rfl, List.append_assoc, List.singleton_append]

/-! ## The last word -/

/-- A cluster that `App` follows ends a word: it is a delimiter, digits or a letter with two
cases. -/
def ClosesWord (cluster : List Char) : Prop :=
  isDelimiter cluster = true ∨ isDigitCluster cluster = true ∨ isUpperCluster cluster = true ∨
    isLowerCluster cluster = true

instance (cluster : List Char) : Decidable (ClosesWord cluster) :=
  inferInstanceAs (Decidable (_ ∨ _ ∨ _ ∨ _))

/-- A text that makes a word of its own of the `App` behind it: its last cluster takes no further
letter and ends a word. -/
def StandsApart (stem : List Char) : Prop :=
  ∃ cluster, (clusters stem).getLast? = some cluster ∧ joins cluster 'A' = false ∧
    ClosesWord cluster

theorem isLowerCluster_p : isLowerCluster ['p'] = true := by decide

theorem endsWord_p (part : List Char) (third : Option (List Char)) :
    endsWord part ['p'] third = isDigitCluster part := by
  have hupper : isUpperCluster ['p'] = false := by decide
  have hdigit : isDigitCluster ['p'] = false := by decide
  simp [endsWord, isLowerCluster_p, hupper, hdigit]

theorem endsWord_a (part : List Char) :
    endsWord part ['A'] (some ['p']) = true ↔
      isDigitCluster part = true ∨ isUpperCluster part = true ∨ isLowerCluster part = true := by
  have hupper : isUpperCluster ['A'] = true := by decide
  have hdigit : isDigitCluster ['A'] = false := by decide
  rw [endsWord, hupper, hdigit, Option.any_some, isLowerCluster_p]
  simp only [Bool.or_false, Bool.or_true, Bool.and_true, Bool.and_false, Bool.or_eq_true]
  tauto

/-- The words of a list of clusters are those of its first part, the last of which goes on. -/
theorem exists_wordsFrom_append (current : List Char) (xs tail : List (List Char)) :
    ∃ others front, wordsFrom current (xs ++ tail) = others ++ wordsFrom front tail := by
  induction xs generalizing current with
  | nil => exact ⟨[], current, rfl⟩
  | cons first rest ih =>
    rw [List.cons_append, wordsFrom.eq_def]
    dsimp only
    split
    · obtain ⟨others, front, heq⟩ := ih []
      exact ⟨current :: others, front, by rw [heq, List.cons_append]⟩
    · split
      · rename_i hnil
        obtain ⟨-, rfl⟩ := List.append_eq_nil_iff.mp hnil
        exact ⟨[], current ++ first, rfl⟩
      · split
        · obtain ⟨others, front, heq⟩ := ih []
          exact ⟨(current ++ first) :: others, front, by rw [heq, List.cons_append]⟩
        · exact ih (current ++ first)

/-- No word ends between the letters of `App`. -/
theorem wordsFrom_app (h : part.getLast? = some 'A') :
    wordsFrom current [part, ['p'], ['p']] = [current ++ part ++ ['p', 'p']] := by
  have hmem : 'A' ∈ part := List.mem_of_getLast? h
  have hdelimiter : isDelimiter part = false := by
    by_contra hne
    simp only [isDelimiter, Bool.not_eq_false, Bool.or_eq_true, beq_iff_eq] at hne
    rcases hne with (rfl | rfl) | rfl <;> exact absurd h (by decide)
  have hdigits : isDigitCluster part = false := by
    rw [isDigitCluster, List.all_eq_false]
    exact ⟨'A', hmem, by decide⟩
  have hp : isDelimiter ['p'] = false := rfl
  have hpp : isDigitCluster ['p'] = false := rfl
  simp only [wordsFrom, hdelimiter, hp, endsWord_p, hdigits, hpp, Bool.false_eq_true, if_false,
    List.append_assoc, List.singleton_append]

/-- Behind a cluster that takes no further letter, `App` is a word of its own or goes on with the
one before it. -/
theorem wordsFrom_last_app (front last : List Char) :
    ∃ others before, wordsFrom front [last, ['A'], ['p'], ['p']] =
        others ++ [before ++ ['A', 'p', 'p']] ∧
      (ClosesWord last → others ≠ [] ∧ before = []) ∧
      (¬ ClosesWord last → others = [] ∧ before = front ++ last) := by
  have hword (current : List Char) :
      wordsFrom current [['A'], ['p'], ['p']] = [current ++ ['A', 'p', 'p']] := by
    rw [wordsFrom_app rfl, List.append_assoc, List.singleton_append]
  by_cases hdelimiter : isDelimiter last = true
  · have hcloses : ClosesWord last := Or.inl hdelimiter
    refine ⟨[front], [], ?_, fun _ => ⟨List.cons_ne_nil _ _, rfl⟩, absurd hcloses⟩
    rw [wordsFrom, if_pos hdelimiter, hword, List.singleton_append]
  · by_cases hends : endsWord last ['A'] (some ['p']) = true
    · have hcloses : ClosesWord last := Or.inr ((endsWord_a last).mp hends)
      refine ⟨[front ++ last], [], ?_, fun _ => ⟨List.cons_ne_nil _ _, rfl⟩, absurd hcloses⟩
      rw [wordsFrom, if_neg hdelimiter]
      simp only [List.head?_cons, hends, if_true, hword, List.singleton_append]
    · have hopen : ¬ ClosesWord last := by
        rintro (h | h)
        · exact hdelimiter h
        · exact hends ((endsWord_a last).mpr h)
      refine ⟨[], front ++ last, ?_, fun h => absurd h hopen, fun _ => ⟨rfl, rfl⟩⟩
      rw [wordsFrom, if_neg hdelimiter]
      simp only [List.head?_cons, hends, Bool.false_eq_true, if_false, hword, List.nil_append]

/-- Where the capital leans on the cluster before it, `App` goes on with a word. -/
theorem exists_wordsFrom_leaning (closed : List (List Char)) (h : last ≠ []) :
    ∃ others before, before ≠ [] ∧ wordsFrom [] (closed ++ [last ++ ['A'], ['p'], ['p']]) =
      others ++ [before ++ ['A', 'p', 'p']] := by
  obtain ⟨others, front, hwords⟩ :=
    exists_wordsFrom_append [] closed [last ++ ['A'], ['p'], ['p']]
  refine ⟨others, front ++ last, fun hnil => h (List.append_eq_nil_iff.mp hnil).2, ?_⟩
  rw [hwords, wordsFrom_app List.getLast?_concat]
  simp

/-- Where the capital stands by itself, the cluster before it tells whether `App` does. -/
theorem exists_wordsFrom_upright (closed : List (List Char)) (h : last ≠ []) :
    ∃ others before, wordsFrom [] (closed ++ [last, ['A'], ['p'], ['p']]) =
        others ++ [before ++ ['A', 'p', 'p']] ∧
      (ClosesWord last ↔ others ≠ [] ∧ before = []) := by
  obtain ⟨others, front, hwords⟩ := exists_wordsFrom_append [] closed [last, ['A'], ['p'], ['p']]
  obtain ⟨more, before, hmore, hcloses, hopen⟩ := wordsFrom_last_app front last
  refine ⟨others ++ more, before, by rw [hwords, hmore, List.append_assoc], ?_⟩
  constructor
  · intro hlast
    obtain ⟨hne, hnil⟩ := hcloses hlast
    exact ⟨List.append_ne_nil_of_right_ne_nil others hne, hnil⟩
  · rintro ⟨-, hnil⟩
    by_contra hlast
    rw [(hopen hlast).2] at hnil
    exact h (List.append_eq_nil_iff.mp hnil).2

/-- The last word of a text in `App` ends in it, and is no more than that behind a text that stands
apart. -/
theorem exists_words_append_app (stem : List Char) :
    ∃ others before, words (stem ++ ['A', 'p', 'p']) = others ++ [before ++ ['A', 'p', 'p']] ∧
      (StandsApart stem ↔ others ≠ [] ∧ before = []) := by
  by_cases hstem : stem = []
  · subst hstem
    refine ⟨[], [], by decide, iff_of_false ?_ ?_⟩
    · rintro ⟨cluster, hlast, -⟩
      cases hlast
    · exact fun h => h.1 rfl
  · obtain ⟨closed, last, hlast, heq, happ⟩ := clusters_append_app hstem
    have hapart : StandsApart stem ↔ joins last 'A' = false ∧ ClosesWord last := by
      rw [StandsApart, heq, List.getLast?_concat]
      simp
    rw [words, happ, hapart]
    split
    · rename_i hjoins
      obtain ⟨others, before, hbefore, hwords⟩ := exists_wordsFrom_leaning closed hlast
      refine ⟨others, before, hwords, iff_of_false ?_ fun h => hbefore h.2⟩
      rw [hjoins]
      simp
    · rename_i hjoins
      obtain ⟨others, before, hwords, hcloses⟩ := exists_wordsFrom_upright closed hlast
      refine ⟨others, before, ?_, ?_⟩
      · rwa [List.append_assoc, List.singleton_append]
      · rw [← hcloses]
        simp [hjoins]

/-! ## Camel case -/

/-- The letters of `App` are small in the small form of a text that ends in it. -/
theorem exists_lowerAfter_append_app (before front : List Char) :
    ∃ small, lowerAfter before (front ++ ['A', 'p', 'p']) = small ++ ['a', 'p', 'p'] :=
  exists_lowerAfter_append before front ['A', 'p', 'p']

/-- A word in `App` keeps the capital only as a whole. -/
theorem exists_capitalize_append_app (front : List Char) :
    ∃ before, capitalize (front ++ ['A', 'p', 'p']) =
      before ++ if front = [] then ['A', 'p', 'p'] else ['a', 'p', 'p'] := by
  cases front with
  | nil => exact ⟨[], by decide⟩
  | cons c rest =>
    obtain ⟨small, hsmall⟩ := exists_lowerAfter_append_app [] rest
    refine ⟨upperChar c ++ small, ?_⟩
    rw [if_neg (List.cons_ne_nil c rest), List.cons_append, capitalize, lower, hsmall,
      List.append_assoc]

/-- Camel case keeps the capital of `App` behind a stem that stands apart, and only there. -/
theorem exists_camel_of_app {s : String} (h : s.toList = stem ++ ['A', 'p', 'p']) :
    (StandsApart stem ∧ ['A', 'p', 'p'] <:+ (camel s).toList) ∨
      (¬ StandsApart stem ∧ ['a', 'p', 'p'] <:+ (camel s).toList) := by
  obtain ⟨others, last, hwords, hapart⟩ := exists_words_append_app stem
  rw [camel, h, hwords, hapart]
  cases others with
  | nil =>
    obtain ⟨small, hsmall⟩ := exists_lowerAfter_append_app [] last
    refine Or.inr ⟨fun hne => hne.1 rfl, small, ?_⟩
    simp [lower, hsmall]
  | cons first others =>
    obtain ⟨before, hbefore⟩ := exists_capitalize_append_app last
    let front := lower first ++ (others.flatMap capitalize ++ before)
    by_cases hlast : last = []
    · refine Or.inl ⟨⟨List.cons_ne_nil _ _, hlast⟩, front, ?_⟩
      rw [if_pos hlast] at hbefore
      simp [front, hbefore]
    · refine Or.inr ⟨fun hne => hlast hne.2, front, ?_⟩
      rw [if_neg hlast] at hbefore
      simp [front, hbefore]

end EntityPipeline.Text

namespace EntityPipeline.ApplicationConfig

open Text

variable {name : List Char}

/-! ## The name of the client application -/

/-- A name does not end in `App` and in `app`. -/
theorem not_suffix_of_small (h : ['a', 'p', 'p'] <:+ name) : ¬ ['A', 'p', 'p'] <:+ name := by
  intro hcapital
  have hshort : ['A', 'p', 'p'] <:+ ['a', 'p', 'p'] :=
    List.suffix_of_suffix_length_le hcapital h (Nat.le_refl 3)
  exact absurd (hshort.eq_of_length rfl) (by decide)

/-- With `App` in front of a digit, a name starts with no digit. -/
theorem exists_guarded_eq (name : String) :
    ∃ front, (if name.toList.head?.any Char.isDigit then "App" ++ name else name).toList =
        front ++ name.toList ∧
      ∀ c, (front ++ name.toList).head? = some c → c.isDigit = false := by
  split
  · refine ⟨['A', 'p', 'p'], by simp, ?_⟩
    intro c hc
    obtain rfl := Option.some.inj hc
    rfl
  · rename_i hdigit
    refine ⟨[], rfl, ?_⟩
    intro c hc
    rw [List.nil_append] at hc
    rw [hc] at hdigit
    simpa using hdigit

theorem exists_frontendAppName_eq (config : ApplicationConfig) :
    ∃ front, config.frontendAppName.toList = front ++ ((camel config.baseName).toList ++
        if ['A', 'p', 'p'] <:+ config.baseName.toList then [] else ['A', 'p', 'p']) ∧
      ∀ c, config.frontendAppName.toList.head? = some c → c.isDigit = false := by
  obtain ⟨front, heq, hdigit⟩ := exists_guarded_eq
    (if ['A', 'p', 'p'].isSuffixOf config.baseName.toList then camel config.baseName
      else camel config.baseName ++ "App")
  rw [← heq] at hdigit
  refine ⟨front, heq.trans ?_, hdigit⟩
  simp only [← List.isSuffixOf_iff_suffix]
  split
  · simp
  · simp

/-- The name of the client application starts with no digit. It ends in `App` just when no `App` at
the end of the base name is part of a longer word or the first one, and else in `app`. -/
theorem frontendAppName_keeps_App_only_as_a_later_word (config : ApplicationConfig) :
    (∀ c, config.frontendAppName.toList.head? = some c → c.isDigit = false) ∧
      (['A', 'p', 'p'] <:+ config.frontendAppName.toList ↔
        ∀ stem, config.baseName.toList = stem ++ ['A', 'p', 'p'] → StandsApart stem) ∧
      (['A', 'p', 'p'] <:+ config.frontendAppName.toList ∨
        ['a', 'p', 'p'] <:+ config.frontendAppName.toList) := by
  obtain ⟨front, heq, hdigit⟩ := exists_frontendAppName_eq config
  refine ⟨hdigit, ?_⟩
  rw [heq]
  by_cases hbase : ['A', 'p', 'p'] <:+ config.baseName.toList
  · obtain ⟨stem, hstem⟩ := hbase
    have hall : (∀ other, config.baseName.toList = other ++ ['A', 'p', 'p'] → StandsApart other) ↔
        StandsApart stem := by
      constructor
      · exact fun h => h stem hstem.symm
      · intro h other hother
        obtain rfl : stem = other := List.append_cancel_right (hstem.trans hother)
        exact h
    rw [if_pos ⟨stem, hstem⟩, List.append_nil, hall]
    rcases exists_camel_of_app hstem.symm with ⟨hapart, hend⟩ | ⟨hapart, hend⟩
    · have hcapital := hend.trans (List.suffix_append front _)
      exact ⟨iff_of_true hcapital hapart, Or.inl hcapital⟩
    · have hsmall := hend.trans (List.suffix_append front _)
      exact ⟨iff_of_false (not_suffix_of_small hsmall) hapart, Or.inr hsmall⟩
  · rw [if_neg hbase, ← List.append_assoc]
    have hcapital := List.suffix_append (front ++ (camel config.baseName).toList) ['A', 'p', 'p']
    refine ⟨iff_of_true hcapital ?_, Or.inl hcapital⟩
    intro stem hstem
    exact absurd ⟨stem, hstem.symm⟩ hbase

example : StandsApart "sample".toList := ⟨['e'], rfl, by decide, by decide +kernel⟩

/-- A base name of nothing but `App` is one word, and the first. -/
theorem the_client_of_App_is_no_App :
    frontendAppName { baseName := "App" } = "app" ∧
      ¬ ['A', 'p', 'p'] <:+ (frontendAppName { baseName := "App" }).toList := by
  decide +kernel

end EntityPipeline.ApplicationConfig
