-- The tokens of a printed value. Each piece that the printer writes is read as the tokens it stands
-- for, whatever follows; only a number needs something behind it that cannot belong to a number. It
-- is read as the number that its text is read as, which is the same one if it reads back.
import EntityPipeline.Json.Printer
import EntityPipeline.Proofs.Json.Values
import EntityPipeline.Proofs.Number.Text
import Mathlib.Tactic.IntervalCases

namespace EntityPipeline.Json

variable {v : Json} {x : Number} {n indent : Nat} {rest : List Char}

/-! ## Pieces -/

theorem tokensFrom_spaces (k : Nat) (rest : List Char) :
    tokensFrom .between (List.replicate k ' ' ++ rest) = tokensFrom .between rest := by
  induction k with
  | zero => rfl
  | succ k ih => exact ih

theorem tokensFrom_lineBreak (indent : Nat) (rest : List Char) :
    tokensFrom .between (lineBreak indent ++ rest) = tokensFrom .between rest :=
  tokensFrom_spaces _ rest

theorem tokensFrom_bool (b : Bool) (rest : List Char) :
    tokensFrom .between (boolChars b ++ rest) = .bool b :: tokensFrom .between rest := by
  cases b <;> rfl

theorem tokensFrom_control (t : PartialText) {k : Nat} (hk : k < 32) (rest : List Char) :
    tokensFrom (.text t) (escapedChar (Char.ofNat k) ++ rest) =
      tokensFrom (.text (t.push (Char.ofNat k))) rest := by
  interval_cases k <;> rfl

/-- An escaped character is read as the character. -/
theorem tokensFrom_escapedChar (t : PartialText) (c : Char) (rest : List Char) :
    tokensFrom (.text t) (escapedChar c ++ rest) = tokensFrom (.text (t.push c)) rest := by
  by_cases hcontrol : c.toNat < 32
  · rw [← Char.ofNat_toNat c]
    exact tokensFrom_control t hcontrol rest
  by_cases hquote : c = '"'
  · rw [hquote]
    rfl
  by_cases hslash : c = '\\'
  · rw [hslash]
    rfl
  have hplain : escapedChar c = [c] := by
    have hne : ∀ d : Char, d.toNat < 32 → c ≠ d := fun d hd hc => hcontrol (hc ▸ hd)
    simp [escapedChar, hquote, hslash, hcontrol, hne '\x08' (by decide), hne '\x0c' (by decide),
      hne '\n' (by decide), hne '\r' (by decide), hne '\t' (by decide)]
  rw [hplain, List.singleton_append, tokensFrom]
  simp [step, stepText, hquote, hslash, hcontrol]

theorem tokensFrom_escaped (t : PartialText) (cs rest : List Char) :
    tokensFrom (.text t) (cs.flatMap escapedChar ++ rest) =
      tokensFrom (.text { t with chars := cs.reverse ++ t.chars }) rest := by
  induction cs generalizing t with
  | nil => rfl
  | cons c cs ih =>
    rw [List.flatMap_cons, List.append_assoc, tokensFrom_escapedChar, ih]
    simp [PartialText.push]

/-- A string is read back. -/
theorem tokensFrom_string (s : String) (rest : List Char) :
    tokensFrom .between (stringChars s ++ rest) =
      .quoted (.whole s) :: tokensFrom .between rest := by
  have hopen : tokensFrom .between (stringChars s ++ rest) =
      tokensFrom (.text .empty) (s.toList.flatMap escapedChar ++ ('"' :: rest)) := by
    rw [stringChars, List.append_assoc]
    rfl
  have hclose (t : PartialText) :
      tokensFrom (.text t) ('"' :: rest) = t.close :: tokensFrom .between rest := rfl
  rw [hopen, tokensFrom_escaped, hclose]
  simp [PartialText.close, PartialText.empty]

/-! ## Numbers -/

/-- A text that does not go on with a character of a number. -/
def EndsNumber (rest : List Char) : Prop := ∀ c ∈ rest.head?, isNumberChar c = false

theorem isNumberChar_of_isDigit {c : Char} (h : c.isDigit = true) : isNumberChar c = true := by
  simp [isNumberChar, h]

theorem all_digits (n : Nat) : (Number.digits n).all isNumberChar = true :=
  List.all_eq_true.2 fun _ hc => isNumberChar_of_isDigit (Number.isDigit_of_mem_digits hc)

theorem all_positional {ds : List Char} (h : ds.all isNumberChar = true) (power : Int) :
    (Number.positional ds power).all isNumberChar = true := by
  have hzeros (k : Nat) : (List.replicate k '0').all isNumberChar = true :=
    List.all_eq_true.2 fun c hc => List.eq_of_mem_replicate hc ▸ rfl
  have hpart : ∀ part : List Char, part ⊆ ds → part.all isNumberChar = true := fun part hpart =>
    List.all_eq_true.2 fun c hc => List.all_eq_true.1 h c (hpart hc)
  unfold Number.positional
  split
  · simp only [List.cons_append, List.all_cons, List.all_append, hzeros, h]
    rfl
  · dsimp only
    split
    · simp only [List.all_append, hzeros, h]
      rfl
    · simp only [List.all_append, List.all_cons, hpart _ (List.take_subset _ _),
        hpart _ (List.drop_subset _ _)]
      rfl

theorem all_scientific {ds : List Char} (h : ds.all isNumberChar = true) (power : Int) :
    (Number.scientific ds power).all isNumberChar = true := by
  have hhead : ∀ head : List Char, head.all isNumberChar = true →
      (head ++ 'e' :: (if power < 0 then '-' else '+') :: Number.digits power.natAbs).all
        isNumberChar = true := by
    intro head hhead
    simp only [List.all_append, List.all_cons, hhead, all_digits]
    split <;> rfl
  unfold Number.scientific
  refine hhead _ ?_
  split
  · simp only [List.all_cons, Bool.and_eq_true] at h ⊢
    exact ⟨h.1, rfl, h.2⟩
  · exact h

theorem all_chars (x : Number) : x.chars.all isNumberChar = true := by
  cases x with
  | int n =>
    show (Number.intText n).all isNumberChar = true
    unfold Number.intText
    split
    · exact all_digits _
    · exact all_digits _
  | real x =>
    have hsign : (if x.negative then ['-'] else []).all isNumberChar = true := by
      split <;> rfl
    show (Number.realText x).all isNumberChar = true
    unfold Number.realText
    dsimp only
    split
    · rw [List.all_append, hsign]
      rfl
    · rw [List.all_append, hsign, Bool.true_and]
      split
      · exact all_positional (all_digits _) _
      · exact all_scientific (all_digits _) _

/-- A number that is read starts with a digit or a minus. -/
theorem exists_cons_of_read {text : List Char} (h : Number.read text = .read x) :
    ∃ c cs, text = c :: cs ∧ (c == '-' || c.isDigit) = true := by
  match text with
  | [] => exact nomatch h
  | c :: cs =>
    refine ⟨c, cs, rfl, ?_⟩
    by_contra hc
    obtain ⟨hminus, hdigit⟩ : c ≠ '-' ∧ c.isDigit = false := by simpa using hc
    have hread : Number.read (c :: cs) = Number.readMagnitude false (c :: cs) :=
      Number.read_sign false (by simpa using hminus)
    have hlacking : Number.readMagnitude false (c :: cs) = Number.lacking (c :: cs) := by
      unfold Number.readMagnitude
      simp [hdigit]
    exact Number.lacking_ne_read _ _ ((hread.trans hlacking).symm.trans h)

theorem begin_number {c : Char} (h : (c == '-' || c.isDigit) = true) :
    begin c = ([], .number [c]) := by
  have hne : ∀ d : Char, (d == '-' || d.isDigit) = false → (c == d) = false := by
    intro d hd
    by_contra hcd
    rw [Bool.not_eq_false, beq_iff_eq] at hcd
    rw [hcd, hd] at h
    exact nomatch h
  unfold begin isSpace
  simp [hne ' ' rfl, hne '\n' rfl, hne '\t' rfl, hne '\r' rfl, hne '\x7b' rfl, hne '\x7d' rfl,
    hne '[' rfl, hne ']' rfl, hne ':' rfl, hne ',' rfl, hne '"' rfl, hne 'n' rfl, hne 't' rfl,
    hne 'f' rfl, h]

theorem tokensFrom_numberChars (read cs rest : List Char) (h : cs.all isNumberChar = true) :
    tokensFrom (.number read) (cs ++ rest) = tokensFrom (.number (cs.reverse ++ read)) rest := by
  induction cs generalizing read with
  | nil => rfl
  | cons c cs ih =>
    obtain ⟨hc, hcs⟩ := Bool.and_eq_true_iff.1 h
    rw [List.cons_append, tokensFrom]
    simp only [step, hc, if_true, List.nil_append]
    rw [ih _ hcs]
    simp

/-- A number whose text is read as a number, be it another one. -/
def IsReread (x : Number) : Prop := ∃ y, Number.read x.chars = .read y

theorem isReread_of_readsBack (h : x.ReadsBack) : IsReread x := ⟨x, h⟩

theorem numberToken_of_read {y : Number} (h : Number.read x.chars = .read y) :
    numberToken x.chars.reverse = .number y := by
  unfold numberToken
  rw [List.reverse_reverse, h]

/-- A number is read from its text where no further character of a number follows. -/
theorem tokensFrom_number (hx : IsReread x) (hrest : EndsNumber rest) :
    tokensFrom .between (x.chars ++ rest) =
      numberToken x.chars.reverse :: tokensFrom .between rest := by
  obtain ⟨y, hread⟩ := hx
  have hall := all_chars x
  obtain ⟨c, cs, htext, hc⟩ := exists_cons_of_read hread
  have htoken := numberToken_of_read hread
  have hreverse : x.chars.reverse = cs.reverse ++ [c] := by simp [htext]
  rw [htoken]
  rw [hreverse] at htoken
  rw [htext] at hall
  have hstart : tokensFrom .between (x.chars ++ rest) =
      tokensFrom (.number (cs.reverse ++ [c])) rest := by
    rw [htext, List.cons_append, tokensFrom]
    simp only [step, begin_number hc, List.nil_append]
    exact tokensFrom_numberChars [c] cs rest (Bool.and_eq_true_iff.1 hall).2
  rw [hstart]
  cases rest with
  | nil => rw [tokensFrom, tokensFrom, finish, finish, htoken]
  | cons d rest =>
    have hd : isNumberChar d = false := hrest d rfl
    rw [tokensFrom, tokensFrom]
    simp [step, hd, htoken]

/-! ## Values -/

mutual

/-- The tokens of a value, each number read from its text. -/
def valueTokens : Json → List Token
  | .null => [.null]
  | .bool b => [.bool b]
  | .number x => [numberToken x.chars.reverse]
  | .string s => [.quoted (.whole s)]
  | .array [] => [.openBracket, .closeBracket]
  | .array (item :: rest) =>
    .openBracket :: (valueTokens item ++ itemTokens rest ++ [.closeBracket])
  | .object [] => [.openBrace, .closeBrace]
  | .object ((key, value) :: rest) =>
    .openBrace :: .quoted (.whole key) :: .colon ::
      (valueTokens value ++ memberTokens rest ++ [.closeBrace])

/-- The tokens of the items after the first. -/
def itemTokens : List Json → List Token
  | [] => []
  | item :: rest => .comma :: (valueTokens item ++ itemTokens rest)

/-- The tokens of the members after the first. -/
def memberTokens : List (String × Json) → List Token
  | [] => []
  | (key, value) :: rest =>
    .comma :: .quoted (.whole key) :: .colon :: (valueTokens value ++ memberTokens rest)

end

theorem endsNumber_comma (rest : List Char) : EndsNumber (',' :: rest) := by
  rintro c ⟨⟩
  rfl

theorem endsNumber_lineBreak (indent : Nat) (rest : List Char) :
    EndsNumber (lineBreak indent ++ rest) := by
  rintro c ⟨⟩
  rfl

theorem tokensFrom_prettyItems {items : List Json} (indent : Nat)
    (h : ∀ item ∈ items, ∀ rest, EndsNumber rest →
      tokensFrom .between (prettyChars indent item ++ rest) =
        valueTokens item ++ tokensFrom .between rest)
    (hrest : EndsNumber rest) :
    EndsNumber (prettyItems indent items ++ rest) ∧
      tokensFrom .between (prettyItems indent items ++ rest) =
        itemTokens items ++ tokensFrom .between rest := by
  induction items with
  | nil => exact ⟨hrest, rfl⟩
  | cons item items ih =>
    obtain ⟨hitem, hitems⟩ := List.forall_mem_cons.1 h
    obtain ⟨hends, htokens⟩ := ih hitems
    have htext : prettyItems indent (item :: items) ++ rest =
        ',' :: (lineBreak indent ++ (prettyChars indent item ++
          (prettyItems indent items ++ rest))) := by
      simp [prettyItems]
    have hcomma : tokensFrom .between (prettyItems indent (item :: items) ++ rest) =
        .comma :: tokensFrom .between (lineBreak indent ++ (prettyChars indent item ++
          (prettyItems indent items ++ rest))) := by
      rw [htext]
      rfl
    refine ⟨htext ▸ endsNumber_comma _, ?_⟩
    rw [hcomma, tokensFrom_lineBreak, hitem _ hends, htokens, itemTokens]
    simp

theorem tokensFrom_prettyMembers {members : List (String × Json)} (indent : Nat)
    (h : ∀ member ∈ members, ∀ rest, EndsNumber rest →
      tokensFrom .between (prettyChars indent member.2 ++ rest) =
        valueTokens member.2 ++ tokensFrom .between rest)
    (hrest : EndsNumber rest) :
    EndsNumber (prettyMembers indent members ++ rest) ∧
      tokensFrom .between (prettyMembers indent members ++ rest) =
        memberTokens members ++ tokensFrom .between rest := by
  induction members with
  | nil => exact ⟨hrest, rfl⟩
  | cons member members ih =>
    obtain ⟨key, value⟩ := member
    obtain ⟨hmember, hmembers⟩ := List.forall_mem_cons.1 h
    obtain ⟨hends, htokens⟩ := ih hmembers
    have htext : prettyMembers indent ((key, value) :: members) ++ rest =
        ',' :: (lineBreak indent ++ (stringChars key ++ ':' :: ' ' ::
          (prettyChars indent value ++ (prettyMembers indent members ++ rest)))) := by
      simp [prettyMembers]
    have hcomma : tokensFrom .between (prettyMembers indent ((key, value) :: members) ++ rest) =
        .comma :: tokensFrom .between (lineBreak indent ++ (stringChars key ++ ':' :: ' ' ::
          (prettyChars indent value ++ (prettyMembers indent members ++ rest)))) := by
      rw [htext]
      rfl
    have hcolon (text : List Char) : tokensFrom .between (':' :: ' ' :: text) =
        .colon :: tokensFrom .between text := rfl
    refine ⟨htext ▸ endsNumber_comma _, ?_⟩
    rw [hcomma, tokensFrom_lineBreak, tokensFrom_string, hcolon, hmember _ hends, htokens,
      memberTokens]
    simp

/-- A printed value is read as its tokens. -/
theorem tokensFrom_prettyChars (hv : v.Fits IsReread n) (indent : Nat)
    (hrest : EndsNumber rest) :
    tokensFrom .between (prettyChars indent v ++ rest) =
      valueTokens v ++ tokensFrom .between rest := by
  induction hv generalizing indent rest with
  | null => rw [prettyChars]; rfl
  | bool b =>
    rw [prettyChars]
    exact tokensFrom_bool b rest
  | number hx =>
    rw [prettyChars]
    exact tokensFrom_number hx hrest
  | string s =>
    rw [prettyChars]
    exact tokensFrom_string s rest
  | @array n items _ ih =>
    cases items with
    | nil => rw [prettyChars]; rfl
    | cons item items =>
      obtain ⟨hitem, hitems⟩ := List.forall_mem_cons.1 ih
      obtain ⟨hends, htokens⟩ := tokensFrom_prettyItems (indent + 1)
        (fun item hmem rest hrest => hitems item hmem (indent + 1) hrest)
        (endsNumber_lineBreak indent (']' :: rest))
      have hopen : tokensFrom .between (prettyChars indent (.array (item :: items)) ++ rest) =
          .openBracket :: tokensFrom .between (lineBreak (indent + 1) ++
            (prettyChars (indent + 1) item ++ (prettyItems (indent + 1) items ++
              (lineBreak indent ++ ']' :: rest)))) := by
        rw [prettyChars, List.append_assoc, List.append_assoc, List.append_assoc,
          List.append_assoc]
        rfl
      have hclose : tokensFrom .between (']' :: rest) =
          .closeBracket :: tokensFrom .between rest := rfl
      rw [hopen, tokensFrom_lineBreak, hitem _ hends, htokens, tokensFrom_lineBreak, hclose,
        valueTokens]
      simp
  | @object n members _ ih =>
    cases members with
    | nil => rw [prettyChars]; rfl
    | cons member members =>
      obtain ⟨key, value⟩ := member
      obtain ⟨hmember, hmembers⟩ := List.forall_mem_cons.1 ih
      obtain ⟨hends, htokens⟩ := tokensFrom_prettyMembers (indent + 1)
        (fun member hmem rest hrest => hmembers member hmem (indent + 1) hrest)
        (endsNumber_lineBreak indent ('\x7d' :: rest))
      have hopen : tokensFrom .between
          (prettyChars indent (.object ((key, value) :: members)) ++ rest) =
          .openBrace :: tokensFrom .between (lineBreak (indent + 1) ++ (stringChars key ++
            ':' :: ' ' :: (prettyChars (indent + 1) value ++ (prettyMembers (indent + 1) members ++
              (lineBreak indent ++ '\x7d' :: rest))))) := by
        rw [prettyChars]
        simp only [List.cons_append, List.append_assoc, List.nil_append]
        rfl
      have hcolon (text : List Char) : tokensFrom .between (':' :: ' ' :: text) =
          .colon :: tokensFrom .between text := rfl
      have hclose : tokensFrom .between ('\x7d' :: rest) =
          .closeBrace :: tokensFrom .between rest := rfl
      rw [hopen, tokensFrom_lineBreak, tokensFrom_string, hcolon, hmember _ hends, htokens,
        tokensFrom_lineBreak, hclose, valueTokens]
      simp

/-- The tokens of a printed document. -/
theorem tokens_pretty (hv : v.Fits IsReread n) : tokens (v.pretty ++ "\n") = valueTokens v := by
  have hends : EndsNumber ['\n'] := endsNumber_lineBreak 0 []
  have hend : tokensFrom .between ['\n'] = [] := rfl
  have htext : (v.pretty ++ "\n").toList = prettyChars 0 v ++ ['\n'] := by
    simp [pretty]
  rw [tokens, htext, tokensFrom_prettyChars hv 0 hends, hend, List.append_nil]

end EntityPipeline.Json
