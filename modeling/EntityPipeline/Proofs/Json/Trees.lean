-- Texts as trees. The tokens of a tree are read as its draft, whatever follows them, and the draft
-- is at no fault; what cannot be taken is unreadable: a number that is too large, a text with half of
-- a surrogate pair, and what nests deeper than the limit.
import EntityPipeline.Json.Draft
import EntityPipeline.Proofs.Json.Values

namespace EntityPipeline.Json

/-- A value as it is written in a text, with every member in its place. A number may be too large
and a text may hold half of a surrogate pair; then they have no value of their own. -/
inductive Tree where
  | null
  | bool (value : Bool)
  | number (value : Option Number)
  | text (value : Option String)
  | array (items : List Tree)
  | object (members : List (Option String × Tree))

namespace Tree

/-- What holds of the items and members of each container and of all other trees holds of every
tree. -/
@[elab_as_elim]
theorem induction {P : Tree → Prop} (null : P .null) (bool : ∀ b, P (.bool b))
    (number : ∀ x, P (.number x)) (text : ∀ s, P (.text s))
    (array : ∀ items, (∀ item ∈ items, P item) → P (.array items))
    (object : ∀ members, (∀ member ∈ members, P member.2) → P (.object members)) (t : Tree) : P t :=
  @Tree.rec P (fun items => ∀ item ∈ items, P item)
    (fun members => ∀ member ∈ members, P member.2) (fun member => P member.2)
    null bool number text array object
    nofun (fun _ _ hitem hrest => List.forall_mem_cons.2 ⟨hitem, hrest⟩)
    nofun (fun _ _ hmember hrest => List.forall_mem_cons.2 ⟨hmember, hrest⟩)
    (fun _ _ hvalue => hvalue) t

/-! ## Tokens and drafts -/

/-- The token of a text between quotation marks. -/
def quoted (text : Option String) : Token := .quoted (text.elim .unpaired .whole)

mutual

/-- The tokens of a tree. -/
def tokens : Tree → List Token
  | .null => [.null]
  | .bool b => [.bool b]
  | .number x => [x.elim .hugeNumber .number]
  | .text s => [quoted s]
  | .array [] => [.openBracket, .closeBracket]
  | .array (item :: rest) => .openBracket :: (tokens item ++ itemTokens rest ++ [.closeBracket])
  | .object [] => [.openBrace, .closeBrace]
  | .object ((key, value) :: rest) =>
    .openBrace :: quoted key :: .colon :: (tokens value ++ memberTokens rest ++ [.closeBrace])

/-- The tokens of the items after the first. -/
def itemTokens : List Tree → List Token
  | [] => []
  | item :: rest => .comma :: (tokens item ++ itemTokens rest)

/-- The tokens of the members after the first. -/
def memberTokens : List (Option String × Tree) → List Token
  | [] => []
  | (key, value) :: rest => .comma :: quoted key :: .colon :: (tokens value ++ memberTokens rest)

end

mutual

/-- What is read of a tree inside `depth` containers. -/
def draft (depth : Nat) : Tree → Draft
  | .null => .null
  | .bool b => .bool b
  | .number x => x.elim (.unreadable none) .number
  | .text s => s.elim (.unreadable none) .text
  | .array items => .within depth (.array (draftItems (depth + 1) items) .closed)
  | .object members =>
    .within depth
      (.object (draftMembers (depth + 1) members).1 (draftMembers (depth + 1) members).2)

/-- What is read of the items of an array. -/
def draftItems (depth : Nat) : List Tree → List Draft
  | [] => []
  | item :: rest => draft depth item :: draftItems depth rest

/-- What is read of the members of an object. Behind a key that is no text nothing can be taken. -/
def draftMembers (depth : Nat) : List (Option String × Tree) → List (String × Draft) × Ending
  | [] => ([], .closed)
  | (some key, value) :: rest =>
    ((key, draft depth value) :: (draftMembers depth rest).1, (draftMembers depth rest).2)
  | (none, _) :: _ => ([], .unreadable none)

end

variable {t : Tree} {items : List Tree} {key : Option String}
  {members : List (Option String × Tree)} {depth fuel : Nat} {rest : List Token}

theorem draftItems_eq_map : draftItems depth items = items.map (draft depth) := by
  induction items with
  | nil => rfl
  | cons item items ih => rw [draftItems, ih, List.map_cons]

/-! ## No faults -/

theorem hardFault_within {d : Draft} : (Draft.within depth d).hardFault = d.hardFault := by
  unfold Draft.within
  split
  · rfl
  · rw [Draft.tooDeep, Draft.hardFault]

theorem hardFaultItems_eq_none {items : List Draft} :
    Draft.hardFaultItems items = none ↔ ∀ item ∈ items, item.hardFault = none := by
  induction items with
  | nil => simp [Draft.hardFaultItems]
  | cons item items ih =>
    rw [Draft.hardFaultItems, List.forall_mem_cons, ← ih]
    cases item.hardFault <;> simp

theorem hardFaultMembers_eq_none {members : List (String × Draft)} :
    Draft.hardFaultMembers members = none ↔ ∀ member ∈ members, member.2.hardFault = none := by
  induction members with
  | nil => simp [Draft.hardFaultMembers]
  | cons member members ih =>
    rw [Draft.hardFaultMembers, List.forall_mem_cons, ← ih]
    cases member.2.hardFault <;> simp

/-- A key that is no text stops nobody who skips the object. -/
theorem hardFault_draftMembers (h : ∀ member ∈ members, (member.2.draft depth).hardFault = none) :
    Draft.hardFaultMembers (draftMembers depth members).1 = none ∧
      (draftMembers depth members).2.hardFault = none := by
  induction members with
  | nil => exact ⟨rfl, rfl⟩
  | cons member members ih =>
    obtain ⟨key, value⟩ := member
    obtain ⟨hvalue, hmembers⟩ := List.forall_mem_cons.1 h
    cases key with
    | none => exact ⟨rfl, rfl⟩
    | some key =>
      obtain ⟨hdrafts, hending⟩ := ih hmembers
      rw [draftMembers, Draft.hardFaultMembers, hvalue]
      exact ⟨hdrafts, hending⟩

/-- The draft of a tree can be skipped. -/
theorem hardFault_draft (t : Tree) (depth : Nat) : (t.draft depth).hardFault = none := by
  induction t using induction generalizing depth with
  | null | bool => rfl
  | number x | text x => cases x <;> rfl
  | array items ih =>
    rw [draft, hardFault_within, Draft.hardFault, draftItems_eq_map,
      hardFaultItems_eq_none.2 (List.forall_mem_map.2 fun item hin => ih item hin _)]
    rfl
  | object members ih =>
    obtain ⟨hmembers, hending⟩ := hardFault_draftMembers fun member hin => ih member hin (depth + 1)
    rw [draft, hardFault_within, Draft.hardFault, hmembers, hending]
    rfl

/-! ## Reading -/

theorem exists_tokens_cons (t : Tree) :
    ∃ first rest, t.tokens = first :: rest ∧ first ≠ .closeBracket ∧ first ≠ .closeBrace := by
  unfold tokens
  split
  case h_3 x => cases x <;> exact ⟨_, _, rfl, nofun, nofun⟩
  all_goals exact ⟨_, _, rfl, nofun, nofun⟩

end Tree

namespace Draft

open Json.Tree (quoted itemTokens memberTokens draftItems draftMembers)

variable {t : Tree} {items : List Tree} {key : Option String}
  {members : List (Option String × Tree)} {depth fuel : Nat} {rest tokens : List Token}

theorem ofTokens_openBracket (h : ∀ after, rest ≠ .closeBracket :: after) :
    ofTokens (fuel + 1) depth (.openBracket :: rest) =
      (within depth (.array (itemsOfTokens fuel (depth + 1) rest).1
        (itemsOfTokens fuel (depth + 1) rest).2.1),
        (itemsOfTokens fuel (depth + 1) rest).2.2) := by
  rw [ofTokens]
  exact h

theorem ofTokens_openBrace (h : ∀ after, rest ≠ .closeBrace :: after) :
    ofTokens (fuel + 1) depth (.openBrace :: rest) =
      (within depth (.object (membersOfTokens fuel (depth + 1) rest).1
        (membersOfTokens fuel (depth + 1) rest).2.1),
        (membersOfTokens fuel (depth + 1) rest).2.2) := by
  rw [ofTokens]
  exact h

theorem itemsOfTokens_last {item : Draft}
    (h : ofTokens fuel depth tokens = (item, .closeBracket :: rest)) :
    itemsOfTokens (fuel + 1) depth tokens = ([item], .closed, rest) := by
  rw [itemsOfTokens, h]

theorem itemsOfTokens_comma {item : Draft} {token : Token} (htoken : token ≠ .closeBracket)
    (h : ofTokens fuel depth tokens = (item, .comma :: token :: rest)) :
    itemsOfTokens (fuel + 1) depth tokens =
      (item :: (itemsOfTokens fuel depth (token :: rest)).1,
        (itemsOfTokens fuel depth (token :: rest)).2) := by
  rw [itemsOfTokens, h]
  cases token with
  | closeBracket => exact absurd rfl htoken
  | _ => rfl

theorem afterMember_closeBrace :
    afterMember (fuel + 1) depth (.closeBrace :: rest) = ([], .closed, rest) := by
  rw [afterMember]

theorem afterMember_comma :
    afterMember (fuel + 1) depth (.comma :: rest) = membersOfTokens fuel depth rest := by
  rw [afterMember]

/-- A tree whose tokens are read as its draft by everyone who has two steps for each of them. -/
def Reads (depth : Nat) (t : Tree) : Prop :=
  ∀ fuel rest, 2 * t.tokens.length ≤ fuel →
    ofTokens fuel depth (t.tokens ++ rest) = (t.draft depth, rest)

/-- Items are read one after the other. -/
theorem itemsOfTokens_tokens {item : Tree} (h : ∀ t ∈ item :: items, Reads depth t)
    (hfuel : 2 * (item.tokens.length + (itemTokens items).length) < fuel) :
    itemsOfTokens fuel depth (item.tokens ++ (itemTokens items ++ .closeBracket :: rest)) =
      (draftItems depth (item :: items), .closed, rest) := by
  induction items generalizing item fuel with
  | nil =>
    obtain ⟨fuel, rfl⟩ := Nat.exists_eq_succ_of_ne_zero (Nat.ne_zero_of_lt hfuel)
    have hitem := h item List.mem_cons_self fuel (.closeBracket :: rest) (by omega)
    exact itemsOfTokens_last hitem
  | cons next items ih =>
    obtain ⟨fuel, rfl⟩ := Nat.exists_eq_succ_of_ne_zero (Nat.ne_zero_of_lt hfuel)
    rw [itemTokens, List.length_cons, List.length_append] at hfuel
    obtain ⟨first, others, hnext, hfirst, -⟩ := next.exists_tokens_cons
    have hitem := h item List.mem_cons_self fuel
      (.comma :: (next.tokens ++ (itemTokens items ++ .closeBracket :: rest))) (by omega)
    have hrest : 2 * (next.tokens.length + (itemTokens items).length) < fuel := by omega
    have hitems := ih (fun t ht => h t (List.mem_cons_of_mem _ ht)) hrest
    rw [itemTokens, List.cons_append, List.append_assoc]
    rw [hnext, List.cons_append] at hitem hitems ⊢
    rw [itemsOfTokens_comma hfirst hitem, hitems]
    rfl

/-- A member is read with the members that follow it. -/
theorem membersOfTokens_member (hvalue : ofTokens fuel depth tokens = (t.draft depth, rest))
    {after : List Token} (hmembers : afterMember fuel depth rest =
      ((draftMembers depth members).1, (draftMembers depth members).2, after)) :
    membersOfTokens (fuel + 1) depth (quoted key :: .colon :: tokens) =
      ((draftMembers depth ((key, t) :: members)).1,
        (draftMembers depth ((key, t) :: members)).2, after) := by
  cases key with
  | some key =>
    show membersOfTokens (fuel + 1) depth (.quoted (.whole key) :: .colon :: tokens) = _
    rw [membersOfTokens, hvalue]
    dsimp only
    rw [hmembers, draftMembers]
  | none =>
    -- what follows is skipped, and there is no fault in it
    have hfaultless : ∀ member ∈ members, (member.2.draft depth).hardFault = none :=
      fun member _ => member.2.hardFault_draft depth
    obtain ⟨hdrafts, hending⟩ := Tree.hardFault_draftMembers hfaultless
    show membersOfTokens (fuel + 1) depth (.quoted .unpaired :: .colon :: tokens) = _
    rw [membersOfTokens, hvalue]
    dsimp only
    rw [hmembers, hardFaultMembers, Tree.hardFault_draft, hdrafts, hending, draftMembers]
    rfl

/-- Members are read one after the other. -/
theorem afterMember_tokens (h : ∀ member ∈ members, Reads depth member.2)
    (hfuel : 2 * (memberTokens members).length < fuel) :
    afterMember fuel depth (memberTokens members ++ .closeBrace :: rest) =
      ((draftMembers depth members).1, (draftMembers depth members).2, rest) := by
  induction members generalizing fuel with
  | nil =>
    obtain ⟨fuel, rfl⟩ := Nat.exists_eq_succ_of_ne_zero (Nat.ne_zero_of_lt hfuel)
    exact afterMember_closeBrace
  | cons member members ih =>
    obtain ⟨key, value⟩ := member
    obtain ⟨hvalue, hmembers⟩ := List.forall_mem_cons.1 h
    rw [memberTokens] at hfuel
    simp only [List.length_cons, List.length_append] at hfuel
    obtain ⟨fuel, rfl⟩ : ∃ k, fuel = k + 2 := ⟨fuel - 2, by omega⟩
    rw [memberTokens]
    simp only [List.cons_append, List.append_assoc]
    rw [afterMember_comma]
    exact membersOfTokens_member (hvalue fuel _ (by dsimp only; omega)) (ih hmembers (by omega))

/-- The tokens of a tree are read as its draft, whatever follows them. -/
theorem ofTokens_tokens (t : Tree) (depth : Nat) : Reads depth t := by
  induction t using Tree.induction generalizing depth with
  | null | bool | number x | text x =>
    intro fuel rest hfuel
    obtain ⟨fuel, rfl⟩ : ∃ k, fuel = k + 1 := ⟨fuel - 1, by simp [Tree.tokens] at hfuel; omega⟩
    try cases x
    all_goals simp [Tree.tokens, Tree.draft, ofTokens, quoted]
  | array items ih =>
    intro fuel rest hfuel
    cases items with
    | nil =>
      obtain ⟨fuel, rfl⟩ : ∃ k, fuel = k + 1 := ⟨fuel - 1, by simp [Tree.tokens] at hfuel; omega⟩
      simp [Tree.tokens, Tree.draft, ofTokens, draftItems]
    | cons item items =>
      rw [Tree.tokens] at hfuel
      simp only [List.length_cons, List.length_append, List.length_nil] at hfuel
      obtain ⟨fuel, rfl⟩ : ∃ k, fuel = k + 1 := ⟨fuel - 1, by omega⟩
      have hitems : itemsOfTokens fuel (depth + 1)
          (item.tokens ++ (itemTokens items ++ .closeBracket :: rest)) =
            (draftItems (depth + 1) (item :: items), .closed, rest) :=
        itemsOfTokens_tokens (fun t ht => ih t ht (depth + 1)) (by omega)
      obtain ⟨first, others, hfirst, hne, -⟩ := item.exists_tokens_cons
      rw [Tree.tokens]
      simp only [List.cons_append, List.append_assoc, List.nil_append]
      rw [ofTokens_openBracket, hitems, Tree.draft]
      rw [hfirst]
      exact fun after h => hne (List.cons.inj h).1
  | object members ih =>
    intro fuel rest hfuel
    cases members with
    | nil =>
      obtain ⟨fuel, rfl⟩ : ∃ k, fuel = k + 1 := ⟨fuel - 1, by simp [Tree.tokens] at hfuel; omega⟩
      simp [Tree.tokens, Tree.draft, ofTokens, draftMembers]
    | cons member members =>
      obtain ⟨key, value⟩ := member
      obtain ⟨hvalue, hmembers⟩ := List.forall_mem_cons.1 ih
      rw [Tree.tokens] at hfuel
      simp only [List.length_cons, List.length_append, List.length_nil] at hfuel
      obtain ⟨fuel, rfl⟩ : ∃ k, fuel = k + 2 := ⟨fuel - 2, by omega⟩
      have hafter : afterMember fuel (depth + 1) (memberTokens members ++ .closeBrace :: rest) =
          ((draftMembers (depth + 1) members).1, (draftMembers (depth + 1) members).2, rest) :=
        afterMember_tokens (fun m hm => hmembers m hm (depth + 1)) (by omega)
      have hread : membersOfTokens (fuel + 1) (depth + 1) (quoted key :: .colon ::
          (value.tokens ++ (memberTokens members ++ .closeBrace :: rest))) =
            ((draftMembers (depth + 1) ((key, value) :: members)).1,
              (draftMembers (depth + 1) ((key, value) :: members)).2, rest) :=
        membersOfTokens_member (hvalue (depth + 1) fuel _ (by dsimp only; omega)) hafter
      rw [Tree.tokens]
      simp only [List.cons_append, List.append_assoc, List.nil_append]
      rw [ofTokens_openBrace (by simp [quoted]), hread, Tree.draft]

end Draft

/-- A text that is written as a tree is read as a document that holds its draft alone. -/
theorem Document.ofText_tree {text : String} {t : Tree} (h : Json.tokens text = t.tokens) :
    Document.ofText text = ⟨t.draft 0, false⟩ := by
  have hread := Draft.ofTokens_tokens t 0 (2 * t.tokens.length + 2) [] (by omega)
  rw [List.append_nil] at hread
  unfold Document.ofText
  simp only [h, hread]
  rfl

end EntityPipeline.Json
