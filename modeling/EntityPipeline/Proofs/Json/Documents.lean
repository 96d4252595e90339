-- Texts as documents. The printed text of a value whose numbers read back is read as a draft of the
-- value and nothing else. No text is read as a draft that nests deeper than the limit or holds other
-- numbers than the tokens of the text.
import EntityPipeline.Json.Decode
import EntityPipeline.Proofs.Json.Tokens
import EntityPipeline.Proofs.Json.Trees

namespace EntityPipeline.Json

/-! ## Drafts of printed values -/

namespace Tree

mutual

/-- A value as it is printed. -/
def ofJson : Json → Tree
  | .null => .null
  | .bool b => .bool b
  | .number x => .number (some x)
  | .string s => .text (some s)
  | .array items => .array (ofItems items)
  | .object members => .object (ofMembers members)

/-- Items as they are printed. -/
def ofItems : List Json → List Tree
  | [] => []
  | item :: rest => ofJson item :: ofItems rest

/-- Members as they are printed. -/
def ofMembers : List (String × Json) → List (Option String × Tree)
  | [] => []
  | (key, value) :: rest => (some key, ofJson value) :: ofMembers rest

end

variable {ok : Number → Prop} {v : Json} {n depth : Nat}

theorem itemTokens_ofItems {items : List Json}
    (h : ∀ item ∈ items, (ofJson item).tokens = valueTokens item) :
    Tree.itemTokens (ofItems items) = Json.itemTokens items := by
  induction items with
  | nil => rfl
  | cons item items ih =>
    obtain ⟨hitem, hitems⟩ := List.forall_mem_cons.1 h
    rw [ofItems, Tree.itemTokens, Json.itemTokens, hitem, ih hitems]

theorem memberTokens_ofMembers {members : List (String × Json)}
    (h : ∀ member ∈ members, (ofJson member.2).tokens = valueTokens member.2) :
    Tree.memberTokens (ofMembers members) = Json.memberTokens members := by
  induction members with
  | nil => rfl
  | cons member members ih =>
    obtain ⟨hmember, hmembers⟩ := List.forall_mem_cons.1 h
    rw [ofMembers, Tree.memberTokens, Json.memberTokens, hmember, ih hmembers]
    rfl

theorem tokens_ofJson (hv : v.Fits Number.ReadsBack n) : (ofJson v).tokens = valueTokens v := by
  induction hv with
  | null | bool => rw [ofJson, tokens, valueTokens]
  | string => rw [ofJson, tokens, valueTokens]; rfl
  | number hx =>
    rw [ofJson, tokens, valueTokens, numberToken_of_read hx]
    rfl
  | @array _ items _ ih =>
    cases items with
    | nil => rfl
    | cons item items =>
      obtain ⟨hitem, hitems⟩ := List.forall_mem_cons.1 ih
      rw [ofJson, ofItems, tokens, valueTokens, hitem, itemTokens_ofItems hitems]
  | @object _ members _ ih =>
    cases members with
    | nil => rfl
    | cons member members =>
      obtain ⟨hmember, hmembers⟩ := List.forall_mem_cons.1 ih
      rw [ofJson, ofMembers, tokens, valueTokens, hmember, memberTokens_ofMembers hmembers]
      rfl

theorem draftItems_ofItems {items : List Json}
    (h : ∀ item ∈ items, (ofJson item).draft depth = Draft.ofJson item) :
    draftItems depth (ofItems items) = Draft.ofItems items := by
  induction items with
  | nil => rfl
  | cons item items ih =>
    obtain ⟨hitem, hitems⟩ := List.forall_mem_cons.1 h
    rw [ofItems, draftItems, Draft.ofItems, hitem, ih hitems]

theorem draftMembers_ofMembers {members : List (String × Json)}
    (h : ∀ member ∈ members, (ofJson member.2).draft depth = Draft.ofJson member.2) :
    draftMembers depth (ofMembers members) = (Draft.ofMembers members, .closed) := by
  induction members with
  | nil => rfl
  | cons member members ih =>
    obtain ⟨hmember, hmembers⟩ := List.forall_mem_cons.1 h
    rw [ofMembers, draftMembers, Draft.ofMembers, hmember, ih hmembers]

/-- A printed value that nests no deeper than the limit is read as the value. -/
theorem draft_ofJson (hv : v.Fits ok n) (hdepth : depth + n ≤ Draft.depthLimit) :
    (ofJson v).draft depth = Draft.ofJson v := by
  induction hv generalizing depth with
  | null | bool => rw [ofJson, draft, Draft.ofJson]
  | number | string => rw [ofJson, draft, Draft.ofJson]; rfl
  | array _ ih =>
    have hlt : depth < Draft.depthLimit := by omega
    rw [ofJson, draft, Draft.ofJson, draftItems_ofItems fun item hin => ih item hin (by omega)]
    exact if_pos hlt
  | object _ ih =>
    have hlt : depth < Draft.depthLimit := by omega
    rw [ofJson, draft, Draft.ofJson, draftMembers_ofMembers fun m hin => ih m hin (by omega)]
    exact if_pos hlt

end Tree

/-- A printed value is read as a document that holds the value alone, if its numbers read back. -/
theorem Document.ofText_pretty {v : Json} (hv : v.Fits Number.ReadsBack Draft.depthLimit) :
    Document.ofText (v.pretty ++ "\n") = ⟨Draft.ofJson v, false⟩ := by
  have hreread := hv.imp fun x => isReread_of_readsBack
  have htokens := (tokens_pretty hreread).trans (Tree.tokens_ofJson hv).symm
  rw [Document.ofText_tree htokens, Tree.draft_ofJson hv (Nat.zero_add _).le]

/-! ## Drafts of any text -/

/-- A token whose number, if it is one, is `ok`. -/
def Token.Fits (ok : Number → Prop) : Token → Prop
  | .number x => ok x
  | _ => True

instance {ok : Number → Prop} [DecidablePred ok] (t : Token) : Decidable (t.Fits ok) :=
  match t with
  | .number x => inferInstanceAs (Decidable (ok x))
  | .null | .bool _ | .hugeNumber | .quoted _ | .openBracket | .closeBracket | .openBrace
  | .closeBrace | .colon | .comma | .fault _ => isTrue trivial

theorem fits_itemTokens {ok : Number → Prop} {items : List Json}
    (h : ∀ item ∈ items, ∀ t ∈ valueTokens item, t.Fits ok) : ∀ t ∈ itemTokens items, t.Fits ok := by
  induction items with
  | nil => exact List.forall_mem_nil _
  | cons item items ih =>
    obtain ⟨hitem, hitems⟩ := List.forall_mem_cons.1 h
    exact List.forall_mem_cons.2 ⟨trivial, List.forall_mem_append.2 ⟨hitem, ih hitems⟩⟩

theorem fits_memberTokens {ok : Number → Prop} {members : List (String × Json)}
    (h : ∀ member ∈ members, ∀ t ∈ valueTokens member.2, t.Fits ok) :
    ∀ t ∈ memberTokens members, t.Fits ok := by
  induction members with
  | nil => exact List.forall_mem_nil _
  | cons member members ih =>
    obtain ⟨hmember, hmembers⟩ := List.forall_mem_cons.1 h
    exact List.forall_mem_cons.2 ⟨trivial, List.forall_mem_cons.2 ⟨trivial,
      List.forall_mem_cons.2 ⟨trivial, List.forall_mem_append.2 ⟨hmember, ih hmembers⟩⟩⟩⟩

theorem fits_valueTokens {ok : Number → Prop} {v : Json} {n : Nat}
    (hv : v.Fits (fun x => ∃ y, Number.read x.chars = .read y ∧ ok y) n) :
    ∀ t ∈ valueTokens v, t.Fits ok := by
  have hsingle (t : Token) (h : t.Fits ok) : ∀ t' ∈ [t], t'.Fits ok :=
    List.forall_mem_singleton.2 h
  induction hv with
  | null => exact hsingle .null trivial
  | bool b => exact hsingle (.bool b) trivial
  | string s => exact hsingle (.quoted (.whole s)) trivial
  | number hx =>
    obtain ⟨y, hread, hy⟩ := hx
    rw [valueTokens, numberToken_of_read hread]
    exact hsingle (.number y) hy
  | @array _ items _ ih =>
    cases items with
    | nil => exact List.forall_mem_cons.2 ⟨trivial, hsingle .closeBracket trivial⟩
    | cons item items =>
      obtain ⟨hitem, hitems⟩ := List.forall_mem_cons.1 ih
      exact List.forall_mem_cons.2 ⟨trivial, List.forall_mem_append.2 ⟨List.forall_mem_append.2
        ⟨hitem, fits_itemTokens hitems⟩, hsingle .closeBracket trivial⟩⟩
  | @object _ members _ ih =>
    cases members with
    | nil => exact List.forall_mem_cons.2 ⟨trivial, hsingle .closeBrace trivial⟩
    | cons member members =>
      obtain ⟨hmember, hmembers⟩ := List.forall_mem_cons.1 ih
      exact List.forall_mem_cons.2 ⟨trivial, List.forall_mem_cons.2 ⟨trivial,
        List.forall_mem_cons.2 ⟨trivial, List.forall_mem_append.2 ⟨List.forall_mem_append.2
          ⟨hmember, fits_memberTokens hmembers⟩, hsingle .closeBrace trivial⟩⟩⟩⟩

/-- The numbers of a printed value are those that its numbers are read as. -/
theorem fits_tokens_pretty {ok : Number → Prop} {v : Json}
    (h : ∀ x ∈ v.numbers, ∃ y, Number.read x.chars = .read y ∧ ok y) :
    ∀ t ∈ tokens (v.pretty ++ "\n"), t.Fits ok := by
  have hv := fits_iff.2 ⟨Nat.le_refl v.nesting, h⟩
  have hreread : v.Fits IsReread v.nesting := hv.imp fun x hx => hx.imp fun y hy => hy.1
  rw [tokens_pretty hreread]
  exact fits_valueTokens hv

theorem Token.fits_true (t : Token) : t.Fits fun _ => True := by
  cases t <;> trivial

namespace Draft

variable {ok : Number → Prop} {fuel depth : Nat} {tokens : List Token} {d : Draft}

theorem fits_within (h : d.Fits ok (depthLimit - (depth + 1) + 1)) :
    (within depth d).Fits ok (depthLimit - depth) := by
  unfold within
  split
  · rename_i hlt
    have heq : depthLimit - (depth + 1) + 1 = depthLimit - depth := by omega
    exact heq ▸ h
  · exact .unreadable _

/-- What is read of tokens with numbers that are `ok` fits, and so does what is left of them. -/
structure ReadsFitting (ok : Number → Prop) (fuel : Nat) : Prop where
  value : ∀ depth tokens, (∀ t ∈ tokens, t.Fits ok) →
    (ofTokens fuel depth tokens).1.Fits ok (depthLimit - depth) ∧
      ∀ t ∈ (ofTokens fuel depth tokens).2, t.Fits ok
  items : ∀ depth tokens, (∀ t ∈ tokens, t.Fits ok) →
    (∀ d ∈ (itemsOfTokens fuel depth tokens).1, d.Fits ok (depthLimit - depth)) ∧
      ∀ t ∈ (itemsOfTokens fuel depth tokens).2.2, t.Fits ok
  members : ∀ depth tokens, (∀ t ∈ tokens, t.Fits ok) →
    (∀ m ∈ (membersOfTokens fuel depth tokens).1,
      m.2.Fits ok (depthLimit - depth)) ∧
      ∀ t ∈ (membersOfTokens fuel depth tokens).2.2, t.Fits ok
  after : ∀ depth tokens, (∀ t ∈ tokens, t.Fits ok) →
    (∀ m ∈ (afterMember fuel depth tokens).1, m.2.Fits ok (depthLimit - depth)) ∧
      ∀ t ∈ (afterMember fuel depth tokens).2.2, t.Fits ok

theorem readsFitting_zero : ReadsFitting ok 0 where
  value _ _ _ := by
    rw [ofTokens]
    exact ⟨.broken _, List.forall_mem_nil _⟩
  items _ _ _ := by
    rw [itemsOfTokens]
    exact ⟨List.forall_mem_nil _, List.forall_mem_nil _⟩
  members _ _ _ := by
    rw [membersOfTokens]
    exact ⟨List.forall_mem_nil _, List.forall_mem_nil _⟩
  after _ _ _ := by
    rw [afterMember]
    exact ⟨List.forall_mem_nil _, List.forall_mem_nil _⟩

theorem readsFitting_succ (ih : ReadsFitting ok fuel) : ReadsFitting ok (fuel + 1) where
  value depth tokens h := by
    cases tokens with
    | nil =>
      rw [ofTokens]
      exact ⟨.broken _, List.forall_mem_nil _⟩
    | cons token rest =>
      obtain ⟨htoken, hrest⟩ := List.forall_mem_cons.1 h
      unfold ofTokens
      split
      · exact ⟨.null, hrest⟩
      · exact ⟨.bool _, hrest⟩
      · exact ⟨.number htoken, hrest⟩
      · exact ⟨.unreadable _, hrest⟩
      · exact ⟨.text _, hrest⟩
      · exact ⟨.unreadable _, hrest⟩
      · exact ⟨.unreadable _, List.forall_mem_nil _⟩
      · exact ⟨.broken _, List.forall_mem_nil _⟩
      · exact ⟨.broken _, List.forall_mem_nil _⟩
      · split
        · exact ⟨fits_within (.array (List.forall_mem_nil _)), (List.forall_mem_cons.1 hrest).2⟩
        · obtain ⟨hitems, hafter⟩ := ih.items (depth + 1) rest hrest
          exact ⟨fits_within (.array hitems), hafter⟩
      · split
        · exact ⟨fits_within (.object (List.forall_mem_nil _)), (List.forall_mem_cons.1 hrest).2⟩
        · obtain ⟨hmembers, hafter⟩ := ih.members (depth + 1) rest hrest
          exact ⟨fits_within (.object hmembers), hafter⟩
      · exact ⟨.broken _, List.forall_mem_nil _⟩
  items depth tokens h := by
    obtain ⟨hitem, hrest⟩ := ih.value depth tokens h
    rw [itemsOfTokens]
    generalize ofTokens fuel depth tokens = first at hitem hrest
    obtain ⟨item, rest⟩ := first
    have hsingle : ∀ d ∈ [item], d.Fits ok (depthLimit - depth) := by simpa using hitem
    dsimp only at hrest ⊢
    split
    · exact ⟨hsingle, fun t ht => hrest t (List.mem_cons_of_mem _ ht)⟩
    · exact ⟨hsingle, List.forall_mem_nil _⟩
    · obtain ⟨hitems, hafter⟩ := ih.items depth _ fun t ht => hrest t (List.mem_cons_of_mem _ ht)
      exact ⟨List.forall_mem_cons.2 ⟨hitem, hitems⟩, hafter⟩
    · exact ⟨hsingle, List.forall_mem_nil _⟩
    · exact ⟨hsingle, List.forall_mem_nil _⟩
  members depth tokens h := by
    unfold membersOfTokens
    split
    · exact ⟨List.forall_mem_nil _, List.forall_mem_nil _⟩
    · exact ⟨List.forall_mem_nil _, List.forall_mem_nil _⟩
    · rename_i depth _ _ _ _ _ rest hfuel
      obtain rfl := Nat.succ.inj hfuel
      have hrest := (List.forall_mem_cons.1 (List.forall_mem_cons.1 h).2).2
      obtain ⟨hvalue, hrest⟩ := ih.value depth rest hrest
      obtain ⟨hmembers, hafter⟩ := ih.after depth _ hrest
      exact ⟨List.forall_mem_cons.2 ⟨hvalue, hmembers⟩, hafter⟩
    · rename_i depth _ _ _ _ rest hfuel
      obtain rfl := Nat.succ.inj hfuel
      have hrest := (List.forall_mem_cons.1 (List.forall_mem_cons.1 h).2).2
      exact ⟨List.forall_mem_nil _, (ih.after depth _ (ih.value depth rest hrest).2).2⟩
    all_goals exact ⟨List.forall_mem_nil _, List.forall_mem_nil _⟩
  after depth tokens h := by
    unfold afterMember
    split
    · exact ⟨List.forall_mem_nil _, fun t ht => h t (List.mem_cons_of_mem _ ht)⟩
    · exact ih.members depth _ fun t ht => h t (List.mem_cons_of_mem _ ht)
    · exact ⟨List.forall_mem_nil _, List.forall_mem_nil _⟩
    · exact ⟨List.forall_mem_nil _, List.forall_mem_nil _⟩

theorem readsFitting (ok : Number → Prop) (fuel : Nat) : ReadsFitting ok fuel := by
  induction fuel with
  | zero => exact readsFitting_zero
  | succ fuel ih => exact readsFitting_succ ih

end Draft

/-- A text is read as a draft which nests no deeper than the limit and has only numbers of the text. -/
theorem Document.fits_ofText {ok : Number → Prop} {text : String}
    (h : ∀ t ∈ tokens text, t.Fits ok) :
    (Document.ofText text).root.Fits ok Draft.depthLimit :=
  ((Draft.readsFitting ok _).value 0 (tokens text) h).1

/-- What is read from a text is read from its draft. -/
theorem Decoder.read_of_ofText {α : Type} {read : Decoder α} {text : String} {a : α}
    (h : read.ofText text = .ok a) : read (Document.ofText text).root = .ok a := by
  unfold Decoder.ofText at h
  extract_lets document at h
  split at h
  · cases h
  · rename_i hread
    split at h
    · cases h
    · exact Except.ok.inj h ▸ hread

theorem value_of_parse {text : String} {v : Json} (h : parse text = .ok v) :
    (Document.ofText text).root.value = .ok v := by
  unfold parse at h
  extract_lets document at h
  split at h
  · cases h
  · rename_i hvalue
    split at h
    · cases h
    · exact Except.ok.inj h ▸ hvalue

/-- The value of a text is sorted, nests no deeper than the limit and has only numbers of the text. -/
theorem fits_of_parse {ok : Number → Prop} {text : String} {v : Json}
    (hnumbers : ∀ t ∈ tokens text, t.Fits ok) (h : parse text = .ok v) :
    v.IsSorted ∧ v.Fits ok Draft.depthLimit :=
  (Document.fits_ofText hnumbers).value (value_of_parse h)

end EntityPipeline.Json
