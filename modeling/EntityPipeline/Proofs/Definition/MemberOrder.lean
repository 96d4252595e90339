-- Definitions from texts whose members stand in another order. No reader of a record sees the order
-- of members, and a definition is read only where the whole text has a value. So moving members
-- changes neither whether a definition is read nor which.
import EntityPipeline.Proofs.Definition.UnknownMembers
import EntityPipeline.Proofs.Json.Rearranged

namespace EntityPipeline

open Json

/-! ## What the fields of records are read with -/

section

variable {P : ∀ {α : Type}, Decoder α → Prop}

theorem FieldDefinition.all_schema (h : Decoder.Composes P) :
    FieldDefinition.schema.All P := by
  have htext : P Decoder.text.check := h.check h.text
  have hoptionalText : P Decoder.text.optional.check := h.check (h.optional h.text)
  have hoptionalValue : P Decoder.value.optional.check := h.check (h.optional h.value)
  exact .cons htext <| .cons htext <| .cons hoptionalText <| .cons hoptionalText <|
    .cons hoptionalText <| .cons (h.check (h.list h.text)) <| .cons hoptionalValue <|
    .cons hoptionalValue <| .cons hoptionalText <| .cons hoptionalValue <| .cons hoptionalValue <|
    .cons hoptionalValue <| .cons hoptionalValue <| .cons (h.check (h.optional h.bool)) .nil

theorem RelationshipDefinition.all_schema {origin : Origin} (h : Decoder.Composes P)
    (hcardinality : P (Cardinality.read origin)) :
    (RelationshipDefinition.schema origin).All P := by
  have hoptionalText : P Decoder.text.optional.check := h.check (h.optional h.text)
  have hoptionalBool : P Decoder.bool.optional.check := h.check (h.optional h.bool)
  exact .cons (h.check hcardinality) <| .cons hoptionalText <| .cons (h.check h.text) <|
    .cons hoptionalText <| .cons hoptionalText <| .cons hoptionalBool <|
    .cons (h.check (h.optional h.value)) <| .cons hoptionalText <| .cons hoptionalBool .nil

theorem EntityDefinition.all_schema {origin : Origin} (h : Decoder.Composes P)
    (hfield : P FieldDefinition.read) (hrelationship : P (RelationshipDefinition.read origin)) :
    (EntityDefinition.schema origin).All P := by
  have hoptionalText : P Decoder.text.optional.check := h.check (h.optional h.text)
  exact .cons (h.check h.text) <| .cons (h.check (h.list hfield)) <|
    .cons (h.check (h.list hrelationship)) <| .cons hoptionalText <| .cons hoptionalText <|
    .cons hoptionalText .nil

end

/-! ## Readers that do not see the order of members -/

theorem seesValue_readFlag : Decoder.SeesValue readFlag := fun _ _ h => by cases h.shape <;> rfl

theorem SearchEngine.seesValue_read : Decoder.SeesValue SearchEngine.read :=
  fun _ _ h => by cases h.shape <;> rfl

theorem seesValue_readRule {α : Type} (record first second : String)
    (build : String → List String → α) : (readRule record first second build).SeesValue := by
  have hlist := Decoder.seesValue_text.list
  intro d d' h
  cases h.shape with
  | same d => rfl
  | object hmembers =>
    have hschema : Schema.All Decoder.SeesValue
        [(first, Decoder.text.check), (second, (Decoder.list Decoder.text).check)] :=
      .cons Decoder.seesValue_text.check (.cons hlist.check .nil)
    exact toOption_bind_congr (hmembers.checkRecord hschema seesValue_skipUnknown) fun _ =>
      toOption_bind_congr (hmembers.required Decoder.seesValue_text first) fun _ =>
      toOption_bind_congr (hmembers.defaulted hlist second []) fun _ => rfl
  | array hitems =>
    -- a rule by position has one item or two; more are refused
    cases hitems with
    | nil => rfl
    | cons hname hrest =>
      cases hrest with
      | nil => exact toOption_bind_congr (Decoder.seesValue_text _ _ hname) fun _ => rfl
      | cons hsecond hmore =>
        refine toOption_bind_congr (Decoder.seesValue_text _ _ hname) fun _ =>
          toOption_bind_congr (hlist _ _ hsecond) fun _ => ?_
        cases hmore <;> rfl

theorem RoleRule.seesValue_read : RoleRule.read.SeesValue :=
  seesValue_readRule _ _ _ _

theorem PrivilegeRule.seesValue_read : PrivilegeRule.read.SeesValue :=
  seesValue_readRule _ _ _ _

theorem Security.seesValue_read : Decoder.SeesValue Security.read := by
  have hroles := RoleRule.seesValue_read.list
  have hprivileges := PrivilegeRule.seesValue_read.list
  have hschema : Security.schema.All Decoder.SeesValue :=
    .cons Decoder.seesValue_text.optional.check (.cons hroles.check (.cons hprivileges.check .nil))
  intro d d' h
  cases h.shape with
  | same d => rfl
  | array hitems => rfl
  | object hmembers =>
    exact toOption_bind_congr (hmembers.checkRecord hschema Decoder.seesValue_value.check) fun _ =>
      toOption_bind_congr (hmembers.optionalField Decoder.seesValue_text _) fun _ =>
      toOption_bind_congr (hmembers.defaulted hroles _ _) fun _ =>
      toOption_bind_congr (hmembers.defaulted hprivileges _ _) fun _ =>
      toOption_bind_congr (hmembers.extraMembers _) fun _ => rfl

theorem EntityOptions.seesValues_schema : EntityOptions.schema.All Decoder.SeesValue :=
  .cons (Decoder.seesValue_variant _).optional.check <|
  .cons (Decoder.seesValue_variant _).optional.check <|
  .cons (Decoder.seesValue_variant _).optional.check <|
  .cons seesValue_readFlag.optional.check <|
  .cons seesValue_readFlag.optional.check <|
  .cons seesValue_readFlag.optional.check <|
  .cons seesValue_readFlag.optional.check <|
  .cons SearchEngine.seesValue_read.optional.check <|
  .cons Decoder.seesValue_text.optional.check <|
  .cons Decoder.seesValue_text.optional.check <|
  .cons Decoder.seesValue_text.optional.check <|
  .cons seesValue_readFlag.optional.check <|
  .cons seesValue_readFlag.optional.check <|
  .cons Security.seesValue_read.optional.check .nil

theorem EntityOptions.toOption_ofMembers {members members' : List (String × Draft)}
    (h : Draft.MembersAlike members members') :
    (EntityOptions.ofMembers members).toOption = (EntityOptions.ofMembers members').toOption := by
  refine toOption_bind_congr (h.checkMembers seesValues_schema seesValue_skipUnknown) fun _ => ?_
  repeat' refine toOption_bind_congr ?_ fun _ => ?_
  all_goals first
    | exact h.optionalField (Decoder.seesValue_variant _) _
    | exact h.optionalField seesValue_readFlag _
    | exact h.optionalField SearchEngine.seesValue_read _
    | exact h.optionalField Decoder.seesValue_text _
    | exact h.optionalField Security.seesValue_read _
    | exact h.extraMembers _
    | rfl

theorem FieldDefinition.seesValue_read : Decoder.SeesValue FieldDefinition.read := by
  intro d d' h
  cases h.shape with
  | same d => rfl
  | array hitems => rfl
  | object hmembers =>
    refine toOption_bind_congr (hmembers.checkRecord (all_schema Decoder.composes_seesValue)
      Decoder.seesValue_value.check) fun _ => ?_
    repeat' refine toOption_bind_congr ?_ fun _ => ?_
    all_goals first
      | exact hmembers.required Decoder.seesValue_text _
      | exact hmembers.optionalField Decoder.seesValue_text _
      | exact hmembers.defaulted Decoder.seesValue_text.list _ _
      | exact hmembers.optionalField Decoder.seesValue_value _
      | exact hmembers.optionalField Decoder.seesValue_bool _
      | exact hmembers.extraMembers _
      | rfl

theorem Cardinality.seesValue_read (origin : Origin) : (Cardinality.read origin).SeesValue := by
  cases origin with
  | text => exact Decoder.seesValue_variantInText _
  | value => exact Decoder.seesValue_variant _

theorem RelationshipDefinition.seesValue_read (origin : Origin) :
    (RelationshipDefinition.read origin).SeesValue := by
  intro d d' h
  cases h.shape with
  | same d => rfl
  | array hitems => rfl
  | object hmembers =>
    have hschema : (schema origin).All Decoder.SeesValue :=
      all_schema Decoder.composes_seesValue (Cardinality.seesValue_read origin)
    refine toOption_bind_congr
      (hmembers.checkRecord hschema Decoder.seesValue_value.check) fun _ => ?_
    repeat' refine toOption_bind_congr ?_ fun _ => ?_
    all_goals first
      | exact hmembers.required (Cardinality.seesValue_read origin) _
      | exact hmembers.required Decoder.seesValue_text _
      | exact hmembers.optionalField Decoder.seesValue_text _
      | exact hmembers.optionalField Decoder.seesValue_bool _
      | exact hmembers.optionalField Decoder.seesValue_value _
      | exact hmembers.extraMembers _
      | rfl

/-- Definitions do not see the order of members, those of their options included. -/
theorem EntityDefinition.seesValue_read (origin : Origin) :
    (EntityDefinition.read origin).SeesValue := by
  intro d d' h
  cases h.shape with
  | same d => rfl
  | array hitems => rfl
  | object hmembers =>
    have hschema : (schema origin).All Decoder.SeesValue :=
      all_schema Decoder.composes_seesValue FieldDefinition.seesValue_read
        (RelationshipDefinition.seesValue_read origin)
    exact toOption_bind_congr
      (hmembers.checkRecord hschema Decoder.seesValue_value.check) fun _ =>
      toOption_bind_congr (hmembers.defaulted Decoder.seesValue_text _ _) fun _ =>
      toOption_bind_congr (hmembers.defaulted FieldDefinition.seesValue_read.list _ _) fun _ =>
      toOption_bind_congr
        (hmembers.defaulted (RelationshipDefinition.seesValue_read origin).list _ _) fun _ =>
      toOption_bind_congr (hmembers.optionalField Decoder.seesValue_text _) fun _ =>
      toOption_bind_congr (hmembers.optionalField Decoder.seesValue_text _) fun _ =>
      toOption_bind_congr (hmembers.optionalField Decoder.seesValue_text _) fun _ =>
      toOption_bind_congr
        (EntityOptions.toOption_ofMembers (hmembers.unknownMembers (schema origin))) fun _ => rfl

/-! ## Readers that take all of a draft -/

theorem FieldDefinition.takesValue_read : Decoder.TakesValue FieldDefinition.read := by
  intro d field h
  cases d with
  | object members ending =>
    obtain ⟨_, hcheck, -⟩ := bind_eq_ok.1 h
    exact exists_value_of_checkRecord (all_schema Decoder.composes_takesValue)
      Decoder.takesValue_value.check hcheck
  | _ => cases h

theorem RelationshipDefinition.takesValue_read :
    (RelationshipDefinition.read .text).TakesValue := by
  intro d relationship h
  cases d with
  | object members ending =>
    obtain ⟨_, hcheck, -⟩ := bind_eq_ok.1 h
    have hschema : (schema .text).All Decoder.TakesValue :=
      all_schema Decoder.composes_takesValue (Decoder.takesValue_variantInText _)
    exact exists_value_of_checkRecord hschema Decoder.takesValue_value.check hcheck
  | _ => cases h

/-- A text from which a definition is read has a value; a rule may skip members, but the entity
around it takes them first. -/
theorem EntityDefinition.takesValue_read : (EntityDefinition.read .text).TakesValue := by
  intro d definition h
  cases d with
  | object members ending =>
    obtain ⟨_, hcheck, -⟩ := bind_eq_ok.1 h
    have hschema : (schema .text).All Decoder.TakesValue :=
      all_schema Decoder.composes_takesValue FieldDefinition.takesValue_read
        RelationshipDefinition.takesValue_read
    exact exists_value_of_checkRecord hschema Decoder.takesValue_value.check hcheck
  | _ => cases h

/-! ## Texts whose members stand in another order -/

variable {tree tree' : Tree} {text text' : String}

theorem Snapshot.read_tree (h : tokens text = tree.tokens) :
    Snapshot.read text = EntityDefinition.read .text (tree.draft 0) := by
  unfold Snapshot.read Decoder.ofText
  rw [Document.ofText_tree h]
  dsimp only
  cases EntityDefinition.read .text (tree.draft 0) <;> rfl

/-- A definition that is read is read again after a move: the text has a value, and the two drafts
are of the same one. -/
theorem EntityDefinition.read_of_moved {definition : EntityDefinition} (h : tree.Moved tree')
    (hdistinct : tree.HasDistinctKeys)
    (hread : EntityDefinition.read .text (tree.draft 0) = .ok definition) :
    EntityDefinition.read .text (tree'.draft 0) = .ok definition := by
  obtain ⟨v, hv⟩ := takesValue_read _ _ hread
  have halike : (tree.draft 0).Alike (tree'.draft 0) :=
    ⟨hdistinct.draft 0, (h.hasDistinctKeys hdistinct).draft 0, v, hv, h.value hdistinct hv⟩
  have hsame := seesValue_read .text _ _ halike
  rw [hread] at hsame
  exact toOption_eq_some.1 hsame.symm

theorem EntityDefinition.read_of_moves (h : Relation.ReflTransGen Tree.Moved tree tree')
    (hdistinct : tree.HasDistinctKeys) : tree'.HasDistinctKeys ∧ ∀ definition,
      EntityDefinition.read .text (tree.draft 0) = .ok definition →
        EntityDefinition.read .text (tree'.draft 0) = .ok definition := by
  induction h with
  | refl => exact ⟨hdistinct, fun _ => id⟩
  | tail _ hmove ih =>
    exact ⟨hmove.hasDistinctKeys ih.1, fun definition hread =>
      read_of_moved hmove ih.1 (ih.2 definition hread)⟩

/-- Where no object has two members for one key, moving the members of any objects at any depth
changes neither whether a text is read as a definition nor as which, nor its snapshot. -/
theorem definitions_do_not_see_the_order_of_members (hdistinct : tree.HasDistinctKeys)
    (hmoved : Relation.ReflTransGen Tree.Moved tree tree') (htext : tokens text = tree.tokens)
    (htext' : tokens text' = tree'.tokens) :
    ((∃ e, Snapshot.read text = .error e) ∧ ∃ e, Snapshot.read text' = .error e) ∨
      ∃ definition snapshot, Snapshot.read text = .ok definition ∧
        Snapshot.read text' = .ok definition ∧
        (Snapshot.read text).map Snapshot.render = .ok snapshot ∧
        (Snapshot.read text').map Snapshot.render = .ok snapshot := by
  have hback : Relation.ReflTransGen Tree.Moved tree' tree := Std.Symm.symm _ _ hmoved
  obtain ⟨hdistinct', hforth⟩ := EntityDefinition.read_of_moves hmoved hdistinct
  rw [Snapshot.read_tree htext, Snapshot.read_tree htext']
  cases hfirst : EntityDefinition.read .text (tree.draft 0) with
  | ok definition =>
    rw [hforth definition hfirst]
    exact .inr ⟨definition, Snapshot.render definition, rfl, rfl, rfl, rfl⟩
  | error e =>
    cases hsecond : EntityDefinition.read .text (tree'.draft 0) with
    | error e' => exact .inl ⟨⟨e, rfl⟩, e', rfl⟩
    | ok definition =>
      -- what the second text gives, the first one would give as well
      have hread := (EntityDefinition.read_of_moves hback hdistinct').2 definition hsecond
      rw [hfirst] at hread
      cases hread

/-- A rule for readers. -/
def readerRule : List (Option String × Tree) :=
  [(some "role", .text (some "READER")), (some "actionList", .array [.text (some "read")])]

/-- Access rules with one rule for a role. -/
def guards (rule : Tree) : List (Option String × Tree) :=
  [(some "securityType", .text (some "roles")), (some "roles", .array [rule])]

/-- A book with access rules. -/
def guardedBook (secure : Tree) : List (Option String × Tree) :=
  [(some "name", .text (some "Book")), (some "secure", secure),
    (some "readOnly", .text (some "yes"))]

/-- The book as a tree. -/
def guardedTree : Tree := .object (guardedBook (.object (guards (.object readerRule))))

/-- The book with its members, those of its access rules and those of the rule turned around. -/
def turnedTree : Tree :=
  .object (guardedBook (.object (guards (.object readerRule.reverse)).reverse)).reverse

/-- A text of the book. -/
def guardedText : String :=
  "\x7b\"name\": \"Book\", \"secure\": \x7b\"securityType\": \"roles\", \"roles\":
    [\x7b\"role\": \"READER\", \"actionList\": [\"read\"]\x7d]\x7d, \"readOnly\": \"yes\"\x7d"

/-- A text of the book that is turned around. -/
def turnedText : String :=
  "\x7b\"readOnly\":\"yes\",\"secure\":\x7b\"roles\":[\x7b\"actionList\":[\"read\"],
    \"role\":\"READER\"\x7d],\"securityType\":\"roles\"\x7d,\"name\":\"Book\"\x7d"

theorem hasDistinctKeys_guardedTree : guardedTree.HasDistinctKeys := by
  refine .object (by decide) (List.forall_mem_cons.2 ⟨.text _, List.forall_mem_cons.2
    ⟨?_, List.forall_mem_singleton.2 (.text _)⟩⟩)
  refine .object (by decide) (List.forall_mem_cons.2 ⟨.text _, List.forall_mem_singleton.2
    (.array (List.forall_mem_singleton.2 ?_))⟩)
  exact .object (by decide) (List.forall_mem_cons.2 ⟨.text _, List.forall_mem_singleton.2
    (.array (List.forall_mem_singleton.2 (.text _)))⟩)

theorem moved_guardedTree : Relation.ReflTransGen Tree.Moved guardedTree turnedTree := by
  have hturn (members : List (Option String × Tree)) :
      Tree.Moved (.object members) (.object members.reverse) :=
    .members (List.reverse_perm members).symm
  have hguards {rule rule' : Tree} (h : rule.Moved rule') :
      Tree.Moved (.object (guards rule)) (.object (guards rule')) :=
    @Tree.Moved.member [(some "securityType", _)] [] _ _ _ (@Tree.Moved.item [] [] _ _ h)
  have hbook {secure secure' : Tree} (h : secure.Moved secure') :
      Tree.Moved (.object (guardedBook secure)) (.object (guardedBook secure')) :=
    @Tree.Moved.member [(some "name", _)] [(some "readOnly", _)] _ _ _ h
  exact ((Relation.ReflTransGen.single (hbook (hguards (hturn readerRule)))).tail
    (hbook (hturn _))).tail (hturn _)

theorem turned_text_is_the_same_book : guardedTree.HasDistinctKeys ∧
    Relation.ReflTransGen Tree.Moved guardedTree turnedTree ∧
    tokens guardedText = guardedTree.tokens ∧ tokens turnedText = turnedTree.tokens ∧
    ∃ definition, Snapshot.read guardedText = .ok definition ∧
      Snapshot.read turnedText = .ok definition := by
  have htext : tokens guardedText = guardedTree.tokens := by decide +kernel
  have htext' : tokens turnedText = turnedTree.tokens := by decide +kernel
  refine ⟨hasDistinctKeys_guardedTree, moved_guardedTree, htext, htext', ?_⟩
  obtain ⟨⟨e, he⟩, -⟩ | ⟨definition, -, hread, hread', -⟩ :=
    definitions_do_not_see_the_order_of_members hasDistinctKeys_guardedTree moved_guardedTree
      htext htext'
  · obtain ⟨definition, hread⟩ := exists_of_isOk (x := Snapshot.read guardedText)
      (by decide +kernel)
    rw [he] at hread
    cases hread
  · exact ⟨definition, hread, hread'⟩

end EntityPipeline
