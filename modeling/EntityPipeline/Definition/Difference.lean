-- Whether an entity changed, judged on written definitions. Members that are null count as absent.
-- Fields and relationships are compared pairwise in order, access rules by the list that their kind
-- uses, and of the other members those that shape the generated code; all others only by number.
import EntityPipeline.Definition.Written

namespace EntityPipeline

namespace Json

/-- The members that are not null. -/
def presentMembers (members : List (String × Json)) : List (String × Json) :=
  members.filter fun (_, value) => !value.isNull

/-- The array under a key; anything else counts as empty. -/
def arrayUnder (key : String) (members : List (String × Json)) : List Json :=
  match members.lookup key with
  | some (.array items) => items
  | _ => []

/-- Whether two lists of members agree under a key. -/
def sameUnder (key : String) (first second : List (String × Json)) : Bool :=
  sameOption (first.lookup key) (second.lookup key)

/-- Whether two items agree: objects member by member, anything else as values. -/
def sameItem (first second : Json) : Bool :=
  match first, second with
  | .object a, .object b =>
    a.length == b.length &&
      a.all fun (key, value) => sameOption (b.lookup key) (some value)
  | _, _ => first.same second

/-- Whether the items of two lists agree pairwise, as far as both lists go. -/
def samePairwise (first second : List Json) : Bool :=
  (first.zip second).all fun (a, b) => sameItem a b

/-- The setting for metamodel filters, in which the word `no` means `false`. -/
def filtering (members : List (String × Json)) : Option Json :=
  match members.lookup "jpaMetamodelFiltering" with
  | some (.string "no") => some (.bool false)
  | other => other

/-- Whether the options that shape the generated code agree. -/
def sameOptions (first second : List (String × Json)) : Bool :=
  (["dto", "pagination", "service", "searchEngine"].all fun key => sameUnder key first second) &&
    sameOption (filtering first) (filtering second)

/-- Whether two lists of access rules agree entry by entry in their name and their list. What is
not a list agrees with everything. -/
def sameRules (name list : String) (first second : Option Json) : Bool :=
  match first, second with
  | some (.array first), some (.array second) =>
    first.length == second.length &&
      (first.zip second).all fun (a, b) =>
        sameOption (a.get? name) (b.get? name) && sameOption (a.get? list) (b.get? list)
  | _, _ => true

/-- Whether access rules agree. -/
def sameSecurity (first second : Option Json) : Bool :=
  match first, second with
  | some first, some second =>
    sameOption (first.get? "securityType") (second.get? "securityType") &&
      (if (first.get? "securityType").bind text? == some "roles" then
        sameRules "role" "actionList" (first.get? "roles") (second.get? "roles")
      else
        sameRules "action" "privList" (first.get? "customSecurity")
          (second.get? "customSecurity"))
  | none, none => true
  | _, _ => false

/-- Whether two written entities agree. -/
def sameEntity (first second : Json) : Bool :=
  match first, second with
  | .object first, .object second =>
    let a := presentMembers first
    let b := presentMembers second
    (arrayUnder "fields" a).length == (arrayUnder "fields" b).length &&
      (arrayUnder "relationships" a).length == (arrayUnder "relationships" b).length &&
      sameUnder "javadoc" a b && sameUnder "entityTableName" a b &&
      a.length == b.length &&
      (a.lookup "secure").isSome == (b.lookup "secure").isSome &&
      samePairwise (arrayUnder "fields" a) (arrayUnder "fields" b) &&
      samePairwise (arrayUnder "relationships" a) (arrayUnder "relationships" b) &&
      sameOptions a b && sameSecurity (a.lookup "secure") (b.lookup "secure")
  | _, _ => first.same second

end Json

/-- Whether two definitions agree as far as the generated code goes. -/
def EntityDefinition.agrees (first second : EntityDefinition) : Bool :=
  first.toJson.sameEntity second.toJson

end EntityPipeline
