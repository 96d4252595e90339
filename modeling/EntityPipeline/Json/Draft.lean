-- A JSON text as a tree in document order, with every member it writes, as far as it can be read.
-- A tree ends where the text is at fault, so that whoever walks it in document order meets what the
-- text holds before the fault, then the fault. A value that may be skipped but not taken is
-- `unreadable`; containers nested more than 127 deep are. A first key
-- `$serde_json::private::RawValue`, by which the reader hands the text of a value on to itself, is
-- taken as any other key here.
import EntityPipeline.Json.Token
import EntityPipeline.Json.Value

namespace EntityPipeline.Json

/-- How a container ends. -/
inductive Ending where
  | closed
  | broken (fault : Fault)
  | unreadable (fault : Option Fault)
deriving DecidableEq, Repr, Inhabited

/-- A value of a text in document order. -/
inductive Draft where
  | null
  | bool (value : Bool)
  | number (value : Number)
  | text (value : String)
  | array (items : List Draft) (ending : Ending)
  | object (members : List (String × Draft)) (ending : Ending)
  | unreadable (fault : Option Fault)
  | broken (fault : Fault)
deriving Repr, Inhabited

namespace Ending

/-- The fault that stops even a reader who skips the container. -/
def hardFault : Ending → Option Fault
  | .closed => none
  | .broken f => some f
  | .unreadable f => f

/-- The fault that stops a reader who takes the container. -/
def fault : Ending → Option Fault
  | .closed => none
  | .broken f => some f
  | .unreadable _ => some .malformed

end Ending

namespace Draft

/-! ## Faults and values -/

mutual

/-- The fault that stops even a reader who skips the value. -/
def hardFault : Draft → Option Fault
  | .array items ending => (hardFaultItems items).orElse fun _ => ending.hardFault
  | .object members ending => (hardFaultMembers members).orElse fun _ => ending.hardFault
  | .unreadable f => f
  | .broken f => some f
  | _ => none

/-- The first such fault in a list of values. -/
def hardFaultItems : List Draft → Option Fault
  | [] => none
  | item :: rest => (hardFault item).orElse fun _ => hardFaultItems rest

/-- The first such fault in a list of members. -/
def hardFaultMembers : List (String × Draft) → Option Fault
  | [] => none
  | (_, value) :: rest => (hardFault value).orElse fun _ => hardFaultMembers rest

end

/-- A container inside which nothing is taken. -/
def tooDeep (d : Draft) : Draft := .unreadable d.hardFault

mutual

/-- The sorted value of a draft, or the first fault on the way through it. -/
def value : Draft → Except Fault Json
  | .null => .ok .null
  | .bool b => .ok (.bool b)
  | .number n => .ok (.number n)
  | .text s => .ok (.string s)
  | .array items ending =>
    match valueItems items with
    | .error f => .error f
    | .ok values =>
      match ending.fault with
      | some f => .error f
      | none => .ok (.array values)
  | .object members ending =>
    match valueMembers members with
    | .error f => .error f
    | .ok values =>
      match ending.fault with
      | some f => .error f
      | none => .ok (.ofMembers values)
  | .unreadable _ => .error .malformed
  | .broken f => .error f

/-- The values of the items of an array. -/
def valueItems : List Draft → Except Fault (List Json)
  | [] => .ok []
  | item :: rest =>
    match value item with
    | .error f => .error f
    | .ok v =>
      match valueItems rest with
      | .error f => .error f
      | .ok vs => .ok (v :: vs)

/-- The values of the members of an object, in document order. -/
def valueMembers : List (String × Draft) → Except Fault (List (String × Json))
  | [] => .ok []
  | (key, item) :: rest =>
    match value item with
    | .error f => .error f
    | .ok v =>
      match valueMembers rest with
      | .error f => .error f
      | .ok vs => .ok ((key, v) :: vs)

end

mutual

/-- A value as a draft without faults. -/
def ofJson : Json → Draft
  | .null => .null
  | .bool b => .bool b
  | .number n => .number n
  | .string s => .text s
  | .array items => .array (ofItems items) .closed
  | .object members => .object (ofMembers members) .closed

/-- Items as drafts. -/
def ofItems : List Json → List Draft
  | [] => []
  | item :: rest => ofJson item :: ofItems rest

/-- Members as drafts. -/
def ofMembers : List (String × Json) → List (String × Draft)
  | [] => []
  | (key, value) :: rest => (key, ofJson value) :: ofMembers rest

end

/-! ## Reading tokens -/

/-- How many containers may be open at a time. -/
def depthLimit : Nat := 127

/-- A container that is opened inside `depth` others. -/
def within (depth : Nat) (d : Draft) : Draft := if depth < depthLimit then d else d.tooDeep

/-- What is wrong where the value of a member or the colon before it is wanted. -/
def missingValue (tokens : List Token) : Fault :=
  if tokens.isEmpty then .truncated else .malformed

mutual

/-- The value at the front of the tokens, inside `depth` containers, and the tokens after it. -/
def ofTokens : Nat → Nat → List Token → Draft × List Token
  | 0, _, _ => (.broken .truncated, [])
  | _ + 1, _, [] => (.broken .truncated, [])
  | fuel + 1, depth, token :: rest =>
    match token with
    | .null => (.null, rest)
    | .bool b => (.bool b, rest)
    | .number n => (.number n, rest)
    | .hugeNumber => (.unreadable none, rest)
    | .quoted (.whole s) => (.text s, rest)
    | .quoted .unpaired => (.unreadable none, rest)
    | .quoted (.cut true f) => (.unreadable (some f), [])
    | .quoted (.cut false f) => (.broken f, [])
    | .fault f => (.broken f, [])
    | .openBracket =>
      match rest with
      | .closeBracket :: rest => (within depth (.array [] .closed), rest)
      | rest =>
        let (items, ending, rest) := itemsOfTokens fuel (depth + 1) rest
        (within depth (.array items ending), rest)
    | .openBrace =>
      match rest with
      | .closeBrace :: rest => (within depth (.object [] .closed), rest)
      | rest =>
        let (members, ending, rest) := membersOfTokens fuel (depth + 1) rest
        (within depth (.object members ending), rest)
    | _ => (.broken .malformed, [])

/-- The items at the front of the tokens up to the end of the array. -/
def itemsOfTokens : Nat → Nat → List Token → List Draft × Ending × List Token
  | 0, _, _ => ([], .broken .truncated, [])
  | fuel + 1, depth, tokens =>
    let (item, rest) := ofTokens fuel depth tokens
    match rest with
    | .closeBracket :: rest => ([item], .closed, rest)
    | .comma :: .closeBracket :: _ => ([item], .broken .malformed, [])
    | .comma :: rest =>
      let (items, ending, rest) := itemsOfTokens fuel depth rest
      (item :: items, ending, rest)
    | [] => ([item], .broken .truncated, [])
    | _ => ([item], .broken .malformed, [])

/-- The members at the front of the tokens up to the end of the object. -/
def membersOfTokens : Nat → Nat → List Token → List (String × Draft) × Ending × List Token
  | 0, _, _ => ([], .broken .truncated, [])
  | _ + 1, _, [] => ([], .broken .truncated, [])
  | fuel + 1, depth, .quoted (.whole key) :: .colon :: rest =>
    let (value, rest) := ofTokens fuel depth rest
    let (members, ending, rest) := afterMember fuel depth rest
    ((key, value) :: members, ending, rest)
  | fuel + 1, depth, .quoted .unpaired :: .colon :: rest =>
    let (value, rest) := ofTokens fuel depth rest
    let (members, ending, rest) := afterMember fuel depth rest
    let fault := (hardFaultMembers (("", value) :: members)).orElse fun _ => ending.hardFault
    ([], .unreadable fault, rest)
  | _ + 1, _, .quoted (.whole _) :: rest => ([], .broken (missingValue rest), [])
  | _ + 1, _, .quoted .unpaired :: rest => ([], .unreadable (some (missingValue rest)), [])
  | _ + 1, _, .quoted (.cut true f) :: _ => ([], .unreadable (some f), [])
  | _ + 1, _, .quoted (.cut false f) :: _ => ([], .broken f, [])
  | _ + 1, _, _ => ([], .broken .malformed, [])

/-- What follows a member: the end of the object, or a comma and more members. -/
def afterMember : Nat → Nat → List Token → List (String × Draft) × Ending × List Token
  | 0, _, _ => ([], .broken .truncated, [])
  | fuel + 1, depth, tokens =>
    match tokens with
    | .closeBrace :: rest => ([], .closed, rest)
    | .comma :: rest => membersOfTokens fuel depth rest
    | [] => ([], .broken .truncated, [])
    | _ => ([], .broken .malformed, [])

end

end Draft

/-- A text read as one value. A text may go on after its value, which is a fault, but one that
is met last. -/
structure Document where
  root : Draft
  trailing : Bool
deriving Repr, Inhabited

/-- The document of a text. -/
def Document.ofText (text : String) : Document :=
  let tokens := tokens text
  let (root, rest) := Draft.ofTokens (2 * tokens.length + 2) 0 tokens
  ⟨root, !rest.isEmpty⟩

/-- The value of a text, sorted. -/
def parse (text : String) : Except Fault Json :=
  let document := Document.ofText text
  match document.root.value with
  | .error f => .error f
  | .ok value => if document.trailing then .error .malformed else .ok value

end EntityPipeline.Json
