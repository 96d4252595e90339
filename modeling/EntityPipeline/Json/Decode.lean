-- Reading records out of drafts. A record is read in two steps: first its members are checked in
-- document order, which settles the first error, then its fields are looked up in the order of the
-- record. A member is checked by the same reader that later gives its value. The private first key
-- `$serde_json::private::RawValue`, whose value is a text to be read once more, is not modelled.
import EntityPipeline.Json.ReadError

namespace EntityPipeline.Json

/-- Reads a value out of a draft. -/
abbrev Decoder (α : Type) := Draft → Except ReadError α

/-- Accepts or refuses a draft. -/
abbrev Check := Draft → Except ReadError Unit

/-- The check that a decoder makes. -/
def Decoder.check {α : Type} (read : Decoder α) : Check := fun d =>
  match read d with
  | .error e => .error e
  | .ok _ => .ok ()

namespace Draft

/-- The error for a draft of another form than the wanted one. A draft that cannot be read at
all is a fault of the text. -/
def mismatch {α : Type} (d : Draft) (wanted : String) : Except ReadError α :=
  match d with
  | .null => .error (.wrongForm .null wanted)
  | .bool b => .error (.wrongForm (.bool b) wanted)
  | .number n => .error (.wrongForm (.number n) wanted)
  | .text s => .error (.wrongForm (.text s) wanted)
  | .array _ _ => .error (.wrongForm .sequence wanted)
  | .object _ _ => .error (.wrongForm .map wanted)
  | .unreadable _ => .error (.fault .malformed)
  | .broken f => .error (.fault f)

end Draft

/-- Passes a container that is closed. -/
def Ending.check (ending : Ending) : Except ReadError Unit :=
  match ending.fault with
  | none => .ok ()
  | some f => .error (.fault f)

/-! ## Single values -/

namespace Decoder

/-- Any value. -/
def value : Decoder Json := fun d =>
  match d.value with
  | .ok v => .ok v
  | .error f => .error (.fault f)

/-- A string. -/
def text : Decoder String
  | .text s => .ok s
  | d => d.mismatch "a string"

/-- A boolean. -/
def bool : Decoder Bool
  | .bool b => .ok b
  | d => d.mismatch "a boolean"

/-- Null for no value. -/
def optional {α : Type} (read : Decoder α) : Decoder (Option α)
  | .null => .ok none
  | d => (read d).map some

/-- The items of a list, in order. -/
def items {α : Type} (read : Decoder α) : List Draft → Except ReadError (List α)
  | [] => .ok []
  | d :: rest =>
    match read d with
    | .error e => .error e
    | .ok a =>
      match items read rest with
      | .error e => .error e
      | .ok as => .ok (a :: as)

/-- An array of values of one kind. -/
def list {α : Type} (read : Decoder α) : Decoder (List α)
  | .array ds ending =>
    match items read ds with
    | .error e => .error e
    | .ok as =>
      match ending.check with
      | .error e => .error e
      | .ok () => .ok as
  | d => d.mismatch "a sequence"

/-- The variant with a given name. -/
def variantNamed {α : Type} (variants : List (String × α)) (name : String) :
    Except ReadError α :=
  match variants.lookup name with
  | some a => .ok a
  | none => .error (.unknownVariant name (variants.map Prod.fst))

/-- Nothing but null. -/
def unit : Decoder Unit
  | .null => .ok ()
  | d => d.mismatch "unit"

/-- A variant in a value: its name, or an object with its name as only key over null. -/
def variant {α : Type} (variants : List (String × α)) : Decoder α
  | .text s => variantNamed variants s
  | .object [(name, d)] _ =>
    match variantNamed variants name with
    | .error e => .error e
    | .ok a => (unit d).map fun _ => a
  | .object _ _ => .error .notOneMember
  | d => d.mismatch "string or map"

/-- A variant in a text that is being read. What is neither a string nor an object, and an object
that does not hold just one member, is malformed. -/
def variantInText {α : Type} (variants : List (String × α)) : Decoder α
  | .text s => variantNamed variants s
  | .object [] ending => .error (.fault (ending.hardFault.getD .malformed))
  | .object ((name, d) :: rest) ending =>
    match variantNamed variants name with
    | .error e => .error e
    | .ok a =>
      match unit d with
      | .error e => .error e
      | .ok () =>
        if rest.isEmpty then ending.check.map fun _ => a else .error (.fault .malformed)
  | .broken f => .error (.fault f)
  | _ => .error (.fault .malformed)

end Decoder

/-! ## Records -/

/-- The fields that a record knows, each with the check for its member. -/
abbrev Schema := List (String × Check)

/-- Passes a member by that the record does not know and does not take. -/
def skipUnknown : Check := fun d =>
  match d.hardFault with
  | none => .ok ()
  | some f => .error (.fault f)

/-- Checks members in document order. A known key may stand once; members under other keys go to
the second check. -/
def checkMembers (schema : Schema) (unknown : Check) :
    List String → List (String × Draft) → Except ReadError Unit
  | _, [] => .ok ()
  | seen, (key, d) :: rest =>
    match schema.lookup key with
    | none =>
      match unknown d with
      | .error e => .error e
      | .ok () => checkMembers schema unknown seen rest
    | some check =>
      if seen.contains key then .error (.duplicateField key)
      else match check d with
        | .error e => .error e
        | .ok () => checkMembers schema unknown (key :: seen) rest

/-- The members of a record after their check. -/
def checkRecord (schema : Schema) (unknown : Check) (members : List (String × Draft))
    (ending : Ending) : Except ReadError Unit :=
  match checkMembers schema unknown [] members with
  | .error e => .error e
  | .ok () => ending.check

/-- A field that must be there. -/
def required {α : Type} (key : String) (read : Decoder α) (members : List (String × Draft)) :
    Except ReadError α :=
  match members.lookup key with
  | some d => read d
  | none => .error (.missingField key)

/-- A field with a value for its absence. -/
def defaulted {α : Type} (key : String) (read : Decoder α) (absent : α)
    (members : List (String × Draft)) : Except ReadError α :=
  match members.lookup key with
  | some d => read d
  | none => .ok absent

/-- A field that may be absent or null. -/
def optionalField {α : Type} (key : String) (read : Decoder α)
    (members : List (String × Draft)) : Except ReadError (Option α) :=
  defaulted key read.optional none members

/-- The members that a record does not know. -/
def unknownMembers (schema : Schema) (members : List (String × Draft)) :
    List (String × Draft) :=
  members.filter fun (key, _) => (schema.lookup key).isNone

/-- The values of the members that a record does not know, sorted. -/
def extraMembers (schema : Schema) (members : List (String × Draft)) :
    Except ReadError (List (String × Json)) :=
  match Draft.valueMembers (unknownMembers schema members) with
  | .ok values => .ok (sortMembers values)
  | .error f => .error (.fault f)

/-! ## Whole documents -/

/-- Reads a text: what it holds is settled before what follows it. -/
def Decoder.ofText {α : Type} (read : Decoder α) (text : String) : Except ReadError α :=
  let document := Document.ofText text
  match read document.root with
  | .error e => .error e
  | .ok a => if document.trailing then .error (.fault .malformed) else .ok a

/-- Reads a value. -/
def Decoder.ofJson {α : Type} (read : Decoder α) (value : Json) : Except ReadError α :=
  read (Draft.ofJson value)

end EntityPipeline.Json
