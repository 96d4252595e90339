-- What can be wrong with a JSON document that should hold a record: the text is at fault, or a
-- value does not have the wanted form. Each cause has one wording.
import EntityPipeline.Json.Draft
import EntityPipeline.Text.Quoted

namespace EntityPipeline.Json

/-- The form of a value, as far as a message names it. -/
inductive Form where
  | null
  | bool (value : Bool)
  | number (value : Number)
  | text (value : String)
  | sequence
  | map
deriving DecidableEq, Repr, Inhabited

/-- Why a document cannot be read. -/
inductive ReadError where
  | fault (fault : Fault)
  | wrongForm (found : Form) (wanted : String)
  | missingField (key : String)
  | duplicateField (key : String)
  | unknownVariant (found : String) (known : List String)
  | notOneMember
  | tooFewItems (found : Nat) (wanted : String)
  | tooManyItems (found taken : Nat)
  | tooManyValues (found : Nat)
  | unclearFlag (found : String)
  | unclearFlagForm
  | unnamedEngine
  | unclearEngineForm
deriving DecidableEq, Repr, Inhabited

/-- The kind of a read error: the two faults of a text, or its contents. -/
inductive Category where
  | truncated
  | malformed
  | data
deriving DecidableEq, Repr, Inhabited

namespace Form

/-- The words for a form. -/
def describe : Form → String
  | .null => "null"
  | .bool b => "boolean `" ++ (if b then "true" else "false") ++ "`"
  | .number (.int n) => "integer `" ++ (Number.int n).render ++ "`"
  | .number (.real x) => "floating point `" ++ (Number.real x).render ++ "`"
  | .text s => "string " ++ Text.quoted s
  | .sequence => "sequence"
  | .map => "map"

end Form

namespace ReadError

/-- A name between grave accents. -/
def marked (s : String) : String := "`" ++ s ++ "`"

/-- A choice of names: the only one, one of two, or one of a list. -/
def choice : List String → String
  | [one] => marked one
  | [one, two] => marked one ++ " or " ++ marked two
  | names => "one of " ++ ", ".intercalate (names.map marked)

/-- The kind of an error. -/
def category : ReadError → Category
  | .fault .truncated => .truncated
  | .fault .malformed => .malformed
  | _ => .data

/-- The wording of an error in the contents; a fault of the text has none of its own. -/
def message : ReadError → Option String
  | .fault _ => none
  | .wrongForm found wanted => some ("invalid type: " ++ found.describe ++ ", expected " ++ wanted)
  | .missingField key => some ("missing field " ++ marked key)
  | .duplicateField key => some ("duplicate field " ++ marked key)
  | .unknownVariant found known =>
    some ("unknown variant " ++ marked found ++ ", expected " ++ choice known)
  | .notOneMember => some "invalid value: map, expected map with a single key"
  | .tooFewItems found wanted =>
    some ("invalid length " ++ toString found ++ ", expected " ++ wanted)
  | .tooManyItems found taken =>
    some ("invalid length " ++ toString found ++ ", expected " ++ toString taken ++
      (if taken == 1 then " element in sequence" else " elements in sequence"))
  | .tooManyValues found =>
    some ("invalid length " ++ toString found ++ ", expected fewer elements in array")
  | .unclearFlag found => some ("expected a boolean or \"no\", found \"" ++ found ++ "\"")
  | .unclearFlagForm => some "data did not match any variant of untagged enum Lenient"
  | .unnamedEngine => some "searchEngine must name an engine, not `true`"
  | .unclearEngineForm => some "data did not match any variant of untagged enum SearchEngineRepr"

end ReadError

end EntityPipeline.Json
