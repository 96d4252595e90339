-- The types of fields: how a declared type is read, how it is named in the two target languages,
-- and the flags that templates look at.
import EntityPipeline.Text.Case

namespace EntityPipeline

/-- What a binary field holds. -/
inductive BlobContent where
  | any
  | image
  | text
deriving DecidableEq, Repr, Inhabited

/-- The content declared for a binary field; without a declaration it may be anything. -/
def BlobContent.parse : Option String → Option BlobContent
  | none => some .any
  | some "any" => some .any
  | some "image" => some .image
  | some "text" => some .text
  | some _ => none

/-- The written name of a content. -/
def BlobContent.name : BlobContent → String
  | .any => "any"
  | .image => "image"
  | .text => "text"

/-- The type of a field. -/
inductive FieldType where
  | string
  | integer
  | long
  | bigDecimal
  | float
  | double
  | boolean
  | localDate
  | zonedDateTime
  | instant
  | duration
  | uuid
  | blob (content : BlobContent)
  | byteBuffer (content : BlobContent)
  | enumeration (name : String)
deriving DecidableEq, Repr, Inhabited

namespace FieldType

/-- Whether a text can name an enumeration: a letter, then letters, digits and underscores. -/
def isTypeName (name : String) : Bool :=
  match name.toList with
  | [] => false
  | c :: rest =>
    Text.isAlphabetic c && (c :: rest).all fun d => Text.isAlphanumeric d || d == '_'

/-- The types without parameters by their declared names. -/
def plainTypes : List (String × FieldType) :=
  [("String", .string), ("Integer", .integer), ("Long", .long), ("BigDecimal", .bigDecimal),
    ("Float", .float), ("Double", .double), ("Boolean", .boolean), ("LocalDate", .localDate),
    ("ZonedDateTime", .zonedDateTime), ("Instant", .instant), ("Duration", .duration),
    ("UUID", .uuid), ("Blob", .blob .any), ("AnyBlob", .blob .any), ("ImageBlob", .blob .image),
    ("TextBlob", .blob .text)]

/-- The type of a declaration. A name outside the known ones is an enumeration if values are
declared for it. -/
def parse (declared : String) (content : Option String) (hasValues : Bool) : Option FieldType :=
  match plainTypes.lookup declared with
  | some type => some type
  | none =>
    if declared == "byte[]" then (BlobContent.parse content).map .blob
    else if declared == "ByteBuffer" then (BlobContent.parse content).map .byteBuffer
    else if hasValues && isTypeName declared then some (.enumeration declared)
    else none

/-- The name of a type. -/
def name : FieldType → String
  | .string => "String"
  | .integer => "Integer"
  | .long => "Long"
  | .bigDecimal => "BigDecimal"
  | .float => "Float"
  | .double => "Double"
  | .boolean => "Boolean"
  | .localDate => "LocalDate"
  | .zonedDateTime => "ZonedDateTime"
  | .instant => "Instant"
  | .duration => "Duration"
  | .uuid => "UUID"
  | .blob _ => "byte[]"
  | .byteBuffer _ => "ByteBuffer"
  | .enumeration name => name

/-- The name of the type that a browser client uses. -/
def tsType : FieldType → String
  | .integer | .long | .bigDecimal | .float | .double => "number"
  | .boolean => "boolean"
  | .localDate | .zonedDateTime | .instant => "dayjs.Dayjs"
  | .enumeration name => name
  | .string | .duration | .uuid | .blob _ | .byteBuffer _ => "string"

/-- The content of a binary type. -/
def blobContent : FieldType → Option BlobContent
  | .blob content => some content
  | .byteBuffer content => some content
  | _ => none

/-- Whether a database can generate values of a type for a primary key. -/
def isAutoGeneratable : FieldType → Bool
  | .long | .integer | .uuid => true
  | _ => false

end FieldType

/-! ## Flags -/

/-- The flags of a field type. -/
structure FieldTypeFlags where
  string : Bool := false
  integer : Bool := false
  long : Bool := false
  bigDecimal : Bool := false
  float : Bool := false
  double : Bool := false
  boolean : Bool := false
  localDate : Bool := false
  zonedDateTime : Bool := false
  instant : Bool := false
  duration : Bool := false
  uuid : Bool := false
  bytes : Bool := false
  byteBuffer : Bool := false
  blob : Bool := false
  anyBlob : Bool := false
  imageBlob : Bool := false
  textBlob : Bool := false
  binary : Bool := false
  charSequence : Bool := false
  numeric : Bool := false
  temporal : Bool := false
  timed : Bool := false
  enumeration : Bool := false
deriving DecidableEq, Repr, Inhabited

namespace FieldTypeFlags

/-- The flags with the one for a content set. -/
def withContent (flags : FieldTypeFlags) : BlobContent → FieldTypeFlags
  | .any => { flags with anyBlob := true }
  | .image => { flags with imageBlob := true }
  | .text => { flags with textBlob := true }

/-- The flags of a type. A text kept as a blob is neither bytes nor binary. -/
def ofType : FieldType → FieldTypeFlags
  | .string => { string := true, charSequence := true }
  | .integer => { integer := true, numeric := true }
  | .long => { long := true, numeric := true }
  | .bigDecimal => { bigDecimal := true, numeric := true }
  | .float => { float := true, numeric := true }
  | .double => { double := true, numeric := true }
  | .boolean => { boolean := true }
  | .localDate => { localDate := true, temporal := true }
  | .zonedDateTime => { zonedDateTime := true, temporal := true, timed := true }
  | .instant => { instant := true, temporal := true, timed := true }
  | .duration => { duration := true }
  | .uuid => { uuid := true }
  | .blob content =>
    withContent { blob := true, bytes := content != .text, binary := content != .text } content
  | .byteBuffer content => withContent { byteBuffer := true, binary := true } content
  | .enumeration _ => { enumeration := true }

/-- The flags that tell families of types apart; a type belongs to exactly one family. -/
def families (flags : FieldTypeFlags) : List Bool :=
  [flags.string, flags.integer, flags.long, flags.bigDecimal, flags.float, flags.double,
    flags.boolean, flags.localDate, flags.zonedDateTime, flags.instant, flags.duration,
    flags.uuid, flags.blob, flags.byteBuffer, flags.enumeration]

/-- A type belongs to exactly one family. -/
theorem count_families_ofType (type : FieldType) : (ofType type).families.count true = 1 := by
  cases type with
  | blob content => cases content <;> rfl
  | byteBuffer content => cases content <;> rfl
  | _ => rfl

end FieldTypeFlags

end EntityPipeline
