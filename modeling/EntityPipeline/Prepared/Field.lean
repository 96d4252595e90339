-- Prepared fields: a declared field together with its names, its flags and its place in the primary
-- key.
import EntityPipeline.Definition.Written
import EntityPipeline.FieldType

namespace EntityPipeline

/-- The validation rules of a field as flags. -/
structure ValidationFlags where
  any : Bool := false
  required : Bool := false
  unique : Bool := false
  minLength : Bool := false
  maxLength : Bool := false
  pattern : Bool := false
  min : Bool := false
  max : Bool := false
  minBytes : Bool := false
  maxBytes : Bool := false
deriving DecidableEq, Repr, Inhabited

/-- The flags of declared rules. -/
def ValidationFlags.ofRules (rules : List String) : ValidationFlags where
  any := !rules.isEmpty
  required := rules.contains "required"
  unique := rules.contains "unique"
  minLength := rules.contains "minlength"
  maxLength := rules.contains "maxlength"
  pattern := rules.contains "pattern"
  min := rules.contains "min"
  max := rules.contains "max"
  minBytes := rules.contains "minbytes"
  maxBytes := rules.contains "maxbytes"

/-- A prepared field. -/
structure Field where
  name : String
  type : FieldType
  javadoc : Option String
  enumValues : List String
  nameCapitalized : String
  nameUnderscored : String
  nameHumanized : String
  beanName : String
  columnName : String
  messageKey : String
  tsType : String
  id : Bool
  autoGenerate : Bool
  readonly : Bool
  nullable : Bool
  unique : Bool
  builtIn : Bool
  blobAny : Bool
  blobImage : Bool
  blobText : Bool
  withContentType : Bool
  typeFlags : FieldTypeFlags
  validation : ValidationFlags
  rules : List String
  minLength : Option Json
  maxLength : Option Json
  pattern : Option String
  min : Option Json
  max : Option Json
  minBytes : Option Json
  maxBytes : Option Json
deriving Repr, Inhabited

/-! ## Written form -/

/-- The flags of a type as members. -/
def FieldTypeFlags.members (flags : FieldTypeFlags) : Extra :=
  [("fieldTypeString", .bool flags.string),
    ("fieldTypeInteger", .bool flags.integer),
    ("fieldTypeLong", .bool flags.long),
    ("fieldTypeBigDecimal", .bool flags.bigDecimal),
    ("fieldTypeFloat", .bool flags.float),
    ("fieldTypeDouble", .bool flags.double),
    ("fieldTypeBoolean", .bool flags.boolean),
    ("fieldTypeLocalDate", .bool flags.localDate),
    ("fieldTypeZonedDateTime", .bool flags.zonedDateTime),
    ("fieldTypeInstant", .bool flags.instant),
    ("fieldTypeDuration", .bool flags.duration),
    ("fieldTypeUUID", .bool flags.uuid),
    ("fieldTypeBytes", .bool flags.bytes),
    ("fieldTypeByteBuffer", .bool flags.byteBuffer),
    ("fieldTypeBlob", .bool flags.blob),
    ("fieldTypeAnyBlob", .bool flags.anyBlob),
    ("fieldTypeImageBlob", .bool flags.imageBlob),
    ("fieldTypeTextBlob", .bool flags.textBlob),
    ("fieldTypeBinary", .bool flags.binary),
    ("fieldTypeCharSequence", .bool flags.charSequence),
    ("fieldTypeNumeric", .bool flags.numeric),
    ("fieldTypeTemporal", .bool flags.temporal),
    ("fieldTypeTimed", .bool flags.timed),
    ("fieldIsEnum", .bool flags.enumeration)]

/-- The flags of a type as a value of their own. -/
def FieldTypeFlags.toJson (flags : FieldTypeFlags) : Json := .object flags.members

/-- The flags of validation rules as members. -/
def ValidationFlags.members (flags : ValidationFlags) : Extra :=
  [("fieldValidate", .bool flags.any),
    ("fieldValidationRequired", .bool flags.required),
    ("fieldValidationUnique", .bool flags.unique),
    ("fieldValidationMinLength", .bool flags.minLength),
    ("fieldValidationMaxLength", .bool flags.maxLength),
    ("fieldValidationPattern", .bool flags.pattern),
    ("fieldValidationMin", .bool flags.min),
    ("fieldValidationMax", .bool flags.max),
    ("fieldValidationMinBytes", .bool flags.minBytes),
    ("fieldValidationMaxBytes", .bool flags.maxBytes)]

/-- A prepared field as a value. -/
def Field.toJson (field : Field) : Json :=
  .object ([("fieldName", .string field.name), ("fieldType", .string field.type.name)] ++
    optionalMember "javadoc" .string field.javadoc ++
    listMember "enumValues" .string field.enumValues ++
    [("fieldNameCapitalized", .string field.nameCapitalized),
      ("fieldNameUnderscored", .string field.nameUnderscored),
      ("fieldNameHumanized", .string field.nameHumanized),
      ("fieldInJavaBeanMethod", .string field.beanName),
      ("columnName", .string field.columnName),
      ("fieldTranslationKey", .string field.messageKey),
      ("tsType", .string field.tsType),
      ("id", .bool field.id),
      ("autoGenerate", .bool field.autoGenerate),
      ("readonly", .bool field.readonly),
      ("nullable", .bool field.nullable),
      ("unique", .bool field.unique),
      ("builtIn", .bool field.builtIn),
      ("blobContentTypeAny", .bool field.blobAny),
      ("blobContentTypeImage", .bool field.blobImage),
      ("blobContentTypeText", .bool field.blobText),
      ("fieldWithContentType", .bool field.withContentType)] ++
    field.typeFlags.members ++ field.validation.members ++
    listMember "fieldValidateRules" .string field.rules ++
    valueMember "fieldValidateRulesMinlength" field.minLength ++
    valueMember "fieldValidateRulesMaxlength" field.maxLength ++
    optionalMember "fieldValidateRulesPattern" .string field.pattern ++
    valueMember "fieldValidateRulesMin" field.min ++
    valueMember "fieldValidateRulesMax" field.max ++
    valueMember "fieldValidateRulesMinbytes" field.minBytes ++
    valueMember "fieldValidateRulesMaxbytes" field.maxBytes)

end EntityPipeline
