-- Primary keys. A key is a list of identifiers: own ones, which are fields of the entity, and
-- borrowed ones, which are identifiers of a related entity reached over a relationship. Two or more
-- of them make the key composite.
import EntityPipeline.Definition.Written
import EntityPipeline.FieldType
import EntityPipeline.Text.Naming

namespace EntityPipeline

/-- The storage type of a primary key. -/
inductive PrimaryKeyType where
  | single (type : FieldType)
  | composite
deriving DecidableEq, Repr, Inhabited

/-- The name of a key type. -/
def PrimaryKeyType.name : PrimaryKeyType → String
  | .single type => type.name
  | .composite => "Composite"

/-- An identifier of a primary key. -/
structure PrimaryKeyId where
  name : String
  nameCapitalized : String
  getter : String
  setter : String
  nameDotted : String
  nameDottedAsserted : String
  relationshipsPath : List String
  autoGenerate : Bool
  type : FieldType
deriving DecidableEq, Repr, Inhabited

namespace PrimaryKeyId

/-- An identifier that is a field of the entity. -/
def own (name : String) (type : FieldType) (autoGenerate : Bool) : PrimaryKeyId where
  name := name
  nameCapitalized := Text.upperFirst name
  getter := "get" ++ Text.upperFirst name
  setter := "set" ++ Text.upperFirst name
  nameDotted := name
  nameDottedAsserted := name ++ "!"
  relationshipsPath := []
  autoGenerate := autoGenerate
  type := type

/-- The name of an identifier borrowed over a relationship. -/
def borrowedName (relationship : String) (other : PrimaryKeyId) : String :=
  relationship ++ Text.upperFirst other.name

/-- An identifier borrowed from a related entity over a relationship. -/
def derived (relationship : String) (other : PrimaryKeyId) : PrimaryKeyId where
  name := borrowedName relationship other
  nameCapitalized := Text.upperFirst (borrowedName relationship other)
  getter := "get" ++ Text.upperFirst (borrowedName relationship other)
  setter := "set" ++ Text.upperFirst (borrowedName relationship other)
  nameDotted := relationship ++ "." ++ other.nameDotted
  nameDottedAsserted := relationship ++ "!." ++ other.nameDottedAsserted
  relationshipsPath := relationship :: other.relationshipsPath
  autoGenerate := false
  type := other.type

/-- An identifier as a value. -/
def toJson (id : PrimaryKeyId) : Json :=
  .object [("name", .string id.name),
    ("nameCapitalized", .string id.nameCapitalized),
    ("getter", .string id.getter),
    ("setter", .string id.setter),
    ("nameDotted", .string id.nameDotted),
    ("nameDottedAsserted", .string id.nameDottedAsserted),
    ("relationshipsPath", stringsToJson id.relationshipsPath),
    ("autoGenerate", .bool id.autoGenerate),
    ("fieldType", .string id.type.name)]

end PrimaryKeyId

/-- A primary key. -/
structure PrimaryKey where
  name : String
  nameCapitalized : String
  type : PrimaryKeyType
  tsType : String
  composite : Bool
  derived : Bool
  autoGenerate : Bool
  hasLong : Bool
  hasUUID : Bool
  typeLong : Bool
  typeString : Bool
  typeUUID : Bool
  typeNumeric : Bool
  ids : List PrimaryKeyId
deriving DecidableEq, Repr, Inhabited

namespace PrimaryKey

/-- A key of the given type over the given identifiers. -/
def build (name tsType : String) (type : PrimaryKeyType) (autoGenerate derived : Bool)
    (ids : List PrimaryKeyId) : PrimaryKey where
  name := name
  nameCapitalized := Text.upperFirst name
  type := type
  tsType := tsType
  composite := type == .composite
  derived := derived
  autoGenerate := autoGenerate
  hasLong := ids.any (·.type == .long)
  hasUUID := ids.any (·.type == .uuid)
  typeLong := type == .single .long
  typeString := type == .single .string
  typeUUID := type == .single .uuid
  typeNumeric := type == .single .long || type == .single .integer
  ids := ids

/-- The key of an entity with the given identifiers; without identifiers there is none. -/
def ofIds (entityClass : String) (ids : List PrimaryKeyId) (derived : Bool) :
    Option PrimaryKey :=
  match ids with
  | [] => none
  | [id] =>
    some (build id.name id.type.tsType (.single id.type) (!derived && id.autoGenerate) derived ids)
  | _ => some (build "id" (entityClass ++ "Id") .composite false derived ids)

/-- A key as a value. -/
def toJson (key : PrimaryKey) : Json :=
  .object [("name", .string key.name),
    ("nameCapitalized", .string key.nameCapitalized),
    ("type", .string key.type.name),
    ("tsType", .string key.tsType),
    ("composite", .bool key.composite),
    ("derived", .bool key.derived),
    ("autoGenerate", .bool key.autoGenerate),
    ("hasLong", .bool key.hasLong),
    ("hasUUID", .bool key.hasUUID),
    ("typeLong", .bool key.typeLong),
    ("typeString", .bool key.typeString),
    ("typeUUID", .bool key.typeUUID),
    ("typeNumeric", .bool key.typeNumeric),
    ("ids", .array (key.ids.map PrimaryKeyId.toJson))]

end PrimaryKey

end EntityPipeline
