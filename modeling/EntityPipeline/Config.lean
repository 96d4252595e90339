-- The configuration of an application. It is read from one key of a settings document; every known
-- setting has a default, unknown ones are carried along, and overrides are merged into its written
-- form.
import EntityPipeline.Definition.Read
import EntityPipeline.FieldType
import EntityPipeline.Merge
import EntityPipeline.Text.WordCase

namespace EntityPipeline

open Json

/-- The kind of an application. -/
inductive ApplicationType where
  | monolith
  | gateway
  | microservice
deriving DecidableEq, Repr, Inhabited

/-- How users of an application are authenticated. -/
inductive AuthenticationType where
  | jwt
  | session
  | oauth2
deriving DecidableEq, Repr, Inhabited

/-- The database behind an application. -/
inductive DatabaseType where
  | sql
  | mongodb
  | cassandra
  | couchbase
  | neo4j
  | no
deriving DecidableEq, Repr, Inhabited

/-- The configuration of an application. -/
structure ApplicationConfig where
  baseName : String := "jhipster"
  applicationType : ApplicationType := .monolith
  authenticationType : AuthenticationType := .jwt
  databaseType : DatabaseType := .sql
  prodDatabaseType : String := "postgresql"
  clientFramework : String := "angular"
  searchEngine : SearchEngine := .no
  skipUserManagement : Bool := false
  skipClient : Bool := false
  skipServer : Bool := false
  reactive : Bool := false
  jhiPrefix : String := "jhi"
  dtoSuffix : String := "DTO"
  entitySuffix : String := ""
  localized : Bool := true
  nativeLanguage : String := "en"
  entities : List String := []
  extra : Extra := []
deriving Repr, Inhabited

/-- The application types by name. -/
def ApplicationType.variants : List (String × ApplicationType) :=
  [("monolith", .monolith), ("gateway", .gateway), ("microservice", .microservice)]

/-- The written name of an application type. -/
def ApplicationType.name : ApplicationType → String
  | .monolith => "monolith"
  | .gateway => "gateway"
  | .microservice => "microservice"

/-- The authentication types by name. -/
def AuthenticationType.variants : List (String × AuthenticationType) :=
  [("jwt", .jwt), ("session", .session), ("oauth2", .oauth2)]

/-- The written name of an authentication type. -/
def AuthenticationType.name : AuthenticationType → String
  | .jwt => "jwt"
  | .session => "session"
  | .oauth2 => "oauth2"

/-- The database types by name. -/
def DatabaseType.variants : List (String × DatabaseType) :=
  [("sql", .sql), ("mongodb", .mongodb), ("cassandra", .cassandra), ("couchbase", .couchbase),
    ("neo4j", .neo4j), ("no", .no)]

/-- The written name of a database type. -/
def DatabaseType.name : DatabaseType → String
  | .sql => "sql"
  | .mongodb => "mongodb"
  | .cassandra => "cassandra"
  | .couchbase => "couchbase"
  | .neo4j => "neo4j"
  | .no => "no"

namespace ApplicationConfig

/-! ## Written form -/

/-- The known settings. -/
def schema : Schema :=
  [("baseName", Decoder.text.check),
    ("applicationType", (Decoder.variant ApplicationType.variants).check),
    ("authenticationType", (Decoder.variant AuthenticationType.variants).check),
    ("databaseType", (Decoder.variant DatabaseType.variants).check),
    ("prodDatabaseType", Decoder.text.check),
    ("clientFramework", Decoder.text.check),
    ("searchEngine", Decoder.check SearchEngine.read),
    ("skipUserManagement", Decoder.bool.check),
    ("skipClient", Decoder.bool.check),
    ("skipServer", Decoder.bool.check),
    ("reactive", Decoder.bool.check),
    ("jhiPrefix", Decoder.text.check),
    ("dtoSuffix", Decoder.text.check),
    ("entitySuffix", Decoder.text.check),
    ("enableTranslation", Decoder.bool.check),
    ("nativeLanguage", Decoder.text.check),
    ("entities", (Decoder.list Decoder.text).check)]

/-- A configuration. -/
def read : Decoder ApplicationConfig
  | .object members ending => do
    checkRecord schema Decoder.value.check members ending
    return {
      baseName := ← defaulted "baseName" .text "jhipster" members
      applicationType :=
        ← defaulted "applicationType" (.variant ApplicationType.variants) .monolith members
      authenticationType :=
        ← defaulted "authenticationType" (.variant AuthenticationType.variants) .jwt members
      databaseType := ← defaulted "databaseType" (.variant DatabaseType.variants) .sql members
      prodDatabaseType := ← defaulted "prodDatabaseType" .text "postgresql" members
      clientFramework := ← defaulted "clientFramework" .text "angular" members
      searchEngine := ← defaulted "searchEngine" SearchEngine.read .no members
      skipUserManagement := ← defaulted "skipUserManagement" .bool false members
      skipClient := ← defaulted "skipClient" .bool false members
      skipServer := ← defaulted "skipServer" .bool false members
      reactive := ← defaulted "reactive" .bool false members
      jhiPrefix := ← defaulted "jhiPrefix" .text "jhi" members
      dtoSuffix := ← defaulted "dtoSuffix" .text "DTO" members
      entitySuffix := ← defaulted "entitySuffix" .text "" members
      localized := ← defaulted "enableTranslation" .bool true members
      nativeLanguage := ← defaulted "nativeLanguage" .text "en" members
      entities := ← defaulted "entities" (.list .text) [] members
      extra := ← extraMembers schema members }
  | d => d.mismatch "struct ApplicationConfig"

/-- A configuration out of a value. -/
def ofJson (value : Json) : Except Failure ApplicationConfig :=
  match read.ofJson value with
  | .ok config => .ok config
  | .error e => .error (.json e none)

/-- A configuration as a value. -/
def toJson (config : ApplicationConfig) : Json :=
  .ofMembers ([("baseName", .string config.baseName),
    ("applicationType", .string config.applicationType.name),
    ("authenticationType", .string config.authenticationType.name),
    ("databaseType", .string config.databaseType.name),
    ("prodDatabaseType", .string config.prodDatabaseType),
    ("clientFramework", .string config.clientFramework),
    ("searchEngine", config.searchEngine.toJson),
    ("skipUserManagement", .bool config.skipUserManagement),
    ("skipClient", .bool config.skipClient),
    ("skipServer", .bool config.skipServer),
    ("reactive", .bool config.reactive),
    ("jhiPrefix", .string config.jhiPrefix),
    ("dtoSuffix", .string config.dtoSuffix),
    ("entitySuffix", .string config.entitySuffix),
    ("enableTranslation", .bool config.localized),
    ("nativeLanguage", .string config.nativeLanguage)] ++
    listMember "entities" .string config.entities ++ config.extra)

/-! ## Sources and overrides -/

/-- The file that holds the settings of a project. -/
def fileName : String := ".yo-rc.json"

/-- The key of the settings in that file. -/
def key : String := "generator-jhipster"

/-- The configuration of a settings document; the default one if the document has none. -/
def ofDocument (document : Json) : Except Failure ApplicationConfig :=
  match document with
  | .object members =>
    match members.lookup key with
    | some settings => ofJson settings
    | none => .ok {}
  | _ => .error (.configuration (fileName ++ " must contain a JSON object"))

/-- The configuration with overrides merged into its written form. -/
def mergedWith (config : ApplicationConfig) (overrides : Json) :
    Except Failure ApplicationConfig :=
  match merge config.toJson overrides with
  | .error e => .error e
  | .ok merged => ofJson merged

/-! ## Derived settings -/

/-- The name of the client application. -/
def frontendAppName (config : ApplicationConfig) : String :=
  let name := Text.camel config.baseName
  let name := if ['A', 'p', 'p'].isSuffixOf config.baseName.toList then name else name ++ "App"
  if name.toList.head?.any Char.isDigit then "App" ++ name else name

/-- The type of a primary key that the database assigns by itself. -/
def primaryKeyType (config : ApplicationConfig) : FieldType :=
  match config.databaseType with
  | .cassandra => .uuid
  | .mongodb | .couchbase | .neo4j => .string
  | .sql | .no => .long

end ApplicationConfig

end EntityPipeline
