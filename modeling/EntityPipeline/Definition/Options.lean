-- The options of an entity. Every option may be left open; options over others keep what they set
-- and take the rest from below, so a stack of options has one meaning however it is grouped.
import EntityPipeline.Json.Value

namespace EntityPipeline

/-- Members that a record does not know, sorted by key. -/
abbrev Extra := List (String × Json)

/-- Whether data transfer objects are generated. -/
inductive DtoStrategy where
  | no
  | mapstruct
deriving DecidableEq, Repr, Inhabited

/-- How lists of an entity are paged. -/
inductive PaginationStrategy where
  | no
  | pagination
  | infiniteScroll
deriving DecidableEq, Repr, Inhabited

/-- How the service layer of an entity looks. -/
inductive ServiceStrategy where
  | no
  | serviceClass
  | serviceImpl
deriving DecidableEq, Repr, Inhabited

/-- The search engine of an entity, or none. -/
inductive SearchEngine where
  | no
  | engine (name : String)
deriving DecidableEq, Repr, Inhabited

/-- Whether a search engine is chosen. -/
def SearchEngine.isEnabled : SearchEngine → Bool
  | .no => false
  | .engine _ => true

/-- What a role may do with an entity. -/
structure RoleRule where
  role : String
  actions : List String
deriving DecidableEq, Repr, Inhabited

/-- The privileges that an action on an entity takes. -/
structure PrivilegeRule where
  action : String
  privileges : List String
deriving DecidableEq, Repr, Inhabited

/-- The access rules of an entity. -/
structure Security where
  kind : Option String
  roles : List RoleRule
  privileges : List PrivilegeRule
  extra : Extra
deriving Repr, Inhabited

/-- The options of an entity. -/
structure EntityOptions where
  dto : Option DtoStrategy := none
  pagination : Option PaginationStrategy := none
  service : Option ServiceStrategy := none
  jpaMetamodelFiltering : Option Bool := none
  fluentMethods : Option Bool := none
  readOnly : Option Bool := none
  embedded : Option Bool := none
  searchEngine : Option SearchEngine := none
  clientRootFolder : Option String := none
  microserviceName : Option String := none
  angularJSSuffix : Option String := none
  skipClient : Option Bool := none
  skipServer : Option Bool := none
  secure : Option Security := none
  extra : Extra := []
deriving Repr, Inhabited

/-- Options over defaults: what is set stays, what is open is taken from the defaults. -/
def EntityOptions.withDefaults (options defaults : EntityOptions) : EntityOptions where
  dto := options.dto.or defaults.dto
  pagination := options.pagination.or defaults.pagination
  service := options.service.or defaults.service
  jpaMetamodelFiltering := options.jpaMetamodelFiltering.or defaults.jpaMetamodelFiltering
  fluentMethods := options.fluentMethods.or defaults.fluentMethods
  readOnly := options.readOnly.or defaults.readOnly
  embedded := options.embedded.or defaults.embedded
  searchEngine := options.searchEngine.or defaults.searchEngine
  clientRootFolder := options.clientRootFolder.or defaults.clientRootFolder
  microserviceName := options.microserviceName.or defaults.microserviceName
  angularJSSuffix := options.angularJSSuffix.or defaults.angularJSSuffix
  skipClient := options.skipClient.or defaults.skipClient
  skipServer := options.skipServer.or defaults.skipServer
  secure := options.secure.or defaults.secure
  extra := Json.overlay defaults.extra options.extra

end EntityPipeline
