-- Preparing each entity: the names that server, client, message files and addresses use for it.
import EntityPipeline.Run.Action

namespace EntityPipeline

/-- The part that an option adds to a name, or nothing. -/
def angularSuffix (options : ResolvedOptions) : String :=
  match options.angularJSSuffix with
  | some suffix => if suffix == "" then "" else Text.upperFirst (Text.camel suffix)
  | none => ""

/-- A name below the client folder of an entity, joined to the folder by a sign. -/
def belowFolder (options : ResolvedOptions) (sign name : String) : String :=
  if options.clientRootFolder == "" then name else options.clientRootFolder ++ sign ++ name

/-- The service that an entity belongs to, which only a gateway names. -/
def owningService (options : ResolvedOptions) (config : ApplicationConfig) : Option String :=
  if config.applicationType == .gateway then options.microserviceName else none

/-- The names of an entity. -/
def entityNames (entity : Entity) (config : ApplicationConfig) : EntityNames :=
  let name := entity.name
  let options := entity.options
  let className := Text.upperFirst name
  let instanceName := Text.lowerFirst name
  let angularName := className ++ angularSuffix options
  let fileName := Text.kebab angularName
  let folderName := belowFolder options "/" fileName
  let messageKey :=
    if options.clientRootFolder == "" then instanceName
    else Text.camel (belowFolder options "-" instanceName)
  let service := owningService options config
  let i18nKey := config.frontendAppName ++ "." ++ messageKey
  let persistClass := className ++ config.entitySuffix
  let persistInstance := instanceName ++ config.entitySuffix
  let dtoClass := className ++ config.dtoSuffix
  let dtoInstance := instanceName ++ config.dtoSuffix
  let mapped := entity.strategies.dtoMapstruct
  { nameCapitalized := className
    namePlural := Text.pluralize name
    className
    classPlural := Text.pluralize className
    classHumanized := Text.humanize className
    classPluralHumanized := Text.humanize (Text.pluralize className)
    instanceName
    instancePlural := Text.lowerFirst (Text.pluralize name)
    fileName
    folderName
    modelFileName := folderName
    serviceFileName := fileName
    url := fileName
    apiUrl := Text.kebab (Text.pluralize name)
    stateName := fileName
    messageKey
    menuMessageKey := Text.camel (belowFolder options "-" className)
    angularName
    reactName := angularName
    api := match service with
      | some service => "services/" ++ Text.toLowercase service ++ "/"
      | none => ""
    i18nKey
    i18nAlertHeader := match service with
      | some service => Text.camel service ++ "." ++ messageKey
      | none => i18nKey
    persistClass
    persistInstance
    restClass := if mapped then dtoClass else persistClass
    restInstance := if mapped then dtoInstance else persistInstance
    dtoClass
    dtoInstance }

/-- Gives every entity its names. -/
def prepareEntities : Action Context Unit := fun context =>
  let (slots, result) := Slot.changeAll
    (fun entity => .ok { entity with names := entityNames entity context.config })
    context.entities.slots
  ⟨result, { context with entities := ⟨slots⟩ }, []⟩

end EntityPipeline
