-- The arguments of the command line. Switches may stand before the command and after it; a value
-- follows its switch as the next argument or in the same one. A switch whose value is still to come
-- is settled by what comes next, so that the first fault in reading order counts.

namespace EntityPipeline

/-! ## Logging -/

/-- How much is logged. -/
inductive LogLevel where
  | trace
  | debug
  | info
  | warn
  | error
deriving DecidableEq, Repr, Inhabited

/-- How log records look. -/
inductive LogFormat where
  | pretty
  | compact
  | json
deriving DecidableEq, Repr, Inhabited

/-- The levels by name. -/
def LogLevel.variants : List (String × LogLevel) :=
  [("trace", .trace), ("debug", .debug), ("info", .info), ("warn", .warn), ("error", .error)]

/-- The name of a level. -/
def LogLevel.name : LogLevel → String
  | .trace => "trace"
  | .debug => "debug"
  | .info => "info"
  | .warn => "warn"
  | .error => "error"

/-- The formats by name. -/
def LogFormat.variants : List (String × LogFormat) :=
  [("pretty", .pretty), ("compact", .compact), ("json", .json)]

/-- The filter that logs every part of the program at one level. -/
def LogLevel.directive (level : LogLevel) : String :=
  ",".intercalate (["entigen", "entigen_core", "entigen_codegen"].map fun part =>
    part ++ "=" ++ level.name)

/-! ## Commands -/

/-- What the program is asked to do. -/
inductive Command where
  | generate (path : String) (blueprints : List String) (check skipUserManagement : Bool)
  | entities (path : String) (json skipUserManagement : Bool)
  | priorities (json : Bool)
  | version
deriving DecidableEq, Repr, Inhabited

/-- The name of a command. -/
def Command.name : Command → String
  | .generate _ _ _ _ => "generate"
  | .entities _ _ _ => "entities"
  | .priorities _ => "priorities"
  | .version => "version"

/-- A command and how its run is logged. -/
structure Invocation where
  command : Command
  level : LogLevel := .warn
  format : LogFormat := .compact
deriving DecidableEq, Repr, Inhabited

/-- Why arguments are no invocation. -/
inductive UsageError where
  | unknownCommand
  | unknownArgument
  | badValue
  | repeated
  | unneededValue
  | noArguments
  | noCommand
  | helpWanted
  | versionWanted
deriving DecidableEq, Repr, Inhabited

/-! ## Switches -/

/-- A switch of the command line. -/
inductive Switch where
  | level
  | logFormat
  | path
  | blueprint
  | check
  | skipUserManagement
  | json
  | help
  | version
deriving DecidableEq, Repr, Inhabited

namespace Switch

/-- The long name of a switch. -/
def long : Switch → String
  | .level => "level"
  | .logFormat => "log-format"
  | .path => "path"
  | .blueprint => "blueprint"
  | .check => "check"
  | .skipUserManagement => "skip-user-management"
  | .json => "json"
  | .help => "help"
  | .version => "version"

/-- The letter of a switch, if it has one. -/
def short? : Switch → Option Char
  | .level => some 'l'
  | .path => some 'p'
  | .blueprint => some 'b'
  | .help => some 'h'
  | .version => some 'V'
  | _ => none

/-- Whether a switch takes a value. -/
def takesValue : Switch → Bool
  | .level | .logFormat | .path | .blueprint => true
  | _ => false

/-- Whether a switch may be given more than once. -/
def repeats : Switch → Bool
  | .blueprint => true
  | _ => false

/-- Whether a switch takes a particular value. -/
def admits (switch : Switch) (value : String) : Bool :=
  match switch with
  | .level => (LogLevel.variants.lookup value).isSome
  | .logFormat => (LogFormat.variants.lookup value).isSome
  | .path | .blueprint => value != ""
  | _ => true

/-- The switches before the command. -/
def leading : List Switch := [.level, .logFormat, .help, .version]

/-- The switches after each command. -/
def following : List (String × List Switch) :=
  [("generate", [.level, .logFormat, .help, .path, .blueprint, .check, .skipUserManagement]),
    ("entities", [.level, .logFormat, .help, .path, .json, .skipUserManagement]),
    ("priorities", [.level, .logFormat, .help, .json]),
    ("version", [.level, .logFormat, .help])]

end Switch

/-! ## Scanning -/

/-- The switches given so far, and the one that is not settled yet with its value, if that has
come. -/
structure Scan where
  given : List (Switch × String) := []
  pending : Option (Switch × Option String) := none
deriving DecidableEq, Repr, Inhabited

namespace Scan

/-- Takes a switch with its value. -/
def accept (scan : Scan) (switch : Switch) (value : Option String) : Except UsageError Scan :=
  match switch with
  | .help => .error .helpWanted
  | .version => .error .versionWanted
  | switch =>
    if switch.takesValue && value.isNone then .error .badValue
    else if !switch.repeats && (scan.given.lookup switch).isSome then .error .repeated
    else if !switch.admits (value.getD "") then .error .badValue
    else .ok ⟨scan.given ++ [(switch, value.getD "")], none⟩

/-- Takes the switch that is not settled yet. -/
def settle (scan : Scan) : Except UsageError Scan :=
  match scan.pending with
  | none => .ok scan
  | some (switch, value) => scan.accept switch value

/-- Whether the next argument is a value. -/
def awaitsValue (scan : Scan) : Bool :=
  match scan.pending with
  | some (_, none) => true
  | _ => false

/-- The scan with a value for the switch that awaits one. -/
def supply (scan : Scan) (value : String) : Scan :=
  { scan with pending := scan.pending.map fun (switch, _) => (switch, some value) }

/-- A switch with an attached value, or without any. -/
def enter (scan : Scan) (switch : Switch) (attached : Option String) : Except UsageError Scan :=
  match scan.settle with
  | .error e => .error e
  | .ok settled =>
    if switch.takesValue && attached.isNone then
      .ok { settled with pending := some (switch, none) }
    else settled.accept switch attached

/-- A switch by its long name. -/
def enterLong (switches : List Switch) (scan : Scan) (name : String) (attached : Option String) :
    Except UsageError Scan :=
  match switches.find? (·.long == name) with
  | none => .error .unknownArgument
  | some switch =>
    if !switch.takesValue && attached.isSome then .error .unneededValue
    else scan.enter switch attached

/-- Switches by their letters; what follows the letter of a switch with a value is its value,
with or without a sign of equality in between. -/
def enterShort (switches : List Switch) (scan : Scan) : List Char → Except UsageError Scan
  | [] => .ok scan
  | c :: rest =>
    match switches.find? (·.short? == some c) with
    | none => .error .unknownArgument
    | some switch =>
      if switch.takesValue then
        match rest with
        | [] => scan.enter switch none
        | '=' :: value => scan.enter switch (some (String.ofList value))
        | value => scan.enter switch (some (String.ofList value))
      else
        match scan.enter switch none with
        | .error e => .error e
        | .ok entered => enterShort switches entered rest

/-- What a scan stops at. -/
inductive Stop where
  | finished
  | word (word : String) (rest : List String)
  | escaped (rest : List String)
deriving DecidableEq, Repr, Inhabited

/-- Reads switches up to a word that is no value, or up to two dashes. -/
def through (switches : List Switch) (scan : Scan) :
    List String → Except UsageError (Scan × Stop)
  | [] => .ok (scan, .finished)
  | argument :: rest =>
    match argument.toList with
    | ['-', '-'] => .ok (scan, .escaped rest)
    | '-' :: '-' :: text =>
      let name := text.takeWhile (· != '=')
      let attached := match text.drop name.length with
        | [] => none
        | _ :: value => some (String.ofList value)
      match scan.enterLong switches (String.ofList name) attached with
      | .error e => .error e
      | .ok entered => through switches entered rest
    | '-' :: c :: letters =>
      match scan.enterShort switches (c :: letters) with
      | .error e => .error e
      | .ok entered => through switches entered rest
    | _ =>
      if scan.awaitsValue then through switches (scan.supply argument) rest
      else .ok (scan, .word argument rest)

/-- The value of a switch. -/
def value? (scan : Scan) (switch : Switch) : Option String := scan.given.lookup switch

/-- Whether a switch is given. -/
def has (scan : Scan) (switch : Switch) : Bool := (scan.value? switch).isSome

/-- The values of a switch. -/
def values (scan : Scan) (switch : Switch) : List String :=
  (scan.given.filter (·.1 == switch)).map Prod.snd

end Scan

/-! ## Invocations -/

/-- The command of a name with the switches after it. -/
def Command.ofScan (name : String) (scan : Scan) : Option Command :=
  let path := (scan.value? .path).getD "."
  match name with
  | "generate" =>
    some (.generate path (scan.values .blueprint) (scan.has .check)
      (scan.has .skipUserManagement))
  | "entities" => some (.entities path (scan.has .json) (scan.has .skipUserManagement))
  | "priorities" => some (.priorities (scan.has .json))
  | "version" => some .version
  | _ => none

namespace Invocation

/-- What a wish for help comes to: help, unless it is for a command that does not exist. -/
def helpFor : List String → UsageError
  | [] => .helpWanted
  | [word] =>
    if word == "help" || (Switch.following.lookup word).isSome then .helpWanted
    else .unknownCommand
  | _ => .unknownCommand

/-- The switches after a command; nothing else may stand there. -/
def readFollowing (switches : List Switch) (arguments : List String) : Except UsageError Scan :=
  match Scan.through switches {} arguments with
  | .error e => .error e
  | .ok (scan, .finished) => scan.settle
  | .ok (scan, .escaped []) => scan.settle
  | .ok _ => .error .unknownArgument

/-- The choice that a switch makes; what stands after the command wins. -/
def choice {α : Type} (switch : Switch) (variants : List (String × α)) (absent : α)
    (before after : Scan) : α :=
  match (after.value? switch).or (before.value? switch) with
  | none => absent
  | some name => (variants.lookup name).getD absent

/-- A command with the level and the format of the log. -/
def withLogging (command : Command) (before after : Scan) : Invocation where
  command := command
  level := choice .level LogLevel.variants .warn before after
  format := choice .logFormat LogFormat.variants .compact before after

/-- The command of a word and what follows it. -/
def readCommand (before : Scan) (word : String) (rest : List String) :
    Except UsageError Invocation :=
  match Switch.following.lookup word with
  | none => .error (if word == "help" then helpFor rest else .unknownCommand)
  | some switches =>
    match readFollowing switches rest with
    | .error e => .error e
    | .ok after =>
      match before.settle with
      | .error e => .error e
      | .ok before =>
        match Command.ofScan word after with
        | none => .error .unknownCommand
        | some command => .ok (withLogging command before after)

/-- What arguments without a command come to. -/
def withoutCommand (scan : Scan) : UsageError :=
  match scan.settle with
  | .error e => e
  | .ok settled => if settled.given.isEmpty then .noArguments else .noCommand

/-- The invocation of arguments. -/
def parse (arguments : List String) : Except UsageError Invocation :=
  match Scan.through Switch.leading {} arguments with
  | .error e => .error e
  | .ok (scan, .word word rest) => readCommand scan word rest
  | .ok (_, .escaped (word :: _)) =>
    .error (if word == "help" || (Switch.following.lookup word).isSome then .unknownArgument
      else .unknownCommand)
  | .ok (scan, _) => .error (withoutCommand scan)

end Invocation

end EntityPipeline
