import Docblock.Entries
import Docblock.Json
import Docblock.Search

/-! What the library reports while it works, and how a report is written as a record. -/

set_option autoImplicit false

namespace Docblock

inductive Level where
  | debug
  | info
  | warning
  | error
  | critical
  deriving DecidableEq, Repr

namespace Level

def name : Level → String
  | debug => "debug"
  | info => "info"
  | warning => "warning"
  | error => "error"
  | critical => "critical"

def rank : Level → Nat
  | debug => 0
  | info => 1
  | warning => 2
  | error => 3
  | critical => 4

def all : List Level := [debug, info, warning, error, critical]

def aliases : List (String × Level) :=
  [("msg", info), ("warn", warning), ("exception", error), ("fatal", critical)]

def ofName? (name : Text) : Option Level :=
  (all.find? (·.name.toList == name)).orElse fun _ =>
    (aliases.find? (·.1.toList == name)).map (·.2)

@[simp] theorem ofName?_name (level : Level) : ofName? level.name.toList = some level := by
  cases level <;> decide

end Level

structure Record where
  level : Level
  logger : Text
  name : Text
  fields : Entries Text Json

-- The record as an object. Its name, level and source replace fields that are called so.
def Record.toJson (record : Record) : Json :=
  .object (Entries.set "logger".toList (.text record.logger)
    (Entries.set "level".toList (.str record.level.name)
      (Entries.set "event".toList (.text record.name) record.fields)))

inductive Event where
  | declarationLocated (dialect : Dialect) (focus : Int) (site : Site) (way : Way)
  | declarationMissed (dialect : Dialect) (focus : Int)
  | templateLoaded (dialect : Dialect) (name : Text) (lineCount : Nat)
  | planMissed (dialect : Dialect) (line : Int)
  | planCreated (dialect : Dialect) (site : Site) (insertLine : Int) (parameterCount : Nat)
  | headerPlanned (dialect : Dialect)
  | grammarRegistered (dialect : Dialect) (extensions : List String)
  | registryReady (dialects : List Dialect)
  | generationFailed (dialect : Dialect) (error : String)
  | headerFailed (dialect : Dialect) (error : String)
  | configured (debug : Bool) (templateFolder : Option Text)
  | starting (version : String)
  | stopped
  deriving DecidableEq, Repr

namespace Event

-- The report on a search; one that was not made makes none.
def ofSearch (dialect : Dialect) : Search → List Event
  | .idle => []
  | .missed focus => [declarationMissed dialect focus]
  | .found focus site way => [declarationLocated dialect focus site way]

def level : Event → Level
  | declarationLocated .. | declarationMissed .. | templateLoaded .. | grammarRegistered .. => .debug
  | planMissed .. | planCreated .. | headerPlanned _ | registryReady _ | configured .. | starting _
  | stopped => .info
  | generationFailed .. | headerFailed .. => .error

def logger : Event → String
  | declarationLocated .. | declarationMissed .. => "doc_generator.scanning.locator"
  | templateLoaded .. => "doc_generator.templates.store"
  | planMissed .. | planCreated .. | headerPlanned _ => "doc_generator.services.doc_service"
  | grammarRegistered .. | registryReady _ => "doc_generator.grammars.registry"
  | generationFailed .. | headerFailed .. => "doc_generator.api.routes.docs"
  | configured .. | starting _ | stopped => "doc_generator.api.app"

def name : Event → String
  | declarationLocated .. => "declaration_located"
  | declarationMissed .. | planMissed .. => "declaration_not_found"
  | templateLoaded .. => "template_loaded"
  | planCreated .. => "doc_plan_created"
  | headerPlanned _ => "file_header_planned"
  | grammarRegistered .. => "grammar_registered"
  | registryReady _ => "grammar_registry_initialized"
  | generationFailed .. => "doc_generation_failed"
  | headerFailed .. => "file_header_failed"
  | configured .. => "application_configured"
  | starting _ => "application_starting"
  | stopped => "application_stopped"

def dialectField (dialect : Dialect) : String × Json := ("dialect", .str dialect.name)

def fields : Event → List (String × Json)
  | declarationLocated dialect focus site way =>
    [dialectField dialect, ("focus_line", .int focus), ("kind", .str site.kind.name),
     ("line", .int site.line), ("via", .str way.name)]
  | declarationMissed dialect focus => [dialectField dialect, ("focus_line", .int focus)]
  | templateLoaded dialect name lineCount =>
    [("folder", .str dialect.folder), ("name", .text name), ("line_count", .int lineCount)]
  | planMissed dialect line => [dialectField dialect, ("line", .int line)]
  | planCreated dialect site insertLine parameterCount =>
    [dialectField dialect, ("kind", .str site.kind.name), ("declaration_line", .int site.line),
     ("insert_line", .int insertLine), ("parameter_count", .int parameterCount)]
  | headerPlanned dialect => [dialectField dialect]
  | grammarRegistered dialect extensions =>
    [dialectField dialect, ("extensions", Json.ofList .str extensions)]
  | registryReady dialects => [("dialects", Json.ofList (fun dialect => .str dialect.name) dialects)]
  | generationFailed dialect error | headerFailed dialect error =>
    [dialectField dialect, ("error", .str error)]
  | configured debug templateFolder =>
    [("debug", .bool debug), ("template_dir", (templateFolder.map Json.text).getD (.str "bundled"))]
  | starting version => [("version", .str version)]
  | stopped => []

def record (event : Event) : Record where
  level := event.level
  logger := event.logger.toList
  name := event.name.toList
  fields := event.fields.map fun (name, value) => (name.toList, value)

def toJson (event : Event) : Json := event.record.toJson

end Event

end Docblock
