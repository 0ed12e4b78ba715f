import Docblock.Buffer
import Docblock.Completion
import Docblock.Http.Endpoint
import Docblock.Http.Query
import Docblock.Planner
import Docblock.Registry

/-! The service: a request and the templates loaded so far lead to a response and reports. -/

set_option autoImplicit false

namespace Docblock.Http

structure Request where
  method : Text
  target : Text
  body : ByteArray

inductive Payload where
  | json (value : Json)
  | text (value : String)

structure Response where
  status : Nat
  payload : Payload

structure Service where
  registry : Registry
  store : Template.Store
  cache : Template.Cache := []
  /-- How many arrays and objects of a request may stand in each other. -/
  depth : Nat := 960

structure Reply where
  response : Response
  cache : Template.Cache
  events : List Event

namespace Response

def ok (value : Json) : Response := ⟨200, .json value⟩

def detail (status : Nat) (words : Text) : Response := ⟨status, .json (.record [("detail", .text words)])⟩

def internalError : Response := ⟨500, .text "Internal Server Error"⟩

def unknownPath : Response := detail 404 "Not Found".toList

def wrongMethod : Response := detail 405 "Method Not Allowed".toList

-- A refusal with all that is wrong in a request. A report that quotes a number that is not finite
-- cannot be written.
def invalid (issues : List Issue) : Response :=
  if issues.all (·.value.isFinite) then
    ⟨422, .json (.record [("detail", Json.ofList Issue.toJson issues)])⟩
  else internalError

def unreadable : BodyError → Response
  | .empty => invalid [⟨some Query.bodyPlace, .missing, .null⟩]
  | .notJson => invalid [⟨none, .notJson, .object []⟩]
  | .unreadable => detail 400 "There was an error parsing the body".toList

def unsupported (source : Source) : Response :=
  let hint := (source.language?.orElse fun _ => source.filePath).getD []
  detail 422 ("Unsupported language: ".toList ++ hint ++ ". Supported: Apex, JavaScript, TypeScript.".toList)

def missedDeclaration (line : Int) : Response :=
  detail 404 ("No declaration detected near line ".toList ++ decimal line)

def missedHeader : Response :=
  detail 404 "File header already exists or this is not an Aura helper file".toList

def health (registry : Registry) : Response :=
  ok (.record [("status", .str "healthy"), ("version", .str version),
    ("dialects", Json.ofList (fun dialect => .str dialect.name) registry.dialects)])

def alive : Response := ok (.record [("alive", .bool true)])

def infoJson (info : Info) : Json :=
  .record [("kind", .str info.site.kind.name), ("line", .int info.site.line),
    ("insert_line", .int info.insertLine), ("enclosing_type", .ofOption .text info.enclosingType),
    ("parameters", Json.ofList .text info.parameters)]

def located (dialect : Dialect) (info : Option Info) : Response :=
  ok (.record [("dialect", .str dialect.name), ("declaration", .ofOption infoJson info)])

def planned (dialect : Dialect) (plan : Plan) (rendered : Text) : Response :=
  ok (.record [("dialect", .str dialect.name), ("template_name", .text plan.templateName),
    ("kind", .ofOption (fun kind => .str kind.name) plan.kind),
    ("declaration_line", .ofOption .int plan.declarationLine),
    ("parameters", Json.ofList .text plan.parameters), ("insert_line", .int plan.insertLine),
    ("insert_column", .int plan.insertColumn), ("is_file_header", .bool plan.isFileHeader),
    ("lines", Json.ofList .text plan.lines), ("snippet", .text plan.snippet),
    ("rendered_text", .text rendered)])

def completionJson (item : Completion) : Json :=
  .record [("label", .str item.label), ("insert_text", .str item.insertText),
    ("kind", .str item.kind.name), ("detail", .str item.detail),
    ("replace_start", .ofOption (fun range => .int range.1) item.replaces),
    ("replace_end", .ofOption (fun range => .int range.2) item.replaces)]

def completed (dialect : Dialect) (items : List Completion) : Response :=
  ok (.record [("dialect", .str dialect.name),
    ("trigger_characters", Json.ofList .str (Completion.triggers dialect)),
    ("items", Json.ofList completionJson items)])

end Response

namespace Service

def silent (service : Service) (response : Response) : Reply := ⟨response, service.cache, []⟩

-- The grammar for a source: by its language, or else by its path.
def grammar? (service : Service) (source : Source) : Option Grammar :=
  (source.language?.bind service.registry.ofLanguage?).orElse fun _ =>
    source.filePath?.bind service.registry.ofFile?

def query {α : Type} (service : Service) (body : ByteArray) (fields : Json → Checked α)
    (source : α → Source) (answer : Grammar → Document → α → Reply) : Reply :=
  match readBody service.depth body with
  | .error error => service.silent (.unreadable error)
  | .ok value =>
    match Query.read fields source value with
    | .bad issues => service.silent (.invalid issues)
    | .good query =>
      match service.grammar? (source query) with
      | none => service.silent (.unsupported (source query))
      | some grammar => answer grammar (.ofText (source query).text) query

def locate (service : Service) (grammar : Grammar) (doc : Document) (query : LineQuery) : Reply :=
  match Planner.describe grammar doc query.line with
  | .error _ => service.silent .internalError
  | .ok (search, info) =>
    ⟨.located grammar.dialect info, service.cache, Event.ofSearch grammar.dialect search⟩

-- The response to a plan that was made: the plan is carried out on a buffer of its own.
def carryOut (dialect : Dialect) (doc : Document) (plan : Plan) : Response :=
  match Buffer.insert { document := doc } plan.lines plan.insertLine plan.insertColumn with
  | .error _ => .internalError
  | .ok buffer => .planned dialect plan (buffer.document.text ['\n'])

/-- The reply to planning. Faults of templates are told to the caller and reported. -/
def replyToPlan (dialect : Dialect) (doc : Document) (missed : Response)
    (failed : Dialect → String → Event) (outcome : Planner.Outcome (Option Plan)) : Reply :=
  match outcome.result with
  | .ok (some plan) => ⟨carryOut dialect doc plan, outcome.cache, outcome.events⟩
  | .ok none => ⟨missed, outcome.cache, outcome.events⟩
  | .error failure =>
    match failure.reported? with
    | some words =>
      ⟨.detail 500 words.toList, outcome.cache, outcome.events ++ [failed dialect words]⟩
    | none => ⟨.internalError, outcome.cache, outcome.events⟩

def generate (service : Service) (grammar : Grammar) (doc : Document) (query : LineQuery) : Reply :=
  replyToPlan grammar.dialect doc (.missedDeclaration query.line) .generationFailed
    (Planner.generate service.store service.cache grammar doc query.line)

def fileHeader (service : Service) (grammar : Grammar) (doc : Document) (_ : Source) : Reply :=
  replyToPlan grammar.dialect doc .missedHeader .headerFailed
    (Planner.fileHeader service.store service.cache grammar doc)

def complete (service : Service) (grammar : Grammar) (doc : Document) (query : CursorQuery) : Reply :=
  match Completion.suggest grammar doc query.line query.character with
  | .error _ => service.silent .internalError
  | .ok (search, items) =>
    ⟨.completed grammar.dialect items, service.cache, Event.ofSearch grammar.dialect search⟩

def serve (service : Service) (body : ByteArray) : Endpoint → Reply
  | .health => service.silent (.health service.registry)
  | .alive => service.silent .alive
  | .locate => service.query body Query.readLineQuery (·.source) service.locate
  | .generate => service.query body Query.readLineQuery (·.source) service.generate
  | .fileHeader => service.query body Query.readSource id service.fileHeader
  | .complete => service.query body Query.readCursorQuery (·.source) service.complete

def route (service : Service) (request : Request) : Reply :=
  match Route.find request.method request.target with
  | .unknownPath => service.silent .unknownPath
  | .wrongMethod => service.silent .wrongMethod
  | .endpoint endpoint => service.serve request.body endpoint

/-- Answers a request. The method may be spelled in any case, and HEAD leaves the payload out. -/
def answer (service : Service) (request : Request) : Reply :=
  let method := request.method.map Char.toUpper
  let reply := service.route { request with method }
  if method = "HEAD".toList then { reply with response := ⟨reply.response.status, .text ""⟩ } else reply

end Service

end Docblock.Http
