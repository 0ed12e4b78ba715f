import Docblock.AuraFile
import Docblock.Event
import Docblock.Grammar.VariableType
import Docblock.Plan
import Docblock.Signature
import Docblock.Template.Store
import Docblock.Template.Tags

/-! Planning comments: find the declaration, read its parameters, fill the template. The templates that
were loaded once are kept between plans. -/

set_option autoImplicit false

namespace Docblock

inductive Failure where
  | outOfRange (error : OutOfRange)
  | template (error : Template.Error)
  | tooLong (limit : DigitLimit)
  | noTemplate (kind : Kind)
  deriving DecidableEq, Repr

namespace Failure

def message : Failure → String
  | outOfRange error => error.message
  | template error => error.message
  | tooLong limit => limit.message
  | noTemplate kind => s!"no template belongs to declarations of kind {kind.name}"

/-- The message, for a failure that a caller is told about. -/
def reported? : Failure → Option String
  | template error => if error.isReported then some error.message else none
  | _ => none

end Failure

namespace Planner

/-- What one call leaves behind: its result, the cache after it, and the events in their order. -/
structure Outcome (α : Type) where
  result : Except Failure α
  cache : Template.Cache
  events : List Event

def describe (grammar : Grammar) (doc : Document) (line : Int) :
    Except OutOfRange (Search × Option Info) := do
  let search ← Search.run grammar doc line
  match search.site? with
  | none => return (search, none)
  | some site =>
    let insertLine ← AnnotationRun.insertionLine grammar doc site.line
    let enclosingType ← grammar.enclosingType? doc site.line
    let parameters ← Signature.parameters grammar doc site.line site.kind
    return (search, some ⟨site, insertLine, enclosingType, parameters⟩)

def templateName? : Dialect → Kind → Option String
  | .apex, .type => some "class"
  | .apex, .method | .apex, .constructor => some "method"
  | .apex, .property => some "property"
  | .apex, .enumValue => some "enumValue"
  | .javaScript, .function => some "functions"
  | .javaScript, .method | .javaScript, .type | .javaScript, .property => some "method"
  | .javaScript, .var => some "variable"
  | _, _ => none

def headerTemplate : Text := "file".toList

/-- The lines of a template with a variable's type in the places kept for it. -/
def withType (type : Text) (lines : List Text) : List Text :=
  let braced := '\x7b' :: type ++ ['\x7d']
  lines.map fun line =>
    (line.replace "\x7b$\x7b1:any\x7d\x7d".toList braced).replace "\x7bany\x7d".toList braced

def apexParamLine (name : Text) : Text := " * @param ".toList ++ name ++ " description".toList

def scriptParamLine (description name : Text) : Text :=
  " * @param \x7bany\x7d ".toList ++ name ++ ' ' :: description

-- The parameter lines of a script: the description of the first is a tab stop, the first that the
-- lines to be kept leave free.
def scriptParamLines (markers : Markers) (template : List Text) :
    List Text → Except DigitLimit (List Text)
  | [] => return []
  | first :: rest => do
    let kept := template.filter fun line => !Template.hasTag markers.param line
    let stop ← writeNumber (← Snippet.nextStop kept)
    return scriptParamLine ("$\x7b".toList ++ stop ++ ":description\x7d".toList) first ::
      rest.map (scriptParamLine "description".toList)

-- The lines of an Apex comment. Only methods get a return line.
def apexLines (markers : Markers) (template : List Text) (kind : Kind) (parameters : List Text) :
    Except DigitLimit (List Text) :=
  let lines :=
    if parameters.isEmpty then template
    else Template.injectParameters markers template (parameters.map apexParamLine)
  if kind = .method then Template.ensureReturn markers lines else return lines

def scriptLines (markers : Markers) (template : List Text) (parameters : List Text) :
    Except DigitLimit (List Text) := do
  if parameters.isEmpty then Template.ensureReturn markers template
  else
    let block ← scriptParamLines markers template parameters
    Template.ensureReturn markers (Template.injectParameters markers template block)

/-- The type of the variable on a line, `any` if nothing tells it. -/
def variableType (doc : Document) (line : Int) : Except OutOfRange Text := do
  match JavaScript.variableType? (← doc.line line) with
  | some (c :: rest) => return c :: rest
  | _ => return "any".toList

def lift {ε α : Type} (wrap : ε → Failure) : Except ε α → Except Failure α :=
  Except.mapError wrap

def siteLines (grammar : Grammar) (doc : Document) (site : Site) (template parameters : List Text) :
    Except Failure (List Text) :=
  match grammar.dialect, site.kind with
  | .apex, kind => lift .tooLong (apexLines grammar.markers template kind parameters)
  | .javaScript, .var =>
    lift .outOfRange ((variableType doc site.line).map fun type => withType type template)
  | .javaScript, .method | .javaScript, .function =>
    lift .tooLong (scriptLines grammar.markers template parameters)
  | .javaScript, _ => .ok template

def fill (grammar : Grammar) (doc : Document) (site : Site) (name : Text) (template : List Text) :
    Except Failure Plan := do
  let parameters ← lift .outOfRange (Signature.parameters grammar doc site.line site.kind)
  let lines ← siteLines grammar doc site template parameters
  let insertLine ← lift .outOfRange (AnnotationRun.insertionLine grammar doc site.line)
  return { templateName := name, lines, insertLine, kind := some site.kind,
           declarationLine := some site.line, parameters }

/-- What a comment is planned for. -/
inductive Target where
  | header
  | site (site : Site)
  deriving DecidableEq, Repr

/-- What a call aims at, and the search that it made for it, if any. -/
structure Aim where
  search : Search
  target? : Option Target
  deriving DecidableEq, Repr

/-- Whether the focus is on the line that opens a helper without a header above it. -/
def headerOnOpenLine (doc : Document) (line : Int) : Except OutOfRange Bool := do
  let focus := doc.clamp line
  if AuraFile.opensHelper (← doc.line focus) then return !(← AuraFile.hasHeader doc focus)
  else return false

/-- Whether the focus is on or above the first code of a helper without a header. -/
def headerAtTop (doc : Document) (line : Int) : Except OutOfRange Bool := do
  let preamble ← AuraFile.preamble doc
  if preamble.isHelper && line ≤ preamble.firstCode then
    return !(← AuraFile.hasHeader doc preamble.firstCode)
  else return false

/-- Chooses between the declaration near a line and, in scripts, the file header. -/
def aim (grammar : Grammar) (doc : Document) (line : Int) : Except OutOfRange Aim := do
  if doc.lines.isEmpty then return ⟨.idle, none⟩
  let isScript := grammar.dialect = .javaScript
  if isScript then
    if ← headerOnOpenLine doc line then return ⟨.idle, some .header⟩
  let search ← Search.run grammar doc line
  match search.site? with
  | some site => return ⟨search, some (.site site)⟩
  | none =>
    if isScript then
      if ← headerAtTop doc line then return ⟨search, some .header⟩
    return ⟨search, none⟩

def loadEvents (dialect : Dialect) (name : Text) (fetched : Template.Fetched) : List Event :=
  if fetched.loaded then [.templateLoaded dialect name fetched.lines.length] else []

def headerPlan (template : List Text) : Plan :=
  { templateName := headerTemplate, lines := template ++ [[]], insertLine := 0, isFileHeader := true }

-- Plans a file header; `before` holds the events so far.
def planHeader (store : Template.Store) (cache : Template.Cache) (dialect : Dialect)
    (before : List Event) : Outcome (Option Plan) :=
  match cache.get store dialect headerTemplate with
  | .error error => ⟨.error (.template error), cache, before⟩
  | .ok fetched =>
    ⟨.ok (some (headerPlan fetched.lines)), fetched.cache,
      before ++ loadEvents dialect headerTemplate fetched ++ [.headerPlanned dialect]⟩

def planSite (store : Template.Store) (cache : Template.Cache) (grammar : Grammar) (doc : Document)
    (site : Site) (before : List Event) : Outcome (Option Plan) :=
  match templateName? grammar.dialect site.kind with
  | none => ⟨.error (.noTemplate site.kind), cache, before⟩
  | some name =>
    match cache.get store grammar.dialect name.toList with
    | .error error => ⟨.error (.template error), cache, before⟩
    | .ok fetched =>
      let events := before ++ loadEvents grammar.dialect name.toList fetched
      match fill grammar doc site name.toList fetched.lines with
      | .error failure => ⟨.error failure, fetched.cache, events⟩
      | .ok plan =>
        ⟨.ok (some plan), fetched.cache,
          events ++ [.planCreated grammar.dialect site plan.insertLine plan.parameters.length]⟩

/-- Plans the comment for the declaration near a line; there is no plan if none is near. -/
def generate (store : Template.Store) (cache : Template.Cache) (grammar : Grammar) (doc : Document)
    (line : Int) : Outcome (Option Plan) :=
  match aim grammar doc line with
  | .error error => ⟨.error (.outOfRange error), cache, []⟩
  | .ok ⟨search, target?⟩ =>
    let events := Event.ofSearch grammar.dialect search
    match target? with
    | some .header => planHeader store cache grammar.dialect events
    | some (.site site) => planSite store cache grammar doc site events
    | none =>
      ⟨.ok none, cache,
        if doc.lines.isEmpty then [] else events ++ [.planMissed grammar.dialect line]⟩

def wantsHeader (grammar : Grammar) (doc : Document) : Except OutOfRange Bool := do
  if grammar.dialect = .apex ∨ doc.lines.isEmpty then return false
  let preamble ← AuraFile.preamble doc
  if preamble.isHelper then return !(← AuraFile.hasHeader doc preamble.firstCode) else return false

def fileHeader (store : Template.Store) (cache : Template.Cache) (grammar : Grammar) (doc : Document) :
    Outcome (Option Plan) :=
  match wantsHeader grammar doc with
  | .error error => ⟨.error (.outOfRange error), cache, []⟩
  | .ok true => planHeader store cache grammar.dialect []
  | .ok false => ⟨.ok none, cache, []⟩

end Planner

end Docblock
