import Docblock.Declaration
import Docblock.Event
import Docblock.Lenient
import Docblock.Settings.Dotenv
import Docblock.Template.Store
import Docblock.Text.LowerCase

/-! Settings, read from arguments, the environment and a settings file. -/

set_option autoImplicit false

namespace Docblock

structure Settings where
  appName : Text := "doc-generator".toList
  debug : Bool := false
  level : Level := .info
  host : Text := "127.0.0.1".toList
  tcpPort : Int := 8000
  /-- The root of the templates; without one the bundled templates count. -/
  templateFolder : Option Text := none
  windows : Windows := {}
  deriving DecidableEq, Repr

inductive Setting where
  | appName
  | debug
  | level
  | host
  | tcpPort
  | templateFolder
  | commentLookback
  | annotationRun
  | signature
  | declaration
  | enumBlock
  | enclosingType
  deriving DecidableEq, Repr

namespace Setting

def name : Setting → String
  | appName => "app_name"
  | debug => "debug"
  | level => "log_level"
  | host => "host"
  | tcpPort => "port"
  | templateFolder => "template_dir"
  | commentLookback => "comment_lookback_lines"
  | annotationRun => "annotation_run_lines"
  | signature => "signature_window_lines"
  | declaration => "declaration_window_lines"
  | enumBlock => "enum_block_window_lines"
  | enclosingType => "enclosing_type_window_lines"

def all : List Setting :=
  [appName, debug, level, host, tcpPort, templateFolder, commentLookback, annotationRun, signature,
   declaration, enumBlock, enclosingType]

theorem mem_all (setting : Setting) : setting ∈ all := by
  cases setting <;> decide

def isName (name : Text) : Bool := all.any (·.name.toList == name)

end Setting

/-- What is done for settings outside of them: which value is given for each, what else is given under names of no
setting, and how values are converted. -/
structure Supply where
  value? : Setting → Option Json
  unknown : Entries Text Json
  text : Json → Except Fault Text
  bool : Json → Except Fault Bool
  int : Json → Except Fault Int
  folder : Json → Except Fault (Option Text)

/-- Where settings come from. An argument goes before the environment, the environment before the
settings file, and all of them before the default. -/
structure Sources where
  arguments : Entries Text Json := []
  environment : Entries Text Text := []
  file : Text := []

namespace Sources

def lowerNames {α : Type} (entries : Entries Text α) : Entries Text α :=
  Entries.gather (entries.map fun (name, given) => (name.lower, given))

/-- What the settings file gives; names that it leaves without a value give nothing. -/
def fileValues (sources : Sources) : Entries Text Text :=
  (lowerNames (Dotenv.read sources.environment sources.file)).filterMap fun (name, given) =>
    given.map (name, ·)

-- What the arguments give for a setting, whose name may be spelled in any case; of several
-- spellings the first counts.
def argument? (sources : Sources) (setting : Setting) : Option Json :=
  (sources.arguments.find? (·.1.lower == setting.name.toList)).map (·.2)

def value? (sources : Sources) (setting : Setting) : Option Json :=
  let name := setting.name.toList
  sources.argument? setting <|>
    ((lowerNames sources.environment).lookup name <|> sources.fileValues.lookup name).map .text

/-- Names that belong to no setting in any spelling, of the settings file first and of the arguments
then. The environment may hold what it likes. -/
def unknown (sources : Sources) : Entries Text Json :=
  let inFile := sources.fileValues.filter fun (name, given) => !given.isEmpty && !Setting.isName name
  Entries.gather (inFile.map (fun (name, given) => (name, .text given)) ++
    sources.arguments.filter fun (name, _) => !Setting.isName name.lower)

/-- The plain form of a folder's path: empty parts and single dots do not count. Exactly two slashes
in front are a root of their own. -/
def plainPath (path : Text) : Text :=
  let slashes := (path.takeWhile (· == '/')).length
  let root := List.replicate (if slashes = 2 then 2 else min slashes 1) '/'
  match root ++ Template.Path.toText (Template.Path.ofText path) with
  | [] => ['.']
  | plain => plain

def readFolder : Json → Except Fault (Option Text)
  | .null => return none
  | .text path => return some (plainPath path)
  | _ => throw .notPath

def supply (sources : Sources) : Supply where
  value? := sources.value?
  unknown := sources.unknown
  text := Lenient.text
  bool := Lenient.bool
  int := Lenient.int
  folder := readFolder

end Sources

namespace Settings
variable (supply : Supply)

-- The upper case of a letter as far as it matters for names of levels: besides the ASCII letters
-- the dotless i and the long s have a capital among them.
def capital (c : Char) : Char :=
  if c = 'ı' then 'I' else if c = 'ſ' then 'S' else c.toUpper

def readLevel (given : Json) : Except Fault Level := do
  let name ← supply.text given
  match Level.all.find? fun level => level.name.toUpper.toList == name.map capital with
  | some level => return level
  | none => throw (.rule "log_level must be one of ")

-- The size of a scan window, one line at least.
def readWindow (given : Json) : Except Fault Int := do
  let size ← supply.int given
  if size < 1 then throw (.rule "scan windows must be at least one line") else return size

/-- Annotation runs lie inside signatures, and signatures inside the search for declarations. -/
def orderly (windows : Windows) : Bool :=
  windows.annotationRun < windows.signature && windows.signature < windows.declaration

def disorder : Issue where
  place := some []
  fault := .rule "scan windows must satisfy annotation_run_lines < signature_window_lines < declaration_window_lines"
  value := .null

def field {α : Type} (setting : Setting) (convert : Json → Except Fault α) (default : α) : Checked α :=
  match supply.value? setting with
  | some given => Checked.value [setting.name.toList] convert given
  | none => .good default

def readWindows : Checked Windows :=
  let standard : Windows := {}
  let window (setting : Setting) (default : Int) : Checked Int :=
    field supply setting (readWindow supply) default
  Windows.mk <$> window .commentLookback standard.commentLookback
    <*> window .annotationRun standard.annotationRun
    <*> window .signature standard.signature
    <*> window .declaration standard.declaration
    <*> window .enumBlock standard.enumBlock
    <*> window .enclosingType standard.enclosingType

def readFields : Checked Settings :=
  let standard : Settings := {}
  Settings.mk <$> field supply .appName supply.text standard.appName
    <*> field supply .debug supply.bool standard.debug
    <*> field supply .level (readLevel supply) standard.level
    <*> field supply .host supply.text standard.host
    <*> field supply .tcpPort supply.int standard.tcpPort
    <*> field supply .templateFolder supply.folder standard.templateFolder
    <*> readWindows supply

def unknownIssue (entry : Text × Json) : Issue := ⟨some [entry.1], .unexpected, entry.2⟩

/-- Reads the settings. The order of the windows is looked at only if all else is good. -/
def read : Checked Settings :=
  ((readFields supply).alsoBad (supply.unknown.map unknownIssue)).ensure
    (fun settings => orderly settings.windows) disorder

end Settings

end Docblock
