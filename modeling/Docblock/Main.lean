import Docblock.Application
import Docblock.Http.Exchange

/-! The command line. Settings come from the environment and the file `.env`; requests are read from
standard input, one record per line; responses go to standard output, and the log to standard error. -/

set_option autoImplicit false

namespace Docblock.CommandLine

/-- The settings in the environment, named in capitals or in small letters. -/
def environment : IO (Entries Text Text) := do
  let names := Setting.all.flatMap fun setting => [setting.name.toUpper, setting.name]
  names.filterMapM fun name => do
    return (← IO.getEnv name).map fun given => (name.toList, given.toList)

-- The text of a file; empty if it cannot be read.
def fileText (path : String) : IO Text := do
  try return (← IO.FS.readFile path).toList catch _ => return []

-- The templates below a folder, as far as plans ask for them; those of the library without one.
def templates : Option Text → IO Template.Store
  | none => return .bundled
  | some folder => do
    let mut store := Template.Store.empty
    for dialect in Dialect.all do
      for (name, _) in Template.bundled dialect do
        let path := Template.Path.ofTemplate dialect name.toList
        let file := String.ofList (folder ++ '/' :: path.toText)
        if let some content ← (some <$> IO.FS.readBinFile file) <|> pure none then
          store := store.write path content
    return store

def writeLog (settings : Settings) (events : List Event) : IO Unit := do
  match settings.log (events.map Event.record) with
  | .json records => for record in records do IO.eprintln (String.ofList record.print)
  | .console lines => for line in lines do IO.eprintln (String.ofList line)

partial def answerAll (settings : Settings) (service : Http.Service) (input : IO.FS.Stream) : IO Unit := do
  let line ← input.getLine
  if line.isEmpty then return
  match Json.read service.depth line.toList with
  | .error _ =>
    IO.println (String.ofList (Http.Response.unreadable .notJson).toJson.print)
    answerAll settings service input
  | .ok record =>
    let reply := service.answer (.ofJson (record.map Points.toText))
    writeLog settings reply.events
    IO.println (String.ofList reply.response.toJson.print)
    answerAll settings { service with cache := reply.cache } input

/-- Serves all requests under the settings; the exit code tells whether these were good. -/
def run : IO UInt32 := do
  let sources : Sources := { environment := ← environment, file := ← fileText ".env" }
  match Settings.read sources.supply with
  | .bad issues =>
    for issue in issues do IO.eprintln (String.ofList issue.toJson.print)
    return 1
  | .good settings =>
    let store ← templates settings.templateFolder
    writeLog settings (Application.startEvents settings)
    answerAll settings { registry := .full settings.windows, store } (← IO.getStdin)
    writeLog settings [.stopped]
    return 0

end Docblock.CommandLine

def main : IO UInt32 := Docblock.CommandLine.run
