import Docblock.Json.Printer
import Docblock.Settings
import Docblock.Text.Quoted

/-! The log: the records that are serious enough, as JSON or, for debugging, as lines for people. -/

set_option autoImplicit false

namespace Docblock

inductive Log where
  | json (records : List Json)
  | console (lines : List Text)

namespace Record

-- Fields that do not stand in the log: the time of writing, and those that ask for more about the
-- place of the record.
def unwritten : List Text :=
  ["timestamp".toList, "exc_info".toList, "stack_info".toList]

def written (record : Record) : Record :=
  { record with fields := record.fields.filter fun (name, _) => !unwritten.contains name }

/-- A value for people: a text stands as it is, but in quotes if its end could be missed. -/
def shown : Json → Text
  | .text value =>
    if value.any [' ', '\t', '=', '\r', '\n', '"', '\''].contains then Text.quoted value else value
  | value => value.print

-- The record for people. It takes one line, and one more for each line feed in the names it holds.
def console (record : Record) : Text :=
  let fields := record.fields.map fun (name, value) => ' ' :: name ++ '=' :: shown value
  '[' :: record.level.name.toList ++ "] ".toList ++ record.name ++ " [".toList ++ record.logger ++
    ']' :: fields.flatten

end Record

def Settings.admits (settings : Settings) (record : Record) : Bool :=
  settings.level.rank ≤ record.level.rank

def Settings.log (settings : Settings) (records : List Record) : Log :=
  let written := (records.filter settings.admits).map Record.written
  if settings.debug then .console (written.flatMap fun record => record.console.splitOn '\n')
  else .json (written.map Record.toJson)

end Docblock
