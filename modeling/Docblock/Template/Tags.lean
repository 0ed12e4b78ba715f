import Docblock.Grammar
import Docblock.Snippet

/-! Fitting a template to a declaration: its parameter lines are replaced by those of the declaration,
and a return line is added where there is none. -/

set_option autoImplicit false

namespace Docblock.Template

def hasTag (tag : Pattern) (line : Text) : Bool := tag.matchesAt line.trim

def insertBeforeLast (block lines : List Text) : List Text :=
  lines.take (lines.length - 1) ++ block ++ lines.drop (lines.length - 1)

/-- Puts a block of lines in the place of the first parameter line and drops the other parameter
lines. Without one the block goes behind the first description line, and without that in front of the
last line. -/
def injectParameters (markers : Markers) (template block : List Text) : List Text :=
  match template.span fun line => !hasTag markers.param line with
  | (above, _ :: below) => above ++ block ++ below.filter fun line => !hasTag markers.param line
  | (_, []) =>
    match template.span fun line => !hasTag markers.description line with
    | (above, description :: below) => above ++ description :: (block ++ below)
    | (_, []) => insertBeforeLast block template

/-- Adds a return line, unless there is one: in front of the first example line, or else of the last
line. Its tab stop is the first that the lines leave free. -/
def ensureReturn (markers : Markers) (lines : List Text) : Except DigitLimit (List Text) := do
  if lines.any (hasTag markers.returns) then return lines
  let returnLine := markers.returnLine (← writeNumber (← Snippet.nextStop lines))
  match lines.span fun line => !hasTag markers.sample line with
  | (above, sample :: below) => return above ++ returnLine :: sample :: below
  | (_, []) => return insertBeforeLast [returnLine] lines

end Docblock.Template
