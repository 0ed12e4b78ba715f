import Docblock.Document
import Docblock.Snippet

/-! A document that snippets are inserted into. -/

set_option autoImplicit false

namespace Docblock

structure Buffer where
  document : Document
  insertions : Nat := 0
  deriving DecidableEq, Repr

/-- Why an insertion fails: a line before the first is moved to the first, and there is none. -/
structure NoFirstLine where
  deriving DecidableEq, Repr

def NoFirstLine.message (_ : NoFirstLine) : String := "list index out of range"

namespace Buffer

/-- The text of a document with `inserted` behind its last line, on a line of its own. -/
def appended (doc : Document) (inserted : Text) : Text :=
  let text := doc.text ['\n']
  text ++ (if text.isEmpty then [] else ['\n']) ++ inserted

-- The text that has `inserted` in the middle of a line, `above` and `below` being the other lines.
def spliced (above : List Text) (line : Text) (below : List Text) (inserted : Text) (column : Int) : Text :=
  let cut := column.toNat
  Text.join ['\n'] (above ++ [line.take cut]) ++ inserted ++
    Text.join ['\n'] (line.drop cut :: below)

-- The text after an insertion. The column is moved into the line.
def insertedText (doc : Document) (inserted : Text) (line column : Int) : Except NoFirstLine Text :=
  match doc.lines.drop line.toNat with
  | target :: below => .ok (spliced (doc.lines.take line.toNat) target below inserted column)
  | [] => if line < 0 then .error ⟨⟩ else .ok (appended doc inserted)

/-- Inserts the plain text of a snippet, each of its lines ended. -/
def insert (buffer : Buffer) (snippet : List Text) (line column : Int) : Except NoFirstLine Buffer := do
  let inserted := Snippet.render (Text.join ['\n'] snippet ++ ['\n'])
  return ⟨.ofText (← insertedText buffer.document inserted line column), buffer.insertions + 1⟩

end Buffer

end Docblock
