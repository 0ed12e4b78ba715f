import Docblock.Document.Scan
import Docblock.Text.Blank

/-! Comments: trailing line comments, and the blocks that doc comments are written in. -/

set_option autoImplicit false

namespace Docblock.Comment

def opener : Text := "/**".toList

def closer : Text := "*/".toList

def stripLine (text : Text) : Text :=
  text.cutAt "//".toList

/-- Whether a line stands inside a doc comment block that is still open. A line that opens a block or
goes on with an asterisk counts. For any other the nearest marker decides, on the line itself or at
most `lookback` lines above; of two markers on one line the closing one does. -/
def inside (doc : Document) (line lookback : Int) : Except OutOfRange Bool := do
  if line < 0 ∨ doc.count ≤ line then return false
  let text := (← doc.line line).trim
  if opener.isPrefixOf text || text.head? == some '*' then return true
  let nearest ← scanUp line (max 0 (line - lookback)) fun i => do
    let text ← doc.line i
    return if text.holds closer then some false else if text.holds opener then some true else none
  return nearest.getD false

/-- The first line that closes a block, at most `lookahead` lines below. -/
def blockEnd (doc : Document) (line lookahead : Int) : Except OutOfRange (Option Int) :=
  scanDown (max 0 line) (min (doc.count - 1) (line + lookahead)) fun i => do
    return if (← doc.line i).holds closer then some i else none

end Docblock.Comment
