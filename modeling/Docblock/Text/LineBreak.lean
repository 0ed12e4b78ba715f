import Docblock.Text.Basic

/-! Cutting text into lines, in the narrow sense of source documents and in the wide sense of prose. -/

set_option autoImplicit false

namespace Docblock.Text

/-- The pieces between line breaks. Each character that `ends` accepts is a break, but CR LF is a
single one; what follows the last break is a piece too, so that there is always at least one. -/
def linesBy (ends : Char → Bool) : Text → List Text
  | [] => [[]]
  | '\r' :: '\n' :: rest => [] :: linesBy ends rest
  | c :: rest =>
    if ends c then [] :: linesBy ends rest
    else match linesBy ends rest with
      | [] => [[c]]
      | line :: more => (c :: line) :: more

def lines (text : Text) : List Text :=
  linesBy (fun c => c == '\r' || c == '\n') text

-- The characters that end a line of prose: besides CR and LF the vertical tab, the form feed, the
-- separators of files, groups and records, the next line, and the line and paragraph separators.
def endsProseLine (c : Char) : Bool :=
  let n := c.toNat
  (10 ≤ n && n ≤ 13) || (28 ≤ n && n ≤ 30) || n == 0x85 || n == 0x2028 || n == 0x2029

/-- The lines of prose; a line break at the very end starts no further line. -/
def proseLines (text : Text) : List Text :=
  let pieces := linesBy endsProseLine text
  if pieces.getLast? = some [] then pieces.dropLast else pieces

theorem linesBy_ne_nil (ends : Char → Bool) (text : Text) : linesBy ends text ≠ [] := by
  fun_cases linesBy ends text <;> simp_all

theorem lines_ne_nil (text : Text) : lines text ≠ [] :=
  linesBy_ne_nil _ text

end Docblock.Text
