import Docblock.Text.Basic

/-! Blank characters, and the trimming and cutting of words that rest on them. -/

set_option autoImplicit false

namespace Docblock

/-- White space in the wide sense: Unicode's spaces and line separators, and the ASCII
control characters that separate lines, files, groups, records and units. -/
def isBlank (c : Char) : Bool :=
  let n := c.toNat
  (9 ≤ n && n ≤ 13) || (28 ≤ n && n ≤ 32) || n == 0x85 || n == 0xA0 || n == 0x1680 ||
    (0x2000 ≤ n && n ≤ 0x200A) || n == 0x2028 || n == 0x2029 || n == 0x202F || n == 0x205F ||
    n == 0x3000

theorem isBlank_of_isWhitespace {c : Char} (h : c.isWhitespace = true) : isBlank c = true := by
  simp only [Char.isWhitespace, Bool.or_eq_true, decide_eq_true_eq] at h
  rcases h with ((rfl | rfl) | rfl) | rfl <;> decide

namespace Text

def blank (text : Text) : Bool :=
  text.all isBlank

def trimLeft (text : Text) : Text :=
  text.dropWhile isBlank

def trimRight (text : Text) : Text :=
  (text.reverse.dropWhile isBlank).reverse

def trim (text : Text) : Text :=
  trimRight (trimLeft text)

/-- The last of the words that blanks separate; empty if there is none. -/
def lastWord (text : Text) : Text :=
  ((text.reverse.dropWhile isBlank).takeWhile fun c => !isBlank c).reverse

end Text

end Docblock
