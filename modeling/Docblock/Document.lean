import Docblock.Text.LineBreak

/-! Source documents as lists of lines, read by line number. -/

set_option autoImplicit false

namespace Docblock

/-- A snapshot of a source text. Lines are numbered from zero and carry no line break. -/
structure Document where
  lines : List Text
  deriving DecidableEq, Repr

structure OutOfRange where
  line : Int
  count : Nat
  deriving DecidableEq, Repr

def OutOfRange.message (error : OutOfRange) : String :=
  s!"Line {error.line} out of range (0..{(error.count : Int) - 1})"

namespace Document

def ofText (text : Text) : Document := ⟨text.lines⟩

def count (doc : Document) : Nat := doc.lines.length

def text (doc : Document) (ending : Text) : Text := Text.join ending doc.lines

def line (doc : Document) (number : Int) : Except OutOfRange Text :=
  if number < 0 then .error ⟨number, doc.count⟩
  else match doc.lines[number.toNat]? with
    | some text => .ok text
    | none => .error ⟨number, doc.count⟩

/-- The nearest line number that a non-empty document has. -/
def clamp (doc : Document) (number : Int) : Int :=
  max 0 (min number (doc.count - 1))

def summary (doc : Document) : String := s!"TextDocument(line_count={doc.count})"

theorem line_eq_ok_iff {doc : Document} {number : Int} {text : Text} :
    doc.line number = .ok text ↔ 0 ≤ number ∧ doc.lines[number.toNat]? = some text := by
  unfold line
  split
  · simp; omega
  · split <;> simp_all

theorem line_natCast (doc : Document) (number : Nat) (h : number < doc.lines.length) :
    doc.line number = .ok doc.lines[number] := by
  simp [line_eq_ok_iff, h]

theorem ofText_lines_ne_nil (text : Text) : (ofText text).lines ≠ [] :=
  Text.lines_ne_nil text

end Document

end Docblock
