import Docblock.Text.LineBreak

/-! Strings as rows of code points. Besides characters they can hold halves of surrogate pairs that stand
alone, which no text of characters can. -/

set_option autoImplicit false

namespace Docblock

inductive Point where
  | char (c : Char)
  /-- The half whose code is `0xD800 + offset`. -/
  | half (offset : Fin 0x800)
  deriving DecidableEq, Repr

/-- The character of a code point; half of a pair is shown as the replacement character. -/
def Point.toChar : Point → Char
  | char c => c
  | half _ => '\ufffd'

def Point.ofCode (code : Nat) : Point :=
  if within : 0xD800 ≤ code ∧ code < 0xE000 then half ⟨code - 0xD800, by omega⟩ else char (Char.ofNat code)

abbrev Points := List Point

namespace Points

def ofText (text : Text) : Points := text.map .char

def toText (points : Points) : Text := points.map Point.toChar

def linesBy (ends : Char → Bool) : Points → List Points
  | [] => [[]]
  | .char '\r' :: .char '\n' :: rest => [] :: linesBy ends rest
  | point :: rest =>
    if ends point.toChar then [] :: linesBy ends rest
    else match linesBy ends rest with
      | [] => [[point]]
      | line :: more => (point :: line) :: more

/-- The lines of prose in a string; half of a pair ends none. -/
def proseLines (points : Points) : List Points :=
  let pieces := linesBy Text.endsProseLine points
  if pieces.getLast? = some [] then pieces.dropLast else pieces

@[simp] theorem toText_ofText (text : Text) : toText (ofText text) = text := by
  simp [toText, ofText, Function.comp_def, Point.toChar]

@[simp] theorem ofText_inj {text other : Text} : ofText text = ofText other ↔ text = other :=
  ⟨fun same => by simpa using congrArg toText same, congrArg ofText⟩

theorem map_toText_ofText (rows : List Text) : (rows.map ofText).map toText = rows := by
  simp [Function.comp_def]

theorem linesBy_ofText_cons {c : Char} {rest : Text} (ends : Char → Bool)
    (no_pair : ∀ more, c = '\r' → rest = '\n' :: more → False) :
    linesBy ends (ofText (c :: rest)) =
      if ends c then [] :: linesBy ends (ofText rest)
      else match linesBy ends (ofText rest) with
        | [] => [[.char c]]
        | line :: more => (.char c :: line) :: more := by
  refine linesBy.eq_3 ends _ _ fun more return_eq feed_eq => ?_
  obtain ⟨d, tail, rfl, feed_eq, _⟩ := List.map_eq_cons_iff.mp feed_eq
  exact no_pair tail (Point.char.inj return_eq) (by rw [Point.char.inj feed_eq])

theorem linesBy_ofText (ends : Char → Bool) (text : Text) :
    linesBy ends (ofText text) = (Text.linesBy ends text).map ofText := by
  fun_induction Text.linesBy ends text with
  | case1 => rfl
  | case2 rest ih => exact congrArg ([] :: ·) ih
  | case3 c rest no_pair ended ih =>
    rw [linesBy_ofText_cons ends no_pair, if_pos ended, ih]
    rfl
  | case4 c rest no_pair goes_on none_below ih => exact absurd none_below (Text.linesBy_ne_nil ends rest)
  | case5 c rest no_pair goes_on line more below ih =>
    rw [linesBy_ofText_cons ends no_pair, if_neg goes_on, ih, below]
    rfl

theorem proseLines_ofText (text : Text) : proseLines (ofText text) = text.proseLines.map ofText := by
  have last : (((Text.linesBy Text.endsProseLine text).map ofText).getLast? = some []) ↔
      (Text.linesBy Text.endsProseLine text).getLast? = some [] := by
    rw [List.getLast?_map, show ([] : Points) = ofText [] from rfl, Option.map_eq_some_iff]
    simp
  simp only [proseLines, Text.proseLines, linesBy_ofText, last, ← List.map_dropLast]
  split <;> rfl

end Points

end Docblock
