import Docblock.Json.Double

/-! What can be wrong with values that come from outside, and readings that gather all that is wrong
instead of stopping at the first fault. -/

set_option autoImplicit false

namespace Docblock

inductive Fault where
  | missing
  | notText
  | notInt
  | unreadableInt
  | longInt
  | fraction
  | notFinite
  | notBool
  | unreadableBool
  | notPath
  | belowZero
  | unexpected
  | notObject
  | notJson
  | rule (text : String)
  deriving DecidableEq, Repr

namespace Fault

def name : Fault → String
  | missing => "missing"
  | notText => "string_type"
  | notInt => "int_type"
  | unreadableInt => "int_parsing"
  | longInt => "int_parsing_size"
  | fraction => "int_from_float"
  | notFinite => "finite_number"
  | notBool => "bool_type"
  | unreadableBool => "bool_parsing"
  | notPath => "path_type"
  | belowZero => "greater_than_equal"
  | unexpected => "extra_forbidden"
  | notObject => "model_attributes_type"
  | notJson => "json_invalid"
  | rule _ => "value_error"

def message : Fault → String
  | missing => "Field required"
  | notText => "Input should be a valid string"
  | notInt => "Input should be a valid integer"
  | unreadableInt => "Input should be a valid integer, unable to parse string as an integer"
  | longInt => "Unable to parse input string as an integer, exceeded maximum size"
  | fraction => "Input should be a valid integer, got a number with a fractional part"
  | notFinite => "Input should be a finite number"
  | notBool => "Input should be a valid boolean"
  | unreadableBool => "Input should be a valid boolean, unable to interpret input"
  | notPath => "Input is not a valid path for <class 'pathlib.Path'>"
  | belowZero => "Input should be greater than or equal to 0"
  | unexpected => "Extra inputs are not permitted"
  | notObject => "Input should be a valid dictionary or object to extract fields from"
  | notJson => "JSON decode error"
  | rule text => "Value error, " ++ text

end Fault

structure Issue where
  /-- The path of the value at fault; a text that cannot be read as a whole has none. -/
  place : Option (List Text)
  fault : Fault
  value : Json
  deriving Repr

def Issue.toJson (issue : Issue) : Json :=
  .record ([("type", .str issue.fault.name), ("msg", .str issue.fault.message)] ++
    match issue.place with
    | some path => [("loc", Json.ofList .text path)]
    | none => [])

/-- A value that was read, or all that is wrong with what it was read from. -/
inductive Checked (α : Type) where
  | good (value : α)
  | bad (issues : List Issue)

namespace Checked

variable {α β : Type}

def map (f : α → β) : Checked α → Checked β
  | good value => good (f value)
  | bad issues => bad issues

/-- Reads two parts. The faults of the first come before those of the second. -/
def both (f : Checked (α → β)) (part : Checked α) : Checked β :=
  match f, part with
  | good f, good value => good (f value)
  | good _, bad issues => bad issues
  | bad issues, good _ => bad issues
  | bad first, bad second => bad (first ++ second)

instance : Applicative Checked where
  pure := good
  map := map
  seq f part := both f (part ())

def alsoBad (more : List Issue) : Checked α → Checked α
  | good value => if more.isEmpty then good value else bad more
  | bad issues => bad (issues ++ more)

def value (place : List Text) (convert : Json → Except Fault α) (given : Json) : Checked α :=
  match convert given with
  | .ok value => good value
  | .error fault => bad [⟨some place, fault, given⟩]

def ensure (rule : α → Bool) (issue : Issue) : Checked α → Checked α
  | good value => if rule value then good value else bad [issue]
  | bad issues => bad issues

theorem both_eq_good_iff {f : Checked (α → β)} {part : Checked α} {result : β} :
    both f part = good result ↔ ∃ g value, f = good g ∧ part = good value ∧ g value = result := by
  cases f <;> cases part <;> simp [both]

theorem map_eq_good_iff {f : α → β} {part : Checked α} {result : β} :
    f <$> part = good result ↔ ∃ value, part = good value ∧ f value = result := by
  cases part <;> simp [Functor.map, map]

theorem seq_eq_good_iff {f : Checked (α → β)} {part : Checked α} {result : β} :
    f <*> part = good result ↔ ∃ g value, f = good g ∧ part = good value ∧ g value = result :=
  both_eq_good_iff

theorem value_eq_good_iff {place : List Text} {convert : Json → Except Fault α} {given : Json} {result : α} :
    value place convert given = good result ↔ convert given = .ok result := by
  unfold value
  split <;> simp_all

theorem alsoBad_eq_good_iff {more : List Issue} {part : Checked α} {result : α} :
    part.alsoBad more = good result ↔ part = good result ∧ more = [] := by
  cases part with
  | good value => cases more <;> simp [alsoBad]
  | bad issues => simp [alsoBad]

theorem ensure_eq_good_iff {rule : α → Bool} {issue : Issue} {part : Checked α} {result : α} :
    part.ensure rule issue = good result ↔ part = good result ∧ rule result = true := by
  cases part with
  | good value =>
    cases holds : rule value with
    | true =>
      simp only [ensure, holds, if_true, good.injEq, iff_self_and]
      rintro rfl
      exact holds
    | false =>
      simp only [ensure, holds, Bool.false_eq_true, if_false, reduceCtorEq, false_iff, good.injEq]
      rintro ⟨rfl, passes⟩
      simp [holds] at passes
  | bad issues => simp [ensure]

end Checked

end Docblock
