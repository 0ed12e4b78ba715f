import Docblock.Proofs.Rows
import Mathlib.Data.Nat.Digits.Defs

/-! Numbers of tab stops. The rows of a comment are numbered on from the tab stops that they hold, which can
fail only on a row of digits as long as the longest number that is read and written. Templates have none such,
nor has any name that holds no dollar sign. -/

set_option autoImplicit false

namespace Docblock

/-! ## Numbers of few digits -/

theorem digitValue?_le {c : Char} {value : Nat} (spelled : digitValue? c = some value) : value ≤ 9 := by
  obtain ⟨first, found, rfl⟩ := Option.map_eq_some_iff.mp spelled
  have within := List.find?_some found
  simp only [Bool.and_eq_true, decide_eq_true_eq] at within
  omega

theorem numberOfDigits_lt (row : Text) : numberOfDigits row < 10 ^ row.length := by
  -- Each digit makes of a number below a bound one below ten times the bound.
  have extended (number bound : Nat) (small : number < bound) :
      row.foldl (fun number c => 10 * number + (digitValue? c).getD 0) number < bound * 10 ^ row.length := by
    induction row generalizing number bound with
    | nil => simpa using small
    | cons c rest ih =>
      have digit_le : (digitValue? c).getD 0 ≤ 9 := by
        cases spelled : digitValue? c with
        | none => simp
        | some value => exact digitValue?_le spelled
      rw [List.foldl_cons, List.length_cons, Nat.pow_succ', ← Nat.mul_assoc]
      exact ih _ _ (by omega)
  have whole := extended 0 1 Nat.zero_lt_one
  rwa [Nat.one_mul] at whole

theorem writeNumber_of_lt {number : Nat} (small : number < 10 ^ maxDigits) :
    writeNumber number = .ok (Nat.toDigits 10 number) := by
  unfold writeNumber
  -- The bound itself is far too large to be computed.
  generalize maxDigits = limit at small ⊢
  have within : ¬ Nat.pow 10 limit ≤ (number : Int).natAbs := Nat.not_le.mpr small
  rw [if_neg within, decimal, if_neg (by omega)]
  rfl

namespace Snippet

/-! ## Tab stops -/

/-- No tab stop of the text has a number of more digits. -/
def StopsWithin (longest : Nat) (text : Text) : Prop := ∀ row ∈ stopDigits text, row.length ≤ longest

instance (longest : Nat) : DecidablePred (StopsWithin longest) := fun _ => List.decidableBAll _ _

theorem StopsWithin.mono {longest other : Nat} {text : Text} (within : StopsWithin longest text)
    (le : longest ≤ other) : StopsWithin other text :=
  fun row member => (within row member).trans le

section
variable {longest : Nat}

theorem highest_ok (limit : longest ≤ maxDigits) {rows : List Text}
    (short : ∀ row ∈ rows, row.length ≤ longest) {least : Nat} (small : least < 10 ^ longest) :
    ∃ number, highest least rows = .ok number ∧ number < 10 ^ longest := by
  induction rows generalizing least with
  | nil => exact ⟨least, rfl, small⟩
  | cons row rest ih =>
    obtain ⟨row_short, rest_short⟩ := List.forall_mem_cons.mp short
    have read : readNumber row = .ok (numberOfDigits row) := if_neg (by omega)
    have row_small : numberOfDigits row < 10 ^ longest :=
      (numberOfDigits_lt row).trans_le (Nat.pow_le_pow_right (by decide) row_short)
    obtain ⟨number, found, number_small⟩ := ih rest_short (Nat.max_lt.mpr ⟨small, row_small⟩)
    exact ⟨number, bind_eq_ok_iff.mpr ⟨_, read, found⟩, number_small⟩

theorem nextStop_ok (limit : longest < maxDigits) {lines : List Text}
    (short : ∀ line ∈ lines, StopsWithin longest line) :
    ∃ (number : Nat) (stop : Text), nextStop lines = .ok number ∧ writeNumber number = .ok stop ∧
      stop.length ≤ longest + 1 := by
  have rows_short : ∀ row ∈ lines.flatMap stopDigits, row.length ≤ longest := by
    intro row member
    obtain ⟨line, line_member, member⟩ := List.mem_flatMap.mp member
    exact short line line_member row member
  obtain ⟨number, found, small⟩ := highest_ok limit.le rows_short (Nat.pow_pos (by decide : 0 < 10))
  have next_small : number + 1 < 10 ^ (longest + 1) := by
    rw [Nat.pow_succ]
    omega
  have written : writeNumber (number + 1 : Nat) = .ok (Nat.toDigits 10 (number + 1)) :=
    writeNumber_of_lt (next_small.trans_le (Nat.pow_le_pow_right (by decide) limit))
  exact ⟨number + 1, _, bind_eq_ok_iff.mpr ⟨number, found, rfl⟩, written,
    Nat.toDigits_length 10 _ _ (Nat.succ_pos longest) next_small⟩

end

/-! ## Rows of digits behind dollar signs -/

/-- The row of digits behind a dollar sign, perhaps with a brace between. -/
def stopRow : Text → Text
  | '\x7b' :: rest => rest.takeWhile isDigit
  | rest => rest.takeWhile isDigit

theorem stopRow_of_no_brace {rest : Text} (no_brace : rest.head? ≠ some '\x7b') :
    stopRow rest = rest.takeWhile isDigit := by
  rw [stopRow.eq_2 rest (by rintro more rfl; exact no_brace rfl)]

theorem stopDigits_cons {c : Char} (other : c ≠ '$') (rest : Text) :
    stopDigits (c :: rest) = stopDigits rest := by
  simp [stopDigits, other]

theorem stopDigits_dollar (rest : Text) :
    stopDigits ('$' :: rest) = [stopRow rest].filter (!·.isEmpty) ++ stopDigits rest := by
  by_cases brace : rest.head? = some '\x7b'
  · obtain ⟨more, rfl⟩ := List.head?_eq_some_iff.mp brace
    rw [stopDigits, stopRow, stopDigits_cons (by decide)]
    cases none : (more.takeWhile isDigit).isEmpty <;> simp [none]
  · rw [stopDigits.eq_3 rest (by rintro more rfl; exact brace rfl), stopRow_of_no_brace brace]
    cases none : (rest.takeWhile isDigit).isEmpty <;> simp [none]

theorem stopDigits_of_no_dollar {text : Text} (plain : '$' ∉ text) : stopDigits text = [] := by
  induction text with
  | nil => rfl
  | cons c rest ih =>
    obtain ⟨other, plain_below⟩ : '$' ≠ c ∧ '$' ∉ rest := by simpa using plain
    rw [stopDigits_cons other.symm, ih plain_below]

theorem StopsWithin.of_no_dollar {longest : Nat} {text : Text} (plain : '$' ∉ text) : StopsWithin longest text := by
  rw [StopsWithin, stopDigits_of_no_dollar plain]
  exact List.forall_mem_nil _

-- A blank ends a row of digits.
theorem stopRow_blank (front rest : Text) : stopRow (front ++ ' ' :: rest) = stopRow front := by
  have taken (front : Text) : (front ++ ' ' :: rest).takeWhile isDigit = front.takeWhile isDigit := by
    rw [List.takeWhile_append, List.takeWhile_cons_of_neg (by decide), List.append_nil]
    split
    · next whole => exact ((List.takeWhile_prefix _).eq_of_length whole).symm
    · rfl
  cases front with
  | nil => exact taken []
  | cons c more =>
    by_cases brace : c = '\x7b'
    · subst brace
      exact taken more
    · rw [stopRow_of_no_brace (by simpa using brace), stopRow_of_no_brace (by simpa using brace), taken]

theorem stopDigits_blank (front rest : Text) :
    stopDigits (front ++ ' ' :: rest) = stopDigits front ++ stopDigits rest := by
  induction front with
  | nil => exact stopDigits_cons (by decide) rest
  | cons c more ih =>
    by_cases dollar : c = '$'
    · subst dollar
      rw [List.cons_append, stopDigits_dollar, stopDigits_dollar, stopRow_blank, ih, List.append_assoc]
    · rw [List.cons_append, stopDigits_cons dollar, stopDigits_cons dollar, ih]

theorem stopsWithin_blank {longest : Nat} {front rest : Text} :
    StopsWithin longest (front ++ ' ' :: rest) ↔ StopsWithin longest front ∧ StopsWithin longest rest := by
  rw [StopsWithin, stopDigits_blank, List.forall_mem_append, StopsWithin, StopsWithin]

theorem stopDigits_placeholder {row default : Text} (digits : Digits row) (plain : '$' ∉ default) :
    stopDigits (placeholder row default) = [row] := by
  have no_dollar : '$' ∉ row := fun within => absurd (digits.2 '$' within) (by decide)
  have plain_behind : '$' ∉ '\x7b' :: (row ++ ':' :: (default ++ ['\x7d'])) := by simp [no_dollar, plain]
  have row_eq : stopRow ('\x7b' :: (row ++ ':' :: (default ++ ['\x7d']))) = row :=
    (Text.takeWhile_dropWhile_iff.mpr ⟨rfl, digits.2, by simp; decide⟩).1
  rw [placeholder, stopDigits_dollar, row_eq, stopDigits_of_no_dollar plain_behind]
  simp [digits.1]

theorem mem_stopDigits {text row : Text} (no_brace : '\x7b' ∉ text) (member : row ∈ stopDigits text) :
    Digits row ∧ ∃ front rest, text = front ++ '$' :: (row ++ rest) := by
  induction text with
  | nil => simp [stopDigits] at member
  | cons c more ih =>
    have no_brace_below : '\x7b' ∉ more := fun within => no_brace (List.mem_cons_of_mem c within)
    have below (member : row ∈ stopDigits more) :
        Digits row ∧ ∃ front rest, c :: more = front ++ '$' :: (row ++ rest) := by
      obtain ⟨digits, front, rest, rfl⟩ := ih no_brace_below member
      exact ⟨digits, c :: front, rest, rfl⟩
    by_cases dollar : c = '$'
    · subst dollar
      rw [stopDigits_dollar, List.mem_append, List.mem_filter, List.mem_singleton,
        stopRow_of_no_brace fun first => no_brace_below (List.mem_of_head? first)] at member
      rcases member with ⟨rfl, filled⟩ | member
      · refine ⟨⟨by simpa using filled, fun c => List.mem_takeWhile_imp⟩, [], more.dropWhile isDigit, ?_⟩
        rw [List.takeWhile_append_dropWhile, List.nil_append]
      · exact below member
    · rw [stopDigits_cons dollar] at member
      exact below member

end Snippet

/-! ## Filling templates in -/

open Snippet (StopsWithin)
open Comment (Enclosed)

section
variable {markers : Markers} {template names : List Text} {longest : Nat}

theorem Comment.Enclosed.stopsWithin {lines : List Text} (enclosed : Enclosed (StopsWithin longest) lines) :
    ∀ line ∈ lines, StopsWithin longest line := by
  obtain ⟨rows, rfl, inner⟩ := enclosed
  exact List.forall_mem_cons.mpr ⟨.of_no_dollar (by decide),
    List.forall_mem_append.mpr ⟨inner, List.forall_mem_singleton.mpr (.of_no_dollar (by decide))⟩⟩

theorem Template.ensureReturn_ok (limit : longest < maxDigits)
    (short : ∀ line ∈ template, StopsWithin longest line) :
    ∃ lines, ensureReturn markers template = .ok lines := by
  unfold ensureReturn
  split
  · exact ⟨template, rfl⟩
  · obtain ⟨number, stop, found, written, _⟩ := Snippet.nextStop_ok limit short
    refine bind_ok ⟨number, found⟩ fun other other_found => ?_
    obtain rfl : number = other := Except.ok.inj (found.symm.trans other_found)
    refine bind_ok ⟨stop, written⟩ fun _ _ => ?_
    split <;> exact ⟨_, rfl⟩

namespace Planner

theorem stopsWithin_scriptParamLine {description name : Text} :
    StopsWithin longest (scriptParamLine description name) ↔
      StopsWithin longest name ∧ StopsWithin longest description := by
  have shape : scriptParamLine description name =
      " * @param \x7bany\x7d".toList ++ ' ' :: (name ++ ' ' :: description) := rfl
  have front_within : StopsWithin longest " * @param \x7bany\x7d".toList := .of_no_dollar (by decide)
  exact shape ▸ Snippet.stopsWithin_blank.trans ((and_iff_right front_within).trans Snippet.stopsWithin_blank)

theorem stopsWithin_apexParamLine {name : Text} (short : StopsWithin longest name) :
    StopsWithin longest (apexParamLine name) := by
  have shape : apexParamLine name = " * @param".toList ++ ' ' :: (name ++ ' ' :: "description".toList) := rfl
  have front_within : StopsWithin longest " * @param".toList := .of_no_dollar (by decide)
  have behind_within : StopsWithin longest "description".toList := .of_no_dollar (by decide)
  exact shape ▸ Snippet.stopsWithin_blank.mpr ⟨front_within, Snippet.stopsWithin_blank.mpr ⟨short, behind_within⟩⟩

theorem scriptParamLines_ok (template_short : ∀ line ∈ template, StopsWithin 1 line)
    (names_short : ∀ name ∈ names, StopsWithin longest name) (le : 2 ≤ longest) :
    ∃ block, scriptParamLines markers template names = .ok block ∧
      ∀ row ∈ block, StopsWithin longest row := by
  cases names with
  | nil => exact ⟨[], rfl, by simp⟩
  | cons first rest =>
    obtain ⟨first_short, rest_short⟩ := List.forall_mem_cons.mp names_short
    have kept_short : ∀ line ∈ template.filter (fun line => !Template.hasTag markers.param line), StopsWithin 1 line :=
      fun line member => template_short line (List.mem_filter.mp member).1
    obtain ⟨number, stop, found, written, stop_short⟩ := Snippet.nextStop_ok (by decide) kept_short
    refine ⟨_, bind_eq_ok_iff.mpr ⟨number, found, bind_eq_ok_iff.mpr ⟨stop, written, rfl⟩⟩, ?_⟩
    have described : StopsWithin longest ("$\x7b".toList ++ stop ++ ":description\x7d".toList) := by
      have shape : "$\x7b".toList ++ stop ++ ":description\x7d".toList =
          Snippet.placeholder stop "description".toList := by simp [Snippet.placeholder]
      rw [shape, StopsWithin, Snippet.stopDigits_placeholder (Snippet.digits_of_writeNumber written) (by decide)]
      exact List.forall_mem_singleton.mpr (stop_short.trans le)
    have plain : StopsWithin longest "description".toList := .of_no_dollar (by decide)
    refine List.forall_mem_cons.mpr ⟨stopsWithin_scriptParamLine.mpr ⟨first_short, described⟩, ?_⟩
    intro row member
    obtain ⟨name, name_member, rfl⟩ := List.mem_map.mp member
    exact stopsWithin_scriptParamLine.mpr ⟨rest_short name name_member, plain⟩

theorem scriptLines_ok (ends : Template.PlainEnds markers) (enclosed : Enclosed (StopsWithin 1) template)
    (names_short : ∀ name ∈ names, StopsWithin longest name) (le : 2 ≤ longest) (limit : longest < maxDigits) :
    ∃ lines, scriptLines markers template names = .ok lines := by
  have template_short : Enclosed (StopsWithin longest) template := enclosed.mono fun row short =>
    short.mono (one_le_two.trans le)
  unfold scriptLines
  split
  · exact Template.ensureReturn_ok limit template_short.stopsWithin
  · obtain ⟨block, written, block_short⟩ := scriptParamLines_ok enclosed.stopsWithin names_short le
    refine bind_ok ⟨block, written⟩ fun other other_written => ?_
    obtain rfl : block = other := Except.ok.inj (written.symm.trans other_written)
    have injected := Template.injectParameters_enclosed ends template_short block_short
    exact Template.ensureReturn_ok limit injected.stopsWithin

theorem apexLines_ok (ends : Template.PlainEnds markers) (enclosed : Enclosed (StopsWithin longest) template)
    (names_short : ∀ name ∈ names, StopsWithin longest name) (limit : longest < maxDigits) (kind : Kind) :
    ∃ lines, apexLines markers template kind names = .ok lines := by
  have block_short : ∀ row ∈ names.map apexParamLine, StopsWithin longest row := by
    intro row member
    obtain ⟨name, name_member, rfl⟩ := List.mem_map.mp member
    exact stopsWithin_apexParamLine (names_short name name_member)
  have injected := Template.injectParameters_enclosed ends enclosed block_short
  unfold apexLines
  dsimp only
  split
  · split
    · exact Template.ensureReturn_ok limit enclosed.stopsWithin
    · exact Template.ensureReturn_ok limit injected.stopsWithin
  · exact ⟨_, rfl⟩

end Planner

end

/-! ## Long tab stops -/

/-- A dollar sign stands in front of at least as many digits as the longest number has. -/
def Snippet.HasLongStop (text : Text) : Prop :=
  ∃ front row rest, text = front ++ '$' :: (row ++ rest) ∧ maxDigits ≤ row.length ∧ ∀ c ∈ row, isDigit c = true

theorem Snippet.stopsWithin_or_hasLongStop {text : Text} (no_brace : '\x7b' ∉ text) :
    StopsWithin (maxDigits - 1) text ∨ HasLongStop text := by
  by_cases short : StopsWithin (maxDigits - 1) text
  · exact .inl short
  · simp only [StopsWithin, not_forall] at short
    obtain ⟨row, member, long⟩ := short
    obtain ⟨digits, front, rest, text_eq⟩ := mem_stopDigits no_brace member
    exact .inr ⟨front, row, rest, text_eq, by omega, digits.2⟩

namespace Planner
variable {dialect : Dialect} {doc : Document} {site : Site} {template names : List Text}

theorem templates_short (dialect : Dialect) : ∀ entry ∈ Template.bundled dialect,
    Enclosed (StopsWithin 1) (entry.2.map String.toList) := by
  cases dialect <;> decide +kernel

theorem exists_variableType (within : site.line < doc.count) :
    ∃ type, variableType doc site.line = .ok type := by
  refine Document.bind_line_ok (by omega) (by omega) fun text => ?_
  split <;> exact ⟨_, rfl⟩

theorem siteLines_ok (windows : Windows) (within : site.line < doc.count) (enclosed : Enclosed (StopsWithin 1) template)
    (names_short : ∀ name ∈ names, StopsWithin (maxDigits - 1) name) :
    ∃ lines, siteLines (dialect.grammar windows) doc site template names = .ok lines := by
  have ends := plainEnds dialect windows
  have limit : maxDigits - 1 < maxDigits := by decide
  have le : 2 ≤ maxDigits - 1 := by decide
  obtain ⟨kind, line⟩ := site
  cases dialect with
  | apex =>
    have template_short : Enclosed (StopsWithin (maxDigits - 1)) template := enclosed.mono fun row short =>
      short.mono (one_le_two.trans le)
    obtain ⟨lines, fitted⟩ := apexLines_ok ends template_short names_short limit kind
    exact ⟨lines, lift_eq_ok_iff.mpr fitted⟩
  | javaScript =>
    cases kind with
    | var =>
      obtain ⟨type, read⟩ := exists_variableType within
      exact ⟨withType type template, lift_eq_ok_iff.mpr (by rw [read]; rfl)⟩
    | method | function =>
      obtain ⟨lines, fitted⟩ := scriptLines_ok ends enclosed names_short le limit
      exact ⟨lines, lift_eq_ok_iff.mpr fitted⟩
    | type | constructor | property | enumValue => exact ⟨template, rfl⟩

end Planner

end Docblock
