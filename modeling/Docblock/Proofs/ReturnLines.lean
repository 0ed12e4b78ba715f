import Docblock.Proofs.ParameterLines
import Docblock.Proofs.TabStops
import Mathlib.Order.Bounds.Basic

/-! Return lines. Lines that have none get one, with a tab stop whose number is above all that are there; lines that
have one stay as they are. So a return line is added at most once, and the next free tab stop moves on by one. -/

set_option autoImplicit false

namespace Docblock

/-! ## Numbers that are written and read -/

theorem numberOfDigits_of_writeNumber {number : Nat} {row : Text} (written : writeNumber number = .ok row) :
    numberOfDigits row = number := by
  unfold writeNumber at written
  split at written
  · simp at written
  · obtain rfl := Except.ok.inj written
    rw [decimal, if_neg (by omega), Int.natAbs_natCast]
    calc numberOfDigits (Nat.toDigits 10 number)
      _ = (Nat.toDigits 10 number).foldl (fun number c => 10 * number + (c.toNat - '0'.toNat)) 0 := by
        refine List.foldl_ext _ _ _ fun value c within => ?_
        rw [Snippet.digitValue?_of_ascii (Nat.isDigit_of_mem_toDigits (by decide) (by decide) within), Option.getD_some]
      _ = Nat.ofDigitChars 10 (Nat.toDigits 10 number) 0 := Nat.ofDigitChars_eq_foldl.symm
      _ = number := Nat.ofDigitChars_ten_toDigits

namespace Snippet

def stopNumbers (lines : List Text) : Set Nat :=
  {number | ∃ line ∈ lines, ∃ row ∈ stopDigits line, numberOfDigits row = number}

section
variable {lines above below rows : List Text} {line : Text} {least number : Nat}

theorem highest_isGreatest (found : highest least rows = .ok number) :
    IsGreatest (insert least {value | ∃ row ∈ rows, numberOfDigits row = value}) number := by
  induction rows generalizing least with
  | nil =>
    obtain rfl := Except.ok.inj found
    simp [IsGreatest]
  | cons row rest ih =>
    obtain ⟨value, read, found⟩ := bind_eq_ok_iff.mp found
    obtain rfl : numberOfDigits row = value := by
      unfold readNumber at read
      split at read
      · simp at read
      · exact Except.ok.inj read
    obtain ⟨member, upper⟩ := ih found
    have above_both : max least (numberOfDigits row) ≤ number := upper (Set.mem_insert _ _)
    constructor
    · rcases member with rfl | ⟨other, within, rfl⟩
      · rcases max_choice least (numberOfDigits row) with same | same
        · exact .inl same
        · exact .inr ⟨row, List.mem_cons_self, same.symm⟩
      · exact .inr ⟨other, List.mem_cons_of_mem _ within, rfl⟩
    · rintro value (rfl | ⟨other, within, rfl⟩)
      · exact (le_max_left _ _).trans above_both
      · rcases List.mem_cons.mp within with rfl | within
        · exact (le_max_right _ _).trans above_both
        · exact upper (.inr ⟨other, within, rfl⟩)

/-- The next tab stop is one above the greatest, or the first. -/
theorem nextStop_isGreatest (found : nextStop lines = .ok number) :
    ∃ greatest, number = greatest + 1 ∧ IsGreatest (insert 0 (stopNumbers lines)) greatest := by
  obtain ⟨greatest, read, counted⟩ := bind_eq_ok_iff.mp found
  have numbers_eq : {value | ∃ row ∈ lines.flatMap stopDigits, numberOfDigits row = value} = stopNumbers lines := by
    ext value
    constructor
    · rintro ⟨row, within, same⟩
      obtain ⟨line, member, within⟩ := List.mem_flatMap.mp within
      exact ⟨line, member, row, within, same⟩
    · rintro ⟨line, member, row, within, same⟩
      exact ⟨row, List.mem_flatMap.mpr ⟨line, member, within⟩, same⟩
  exact ⟨greatest, (pure_eq_ok_iff.mp counted).symm, numbers_eq ▸ highest_isGreatest read⟩

theorem mem_insert_line {other : Text} :
    other ∈ above ++ line :: below ↔ other = line ∨ other ∈ above ++ below :=
  List.perm_middle.mem_iff.trans List.mem_cons

theorem stopNumbers_insert {row : Text} (stops : stopDigits line = [row]) :
    stopNumbers (above ++ line :: below) = insert (numberOfDigits row) (stopNumbers (above ++ below)) := by
  ext value
  constructor
  · rintro ⟨holder, member, other, within, rfl⟩
    rcases mem_insert_line.mp member with rfl | member
    · rw [stops, List.mem_singleton] at within
      exact .inl (congrArg numberOfDigits within)
    · exact .inr ⟨holder, member, other, within, rfl⟩
  · rintro (rfl | ⟨holder, member, other, within, rfl⟩)
    · exact ⟨line, mem_insert_line.mpr (.inl rfl), row, by simp [stops], rfl⟩
    · exact ⟨holder, mem_insert_line.mpr (.inr member), other, within, rfl⟩

theorem nextStop_insert {row : Text} (short : ∀ line ∈ above ++ below, StopsWithin maxDigits line)
    (found : nextStop (above ++ below) = .ok number) (stops : stopDigits line = [row])
    (row_short : row.length ≤ maxDigits) (spelled : numberOfDigits row = number) :
    nextStop (above ++ line :: below) = .ok (number + 1) := by
  have all_short : ∀ other ∈ (above ++ line :: below).flatMap stopDigits, other.length ≤ maxDigits := by
    intro other counted
    obtain ⟨holder, member, within⟩ := List.mem_flatMap.mp counted
    rcases mem_insert_line.mp member with rfl | member
    · rw [stops, List.mem_singleton] at within
      exact within ▸ row_short
    · exact short holder member other within
  obtain ⟨greatest, read, _⟩ := highest_ok le_rfl all_short (Nat.pow_pos (by decide : 0 < 10))
  have next : nextStop (above ++ line :: below) = .ok (greatest + 1) := bind_eq_ok_iff.mpr ⟨greatest, read, rfl⟩
  obtain ⟨_, same, now_greatest⟩ := nextStop_isGreatest next
  obtain rfl := Nat.add_right_cancel same
  obtain ⟨before, number_eq, before_greatest⟩ := nextStop_isGreatest found
  rw [stopNumbers_insert stops, spelled] at now_greatest
  have number_greatest : IsGreatest (insert 0 (insert number (stopNumbers (above ++ below)))) number := by
    refine ⟨.inr (.inl rfl), ?_⟩
    rintro value (rfl | rfl | member)
    · exact Nat.zero_le _
    · exact le_rfl
    · have within : value ≤ before := before_greatest.2 (.inr member)
      omega
  rw [next, now_greatest.unique number_greatest]

end

end Snippet

namespace Template
open Snippet (StopsWithin nextStop stopDigits)

section
variable {dialect : Dialect} {windows : Windows}

theorem returnLine_tagged (dialect : Dialect) (windows : Windows) (stop : Text) :
    hasTag (dialect.grammar windows).markers.returns ((dialect.grammar windows).markers.returnLine stop) = true := by
  have last : ((dialect.grammar windows).markers.returnLine stop).getLast? = some '\x7d' := by
    cases dialect <;> exact Planner.getLast?_append_of_some (by decide)
  cases dialect with
  | apex =>
    have shape : (Dialect.apex.grammar windows).markers.returnLine stop =
        ' ' :: '*' :: (" @return $\x7b".toList ++ (stop ++ ":description\x7d".toList)) := rfl
    rw [Planner.hasTag_eq shape last (by decide)]
    rfl
  | javaScript =>
    have shape : (Dialect.javaScript.grammar windows).markers.returnLine stop =
        ' ' :: '*' :: (" @returns \x7bany\x7d $\x7b".toList ++ (stop ++ ":What is returned\x7d".toList)) := rfl
    rw [Planner.hasTag_eq shape last (by decide)]
    rfl

theorem stopDigits_returnLine {stop : Text} (digits : Snippet.Digits stop) :
    stopDigits ((dialect.grammar windows).markers.returnLine stop) = [stop] := by
  cases dialect with
  | apex =>
    have shape : (Apex.grammar windows).markers.returnLine stop =
        " * @return".toList ++ ' ' :: Snippet.placeholder stop "description".toList := by
      simp [Apex.grammar, Apex.markers, Snippet.placeholder]
    rw [Dialect.grammar, shape, Snippet.stopDigits_blank, Snippet.stopDigits_of_no_dollar (by decide),
      Snippet.stopDigits_placeholder digits (by decide), List.nil_append]
  | javaScript =>
    have shape : (JavaScript.grammar windows).markers.returnLine stop =
        " * @returns \x7bany\x7d".toList ++ ' ' :: Snippet.placeholder stop "What is returned".toList := by
      simp [JavaScript.grammar, JavaScript.markers, Snippet.placeholder]
    rw [Dialect.grammar, shape, Snippet.stopDigits_blank, Snippet.stopDigits_of_no_dollar (by decide),
      Snippet.stopDigits_placeholder digits (by decide), List.nil_append]

/-- Of lines with a return line nothing changes. Others get one, in its place, with the next tab stop, which is above
all that are there; and then nothing changes any more. -/
theorem ensureReturn_once (dialect : Dialect) (windows : Windows) (lines : List Text)
    (short : ∀ line ∈ lines, StopsWithin (maxDigits - 1) line) :
    let markers := (dialect.grammar windows).markers
    ∃ result, ensureReturn markers lines = .ok result ∧ ensureReturn markers result = .ok result ∧
      (result = lines ↔ ∃ line ∈ lines, hasTag markers.returns line = true) ∧
      ((∀ line ∈ lines, hasTag markers.returns line = false) →
        ∃ (number : Nat) (stop : Text) (above below : List Text),
          nextStop lines = .ok number ∧ writeNumber number = .ok stop ∧ ReturnPlace markers lines above below ∧
          above ++ below = lines ∧ result = above ++ markers.returnLine stop :: below ∧
          hasTag markers.returns (markers.returnLine stop) = true ∧
          stopDigits (markers.returnLine stop) = [stop] ∧
          (∀ line ∈ lines, ∀ row ∈ stopDigits line, numberOfDigits row < numberOfDigits stop) ∧
          nextStop result = .ok (number + 1)) := by
  intro markers
  by_cases tagged : ∃ line ∈ lines, hasTag markers.returns line = true
  · have kept := ensureReturn_of_tagged tagged
    refine ⟨lines, kept, kept, iff_of_true rfl tagged, fun plain => ?_⟩
    obtain ⟨line, member, has_tag⟩ := tagged
    simp [plain line member] at has_tag
  · have plain : ∀ line ∈ lines, hasTag markers.returns line = false := by simpa using tagged
    obtain ⟨above, below, place⟩ := exists_returnPlace markers lines
    obtain ⟨number, stop, found, written, stop_short⟩ := Snippet.nextStop_ok (by decide) short
    have stop_tagged := returnLine_tagged dialect windows stop
    have stops : stopDigits (markers.returnLine stop) = [stop] :=
      stopDigits_returnLine (Snippet.digits_of_writeNumber written)
    have spelled := numberOfDigits_of_writeNumber written
    have ensured : ensureReturn markers lines = .ok (above ++ markers.returnLine stop :: below) := by
      rw [place.ensureReturn_eq plain]
      exact bind_eq_ok_iff.mpr ⟨number, found, bind_eq_ok_iff.mpr ⟨stop, written, rfl⟩⟩
    have added : markers.returnLine stop ∈ above ++ markers.returnLine stop :: below := by simp
    have longer : above ++ markers.returnLine stop :: below ≠ lines := by
      intro same
      exact tagged ⟨_, same ▸ added, stop_tagged⟩
    have greater : ∀ line ∈ lines, ∀ row ∈ stopDigits line, numberOfDigits row < numberOfDigits stop := by
      intro line member row within
      obtain ⟨greatest, rfl, upper⟩ := Snippet.nextStop_isGreatest found
      have le : numberOfDigits row ≤ greatest := upper.2 (.inr ⟨line, member, row, within, rfl⟩)
      omega
    have counted : nextStop (above ++ markers.returnLine stop :: below) = .ok (number + 1) := by
      have all_short : ∀ line ∈ above ++ below, StopsWithin maxDigits line := by
        rw [place.append_eq]
        exact fun line member => (short line member).mono (Nat.sub_le maxDigits 1)
      have limit : 1 ≤ maxDigits := by decide
      exact Snippet.nextStop_insert all_short (by rw [place.append_eq, found]) stops (by omega) spelled
    exact ⟨_, ensured, ensureReturn_of_tagged ⟨_, added, stop_tagged⟩, iff_of_false longer tagged, fun _ =>
      ⟨number, stop, above, below, found, written, place, place.append_eq, rfl, stop_tagged, stops, greater,
        counted⟩⟩

-- The example line is not the last, and the greatest tab stop stands between braces above a smaller one.
theorem ensureReturn_once_above_example :
    let lines := ["/**".toList, " * @description $\x7b7:What\x7d".toList, " * @example $2".toList, " */".toList]
    ∃ result, ensureReturn Apex.markers lines = .ok result ∧ ensureReturn Apex.markers result = .ok result ∧
      result ≠ lines ∧ nextStop lines = .ok 8 ∧ nextStop result = .ok 9 := by
  intro lines
  have plain : ∀ line ∈ lines, hasTag Apex.markers.returns line = false := by decide
  have found : nextStop lines = .ok 8 := by decide
  obtain ⟨result, ensured, kept, same, added⟩ := ensureReturn_once .apex {} lines (by decide)
  obtain ⟨number, _, _, _, other_found, _, _, _, _, _, _, _, counted⟩ := added plain
  obtain rfl : 8 = number := Except.ok.inj (found.symm.trans other_found)
  refine ⟨result, ensured, kept, fun unchanged => ?_, found, counted⟩
  obtain ⟨line, member, tagged⟩ := same.mp unchanged
  exact Bool.false_ne_true ((plain line member).symm.trans tagged)

end

end Template

end Docblock
