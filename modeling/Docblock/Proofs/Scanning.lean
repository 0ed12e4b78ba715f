import Docblock.Document.Scan

/-! What bounded walks find: the answer of the nearest line that has one, if all nearer lines could be
read and had none; and the line at which a run of lines that pass a test ends. -/

set_option autoImplicit false

namespace Docblock

variable {ε β : Type}

theorem bind_eq_ok_iff {α γ : Type} {first : Except ε α} {next : α → Except ε γ} {value : γ} :
    (first >>= next) = .ok value ↔ ∃ middle, first = .ok middle ∧ next middle = .ok value := by
  cases first <;> simp [bind, Except.bind]

theorem bind_eq_error_iff {α γ : Type} {first : Except ε α} {next : α → Except ε γ} {error : ε} :
    (first >>= next) = .error error ↔
      first = .error error ∨ ∃ middle, first = .ok middle ∧ next middle = .error error := by
  cases first <;> simp [bind, Except.bind]

@[simp] theorem pure_eq_ok_iff {α : Type} {given value : α} :
    (pure given : Except ε α) = .ok value ↔ given = value := by
  simp [pure, Except.pure]

-- Steps that all come to a value come to one together.
theorem bind_ok {α γ : Type} {first : Except ε α} {next : α → Except ε γ}
    (starts : ∃ middle, first = .ok middle)
    (goes_on : ∀ middle, first = .ok middle → ∃ value, next middle = .ok value) :
    ∃ value, (first >>= next) = .ok value := by
  obtain ⟨middle, started⟩ := starts
  obtain ⟨value, ended⟩ := goes_on middle started
  exact ⟨value, bind_eq_ok_iff.mpr ⟨middle, started, ended⟩⟩

theorem toOption_eq_some_iff {α : Type} {result : Except ε α} {value : α} :
    result.toOption = some value ↔ result = .ok value := by
  cases result <;> simp [Except.toOption]

section Walks
variable {test : Int → Except ε (Option β)}

theorem next_line (line step : Int) (n : Nat) :
    line + step + n * step = line + (n + 1 : Nat) * step := by
  rw [Int.natCast_succ, Int.add_mul]
  omega

theorem firstHit_eq_some_iff {step : Int} {count : Nat} {line : Int} {answer : β} :
    firstHit test step count line = .ok (some answer) ↔
      ∃ n < count, test (line + n * step) = .ok (some answer) ∧
        ∀ m < n, test (line + m * step) = .ok none := by
  induction count generalizing line with
  | zero => simp [firstHit]
  | succ count ih =>
    -- Either the line at hand has the answer, or it has none and the walk goes on behind it.
    rw [firstHit, Nat.exists_lt_succ_left]
    simp only [Nat.forall_lt_succ_left]
    cases first : test line with
    | error error => simp [first]
    | ok found =>
      cases found with
      | some other => simp [first]
      | none => simp [first, ih, next_line]

theorem firstHit_eq_none_iff {step : Int} {count : Nat} {line : Int} :
    firstHit test step count line = .ok none ↔ ∀ n < count, test (line + n * step) = .ok none := by
  induction count generalizing line with
  | zero => simp [firstHit]
  | succ count ih =>
    rw [firstHit, Nat.forall_lt_succ_left]
    cases first : test line with
    | error error => simp [first]
    | ok found =>
      cases found with
      | some other => simp [first]
      | none => simp [first, ih, next_line]

theorem scanDown_eq_some_iff {top bottom : Int} {answer : β} :
    scanDown top bottom test = .ok (some answer) ↔
      ∃ i, top ≤ i ∧ i ≤ bottom ∧ test i = .ok (some answer) ∧
        ∀ j, top ≤ j → j < i → test j = .ok none := by
  rw [scanDown, firstHit_eq_some_iff]
  constructor
  · intro found
    obtain ⟨n, bound, hit, nearer⟩ := found
    refine ⟨top + n, by omega, by omega, by simpa using hit, fun j above closer => ?_⟩
    have passed := nearer (j - top).toNat (by omega)
    rwa [show top + ((j - top).toNat : Int) * 1 = j by omega] at passed
  · intro found
    obtain ⟨i, above, below, hit, nearer⟩ := found
    refine ⟨(i - top).toNat, by omega, ?_, fun m closer => nearer _ (by omega) (by omega)⟩
    rwa [show top + ((i - top).toNat : Int) * 1 = i by omega]

theorem scanDown_eq_none_iff {top bottom : Int} :
    scanDown top bottom test = .ok none ↔ ∀ i, top ≤ i → i ≤ bottom → test i = .ok none := by
  rw [scanDown, firstHit_eq_none_iff]
  constructor
  · intro missed i above below
    have passed := missed (i - top).toNat (by omega)
    rwa [show top + ((i - top).toNat : Int) * 1 = i by omega] at passed
  · intro missed n bound
    exact missed _ (by omega) (by omega)

theorem scanUp_eq_some_iff {bottom top : Int} {answer : β} :
    scanUp bottom top test = .ok (some answer) ↔
      ∃ i, top ≤ i ∧ i ≤ bottom ∧ test i = .ok (some answer) ∧
        ∀ j, i < j → j ≤ bottom → test j = .ok none := by
  rw [scanUp, firstHit_eq_some_iff]
  constructor
  · intro found
    obtain ⟨n, bound, hit, nearer⟩ := found
    refine ⟨bottom + n * -1, by omega, by omega, hit, fun j closer below => ?_⟩
    have passed := nearer (bottom - j).toNat (by omega)
    rwa [show bottom + ((bottom - j).toNat : Int) * -1 = j by omega] at passed
  · intro found
    obtain ⟨i, above, below, hit, nearer⟩ := found
    refine ⟨(bottom - i).toNat, by omega, ?_, fun m closer => nearer _ (by omega) (by omega)⟩
    rwa [show bottom + ((bottom - i).toNat : Int) * -1 = i by omega]

theorem scanUp_eq_none_iff {bottom top : Int} :
    scanUp bottom top test = .ok none ↔ ∀ i, top ≤ i → i ≤ bottom → test i = .ok none := by
  rw [scanUp, firstHit_eq_none_iff]
  constructor
  · intro missed i above below
    have passed := missed (bottom - i).toNat (by omega)
    rwa [show bottom + ((bottom - i).toNat : Int) * -1 = i by omega] at passed
  · intro missed n bound
    exact missed _ (by omega) (by omega)

-- A line that has the answer need not be the nearest, if all nearer lines have none or the same.
theorem firstHit_of_passed {step : Int} {count n : Nat} {line : Int} {answer : β} (bound : n < count)
    (hit : test (line + n * step) = .ok (some answer))
    (passed : ∀ m < n, test (line + m * step) = .ok none ∨ test (line + m * step) = .ok (some answer)) :
    firstHit test step count line = .ok (some answer) := by
  induction n generalizing line count with
  | zero =>
    obtain ⟨count, rfl⟩ := Nat.exists_eq_add_one.mpr bound
    have hit : test line = .ok (some answer) := by simpa using hit
    rw [firstHit, hit]
  | succ n ih =>
    obtain ⟨count, rfl⟩ := Nat.exists_eq_add_one.mpr (Nat.zero_lt_of_lt bound)
    have first : test line = .ok none ∨ test line = .ok (some answer) := by
      simpa using passed 0 (Nat.zero_lt_succ n)
    rcases first with silent | same
    · rw [firstHit, silent]
      apply ih (Nat.lt_of_succ_lt_succ bound)
      · rwa [next_line]
      · intro m nearer
        rw [next_line]
        exact passed (m + 1) (Nat.succ_lt_succ nearer)
    · rw [firstHit, same]

theorem scanUp_of_passed {bottom top i : Int} {answer : β} (above : top ≤ i) (below : i ≤ bottom)
    (hit : test i = .ok (some answer))
    (passed : ∀ j, i < j → j ≤ bottom → test j = .ok none ∨ test j = .ok (some answer)) :
    scanUp bottom top test = .ok (some answer) := by
  refine firstHit_of_passed (by omega : (bottom - i).toNat < (bottom + 1 - top).toNat) ?_ fun m nearer => ?_
  · rwa [show bottom + ((bottom - i).toNat : Int) * -1 = i by omega]
  · exact passed _ (by omega) (by omega)

theorem scanDown_of_passed {top bottom i : Int} {answer : β} (above : top ≤ i) (below : i ≤ bottom)
    (hit : test i = .ok (some answer))
    (passed : ∀ j, top ≤ j → j < i → test j = .ok none ∨ test j = .ok (some answer)) :
    scanDown top bottom test = .ok (some answer) := by
  refine firstHit_of_passed (by omega : (i - top).toNat < (bottom + 1 - top).toNat) ?_ fun m nearer => ?_
  · rwa [show top + ((i - top).toNat : Int) * 1 = i by omega]
  · exact passed _ (by omega) (by omega)

-- A walk over lines that can all be read comes to an answer, if only to none.
theorem firstHit_ok {step : Int} {count : Nat} {line : Int}
    (reads : ∀ n < count, ∃ answer, test (line + n * step) = .ok answer) :
    ∃ answer, firstHit test step count line = .ok answer := by
  induction count generalizing line with
  | zero => exact ⟨none, rfl⟩
  | succ count ih =>
    obtain ⟨answer, read⟩ := reads 0 (Nat.zero_lt_succ count)
    have read : test line = .ok answer := by simpa using read
    cases answer with
    | some found => exact ⟨some found, by rw [firstHit, read]⟩
    | none =>
      have reads_below : ∀ n < count, ∃ answer, test (line + step + n * step) = .ok answer := by
        intro n bound
        rw [next_line]
        exact reads (n + 1) (Nat.succ_lt_succ bound)
      obtain ⟨answer, below⟩ := ih reads_below
      exact ⟨answer, by rw [firstHit, read]; exact below⟩

theorem scanUp_ok {bottom top : Int}
    (reads : ∀ i, top ≤ i → i ≤ bottom → ∃ answer, test i = .ok answer) :
    ∃ answer, scanUp bottom top test = .ok answer :=
  firstHit_ok fun n bound => reads _ (by omega) (by omega)

theorem scanDown_ok {top bottom : Int}
    (reads : ∀ i, top ≤ i → i ≤ bottom → ∃ answer, test i = .ok answer) :
    ∃ answer, scanDown top bottom test = .ok answer :=
  firstHit_ok fun n bound => reads _ (by omega) (by omega)

end Walks

section Runs
variable {test : Int → Except ε Bool}

theorem skipDown_succ_eq_ok_iff {count : Nat} {line stop : Int} :
    skipDown test (count + 1) line = .ok stop ↔
      (test line = .ok true ∧ skipDown test count (line + 1) = .ok stop) ∨
        (test line = .ok false ∧ line = stop) := by
  rw [skipDown]
  cases test line with
  | error error => simp
  | ok passes => cases passes <;> simp

theorem skipDown_eq_ok_iff {count : Nat} {line stop : Int} :
    skipDown test count line = .ok stop ↔
      line ≤ stop ∧ stop ≤ line + count ∧ (∀ i, line ≤ i → i < stop → test i = .ok true) ∧
        (stop < line + count → test stop = .ok false) := by
  induction count generalizing line with
  | zero =>
    simp only [skipDown, Except.ok.injEq]
    constructor
    · intro same
      subst same
      exact ⟨by omega, by omega, fun i _ _ => by omega, fun _ => by omega⟩
    · intro stopped
      exact Int.le_antisymm stopped.1 (by simpa using stopped.2.1)
  | succ count ih =>
    rw [skipDown_succ_eq_ok_iff, ih]
    constructor
    · intro skipped
      cases skipped with
      | inl onward =>
        obtain ⟨first, above, below, passed, failed⟩ := onward
        refine ⟨by omega, by omega, fun i from_line to_stop => ?_, fun _ => failed (by omega)⟩
        by_cases same : i = line
        · exact same ▸ first
        · exact passed i (by omega) to_stop
      | inr here =>
        obtain ⟨first, rfl⟩ := here
        exact ⟨by omega, by omega, fun i _ _ => by omega, fun _ => first⟩
    · intro stopped
      obtain ⟨above, below, passed, failed⟩ := stopped
      by_cases same : line = stop
      · subst same
        exact .inr ⟨failed (by omega), rfl⟩
      · refine .inl ⟨passed line (by omega) (by omega), by omega, by omega, ?_, fun _ => failed (by omega)⟩
        intro i from_next to_stop
        exact passed i (by omega) to_stop

theorem skipDown_ok {count : Nat} {line : Int}
    (reads : ∀ i, line ≤ i → i < line + count → ∃ passes, test i = .ok passes) :
    ∃ stop, skipDown test count line = .ok stop := by
  induction count generalizing line with
  | zero => exact ⟨line, rfl⟩
  | succ count ih =>
    obtain ⟨passes, read⟩ := reads line (by omega) (by omega)
    cases passes with
    | false => exact ⟨line, skipDown_succ_eq_ok_iff.mpr (.inr ⟨read, rfl⟩)⟩
    | true =>
      have reads_below : ∀ i, line + 1 ≤ i → i < line + 1 + count → ∃ passes, test i = .ok passes :=
        fun i above below => reads i (by omega) (by omega)
      obtain ⟨stop, skipped⟩ := ih reads_below
      exact ⟨stop, skipDown_succ_eq_ok_iff.mpr (.inl ⟨read, skipped⟩)⟩

theorem skipUp_succ_eq_ok_iff {count kept : Nat} :
    skipUp test (count + 1) = .ok kept ↔
      (test count = .ok true ∧ skipUp test count = .ok kept) ∨
        (test count = .ok false ∧ count + 1 = kept) := by
  rw [skipUp]
  cases test count with
  | error error => simp
  | ok passes => cases passes <;> simp

theorem skipUp_eq_ok_iff {count kept : Nat} :
    skipUp test count = .ok kept ↔
      kept ≤ count ∧ (∀ i : Nat, kept ≤ i → i < count → test i = .ok true) ∧
        (0 < kept → test (kept - 1 : Nat) = .ok false) := by
  induction count with
  | zero =>
    simp only [skipUp, Except.ok.injEq]
    constructor
    · intro same
      subst same
      simp
    · intro kept_lines
      exact (Nat.le_zero.mp kept_lines.1).symm
  | succ count ih =>
    rw [skipUp_succ_eq_ok_iff, ih]
    constructor
    · intro skipped
      cases skipped with
      | inl onward =>
        obtain ⟨last, below, passed, failed⟩ := onward
        refine ⟨by omega, fun i from_kept to_count => ?_, failed⟩
        by_cases same : i = count
        · exact same ▸ last
        · exact passed i from_kept (by omega)
      | inr here =>
        obtain ⟨last, rfl⟩ := here
        exact ⟨by omega, fun i _ _ => by omega, fun _ => last⟩
    · intro kept_lines
      obtain ⟨below, passed, failed⟩ := kept_lines
      by_cases same : count + 1 = kept
      · subst same
        exact .inr ⟨failed (by omega), rfl⟩
      · refine .inl ⟨passed count (by omega) (by omega), by omega, ?_, failed⟩
        intro i from_kept to_count
        exact passed i from_kept (by omega)

theorem skipUp_ok {count : Nat} (reads : ∀ i < count, ∃ passes, test (i : Nat) = .ok passes) :
    ∃ kept, skipUp test count = .ok kept := by
  induction count with
  | zero => exact ⟨0, rfl⟩
  | succ count ih =>
    obtain ⟨passes, read⟩ := reads count (Nat.lt_succ_self count)
    cases passes with
    | false => exact ⟨count + 1, skipUp_succ_eq_ok_iff.mpr (.inr ⟨read, rfl⟩)⟩
    | true =>
      obtain ⟨kept, skipped⟩ := ih fun i below => reads i (by omega)
      exact ⟨kept, skipUp_succ_eq_ok_iff.mpr (.inl ⟨read, skipped⟩)⟩

end Runs

end Docblock
