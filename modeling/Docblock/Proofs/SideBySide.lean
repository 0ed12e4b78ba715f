import Docblock.Proofs.Scanning

/-! Two walks side by side. Where they say the same of the lines that they come to, they come to the same answer,
also if the one walks further down than the other, and if it sees more lines at its end that say nothing. -/

set_option autoImplicit false

namespace Docblock

section
variable {ε β γ : Type} {test : Int → Except ε (Option β)} {other : Int → Except ε (Option γ)} {view : β → γ}
  {shift : Int}

-- The lines need to agree only as far as the first walk goes.
theorem firstHit_moved {step : Int} {count : Nat} {line : Int}
    (same : ∀ n < count, (∀ m < n, test (line + m * step) = .ok none) →
      other (line + n * step + shift) = (test (line + n * step)).map (Option.map view)) :
    firstHit other step count (line + shift) = (firstHit test step count line).map (Option.map view) := by
  induction count generalizing line with
  | zero => rfl
  | succ count ih =>
    have here : other (line + shift) = (test line).map (Option.map view) := by
      simpa using same 0 (Nat.zero_lt_succ count) fun m before => absurd before (Nat.not_lt_zero m)
    rw [firstHit, firstHit, here]
    cases told : test line with
    | error error => rfl
    | ok answer =>
      cases answer with
      | some found => rfl
      | none =>
        show firstHit other step count (line + shift + step) = (firstHit test step count (line + step)).map _
        rw [Int.add_right_comm]
        apply ih
        intro n bound silent
        rw [next_line]
        apply same (n + 1) (Nat.succ_lt_succ bound)
        intro m before
        cases m with
        | zero => simpa using told
        | succ m =>
          rw [← next_line]
          exact silent m (Nat.lt_of_succ_lt_succ before)

theorem scanUp_moved {bottom top : Int} (same : ∀ i, top ≤ i → i ≤ bottom →
      (∀ j, i < j → j ≤ bottom → test j = .ok none) → other (i + shift) = (test i).map (Option.map view)) :
    scanUp (bottom + shift) (top + shift) other = (scanUp bottom top test).map (Option.map view) := by
  have lengths : (bottom + shift + 1 - (top + shift)).toNat = (bottom + 1 - top).toNat := by omega
  rw [scanUp, scanUp, lengths]
  apply firstHit_moved
  intro n bound silent
  apply same _ (by omega) (by omega)
  intro j closer below
  have reached := silent (bottom - j).toNat (by omega)
  rwa [show bottom + ((bottom - j).toNat : Int) * -1 = j by omega] at reached

theorem scanDown_moved {top bottom : Int}
    (same : ∀ i, top ≤ i → i ≤ bottom → other (i + shift) = (test i).map (Option.map view)) :
    scanDown (top + shift) (bottom + shift) other = (scanDown top bottom test).map (Option.map view) := by
  have lengths : (bottom + shift + 1 - (top + shift)).toNat = (bottom + 1 - top).toNat := by omega
  rw [scanDown, scanDown, lengths]
  apply firstHit_moved
  intro n bound _
  exact same _ (by omega) (by omega)

theorem scanUp_map {bottom top : Int} (same : ∀ i, top ≤ i → i ≤ bottom →
      (∀ j, i < j → j ≤ bottom → test j = .ok none) → other i = (test i).map (Option.map view)) :
    scanUp bottom top other = (scanUp bottom top test).map (Option.map view) := by
  have unmoved : scanUp (bottom + 0) (top + 0) other = (scanUp bottom top test).map (Option.map view) := by
    apply scanUp_moved
    simpa using same
  simpa using unmoved

/-- Two walks up give the same when their tests agree as far as the first walk goes. -/
theorem scanUp_congr {bottom top : Int} {test other : Int → Except ε (Option β)}
    (same : ∀ i, top ≤ i → i ≤ bottom → (∀ j, i < j → j ≤ bottom → test j = .ok none) → test i = other i) :
    scanUp bottom top test = scanUp bottom top other := by
  have mapped : scanUp bottom top other = (scanUp bottom top test).map (Option.map id) := by
    apply scanUp_map
    intro i above below silent
    simp [same i above below silent]
  simpa using mapped.symm

/-! ## Lines that say nothing -/

theorem firstHit_of_silent {step : Int} {count more : Nat} {line : Int}
    (silent : ∀ n < more, test (line + (count + n : Nat) * step) = .ok none) :
    firstHit test step (count + more) line = firstHit test step count line := by
  induction count generalizing line with
  | zero =>
    apply firstHit_eq_none_iff.mpr
    simpa using silent
  | succ count ih =>
    have silent_behind : ∀ n < more, test (line + step + (count + n : Nat) * step) = .ok none := by
      intro n bound
      rw [next_line, Nat.add_right_comm]
      exact silent n bound
    rw [Nat.add_right_comm, firstHit, firstHit, ih silent_behind]

theorem scanUp_of_silent {bottom top higher : Int} (above : higher ≤ top)
    (silent : ∀ i, higher ≤ i → i < top → test i = .ok none) :
    scanUp bottom higher test = scanUp bottom top test := by
  obtain ⟨more, length⟩ : ∃ more, (bottom + 1 - higher).toNat = (bottom + 1 - top).toNat + more :=
    Nat.exists_eq_add_of_le (by omega)
  rw [scanUp, scanUp, length]
  apply firstHit_of_silent
  intro n bound
  exact silent _ (by omega) (by omega)

theorem scanUp_sunk {depth : Nat} {bottom window : Int}
    (same : ∀ i, max 0 (bottom - window) ≤ i → i ≤ bottom → other (i + depth) = (test i).map (Option.map view))
    (silent : ∀ i : Int, 0 ≤ i → i < depth → other i = .ok none) :
    scanUp (bottom + depth) (max 0 (bottom + depth - window)) other =
      (scanUp bottom (max 0 (bottom - window)) test).map (Option.map view) := by
  have shorter : scanUp (bottom + depth) (max 0 (bottom + depth - window)) other =
      scanUp (bottom + depth) (max 0 (bottom - window) + depth) other := by
    apply scanUp_of_silent (by omega)
    intro i from_higher to_top
    exact silent i (by omega) (by omega)
  rw [shorter]
  apply scanUp_moved
  intro i from_top to_bottom _
  exact same i from_top to_bottom

end

theorem skipDown_moved {ε : Type} {test other : Int → Except ε Bool} {shift : Int} {count : Nat} {line : Int}
    (same : ∀ i, line ≤ i → i < line + count → other (i + shift) = test i) :
    skipDown other count (line + shift) = (skipDown test count line).map (· + shift) := by
  induction count generalizing line with
  | zero => rfl
  | succ count ih =>
    rw [skipDown, skipDown, same line (by omega) (by omega)]
    cases test line with
    | error error => rfl
    | ok passes =>
      cases passes with
      | false => rfl
      | true =>
        show skipDown other count (line + shift + 1) = (skipDown test count (line + 1)).map _
        rw [Int.add_right_comm]
        apply ih
        intro i from_line to_end
        exact same i (by omega) (by omega)

end Docblock
