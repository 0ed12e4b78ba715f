import Docblock.Document

/-! Bounded walks over the lines of a document. A line that cannot be read ends a walk with its error. -/

set_option autoImplicit false

namespace Docblock

variable {ε β : Type}

/-- The first answer of `test` on `count` lines, from `line` on in steps of `step`. -/
def firstHit (test : Int → Except ε (Option β)) (step : Int) : Nat → Int → Except ε (Option β)
  | 0, _ => .ok none
  | count + 1, line =>
    match test line with
    | .ok none => firstHit test step count (line + step)
    | answer => answer

def scanDown (top bottom : Int) (test : Int → Except ε (Option β)) : Except ε (Option β) :=
  firstHit test 1 (bottom + 1 - top).toNat top

def scanUp (bottom top : Int) (test : Int → Except ε (Option β)) : Except ε (Option β) :=
  firstHit test (-1) (bottom + 1 - top).toNat bottom

/-- The first of `count` lines from `line` on that fails the test, or the line after them. -/
def skipDown (test : Int → Except ε Bool) : Nat → Int → Except ε Int
  | 0, line => .ok line
  | count + 1, line =>
    match test line with
    | .ok true => skipDown test count (line + 1)
    | .ok false => .ok line
    | .error error => .error error

/-- How many of the first `count` lines are left when those at their end that pass the test are dropped. -/
def skipUp (test : Int → Except ε Bool) : Nat → Except ε Nat
  | 0 => .ok 0
  | count + 1 =>
    match test count with
    | .ok true => skipUp test count
    | .ok false => .ok (count + 1)
    | .error error => .error error

end Docblock
