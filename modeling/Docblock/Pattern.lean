import Docblock.Text.Blank
import Docblock.Text.LetterCase
import Docblock.Text.WordChar

/-! Patterns over one line of text. A pattern is tried by backtracking: its choices have an order, and
the first of them for which all that follows succeeds is the one that counts. -/

set_option autoImplicit false

namespace Docblock

/-- A place in a text: the character just passed, if there is one, and what is still ahead. -/
structure Cursor where
  passed : Option Char
  ahead : Text
  deriving DecidableEq, Repr

namespace Cursor

def start (text : Text) : Cursor := ⟨none, text⟩

/-- All places from this one to the end, nearest first. -/
def onward (passed : Option Char) : Text → List Cursor
  | [] => [⟨passed, []⟩]
  | c :: rest => ⟨passed, c :: rest⟩ :: onward (some c) rest

/-- The places that a run of accepted characters leads to, in front of those in `nearer`; farthest first. -/
def farthestFirst (accepts : Char → Bool) (passed : Option Char) : Text → List Cursor → List Cursor
  | [], nearer => ⟨passed, []⟩ :: nearer
  | c :: rest, nearer =>
    if accepts c then farthestFirst accepts (some c) rest (⟨passed, c :: rest⟩ :: nearer)
    else ⟨passed, c :: rest⟩ :: nearer

def atStop (cursor : Cursor) : Bool :=
  cursor.ahead.isEmpty || cursor.ahead == ['\n']

def atEdge (cursor : Cursor) : Bool :=
  cursor.passed.any isWord != cursor.ahead.head?.any isWord

def upTo (cursor later : Cursor) : Text :=
  cursor.ahead.take (cursor.ahead.length - later.ahead.length)

end Cursor

inductive Pattern where
  | empty
  | one (accepts : Char → Bool)
  /-- Accepted characters, as many as possible first. -/
  | many (accepts : Char → Bool)
  /-- Accepted characters, as few as possible first. -/
  | few (accepts : Char → Bool)
  | seq (first second : Pattern)
  | alt (first second : Pattern)
  /-- Repetition, as often as possible first; each round moves on. -/
  | star (body : Pattern)
  | start
  /-- The end of the text, or the place before a line feed that ends it. -/
  | stop
  | edge
  /-- Holds where the inner pattern does not match. -/
  | absent (body : Pattern)

namespace Pattern

instance : Append Pattern := ⟨seq⟩

instance : OrOp Pattern := ⟨alt⟩

/-- Rounds of `step`, as many as possible first, with `next` after the last of them. -/
def rounds {β : Type} (step : (Cursor → Option β) → Cursor → Option β) (next : Cursor → Option β) :
    Nat → Cursor → Option β
  | 0, cursor => next cursor
  | fuel + 1, cursor =>
    (step (fun later =>
        if later.ahead.length < cursor.ahead.length then rounds step next fuel later else none)
      cursor).orElse fun _ => next cursor

/-- Matches from a place on and asks `next` at each place where the pattern can end, in the order of
its choices, until there is an answer. -/
def run {β : Type} : Pattern → (Cursor → Option β) → Cursor → Option β
  | empty, next, cursor => next cursor
  | one accepts, next, cursor =>
    match cursor.ahead with
    | [] => none
    | c :: rest => if accepts c then next ⟨some c, rest⟩ else none
  | many accepts, next, cursor =>
    (Cursor.farthestFirst accepts cursor.passed cursor.ahead []).findSome? next
  | few accepts, next, cursor =>
    (Cursor.farthestFirst accepts cursor.passed cursor.ahead []).reverse.findSome? next
  | seq first second, next, cursor => first.run (second.run next) cursor
  | alt first second, next, cursor => (first.run next cursor).orElse fun _ => second.run next cursor
  | star body, next, cursor => rounds body.run next cursor.ahead.length cursor
  | start, next, cursor => if cursor.passed.isNone then next cursor else none
  | stop, next, cursor => if cursor.atStop then next cursor else none
  | edge, next, cursor => if cursor.atEdge then next cursor else none
  | absent body, next, cursor => if (body.run some cursor).isNone then next cursor else none

-- The answer of the leftmost place from which the pattern leads to one.
def find {β : Type} (pattern : Pattern) (next : Cursor → Option β) (text : Text) : Option β :=
  (Cursor.onward none text).findSome? (pattern.run next)

def matchesIn (pattern : Pattern) (text : Text) : Bool :=
  (pattern.find some text).isSome

def matchesAt (pattern : Pattern) (text : Text) : Bool :=
  (pattern.run some (Cursor.start text)).isSome

/-- The text that `body` matches at the leftmost place where `before`, `body` and `after` match in a row. -/
def capture (before body after : Pattern) (text : Text) : Option Text :=
  before.find (fun first => body.run (fun last => after.run (fun _ => some (first.upTo last)) last) first)
    text

def char (c : Char) : Pattern := one (· == c)

def literal : Text → Pattern
  | [] => empty
  | [c] => char c
  | c :: rest => char c ++ literal rest

def anyCase : Text → Pattern
  | [] => empty
  | [c] => one (sameLetter c)
  | c :: rest => one (sameLetter c) ++ anyCase rest

def oneOf : List Pattern → Pattern
  | [] => one fun _ => false
  | [pattern] => pattern
  | pattern :: rest => pattern ||| oneOf rest

def optional (pattern : Pattern) : Pattern := pattern ||| empty

def some1 (accepts : Char → Bool) : Pattern := one accepts ++ many accepts

def blanks : Pattern := many isBlank

def space : Pattern := some1 isBlank

end Pattern

end Docblock
