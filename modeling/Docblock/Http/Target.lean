import Docblock.Text.Digit

/-! The target of a request and the path that it names: from the root on, without dot segments and
without percent-encoding. -/

set_option autoImplicit false

namespace Docblock.Http.Target

def behindAuthority : Text → Text
  | '/' :: '/' :: rest => rest.dropWhile (· != '/')
  | target => target

/-- Segments without the dots among them: one dot stands for nothing, and two dots take back the segment
before them, but not the root. `done` holds the segments before, last first. -/
def followDots (done : List Text) : List Text → List Text
  | [] => done.reverse
  | segment :: rest =>
    if segment = ['.'] then followDots done rest
    else if segment = ['.', '.'] then followDots (if done = [[]] then done else done.tail) rest
    else followDots (segment :: done) rest

-- Takes off percent-encoding once. A percent sign without two hexadecimal digits stays. No path of
-- the service goes beyond ASCII, so a byte that does becomes the replacement character.
def decode : Text → Text
  | '%' :: high :: low :: rest =>
    match hexValue? high, hexValue? low with
    | some upper, some lower =>
      (if upper < 8 then Char.ofNat (16 * upper + lower) else '\ufffd') :: decode rest
    | _, _ => '%' :: decode (high :: low :: rest)
  | c :: rest => c :: decode rest
  | [] => []

/-- The path that a target names. One slash opens it, dots are followed as they are written, and
percent-encoding is taken off twice, by the one who asks and by the one who answers. -/
def path (target : Text) : Text :=
  let whole := behindAuthority (target.takeWhile fun c => c != '?' && c != '#')
  let segments := followDots [] (('/' :: whole.dropWhile (· == '/')).splitOn '/')
  decode (decode (Text.join ['/'] segments))

theorem followDots_of_plain (done segments : List Text)
    (plain : ∀ segment ∈ segments, segment ≠ ['.'] ∧ segment ≠ ['.', '.']) :
    followDots done segments = done.reverse ++ segments := by
  induction segments generalizing done with
  | nil => simp [followDots]
  | cons segment rest ih =>
    obtain ⟨here, behind⟩ := List.forall_mem_cons.1 plain
    simp [followDots, here, ih _ behind]

end Docblock.Http.Target
