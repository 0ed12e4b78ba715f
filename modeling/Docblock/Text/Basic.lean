/-! Text as the list of its characters, with the cuts and replacements that the rest of the library uses. -/

set_option autoImplicit false

namespace Docblock

abbrev Text := List Char

def inRanges (ranges : List (Nat × Nat)) (c : Char) : Bool :=
  ranges.any fun (first, last) => first ≤ c.toNat && c.toNat ≤ last

namespace Text

/-- What holds of each character of a text is decided along the text, not over all characters that there are. -/
scoped instance decidableEach (p : Char → Prop) [DecidablePred p] (text : Text) : Decidable (∀ c ∈ text, p c) :=
  List.decidableBAll p text

/-- The lines put one after the other, with `separator` between neighbours. -/
def join (separator : Text) : List Text → Text
  | [] => []
  | [line] => line
  | line :: rest => line ++ separator ++ join separator rest

def utf8Bytes : Text → Nat
  | [] => 0
  | c :: rest => c.utf8Size + utf8Bytes rest

def holds (text part : Text) : Bool :=
  match text with
  | [] => part.isEmpty
  | c :: rest => part.isPrefixOf (c :: rest) || holds rest part

/-- The pieces between the occurrences of one character; there is always at least one. -/
def splitOn (mark : Char) : Text → List Text
  | [] => [[]]
  | c :: rest =>
    if c = mark then [] :: splitOn mark rest
    else match splitOn mark rest with
      | [] => [[c]]
      | piece :: pieces => (c :: piece) :: pieces

/-- Goes through a text from left to right. `find` recognises a stretch at the front of what is left and
gives its replacement and its length; the first `pending` characters belong to a stretch that is
already replaced. -/
def substituteFrom (find : Text → Option (Text × Nat)) : Nat → Text → Text
  | _, [] => []
  | pending + 1, _ :: rest => substituteFrom find pending rest
  | 0, c :: rest =>
    match find (c :: rest) with
    | some (replacement, length) => replacement ++ substituteFrom find (length - 1) rest
    | none => c :: substituteFrom find 0 rest

def substitute (find : Text → Option (Text × Nat)) (text : Text) : Text :=
  substituteFrom find 0 text

-- Replaces each occurrence of `old`, which is not empty, by `new`.
def replace (text old new : Text) : Text :=
  substitute (fun ahead => if old.isPrefixOf ahead then some (new, old.length) else none) text

def onLastLine (text : Text) : Bool :=
  text.dropLast.all (· != '\n')

/-- Cuts a text at the first `opener` on its last line; a line feed that ends the text stays. -/
def cutAt (text opener : Text) : Text :=
  match text with
  | [] => []
  | c :: rest =>
    if opener.isPrefixOf (c :: rest) && onLastLine (c :: rest) then
      if rest.getLast? = some '\n' then ['\n'] else []
    else c :: cutAt rest opener

@[simp] theorem substituteFrom_nil (find : Text → Option (Text × Nat)) (pending : Nat) :
    substituteFrom find pending [] = [] := by
  cases pending <;> rfl

theorem substituteFrom_drop (find : Text → Option (Text × Nat)) (pending : Nat) (text : Text) :
    substituteFrom find pending text = substitute find (text.drop pending) := by
  induction text generalizing pending with
  | nil => simp [substitute]
  | cons c rest ih =>
    cases pending with
    | zero => rfl
    | succ pending => simpa [substituteFrom] using ih pending

@[simp] theorem join_nil (separator : Text) : join separator [] = [] := rfl

@[simp] theorem join_singleton (separator line : Text) : join separator [line] = line := rfl

theorem join_cons_cons (separator line next : Text) (rest : List Text) :
    join separator (line :: next :: rest) = line ++ separator ++ join separator (next :: rest) :=
  rfl

theorem splitOn_ne_nil (mark : Char) (text : Text) : splitOn mark text ≠ [] := by
  cases text with
  | nil => simp [splitOn]
  | cons c rest =>
    rw [splitOn]
    split
    · simp
    · split <;> simp

end Text

end Docblock
