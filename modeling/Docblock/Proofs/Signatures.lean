import Docblock.Grammar.Apex
import Docblock.Proofs.Classification
import Docblock.Proofs.Lines
import Docblock.Signature

/-! Signatures over several lines. The lines of a signature are collected through the first that closes it, and
joined they are the text that its parameters are read from. The first of them is looked for by its shape in Apex, from
the line of the declaration on, which is taken itself if it is of the shape. -/

set_option autoImplicit false

namespace Docblock

open Pattern in
theorem Pattern.matchesIn_closer {closer : Char} {ending : Pattern} {tail : Text} (before : Text)
    (ends : ∀ passed, ∃ last, ending.Matches ⟨passed, tail.trimLeft⟩ last) :
    (char closer ++ blanks ++ ending).matchesIn (before ++ closer :: tail) = true := by
  obtain ⟨passed, reached⟩ : ∃ passed, Cursor.Steps (fun _ => true)
      (Cursor.start (before ++ closer :: tail)) ⟨passed, closer :: tail⟩ :=
    Cursor.Steps.ofAppend none (fun _ _ => rfl) (closer :: tail)
  have front_blank : ∀ c ∈ tail.takeWhile isBlank, isBlank c = true := fun c => List.mem_takeWhile_imp
  obtain ⟨later, skipped⟩ := Cursor.Steps.ofAppend (some closer) front_blank tail.trimLeft
  rw [Text.trimLeft, List.takeWhile_append_dropWhile] at skipped
  obtain ⟨last, ended⟩ := ends later
  have closed : (char closer).Matches ⟨passed, closer :: tail⟩ ⟨some closer, tail⟩ :=
    ⟨closer, tail, rfl, beq_self_eq_true closer, rfl⟩
  exact matchesIn_iff.mpr ⟨_, last, reached, _, ⟨_, closed, skipped⟩, ended⟩

namespace Signature

/-! ## Putting lines together -/

/-- The rows through the first that closes a signature, once a parenthesis has opened; none if no row does. -/
def through? (closes : Text → Bool) : Bool → List Text → Option (List Text)
  | _, [] => none
  | opened, row :: rest =>
    let opened := opened || row.contains '('
    if opened && closes row then some [row] else (through? closes opened rest).map (row :: ·)

section
variable {closes : Text → Bool} {opened : Bool} {rows upper lower : List Text} {row last : Text}

/-- A parenthesis has opened in the rows, or before them. -/
def HasOpened (opened : Bool) (rows : List Text) : Prop := opened = true ∨ ∃ row ∈ rows, '(' ∈ row

theorem hasOpened_cons : HasOpened opened (row :: rows) ↔ HasOpened (opened || row.contains '(') rows := by
  simp [HasOpened, or_assoc]

theorem through?_cons_of_open (has_opened : (opened || row.contains '(') = true) (closed : closes row = true) :
    through? closes opened (row :: rows) = some [row] := by
  rw [through?]
  simp only [has_opened, closed, Bool.and_true, if_true]

theorem through?_cons (going_on : (opened || row.contains '(') = true → closes row = false) :
    through? closes opened (row :: rows) =
      (through? closes (opened || row.contains '(') rows).map (row :: ·) := by
  rw [through?]
  cases has_opened : opened || row.contains '(' with
  | false => simp
  | true => simp [going_on has_opened]

theorem through?_whole
    (going_on : ∀ upper row lower, rows = upper ++ row :: lower → HasOpened opened (upper ++ [row]) →
      closes row = false)
    (closed : closes last = true) (has_opened : HasOpened opened (rows ++ [last])) :
    through? closes opened (rows ++ [last]) = some (rows ++ [last]) := by
  induction rows generalizing opened with
  | nil => exact through?_cons_of_open (by simpa [HasOpened] using has_opened) closed
  | cons row rest ih =>
    have below : ∀ upper other lower, rest = upper ++ other :: lower →
        HasOpened (opened || row.contains '(') (upper ++ [other]) → closes other = false := by
      intro upper other lower cut before
      exact going_on (row :: upper) other lower (congrArg (row :: ·) cut) (hasOpened_cons.mpr before)
    rw [List.cons_append, through?_cons fun here => going_on [] row rest rfl (by simpa [HasOpened] using here),
      ih below (hasOpened_cons.mp has_opened)]
    rfl

theorem through?_early (has_opened : HasOpened opened (upper ++ [row])) (closed : closes row = true)
    (lower : List Text) :
    ∃ cut, through? closes opened (upper ++ row :: lower) = some cut ∧ cut <+: upper ++ [row] ∧
      HasOpened opened cut := by
  induction upper generalizing opened with
  | nil =>
    exact ⟨[row], through?_cons_of_open (by simpa [HasOpened] using has_opened) closed, List.prefix_refl _,
      has_opened⟩
  | cons first rest ih =>
    by_cases here : (opened || first.contains '(') = true ∧ closes first = true
    · refine ⟨[first], through?_cons_of_open here.1 here.2, by simp [List.cons_prefix_cons], ?_⟩
      exact hasOpened_cons.mpr (.inl here.1)
    · obtain ⟨cut, found, starts, cut_opened⟩ := ih (hasOpened_cons.mp has_opened)
      refine ⟨first :: cut, ?_, List.cons_prefix_cons.mpr ⟨rfl, starts⟩, hasOpened_cons.mpr cut_opened⟩
      rw [List.cons_append, through?_cons fun before => ?_, found]
      · rfl
      · simpa using fun closes_here => here ⟨before, closes_here⟩

end

theorem collect_of_through {grammar : Grammar} {doc : Document} {rows cut : List Text} {count : Nat}
    {line : Int} {opened : Bool}
    (reads : ∀ (i : Nat) (row : Text), rows[i]? = some row → grammar.declarationText doc (line + i) = .ok row)
    (found : through? grammar.signatureEnd.matchesIn opened rows = some cut) (enough : rows.length ≤ count) :
    collect grammar doc count line opened = .ok (some cut) := by
  induction rows generalizing count line opened cut with
  | nil => simp [through?] at found
  | cons row rest ih =>
    obtain ⟨count, rfl⟩ := Nat.exists_eq_add_one.mpr (Nat.zero_lt_of_lt enough)
    have read : grammar.declarationText doc line = .ok row := by simpa using reads 0 row
    have read_below (i : Nat) (other : Text) (at_i : rest[i]? = some other) :
        grammar.declarationText doc (line + 1 + i) = .ok other := by
      have read := reads (i + 1) other (by simpa using at_i)
      rwa [show line + 1 + (i : Int) = line + (i + 1 : Nat) by omega]
    refine bind_eq_ok_iff.mpr ⟨row, read, ?_⟩
    rw [through?] at found
    dsimp only at found ⊢
    split at found
    · next stops =>
      obtain rfl := Option.some.inj found
      rw [if_pos stops]
      rfl
    · next onward =>
      obtain ⟨below, found_below, rfl⟩ := Option.map_eq_some_iff.mp found
      rw [if_neg onward]
      exact bind_eq_ok_iff.mpr ⟨_, ih read_below found_below (Nat.le_of_succ_le_succ enough), rfl⟩

end Signature

namespace Grammar

/-- The texts of the lines from `first` through `last`, as declarations are read from them. -/
def codeBetween (grammar : Grammar) (doc : Document) (first last : Nat) : List Text :=
  ((doc.lines.drop first).take (last + 1 - first)).map grammar.code

variable {grammar : Grammar} {doc : Document} {first last : Nat}

theorem length_codeBetween (within : last < doc.count) :
    (grammar.codeBetween doc first last).length = last + 1 - first := by
  unfold Document.count at within
  simp only [codeBetween, List.length_map, List.length_take, List.length_drop]
  omega

theorem declarationText_of_codeBetween {i : Nat} {text : Text}
    (found : (grammar.codeBetween doc first last)[i]? = some text) :
    grammar.declarationText doc (first + i) = .ok text := by
  unfold codeBetween at found
  rw [List.getElem?_map, Option.map_eq_some_iff] at found
  obtain ⟨whole, found, code_eq⟩ := found
  rw [List.getElem?_take] at found
  split at found
  · rw [List.getElem?_drop] at found
    refine declarationText_eq_ok_iff.mpr ⟨whole, ?_, code_eq⟩
    exact Document.line_eq_ok_iff.mpr ⟨by omega, by simpa [show ((first : Int) + i).toNat = first + i by omega]⟩
  · simp at found

theorem reassemble_eq {rows cut : List Text}
    (reads : ∀ (i : Nat) (row : Text), rows[i]? = some row → grammar.declarationText doc (first + i) = .ok row)
    (within : first + rows.length ≤ doc.count) (reach : (rows.length : Int) ≤ grammar.windows.signature + 1)
    (found : Signature.through? grammar.signatureEnd.matchesIn false rows = some cut) :
    Signature.reassemble grammar doc first = .ok (some (Text.join [' '] cut)) := by
  have enough : rows.length ≤
      (min ((doc.count : Int) - 1) (first + grammar.windows.signature) + 1 - first).toNat := by
    omega
  exact bind_eq_ok_iff.mpr ⟨some cut, Signature.collect_of_through reads found enough, rfl⟩

theorem reassemble_of_line {row : Text} (read : grammar.declarationText doc first = .ok row)
    (opens : '(' ∈ row) (closes : grammar.signatureEnd.matchesIn row = true)
    (wide : 0 ≤ grammar.windows.signature) : Signature.reassemble grammar doc first = .ok (some row) := by
  obtain ⟨whole, whole_read, _⟩ := declarationText_eq_ok_iff.mp read
  have within := Document.line_within whole_read
  have found : Signature.through? grammar.signatureEnd.matchesIn false [row] = some [row] :=
    Signature.through?_cons_of_open (by simpa using opens) closes
  refine reassemble_eq (fun i other at_i => ?_) (by rw [List.length_singleton]; omega)
    (by rw [List.length_singleton]; omega) found
  cases i with
  | zero =>
    obtain rfl : row = other := by simpa using at_i
    simpa using read
  | succ i => simp at at_i

theorem reassemble_of_codeBetween {cut : List Text} (within : last < doc.count) (ordered : first ≤ last)
    (reach : (last : Int) - first ≤ grammar.windows.signature)
    (found : Signature.through? grammar.signatureEnd.matchesIn false (grammar.codeBetween doc first last) =
      some cut) :
    Signature.reassemble grammar doc first = .ok (some (Text.join [' '] cut)) := by
  have counted : (grammar.codeBetween doc first last).length = last + 1 - first := length_codeBetween within
  exact reassemble_eq (fun i row => declarationText_of_codeBetween) (by omega) (by omega) found

end Grammar

namespace Apex

/-! ## Lines of a shape -/

def likeAt (shape : Pattern) (doc : Document) (line : Int) : Except OutOfRange (Option Int) := do
  let text := annotationName.strip (Comment.stripLine (← doc.line line))
  return if shape.matchesIn text then some line else none

variable {shape : Pattern} {window : Int} {doc : Document} {line : Int}

theorem nearestLike_eq (shape : Pattern) (window : Int) (doc : Document) (line : Int) :
    nearestLike shape window doc line = (do
      match ← scanUp line (max 0 (line - window)) (likeAt shape doc) with
      | some i => return some i
      | none => scanDown (line + 1) (min (doc.count - 1) (line + window)) (likeAt shape doc)) :=
  rfl

theorem eq_of_likeAt {found : Int} (like : likeAt shape doc line = .ok (some found)) : found = line := by
  obtain ⟨text, _, like⟩ := bind_eq_ok_iff.mp like
  have like := pure_eq_ok_iff.mp like
  split at like
  · exact (Option.some.inj like).symm
  · simp at like

theorem nearestLike_of_matches {windows : Windows} {text : Text}
    (read : (grammar windows).declarationText doc line = .ok text) (matched : shape.matchesIn text = true)
    (wide : 0 ≤ window) : nearestLike shape window doc line = .ok (some line) := by
  obtain ⟨whole, whole_read, rfl⟩ := Grammar.declarationText_eq_ok_iff.mp read
  obtain ⟨above, _⟩ := Document.line_within whole_read
  refine bind_eq_ok_iff.mpr ⟨some line, ?_, rfl⟩
  refine scanUp_eq_some_iff.mpr ⟨line, by omega, by omega, ?_, fun j _ _ => by omega⟩
  exact bind_eq_ok_iff.mpr ⟨whole, whole_read, pure_eq_ok_iff.mpr (if_pos matched)⟩

end Apex

end Docblock
