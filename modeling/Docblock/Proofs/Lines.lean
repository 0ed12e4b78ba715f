import Docblock.Document

/-! Lines and line breaks. Cutting a text into lines undoes putting unbroken lines together, and a line
feed parts the lines before it from the lines behind it. -/

set_option autoImplicit false

namespace Docblock

namespace Text

/-- No character of the text belongs to a line break. -/
def Unbroken (line : Text) : Prop := ∀ c ∈ line, c ≠ '\r' ∧ c ≠ '\n'

instance (line : Text) : Decidable line.Unbroken := List.decidableBAll _ line

theorem Unbroken.of_subset {part text : Text} (whole : text.Unbroken) (subset : part ⊆ text) :
    part.Unbroken :=
  fun c within => whole c (subset within)

theorem unbroken_of_forall {accepts : Char → Bool} (no_return : accepts '\r' = false)
    (no_feed : accepts '\n' = false) {text : Text} (accepted : ∀ c ∈ text, accepts c = true) :
    text.Unbroken := by
  intro c within
  have c_accepted := accepted c within
  constructor
  · intro same
    simp [same, no_return] at c_accepted
  · intro same
    simp [same, no_feed] at c_accepted

theorem unbroken_cons {c : Char} {rest : Text} :
    Unbroken (c :: rest) ↔ (c ≠ '\r' ∧ c ≠ '\n') ∧ rest.Unbroken :=
  List.forall_mem_cons

theorem unbroken_append {front rest : Text} :
    (front ++ rest).Unbroken ↔ front.Unbroken ∧ rest.Unbroken :=
  List.forall_mem_append

/-- How many line breaks a text has; CR LF is a single one. -/
def breaks : Text → Nat
  | [] => 0
  | '\r' :: '\n' :: rest => breaks rest + 1
  | c :: rest => if c == '\r' || c == '\n' then breaks rest + 1 else breaks rest

/-! ## Lines in any sense -/

section
variable {ends : Char → Bool} {line rest : Text}

theorem linesBy_feed (feed_ends : ends '\n' = true) (rest : Text) :
    linesBy ends ('\n' :: rest) = [] :: linesBy ends rest := by
  simp [linesBy, feed_ends]

theorem linesBy_cons {c : Char} (inside : ends c = false) (no_return : c ≠ '\r') {more : List Text}
    (cut : linesBy ends rest = line :: more) : linesBy ends (c :: rest) = (c :: line) :: more := by
  rw [linesBy.eq_3 _ _ _ (by rintro tail rfl; exact absurd rfl no_return)]
  simp [inside, cut]

-- A character that ends no line is no carriage return, so it cannot make a break with a line feed behind it.
theorem ne_return {c : Char} (return_ends : ends '\r' = true) (inside : ends c = false) : c ≠ '\r' := by
  rintro rfl
  simp [return_ends] at inside

theorem linesBy_whole_feed (feed_ends : ends '\n' = true) (return_ends : ends '\r' = true)
    (whole : ∀ c ∈ line, ends c = false) (below : Text) :
    linesBy ends (line ++ '\n' :: below) = line :: linesBy ends below := by
  induction line with
  | nil => exact linesBy_feed feed_ends below
  | cons c rest ih =>
    obtain ⟨inside, rest_whole⟩ := List.forall_mem_cons.mp whole
    exact linesBy_cons inside (ne_return return_ends inside) (ih rest_whole)

theorem linesBy_whole (return_ends : ends '\r' = true) (whole : ∀ c ∈ line, ends c = false) :
    linesBy ends line = [line] := by
  induction line with
  | nil => rfl
  | cons c rest ih =>
    obtain ⟨inside, rest_whole⟩ := List.forall_mem_cons.mp whole
    exact linesBy_cons inside (ne_return return_ends inside) (ih rest_whole)

end

/-! ## Lines of a document -/

@[simp] theorem lines_nil : lines [] = [[]] := rfl

@[simp] theorem lines_feed (rest : Text) : lines ('\n' :: rest) = [] :: lines rest :=
  linesBy_feed rfl rest

@[simp] theorem lines_return_feed (rest : Text) : lines ('\r' :: '\n' :: rest) = [] :: lines rest := by
  simp [lines, linesBy]

-- A carriage return that no line feed follows ends a line too.
theorem lines_return {rest : Text} (alone : rest.head? ≠ some '\n') :
    lines ('\r' :: rest) = [] :: lines rest := by
  unfold lines
  rw [linesBy.eq_3 _ _ _ (by rintro tail - rfl; exact alone rfl)]
  simp

theorem lines_cons {c : Char} (other : c ≠ '\r' ∧ c ≠ '\n') {rest line : Text} {more : List Text}
    (cut : lines rest = line :: more) : lines (c :: rest) = (c :: line) :: more :=
  linesBy_cons (by simp [other]) other.1 cut

-- The cases by which a text is cut into lines.
theorem lines_induction {motive : Text → Prop} (nil : motive [])
    (feed : ∀ rest, motive rest → motive ('\n' :: rest))
    (return_feed : ∀ rest, motive rest → motive ('\r' :: '\n' :: rest))
    (return_alone : ∀ rest, rest.head? ≠ some '\n' → motive rest → motive ('\r' :: rest))
    (other : ∀ c rest, c ≠ '\r' ∧ c ≠ '\n' → motive rest → motive (c :: rest)) (text : Text) :
    motive text := by
  fun_induction breaks text with
  | case1 => exact nil
  | case2 rest ih => exact return_feed rest ih
  | case3 c rest alone broken ih =>
    rcases (by simpa using broken : c = '\r' ∨ c = '\n') with rfl | rfl
    · refine return_alone rest (fun follows => ?_) ih
      obtain ⟨tail, rfl⟩ : ∃ tail, rest = '\n' :: tail := by
        cases rest with
        | nil => simp at follows
        | cons d tail => exact ⟨tail, by simpa using follows⟩
      exact alone tail rfl rfl
    · exact feed rest ih
  | case4 c rest alone unbroken ih => exact other c rest (by simpa using unbroken) ih

theorem length_lines (text : Text) : (lines text).length = breaks text + 1 := by
  induction text using lines_induction with
  | nil => rfl
  | feed rest ih => simp [breaks, ih]
  | return_feed rest ih => simp [breaks, ih]
  | return_alone rest alone ih =>
    rw [lines_return alone, breaks.eq_3 _ _ (by rintro tail - rfl; exact alone rfl)]
    simp [ih]
  | other c rest plain ih =>
    obtain ⟨line, more, cut⟩ := List.exists_cons_of_ne_nil (lines_ne_nil rest)
    rw [lines_cons plain cut, breaks.eq_3 _ _ (by rintro tail rfl; exact absurd rfl plain.1)]
    simpa [cut, plain.1, plain.2] using ih

theorem unbroken_of_mem_lines {text line : Text} (member : line ∈ lines text) : Unbroken line := by
  have empty_whole : Unbroken [] := List.forall_mem_nil _
  suffices whole : ∀ row ∈ lines text, Unbroken row from whole line member
  clear member
  induction text using lines_induction with
  | nil => exact List.forall_mem_singleton.mpr empty_whole
  | feed rest ih =>
    rw [lines_feed]
    exact List.forall_mem_cons.mpr ⟨empty_whole, ih⟩
  | return_feed rest ih =>
    rw [lines_return_feed]
    exact List.forall_mem_cons.mpr ⟨empty_whole, ih⟩
  | return_alone rest alone ih =>
    rw [lines_return alone]
    exact List.forall_mem_cons.mpr ⟨empty_whole, ih⟩
  | other c rest plain ih =>
    -- The character lengthens the first line; the lines below it are those of the rest.
    obtain ⟨first, more, cut⟩ := List.exists_cons_of_ne_nil (lines_ne_nil rest)
    rw [cut] at ih
    obtain ⟨first_whole, below_whole⟩ := List.forall_mem_cons.mp ih
    rw [lines_cons plain cut]
    exact List.forall_mem_cons.mpr ⟨unbroken_cons.mpr ⟨plain, first_whole⟩, below_whole⟩

theorem lines_append_feed (above : Text) :
    ∃ upper, upper ≠ [] ∧ ∀ below, lines (above ++ '\n' :: below) = upper ++ lines below := by
  induction above using lines_induction with
  | nil => exact ⟨[[]], by simp, fun below => by simp⟩
  | feed rest ih =>
    obtain ⟨upper, _, cut⟩ := ih
    exact ⟨[] :: upper, by simp, fun below => by simp [cut]⟩
  | return_feed rest ih =>
    obtain ⟨upper, _, cut⟩ := ih
    exact ⟨[] :: upper, by simp, fun below => by simp [cut]⟩
  | return_alone rest alone ih =>
    -- Where nothing follows the carriage return, it makes a single line break with the line feed.
    cases rest with
    | nil => exact ⟨[[]], by simp, fun below => by simp⟩
    | cons c tail =>
      obtain ⟨upper, _, cut⟩ := ih
      refine ⟨[] :: upper, by simp, fun below => ?_⟩
      have apart : ((c :: tail) ++ '\n' :: below).head? ≠ some '\n' := by simpa using alone
      rw [List.cons_append, lines_return apart, cut, List.cons_append]
  | other c rest plain ih =>
    obtain ⟨upper, filled, cut⟩ := ih
    obtain ⟨line, more, rfl⟩ := List.exists_cons_of_ne_nil filled
    exact ⟨(c :: line) :: more, by simp, fun below => lines_cons plain (cut below)⟩

/-- A text that ends in a line feed is cut into lines, at least one, without regard to what stands below it. -/
theorem lines_ended_append {text : Text} (feed : text.getLast? = some '\n') :
    text.lines.dropLast ≠ [] ∧ ∀ below, (text ++ below).lines = text.lines.dropLast ++ below.lines := by
  obtain ⟨front, rfl⟩ := List.getLast?_eq_some_iff.mp feed
  obtain ⟨upper, filled, cut⟩ := lines_append_feed front
  have alone : lines (front ++ ['\n']) = upper ++ [[]] := cut []
  rw [alone, List.dropLast_concat]
  refine ⟨filled, fun below => ?_⟩
  rw [List.append_assoc, List.singleton_append]
  exact cut below

theorem Unbroken.not_end {line : Text} (whole : line.Unbroken) : ∀ c ∈ line, (c == '\r' || c == '\n') = false := by
  simpa [Unbroken] using whole

theorem lines_unbroken_feed {line : Text} (whole : Unbroken line) (below : Text) :
    lines (line ++ '\n' :: below) = line :: lines below :=
  linesBy_whole_feed rfl rfl whole.not_end below

theorem join_cons_of_ne_nil (separator line : Text) {rest : List Text} (more : rest ≠ []) :
    join separator (line :: rest) = line ++ separator ++ join separator rest := by
  obtain ⟨next, rest, rfl⟩ := List.exists_cons_of_ne_nil more
  exact join_cons_cons separator line next rest

theorem join_cons_char (separator : Text) (c : Char) (line : Text) (more : List Text) :
    join separator ((c :: line) :: more) = c :: join separator (line :: more) := by
  cases more with
  | nil => rfl
  | cons next rest => simp [join_cons_cons]

theorem mem_join_iff {separator : Text} {rows : List Text} {c : Char} (other : c ∉ separator) :
    c ∈ join separator rows ↔ ∃ row ∈ rows, c ∈ row := by
  induction rows with
  | nil => simp
  | cons row rest ih =>
    by_cases more : rest = []
    · simp [more]
    · simp [join_cons_of_ne_nil separator row more, other, ih]

theorem join_append {separator : Text} {rows others : List Text} (some_row : rows ≠ [])
    (some_other : others ≠ []) :
    join separator (rows ++ others) = join separator rows ++ separator ++ join separator others := by
  induction rows with
  | nil => exact absurd rfl some_row
  | cons row rest ih =>
    by_cases more : rest = []
    · subst more
      rw [List.singleton_append, join_cons_of_ne_nil separator row some_other, join_singleton]
    · rw [List.cons_append, join_cons_of_ne_nil separator row (by simp [more]), ih more,
        join_cons_of_ne_nil separator row more]
      simp only [List.append_assoc]

theorem suffix_join_concat (separator : Text) (rows : List Text) (last : Text) :
    last <:+ join separator (rows ++ [last]) := by
  by_cases some_row : rows = []
  · simp [some_row]
  · rw [join_append some_row (List.cons_ne_nil last [])]
    exact List.suffix_append _ last

/-- A way of cutting that leaves a single row whole, and takes the first of several rows off at the separator, finds all
rows again that were put together. -/
theorem cut_join {cut : Text → List Text} {separator : Text} {Whole : Text → Prop} {rows : List Text}
    (single : ∀ row, Whole row → cut row = [row])
    (first : ∀ row rest, Whole row → (∀ other ∈ rest, Whole other) →
      cut (row ++ separator ++ join separator rest) = row :: cut (join separator rest))
    (some_row : rows ≠ []) (whole : ∀ row ∈ rows, Whole row) : cut (join separator rows) = rows := by
  induction rows with
  | nil => exact absurd rfl some_row
  | cons row rest ih =>
    obtain ⟨row_whole, rest_whole⟩ := List.forall_mem_cons.mp whole
    by_cases more : rest = []
    · subst more
      exact single row row_whole
    · rw [join_cons_of_ne_nil _ _ more, first row rest row_whole rest_whole, ih more rest_whole]

theorem linesBy_join {ends : Char → Bool} (feed_ends : ends '\n' = true) (return_ends : ends '\r' = true)
    {rows : List Text} (some_row : rows ≠ []) (whole : ∀ row ∈ rows, ∀ c ∈ row, ends c = false) :
    linesBy ends (join ['\n'] rows) = rows := by
  refine cut_join (fun row row_whole => linesBy_whole return_ends row_whole) (fun row rest row_whole _ => ?_) some_row whole
  rw [List.append_assoc, List.singleton_append, linesBy_whole_feed feed_ends return_ends row_whole]

theorem lines_join {rows : List Text} (some_row : rows ≠ []) (whole : ∀ row ∈ rows, Unbroken row) :
    lines (join ['\n'] rows) = rows :=
  linesBy_join rfl rfl some_row fun row member => (whole row member).not_end

theorem proseLines_join {rows : List Text} (last_filled : rows.getLast? ≠ some [])
    (whole : ∀ row ∈ rows, ∀ c ∈ row, endsProseLine c = false) : proseLines (join ['\n'] rows) = rows := by
  by_cases some_row : rows = []
  · subst some_row
    rfl
  · have found : linesBy endsProseLine (join ['\n'] rows) = rows := linesBy_join rfl rfl some_row whole
    simp [proseLines, found, last_filled]

theorem lines_join_append {rows : List Text} (whole : ∀ row ∈ rows, Unbroken row) (below : Text) :
    lines (join ['\n'] (rows ++ [[]]) ++ below) = rows ++ lines below := by
  induction rows with
  | nil => simp
  | cons row rest ih =>
    obtain ⟨row_whole, rest_whole⟩ := List.forall_mem_cons.mp whole
    rw [List.cons_append, join_cons_of_ne_nil _ _ (by simp), List.append_assoc, List.append_assoc,
      List.singleton_append, lines_unbroken_feed row_whole, ih rest_whole, List.cons_append]

end Text

end Docblock
