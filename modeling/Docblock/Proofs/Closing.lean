import Docblock.Proofs.Names
import Docblock.Proofs.Rows

/-! Where comments close, in the lines of plans. What is carried from the document into a comment cannot end it
before its last line, but for one thing: the type of a variable, which is carried over as it is written. -/

set_option autoImplicit false

namespace Docblock

namespace Comment

/-- The lines of one block comment: no line but the last closes it. -/
def IsBlock (lines : List Text) : Prop := Enclosed (fun row => row.holds closer = false) lines

instance (lines : List Text) : Decidable (IsBlock lines) :=
  inferInstanceAs (Decidable (Enclosed (fun row => row.holds closer = false) lines))

theorem holds_closer_of_no_slash {text : Text} (plain : '/' ∉ text) : text.holds closer = false := by
  induction text with
  | nil => rfl
  | cons c rest ih =>
    rw [Text.holds, ih fun within => plain (List.mem_cons_of_mem c within), Bool.or_false]
    cases rest with
    | nil => simp [closer, List.isPrefixOf]
    | cons d more =>
      have no_slash : d ≠ '/' := fun same => plain (by simp [same])
      simp [closer, List.isPrefixOf, no_slash.symm]

-- A character of neither kind parts what can close a comment.
theorem holds_closer_parted {c : Char} (no_star : c ≠ '*') (no_slash : c ≠ '/') (front rest : Text) :
    Text.holds (front ++ c :: rest) closer = (front.holds closer || rest.holds closer) := by
  induction front with
  | nil => simp [Text.holds, closer, List.isPrefixOf, no_star.symm]
  | cons d more ih =>
    rw [List.cons_append, Text.holds, Text.holds, ih, Bool.or_assoc]
    cases more with
    | nil => simp [closer, List.isPrefixOf, no_slash.symm]
    | cons e others => simp [closer, List.isPrefixOf]

end Comment

/-! ## Types -/

theorem JavaScript.no_slash_of_typeOfValue? {value type : Text} (found : typeOfValue? value = some type) :
    '/' ∉ type := by
  unfold typeOfValue? at found
  split_ifs at found
  case neg =>
    intro within
    exact absurd (nameChar_of_capture found '/' within) (by decide)
  all_goals
    obtain rfl := Option.some.inj found
    decide

namespace Planner
open Comment (closer Enclosed)

section
variable {doc : Document} {line : Int} {text type : Text}

theorem variableType_cases (read : variableType doc line = .ok type) :
    (∃ text, doc.line line = .ok text ∧ JavaScript.writtenType? (Comment.stripLine text) = some type) ∨
      '/' ∉ type := by
  obtain ⟨text, text_read, read⟩ := bind_eq_ok_iff.mp read
  split at read
  · next c rest found =>
    obtain rfl := pure_eq_ok_iff.mp read
    unfold JavaScript.variableType? at found
    dsimp only at found
    split at found
    · next written written_eq => exact .inl ⟨text, text_read, by rw [written_eq, found]⟩
    · obtain ⟨value, _, found⟩ := Option.bind_eq_some_iff.mp found
      exact .inr (JavaScript.no_slash_of_typeOfValue? found)
  · obtain rfl := pure_eq_ok_iff.mp read
    exact .inr (by decide)

theorem variableType_of_written (text_read : doc.line line = .ok text) (filled : type ≠ [])
    (written : JavaScript.writtenType? (Comment.stripLine text) = some type) :
    variableType doc line = .ok type := by
  obtain ⟨c, rest, rfl⟩ := List.exists_cons_of_ne_nil filled
  have found : JavaScript.variableType? text = some (c :: rest) := by simp [JavaScript.variableType?, written]
  exact bind_eq_ok_iff.mpr ⟨text, text_read, by rw [found]; rfl⟩

theorem holds_closer_typeLine (type : Text) : (typeLine type).holds closer = type.holds closer := by
  have front_plain : Text.holds " * @type ".toList closer = false := by decide +kernel
  have shape : typeLine type = " * @type ".toList ++ '\x7b' :: (type ++ '\x7d' :: []) := rfl
  rw [shape, Comment.holds_closer_parted (by decide) (by decide),
    Comment.holds_closer_parted (by decide) (by decide), front_plain, Bool.false_or]
  exact Bool.or_false _

end

/-! ## Rows -/

section
variable {cache later : Template.Cache} {dialect : Dialect} {windows : Windows} {doc : Document}
  {plan : Plan} {names : List Text} {row : Text}

/-- The type that is written where a variable is declared that the plan is for. -/
def WrittenType (doc : Document) (plan : Plan) (type : Text) : Prop :=
  plan.kind = some .var ∧ ∃ line text, plan.declarationLine = some line ∧ doc.line line = .ok text ∧
    JavaScript.writtenType? (Comment.stripLine text) = some type

theorem no_slash_of_added (each : ∀ name ∈ names, ∀ c ∈ name, JavaScript.nameChar c = true)
    (added : Added (dialect.grammar windows) names row) : '/' ∉ row := by
  have no_slash {name : Text} (member : name ∈ names) : '/' ∉ name :=
    fun within => absurd (each name member '/' within) (by decide)
  have no_slash_stop {number : Nat} {stop : Text} (written : writeNumber number = .ok stop) : '/' ∉ stop :=
    fun within => absurd ((Snippet.digits_of_writeNumber written).2 '/' within) (by decide)
  cases added with
  | apexParam _ member =>
    exact List.not_mem_append (List.not_mem_append (by decide +kernel) (no_slash member)) (by decide +kernel)
  | scriptParam _ member =>
    exact List.not_mem_append (List.not_mem_append (by decide +kernel) (no_slash member)) (by decide +kernel)
  | stopParam _ member written =>
    have no_slash_description := List.not_mem_append
      (List.not_mem_append (by decide +kernel : '/' ∉ " $\x7b".toList) (no_slash_stop written))
      (by decide +kernel : '/' ∉ ":description\x7d".toList)
    exact List.not_mem_append (List.not_mem_append (by decide +kernel) (no_slash member)) no_slash_description
  | returns written =>
    cases dialect with
    | apex =>
      exact List.not_mem_append (List.not_mem_append (by decide +kernel) (no_slash_stop written))
        (by decide +kernel)
    | javaScript =>
      exact List.not_mem_append (List.not_mem_append (by decide +kernel) (no_slash_stop written))
        (by decide +kernel)

/-- A comment that is planned for a declaration opens with its first line and ends with its last. Between
them only a row with a type can close it, where the type does so as it is written. This is about the lines of
the plan: when they are rendered, a tab stop that is written in a type goes, and what stood around it can come
to close the comment. -/
theorem closing_rows (cache : Template.Cache) (dialect : Dialect) (windows : Windows) (doc : Document)
    (line : Int) (plan : Plan) (faithful : cache.Faithful .bundled)
    (made : (generate .bundled cache (dialect.grammar windows) doc line).plan? = some plan)
    (no_header : plan.isFileHeader = false) :
    ∃ rows, plan.lines = Comment.opener :: (rows ++ [Comment.ending]) ∧
      ∀ row, row ∈ rows ∧ row.holds closer = true ↔
        ∃ type, WrittenType doc plan type ∧ type.holds closer = true ∧ row = typeLine type := by
  have planned := generate_planned made
  have templates : ∀ entry ∈ Template.bundled dialect, Comment.IsBlock (entry.2.map String.toList) := by
    cases dialect <;> decide +kernel
  have enclosed : Enclosed (fun row => row.holds closer = true → ∃ type, WrittenType doc plan type ∧
      type.holds closer = true ∧ row = typeLine type) plan.lines := by
    refine planned.enclosed faithful no_header (fun entry member => ?_) (fun row added closes => ?_) ?_
    · exact (templates entry member).mono fun row open_row closes => by simp [open_row] at closes
    · simp [Comment.holds_closer_of_no_slash (no_slash_of_added planned.nameChar added)] at closes
    · intro line type is_var line_eq type_read closes
      rw [holds_closer_typeLine] at closes
      rcases variableType_cases type_read with ⟨text, text_read, written⟩ | no_slash
      · exact ⟨type, ⟨is_var, line, text, line_eq, text_read, written⟩, closes, rfl⟩
      · simp [Comment.holds_closer_of_no_slash no_slash] at closes
  obtain ⟨rows, lines_eq, inner⟩ := enclosed
  refine ⟨rows, lines_eq, fun row => ⟨fun ⟨member, closes⟩ => inner row member closes, ?_⟩⟩
  rintro ⟨type, ⟨is_var, line, text, line_eq, text_read, written⟩, closes, rfl⟩
  rw [holds_closer_typeLine]
  refine ⟨?_, closes⟩
  have filled : type ≠ [] := by
    rintro rfl
    simp [Text.holds, closer] at closes
  obtain ⟨_, other, _, same_line, other_read, typed⟩ := planned.variable_lines faithful no_header is_var
  obtain rfl := Option.some.inj (line_eq.symm.trans same_line)
  obtain rfl : type = other :=
    Except.ok.inj ((variableType_of_written text_read filled written).symm.trans other_read)
  have cut : [variableRow, typeLine type] ++ [Comment.ending] = rows ++ [Comment.ending] :=
    (List.cons.inj (typed.symm.trans lines_eq)).2
  rw [← (List.append_inj' cut rfl).1]
  simp

end

-- A generator with a default value, below a line that is a comment.
theorem closing_rows_of_function :
    ∃ plan rows, let doc := Document.ofText "// all pages\nexport function* pages(from, size = 20) \x7b\n\x7d".toList
      (generate .bundled [] (Dialect.javaScript.grammar {}) doc 0).plan? = some plan ∧
      plan.isFileHeader = false ∧ plan.lines = Comment.opener :: (rows ++ [Comment.ending]) ∧
      ∀ row, row ∈ rows ∧ row.holds closer = true ↔
        ∃ type, WrittenType doc plan type ∧ type.holds closer = true ∧ row = typeLine type := by
  obtain ⟨plan, made, no_header⟩ : ∃ plan, (generate .bundled [] (Dialect.javaScript.grammar {})
      (.ofText "// all pages\nexport function* pages(from, size = 20) \x7b\n\x7d".toList) 0).plan? = some plan ∧
      (!plan.isFileHeader) = true :=
    (Option.any_eq_true _ _).mp (by decide +kernel)
  have no_header : plan.isFileHeader = false := by simpa using no_header
  obtain ⟨rows, closing⟩ := closing_rows [] .javaScript {} _ 0 plan (Template.Cache.faithful_nil _) made no_header
  exact ⟨plan, rows, made, no_header, closing⟩

/-- A type that is written with a comment in it closes the comment that it is carried into. -/
theorem not_isBlock_of_written_type :
    ∃ plan, (generate .bundled [] (Dialect.javaScript.grammar {})
        (.ofText "let id: string /* key */ = load();".toList) 0).plan? = some plan ∧
      plan.isFileHeader = false ∧ ¬ Comment.IsBlock plan.lines := by
  obtain ⟨plan, made, refuted⟩ : ∃ plan, (generate .bundled [] (Dialect.javaScript.grammar {})
      (.ofText "let id: string /* key */ = load();".toList) 0).plan? = some plan ∧
      (!plan.isFileHeader && !decide (Comment.IsBlock plan.lines)) = true :=
    (Option.any_eq_true _ _).mp (by decide +kernel)
  simp only [Bool.and_eq_true, Bool.not_eq_true', decide_eq_false_iff_not] at refuted
  exact ⟨plan, made, refuted⟩

end Planner

end Docblock
