import Docblock.Proofs.Brackets
import Docblock.Proofs.Insertion
import Docblock.Proofs.Names
import Docblock.Proofs.Signatures
import Mathlib.Data.List.Chain

/-! Parameters of functions and methods in scripts. A signature ends on the first line where a closing
parenthesis is followed by something that can follow a parameter list. If that is the parenthesis of the list
itself, the parameters are those of the list written on one line; if it is one further up, there are none. -/

set_option autoImplicit false

namespace Docblock

/-! ## Code on one line -/

namespace Comment

/-- No line comment begins in the text. -/
def Free (text : Text) : Prop := text.IsChain fun c d => ¬ (c = '/' ∧ d = '/')

theorem isPrefixOf_slashes_iff {text : Text} :
    List.isPrefixOf "//".toList text = true ↔ ∃ rest, text = '/' :: '/' :: rest := by
  rw [List.isPrefixOf_iff_prefix]
  exact exists_congr fun rest => eq_comm

theorem stripLine_eq_self {text : Text} (free : Free text) : stripLine text = text := by
  unfold stripLine
  induction text with
  | nil => rfl
  | cons c rest ih =>
    rw [Text.cutAt, if_neg, ih (List.isChain_cons.mp free).2]
    intro cut
    obtain ⟨more, same⟩ := isPrefixOf_slashes_iff.mp (Bool.and_eq_true_iff.mp cut).1
    obtain ⟨rfl, rfl⟩ := List.cons_eq_cons.mp same
    exact (List.isChain_cons_cons.mp free).1 ⟨rfl, rfl⟩

theorem head?_stripLine {text : Text} {c : Char} (found : (stripLine text).head? = some c) :
    c = '\n' ∨ text.head? = some c := by
  unfold stripLine at found
  cases text with
  | nil => simp [Text.cutAt] at found
  | cons first rest =>
    rw [Text.cutAt] at found
    split at found
    · split at found
      · exact .inl (Option.some.inj found).symm
      · simp at found
    · exact .inr found

theorem free_stripLine {text : Text} (whole : text.Unbroken) : Free (stripLine text) := by
  induction text with
  | nil => exact .nil
  | cons c rest ih =>
    obtain ⟨_, rest_whole⟩ := Text.unbroken_cons.mp whole
    rw [stripLine, Text.cutAt]
    split
    · split
      · exact List.isChain_singleton _
      · exact .nil
    · next uncut =>
      refine List.isChain_cons.mpr ⟨fun d found slashes => uncut ?_, ih rest_whole⟩
      obtain ⟨rfl, rfl⟩ := slashes
      have below : rest.head? = some '/' := (head?_stripLine found).resolve_left (by decide)
      obtain ⟨more, rfl⟩ := List.head?_eq_some_iff.mp below
      refine Bool.and_eq_true_iff.mpr ⟨isPrefixOf_slashes_iff.mpr ⟨more, rfl⟩, List.all_eq_true.mpr ?_⟩
      intro d within
      simpa using (whole d (List.dropLast_subset _ within)).2

theorem Free.of_suffix {part text : Text} (free : Free text) (within : part <:+ text) : Free part :=
  List.IsChain.suffix free within

theorem free_join {rows : List Text} (each : ∀ row ∈ rows, Free row) : Free (Text.join [' '] rows) := by
  induction rows with
  | nil => exact .nil
  | cons row rest ih =>
    obtain ⟨row_free, rest_free⟩ := List.forall_mem_cons.mp each
    cases rest with
    | nil => exact row_free
    | cons next others =>
      rw [Text.join_cons_cons, List.append_assoc, List.singleton_append]
      refine List.isChain_append.mpr ⟨row_free, List.isChain_cons.mpr ⟨?_, ih rest_free⟩, ?_⟩
      · simp
      · simp

end Comment

namespace JavaScript
open Pattern Signature

variable {windows : Windows}

/-! ## Lines that close a signature -/

def closingMarks : List Text := [['\x7b'], [';'], "=>".toList, [':']]

/-- What can follow the parenthesis that closes a parameter list: nothing or a mark, behind blanks. -/
def Ends (tail : Text) : Prop := tail.trimLeft = [] ∨ ∃ mark ∈ closingMarks, mark <+: tail.trimLeft

/-- Somewhere on the line a closing parenthesis is followed by what can follow a parameter list. -/
def Closes (row : Text) : Prop := ∃ before tail, row = before ++ ')' :: tail ∧ Ends tail

theorem signatureEnd_eq :
    (grammar windows).signatureEnd = char ')' ++ blanks ++ oneOf (closingMarks.map literal ++ [stop]) :=
  rfl

theorem ending_matches_iff {passed : Option Char} {ahead : Text} :
    (∃ last, (oneOf (closingMarks.map literal ++ [stop])).Matches ⟨passed, ahead⟩ last) ↔
      (∃ mark ∈ closingMarks, mark <+: ahead) ∨ ahead = [] ∨ ahead = ['\n'] := by
  have stop_iff : (∃ last, stop.Matches ⟨passed, ahead⟩ last) ↔ ahead = [] ∨ ahead = ['\n'] := by
    simp [Matches, Cursor.atStop]
  rw [matches_oneOf_iff]
  simp [or_and_right, exists_or, matches_literal_iff, stop_iff]

theorem trimLeft_of_mark {mark ahead : Text} (member : mark ∈ closingMarks) (opens : mark <+: ahead) :
    Text.trimLeft ahead = ahead := by
  obtain ⟨rest, rfl⟩ := opens
  simp only [closingMarks, List.mem_cons, List.not_mem_nil, or_false] at member
  rcases member with rfl | rfl | rfl | rfl <;> rfl

theorem signatureEnd_iff {row : Text} : (grammar windows).signatureEnd.matchesIn row = true ↔ Closes row := by
  constructor
  · intro matched
    rw [signatureEnd_eq] at matched
    obtain ⟨first, last, reached, matched⟩ := matchesIn_iff.mp matched
    obtain ⟨middle, ⟨_, ⟨c, tail, ahead, accepted, rfl⟩, skipped⟩, ended⟩ := matched
    obtain rfl : c = ')' := by simpa using accepted
    obtain ⟨before, row_eq, _⟩ := reached.taken
    obtain ⟨blanks, tail_eq, each⟩ := Cursor.Steps.taken skipped
    have trimmed : Text.trimLeft tail = Text.trimLeft middle.ahead := by
      rw [show tail = blanks ++ middle.ahead from tail_eq]
      exact List.dropWhile_append_of_pos each
    refine ⟨before, tail, ahead ▸ row_eq, ?_⟩
    rw [Ends, trimmed]
    rcases ending_matches_iff.mp ⟨last, ended⟩ with ⟨mark, member, opens⟩ | none_left | feed_left
    · exact .inr ⟨mark, member, by rwa [trimLeft_of_mark member opens]⟩
    · exact .inl (by rw [none_left]; rfl)
    · exact .inl (by rw [feed_left]; rfl)
  · rintro ⟨before, tail, rfl, ends⟩
    rw [signatureEnd_eq]
    exact matchesIn_closer before fun passed => ending_matches_iff.mpr (ends.symm.imp_right .inl)

/-- A line in front of the last closes the signature, with a parenthesis opened on it or above. -/
def ClosesEarly (rows : List Text) : Prop :=
  ∃ upper row lower, rows = upper ++ row :: lower ∧ lower ≠ [] ∧
    (∃ other ∈ upper ++ [row], '(' ∈ other) ∧ Closes row

theorem not_closesEarly {rows : List Text}
    (open_above : ∀ row ∈ rows.dropLast, (grammar windows).signatureEnd.matchesIn row = false) :
    ¬ ClosesEarly rows := by
  rintro ⟨upper, row, lower, rfl, some_below, _, closes⟩
  have above : row ∈ (upper ++ row :: lower).dropLast := by
    rw [List.dropLast_append_of_ne_nil (List.cons_ne_nil row lower), List.dropLast_cons_of_ne_nil some_below]
    simp
  have matched : (grammar windows).signatureEnd.matchesIn row = true := signatureEnd_iff.mpr closes
  simp [open_above row above] at matched

/-! ## Parameters -/

/-- The names in a text between the parentheses of a parameter list. -/
def namesIn (list : Text) : List Text := ((split nesting list).map parameterName).filter (!·.isEmpty)

theorem names_of_list {head list : Text} (no_paren : '(' ∉ head) (balanced : Balanced list) (tail : Text) :
    names (grammar windows) (head ++ '(' :: (list ++ ')' :: tail)) = namesIn list := by
  rw [names, parameterList?_eq no_paren balanced]
  rfl

theorem names_of_cut {cut head list : Text} (opens : '(' ∈ cut) (starts : cut <+: head ++ '(' :: list)
    (no_paren : '(' ∉ head) (balanced : Balanced list) : names (grammar windows) cut = [] := by
  obtain ⟨behind, whole⟩ := starts
  rcases List.append_eq_append_iff.mp whole with ⟨more, rfl, _⟩ | ⟨front, rfl, list_eq⟩
  · exact absurd (List.mem_append_left more opens) no_paren
  · cases front with
    | nil => exact absurd (by simpa using opens) no_paren
    | cons c front =>
      obtain ⟨rfl, rfl⟩ := List.cons_eq_cons.mp list_eq
      have guarded : Guarded 0 front := balanced.2.front (List.prefix_append front behind)
      rw [names, parameterList?_eq_none no_paren guarded]

theorem parameters_of_reassembled {doc : Document} {line : Int} {kind : Kind} {code signature : Text}
    (carries : kind = .function ∨ kind = .method)
    (read : (grammar windows).declarationText doc line = .ok code) (no_bare : bareParameter? code = none)
    (reassembled : reassemble (grammar windows) doc line = .ok (some signature)) :
    parameters (grammar windows) doc line kind = .ok (names (grammar windows) signature) := by
  obtain ⟨whole, whole_read, _⟩ := Grammar.declarationText_eq_ok_iff.mp read
  obtain ⟨above, below⟩ := Document.line_within whole_read
  have refused : ¬ (kind ∉ (grammar windows).signatureKinds ∨ line < 0 ∨ doc.count ≤ line) := by
    have known : kind ∈ (grammar windows).signatureKinds := by simpa [grammar] using carries
    simp only [known, not_true_eq_false, false_or, not_or]
    omega
  have begins : (grammar windows).signatureStart doc line kind = .ok (some line) := by
    simp [grammar, carries]
  have none_bare : (grammar windows).bareParameters? code = none := by simp [grammar, no_bare]
  rw [parameters, if_neg refused]
  refine bind_eq_ok_iff.mpr ⟨some line, begins, bind_eq_ok_iff.mpr ⟨code, read, ?_⟩⟩
  rw [none_bare]
  exact bind_eq_ok_iff.mpr ⟨some signature, reassembled, rfl⟩

theorem code_opening? {doc : Document} {line : Int} {kind : Kind} {text : Text}
    (declares : (grammar windows).kindAt doc line = .ok (some kind)) (read : doc.line line = .ok text) :
    ∃ c, ((grammar windows).code text).opening? = some c ∧ c ≠ '@' := by
  rw [kindAt_eq, read] at declares
  have found : kindOf text = some kind := Except.ok.inj declares
  unfold kindOf at found
  dsimp only at found
  split at found
  · simp at found
  · obtain ⟨rule, rule_found, _⟩ := Option.map_eq_some_iff.mp found
    have matched := List.find?_some rule_found
    obtain ⟨c, opens, _, _, unmarked⟩ := rules_open (List.mem_of_find?_eq_some rule_found) matched
    exact ⟨c, opens, unmarked⟩

theorem code_join {row : Text} {rest : List Text} {c : Char} (free : ∀ other ∈ row :: rest, Comment.Free other)
    (opens : row.opening? = some c) (unmarked : c ≠ '@') :
    (grammar windows).code (Text.join [' '] (row :: rest)) = Text.join [' '] (row :: rest) := by
  have join_opens : (Text.join [' '] (row :: rest)).opening? = some c := by
    cases rest with
    | nil => exact opens
    | cons next others =>
      rw [Text.join_cons_cons, List.append_assoc]
      exact Text.opening?_append opens _
  rw [Grammar.code, Comment.stripLine_eq_self (Comment.free_join free)]
  exact AnnotationName.strip_of_opening? (by simpa [join_opens] using unmarked)

theorem free_codeBetween {doc : Document} {first last : Nat} (whole : doc.Unbroken) :
    ∀ row ∈ (grammar windows).codeBetween doc first last, Comment.Free row := by
  intro row member
  obtain ⟨text, text_member, rfl⟩ := List.mem_map.mp member
  have in_lines : text ∈ doc.lines := List.mem_of_mem_drop (List.mem_of_mem_take text_member)
  exact (Comment.free_stripLine (whole text in_lines)).of_suffix (AnnotationName.strip_suffix _ _)

/-- The lines from `first` through `last` hold a parameter list from its first parenthesis to the one that
closes it, which stands on the last of them in front of `tail`. -/
structure Spans (windows : Windows) (doc : Document) (first last : Nat) (head list tail : Text) : Prop where
  within : last < doc.count
  reach : (last : Int) - first ≤ windows.signature
  joined : Text.join [' '] ((grammar windows).codeBetween doc first last) = head ++ '(' :: (list ++ ')' :: tail)
  no_paren : '(' ∉ head
  balanced : Balanced list
  closing : ∃ before, ((grammar windows).codeBetween doc first last).getLast? = some (before ++ ')' :: tail)
  ends : Ends tail

namespace Spans
variable {doc : Document} {first last : Nat} {head list tail : Text}
  (spans : Spans windows doc first last head list tail)
include spans

theorem exists_rows :
    ∃ rows before, (grammar windows).codeBetween doc first last = rows ++ [before ++ ')' :: tail] := by
  obtain ⟨before, closing⟩ := spans.closing
  obtain ⟨rows, split_rows⟩ := List.getLast?_eq_some_iff.mp closing
  exact ⟨rows, before, split_rows⟩

theorem ordered : first ≤ last := by
  obtain ⟨rows, before, split_rows⟩ := spans.exists_rows
  have counted : ((grammar windows).codeBetween doc first last).length = last + 1 - first :=
    Grammar.length_codeBetween spans.within
  rw [split_rows, List.length_append, List.length_singleton] at counted
  omega

theorem exists_first : ∃ row rest, (grammar windows).codeBetween doc first last = row :: rest ∧
    (grammar windows).declarationText doc first = .ok row := by
  obtain ⟨rows, before, split_rows⟩ := spans.exists_rows
  obtain ⟨row, rest, rows_eq⟩ : ∃ row rest, (grammar windows).codeBetween doc first last = row :: rest :=
    List.exists_cons_of_ne_nil (by simp [split_rows])
  have found : ((grammar windows).codeBetween doc first last)[0]? = some row := by rw [rows_eq]; rfl
  exact ⟨row, rest, rows_eq, by simpa using Grammar.declarationText_of_codeBetween found⟩

theorem opened : HasOpened false ((grammar windows).codeBetween doc first last) := by
  have inside : '(' ∈ Text.join [' '] ((grammar windows).codeBetween doc first last) := by simp [spans.joined]
  exact .inr ((Text.mem_join_iff (by simp)).mp inside)

theorem reassembled (late : ¬ ClosesEarly ((grammar windows).codeBetween doc first last)) :
    reassemble (grammar windows) doc first = .ok (some (head ++ '(' :: (list ++ ')' :: tail))) := by
  obtain ⟨rows, before, split_rows⟩ := spans.exists_rows
  have opened := spans.opened
  rw [split_rows] at late opened
  have going_on (upper : List Text) (row : Text) (lower : List Text) (cut : rows = upper ++ row :: lower)
      (opened_above : HasOpened false (upper ++ [row])) :
      (grammar windows).signatureEnd.matchesIn row = false := by
    rw [← Bool.not_eq_true, signatureEnd_iff]
    intro closes
    refine late ⟨upper, row, lower ++ [before ++ ')' :: tail], by simp [cut], by simp, ?_, closes⟩
    exact opened_above.resolve_left (by simp)
  have closes_last : (grammar windows).signatureEnd.matchesIn (before ++ ')' :: tail) = true :=
    signatureEnd_iff.mpr ⟨before, tail, rfl, spans.ends⟩
  rw [← spans.joined]
  apply Grammar.reassemble_of_codeBetween spans.within spans.ordered spans.reach
  rw [split_rows]
  exact through?_whole going_on closes_last opened

theorem reassembled_early (early : ClosesEarly ((grammar windows).codeBetween doc first last)) :
    ∃ cut, reassemble (grammar windows) doc first = .ok (some cut) ∧ '(' ∈ cut ∧
      cut <+: head ++ '(' :: list := by
  obtain ⟨upper, row, lower, rows_eq, some_below, opened, closes⟩ := early
  have has_opened : HasOpened false (upper ++ [row]) := .inr opened
  have row_closes : (grammar windows).signatureEnd.matchesIn row = true := signatureEnd_iff.mpr closes
  obtain ⟨cut, found, ⟨between, starts⟩, cut_opened⟩ := through?_early has_opened row_closes lower
  rw [← rows_eq] at found
  have reassembled := Grammar.reassemble_of_codeBetween spans.within spans.ordered spans.reach found
  obtain ⟨other, member, opens⟩ := cut_opened.resolve_left (by simp)
  have cut_opens : '(' ∈ Text.join [' '] cut := (Text.mem_join_iff (by simp)).mpr ⟨other, member, opens⟩
  refine ⟨_, reassembled, cut_opens, ?_⟩
  -- The line that closes the list is below all that were collected.
  have split_rows : (grammar windows).codeBetween doc first last = cut ++ (between ++ lower) := by
    rw [rows_eq, ← List.append_assoc, starts, List.append_assoc, List.singleton_append]
  obtain ⟨before, closing⟩ := spans.closing
  rw [split_rows, List.getLast?_append_of_ne_nil _ (by simp [some_below])] at closing
  obtain ⟨middle, below_eq⟩ := List.getLast?_eq_some_iff.mp closing
  have joined := spans.joined
  rw [split_rows, below_eq, Text.join_append (List.ne_nil_of_mem member) (by simp)] at joined
  obtain ⟨front, joined_below⟩ := Text.suffix_join_concat [' '] middle (before ++ ')' :: tail)
  have same : (Text.join [' '] cut ++ ([' '] ++ front ++ before)) ++ ')' :: tail =
      (head ++ '(' :: list) ++ ')' :: tail := by
    simpa only [← joined_below, List.append_assoc, List.cons_append] using joined
  exact ⟨_, List.append_cancel_right same⟩

theorem code_joined {kind : Kind} (declares : (grammar windows).kindAt doc first = .ok (some kind))
    (whole : doc.Unbroken) :
    (grammar windows).code (head ++ '(' :: (list ++ ')' :: tail)) = head ++ '(' :: (list ++ ')' :: tail) := by
  obtain ⟨row, rest, rows_eq, read⟩ := spans.exists_first
  obtain ⟨text, text_read, rfl⟩ := Grammar.declarationText_eq_ok_iff.mp read
  obtain ⟨c, opens, unmarked⟩ := code_opening? declares text_read
  rw [← spans.joined, rows_eq]
  exact code_join (rows_eq ▸ free_codeBetween whole) opens unmarked

theorem reassembled_on_one_line {other : Document} {line : Nat}
    (read : (grammar windows).declarationText other line = .ok (head ++ '(' :: (list ++ ')' :: tail))) :
    reassemble (grammar windows) other line = .ok (some (head ++ '(' :: (list ++ ')' :: tail))) := by
  have closes : (grammar windows).signatureEnd.matchesIn (head ++ '(' :: (list ++ ')' :: tail)) = true :=
    signatureEnd_iff.mpr ⟨head ++ '(' :: list, tail, by simp, spans.ends⟩
  have wide : 0 ≤ windows.signature := by
    have ordered := spans.ordered
    have reach := spans.reach
    omega
  exact Grammar.reassemble_of_line read (by simp) closes wide

end Spans

/-- Where no line further up closes the signature, the parameters of a function or method are the names between
the parentheses of its list, as they are where all of it is written on one line. Where one does, there are none. -/
theorem parameters_across_lines (windows : Windows) (doc : Document) (first last : Nat) (kind : Kind)
    (head list tail : Text) (spans : Spans windows doc first last head list tail)
    (declares : (grammar windows).kindAt doc first = .ok (some kind))
    (carries : kind = .function ∨ kind = .method)
    (no_bare : ∀ code, (grammar windows).declarationText doc first = .ok code → bareParameter? code = none) :
    (¬ ClosesEarly ((grammar windows).codeBetween doc first last) →
      parameters (grammar windows) doc first kind = .ok (namesIn list)) ∧
    (ClosesEarly ((grammar windows).codeBetween doc first last) →
      parameters (grammar windows) doc first kind = .ok []) ∧
    (doc.Unbroken → bareParameter? (head ++ '(' :: (list ++ ')' :: tail)) = none →
      ∀ (other : Document) (line : Nat), other.line line = .ok (head ++ '(' :: (list ++ ')' :: tail)) →
        parameters (grammar windows) other line kind = .ok (namesIn list)) := by
  obtain ⟨row, rest, rows_eq, read⟩ := spans.exists_first
  refine ⟨fun late => ?_, fun early => ?_, fun whole none_bare other line other_read => ?_⟩
  · rw [parameters_of_reassembled carries read (no_bare row read) (spans.reassembled late),
      names_of_list spans.no_paren spans.balanced]
  · obtain ⟨cut, reassembled, opens, starts⟩ := spans.reassembled_early early
    rw [parameters_of_reassembled carries read (no_bare row read) reassembled,
      names_of_cut opens starts spans.no_paren spans.balanced]
  · have code_read : (grammar windows).declarationText other line =
        .ok (head ++ '(' :: (list ++ ')' :: tail)) :=
      Grammar.declarationText_eq_ok_iff.mpr ⟨_, other_read, spans.code_joined declares whole⟩
    rw [parameters_of_reassembled carries code_read none_bare (spans.reassembled_on_one_line code_read),
      names_of_list spans.no_paren spans.balanced]

-- A call in a default value, a comment behind it, and the arrow of the function on the last line.
theorem parameters_across_lines_of_arrow :
    let doc : Document := ⟨["const save = async (".toList, "    record = load(1, 2), // kept".toList,
      "    options".toList, ") => \x7b".toList]⟩
    let line : Text := "const save = async (     record = load(1, 2),      options ) => \x7b".toList
    parameters (grammar {}) doc (0 : Nat) .function = .ok ["record".toList, "options".toList] ∧
      parameters (grammar {}) ⟨[line]⟩ (0 : Nat) .function = .ok ["record".toList, "options".toList] := by
  intro doc line
  have spans : Spans {} doc 0 3 "const save = async ".toList "     record = load(1, 2),      options ".toList
      " => \x7b".toList :=
    { within := by decide
      reach := by decide
      joined := by decide +kernel
      no_paren := by decide
      balanced := by decide +kernel
      closing := ⟨[], by decide +kernel⟩
      ends := .inr ⟨"=>".toList, by decide, by decide⟩ }
  have no_bare : ∀ code, (grammar {}).declarationText doc (0 : Nat) = .ok code → bareParameter? code = none := by
    intro code read
    have first : (grammar {}).declarationText doc (0 : Nat) = .ok "const save = async (".toList := by
      decide +kernel
    obtain rfl := Except.ok.inj (first.symm.trans read)
    decide +kernel
  have names : namesIn "     record = load(1, 2),      options ".toList =
      ["record".toList, "options".toList] := by
    decide +kernel
  obtain ⟨over_lines, _, on_one_line⟩ := parameters_across_lines {} doc 0 3 .function _ _ _ spans
    (by decide +kernel) (.inl rfl) no_bare
  rw [names] at over_lines on_one_line
  have late : ¬ ClosesEarly ((grammar {}).codeBetween doc 0 3) := @not_closesEarly {} _ (by decide +kernel)
  exact ⟨over_lines late,
    on_one_line (by decide) (by decide +kernel) ⟨[line]⟩ 0 rfl⟩

-- A default value that ends its line closes the signature before the list is closed, and a name that only an
-- arrow on the next line follows is taken for a bare parameter where both stand on one line.
theorem parameters_differ_across_lines :
    let doc : Document := ⟨["function load(".toList, "    done = () => \x7b\x7d,".toList, "    fail".toList,
      ") \x7b".toList]⟩
    let line : Text := "function load(     done = () => \x7b\x7d,     fail ) \x7b".toList
    let arrow : Document := ⟨["const pick = function".toList, "=> (a) \x7b".toList]⟩
    let arrow_line : Text := "const pick = function => (a) \x7b".toList
    Spans {} doc 0 3 "function load".toList "     done = () => \x7b\x7d,     fail ".toList " \x7b".toList ∧
      (grammar {}).kindAt doc (0 : Nat) = .ok (some .function) ∧
      bareParameter? "function load(".toList = none ∧
      parameters (grammar {}) doc (0 : Nat) .function = .ok [] ∧
      parameters (grammar {}) ⟨[line]⟩ (0 : Nat) .function = .ok ["done".toList, "fail".toList] ∧
      Spans {} arrow 0 1 "const pick = function => ".toList "a".toList " \x7b".toList ∧
      (grammar {}).kindAt arrow (0 : Nat) = .ok (some .function) ∧
      bareParameter? "const pick = function".toList = none ∧
      parameters (grammar {}) arrow (0 : Nat) .function = .ok ["a".toList] ∧
      parameters (grammar {}) ⟨[arrow_line]⟩ (0 : Nat) .function = .ok ["function".toList] := by
  intro doc line arrow arrow_line
  have spans : Spans {} doc 0 3 "function load".toList "     done = () => \x7b\x7d,     fail ".toList
      " \x7b".toList :=
    { within := by decide
      reach := by decide
      joined := by decide +kernel
      no_paren := by decide
      balanced := by decide +kernel
      closing := ⟨[], by decide +kernel⟩
      ends := .inr ⟨['\x7b'], by decide, by decide⟩ }
  have arrow_spans : Spans {} arrow 0 1 "const pick = function => ".toList "a".toList " \x7b".toList :=
    { within := by decide
      reach := by decide
      joined := by decide +kernel
      no_paren := by decide
      balanced := by decide +kernel
      closing := ⟨"=> (a".toList, by decide +kernel⟩
      ends := .inr ⟨['\x7b'], by decide, by decide⟩ }
  refine ⟨spans, ?_, ?_, ?_, ?_, arrow_spans, ?_, ?_, ?_, ?_⟩
  all_goals decide +kernel

end JavaScript

end Docblock
