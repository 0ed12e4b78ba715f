import Docblock.Grammar.VariableType
import Docblock.Proofs.Captures
import Docblock.Proofs.FunctionLines

/-! Types of variables. The type that is written behind a name is read up to the first equals sign or semicolon, in
brackets or not. Where none is written, a quoted first value is known for a text as long as the value is read whole,
and it is read only up to the first semicolon, or to what looks like the start of a comment. -/

set_option autoImplicit false

namespace Docblock

open scoped Text

namespace Text
variable {text tail : Text} {c : Char}

theorem trim_append_blank (blank : ∀ c ∈ tail, isBlank c = true) : trim (text ++ tail) = trim text := by
  have dropped : tail.dropWhile isBlank = [] := List.dropWhile_eq_nil_iff.mpr blank
  have blank_reverse : ∀ c ∈ tail.reverse, isBlank c = true := by simpa using blank
  rw [trim, trim, trimLeft, trimLeft, List.dropWhile_append, dropped]
  split
  · next none => rw [List.isEmpty_iff.mp none]
  · rw [trimRight, trimRight, List.reverse_append, List.dropWhile_append_of_pos blank_reverse]

theorem trim_cons_blank (blank : isBlank c = true) : trim (c :: text) = trim text := by
  rw [trim, trim, trimLeft, trimLeft, List.dropWhile_cons_of_pos blank]

theorem mem_trim (within : c ∈ text) (filled : isBlank c = false) : c ∈ text.trim := by
  obtain ⟨before, after, whole, before_blank, after_blank⟩ := exists_trim text
  rw [whole] at within
  rcases List.mem_append.mp within with within | within
  · refine (List.mem_append.mp within).resolve_left fun within => ?_
    simp [before_blank c within] at filled
  · simp [after_blank c within] at filled

end Text

namespace JavaScript
open Pattern Comment

variable {name tail text type value body near : Text} {last : Cursor} {quote : Char}

theorem free_of_identifier (identifier : Identifier name) : Free name :=
  free_of_no_slash fun within => ne_of_identifierChar (identifier.2 _ within) (by decide) rfl

theorem mark_notMem {mark : Char} (identifier : Identifier name) (outside : identifierChar mark = false) :
    mark ∉ name :=
  fun within => ne_of_identifierChar (identifier.2 _ within) outside rfl

/-! ## Written types -/

theorem leads_let {rest : List Pattern} {passed : Option Char} :
    Leads (oneOf (["const".toList, "let".toList, "var".toList].map literal) :: rest)
      ⟨passed, 'l' :: 'e' :: 't' :: text⟩ ↔ Leads rest ⟨some 't', text⟩ := by
  rw [leads_cons]
  constructor
  · rintro ⟨middle, matched, leads⟩
    obtain ⟨word, member, behind, cut, rfl⟩ := matches_words.mp matched
    simp only [List.mem_cons, List.not_mem_nil, or_false] at member
    rcases member with rfl | rfl | rfl
    · simp at cut
    · obtain rfl : text = behind := by simpa using cut
      exact leads
    · simp at cut
  · intro leads
    exact ⟨_, matches_words.mpr ⟨"let".toList, by simp, text, rfl, rfl⟩, leads⟩

theorem typedHead_flat : (variableHead ++ char ':').flat = start :: blanks :: exportWord ::
    oneOf (["const".toList, "let".toList, "var".toList].map literal) :: one isBlank :: many isBlank ::
      one nameStart :: many nameChar :: blanks :: [char ':'] :=
  rfl

theorem typedHead_iff (identifier : Identifier name) :
    (variableHead ++ char ':').matchesIn ("let ".toList ++ name ++ ':' :: tail) = true ↔ IsName name := by
  have text_eq : "let ".toList ++ name ++ ':' :: tail = 'l' :: 'e' :: 't' :: ' ' :: (name ++ ':' :: tail) := by
    simp
  have no_blank : ∀ c ∈ blankChars, nameStart c = false := by decide
  have firsts_eq (c : Char) : (row [blanks, char ':']).firsts c = (isBlank c || c == ':') := by
    simp [row, firsts, nullable, blanks, char]
  have apart (c : Char) (within : identifierChar c = true) : (row [blanks, char ':']).firsts c = false := by
    have no_colon : c ≠ ':' := ne_of_identifierChar within (by decide)
    simp [firsts_eq, isBlank_of_identifierChar within, no_colon]
  have at_name : Leads (many isBlank :: one nameStart :: many nameChar :: blanks :: [char ':'])
      ⟨some ' ', name ++ ':' :: tail⟩ ↔ IsName name := by
    obtain ⟨c, more, rfl⟩ := List.exists_cons_of_ne_nil identifier.1
    have filled : isBlank c = false := isBlank_of_identifierChar (identifier.2 c List.mem_cons_self)
    have apart_blank (d : Char) (blank : isBlank d = true) :
        (row (one nameStart :: many nameChar :: blanks :: [char ':'])).firsts d = false := by
      simp [row, firsts, nullable, no_blank d (mem_blankChars blank)]
    rw [List.cons_append, leads_many_idle rfl apart_blank filled, ← List.cons_append]
    refine (leads_name identifier rfl apart (by simp; decide)).trans (and_iff_left ?_)
    exact leads_many_iff.mpr ⟨[], ':' :: tail, rfl, by simp, leads_char.mpr ⟨rfl, leads_nil⟩⟩
  rw [matchesIn_tied typedHead_flat (by rw [text_eq]; simp; decide), text_eq, Cursor.start, exportWord,
    leads_optional (by decide) (by decide), leads_let, leads_one, at_name]
  exact and_iff_right (by decide)

theorem typedHead_matches_iff (identifier : Identifier name) :
    (variableHead ++ char ':').Matches (.start ("let ".toList ++ name ++ ':' :: tail)) last ↔
      IsName name ∧ last = ⟨some ':', tail⟩ := by
  have unmarked : ':' ∉ "let ".toList ++ name := by
    simpa using mark_notMem identifier (by decide)
  have ends (other : Cursor)
      (matched : (variableHead ++ char ':').Matches (.start ("let ".toList ++ name ++ ':' :: tail)) other) :
      other = ⟨some ':', tail⟩ :=
    matched.ends_at (by decide) unmarked
  have found : (∃ last, (variableHead ++ char ':').Matches (.start ("let ".toList ++ name ++ ':' :: tail)) last) ↔
      IsName name :=
    (tied_of_flat typedHead_flat).matchesIn_iff.symm.trans (typedHead_iff identifier)
  constructor
  · intro matched
    exact ⟨found.mp ⟨last, matched⟩, ends last matched⟩
  · rintro ⟨named, rfl⟩
    obtain ⟨other, matched⟩ := found.mpr named
    exact ends other matched ▸ matched

theorem not_typedHead_of_equals (identifier : Identifier name) :
    (variableHead ++ char ':').matchesIn ("const ".toList ++ name ++ [' '] ++ '=' :: tail) = false := by
  rw [← Bool.not_eq_true, (tied_of_flat typedHead_flat).matchesIn_iff]
  rintro ⟨last, middle, before, c, rest, ahead, same, -⟩
  obtain rfl : c = ':' := beq_iff_eq.mp same
  obtain ⟨taken, cut, each⟩ := before.taken
  have untaken : variableHead.takes '=' = false := by decide
  have no_equals : '=' ∉ taken ++ [':'] := by
    simpa using fun within => by simp [each _ within] at untaken
  have whole : ("const ".toList ++ name ++ [' ']) ++ '=' :: tail = (taken ++ [':']) ++ rest := by
    rw [List.append_assoc taken, List.singleton_append, ← ahead]
    exact cut
  obtain ⟨more, front_eq, -⟩ := Text.exists_of_append_eq whole no_equals
  have unmarked : ':' ∉ "const ".toList ++ name ++ [' '] := by
    simpa using mark_notMem identifier (by decide)
  rw [front_eq] at unmarked
  simp at unmarked

/-- The characters that a written type is read over. -/
def inWrittenType (c : Char) : Bool := c != '=' && c != ';'

theorem writtenType?_of_name (identifier : Identifier name) (named : IsName name) :
    writtenType? ("let ".toList ++ name ++ ':' :: ' ' :: tail) = some (Text.trim (tail.takeWhile inWrittenType)) := by
  have only (last : Cursor) :
      (variableHead ++ char ':').Matches (.start ("let ".toList ++ name ++ ':' :: ' ' :: tail)) last ↔
        last = ⟨some ':', ' ' :: tail⟩ :=
    (typedHead_matches_iff identifier).trans (and_iff_right named)
  have refused (c : Char) (next : (tail.dropWhile inWrittenType).head? = some c) : inWrittenType c = false := by
    have stops := List.head?_dropWhile_not inWrittenType tail
    simpa [next] using stops
  have captured : capture (variableHead ++ char ':') (some1 inWrittenType) empty
      ("let ".toList ++ name ++ ':' :: ' ' :: tail) = some (' ' :: tail.takeWhile inWrittenType) := by
    rw [capture, (tied_of_flat typedHead_flat).find_eq, run_eq_of_only only, some1]
    show (many inWrittenType).run _ ⟨some ' ', tail⟩ = _
    conv_lhs => rw [← List.takeWhile_append_dropWhile (p := inWrittenType) (l := tail)]
    exact run_many_of_farthest (fun c => List.mem_takeWhile_imp) refused (congrArg some (Cursor.upTo_eq rfl))
  rw [writtenType?]
  exact (congrArg (Option.map Text.trim) captured).trans (congrArg some (Text.trim_cons_blank (by decide)))

theorem writtenType?_eq_none (unmatched : (variableHead ++ char ':').matchesIn text = false) :
    writtenType? text = none := by
  rw [writtenType?, capture, find_eq_none unmatched, Option.map_none]

def typedLine (name type value : Text) : Text :=
  "let ".toList ++ name ++ ": ".toList ++ type ++ " = ".toList ++ value ++ [';']

theorem typedLine_eq : typedLine name type value =
    "let ".toList ++ name ++ ':' :: ' ' :: (type ++ ' ' :: '=' :: ' ' :: (value ++ [';'])) := by
  unfold typedLine
  simp

theorem stripLine_typedLine (identifier : Identifier name) (free : Free type) (free_value : Free value) :
    stripLine (typedLine name type value) = typedLine name type value := by
  have type_free : Free (": ".toList ++ type) := (free_of_no_slash (by decide)).append free (.inl (by decide))
  have value_free : Free (" = ".toList ++ value) :=
    (free_of_no_slash (by decide)).append free_value (.inl (by decide))
  have start_free : Free ("let ".toList ++ name) :=
    (free_of_no_slash (by decide)).append (free_of_identifier identifier) (.inl (by decide))
  have line_free : Free ("let ".toList ++ name ++ (": ".toList ++ type) ++ (" = ".toList ++ value) ++ [';']) :=
    ((start_free.append type_free (.inr (by simp))).append value_free (.inr (by simp))).append
      (free_of_no_slash (by decide)) (.inr (by decide))
  rw [typedLine_eq]
  exact stripLine_eq_self (by simpa using line_free)

theorem trim_takeWhile_equals (type tail : Text) :
    Text.trim ((type ++ ' ' :: '=' :: tail).takeWhile inWrittenType) = Text.trim (type.takeWhile inWrittenType) := by
  have blank_taken : (' ' :: '=' :: tail).takeWhile inWrittenType = [' '] := rfl
  rw [List.takeWhile_append, blank_taken]
  split
  · next whole =>
    rw [(List.takeWhile_prefix inWrittenType).eq_of_length whole]
    exact Text.trim_append_blank (by decide)
  · rfl

theorem trim_takeWhile_iff (type : Text) :
    Text.trim (type.takeWhile inWrittenType) = type.trim ↔ '=' ∉ type ∧ ';' ∉ type := by
  constructor
  · intro same
    have outside (c : Char) (filled : isBlank c = false) (refused : inWrittenType c = false) : c ∉ type := by
      intro within
      have kept := Text.trim_subset _ (same ▸ Text.mem_trim within filled)
      simp [List.mem_takeWhile_imp kept] at refused
    exact ⟨outside '=' (by decide) (by decide), outside ';' (by decide) (by decide)⟩
  · rintro ⟨no_equals, no_semicolon⟩
    have each : ∀ c ∈ type, inWrittenType c = true := by
      intro c within
      have other_equals : c ≠ '=' := fun same => no_equals (same ▸ within)
      have other_semicolon : c ≠ ';' := fun same => no_semicolon (same ▸ within)
      simp [inWrittenType, other_equals, other_semicolon]
    rw [List.takeWhile_eq_self_iff.mpr each]

/-- The type that is written behind a name goes up to its first equals sign or semicolon, so that it is read whole
exactly if it holds neither. Behind an identifier that the rules do not read as a name no written type is seen. -/
theorem variableType?_typedLine (name type value : Text) (identifier : Identifier name) (free : Free type)
    (free_value : Free value) :
    (IsName name →
      variableType? (typedLine name type value) = some (Text.trim (type.takeWhile inWrittenType)) ∧
      (variableType? (typedLine name type value) = some type.trim ↔ '=' ∉ type ∧ ';' ∉ type)) ∧
    (¬ IsName name →
      variableType? (typedLine name type value) = (initialValue? (typedLine name type value)).bind typeOfValue?) := by
  have code_eq := stripLine_typedLine identifier free free_value
  constructor
  · intro named
    have written : writtenType? (typedLine name type value) = some (Text.trim (type.takeWhile inWrittenType)) := by
      rw [typedLine_eq, writtenType?_of_name identifier named, trim_takeWhile_equals]
    have found : variableType? (typedLine name type value) = some (Text.trim (type.takeWhile inWrittenType)) := by
      simp only [variableType?, code_eq, written]
    exact ⟨found, by rw [found, Option.some_inj, trim_takeWhile_iff]⟩
  · intro unnamed
    have unmatched : (variableHead ++ char ':').matchesIn (typedLine name type value) = false := by
      rw [typedLine_eq, ← Bool.not_eq_true, typedHead_iff identifier]
      exact unnamed
    simp only [variableType?, code_eq, writtenType?_eq_none unmatched]

-- A type of one word, with a generic inside, and a name that opens with an accent.
theorem variableType?_of_map :
    variableType? (typedLine "seen".toList "Map<string, number[]>".toList "new Map()".toList) =
        some "Map<string, number[]>".toList ∧
      variableType? (typedLine "été".toList "string".toList "1".toList) =
        (initialValue? (typedLine "été".toList "string".toList "1".toList)).bind typeOfValue? := by
  constructor
  · exact ((variableType?_typedLine "seen".toList "Map<string, number[]>".toList "new Map()".toList
      (by decide) (by decide) (by decide)).1 (by decide)).1.trans (by decide)
  · exact (variableType?_typedLine "été".toList "string".toList "1".toList
      (by decide) (by decide) (by decide)).2 (by decide)

def typeBrackets : List (Char × Char) := [('(', ')'), ('[', ']'), ('\x7b', '\x7d'), ('<', '>')]

/-- The brackets of a type close in the order in which those on the list are expected and those in the type open; the
arrow of a function is no bracket. -/
def closesBrackets : List Char → Text → Bool
  | expected, '=' :: '>' :: rest => closesBrackets expected rest
  | expected, c :: rest =>
    match typeBrackets.lookup c with
    | some closer => closesBrackets (closer :: expected) rest
    | none =>
      if typeBrackets.any (·.2 == c) then expected.head? == some c && closesBrackets expected.tail rest
      else closesBrackets expected rest
  | expected, [] => expected.isEmpty

/-- The type of a function ends in front of its arrow, and that of an object at the first semicolon between its braces,
though the brackets of both are closed. -/
theorem written_type_cut :
    let types := ["(item: Item) => void".toList, "\x7b a: string; b: number \x7d".toList]
    (∀ type ∈ types, closesBrackets [] type = true ∧ Comment.Free type) ∧ IsName "done".toList ∧
      types.map (fun type => variableType? (typedLine "done".toList type "skip".toList)) =
        [some "(item: Item)".toList, some "\x7b a: string".toList] := by
  decide

/-! ## Quoted values -/

def valueEnd : Pattern := char ';' ||| stop

theorem not_valueEnd {c : Char} {passed : Option Char} (other_mark : c ≠ ';') (other_feed : c ≠ '\n') :
    ¬ valueEnd.Matches ⟨passed, c :: text⟩ last := by
  rintro (⟨_, _, ahead, accepted, _⟩ | ⟨at_stop, _⟩)
  · obtain ⟨rfl, -⟩ := List.cons_eq_cons.mp ahead
    exact other_mark (by simpa using accepted)
  · simp [Cursor.atStop, other_feed] at at_stop

def valueFrom? (first : Cursor) : Option Text :=
  (one (· != '\n') ++ few (· != '\n')).run (fun last => valueEnd.run (fun _ => some (first.upTo last)) last) first

theorem valueFrom?_eq {far : Text} {c : Char} {passed : Option Char} (no_semicolon : ';' ∉ near)
    (no_feed : '\n' ∉ c :: near) (ends : ∀ d, far.head? = some d → d = ';') :
    valueFrom? ⟨passed, c :: (near ++ far)⟩ = some (c :: near) := by
  obtain ⟨other_feed, no_feed_behind⟩ := not_or.mp (mt List.mem_cons.mpr no_feed)
  have inside (d : Char) (within : d ∈ near) : d ≠ ';' ∧ d ≠ '\n' :=
    ⟨fun same => no_semicolon (same ▸ within), fun same => no_feed_behind (same ▸ within)⟩
  have each : ∀ d ∈ near, (d != '\n') = true := fun d within => bne_iff_ne.mpr (inside d within).2
  have ended (passed : Option Char) (found : Text) : valueEnd.run (fun _ => some found) ⟨passed, far⟩ = some found := by
    cases far with
    | nil => rfl
    | cons d more =>
      obtain rfl := ends d rfl
      rfl
  show (if (c != '\n') = true then _ else _) = _
  rw [if_pos (bne_iff_ne.mpr (Ne.symm other_feed))]
  refine run_few_of_nearest each ?_ ((ended _ _).trans (congrArg some (Cursor.upTo_eq rfl)))
  intro before d behind cut
  obtain ⟨other_mark, other_feed⟩ := inside d (by simp [cut])
  exact run_eq_none fun last => not_valueEnd other_mark other_feed

theorem initialValue?_eq {front far : Text} {c : Char} (no_equals : '=' ∉ front) (filled : isBlank c = false)
    (no_semicolon : ';' ∉ near) (no_feed : '\n' ∉ c :: near) (ends : ∀ d, far.head? = some d → d = ';') :
    initialValue? (front ++ '=' :: ' ' :: c :: (near ++ far)) = some (Text.trim (c :: near)) := by
  have refused : ∀ d ∈ front, (char '=' ++ blanks).firsts d = false := by
    intro d within
    simpa [firsts_append, firsts, nullable, char] using fun same : d = '=' => no_equals (same ▸ within)
  have filled_behind : ∀ d, (c :: (near ++ far)).head? = some d → isBlank d = false := by
    rintro d ⟨⟩
    exact filled
  have blanks_passed : blanks.run valueFrom? ⟨some '=', [' '] ++ c :: (near ++ far)⟩ = some (c :: near) :=
    run_many_of_farthest (by decide) filled_behind (valueFrom?_eq no_semicolon no_feed ends)
  have found : (char '=' ++ blanks).find valueFrom? (front ++ '=' :: ' ' :: c :: (near ++ far)) = some (c :: near) := by
    rw [find_behind rfl refused]
    exact findSome?_onward_here blanks_passed
  exact congrArg (Option.map Text.trim) found

def quotes : List Char := ['\'', '"', '\x60']

theorem typeOfValue?_of_quote (member : quote ∈ quotes) (rest : Text) :
    typeOfValue? (quote :: rest) = if rest.getLast? = some quote then some "string".toList else none := by
  have unlike : ∀ mark ∈ quotes, isBlank mark = false ∧ mark ≠ '[' ∧ mark ≠ '\x7b' := by decide
  have refused : ∀ mark ∈ quotes, numeral.barred mark = true ∧ truthValue.barred mark = true ∧
      functionValue.barred mark = true ∧ arrowValue.barred mark = true ∧
      (start ++ word "new" ++ space).barred mark = true := by
    decide
  obtain ⟨filled, no_array, no_object⟩ := unlike quote member
  obtain ⟨no_numeral, no_truth, no_function, no_arrow, no_new⟩ := refused quote member
  have opens : Text.opening? (quote :: rest) = some quote := by simp [Text.opening?_cons, filled]
  have closed : (quotes.any fun mark => between mark mark (quote :: rest)) = decide (rest.getLast? = some quote) := by
    rw [Bool.eq_iff_iff, List.any_eq_true, decide_eq_true_iff]
    constructor
    · rintro ⟨mark, -, closes⟩
      simp only [between, Bool.and_eq_true, beq_iff_eq] at closes
      rw [closes.1, closes.2]
    · intro closes
      exact ⟨quote, member, by simp [between, closes]⟩
  have unconstructed : constructed? (quote :: rest) = none :=
    find_eq_none (not_matchesIn_of_barred rfl no_new opens)
  have others : between '[' ']' (quote :: rest) = false ∧ between '\x7b' '\x7d' (quote :: rest) = false := by
    simp [between, no_array, no_object]
  rw [typeOfValue?, ← quotes, closed, unconstructed, others.1, others.2,
    not_matchesIn_of_barred rfl no_numeral opens, not_matchesIn_of_barred rfl no_truth opens,
    not_matchesIn_of_barred rfl no_function opens, not_matchesIn_of_barred rfl no_arrow opens]
  simp only [decide_eq_true_eq, Bool.or_self, Bool.false_eq_true, if_false]

def quotedLine (name : Text) (quote : Char) (body : Text) : Text :=
  "const ".toList ++ name ++ " = ".toList ++ quote :: (body ++ [quote, ';'])

theorem quotedLine_eq : quotedLine name quote body =
    "const ".toList ++ name ++ [' '] ++ '=' :: ' ' :: quote :: (body ++ [quote, ';']) := by
  unfold quotedLine
  simp

theorem stripLine_quotedLine (identifier : Identifier name) (member : quote ∈ quotes) :
    stripLine (quotedLine name quote body) =
      "const ".toList ++ name ++ [' '] ++ '=' :: ' ' :: quote :: stripLine (body ++ [quote, ';']) := by
  have no_slash : ∀ mark ∈ quotes, mark ≠ '/' := by decide
  have front_free : Free ("const ".toList ++ name) :=
    (free_of_no_slash (by decide)).append (free_of_identifier identifier) (.inl (by decide))
  have mark_free : Free [' ', '=', ' ', quote] :=
    free_of_no_slash (by simpa using (no_slash quote member).symm)
  have ends : ("const ".toList ++ name ++ [' ', '=', ' ', quote]).getLast? ≠ some '/' := by
    rw [List.getLast?_append_of_ne_nil _ (by simp)]
    simpa using no_slash quote member
  have cut : stripLine (("const ".toList ++ name ++ [' ', '=', ' ', quote]) ++ (body ++ [quote, ';'])) = _ :=
    stripLine_append (front_free.append mark_free (.inr (by simp))) (.inl ends)
  rw [quotedLine_eq]
  simpa using cut

/-- What is read of a quoted text behind the quote that opens it. -/
def readQuoted (body : Text) (quote : Char) : Text := (stripLine (body ++ [quote, ';'])).takeWhile (· != ';')

theorem initialValue?_quotedLine (identifier : Identifier name) (member : quote ∈ quotes) (whole : body.Unbroken) :
    initialValue? (stripLine (quotedLine name quote body)) = some (quote :: (readQuoted body quote).trimRight) := by
  have marks : ∀ mark ∈ quotes, isBlank mark = false ∧ mark ≠ '\n' := by decide
  obtain ⟨filled, no_feed⟩ := marks quote member
  have no_feed_behind : '\n' ∉ body ++ [quote, ';'] := by
    simpa [no_feed.symm] using fun within => (whole _ within).2 rfl
  have no_equals : '=' ∉ "const ".toList ++ name ++ [' '] := by
    simpa using mark_notMem identifier (by decide)
  set code := stripLine (body ++ [quote, ';'])
  have no_semicolon : ';' ∉ readQuoted body quote := fun within => by simpa using List.mem_takeWhile_imp within
  have no_feed_read : '\n' ∉ quote :: readQuoted body quote := by
    have read : readQuoted body quote ⊆ body ++ [quote, ';'] :=
      List.Subset.trans (List.takeWhile_subset _) (stripLine_starts no_feed_behind).subset
    simpa [no_feed.symm] using fun within => no_feed_behind (read within)
  have ends (c : Char) (next : (code.dropWhile (· != ';')).head? = some c) : c = ';' := by
    have stops := List.head?_dropWhile_not (· != ';') code
    simpa [next] using stops
  have found := initialValue?_eq no_equals filled no_semicolon no_feed_read ends
  rw [readQuoted, List.takeWhile_append_dropWhile] at found
  rw [stripLine_quotedLine identifier member, found, Text.trim, Text.trimLeft,
    List.dropWhile_cons_of_neg (by simp [filled]), Text.trimRight_cons _ filled]
  rfl

theorem getLast?_readQuoted (member : quote ∈ quotes) (unquoted : quote ∉ body) (whole : body.Unbroken) :
    (readQuoted body quote).trimRight.getLast? = some quote ↔ Free body ∧ ';' ∉ body := by
  have marks : ∀ mark ∈ quotes, isBlank mark = false ∧ mark ≠ '/' ∧ mark ≠ ';' ∧ mark ≠ '\n' ∧ mark ≠ '\r' := by
    decide
  obtain ⟨filled, no_slash, no_semicolon, no_feed, no_return⟩ := marks quote member
  have line_whole : (body ++ [quote, ';']).Unbroken := by
    refine List.forall_mem_append.mpr ⟨whole, ?_⟩
    simp [no_feed, no_return]
  constructor
  · intro closes
    have read : quote ∈ readQuoted body quote :=
      List.mem_reverse.mp ((List.dropWhile_suffix _).subset (List.mem_reverse.mp (List.mem_of_getLast? closes)))
    have read_prefix : readQuoted body quote <+: stripLine (body ++ [quote, ';']) := List.takeWhile_prefix _
    have starts := read_prefix.trans (stripLine_starts fun within => (line_whole _ within).2 rfl)
    -- What is read goes on behind the text, as the quote does not stand in the text.
    have text_read : body <+: readQuoted body quote := by
      refine (List.prefix_or_prefix_of_prefix starts (List.prefix_append _ _)).resolve_left fun within => ?_
      exact unquoted (within.subset read)
    obtain ⟨behind, code_eq⟩ := text_read.trans read_prefix
    refine ⟨(code_eq ▸ free_stripLine line_whole).left_of_append, fun within => ?_⟩
    simpa using List.mem_takeWhile_imp (text_read.subset within)
  · rintro ⟨free, no_semicolon_in⟩
    have line_free : Free (body ++ [quote, ';']) :=
      free.append (free_of_no_slash (by simpa using no_slash.symm)) (.inr (by simpa using no_slash))
    have each : ∀ c ∈ body ++ [quote], (c != ';') = true := by
      refine List.forall_mem_append.mpr ⟨fun c within => ?_, by simpa using no_semicolon⟩
      simpa using fun same : c = ';' => no_semicolon_in (same ▸ within)
    have read : readQuoted body quote = body ++ [quote] := by
      have line_eq : body ++ [quote, ';'] = (body ++ [quote]) ++ [';'] := by simp
      rw [readQuoted, stripLine_eq_self line_free, line_eq, List.takeWhile_append_of_pos each]
      simp
    have last : (body ++ [quote]).trimRight = body ++ [quote] := Text.trimRight_eq_self (by simpa using filled)
    rw [read, last, List.getLast?_concat]

/-- A quoted first value is known for a text exactly if the text between the quotes has no semicolon and nothing that
looks like the start of a comment. Otherwise nothing is known of the variable. -/
theorem variableType?_of_quoted (name body : Text) (quote : Char) (identifier : Identifier name)
    (member : quote ∈ quotes) (unquoted : quote ∉ body) (whole : body.Unbroken) :
    variableType? (quotedLine name quote body) =
      if Free body ∧ ';' ∉ body then some "string".toList else none := by
  have untyped : writtenType? (stripLine (quotedLine name quote body)) = none :=
    writtenType?_eq_none (stripLine_quotedLine identifier member ▸ not_typedHead_of_equals identifier)
  rw [variableType?, untyped, initialValue?_quotedLine identifier member whole]
  simp only [Option.bind_some, typeOfValue?_of_quote member, getLast?_readQuoted member unquoted whole]

-- Equals signs and brackets in the text do no harm.
theorem variableType?_of_call :
    variableType? (quotedLine "label".toList '"' "f(a = 'b') => [c]".toList) = some "string".toList :=
  (variableType?_of_quoted "label".toList "f(a = 'b') => [c]".toList '"' (by decide) (by decide) (by decide)
    (by decide)).trans (by decide)

/-- Two slashes in a quoted address cut the value short, and so does a semicolon in a quoted list. -/
theorem quoted_value_cut :
    let bodies : List Text := ["https://example.org".toList, "a;b".toList]
    (∀ body ∈ bodies, '"' ∉ body ∧ '\\' ∉ body ∧ Text.Unbroken body) ∧
      bodies.map (fun body => variableType? (quotedLine "url".toList '"' body)) = [none, none] ∧
      variableType? (quotedLine "url".toList '"' "example.org".toList) = some "string".toList := by
  decide

end JavaScript

end Docblock
