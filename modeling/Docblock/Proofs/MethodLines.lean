import Docblock.Proofs.Leads
import Docblock.Proofs.ScriptParameters

/-! Lines on which a script writes a method: a name, a list in parentheses and an opening brace. The list counts as
ended by the first parenthesis that closes, and the name must not open with a word of control. -/

set_option autoImplicit false

namespace Docblock

open scoped Text

theorem Text.exists_of_append_eq {front tail word behind : Text} {c : Char}
    (whole : front ++ c :: tail = word ++ behind) (absent : c ∉ word) :
    ∃ more, front = word ++ more ∧ behind = more ++ c :: tail := by
  rcases List.append_eq_append_iff.mp whole with ⟨more, rfl, tail_eq⟩ | ⟨more, rfl, rfl⟩
  · cases more with
    | nil => exact ⟨[], by simp, tail_eq.symm⟩
    | cons d more =>
      obtain ⟨rfl, -⟩ := List.cons_eq_cons.mp tail_eq
      exact absurd (List.mem_append_right front List.mem_cons_self) absent
  · exact ⟨more, rfl, rfl⟩

namespace Comment

instance : DecidablePred Free := fun _ => inferInstanceAs (Decidable (List.IsChain _ _))

theorem free_of_no_slash {text : Text} (plain : '/' ∉ text) : Free text := by
  apply List.Pairwise.isChain
  apply List.pairwise_of_forall_mem_list
  rintro _ within _ _ ⟨rfl, -⟩
  exact plain within

theorem Free.append {front tail : Text} (free : Free front) (free_tail : Free tail)
    (apart : front.getLast? ≠ some '/' ∨ tail.head? ≠ some '/') : Free (front ++ tail) := by
  refine List.isChain_append.mpr ⟨free, free_tail, ?_⟩
  rintro _ last _ opens ⟨rfl, rfl⟩
  exact apart.elim (· last) (· opens)

theorem stripLine_append {front tail : Text} (free : Free front)
    (apart : front.getLast? ≠ some '/' ∨ tail.head? ≠ some '/') :
    stripLine (front ++ tail) = front ++ stripLine tail := by
  induction front with
  | nil => rfl
  | cons c rest ih =>
    obtain ⟨parted, below⟩ := List.isChain_cons.mp free
    have uncut :
        ¬ (List.isPrefixOf "//".toList (c :: (rest ++ tail)) && Text.onLastLine (c :: (rest ++ tail))) = true := by
      intro cut
      obtain ⟨more, whole⟩ := isPrefixOf_slashes_iff.mp (Bool.and_eq_true_iff.mp cut).1
      obtain ⟨rfl, behind⟩ := List.cons_eq_cons.mp whole
      cases rest with
      | nil => exact apart.elim (· rfl) (· (congrArg List.head? behind))
      | cons d rest => exact parted d rfl ⟨rfl, (List.cons_eq_cons.mp behind).1⟩
    have apart_below : rest.getLast? ≠ some '/' ∨ tail.head? ≠ some '/' := by
      cases rest with
      | nil => exact .inl (by simp)
      | cons d rest => exact apart.imp_left fun other => by rwa [List.getLast?_cons_cons] at other
    rw [List.cons_append, stripLine, Text.cutAt, if_neg uncut]
    exact congrArg (c :: ·) (ih below apart_below)

theorem stripLine_starts {text : Text} (no_feed : '\n' ∉ text) : stripLine text <+: text := by
  unfold stripLine
  induction text with
  | nil => exact List.prefix_refl _
  | cons c rest ih =>
    obtain ⟨_, no_feed_behind⟩ := not_or.mp (mt List.mem_cons.mpr no_feed)
    rw [Text.cutAt]
    split
    · rw [if_neg fun last => no_feed_behind (List.mem_of_getLast? last)]
      exact List.nil_prefix
    · exact List.cons_prefix_cons.mpr ⟨rfl, ih no_feed_behind⟩

end Comment

namespace JavaScript
open Pattern

/-! ## Names -/

/-- A name as the rules read names. -/
def IsName : Text → Prop
  | [] => False
  | c :: rest => nameStart c = true ∧ ∀ d ∈ rest, nameChar d = true

instance : DecidablePred IsName
  | [] => .isFalse id
  | _ :: _ => inferInstanceAs (Decidable (_ ∧ _))

theorem IsName.ne_nil {text : Text} (named : IsName text) : text ≠ [] := by
  rintro rfl
  exact named

theorem IsName.nameChar {text : Text} (named : IsName text) : ∀ c ∈ text, nameChar c = true := by
  obtain ⟨c, rest, rfl⟩ := List.exists_cons_of_ne_nil named.ne_nil
  exact List.forall_mem_cons.mpr ⟨nameChar_of_nameStart named.1, named.2⟩

/-- What identifiers are made of: the characters of names, and all beyond ASCII but the blanks. -/
def identifierChar (c : Char) : Bool := nameChar c || (128 ≤ c.toNat && !isBlank c)

def Identifier (text : Text) : Prop := text ≠ [] ∧ ∀ c ∈ text, identifierChar c = true

instance : DecidablePred Identifier := fun _ => inferInstanceAs (Decidable (_ ∧ _))

theorem isBlank_of_nameChar {c : Char} (named : nameChar c = true) : isBlank c = false := by
  have apart : ∀ d ∈ blankChars, nameChar d = false := by decide +kernel
  rw [← Bool.not_eq_true]
  intro blank
  simp [apart c (mem_blankChars blank)] at named

theorem isBlank_of_identifierChar {c : Char} (within : identifierChar c = true) : isBlank c = false := by
  simp only [identifierChar, Bool.or_eq_true, Bool.and_eq_true, Bool.not_eq_true'] at within
  exact within.elim isBlank_of_nameChar And.right

theorem identifierChar_of_nameChar {c : Char} (named : nameChar c = true) : identifierChar c = true := by
  simp [identifierChar, named]

theorem not_nameChar {c : Char} (refused : identifierChar c = false) : nameChar c = false := by
  rw [identifierChar, Bool.or_eq_false_iff] at refused
  exact refused.1

theorem ne_of_identifierChar {c d : Char} (within : identifierChar c = true) (outside : identifierChar d = false) :
    c ≠ d := by
  rintro rfl
  simp [within] at outside

variable {rest : List Pattern} {passed : Option Char} {text name tail : Text}

theorem leads_name (identifier : Identifier text) (takes : (row rest).nullable = false)
    (apart : ∀ c, identifierChar c = true → (row rest).firsts c = false)
    (stops : ∀ c, tail.head? = some c → identifierChar c = false) :
    Leads (one nameStart :: many nameChar :: rest) ⟨passed, text ++ tail⟩ ↔
      IsName text ∧ Leads rest (Cursor.past passed text tail) := by
  obtain ⟨some_char, each⟩ := identifier
  obtain ⟨c, more, rfl⟩ := List.exists_cons_of_ne_nil some_char
  obtain ⟨-, each⟩ := List.forall_mem_cons.mp each
  rw [List.cons_append, leads_one, Cursor.past_cons, IsName, and_assoc]
  refine and_congr_right fun _ => ?_
  by_cases named : ∀ d ∈ more, nameChar d = true
  · have stops_names (d : Char) (opens : tail.head? = some d) : nameChar d = false :=
      not_nameChar (stops d opens)
    have apart_names (d : Char) (within : nameChar d = true) := apart d (identifierChar_of_nameChar within)
    rw [leads_many takes apart_names named stops_names, and_iff_right named]
  · -- The name ends in front of a character that nothing behind it can start with.
    refine iff_of_false (fun leads => ?_) fun both => named both.1
    obtain ⟨near, far, cut, near_named, leads⟩ := leads_many_iff.mp leads
    rcases List.append_eq_append_iff.mp cut with ⟨_, rfl, _⟩ | ⟨left, rfl, rfl⟩
    · exact named fun d within => near_named d (List.mem_append_left _ within)
    · cases left with
      | nil => exact named (by simpa using near_named)
      | cons d left => exact not_leads takes (apart d (each d (by simp))) leads

theorem filled_of_identifier (identifier : Identifier text) (tail : Text) :
    ∀ c, (text ++ tail).head? = some c → isBlank c = false := by
  obtain ⟨some_char, each⟩ := identifier
  obtain ⟨d, more, rfl⟩ := List.exists_cons_of_ne_nil some_char
  rintro c ⟨⟩
  exact isBlank_of_identifierChar (each d List.mem_cons_self)

/-! ## Words of control -/

def controlWords : List Text :=
  ["if", "for", "while", "switch", "catch", "with", "function", "return"].map String.toList

def methodModifierWords : List Text :=
  ["public", "private", "protected", "static", "async", "get", "set", "override", "readonly"].map String.toList

/-- A name opens with a word of control that ends where the name does, or in front of a dollar sign. -/
def OpensControl (name : Text) : Prop :=
  ∃ word ∈ controlWords, word <+: name ∧ (name.drop word.length).head?.any isWord = false

instance : DecidablePred OpensControl := fun _ => inferInstanceAs (Decidable (∃ word ∈ controlWords, _ ∧ _))

theorem control_matches_iff {list : Text} :
    (∃ place, control.Matches (Cursor.start (name ++ '(' :: list)) place) ↔ OpensControl name := by
  have last_word : ∀ word ∈ controlWords, '(' ∉ word ∧ (word.getLast?.or none).any isWord = true := by decide
  have control_eq : control = seq (oneOf (controlWords.map literal)) edge := rfl
  -- The parenthesis ends a word as the end of the name does.
  have head_eq (rest : Text) : (rest ++ '(' :: list).head?.any isWord = rest.head?.any isWord := by
    cases rest with
    | nil => exact (by decide : isWord '(' = false)
    | cons c rest => rfl
  rw [control_eq]
  constructor
  · rintro ⟨place, middle, matched, at_edge, rfl⟩
    obtain ⟨word, member, behind, whole, rfl⟩ := matches_words.mp matched
    obtain ⟨rest, rfl, rfl⟩ := Text.exists_of_append_eq whole (last_word word member).1
    refine ⟨word, member, List.prefix_append word rest, ?_⟩
    rw [Cursor.atEdge, Cursor.past, (last_word word member).2, head_eq] at at_edge
    simpa using at_edge
  · rintro ⟨word, member, ⟨rest, rfl⟩, ends⟩
    rw [List.drop_left] at ends
    refine ⟨_, _, matches_words.mpr ⟨word, member, rest ++ '(' :: list, by simp, rfl⟩, ?_, rfl⟩
    rw [Cursor.atEdge, Cursor.past, (last_word word member).2, head_eq, ends]
    rfl

theorem no_modifier {list : Text} (each : ∀ c ∈ name, identifierChar c = true) :
    ¬ ∃ place, (oneOf (methodModifierWords.map literal) ++ space).Matches
      (Cursor.start (name ++ '(' :: list)) place := by
  have no_paren : ∀ word ∈ methodModifierWords, '(' ∉ word := by decide
  rintro ⟨place, middle, matched, _, ⟨c, behind, ahead, blank, -⟩, -⟩
  obtain ⟨word, member, tail, whole, rfl⟩ := matches_words.mp matched
  obtain ⟨rest, rfl, rfl⟩ := Text.exists_of_append_eq whole (no_paren word member)
  cases rest with
  | nil =>
    obtain rfl : '(' = c := (List.cons_eq_cons.mp ahead).1
    exact absurd blank (by decide)
  | cons d rest =>
    obtain rfl : d = c := (List.cons_eq_cons.mp ahead).1
    have filled := isBlank_of_identifierChar (each d (by simp))
    simp [filled] at blank

/-! ## Lists -/

/-- The first parenthesis that closes in a list has a colon behind it, as in front of the type that a method returns,
and no equals sign; or there is none. -/
def EndsOnce (list : Text) : Prop :=
  ')' ∉ list ∨ ∃ inner gap type : Text, list = inner ++ ')' :: (gap ++ ':' :: type) ∧ ')' ∉ inner ∧
    gap.blank = true ∧ '=' ∉ type

def inReturnType (c : Char) : Bool := c != '\x7b' && c != '='

def returnType : Pattern := optional (char ':' ++ some1 inReturnType)

theorem leads_returnType {passed : Option Char} {c : Char} {rest : Text} (no_brace : c ≠ '\x7b') :
    Leads [returnType, char '\x7b'] ⟨passed, c :: rest⟩ ↔
      c = ':' ∧ ∃ type tail : Text, type ≠ [] ∧ rest = type ++ '\x7b' :: tail ∧
        ∀ d ∈ type, inReturnType d = true := by
  refine leads_alt.trans ?_
  have without : ¬ Leads [empty, char '\x7b'] ⟨passed, c :: rest⟩ := by
    rw [leads_empty, leads_char]
    exact fun leads => no_brace leads.1
  rw [or_iff_left without]
  refine leads_seq.trans (leads_char.trans (and_congr_right fun _ => leads_some1_iff.trans ?_))
  constructor
  · rintro ⟨type, tail, some_char, rfl, each, leads⟩
    cases tail with
    | nil => simp [Cursor.past, leads_cons, char, Matches] at leads
    | cons d tail =>
      obtain rfl := (leads_char.mp leads).1
      exact ⟨type, tail, some_char, rfl, each⟩
  · rintro ⟨type, tail, some_char, rfl, each⟩
    exact ⟨type, '\x7b' :: tail, some_char, rfl, each, leads_char.mpr ⟨rfl, leads_nil⟩⟩

theorem leads_opening {passed : Option Char} {rest : Text} (no_brace : '\x7b' ∉ rest) :
    Leads [blanks, returnType, char '\x7b'] ⟨passed, rest ++ ") \x7b".toList⟩ ↔
      ∃ gap type : Text, rest = gap ++ ':' :: type ∧ gap.blank = true ∧ '=' ∉ type := by
  refine leads_many_iff.trans ?_
  constructor
  · rintro ⟨gap, far, whole, blank, leads⟩
    have no_paren : ')' ∉ gap := fun within => absurd (blank _ within) (by decide)
    obtain ⟨more, rfl, rfl⟩ := Text.exists_of_append_eq whole no_paren
    cases more with
    | nil => exact absurd ((leads_returnType (by decide)).mp leads).1 (by decide)
    | cons c type =>
      have no_brace_here : c ≠ '\x7b' := by
        rintro rfl
        exact no_brace (by simp)
      obtain ⟨rfl, read, tail, _, cut, each⟩ := (leads_returnType no_brace_here).mp leads
      have no_brace_behind : '\x7b' ∉ type := fun within => no_brace (by simp [within])
      -- What is read reaches to the brace and so over the whole type.
      obtain ⟨more, rfl, -⟩ := Text.exists_of_append_eq cut.symm no_brace_behind
      refine ⟨gap, type, rfl, List.all_eq_true.mpr blank, fun within => ?_⟩
      exact absurd (each _ (List.mem_append_left more within)) (by decide)
  · rintro ⟨gap, type, rfl, blank, no_equals⟩
    refine ⟨gap, ':' :: (type ++ ") \x7b".toList), by simp, List.all_eq_true.mp blank, ?_⟩
    refine (leads_returnType (by decide)).mpr ⟨rfl, type ++ ") ".toList, [], by simp, by simp, ?_⟩
    have type_read : ∀ d ∈ type, inReturnType d = true := by
      intro d within
      have other_brace : d ≠ '\x7b' := by
        rintro rfl
        exact no_brace (by simp [within])
      have other_equals : d ≠ '=' := fun same => no_equals (same ▸ within)
      simp [inReturnType, other_brace, other_equals]
    exact List.forall_mem_append.mpr ⟨type_read, by decide⟩

def listAndOpening : List Pattern := [many (· != ')'), char ')', blanks, returnType, char '\x7b']

theorem leads_listAndOpening {passed : Option Char} {list : Text} (no_brace : '\x7b' ∉ list) :
    Leads listAndOpening ⟨passed, list ++ ") \x7b".toList⟩ ↔ EndsOnce list := by
  -- Of the parentheses that close only the first can be the one behind the run in front of it.
  have ends_first {inner tail : Text} (inside : ')' ∉ inner) :
      Leads listAndOpening ⟨passed, inner ++ ')' :: tail⟩ ↔
        Leads [blanks, returnType, char '\x7b'] ⟨some ')', tail⟩ := by
    have each : ∀ c ∈ inner, (c != ')') = true := by
      intro c within
      simpa using fun same : c = ')' => inside (same ▸ within)
    refine (leads_many (by decide) (by simp [row, firsts, char, nullable]) each (by simp)).trans ?_
    exact leads_char.trans (and_iff_right rfl)
  by_cases closes : ')' ∈ list
  · obtain ⟨inner, rest, rfl, inside⟩ := List.eq_append_cons_of_mem closes
    have no_brace_behind : '\x7b' ∉ rest := fun within => no_brace (by simp [within])
    rw [List.append_assoc, List.cons_append, ends_first inside, leads_opening no_brace_behind]
    constructor
    · rintro ⟨gap, type, rfl, blank, no_equals⟩
      exact .inr ⟨inner, gap, type, rfl, inside, blank, no_equals⟩
    · rintro (none | ⟨other, gap, type, cut, other_inside, blank, no_equals⟩)
      · exact absurd closes none
      · refine ⟨gap, type, ?_, blank, no_equals⟩
        obtain ⟨more, rfl, tail_eq⟩ := Text.exists_of_append_eq cut other_inside
        cases more with
        | nil => exact (List.cons_eq_cons.mp tail_eq).2.symm
        | cons c more =>
          obtain rfl : ')' = c := (List.cons_eq_cons.mp tail_eq).1
          exact absurd (by simp) inside
  · refine iff_of_true ((ends_first closes).mpr ?_) (.inl closes)
    have brace : Leads [returnType, char '\x7b'] (Cursor.past (some ')') [' '] ['\x7b']) :=
      leads_alt.mpr (.inr (leads_empty.mpr (leads_char.mpr ⟨rfl, leads_nil⟩)))
    exact leads_many_iff.mpr ⟨[' '], ['\x7b'], rfl, by decide, brace⟩

def typeParameters : Pattern := optional (char '<' ++ many (· != '>') ++ char '>' ++ blanks)

theorem methodLine_flat : methodLine.flat = start :: blanks ::
    absent control :: star (oneOf (methodModifierWords.map literal) ++ space) :: absent control ::
      one nameStart :: many nameChar :: blanks ::
        typeParameters :: char '(' :: listAndOpening :=
  rfl

theorem methodLine_matches_iff {list : Text} (identifier : Identifier name) (no_brace : '\x7b' ∉ list) :
    methodLine.matchesIn (name ++ '(' :: (list ++ ") \x7b".toList)) = true ↔
      IsName name ∧ ¬ OpensControl name ∧ EndsOnce list := by
  have at_name : Leads (one nameStart :: many nameChar :: blanks :: typeParameters :: char '(' :: listAndOpening)
      (Cursor.start (name ++ '(' :: (list ++ ") \x7b".toList))) ↔ IsName name ∧ EndsOnce list := by
    have apart (c : Char) (within : identifierChar c = true) :
        (row (blanks :: typeParameters :: char '(' :: listAndOpening)).firsts c = false := by
      have no_angle : c ≠ '<' := ne_of_identifierChar within (by decide)
      have no_paren : c ≠ '(' := ne_of_identifierChar within (by decide)
      simp [row, firsts, nullable, blanks, typeParameters, firsts_optional, firsts_append, nullable_append, char,
        isBlank_of_identifierChar within, no_angle, no_paren]
    refine (leads_name identifier (by decide) apart (by simp; decide)).trans (and_congr_right fun _ => ?_)
    have no_blanks : ∀ c ∈ blankChars, (row (typeParameters :: char '(' :: listAndOpening)).firsts c = false := by
      decide
    refine (leads_many_idle (by decide) (fun c blank => no_blanks c (mem_blankChars blank)) (by decide)).trans ?_
    rw [typeParameters, leads_optional (by decide) (by decide), leads_char]
    simpa using leads_listAndOpening no_brace
  rw [matchesIn_tied methodLine_flat (filled_of_identifier identifier _), leads_absent, control_matches_iff,
    leads_star (no_modifier identifier.2), leads_absent, control_matches_iff, at_name]
  tauto

theorem objectMethodLine_unmatched {list : Text} (identifier : Identifier name) :
    objectMethodLine.matchesIn (name ++ '(' :: list) = false := by
  obtain ⟨rest, shape⟩ : ∃ rest, objectMethodLine.flat =
      start :: blanks :: one nameStart :: many nameChar :: blanks :: char ':' :: rest := ⟨_, rfl⟩
  have firsts_eq (c : Char) : (row (blanks :: char ':' :: rest)).firsts c = (isBlank c || c == ':') := by
    simp [row, firsts, nullable, blanks, char]
  have apart (c : Char) (within : identifierChar c = true) : (row (blanks :: char ':' :: rest)).firsts c = false := by
    have no_colon : c ≠ ':' := ne_of_identifierChar within (by decide)
    simp [firsts_eq, isBlank_of_identifierChar within, no_colon]
  have takes : (row (blanks :: char ':' :: rest)).nullable = false := rfl
  rw [← Bool.not_eq_true, matchesIn_tied shape (filled_of_identifier identifier _)]
  intro leads
  have behind := ((leads_name identifier takes apart (by simp; decide)).mp leads).2
  exact not_leads takes (by rw [firsts_eq]; decide) behind

theorem kindOf_method_iff {text : Text} : kindOf text = some .method ↔
    methodLine.matchesIn ((grammar {}).code text) = true ∨
      objectMethodLine.matchesIn ((grammar {}).code text) = true := by
  constructor
  · intro found
    unfold kindOf at found
    dsimp only at found
    split at found
    · simp at found
    · obtain ⟨rule, rule_found, is_method⟩ := Option.map_eq_some_iff.mp found
      have member := List.mem_of_find?_eq_some rule_found
      have matched := List.find?_some rule_found
      simp only [rules, List.mem_cons, List.not_mem_nil, or_false] at member
      rcases member with rfl | rfl | rfl | rfl | rfl | rfl | rfl | rfl
      · exact .inl matched
      · exact .inr matched
      all_goals exact absurd is_method (by decide)
  · intro matched
    have filled : ((grammar {}).code text).blank = false := by
      obtain ⟨_, opens, _⟩ := matched.elim (rules_open List.mem_cons_self)
        (rules_open (List.mem_cons_of_mem _ List.mem_cons_self))
      exact Text.blank_eq_false_of_opening? opens
    rcases matched with matched | matched
    · simp [kindOf, filled, rules, matched]
    · cases first : methodLine.matchesIn ((grammar {}).code text) <;>
        simp [kindOf, filled, rules, first, matched]

theorem code_of_identifier {list : Text} (identifier : Identifier name) (free : Comment.Free list) :
    (grammar {}).code (name ++ '(' :: (list ++ ") \x7b".toList)) = name ++ '(' :: (list ++ ") \x7b".toList) := by
  have no_slash : '/' ∉ name := fun within => absurd (identifier.2 _ within) (by decide)
  have list_free : Comment.Free (list ++ ") \x7b".toList) :=
    free.append (Comment.free_of_no_slash (by decide)) (.inr (by decide))
  have whole_free : Comment.Free (name ++ '(' :: (list ++ ") \x7b".toList)) := by
    rw [List.append_cons]
    exact (Comment.free_of_no_slash (by simpa using no_slash)).append list_free (.inl (by simp))
  obtain ⟨some_char, each⟩ := identifier
  obtain ⟨c, more, rfl⟩ := List.exists_cons_of_ne_nil some_char
  have filled := isBlank_of_identifierChar (each c (by simp))
  have opens : Text.opening? (c :: more ++ '(' :: (list ++ ") \x7b".toList)) = some c := by
    simp [Text.opening?_cons, filled]
  exact code_join (List.forall_mem_singleton.mpr whole_free) opens (ne_of_identifierChar (each c (by simp)) (by decide))

/-- A name with a list in parentheses and an opening brace behind it, on a line that no comment ends, is a method
exactly if it is a name as the rules read names, does not open with a word of control, and has a list without a closing
parenthesis, or with a type behind the first of them. -/
theorem kindAt_method_iff (windows : Windows) (doc : Document) (line : Int) (name list : Text)
    (identifier : Identifier name) (no_brace : '\x7b' ∉ list) (free : Comment.Free list)
    (read : doc.line line = .ok (name ++ '(' :: (list ++ ") \x7b".toList))) :
    (grammar windows).kindAt doc line = .ok (some .method) ↔
      IsName name ∧ ¬ OpensControl name ∧ EndsOnce list := by
  have unmatched : objectMethodLine.matchesIn (name ++ '(' :: (list ++ ") \x7b".toList)) = false :=
    objectMethodLine_unmatched identifier
  have kind_iff : kindOf (name ++ '(' :: (list ++ ") \x7b".toList)) = some .method ↔ _ := kindOf_method_iff
  rw [code_of_identifier identifier free, unmatched, methodLine_matches_iff identifier no_brace] at kind_iff
  rw [kindAt_eq, read]
  simpa [Except.map] using kind_iff

-- A list without parentheses of its own, and one that goes on to a type behind the first that closes.
theorem kindAt_method_of_lists :
    let doc : Document := ⟨["save(record, retries = 2) \x7b".toList, "pick((one): T) \x7b".toList]⟩
    (grammar {}).kindAt doc 0 = .ok (some .method) ∧ (grammar {}).kindAt doc 1 = .ok (some .method) := by
  intro doc
  have no_slashes : ∀ list ∈ ["record, retries = 2".toList, "(one): T".toList], Comment.Free list := by
    intro list member
    exact Comment.free_of_no_slash
      ((by decide : ∀ list ∈ ["record, retries = 2".toList, "(one): T".toList], '/' ∉ list) list member)
  constructor
  · exact (kindAt_method_iff {} doc 0 "save".toList "record, retries = 2".toList (by decide) (by decide)
      (no_slashes _ (by simp)) rfl).mpr ⟨by decide, by decide, .inl (by decide)⟩
  · exact (kindAt_method_iff {} doc 1 "pick".toList "(one): T".toList (by decide) (by decide)
      (no_slashes _ (by simp)) rfl).mpr ⟨by decide, by decide, .inr ⟨"(one".toList, [], " T".toList, by decide⟩⟩

/-- The list of a method may hold a call or the type of a callback, and its name may open with a word of control and a
dollar sign. No such line declares anything, while a function with such a list is found, with its parameters. -/
theorem call_in_list_unfound :
    let doc : Document := ⟨["run(a = f(x), b) \x7b".toList, "load(done: (ok: T) => void) \x7b".toList,
      "if$else(a) \x7b".toList, "function run(a = f(x), b) \x7b".toList]⟩
    (∀ name ∈ ["run".toList, "load".toList, "if$else".toList],
      Identifier name ∧ IsName name ∧ name ∉ controlWords ++ methodModifierWords) ∧
    (∀ list ∈ ["a = f(x), b".toList, "done: (ok: T) => void".toList, "a".toList], Signature.Balanced list) ∧
    (grammar {}).kindAt doc 0 = .ok none ∧ (grammar {}).kindAt doc 1 = .ok none ∧
    (grammar {}).kindAt doc 2 = .ok none ∧ (grammar {}).kindAt doc 3 = .ok (some .function) ∧
    Signature.parameters (grammar {}) doc 3 .function = .ok ["a".toList, "b".toList] := by
  decide +kernel

end JavaScript

end Docblock
