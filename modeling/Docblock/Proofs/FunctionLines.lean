import Docblock.Proofs.MethodLines

/-! Functions of a script on one line. Their parameters are the names in front of types and default values, wherever
a type has its commas inside brackets. The commas that a default value has outside parentheses and angle brackets part
parameters, too, so that the names behind them are taken for parameters of their own. -/

set_option autoImplicit false

namespace Docblock

open scoped Text

theorem Text.exists_trim (text : Text) : ∃ before after, text = before ++ text.trim ++ after ∧
    (∀ c ∈ before, isBlank c = true) ∧ ∀ c ∈ after, isBlank c = true := by
  have right_eq : text.trimLeft = text.trim ++ (text.trimLeft.reverse.takeWhile isBlank).reverse := by
    rw [trim, trimRight, ← List.reverse_append, List.takeWhile_append_dropWhile, List.reverse_reverse]
  refine ⟨text.takeWhile isBlank, (text.trimLeft.reverse.takeWhile isBlank).reverse, ?_, ?_, ?_⟩
  · rw [List.append_assoc, ← right_eq, trimLeft, List.takeWhile_append_dropWhile]
  · exact fun c => List.mem_takeWhile_imp
  · exact fun c within => List.mem_takeWhile_imp (List.mem_reverse.mp within)

namespace Signature

theorem Settled.plains {nesting : List (Char × Char)} {innermost : Option Char} {commas : Bool} (front : Text)
    {rest : Text} (others : ∀ c ∈ front, ∀ pair ∈ nesting, pair.1 ≠ c ∧ (innermost = some pair.1 → pair.2 ≠ c))
    (guarded : ',' ∈ front → commas = true) (settled : Settled nesting innermost commas rest) :
    Settled nesting innermost commas (front ++ rest) := by
  induction front with
  | nil => exact settled
  | cons c more ih =>
    obtain ⟨other, others⟩ := List.forall_mem_cons.mp others
    refine .plain other (fun comma => guarded (by simp [comma])) (ih others fun within => guarded ?_)
    exact List.mem_cons_of_mem c within

theorem Balanced.join {rows : List Text} (each : ∀ row ∈ rows, Balanced row) : Balanced (Text.join [','] rows) := by
  induction rows with
  | nil => exact balanced_nil
  | cons row others ih =>
    obtain ⟨row_balanced, others_balanced⟩ := List.forall_mem_cons.mp each
    cases others with
    | nil => exact row_balanced
    | cons next others =>
      rw [Text.join_cons_cons]
      exact (row_balanced.append (by decide)).append (ih others_balanced)

end Signature

namespace JavaScript
open Signature

/-! ## Types -/

/-- What stands behind a name that has a type, and nothing behind one that has none. -/
def typePart (type : Option Text) : Text := type.elim [] (':' :: ·)

/-- What a function type starts with: its parameters in parentheses, and blanks. -/
def functionHead (params : List (Text × Option Text)) (gap : Text) : Text :=
  '(' :: (Text.join [','] (params.map fun param => param.1 ++ typePart param.2) ++ ')' :: gap)

/-- Neither a bracket that nests nor a comma. -/
def inert (c : Char) : Bool := !"()<>,".toList.contains c

/-- A type, or a list of types. -/
inductive Extent where
  | one
  | several

/-- Types written out: names, types with arguments in angle brackets, arrays, function types and types in parentheses.
The numbers count the angle brackets that wait for a closer in front of the type and behind it, those outside the
parentheses around it (`enclosed`) left out. The arrow of a function type closes one of them, and then there is one
closer too many behind it. Between arguments a comma has to be in parentheses or where an angle bracket waits. -/
inductive TypeText : (enclosed : Bool) → Extent → (waiting : Nat) → Text → (left : Nat) → Prop where
  | name {enclosed : Bool} {waiting : Nat} {text : Text} :
      text ≠ [] → (∀ c ∈ text, nameChar c = true ∨ c = '.') → TypeText enclosed .one waiting text waiting
  | spaced {enclosed : Bool} {waiting left : Nat} {before text after : Text} :
      before.blank = true → after.blank = true → TypeText enclosed .one waiting text left →
        TypeText enclosed .one waiting (before ++ text ++ after) left
  | array {enclosed : Bool} {waiting left : Nat} {text : Text} :
      TypeText enclosed .one waiting text left → TypeText enclosed .one waiting (text ++ "[]".toList) left
  | group {enclosed : Bool} {waiting : Nat} {text : Text} :
      TypeText true .one 0 text 0 → TypeText enclosed .one waiting ('(' :: (text ++ [')'])) waiting
  | function {enclosed : Bool} {waiting left : Nat} {params : List (Text × Option Text)} {gap result : Text} :
      (∀ param ∈ params, ∀ c ∈ param.1, inert c = true) →
      (∀ param ∈ params, ∀ type ∈ param.2, TypeText true .one 0 type 0) → gap.blank = true →
      TypeText enclosed .one (waiting - 1) result left →
        TypeText enclosed .one waiting (functionHead params gap ++ "=>".toList ++ result) left
  | generic {enclosed : Bool} {waiting inner left : Nat} {text arguments : Text} :
      TypeText enclosed .one waiting text inner → TypeText enclosed .several (inner + 1) arguments left →
        TypeText enclosed .one waiting (text ++ '<' :: (arguments ++ ['>'])) (left - 1)
  | empty {enclosed : Bool} {waiting : Nat} : TypeText enclosed .several waiting [] waiting
  | argument {enclosed : Bool} {waiting left : Nat} {text : Text} :
      TypeText enclosed .one waiting text left → TypeText enclosed .several waiting text left
  | comma {enclosed : Bool} {waiting between left : Nat} {front text : Text} :
      TypeText enclosed .several waiting front between → (enclosed = false → 0 < between) →
      TypeText enclosed .one between text left → TypeText enclosed .several waiting (front ++ ',' :: text) left

theorem distinct_nesting : Distinct nesting := by decide

theorem contains_eq_false {accepts : Char → Bool} {marks : List Char} {c : Char}
    (apart : ∀ mark ∈ marks, accepts mark = false) (accepted : accepts c = true) : marks.contains c = false := by
  rw [List.contains_eq_mem, decide_eq_false_iff_not]
  intro member
  simp [apart c member] at accepted

theorem inert_of_nameChar {c : Char} (named : nameChar c = true ∨ c = '.') : inert c = true := by
  have apart : ∀ mark ∈ "()<>,".toList, (nameChar mark || mark == '.') = false := by decide
  rw [inert, contains_eq_false apart (by simpa using named)]
  rfl

theorem inert_of_blank {text : Text} (blank : text.blank = true) : ∀ c ∈ text, inert c = true := by
  have inert_blanks : ∀ c ∈ blankChars, inert c = true := by decide +kernel
  exact fun c within => inert_blanks c (mem_blankChars (List.all_eq_true.mp blank c within))

section
variable {innermost : Option Char} {commas : Bool} {opened : List Char} {text : Text}

theorem settled_of_inert (each : ∀ c ∈ text, inert c = true) : Settled nesting innermost commas text := by
  have others (c : Char) (within : c ∈ text) (pair : Char × Char) (member : pair ∈ nesting) :
      pair.1 ≠ c ∧ (innermost = some pair.1 → pair.2 ≠ c) := by
    have marks : ∀ pair ∈ nesting, inert pair.1 = false ∧ inert pair.2 = false := by decide
    have ne_of_mark {d : Char} (mark : inert d = false) : d ≠ c := by
      rintro rfl
      simp [each d within] at mark
    exact ⟨ne_of_mark (marks pair member).1, fun _ => ne_of_mark (marks pair member).2⟩
  simpa using Settled.plains text others (fun within => absurd (each _ within) (by decide)) .nil

theorem carries_of_inert (each : ∀ c ∈ text, inert c = true) : Carries nesting opened text opened :=
  (settled_of_inert each).carries distinct_nesting rfl (fun commas : false = true => absurd commas (by decide))

theorem carries_typePart {type : Option Text} (typed : ∀ text ∈ type, Carries nesting opened text opened) :
    Carries nesting opened (typePart type) opened := by
  cases type with
  | none => exact .nil
  | some text => exact (carries_of_inert (by decide : ∀ c ∈ [':'], inert c = true)).append (typed text rfl)

theorem balanced_of_inert (each : ∀ c ∈ text, inert c = true) : Balanced text := by
  apply ParenFree.balanced
  intro c within
  constructor <;> rintro rfl <;> exact absurd (each _ within) (by decide)

theorem balanced_typePart {type : Option Text} (typed : ∀ text ∈ type, Balanced text) :
    Balanced (typePart type) := by
  cases type with
  | none => exact balanced_nil
  | some text => exact (by decide : Balanced [':']).append (typed text rfl)

variable {params : List (Text × Option Text)} {gap : Text}
  (labels : ∀ param ∈ params, ∀ c ∈ param.1, inert c = true) (blank : gap.blank = true)
include labels blank

theorem carries_functionHead
    (types : ∀ param ∈ params, ∀ type ∈ param.2, Carries nesting ('(' :: opened) type ('(' :: opened)) :
    Carries nesting opened (functionHead params gap) opened := by
  have inside : Carries nesting ('(' :: opened)
      (Text.join [','] (params.map fun param => param.1 ++ typePart param.2)) ('(' :: opened) := by
    refine .join distinct_nesting (by simp) fun row member => ?_
    obtain ⟨param, known, rfl⟩ := List.mem_map.mp member
    exact (carries_of_inert (labels param known)).append (carries_typePart (types param known))
  have parens := inside.group distinct_nesting (by decide : ('(', ')') ∈ nesting)
  simpa [functionHead] using parens.append (carries_of_inert (inert_of_blank blank))

theorem balanced_functionHead (types : ∀ param ∈ params, ∀ type ∈ param.2, Balanced type) :
    Balanced (functionHead params gap) := by
  have each : ∀ row ∈ params.map fun param => param.1 ++ typePart param.2, Balanced row := by
    intro row member
    obtain ⟨param, known, rfl⟩ := List.mem_map.mp member
    exact (balanced_of_inert (labels param known)).append (balanced_typePart (types param known))
  have parens := (Balanced.join each).group.append (balanced_of_inert (inert_of_blank blank))
  simpa [functionHead] using parens

end

/-- What waits for a closer when as many angle brackets do on top of the others. -/
def angles (count : Nat) (others : List Char) : List Char := List.replicate count '<' ++ others

theorem carries_closer {others : List Char} (around : others.head? ≠ some '<') (count : Nat) :
    Carries nesting (angles count others) ['>'] (angles (count - 1) others) := by
  cases count with
  | succ count => exact .of_turn (turn_close distinct_nesting (by decide : ('<', '>') ∈ nesting))
  | zero =>
    -- No opener waits for the closer, so that it is an ordinary character.
    refine .of_turn (turn_plain (fun pair member => ?_) fun comma => absurd comma (by decide))
    have known : pair = ('(', ')') ∨ pair = ('<', '>') := by simpa [nesting] using member
    rcases known with rfl | rfl
    · exact ⟨by decide, fun _ => by decide⟩
    · exact ⟨by decide, fun inside => absurd inside around⟩

namespace TypeText
variable {enclosed : Bool} {extent : Extent} {waiting left : Nat} {text : Text}

/-- A type goes into one piece, wherever it stands. -/
theorem carries (type : TypeText enclosed extent waiting text left) {others : List Char}
    (around : others.head? ≠ some '<') (inside : enclosed = true → others ≠ []) :
    Carries nesting (angles waiting others) text (angles left others) := by
  have in_parens (outer : List Char) : ('(' :: outer).head? ≠ some '<' := by simp
  induction type generalizing others with
  | name _ named => exact carries_of_inert fun c within => inert_of_nameChar (named c within)
  | spaced before after _ ih =>
    have padded := (carries_of_inert (inert_of_blank before)).append (ih around inside)
    exact padded.append (carries_of_inert (inert_of_blank after))
  | array _ ih => exact (ih around inside).append (carries_of_inert (by decide))
  | @group _ waiting text _ ih =>
    have grouped : Carries nesting ('(' :: angles waiting others) text ('(' :: angles waiting others) :=
      ih (in_parens _) fun _ => List.cons_ne_nil _ _
    exact grouped.group distinct_nesting (by decide : ('(', ')') ∈ nesting)
  | @function _ waiting left params gap result labels _ blank _ ih_types ih_result =>
    have head : Carries nesting (angles waiting others) (functionHead params gap) (angles waiting others) :=
      carries_functionHead labels blank fun param member type known =>
        ih_types param member type known (in_parens _) fun _ => List.cons_ne_nil _ _
    have arrow : Carries nesting (angles waiting others) "=>".toList (angles (waiting - 1) others) :=
      (carries_of_inert (by decide : ∀ c ∈ ['='], inert c = true)).append (carries_closer around waiting)
    exact (head.append arrow).append (ih_result around inside)
  | @generic _ waiting inner left text arguments _ _ ih ih_arguments =>
    have opens : Carries nesting (angles inner others) ['<'] (angles (inner + 1) others) :=
      .of_turn (turn_open (by decide : ('<', '>') ∈ nesting))
    have closed := (ih_arguments around inside).append (carries_closer around left)
    exact (ih around inside).append (opens.append closed)
  | empty => exact .nil
  | argument _ ih => exact ih around inside
  | @comma enclosed _ between _ _ _ _ guarded _ ih_front ih =>
    have some_open : angles between others ≠ [] := by
      cases enclosed with
      | true => exact List.append_ne_nil_of_right_ne_nil _ (inside rfl)
      | false => exact List.append_ne_nil_of_left_ne_nil (by simpa using (guarded rfl).ne') _
    exact (ih_front around inside).append ((Carries.of_comma distinct_nesting some_open).append (ih around inside))

theorem balanced (type : TypeText enclosed extent waiting text left) : Balanced text := by
  induction type with
  | name _ named => exact balanced_of_inert fun c within => inert_of_nameChar (named c within)
  | spaced before after _ ih =>
    exact ((balanced_of_inert (inert_of_blank before)).append ih).append (balanced_of_inert (inert_of_blank after))
  | array _ ih => exact ih.append (by decide)
  | group _ ih => exact ih.group
  | function labels _ blank _ ih_types ih_result =>
    exact ((balanced_functionHead labels blank ih_types).append (by decide)).append ih_result
  | generic _ _ ih ih_arguments =>
    exact ih.append ((by decide : Balanced ['<']).append (ih_arguments.append (by decide)))
  | empty => exact balanced_nil
  | argument _ ih => exact ih
  | comma _ _ _ ih_front ih => exact ih_front.append ((by decide : Balanced [',']).append ih)

/-- Whether a text is the name of a type, perhaps with the names of what it belongs to in front. -/
def isName (text : Text) : Bool := text ≠ [] && text.all fun c => nameChar c || c == '.'

theorem of_isName (named : isName text = true) : TypeText enclosed .one waiting text waiting := by
  rw [isName, Bool.and_eq_true, List.all_eq_true] at named
  exact .name (by simpa using named.1) fun c within => by simpa using named.2 c within

theorem cons_blank (type : TypeText enclosed .one waiting text left) :
    TypeText enclosed .one waiting (' ' :: text) left := by
  simpa using TypeText.spaced (by decide : Text.blank [' '] = true) (by decide : Text.blank [] = true) type

theorem pair {name first second : Text} (names : isName name = true ∧ isName first = true)
    (type : TypeText enclosed .one (waiting + 1) second left) :
    TypeText enclosed .one waiting (name ++ '<' :: (first ++ ',' :: ' ' :: second ++ ['>'])) (left - 1) :=
  .generic (of_isName names.1) (.comma (.argument (of_isName names.2)) (fun _ => by omega) type.cons_blank)

end TypeText

/-! ## Names -/

/-- The characters of names up to the first equals sign or colon. -/
def firstName (text : Text) : Text := (text.takeWhile fun c => c != '=' && c != ':').filter nameChar

theorem not_mark {c : Char} (plain : nameChar c = true ∨ isBlank c = true) : (c != '=' && c != ':') = true := by
  have apart : ∀ mark ∈ ['=', ':'], (nameChar mark || isBlank mark) = false := by decide
  simpa using contains_eq_false apart (by simpa using plain)

theorem cutAt_equals {text : Text} (no_feed : '\n' ∉ text) : text.cutAt ['='] = text.takeWhile (· != '=') := by
  induction text with
  | nil => rfl
  | cons c rest ih =>
    obtain ⟨_, no_feed_behind⟩ := not_or.mp (mt List.mem_cons.mpr no_feed)
    have on_last : Text.onLastLine (c :: rest) = true := by
      refine List.all_eq_true.mpr fun d within => ?_
      simpa using fun same : d = '\n' => no_feed (same ▸ List.dropLast_subset _ within)
    have no_last_feed : rest.getLast? ≠ some '\n' := fun last => no_feed_behind (List.mem_of_getLast? last)
    rw [Text.cutAt, List.takeWhile_cons, on_last, if_neg no_last_feed, ih no_feed_behind]
    by_cases equals : c = '='
    · simp [equals]
    · simp [equals, Ne.symm equals]

theorem filter_nameChar_blank {text : Text} (blank : ∀ c ∈ text, isBlank c = true) : text.filter nameChar = [] := by
  refine List.filter_eq_nil_iff.mpr fun c within named => ?_
  have filled := isBlank_of_nameChar named
  simp [blank c within] at filled

theorem filter_nameChar_trim (text : Text) : text.trim.filter nameChar = text.filter nameChar := by
  obtain ⟨before, after, whole, before_blank, after_blank⟩ := text.exists_trim
  conv_rhs => rw [whole]
  simp [filter_nameChar_blank before_blank, filter_nameChar_blank after_blank]

theorem firstName_trim (text : Text) : firstName text.trim = firstName text := by
  obtain ⟨before, after, whole, before_blank, after_blank⟩ := text.exists_trim
  have passed (c : Char) (within : c ∈ before) := not_mark (.inr (before_blank c within))
  conv_rhs => rw [whole]
  rw [firstName, firstName, List.append_assoc, List.takeWhile_append_of_pos passed, List.filter_append,
    filter_nameChar_blank before_blank, List.nil_append, List.takeWhile_append]
  split
  · next all_passed =>
    rw [(List.takeWhile_prefix _).eq_of_length all_passed, List.filter_append,
      filter_nameChar_blank fun c within => after_blank c ((List.takeWhile_subset _) within), List.append_nil]
  · rfl

def destructuring (c : Char) : Bool := "\x7b\x7d[]".toList.contains c

theorem not_destructuring {c : Char} (named : nameChar c = true ∨ c = ':') : destructuring c = false := by
  have apart : ∀ mark ∈ "\x7b\x7d[]".toList, (nameChar mark || mark == ':') = false := by decide
  exact contains_eq_false apart (by simpa using named)

/-- The brackets of destructured parameters come to nothing, as no name can hold them. -/
theorem parameterName_eq_firstName {text : Text} (no_feed : '\n' ∉ text) : parameterName text = firstName text := by
  have to_colon : (fun c => !!destructuring c || c != ':') = fun c => c != ':' := by
    funext c
    by_cases colon : c = ':'
    · simp [colon, not_destructuring]
    · simp [colon]
  have named : (fun c => nameChar c && !destructuring c) = nameChar := by
    funext c
    by_cases name_char : nameChar c = true
    · simp [name_char, not_destructuring]
    · simp [name_char]
  have to_mark : (fun c : Char => decide ((c != ':') = true ∧ (c != '=') = true)) = fun c => c != '=' && c != ':' := by
    funext c
    cases c != ':' <;> cases c != '=' <;> rfl
  calc parameterName text
      = (Text.trim (((text.cutAt ['=']).filter fun c => !destructuring c).takeWhile (· != ':'))).filter nameChar := rfl
    _ = (((text.takeWhile (· != '=')).takeWhile (· != ':')).filter fun c => !destructuring c).filter nameChar := by
      rw [cutAt_equals no_feed, filter_nameChar_trim, List.takeWhile_filter, to_colon]
    _ = firstName text := by
      rw [List.filter_filter, named, List.takeWhile_takeWhile, to_mark, firstName]

theorem namesIn_join {segments : List Text} (carried : ∀ segment ∈ segments, Carries nesting [] segment [])
    (no_feed : ∀ segment ∈ segments, '\n' ∉ segment) :
    namesIn (Text.join [','] segments) = (segments.map firstName).filter (!·.isEmpty) := by
  have name_of (segment : Text) (member : segment ∈ segments) : parameterName segment.trim = firstName segment := by
    have trimmed : '\n' ∉ segment.trim := fun within => no_feed segment member (Text.trim_subset segment within)
    rw [parameterName_eq_firstName trimmed, firstName_trim]
  rw [namesIn, split_join distinct_nesting carried]
  clear carried no_feed
  induction segments with
  | nil => rfl
  | cons segment rest ih =>
    obtain ⟨first_name, rest_names⟩ := List.forall_mem_cons.mp name_of
    have below := ih rest_names
    by_cases blank : segment.trim = []
    · have unnamed : firstName segment = [] := by
        rw [← first_name, blank]
        rfl
      simpa [blank, unnamed] using below
    · simp [blank, first_name, List.filter_cons, below]

/-! ## Parameters -/

/-- A parameter as it is written: a name between blanks, perhaps with a type, and perhaps with a default value. The
default value is told by its parts between the commas outside its parentheses and angle brackets; without one there are
no parts. -/
structure Parameter where
  before : Text
  name : Text
  after : Text
  type : Option Text
  parts : List Text

namespace Parameter

def head (parameter : Parameter) : Text :=
  parameter.before ++ parameter.name ++ parameter.after ++ typePart parameter.type

def text (parameter : Parameter) : Text :=
  parameter.head ++ if parameter.parts = [] then [] else '=' :: Text.join [','] parameter.parts

structure WellFormed (parameter : Parameter) : Prop where
  named : IsName parameter.name
  before_blank : parameter.before.blank = true
  after_blank : parameter.after.blank = true
  typed : ∀ type ∈ parameter.type, TypeText false .one 0 type 0
  settled : ∀ part ∈ parameter.parts, Settled nesting none false part
  balanced : Balanced (Text.join [','] parameter.parts)

/-- The name of a parameter, and the first names of all parts of its default value behind the first. -/
def names (parameter : Parameter) : List Text :=
  parameter.name :: (parameter.parts.tail.map firstName).filter (!·.isEmpty)

def segments (parameter : Parameter) : List Text :=
  match parameter.parts with
  | [] => [parameter.head]
  | first :: more => (parameter.head ++ '=' :: first) :: more

variable {parameter : Parameter}

theorem text_eq_join (parameter : Parameter) : parameter.text = Text.join [','] parameter.segments := by
  unfold text segments
  cases parameter.parts with
  | nil => simp
  | cons first more =>
    cases more with
    | nil => simp
    | cons next more => simp [Text.join_cons_cons]

namespace WellFormed
variable (wellFormed : parameter.WellFormed)
include wellFormed

theorem firstName_head {tail : Text}
    (marked : ∀ c, tail.head? = some c → c = '=') : firstName (parameter.head ++ tail) = parameter.name := by
  have before_blank := List.all_eq_true.mp wellFormed.before_blank
  have after_blank := List.all_eq_true.mp wellFormed.after_blank
  have passed : ∀ c ∈ parameter.before ++ parameter.name ++ parameter.after, (c != '=' && c != ':') = true := by
    intro c within
    rw [List.mem_append, List.mem_append] at within
    rcases within with (before | named) | after
    · exact not_mark (.inr (before_blank c before))
    · exact not_mark (.inl (wellFormed.named.nameChar c named))
    · exact not_mark (.inr (after_blank c after))
  have stopped : (typePart parameter.type ++ tail).takeWhile (fun c => c != '=' && c != ':') = [] := by
    cases parameter.type with
    | some type => rfl
    | none =>
      cases tail with
      | nil => rfl
      | cons c rest =>
        obtain rfl := marked c rfl
        rfl
  rw [firstName, head, List.append_assoc _ _ tail, List.takeWhile_append_of_pos passed, stopped, List.append_nil,
    List.filter_append, List.filter_append, filter_nameChar_blank before_blank, filter_nameChar_blank after_blank,
    List.filter_eq_self.mpr wellFormed.named.nameChar, List.nil_append, List.append_nil]

theorem firstName_segments :
    (parameter.segments.map firstName).filter (!·.isEmpty) = parameter.names := by
  have some_name := wellFormed.named.ne_nil
  have head_name : firstName parameter.head = parameter.name := by
    have unmarked : firstName (parameter.head ++ []) = parameter.name := wellFormed.firstName_head (by simp)
    rwa [List.append_nil] at unmarked
  unfold segments names
  cases parameter.parts with
  | nil => simp [head_name, some_name]
  | cons first more =>
    have first_name : firstName (parameter.head ++ '=' :: first) = parameter.name :=
      wellFormed.firstName_head (by simp)
    simp [first_name, some_name]

theorem carries_head : Carries nesting [] parameter.head [] := by
  have named : ∀ c ∈ parameter.name, inert c = true :=
    fun c within => inert_of_nameChar (.inl (wellFormed.named.nameChar c within))
  have typed : Carries nesting [] (typePart parameter.type) [] :=
    carries_typePart fun type written => (wellFormed.typed type written).carries (by decide) (by simp)
  exact (((carries_of_inert (inert_of_blank wellFormed.before_blank)).append (carries_of_inert named)).append
    (carries_of_inert (inert_of_blank wellFormed.after_blank))).append typed

theorem carries_segments : ∀ segment ∈ parameter.segments, Carries nesting [] segment [] := by
  have head_carried := wellFormed.carries_head
  have parts_carried : ∀ part ∈ parameter.parts, Carries nesting [] part [] :=
    fun part member => (wellFormed.settled part member).carries distinct_nesting rfl (by simp)
  unfold segments
  cases cut : parameter.parts with
  | nil => simpa using head_carried
  | cons first more =>
    rw [cut] at parts_carried
    obtain ⟨first_carried, more_carried⟩ := List.forall_mem_cons.mp parts_carried
    have equals : Carries nesting [] ['='] [] := carries_of_inert (by decide)
    exact List.forall_mem_cons.mpr ⟨head_carried.append (equals.append first_carried), more_carried⟩

theorem balanced_text : Balanced parameter.text := by
  have named : ∀ c ∈ parameter.name, inert c = true :=
    fun c within => inert_of_nameChar (.inl (wellFormed.named.nameChar c within))
  have typed : Balanced (typePart parameter.type) :=
    balanced_typePart fun type written => (wellFormed.typed type written).balanced
  have head_balanced : Balanced parameter.head :=
    (((balanced_of_inert (inert_of_blank wellFormed.before_blank)).append (balanced_of_inert named)).append
      (balanced_of_inert (inert_of_blank wellFormed.after_blank))).append typed
  refine head_balanced.append ?_
  split
  · exact balanced_nil
  · exact (by decide : Balanced ['=']).append wellFormed.balanced

end WellFormed

end Parameter

section
variable {list : List Parameter}

def listText (list : List Parameter) : Text := Text.join [','] (list.map Parameter.text)

theorem listText_eq (list : List Parameter) :
    listText list = Text.join [','] (list.flatMap Parameter.segments) := by
  have some_segment (parameter : Parameter) : parameter.segments ≠ [] := by
    unfold Parameter.segments
    split <;> exact List.cons_ne_nil _ _
  unfold listText
  induction list with
  | nil => rfl
  | cons parameter rest ih =>
    by_cases alone : rest = []
    · simp [alone, Parameter.text_eq_join]
    · have more : rest.flatMap Parameter.segments ≠ [] := by
        obtain ⟨next, others, rfl⟩ := List.exists_cons_of_ne_nil alone
        simp [some_segment]
      rw [List.map_cons, Text.join_cons_of_ne_nil _ _ (by simpa using alone), ih, List.flatMap_cons,
        Text.join_append (some_segment parameter) more, Parameter.text_eq_join]

theorem namesIn_listText (wellFormed : ∀ parameter ∈ list, parameter.WellFormed) (no_feed : '\n' ∉ listText list) :
    namesIn (listText list) = list.flatMap Parameter.names := by
  rw [listText_eq] at no_feed ⊢
  have carried : ∀ segment ∈ list.flatMap Parameter.segments, Carries nesting [] segment [] := by
    intro segment member
    obtain ⟨parameter, known, inside⟩ := List.mem_flatMap.mp member
    exact (wellFormed parameter known).carries_segments segment inside
  have segment_no_feed : ∀ segment ∈ list.flatMap Parameter.segments, '\n' ∉ segment := by
    intro segment member within
    exact no_feed ((Text.mem_join_iff (by decide)).mpr ⟨segment, member, within⟩)
  rw [namesIn_join carried segment_no_feed, List.map_flatMap, List.filter_flatMap]
  exact List.flatMap_congr fun parameter known => (wellFormed parameter known).firstName_segments

theorem balanced_listText (wellFormed : ∀ parameter ∈ list, parameter.WellFormed) : Balanced (listText list) := by
  apply Balanced.join
  intro row member
  obtain ⟨parameter, known, rfl⟩ := List.mem_map.mp member
  exact (wellFormed parameter known).balanced_text

end

/-! ## Lines -/

open Pattern in
theorem bareParameter?_eq_none {text : Text} (opens : text.opening? = some 'f') : bareParameter? text = none := by
  let before := variableHead ++ optional (char ':' ++ some1 (· != '=')) ++ char '=' ++ blanks ++ asyncWord
  obtain ⟨rest, shape, takes, refused⟩ : ∃ rest, before.flat = start :: blanks :: rest ∧ (row rest).nullable = false ∧
      (('f' :: blankChars).all fun c => !(row rest).firsts c) = true := ⟨_, rfl, rfl, by decide +kernel⟩
  have refused : ∀ c ∈ 'f' :: blankChars, (row rest).firsts c = false := by simpa using refused
  refine Option.eq_none_iff_forall_ne_some.mpr fun found captured => ?_
  obtain ⟨place, first, _, _, reached, matched, _⟩ := capture_sound captured
  obtain ⟨c, opens_too, accepted⟩ := opening?_of_matchesIn shape takes
    (fun c blank => refused c (by simp [mem_blankChars blank])) (matchesIn_iff.mpr ⟨place, first, reached, matched⟩)
  obtain rfl : 'f' = c := Option.some.inj (opens.symm.trans opens_too)
  simp [refused 'f' (by simp)] at accepted

/-- The parameters of a function on one line are the names in front of the types and default values in its list, and
behind each of them what the commas bring in that its default value has outside parentheses and angle brackets. -/
theorem parameters_of_function (windows : Windows) (wide : 0 ≤ windows.signature) (doc : Document) (line : Nat)
    (name : Text) (list : List Parameter) (whole : doc.Unbroken) (named : IsName name)
    (wellFormed : ∀ parameter ∈ list, parameter.WellFormed) (free : Comment.Free (listText list))
    (read : doc.line line = .ok ("function ".toList ++ name ++ '(' :: (listText list ++ ") \x7b".toList))) :
    parameters (grammar windows) doc line .function = .ok (list.flatMap Parameter.names) ∧
      ((∀ parameter ∈ list, parameter.parts.length ≤ 1) →
        parameters (grammar windows) doc line .function = .ok (list.map Parameter.name)) := by
  have no_feed : '\n' ∉ listText list := by
    intro within
    exact (whole _ (Document.mem_of_line read) '\n' (by simp [within])).2 rfl
  have no_mark : ∀ mark ∈ ['(', '/'], mark ∉ "function ".toList ++ name := by
    intro mark member within
    rcases List.mem_append.mp within with keyword | in_name
    · exact (by decide : ∀ mark ∈ ['(', '/'], mark ∉ "function ".toList) mark member keyword
    · have named_mark := named.nameChar mark in_name
      have other : ∀ mark ∈ ['(', '/'], nameChar mark = false := by decide
      simp [other mark member] at named_mark
  have opens : Text.opening? ("function ".toList ++ name ++ '(' :: (listText list ++ ") \x7b".toList)) = some 'f' :=
    Text.opening?_append (Text.opening?_append (by decide) name) _
  have whole_free : Comment.Free ("function ".toList ++ name ++ '(' :: (listText list ++ ") \x7b".toList)) := by
    have list_free : Comment.Free (listText list ++ ") \x7b".toList) :=
      free.append (Comment.free_of_no_slash (by decide)) (.inr (by decide))
    have head_free : Comment.Free ("function ".toList ++ name ++ ['(']) :=
      Comment.free_of_no_slash (by simpa using no_mark '/' (by simp))
    rw [List.append_cons]
    exact head_free.append list_free (.inl (by rw [List.getLast?_concat]; decide))
  have code_read : (grammar windows).declarationText doc line =
      .ok ("function ".toList ++ name ++ '(' :: (listText list ++ ") \x7b".toList)) :=
    Grammar.declarationText_eq_ok_iff.mpr
      ⟨_, read, code_join (List.forall_mem_singleton.mpr whole_free) opens (by decide)⟩
  have closes : (grammar windows).signatureEnd.matchesIn
      ("function ".toList ++ name ++ '(' :: (listText list ++ ')' :: " \x7b".toList)) = true :=
    signatureEnd_iff.mpr ⟨"function ".toList ++ name ++ '(' :: listText list, " \x7b".toList, by simp,
      .inr ⟨['\x7b'], by decide, by decide⟩⟩
  have found : parameters (grammar windows) doc line .function = .ok (list.flatMap Parameter.names) := by
    rw [parameters_of_reassembled (.inl rfl) code_read (bareParameter?_eq_none opens)
      (Grammar.reassemble_of_line code_read (by simp) closes wide)]
    exact congrArg Except.ok ((names_of_list (no_mark '(' (by simp)) (balanced_listText wellFormed) _).trans
      (namesIn_listText wellFormed no_feed))
  refine ⟨found, fun single => ?_⟩
  have names_eq (parameter : Parameter) (known : parameter ∈ list) : parameter.names = [parameter.name] := by
    have none_behind : parameter.parts.tail = [] := by
      have short := single parameter known
      exact List.eq_nil_of_length_eq_zero (by rw [List.length_tail]; omega)
    simp [Parameter.names, none_behind]
  rw [found, List.flatMap_congr names_eq, ← List.map_eq_flatMap]

-- Types with commas in brackets of all kinds on one line, a call and an array as default values on the other.
theorem parameters_of_function_with_types :
    let doc : Document :=
      ⟨["function load(m: Map<Id, Array<T>>, done: (e, ids: Id[]) => Map<Id, Map<T, (t: T) => void>>) \x7b".toList,
        "function f(size = max(1, 2), a = [1, x], b) \x7b".toList]⟩
    parameters (grammar {}) doc (0 : Nat) .function = .ok ["m".toList, "done".toList] ∧
      parameters (grammar {}) doc (1 : Nat) .function = .ok ["size".toList, "a".toList, "x".toList, "b".toList] := by
  intro doc
  let array : Text := "Array".toList ++ '<' :: ("T".toList ++ ['>'])
  let map : Text := "Map".toList ++ '<' :: ("Id".toList ++ ',' :: ' ' :: array ++ ['>'])
  let listener : Text := functionHead [(['t'], some " T".toList)] [' '] ++ "=>".toList ++ " void".toList
  let listeners : Text := "Map".toList ++ '<' :: ("T".toList ++ ',' :: ' ' :: listener ++ ['>'])
  let callback : Text :=
    functionHead [(['e'], none), (" ids".toList, some (' ' :: ("Id".toList ++ "[]".toList)))] [' '] ++ "=>".toList ++
      ' ' :: ("Map".toList ++ '<' :: ("Id".toList ++ ',' :: ' ' :: listeners ++ ['>']))
  have map_type : TypeText false .one 0 map 0 :=
    .pair (by decide) (.generic (.of_isName (by decide)) (.argument (.of_isName (by decide))))
  -- Two angle brackets wait in front of the arrow, and the first of the two closers behind it closes the outer one.
  have listener_type : TypeText false .one 2 listener 1 := by
    have word {enclosed : Bool} {waiting : Nat} {text : Text} (named : TypeText.isName text = true) :
        TypeText enclosed .one waiting (' ' :: text) waiting := (TypeText.of_isName named).cons_blank
    refine .function (by decide) ?_ rfl (word (by decide))
    simpa using word (by decide)
  have callback_type : TypeText false .one 0 callback 0 := by
    have ids_type : TypeText true .one 0 (' ' :: ("Id".toList ++ "[]".toList)) 0 :=
      (TypeText.of_isName (by decide)).array.cons_blank
    refine .function (by decide) ?_ rfl (TypeText.pair (by decide) (.pair (by decide) listener_type)).cons_blank
    simpa using ids_type
  let typed (before name type : Text) : Parameter := ⟨before, name, [], some (' ' :: type), []⟩
  have typed_formed {before name type : Text} (head : before.blank = true ∧ IsName name)
      (known : TypeText false .one 0 type 0) : (typed before name type).WellFormed :=
    ⟨head.2, head.1, rfl, by simpa [typed] using known.cons_blank, by simp [typed], balanced_nil⟩
  let call : Text := " max".toList ++ '(' :: ("1, 2".toList ++ [')'])
  have call_settled : Settled nesting none false call := by
    have arguments : Settled nesting (some '(') true "1, 2".toList := .plains "1, 2".toList (by decide) (by decide) .nil
    exact .plains " max".toList (by decide) (by decide) (.group (by decide : ('(', ')') ∈ nesting) arguments .nil)
  have array_settled : ∀ part ∈ [" [1".toList, " x]".toList], Settled nesting none false part := by
    have plain : ∀ part ∈ [" [1".toList, " x]".toList], ∀ c ∈ part, inert c = true := by decide
    exact fun part member => settled_of_inert (plain part member)
  let sized : List Parameter := [⟨[], "size".toList, [' '], none, [call]⟩,
    ⟨[' '], "a".toList, [' '], none, [" [1".toList, " x]".toList]⟩, ⟨[' '], "b".toList, [], none, []⟩]
  have sized_formed : ∀ parameter ∈ sized, parameter.WellFormed := by
    simp only [sized, List.forall_mem_cons, List.not_mem_nil, false_implies, implies_true, and_true]
    exact ⟨⟨by decide, by decide, by decide, by simp, by simpa using call_settled, by decide +kernel⟩,
      ⟨by decide, by decide, by decide, by simp, array_settled, by decide +kernel⟩,
      ⟨by decide, by decide, by decide, by simp, by simp, balanced_nil⟩⟩
  have types_read := parameters_of_function {} (by decide) doc 0 "load".toList
    [typed [] "m".toList map, typed [' '] "done".toList callback] (by decide) (by decide)
    (by simpa using ⟨typed_formed (by decide) map_type, typed_formed (by decide) callback_type⟩)
    (Comment.free_of_no_slash (by decide)) rfl
  have values_read := parameters_of_function {} (by decide) doc 1 "f".toList sized (by decide) (by decide) sized_formed
    (Comment.free_of_no_slash (by decide)) rfl
  exact ⟨types_read.2 (by simp [typed]), values_read.1⟩

/-- A comma in an array or an object parts a default value, and what opens a comment in a regular expression cuts the
list off. The arrow of a function type closes the angle bracket in front of it, so that a comma behind it parts the
type; a less-than sign in a default value keeps the commas behind it from parting anything. -/
theorem comma_in_default_value :
    let doc : Document := ⟨["function f(a = [1, 2]) \x7b".toList, "function f(a = \x7bx: 1, y: 2\x7d) \x7b".toList,
      "function f(a = /\\//, b) \x7b".toList, "function f(m: Map<(e: E) => void, H>, b) \x7b".toList,
      "function f(a = i < n, b) \x7b".toList, "function f(a = new Map<(e) => E, H>(), b) \x7b".toList]⟩
    parameters (grammar {}) doc 0 .function = .ok ["a".toList, "2".toList] ∧
      parameters (grammar {}) doc 1 .function = .ok ["a".toList, "y".toList] ∧
      parameters (grammar {}) doc 2 .function = .ok [] ∧
      parameters (grammar {}) doc 3 .function = .ok ["m".toList, "H".toList, "b".toList] ∧
      parameters (grammar {}) doc 4 .function = .ok ["a".toList] ∧
      parameters (grammar {}) doc 5 .function = .ok ["a".toList, "H".toList, "b".toList] := by
  decide +kernel

end JavaScript

end Docblock
