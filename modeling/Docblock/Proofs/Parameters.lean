import Docblock.Grammar.Apex
import Docblock.Proofs.Brackets
import Docblock.Proofs.Signatures

/-! Parameters of Apex methods. A signature is put together from its lines up to the one that closes it,
and however it is spread over them, the last words between its commas are the parameters. -/

set_option autoImplicit false

namespace Docblock

namespace Signature

/-! ## Names -/

/-- A segment of an Apex parameter list: its last word is a name. -/
structure Segment (text : Text) : Prop where
  paren_free : ParenFree text
  nested : Nested [('<', '>'), ('[', ']'), ('\x7b', '\x7d')] false text
  named : text.lastWord ≠ []
  chars : (text.lastWord.all fun c => c.isAlphanum || c == '_') = true

-- Brackets that are nested without a kind that does not occur are nested with it.
theorem Nested.mono {nesting others : List (Char × Char)} {commas : Bool} {text : Text}
    (nested : Nested nesting commas text) (more : nesting ⊆ others)
    (absent : ∀ c ∈ text, ∀ pair ∈ others, pair ∉ nesting → pair.1 ≠ c ∧ pair.2 ≠ c) :
    Nested others commas text := by
  induction nested with
  | nil => exact .nil
  | @plain commas c rest other comma _ ih =>
    refine .plain (fun pair member => ?_) comma
      (ih fun d within => absent d (List.mem_cons_of_mem c within))
    by_cases known : pair ∈ nesting
    · exact other pair known
    · exact absent c List.mem_cons_self pair member known
  | @group commas pair inner rest member _ _ ih_inner ih_rest =>
    refine .group (more member) (ih_inner fun d within => absent d ?_) (ih_rest fun d within => absent d ?_)
    · simp [within]
    · simp [within]

theorem Nested.plains {nesting : List (Char × Char)} {commas : Bool} (front : Text) {rest : Text}
    (others : (front.all fun c => nesting.all (fun pair => pair.1 != c && pair.2 != c) &&
      (c != ',' || commas)) = true)
    (nested : Nested nesting commas rest) : Nested nesting commas (front ++ rest) := by
  induction front with
  | nil => exact nested
  | cons c more ih =>
    rw [List.all_cons, Bool.and_eq_true, Bool.and_eq_true] at others
    obtain ⟨⟨other, comma⟩, below⟩ := others
    exact .plain (by simpa using other) (by simpa [or_iff_not_imp_left] using comma) (ih below)

end Signature

namespace Apex
open Signature

variable {windows : Windows}

theorem nesting_eq :
    (grammar windows).nesting = ('(', ')') :: [('<', '>'), ('[', ']'), ('\x7b', '\x7d')] :=
  rfl

theorem distinct_nesting : Distinct (grammar windows).nesting := by
  rw [nesting_eq]
  decide

theorem segment_nested {text : Text} (segment : Segment text) :
    Nested (grammar windows).nesting false text := by
  rw [nesting_eq]
  apply segment.nested.mono (List.subset_cons_self _ _)
  intro c within pair member unknown
  obtain rfl : pair = ('(', ')') := (List.mem_cons.mp member).resolve_right unknown
  obtain ⟨no_open, no_close⟩ := segment.paren_free c within
  exact ⟨no_open.symm, no_close.symm⟩

theorem parameterName_trim {text : Text} (segment : Segment text) :
    parameterName text.trim = text.lastWord := by
  unfold parameterName
  rw [Text.lastWord_trim, List.filter_eq_self]
  exact List.all_eq_true.mp segment.chars

section
variable {segments : List Text} (each : ∀ text ∈ segments, Segment text)
include each

theorem paren_free_join : ParenFree (Text.join [','] segments) := by
  intro c within
  by_cases comma : c ∈ [',']
  · rw [List.mem_singleton.mp comma]
    decide
  · obtain ⟨segment, member, inside⟩ := (Text.mem_join_iff comma).mp within
    exact (each segment member).paren_free c inside

theorem split_join :
    split (grammar windows).nesting (Text.join [','] segments) = segments.map Text.trim := by
  have carried (text : Text) (member : text ∈ segments) : Carries (grammar windows).nesting [] text [] :=
    (segment_nested (each text member)).carries distinct_nesting
  rw [Signature.split_join distinct_nesting carried, List.filter_eq_self]
  intro trimmed member
  obtain ⟨text, text_member, rfl⟩ := List.mem_map.mp member
  have named := (each text text_member).named
  rw [← Text.lastWord_trim] at named
  cases cut : text.trim with
  | nil => exact absurd (by rw [cut]; rfl) named
  | cons c rest => rfl

theorem names_eq {head : Text} (head_free : ParenFree head) (tail : Text) :
    Signature.names (grammar windows) (head ++ '(' :: (Text.join [','] segments ++ ')' :: tail)) =
      segments.map Text.lastWord := by
  have named : (segments.map Text.trim).map parameterName = segments.map Text.lastWord := by
    rw [List.map_map]
    exact List.map_congr_left fun text member => parameterName_trim (each text member)
  have filled : (segments.map Text.lastWord).filter (fun name => !name.isEmpty) =
      segments.map Text.lastWord := by
    rw [List.filter_eq_self]
    intro name member
    obtain ⟨text, text_member, rfl⟩ := List.mem_map.mp member
    simpa using (each text text_member).named
  have no_paren : '(' ∉ head := fun within => (head_free _ within).1 rfl
  rw [Signature.names, parameterList?_eq no_paren (paren_free_join each).balanced]
  simp only [split_join each]
  exact (congrArg _ named).trans filled

end

/-! ## Lines -/

open Pattern in
theorem signatureEnd_matches {before tail : Text}
    (follows : ∀ c, tail.opening? = some c → c = '\x7b' ∨ c = ';') :
    (grammar windows).signatureEnd.matchesIn (before ++ ')' :: tail) = true := by
  apply matchesIn_closer before
  intro passed
  cases cut : tail.trimLeft with
  | nil => exact ⟨_, .inr ⟨rfl, rfl⟩⟩
  | cons c rest =>
    have opens : tail.opening? = some c := by rw [Text.opening?, cut]; rfl
    exact ⟨_, .inl ⟨c, rest, rfl, by simpa using follows c opens, rfl⟩⟩

open Pattern in
theorem mem_of_signatureEnd_matches {text : Text}
    (matched : (grammar windows).signatureEnd.matchesIn text = true) : ')' ∈ text := by
  obtain ⟨first, last, reached, matched⟩ := matchesIn_iff.mp matched
  obtain ⟨_, ⟨_, ⟨c, rest, ahead, accepted, _⟩, _⟩, _⟩ := matched
  obtain rfl : c = ')' := by simpa using accepted
  exact reached.suffix.subset (by simp [ahead])

theorem signatureStart_eq {doc : Document} {line : Int} {text : Text}
    (read : (grammar windows).declarationText doc line = .ok text)
    (declares : methodLine.matchesIn text = true) (window : 0 ≤ windows.signature) :
    signatureStart windows doc line .method = .ok (some line) :=
  nearestLike_of_matches read declares window

def codeBetween (windows : Windows) (doc : Document) (first last : Nat) : List Text :=
  ((doc.lines.drop first).take (last + 1 - first)).map (grammar windows).code

theorem codeBetween_eq (doc : Document) (first last : Nat) :
    codeBetween windows doc first last = (grammar windows).codeBetween doc first last :=
  rfl

-- Lines in front of the one that closes a parameter list do not close it.
theorem going_on_of_joined {rows : List Text} {before head list tail : Text}
    (joined : Text.join [' '] (rows ++ [before ++ ')' :: tail]) = head ++ '(' :: (list ++ ')' :: tail))
    (head_free : ParenFree head) (list_free : ParenFree list) :
    ∀ row ∈ rows, (grammar windows).signatureEnd.matchesIn row = false := by
  intro row member
  have some_row : rows ≠ [] := List.ne_nil_of_mem member
  rw [Text.join_append some_row (List.cons_ne_nil _ []), Text.join_singleton] at joined
  -- A closing line would have its parenthesis in front of the last one of the joined text.
  have same : (Text.join [' '] rows ++ [' '] ++ before) ++ ')' :: tail = (head ++ '(' :: list) ++ ')' :: tail := by
    simpa only [List.append_assoc, List.cons_append] using joined
  have front_eq := List.append_cancel_right same
  rw [← Bool.not_eq_true]
  intro matched
  have in_rows : ')' ∈ Text.join [' '] rows :=
    (Text.mem_join_iff (by simp)).mpr ⟨row, member, mem_of_signatureEnd_matches matched⟩
  have inside : ')' ∈ head ++ '(' :: list := by
    rw [← front_eq]
    exact List.mem_append_left before (List.mem_append_left [' '] in_rows)
  simp only [List.mem_append, List.mem_cons] at inside
  rcases inside with in_head | opener | in_list
  · exact absurd rfl (head_free ')' in_head).2
  · simp at opener
  · exact absurd rfl (list_free ')' in_list).2

/-- The parameters of a method are the last words of the segments between the commas of its list, on
however many lines inside the window it is written. -/
theorem parameters_of_method (windows : Windows) (doc : Document) (first last : Nat)
    (segments : List Text) (head before tail : Text)
    (ordered : first ≤ last) (within : last < doc.count) (reach : (last : Int) - first ≤ windows.signature)
    (declares : ∃ text, (codeBetween windows doc first last).head? = some text ∧
      methodLine.matchesIn text = true)
    (joined : Text.join [' '] (codeBetween windows doc first last) =
      head ++ '(' :: (Text.join [','] segments ++ ')' :: tail))
    (closing : (codeBetween windows doc first last).getLast? = some (before ++ ')' :: tail))
    (follows : ∀ c, tail.opening? = some c → c = '\x7b' ∨ c = ';')
    (head_free : ParenFree head) (each : ∀ segment ∈ segments, Segment segment) :
    parameters (grammar windows) doc first .method = .ok (segments.map Text.lastWord) := by
  rw [codeBetween_eq] at declares joined closing
  obtain ⟨rows, split_rows⟩ := List.getLast?_eq_some_iff.mp closing
  obtain ⟨text, text_first, matched⟩ := declares
  have text_read : (grammar windows).declarationText doc first = .ok text := by
    rw [List.head?_eq_getElem?] at text_first
    simpa using Grammar.declarationText_of_codeBetween text_first
  have opens : ∃ row ∈ rows ++ [before ++ ')' :: tail], '(' ∈ row := by
    rw [← split_rows, ← Text.mem_join_iff (by simp : '(' ∉ [' ']), joined]
    simp
  rw [split_rows] at joined
  -- No line in front of the last closes the list, so all of them are collected.
  have going_on : ∀ row ∈ rows, (grammar windows).signatureEnd.matchesIn row = false :=
    going_on_of_joined joined head_free (paren_free_join each)
  have collected : through? (grammar windows).signatureEnd.matchesIn false
      ((grammar windows).codeBetween doc first last) = some (rows ++ [before ++ ')' :: tail]) := by
    rw [split_rows]
    exact through?_whole (fun upper row lower cut _ => going_on row (by simp [cut]))
      (signatureEnd_matches follows) (.inr opens)
  have reassembled := Grammar.reassemble_of_codeBetween within ordered reach collected
  rw [joined] at reassembled
  unfold parameters
  rw [if_neg (by simp [grammar]; omega)]
  refine bind_eq_ok_iff.mpr ⟨some (first : Int), signatureStart_eq text_read matched (by omega), ?_⟩
  refine bind_eq_ok_iff.mpr ⟨text, text_read, ?_⟩
  refine bind_eq_ok_iff.mpr ⟨_, reassembled, ?_⟩
  rw [pure_eq_ok_iff, Option.map_some, Option.getD_some]
  exact names_eq each head_free tail

-- Two parameters on lines of their own, with comments behind them and a comma between brackets.
theorem parameters_of_method_on_four_lines :
    let doc : Document := ⟨["@AuraEnabled public static void load( // by name".toList,
      "  Map<Id, String[]> names, // all of them".toList, "  final Id top_1".toList,
      ") \x7b run(names); \x7d".toList]⟩
    parameters (grammar {}) doc (0 : Nat) .method = .ok ["names".toList, "top_1".toList] := by
  intro doc
  have map_nested : Nested [('<', '>'), ('[', ']'), ('\x7b', '\x7d')] false
      "    Map<Id, String[]> names".toList :=
    .plains "    Map".toList (by decide) <| .group (by decide : ('<', '>') ∈ _)
      (.plains "Id, String".toList (by decide) <| .group (by decide : ('[', ']') ∈ _) .nil .nil)
      (.plains " names".toList (by decide) .nil)
  have id_nested : Nested [('<', '>'), ('[', ']'), ('\x7b', '\x7d')] false
      "    final Id top_1 ".toList :=
    .plains "    final Id top_1 ".toList (by decide) .nil
  have each : ∀ segment ∈ ["    Map<Id, String[]> names".toList, "    final Id top_1 ".toList],
      Segment segment := by
    intro segment member
    simp only [List.mem_cons, List.not_mem_nil, or_false] at member
    rcases member with rfl | rfl
    · exact ⟨by decide, map_nested, by decide, by decide⟩
    · exact ⟨by decide, id_nested, by decide, by decide⟩
  have body_opens : Text.opening? " \x7b run(names); \x7d".toList = some '\x7b' := by decide
  have read := parameters_of_method {} doc 0 3
    ["    Map<Id, String[]> names".toList, "    final Id top_1 ".toList] "public static void load".toList []
    " \x7b run(names); \x7d".toList (by decide) (by decide) (by decide)
    ⟨"public static void load( ".toList, by decide +kernel, by decide +kernel⟩ (by decide +kernel)
    (by decide +kernel) (fun c opens => .inl (Option.some.inj (opens.symm.trans body_opens))) (by decide) each
  rw [read]
  decide

end Apex

end Docblock
