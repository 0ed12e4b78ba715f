import Docblock.Proofs.Rewording
import Docblock.Proofs.SignatureLines

/-! Values of enums. A line counts as one inside an enum if the nearest header above it is that of an enum, so that no
brace ends an enum but only the header of a class or an interface, or the window. What follows a finished enum and
looks like one of its values is so taken for one. -/

set_option autoImplicit false

namespace Docblock.Apex

open Pattern

variable {windows : Windows} {doc : Document} {line : Int}

/-! ## Where values of enums are seen -/

def enumValueRest : List Pattern :=
  [one (fun c => c.isUpper || c.isDigit || c == '_'), many (fun c => c.isUpper || c.isDigit || c == '_'), blanks,
    optional (char '=' ++ some1 (· != '\n') ++ blanks), optional (char ',' ++ blanks), stop]

theorem enumValueLine_flat : enumValueLine.flat = start :: blanks :: enumValueRest := rfl

theorem kindAt_enumValue_iff : (grammar windows).kindAt doc line = .ok (some .enumValue) ↔
    ∃ text, (grammar windows).declarationText doc line = .ok text ∧ enumValueLine.matchesIn text = true ∧
      insideEnum windows doc line = .ok true := by
  constructor
  · intro declared
    obtain ⟨text, read, rule, member, value, fired⟩ := Grammar.exists_firing_rule declared
    have member : rule ∈ rules windows := member
    simp only [rules, List.mem_cons, List.not_mem_nil, or_false] at member
    rcases member with rfl | rfl | rfl | rfl | rfl
    · unfold Rule.fires at fired
      split at fired
      · next matched => exact ⟨text, read, matched, fired⟩
      · simp at fired
    all_goals simp at value
  · rintro ⟨text, read, matched, inside⟩
    obtain ⟨whole, line_read, rfl⟩ := Grammar.declarationText_eq_ok_iff.mp read
    have refused : (blankChars.all fun c => !(row enumValueRest).firsts c) = true := by decide
    have no_blank (c : Char) (blank : isBlank c = true) : (row enumValueRest).firsts c = false := by
      simpa using List.all_eq_true.mp refused c (mem_blankChars blank)
    obtain ⟨c, opens, -⟩ := opening?_of_matchesIn enumValueLine_flat rfl no_blank matched
    refine Grammar.kindAt_eq_some_iff.mpr ⟨whole, line_read, Text.blank_eq_false_of_opening? opens, ?_⟩
    refine bind_eq_ok_iff.mpr ⟨true, ?_, rfl⟩
    exact (if_pos matched).trans inside

/-- What a line says about the enum around the lines below it. -/
def headerAt? (doc : Document) (number : Nat) : Option Bool := doc.lines[number]?.bind header?

theorem headerAt_read {number : Nat} (within : number < doc.count) : (do
    let text := Comment.stripLine (← doc.line number)
    return if classOrInterface.matchesIn text then some false
      else if enumHeader.matchesIn text then some true else none) = .ok (headerAt? doc number) := by
  have stands : doc.lines[number]? = some doc.lines[number] := List.getElem?_eq_getElem within
  rw [Document.line_of_getElem? stands, headerAt?, stands]
  rfl

/-- A line stands inside an enum exactly if the header of an enum stands at it or above, in the window, and no header of
a class or an interface between. -/
theorem insideEnum_iff {number : Nat} (within : number < doc.count) : insideEnum windows doc number = .ok true ↔
    ∃ i ≤ number, (number : Int) - windows.enumBlock ≤ i ∧ headerAt? doc i = some true ∧
      ∀ k, i < k → k ≤ number → headerAt? doc k ≠ some false := by
  constructor
  · intro inside
    obtain ⟨nearest, found, nearest_true⟩ := bind_eq_ok_iff.mp inside
    obtain rfl : nearest = some true := by
      cases nearest with
      | none => simp at nearest_true
      | some verdict => simpa using nearest_true
    obtain ⟨i, above, to_line, hit, silent⟩ := scanUp_eq_some_iff.mp found
    obtain ⟨i, rfl⟩ := Int.eq_ofNat_of_zero_le (by omega : 0 ≤ i)
    refine ⟨i, by omega, by omega, ?_, fun k below to_line => ?_⟩
    · exact Except.ok.inj ((headerAt_read (by omega)).symm.trans hit)
    · have untold := Except.ok.inj ((headerAt_read (by omega)).symm.trans (silent k (by omega) (by omega)))
      simp [untold]
  · rintro ⟨i, to_line, in_window, header, passed⟩
    refine bind_eq_ok_iff.mpr ⟨some true, ?_, rfl⟩
    have hit := (headerAt_read (show i < doc.count by omega)).trans (congrArg Except.ok header)
    refine scanUp_of_passed (by omega) (by omega) hit fun j below to_line => ?_
    obtain ⟨j, rfl⟩ := Int.eq_ofNat_of_zero_le (by omega : 0 ≤ j)
    have unfalse := passed j (by omega) (by omega)
    rw [headerAt_read (by omega)]
    cases told : headerAt? doc j with
    | none => exact .inl rfl
    | some verdict =>
      cases verdict with
      | true => exact .inr rfl
      | false => exact absurd told unfalse

/-! ## What follows an enum -/

/-- Between two lines stands the header of an enum that is in the window of a line, with no header of a class or an
interface behind it. -/
def EnumReaches (windows : Windows) (doc : Document) (first last line : Nat) : Prop :=
  ∃ i, first ≤ i ∧ i ≤ last ∧ (line : Int) - windows.enumBlock ≤ i ∧ headerAt? doc i = some true ∧
    ∀ k, i < k → k ≤ last → headerAt? doc k ≠ some false

theorem insideEnum_iff_reaches {first last number : Nat} (ordered : first ≤ last) (below : last < number)
    (within : number < doc.count) (header : headerAt? doc first = some true)
    (silent : ∀ k, last < k → k ≤ number → headerAt? doc k = none) :
    insideEnum windows doc number = .ok true ↔ EnumReaches windows doc first last number := by
  rw [insideEnum_iff within]
  constructor
  · rintro ⟨i, to_line, in_window, header_here, passed⟩
    have to_last : i ≤ last := by
      by_contra further
      simp [silent i (by omega) to_line] at header_here
    by_cases from_first : first ≤ i
    · exact ⟨i, from_first, to_last, in_window, header_here, fun k below to_last => passed k below (by omega)⟩
    · -- From a header further up the walk would have passed over the first line.
      exact ⟨first, le_refl first, ordered, by omega, header, fun k below to_last => passed k (by omega) (by omega)⟩
  · rintro ⟨i, -, to_last, in_window, header_here, passed⟩
    refine ⟨i, by omega, in_window, header_here, fun k below to_line => ?_⟩
    by_cases inside : k ≤ last
    · exact passed k below inside
    · simp [silent k (by omega) to_line]

/-- Below the header of an enum, with no header on the lines between, a line counts as one inside the enum as long as
the window reaches up to the header and no class or interface starts behind it, whether the braces of the enum are
closed or not; and it is taken for a value of the enum if it looks like one. -/
theorem kindAt_below_enum (windows : Windows) (doc : Document) (first last number : Nat) (ordered : first ≤ last)
    (below : last < number) (within : number < doc.count) (header : headerAt? doc first = some true)
    (silent : ∀ k, last < k → k ≤ number → headerAt? doc k = none) :
    (EnumReaches windows doc first last number → insideEnum windows doc number = .ok true) ∧
    (¬ EnumReaches windows doc first last number → insideEnum windows doc number = .ok false) ∧
    ((grammar windows).kindAt doc number = .ok (some .enumValue) ↔
      EnumReaches windows doc first last number ∧
        ∃ text, (grammar windows).declarationText doc number = .ok text ∧ enumValueLine.matchesIn text = true) := by
  have reaches_iff : insideEnum windows doc number = .ok true ↔ EnumReaches windows doc first last number :=
    insideEnum_iff_reaches ordered below within header silent
  refine ⟨reaches_iff.mpr, fun apart => ?_, ?_⟩
  · obtain ⟨inside, found⟩ : ∃ inside, insideEnum windows doc number = .ok inside := insideEnum_ok (by omega)
    cases inside with
    | false => exact found
    | true => exact absurd (reaches_iff.mp found) apart
  · rw [kindAt_enumValue_iff, reaches_iff]
    constructor
    · rintro ⟨text, read, matched, reaches⟩
      exact ⟨reaches, text, read, matched⟩
    · rintro ⟨reaches, text, read, matched⟩
      exact ⟨text, read, matched, reaches⟩

def counting : Document :=
  ⟨["public class Foo \x7b".toList, "    enum Color \x7b RED, GREEN \x7d".toList, "    void run() \x7b".toList,
    "        COUNT = 1;".toList, "    \x7d".toList, "\x7d".toList]⟩

-- The enum is closed on its first line, and yet reaches the assignment in a method below, unless the window is small.
theorem kindAt_below_enum_of_assignment :
    (grammar {}).kindAt counting (3 : Nat) = .ok (some .enumValue) ∧
      insideEnum { enumBlock := 1 } counting (3 : Nat) = .ok false := by
  have silent : ∀ k, 1 < k → k ≤ 3 → headerAt? counting k = none := by
    intro k below to_line
    exact (by decide : ∀ k < 4, 1 < k → headerAt? counting k = none) k (by omega) below
  have header : headerAt? counting 1 = some true := by decide
  obtain ⟨-, -, value_iff⟩ := kindAt_below_enum {} counting 1 1 3 (by decide) (by decide) (by decide) header silent
  obtain ⟨-, outside, -⟩ :=
    kindAt_below_enum { enumBlock := 1 } counting 1 1 3 (by decide) (by decide) (by decide) header silent
  constructor
  · refine value_iff.mpr ⟨⟨1, by decide, by decide, by decide, header, by omega⟩, "        COUNT = 1;".toList, ?_⟩
    decide
  · refine outside ?_
    rintro ⟨i, -, to_last, in_window, -, -⟩
    have in_window : (3 : Int) - 1 ≤ i := in_window
    omega

def codeOf (doc : Document) (first last : Nat) : Text :=
  (doc.excerpt first (last + 1 - first)).flatMap Comment.stripLine

/-- An enum whose braces open on the line of its header and are all closed on the last line, and on none before. -/
structure Finished (doc : Document) (first last : Nat) : Prop where
  ordered : first ≤ last
  header : headerAt? doc first = some true
  opens : '\x7b' ∈ codeOf doc first first
  stays : ∀ i < last, first ≤ i → (codeOf doc first i).count '\x7d' < (codeOf doc first i).count '\x7b'
  guarded : ∀ front ∈ (codeOf doc first last).inits, front.count '\x7d' ≤ front.count '\x7b'
  closes : (codeOf doc first last).count '\x7b' = (codeOf doc first last).count '\x7d'

def headerWord : Pattern := edge ++ oneOf [word "class", word "interface", word "enum"] ++ edge

/-- An assignment to a constant far behind a finished enum is taken for one of its values. -/
theorem finished_enum_reaches :
    ¬ ∀ (windows : Windows) (doc : Document) (first last line : Nat), Finished doc first last → last < line →
      line < doc.count →
      (∀ k ≤ line, last < k → ∀ text, doc.lines[k]? = some text →
        headerWord.matchesIn (Comment.stripLine text) = false) →
      (∀ i, headerAt? doc i = some true → i = first) →
        insideEnum windows doc line = .ok false ∧ (grammar windows).kindAt doc line ≠ .ok (some .enumValue) := by
  intro claimed
  have finished : Finished counting 1 1 :=
    ⟨by decide, by decide, by decide, by decide, by decide, by decide⟩
  have wordless : ∀ k ≤ 3, 1 < k → ∀ text ∈ counting.lines[k]?,
      headerWord.matchesIn (Comment.stripLine text) = false := by
    decide
  have alone : ∀ i, headerAt? counting i = some true → i = 1 := by
    intro i header
    have inside : i < 6 := by
      by_contra outside
      have no_line : counting.lines[i]? = none :=
        List.getElem?_eq_none (show counting.lines.length ≤ i from Nat.not_lt.mp outside)
      simp [headerAt?, no_line] at header
    exact (by decide : ∀ i < 6, headerAt? counting i = some true → i = 1) i inside header
  have outside := (claimed {} counting 1 1 3 finished (by decide) (by decide) wordless alone).1
  exact absurd outside (by decide)

end Docblock.Apex
