import Docblock.Proofs.Bounds
import Docblock.Proofs.Resemblance
import Docblock.Proofs.SamePlaces
import Docblock.Proofs.SideBySide

/-! Apex in other letter case. All rules but the one for enum values ignore case, and that one fires inside enums
only. What a document without enums declares so stays the same in whichever case its letters are, and the names of
parameters are taken from the same places. -/

set_option autoImplicit false

namespace Docblock

namespace Document

def fold (doc : Document) : Document := ⟨doc.lines.map Text.fold⟩

@[simp] theorem count_fold (doc : Document) : doc.fold.count = doc.count := List.length_map _

theorem line_fold (doc : Document) (number : Int) : doc.fold.line number = (doc.line number).map Text.fold := by
  unfold line
  rw [count_fold]
  split
  · rfl
  · rw [fold, List.getElem?_map]
    cases doc.lines[number.toNat]? <;> rfl

end Document

namespace Apex
open Pattern

/-! ## Case and the shapes of lines -/

theorem caseBlind_stripLine : CaseBlind Comment.stripLine :=
  .cutAt (by simp)

theorem caseBlind_code (windows : Windows) : CaseBlind (grammar windows).code :=
  (AnnotationName.caseBlind_strip caseless_isWord caseless_isWord).comp caseBlind_stripLine

theorem ignoresCase_methodLine : methodLine.ignoresCase = true := by decide

theorem ignoresCase_constructorLine (className : Text) : (constructorLine className).ignoresCase = true := by
  have modifiers : (start ++ blanks ++ optional (visibility ++ blanks)).ignoresCase = true := by decide
  have call : (blanks ++ char '(').ignoresCase = true := by decide
  obtain ⟨blanks_ignore, paren_ignores⟩ := Bool.and_eq_true_iff.mp call
  exact Bool.and_eq_true_iff.mpr ⟨Bool.and_eq_true_iff.mpr ⟨Bool.and_eq_true_iff.mpr
    ⟨modifiers, ignoresCase_anyCase className⟩, blanks_ignore⟩, paren_ignores⟩

theorem constructorLine_fold (className : Text) : constructorLine className.fold = constructorLine className := by
  simp only [constructorLine, anyCase_fold]

theorem className?_fold (text : Text) : className? text.fold = (className? text).map Text.fold :=
  capture_fold (by decide) (by decide) (by decide) text

variable {windows : Windows} {doc : Document} {line : Int}

theorem enclosingName?_fold (windows : Windows) (doc : Document) (line : Int) :
    enclosingName? windows doc.fold line = (enclosingName? windows doc line).map (Option.map Text.fold) := by
  unfold enclosingName? enclosingClass?
  rw [Document.count_fold]
  apply scanUp_map
  intro i _ _ _
  rw [Document.line_fold]
  cases doc.line i with
  | error error => rfl
  | ok text => exact congrArg Except.ok ((congrArg className? (caseBlind_stripLine.fold_eq text)).trans (className?_fold _))

theorem declarationText_fold (windows : Windows) (doc : Document) (line : Int) :
    (grammar windows).declarationText doc.fold line = ((grammar windows).declarationText doc line).map Text.fold := by
  unfold Grammar.declarationText
  rw [Document.line_fold]
  cases doc.line line with
  | error error => rfl
  | ok text => exact congrArg Except.ok ((caseBlind_code windows).fold_eq text)

/-! ## Documents without enums -/

/-- No line holds the header of an enum, comments apart. -/
def EnumFree (doc : Document) : Prop :=
  ∀ text ∈ doc.lines, enumHeader.matchesIn (Comment.stripLine text) = false

theorem enumFree_fold_iff : EnumFree doc.fold ↔ EnumFree doc := by
  have header (text : Text) :
      enumHeader.matchesIn (Comment.stripLine text.fold) = enumHeader.matchesIn (Comment.stripLine text) := by
    rw [caseBlind_stripLine.fold_eq, matchesIn_fold (by decide)]
  simp [EnumFree, Document.fold, header]

theorem EnumFree.insideEnum_eq (free : EnumFree doc) (below : line < doc.count) :
    insideEnum windows doc line = .ok false := by
  obtain ⟨inside, found⟩ : ∃ inside, insideEnum windows doc line = .ok inside := insideEnum_ok below
  cases inside with
  | false => exact found
  | true =>
    -- Only the header of an enum makes the walk come to this.
    obtain ⟨nearest, scanned, nearest_true⟩ := bind_eq_ok_iff.mp found
    obtain rfl : nearest = some true := by
      cases nearest with
      | none => simp at nearest_true
      | some verdict => simpa using nearest_true
    obtain ⟨i, _, _, hit, _⟩ := scanUp_eq_some_iff.mp scanned
    obtain ⟨text, read, verdict⟩ := bind_eq_ok_iff.mp hit
    have no_header := free text (Document.mem_of_line read)
    simp [no_header, pure_eq_ok_iff] at verdict

theorem EnumFree.fires_fold (free : EnumFree doc) (below : line < doc.count) {rule : Rule}
    (member : rule ∈ rules windows) (text : Text) :
    rule.fires doc.fold line text.fold = rule.fires doc line text := by
  have outside (doc : Document) (free : EnumFree doc) (below : line < doc.count) (accepted : Bool) :
      (if accepted = true then insideEnum windows doc line else .ok false) = .ok false := by
    split
    · exact free.insideEnum_eq below
    · rfl
  simp only [rules, List.mem_cons, List.not_mem_nil, or_false] at member
  rcases member with rfl | rfl | rfl | rfl | rfl
  · exact (outside doc.fold (enumFree_fold_iff.mpr free) (by simpa using below) _).trans (outside doc free below _).symm
  · simp only [Rule.fires, matchesIn_fold (show Pattern.empty.ignoresCase = true from rfl)]
    simp only [callsEnclosingClass, enclosingName?_fold]
    cases enclosingName? windows doc line with
    | error error => rfl
    | ok className? =>
      cases className? with
      | none => rfl
      | some className =>
        have called : (constructorLine className.fold).matchesIn text.fold = (constructorLine className).matchesIn text := by
          rw [constructorLine_fold, matchesIn_fold (ignoresCase_constructorLine className)]
        show (if _ then Except.ok ((constructorLine className.fold).matchesIn text.fold) else _) = _
        rw [called]
        rfl
  · simp only [Rule.fires, matchesIn_fold ignoresCase_methodLine]
  · simp only [Rule.fires, matchesIn_fold (show typeLine.ignoresCase = true by decide)]
  · simp only [Rule.fires, matchesIn_fold (show propertyLine.ignoresCase = true by decide)]

theorem EnumFree.firstKind?_fold (free : EnumFree doc) (below : line < doc.count) (text : Text) {some_rules : List Rule}
    (each : some_rules ⊆ rules windows) :
    Grammar.firstKind? doc.fold line text.fold some_rules = Grammar.firstKind? doc line text some_rules := by
  induction some_rules with
  | nil => rfl
  | cons rule rest ih =>
    obtain ⟨member, rest_each⟩ := List.cons_subset.mp each
    rw [Grammar.firstKind?, Grammar.firstKind?, free.fires_fold below member, ih rest_each]

theorem EnumFree.kindAt_fold (free : EnumFree doc) (windows : Windows) (line : Int) :
    (grammar windows).kindAt doc.fold line = (grammar windows).kindAt doc line := by
  unfold Grammar.kindAt
  rw [declarationText_fold]
  cases read : (grammar windows).declarationText doc line with
  | error error => rfl
  | ok text =>
    obtain ⟨whole, line_read, _⟩ := Grammar.declarationText_eq_ok_iff.mp read
    have below := (Document.line_within line_read).2
    show (if text.fold.blank = true then _ else Grammar.firstKind? doc.fold line text.fold (rules windows)) = _
    rw [Text.blank_fold, free.firstKind?_fold below text (List.Subset.refl _)]
    rfl

theorem EnumFree.alike (free : EnumFree doc) (windows : Windows) : (grammar windows).Alike doc.fold doc := by
  have seen {α : Type} {view : Text → α} (same : ∀ text, view (Text.fold text) = view text) (line : Int) :
      (doc.fold.line line).map view = (doc.line line).map view := by
    rw [Document.line_fold]
    cases doc.line line with
    | error error => rfl
    | ok text => exact congrArg Except.ok (same text)
  refine ⟨doc.count_fold, seen Text.blank_fold, seen fun text => ?_, funext (free.kindAt_fold windows)⟩
  have sign := caseless_beq (show '@'.isAlpha = false by decide)
  show ((Text.fold text).trim.head? == some '@') = (text.trim.head? == some '@')
  rw [CaseBlind.trim.fold_eq]
  cases text.trim with
  | nil => rfl
  | cons c rest => exact sign c

/-! ## Where signatures start -/

theorem nearestLike_fold {shape : Pattern} (ignores : shape.ignoresCase = true) (window : Int) (doc : Document) (line : Int) :
    nearestLike shape window doc.fold line = nearestLike shape window doc line := by
  have hit (i : Int) :
      (do return if shape.matchesIn (annotationName.strip (Comment.stripLine (← doc.fold.line i))) then some i else none :
        Except OutOfRange (Option Int)) =
      do return if shape.matchesIn (annotationName.strip (Comment.stripLine (← doc.line i))) then some i else none := by
    rw [Document.line_fold]
    cases doc.line i with
    | error error => rfl
    | ok text =>
      have code : annotationName.strip (Comment.stripLine text.fold) = (annotationName.strip (Comment.stripLine text)).fold :=
        (caseBlind_code {}).fold_eq text
      show Except.ok (if shape.matchesIn (annotationName.strip (Comment.stripLine text.fold)) = true then _ else _) = _
      rw [code, matchesIn_fold ignores]
      rfl
  simp only [nearestLike, hit, Document.count_fold]

theorem signatureStart_fold (windows : Windows) (doc : Document) (line : Int) (kind : Kind) :
    signatureStart windows doc.fold line kind = signatureStart windows doc line kind := by
  cases kind with
  | method => exact nearestLike_fold ignoresCase_methodLine windows.signature doc line
  | constructor =>
    simp only [signatureStart, enclosingName?_fold]
    cases enclosingName? windows doc line with
    | error error => rfl
    | ok className? =>
      cases className? with
      | none => rfl
      | some className =>
        show nearestLike (constructorLine className.fold) windows.signature doc.fold line = _
        rw [constructorLine_fold, nearestLike_fold (ignoresCase_constructorLine className)]
        rfl
  | _ => rfl

end Apex

/-! ## Documents that are read off places -/

def Document.spell {P : Type} (reading : P → Char) (lines : List (List P)) : Document :=
  ⟨lines.map (List.map reading)⟩

section
variable {P : Type} {base : P → Char}

theorem Document.spell_fold {reading : P → Char} (same : SameLetters reading base) (lines : List (List P)) :
    (spell reading lines).fold = (spell base lines).fold := by
  simp only [spell, fold, List.map_map]
  refine congrArg Document.mk (List.map_congr_left fun places _ => ?_)
  exact same.fold_eq places

/-- In whichever case the letters are, the steps come to one outcome, read off the same places. -/
def Steady {α β : Type} (base : P → Char) (view : (P → Char) → β → α) (steps : (P → Char) → Except OutOfRange α) :
    Prop :=
  ∃ kept : Except OutOfRange β, ∀ reading, SameLetters reading base → steps reading = kept.map (view reading)

namespace Steady
variable {α β γ δ : Type} {view : (P → Char) → β → α} {view_too : (P → Char) → δ → γ}
  {steps : (P → Char) → Except OutOfRange α} {next : (P → Char) → α → Except OutOfRange γ}

theorem of_eq (value : β) (same : ∀ reading, SameLetters reading base → steps reading = .ok (view reading value)) :
    Steady base view steps :=
  ⟨.ok value, same⟩

theorem bind (first : Steady base view steps)
    (goes_on : ∀ value, Steady base view_too fun reading => next reading (view reading value)) :
    Steady base view_too fun reading => steps reading >>= next reading := by
  obtain ⟨kept, kept_eq⟩ := first
  have start {reading : P → Char} (same : SameLetters reading base) :=
    congrArg (· >>= next reading) (kept_eq reading same)
  cases kept with
  | error error => exact ⟨.error error, fun _ same => start same⟩
  | ok value =>
    obtain ⟨later, later_eq⟩ := goes_on value
    exact ⟨later, fun reading same => (start same).trans (later_eq reading same)⟩

end Steady

theorem Document.count_spell (reading : P → Char) (lines : List (List P)) :
    (spell reading lines).count = lines.length :=
  List.length_map _

theorem Document.steady_line (base : P → Char) (lines : List (List P)) (number : Int) :
    Steady base List.map fun reading => (spell reading lines).line number := by
  unfold line
  simp only [count_spell]
  split
  · exact ⟨.error _, fun _ _ => rfl⟩
  · simp only [spell, List.getElem?_map]
    cases lines[number.toNat]? with
    | none => exact ⟨.error ⟨number, lines.length⟩, fun reading _ => by simp [Except.map]⟩
    | some places => exact ⟨.ok places, fun _ _ => rfl⟩

namespace Apex

theorem steady_declarationText (windows : Windows) (base : P → Char) (lines : List (List P)) (line : Int) :
    Steady base List.map fun reading => (grammar windows).declarationText (.spell reading lines) line := by
  refine (Document.steady_line base lines line).bind fun places => ?_
  obtain ⟨kept, code_eq⟩ := (caseBlind_code windows).keeps base places
  exact .of_eq kept fun reading same => congrArg Except.ok (code_eq reading same)

theorem steady_collect (windows : Windows) (base : P → Char) (lines : List (List P)) (count : Nat) (line : Int)
    (opened : Bool) :
    Steady base (fun reading => Option.map (List.map (List.map reading))) fun reading =>
      Signature.collect (grammar windows) (.spell reading lines) count line opened := by
  induction count generalizing line opened with
  | zero => exact .of_eq none fun _ _ => rfl
  | succ count ih =>
    refine (steady_declarationText windows base lines line).bind fun places => ?_
    have opens_eq {reading : P → Char} (same : SameLetters reading base) :
        (places.map reading).contains '(' = (places.map base).contains '(' := by
      have paren := same.comp (caseless_beq (show '('.isAlpha = false by decide))
      simp only [List.contains_eq_any_beq, Bool.beq_comm (a := '('), List.any_map, paren]
    have closes_eq {reading : P → Char} (same : SameLetters reading base) :
        (grammar windows).signatureEnd.matchesIn (places.map reading) =
          (grammar windows).signatureEnd.matchesIn (places.map base) :=
      same.matchesIn_eq (show ((grammar {}).signatureEnd).ignoresCase = true by decide) places
    by_cases closes : ((opened || (places.map base).contains '(') &&
        (grammar windows).signatureEnd.matchesIn (places.map base)) = true
    · refine .of_eq (some [places]) fun reading same => ?_
      simp only [opens_eq same, closes_eq same, if_pos closes]
      rfl
    · obtain ⟨below, below_eq⟩ := ih (line + 1) (opened || (places.map base).contains '(')
      refine ⟨below.map (Option.map (places :: ·)), fun reading same => ?_⟩
      simp only [opens_eq same, closes_eq same, if_neg closes, below_eq reading same]
      cases below with
      | error error => rfl
      | ok parts? => cases parts? <;> rfl

theorem steady_reassemble (windows : Windows) (base : P → Char) {blank : P} (is_blank : base blank = ' ')
    (lines : List (List P)) (start : Int) :
    Steady base (fun reading => Option.map (List.map reading)) fun reading =>
      Signature.reassemble (grammar windows) (.spell reading lines) start := by
  unfold Signature.reassemble
  simp only [Document.count_spell]
  refine (steady_collect windows base lines _ start false).bind fun parts? => ?_
  cases parts? with
  | none => exact .of_eq none fun _ _ => rfl
  | some parts =>
    obtain ⟨kept, joined⟩ := join_keeps base is_blank parts
    exact .of_eq (some kept) fun reading same => congrArg (Except.ok ∘ some) (joined reading same)

theorem steady_signatureStart (windows : Windows) (base : P → Char) (lines : List (List P)) (line : Int) (kind : Kind) :
    Steady base (fun _ => id) fun reading => (grammar windows).signatureStart (.spell reading lines) line kind := by
  refine ⟨signatureStart windows (.spell base lines) line kind, fun reading same => ?_⟩
  have start_eq : signatureStart windows (.spell reading lines) line kind =
      signatureStart windows (.spell base lines) line kind := by
    rw [← signatureStart_fold, Document.spell_fold same, signatureStart_fold]
  refine (show _ = _ from start_eq).trans ?_
  cases signatureStart windows (.spell base lines) line kind <;> rfl

theorem caseBlind_parameterName : CaseBlind parameterName :=
  (CaseBlind.filter (.of_capitals (by decide))).comp CaseBlind.lastWord

theorem unlettered_nesting (windows : Windows) : Signature.Unlettered (grammar windows).nesting := by
  simp [Signature.Unlettered, grammar]

theorem steady_parameters (windows : Windows) (base : P → Char) {blank : P} (is_blank : base blank = ' ')
    (lines : List (List P)) (line : Int) (kind : Kind) :
    Steady base (fun reading => List.map (List.map reading)) fun reading =>
      Signature.parameters (grammar windows) (.spell reading lines) line kind := by
  unfold Signature.parameters
  simp only [Document.count_spell]
  split
  · exact .of_eq [] fun _ _ => rfl
  · refine (steady_signatureStart windows base lines line kind).bind fun start? => ?_
    cases start? with
    | none => exact .of_eq [] fun _ _ => rfl
    | some start =>
      refine (steady_declarationText windows base lines start).bind fun _ => ?_
      refine (steady_reassemble windows base is_blank lines start).bind fun signature? => ?_
      cases signature? with
      | none => exact .of_eq [] fun _ _ => rfl
      | some signature =>
        obtain ⟨kept, names_eq⟩ := Signature.names_keeps (unlettered_nesting windows) rfl
          (show CaseBlind (grammar windows).parameterName from caseBlind_parameterName) base signature
        exact .of_eq kept fun reading same => congrArg Except.ok (names_eq reading same)

end Apex
end

/-! ## Letters in the other case -/

/-- A place in a document, with the character that stands there. -/
structure Place where
  line : Nat
  column : Nat
  char : Char

def otherCase (c : Char) : Char := if c.isUpper then c.toLower else c.toUpper

/-- The character at a place, in the other case if the place is turned. -/
def Place.read (turned : Nat → Nat → Bool) (place : Place) : Char :=
  if turned place.line place.column then otherCase place.char else place.char

namespace Document

def places (doc : Document) : List (List Place) :=
  doc.lines.mapIdx fun line text => text.mapIdx fun column char => ⟨line, column, char⟩

/-- The document with the letters at the turned places in the other case. -/
def recase (turned : Nat → Nat → Bool) (doc : Document) : Document :=
  spell (Place.read turned) doc.places

theorem spell_places (doc : Document) : spell Place.char doc.places = doc := by
  have row (line : Nat) (text : Text) :
      (text.mapIdx fun column char => (⟨line, column, char⟩ : Place)).map Place.char = text := by
    refine List.ext_getElem? fun i => ?_
    simp [Function.comp_def]
  refine congrArg Document.mk (List.ext_getElem? fun i => ?_)
  simp [places, Function.comp_def, row]

end Document

theorem sameLetters_read (turned : Nat → Nat → Bool) : SameLetters (Place.read turned) Place.char := by
  intro place
  unfold Place.read otherCase
  split
  · split
    · exact Char.toLower_toLower_eq_toLower _
    · exact Char.toLower_toUpper_eq_toLower _
  · rfl

theorem Document.recase_fold (turned : Nat → Nat → Bool) (doc : Document) : (doc.recase turned).fold = doc.fold := by
  rw [recase, spell_fold (sameLetters_read turned), spell_places]

namespace Apex

/-- A document without enum headers declares the same, and a search in it finds the same, in whichever case its
letters are; and the names of its parameters are those at the same places. -/
theorem recase_declares_alike (windows : Windows) {doc : Document} (free : EnumFree doc) :
    (∀ turned line, (grammar windows).kindAt (doc.recase turned) line = (grammar windows).kindAt doc line) ∧
    (∀ turned focus, locate (grammar windows) (doc.recase turned) focus = locate (grammar windows) doc focus) ∧
    ∀ line kind, ∃ names : List (List Place),
      Signature.parameters (grammar windows) doc line kind = .ok (names.map (List.map Place.char)) ∧
      ∀ turned, Signature.parameters (grammar windows) (doc.recase turned) line kind =
        .ok (names.map (List.map (Place.read turned))) := by
  have free_too (turned : Nat → Nat → Bool) : EnumFree (doc.recase turned) := by
    rw [← enumFree_fold_iff, doc.recase_fold, enumFree_fold_iff]
    exact free
  refine ⟨fun turned line => ?_, fun turned focus => ?_, fun line kind => ?_⟩
  · rw [← (free_too turned).kindAt_fold, doc.recase_fold, free.kindAt_fold]
  · rw [← ((free_too turned).alike windows).locate, doc.recase_fold, (free.alike windows).locate]
  · obtain ⟨kept, kept_eq⟩ := steady_parameters windows Place.char (show Place.char ⟨0, 0, ' '⟩ = ' ' from rfl) doc.places line kind
    obtain ⟨given, read⟩ := (bounded windows doc).parameters_ok line kind
    have original := (congrArg (Signature.parameters (grammar windows) · line kind) doc.spell_places).symm.trans
      (kept_eq Place.char fun _ => rfl)
    cases kept with
    | error error => simp [original, Except.map] at read
    | ok names => exact ⟨names, original, fun turned => kept_eq _ (sameLetters_read turned)⟩

-- The constructor is told by the class name, which keeps its capital while the line below loses all of its own.
theorem recased_constructor_found :
    EnumFree ⟨["class Account \x7b".toList, "  Account(String name) \x7b".toList]⟩ ∧
      locate (grammar {}) (Document.recase (fun line _ => line == 1)
        ⟨["class Account \x7b".toList, "  Account(String name) \x7b".toList]⟩) 1 = .ok (some ⟨.constructor, 1⟩) := by
  have free : EnumFree ⟨["class Account \x7b".toList, "  Account(String name) \x7b".toList]⟩ := by
    unfold EnumFree
    decide
  have found : locate (grammar {}) ⟨["class Account \x7b".toList, "  Account(String name) \x7b".toList]⟩ 1 =
      .ok (some ⟨.constructor, 1⟩) := by
    decide
  exact ⟨free, ((recase_declares_alike {} free).2.1 _ 1).trans found⟩

end Apex

end Docblock
