import Docblock.Proofs.Brackets
import Docblock.Proofs.Folding

/-! Texts that are read off places. Two readings of the same places that differ in the case of latin letters only
are cut, stripped and taken apart at the same places. -/

set_option autoImplicit false

namespace Docblock

variable {P : Type} {base : P → Char}

def SameLetters (reading base : P → Char) : Prop :=
  ∀ place, (reading place).toLower = (base place).toLower

namespace SameLetters
variable {reading : P → Char} (same : SameLetters reading base)
include same

theorem caseless {α : Type} {view : Char → α} (caseless : Caseless view) (place : P) :
    view (reading place) = view (base place) :=
  caseless.congr (same place)

theorem comp {α : Type} {view : Char → α} (caseless : Caseless view) : view ∘ reading = view ∘ base :=
  funext (same.caseless caseless)

theorem eq_iff {mark : Char} (no_letter : mark.isAlpha = false) (place : P) :
    reading place = mark ↔ base place = mark := by
  rw [← beq_iff_eq, same.caseless (caseless_beq no_letter), beq_iff_eq]

theorem fold_eq (places : List P) : Text.fold (places.map reading) = Text.fold (places.map base) := by
  simp only [Text.fold, List.map_map]
  exact List.map_congr_left fun place _ => same place

theorem isPrefixOf_eq {opener : Text} (no_letter : ∀ c ∈ opener, c.isAlpha = false) (places : List P) :
    opener.isPrefixOf (places.map reading) = opener.isPrefixOf (places.map base) := by
  induction opener generalizing places with
  | nil => cases places <;> rfl
  | cons c rest ih =>
    obtain ⟨here, below⟩ := List.forall_mem_cons.mp no_letter
    cases places with
    | nil => rfl
    | cons place more =>
      have first : (c == reading place) = (c == base place) := by
        rw [Bool.beq_comm, same.caseless (caseless_beq here), Bool.beq_comm]
      simp only [List.map_cons, List.isPrefixOf_cons_cons, first, ih below more]

theorem onLastLine_eq (places : List P) : Text.onLastLine (places.map reading) = Text.onLastLine (places.map base) := by
  have not_feed : Caseless fun c => c != '\n' := fun c => congrArg not (caseless_beq (by decide) c)
  simp only [Text.onLastLine, ← List.map_dropLast, List.all_map, same.comp not_feed]

theorem head?_eq_iff {mark : Char} (no_letter : mark.isAlpha = false) (places : List P) :
    (places.map reading).head? = some mark ↔ (places.map base).head? = some mark := by
  cases places with
  | nil => simp
  | cons place rest => simpa using same.eq_iff no_letter place

theorem matchesIn_eq {pattern : Pattern} (ignores : pattern.ignoresCase = true) (places : List P) :
    pattern.matchesIn (places.map reading) = pattern.matchesIn (places.map base) := by
  rw [← Pattern.matchesIn_fold ignores, same.fold_eq, Pattern.matchesIn_fold ignores]

end SameLetters

/-- The edit keeps the same places of a text, in whichever case the letters there are. -/
structure CaseBlind (edit : Text → Text) : Prop where
  keeps : ∀ {P : Type} (base : P → Char) (places : List P),
    ∃ kept : List P, ∀ reading, SameLetters reading base → edit (places.map reading) = kept.map reading

namespace CaseBlind
variable {edit next : Text → Text} {accepts : Char → Bool}

theorem comp (behind : CaseBlind next) (before : CaseBlind edit) : CaseBlind fun text => next (edit text) where
  keeps base places := by
    obtain ⟨middle, edited⟩ := before.keeps base places
    obtain ⟨kept, edited_again⟩ := behind.keeps base middle
    exact ⟨kept, fun reading same => by rw [edited reading same, edited_again reading same]⟩

theorem fold_eq (blind : CaseBlind edit) (text : Text) : edit text.fold = (edit text).fold := by
  obtain ⟨kept, edited⟩ := blind.keeps id text
  have before : edit text = kept := by simpa using edited id fun _ => rfl
  rw [before]
  exact edited Char.toLower Char.toLower_toLower_eq_toLower

theorem dropWhile (caseless : Caseless accepts) : CaseBlind (List.dropWhile accepts) where
  keeps _ _ := ⟨_, fun reading same => by rw [List.dropWhile_map, same.comp caseless]⟩

theorem takeWhile (caseless : Caseless accepts) : CaseBlind (List.takeWhile accepts) where
  keeps _ _ := ⟨_, fun reading same => by rw [List.takeWhile_map, same.comp caseless]⟩

theorem filter (caseless : Caseless accepts) : CaseBlind (List.filter accepts) where
  keeps _ _ := ⟨_, fun reading same => by rw [List.filter_map, same.comp caseless]⟩

theorem reverse : CaseBlind List.reverse where
  keeps _ _ := ⟨_, fun _ _ => List.map_reverse.symm⟩

theorem trimLeft : CaseBlind Text.trimLeft := dropWhile caseless_isBlank

theorem trimRight : CaseBlind Text.trimRight := reverse.comp ((dropWhile caseless_isBlank).comp reverse)

theorem trim : CaseBlind Text.trim := trimRight.comp trimLeft

theorem lastWord : CaseBlind Text.lastWord := by
  have not_blank : Caseless fun c => !isBlank c := fun c => congrArg not (caseless_isBlank c)
  exact reverse.comp ((takeWhile not_blank).comp ((dropWhile caseless_isBlank).comp reverse))

theorem cutAt {opener : Text} (no_letter : ∀ c ∈ opener, c.isAlpha = false) : CaseBlind (Text.cutAt · opener) where
  keeps {P} base places := by
    induction places with
    | nil => exact ⟨[], fun _ _ => rfl⟩
    | cons place rest ih =>
      have cut_eq (reading : P → Char) (same : SameLetters reading base) :
          (opener.isPrefixOf (reading place :: rest.map reading) && Text.onLastLine (reading place :: rest.map reading)) =
            (opener.isPrefixOf (base place :: rest.map base) && Text.onLastLine (base place :: rest.map base)) :=
        congrArg₂ and (same.isPrefixOf_eq no_letter (place :: rest)) (same.onLastLine_eq (place :: rest))
      by_cases cut : (opener.isPrefixOf (base place :: rest.map base) &&
          Text.onLastLine (base place :: rest.map base)) = true
      · -- What is left is the line feed at the end, if there is one.
        have last_iff (reading : P → Char) (same : SameLetters reading base) :
            (rest.map reading).getLast? = some '\n' ↔ (rest.map base).getLast? = some '\n' := by
          simpa using same.head?_eq_iff (show '\n'.isAlpha = false by decide) rest.reverse
        by_cases ends : (rest.map base).getLast? = some '\n'
        · obtain ⟨last, last_eq, feed⟩ := Option.map_eq_some_iff.mp (List.getLast?_map.symm.trans ends)
          refine ⟨[last], fun reading same => ?_⟩
          have feed_too : reading last = '\n' := (same.eq_iff (by decide) last).mpr feed
          simp only [List.map_cons, Text.cutAt, cut_eq reading same, cut, (last_iff reading same).mpr ends, feed_too]
          rfl
        · refine ⟨[], fun reading same => ?_⟩
          simp only [List.map_cons, Text.cutAt, cut_eq reading same, cut, mt (last_iff reading same).mp ends]
          rfl
      · obtain ⟨kept, below⟩ := ih
        refine ⟨place :: kept, fun reading same => ?_⟩
        simp only [List.map_cons, Text.cutAt, cut_eq reading same, if_neg cut, below reading same]

end CaseBlind

/-! ## Annotations -/

namespace AnnotationName

theorem afterArguments_eq (text : Text) :
    afterArguments text =
      if text.trimLeft.head? = some '(' ∧ (text.trimLeft.tail.dropWhile (· != ')')).head? = some ')' then
        (text.trimLeft.tail.dropWhile (· != ')')).tail
      else text := by
  unfold afterArguments
  split
  · next inner opened =>
    rw [opened]
    split
    · next rest closed => simp [closed]
    · next other => 
      have not_closed : (inner.dropWhile (· != ')')).head? ≠ some ')' := by
        intro closed
        obtain ⟨rest, same⟩ := List.head?_eq_some_iff.mp closed
        exact other rest same
      simp [not_closed]
  · next other =>
    have not_opened : text.trimLeft.head? ≠ some '(' := by
      intro opened
      obtain ⟨rest, same⟩ := List.head?_eq_some_iff.mp opened
      exact other rest same
    simp [not_opened]

theorem caseBlind_afterArguments : CaseBlind afterArguments where
  keeps base places := by
    have not_close : Caseless fun c => c != ')' := fun c => congrArg not (caseless_beq (by decide) c)
    obtain ⟨trimmed, trim_eq⟩ := CaseBlind.trimLeft.keeps base places
    obtain ⟨closed, closed_eq⟩ := (CaseBlind.dropWhile not_close).keeps base trimmed.tail
    by_cases found : (trimmed.map base).head? = some '(' ∧ (closed.map base).head? = some ')'
    · refine ⟨closed.tail, fun reading same => ?_⟩
      have found_too := (and_congr (same.head?_eq_iff (by decide) trimmed) (same.head?_eq_iff (by decide) closed)).mpr found
      rw [afterArguments_eq, trim_eq reading same, ← List.map_tail, closed_eq reading same, if_pos found_too, List.map_tail]
    · refine ⟨places, fun reading same => ?_⟩
      have missed := mt (and_congr (same.head?_eq_iff (by decide) trimmed) (same.head?_eq_iff (by decide) closed)).mp found
      rw [afterArguments_eq, trim_eq reading same, ← List.map_tail, closed_eq reading same, if_neg missed]

variable {name : AnnotationName}

theorem afterOne?_cons_cons (name : AnnotationName) (c d : Char) (rest : Text) :
    name.afterOne? (c :: d :: rest) =
      if c = '@' ∧ name.first d = true then some (afterArguments (rest.dropWhile name.other)).trimLeft else none := by
  by_cases sign : c = '@'
  · subst sign
    simp [afterOne?]
  · simp [afterOne?, sign]

variable (first : Caseless name.first) (other : Caseless name.other)
include first other

theorem afterOne?_keeps (base : P → Char) (places : List P) :
    ∃ kept? : Option (List P), ∀ reading, SameLetters reading base →
      name.afterOne? (places.map reading) = kept?.map (List.map reading) := by
  match places with
  | [] => exact ⟨none, fun _ _ => rfl⟩
  | [_] => exact ⟨none, fun _ _ => by simp [afterOne?]⟩
  | place :: next :: rest =>
    have behind : CaseBlind fun text => (afterArguments (text.dropWhile name.other)).trimLeft :=
      CaseBlind.trimLeft.comp (caseBlind_afterArguments.comp (.dropWhile other))
    obtain ⟨kept, kept_eq⟩ := behind.keeps base rest
    have found_iff (reading : P → Char) (same : SameLetters reading base) :
        (reading place = '@' ∧ name.first (reading next) = true) ↔ (base place = '@' ∧ name.first (base next) = true) := by
      rw [same.eq_iff (by decide), same.caseless first]
    by_cases found : base place = '@' ∧ name.first (base next) = true
    · refine ⟨some kept, fun reading same => ?_⟩
      rw [List.map_cons, List.map_cons, afterOne?_cons_cons, if_pos ((found_iff reading same).mpr found),
        kept_eq reading same]
      rfl
    · refine ⟨none, fun reading same => ?_⟩
      rw [List.map_cons, List.map_cons, afterOne?_cons_cons, if_neg (mt (found_iff reading same).mp found)]
      rfl

theorem afterSome_keeps (base : P → Char) (count : Nat) (places : List P) :
    ∃ kept : List P, ∀ reading, SameLetters reading base → name.afterSome count (places.map reading) = kept.map reading := by
  induction count generalizing places with
  | zero => exact ⟨places, fun _ _ => rfl⟩
  | succ count ih =>
    obtain ⟨rest?, after⟩ := afterOne?_keeps first other base places
    cases rest? with
    | none => exact ⟨places, fun reading same => by simp [afterSome, after reading same]⟩
    | some rest =>
      obtain ⟨kept, below⟩ := ih rest
      exact ⟨kept, fun reading same => by simp [afterSome, after reading same, below reading same]⟩

theorem caseBlind_strip : CaseBlind name.strip where
  keeps base places := by
    obtain ⟨trimmed, trim_eq⟩ := CaseBlind.trimLeft.keeps base places
    obtain ⟨rest?, after⟩ := afterOne?_keeps first other base trimmed
    cases rest? with
    | none => exact ⟨places, fun reading same => by simp [strip, trim_eq reading same, after reading same]⟩
    | some rest =>
      obtain ⟨kept, below⟩ := afterSome_keeps first other base rest.length rest
      exact ⟨kept, fun reading same => by simp [strip, trim_eq reading same, after reading same, below reading same]⟩

end AnnotationName

/-! ## Lists of texts -/

theorem each_keeps {edit : Text → Text} (blind : CaseBlind edit) (base : P → Char) (rows : List (List P)) :
    ∃ kept : List (List P), ∀ reading, SameLetters reading base →
      (rows.map (List.map reading)).map edit = kept.map (List.map reading) := by
  induction rows with
  | nil => exact ⟨[], fun _ _ => rfl⟩
  | cons row rest ih =>
    obtain ⟨first, first_eq⟩ := blind.keeps base row
    obtain ⟨more, more_eq⟩ := ih
    refine ⟨first :: more, fun reading same => ?_⟩
    simp only [List.map_cons, first_eq reading same, more_eq reading same]

theorem filled_keeps (reading : P → Char) (rows : List (List P)) :
    (rows.map (List.map reading)).filter (!·.isEmpty) = (rows.filter (!·.isEmpty)).map (List.map reading) := by
  have filled : (fun row : Text => !row.isEmpty) ∘ List.map reading = fun row => !row.isEmpty := by
    funext row
    simp
  rw [List.filter_map, filled]

theorem join_keeps (base : P → Char) {blank : P} (is_blank : base blank = ' ') (rows : List (List P)) :
    ∃ kept : List P, ∀ reading, SameLetters reading base →
      Text.join [' '] (rows.map (List.map reading)) = kept.map reading := by
  induction rows with
  | nil => exact ⟨[], fun _ _ => rfl⟩
  | cons row rest ih =>
    obtain ⟨kept, joined⟩ := ih
    cases rest with
    | nil => exact ⟨row, fun _ _ => rfl⟩
    | cons next more =>
      refine ⟨row ++ [blank] ++ kept, fun reading same => ?_⟩
      have blank_too : reading blank = ' ' := (same.eq_iff (by decide) blank).mpr is_blank
      rw [List.map_cons, List.map_cons, Text.join_cons_cons, ← List.map_cons, joined reading same]
      simp [blank_too]

/-! ## Parameter lists -/

namespace Signature

theorem closeParen_keeps (base : P → Char) (depth : Nat) (places : List P) :
    ∃ kept? : Option (List P), ∀ reading, SameLetters reading base →
      closeParen depth (places.map reading) = kept?.map (List.map reading) := by
  induction places generalizing depth with
  | nil => exact ⟨none, fun _ _ => rfl⟩
  | cons place rest ih =>
    -- A place that is kept goes in front of what is kept behind it.
    have onward (depth : Nat) : ∃ kept? : Option (List P), ∀ reading, SameLetters reading base →
        (closeParen depth (rest.map reading)).map (reading place :: ·) = kept?.map (List.map reading) := by
      obtain ⟨kept?, below⟩ := ih depth
      refine ⟨kept?.map (place :: ·), fun reading same => ?_⟩
      rw [below reading same]
      cases kept? <;> rfl
    by_cases opens : base place = '('
    · obtain ⟨kept?, kept_eq⟩ := onward (depth + 1)
      refine ⟨kept?, fun reading same => ?_⟩
      have opens_too : reading place = '(' := (same.eq_iff (by decide) place).mpr opens
      rw [← kept_eq reading same, List.map_cons]
      simp only [opens_too, closeParen_open]
    · by_cases closes : base place = ')'
      · have closes_too {reading : P → Char} (same : SameLetters reading base) : reading place = ')' :=
          (same.eq_iff (by decide) place).mpr closes
        cases depth with
        | zero => exact ⟨some [], fun reading same => by simp [closeParen, closes_too same]⟩
        | succ depth =>
          obtain ⟨kept?, kept_eq⟩ := onward depth
          refine ⟨kept?, fun reading same => ?_⟩
          rw [← kept_eq reading same, List.map_cons]
          simp only [closes_too same, closeParen_close]
      · obtain ⟨kept?, kept_eq⟩ := onward depth
        refine ⟨kept?, fun reading same => ?_⟩
        rw [← kept_eq reading same, List.map_cons]
        exact closeParen_other (mt (same.eq_iff (by decide) place).mp opens)
          (mt (same.eq_iff (by decide) place).mp closes) depth _

theorem parameterList?_keeps (base : P → Char) (places : List P) :
    ∃ kept? : Option (List P), ∀ reading, SameLetters reading base →
      parameterList? (places.map reading) = kept?.map (List.map reading) := by
  have not_open : Caseless fun c => c != '(' := fun c => congrArg not (caseless_beq (by decide) c)
  obtain ⟨opened, opened_eq⟩ := (CaseBlind.dropWhile not_open).keeps base places
  cases opened with
  | nil => exact ⟨none, fun reading same => by simp [parameterList?, opened_eq reading same]⟩
  | cons place rest =>
    obtain ⟨kept?, closed⟩ := closeParen_keeps base 0 rest
    exact ⟨kept?, fun reading same => by simp [parameterList?, opened_eq reading same, closed reading same]⟩

theorem consFirst_keeps (place : P) (pieces : List (List P)) :
    ∃ kept : List (List P), ∀ reading : P → Char,
      consFirst (reading place) (pieces.map (List.map reading)) = kept.map (List.map reading) := by
  cases pieces with
  | nil => exact ⟨[[place]], fun _ => rfl⟩
  | cons piece rest => exact ⟨(place :: piece) :: rest, fun _ => rfl⟩

def Unlettered (nesting : List (Char × Char)) : Prop :=
  ∀ pair ∈ nesting, pair.1.isAlpha = false ∧ pair.2.isAlpha = false

section
variable {nesting : List (Char × Char)} (unlettered : Unlettered nesting)
include unlettered

theorem turn_of_letter {c : Char} (letter : c.isAlpha = true) (opened : List Char) :
    turn nesting opened c = some opened := by
  have other (pair : Char × Char) (member : pair ∈ nesting) : pair.1 ≠ c ∧ pair.2 ≠ c := by
    constructor
    · rintro rfl
      simp [(unlettered pair member).1] at letter
    · rintro rfl
      simp [(unlettered pair member).2] at letter
  have no_comma : c ≠ ',' := by
    rintro rfl
    exact absurd letter (by decide)
  exact turn_plain (fun pair member => ⟨(other pair member).1, fun _ => (other pair member).2⟩)
    fun same => absurd same no_comma

theorem caseless_turn (opened : List Char) : Caseless (turn nesting opened) := by
  intro c
  by_cases upper : c.isUpper = true
  · have letter : c.isAlpha = true := by simp [Char.isAlpha, upper]
    rw [turn_of_letter unlettered letter, turn_of_letter unlettered (by simpa using letter)]
  · rw [Char.toLower_eq_of_not_isUpper upper]

theorem pieces_keeps (base : P → Char) (opened : List Char) (places : List P) :
    ∃ kept : List (List P), ∀ reading, SameLetters reading base →
      pieces nesting opened (places.map reading) = kept.map (List.map reading) := by
  induction places generalizing opened with
  | nil => exact ⟨[[]], fun _ _ => rfl⟩
  | cons place rest ih =>
    have turn_eq {reading : P → Char} (same : SameLetters reading base) :
        turn nesting opened (reading place) = turn nesting opened (base place) :=
      same.caseless (caseless_turn unlettered opened) place
    cases turned : turn nesting opened (base place) with
    | some behind =>
      obtain ⟨below, below_eq⟩ := ih behind
      obtain ⟨kept, kept_eq⟩ := consFirst_keeps place below
      refine ⟨kept, fun reading same => ?_⟩
      rw [List.map_cons, pieces_cons, turn_eq same, turned, ← kept_eq reading, ← below_eq reading same]
    | none =>
      obtain ⟨below, below_eq⟩ := ih []
      refine ⟨[] :: below, fun reading same => ?_⟩
      rw [List.map_cons, pieces_cons, turn_eq same, turned, below_eq reading same]
      rfl

theorem names_keeps {grammar : Grammar} (nesting_eq : grammar.nesting = nesting)
    (name_blind : CaseBlind grammar.parameterName) (base : P → Char) (places : List P) :
    ∃ kept : List (List P), ∀ reading, SameLetters reading base →
      names grammar (places.map reading) = kept.map (List.map reading) := by
  obtain ⟨list?, list_eq⟩ := parameterList?_keeps base places
  cases list? with
  | none => exact ⟨[], fun reading same => by simp [names, list_eq reading same]⟩
  | some list =>
    obtain ⟨segments, pieces_eq⟩ := pieces_keeps unlettered base [] list
    obtain ⟨trimmed, trimmed_eq⟩ := each_keeps CaseBlind.trim base segments
    obtain ⟨named, named_eq⟩ := each_keeps name_blind base (trimmed.filter (!·.isEmpty))
    refine ⟨named.filter (!·.isEmpty), fun reading same => ?_⟩
    simp only [names, list_eq reading same, Option.map_some, split, nesting_eq, pieces_eq reading same,
      trimmed_eq reading same, filled_keeps, named_eq reading same]

end

end Signature

end Docblock
