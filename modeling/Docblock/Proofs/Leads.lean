import Docblock.Proofs.Openings

/-! Matches of patterns in a row. Where the next character leaves each of them a single way to go on, a row matches
exactly if the text is made as the patterns say, part by part. -/

set_option autoImplicit false

namespace Docblock

namespace Cursor

def past (passed : Option Char) (front tail : Text) : Cursor := ⟨front.getLast?.or passed, tail⟩

@[simp] theorem past_nil (passed : Option Char) (tail : Text) : past passed [] tail = ⟨passed, tail⟩ := rfl

@[simp] theorem past_cons (passed : Option Char) (c : Char) (front tail : Text) :
    past passed (c :: front) tail = past (some c) front tail := by
  cases front <;> simp [past, List.getLast?_cons]

variable {accepts : Char → Bool} {passed : Option Char} {text : Text} {last : Cursor}

theorem Steps.past (front tail : Text) (each : ∀ c ∈ front, accepts c = true) :
    Steps accepts ⟨passed, front ++ tail⟩ (past passed front tail) := by
  induction front generalizing passed with
  | nil => exact .here _
  | cons c more ih =>
    obtain ⟨accepted, below⟩ := List.forall_mem_cons.mp each
    rw [past_cons]
    exact .onto accepted (ih below)

theorem steps_iff : Steps accepts ⟨passed, text⟩ last ↔
    ∃ front tail, text = front ++ tail ∧ (∀ c ∈ front, accepts c = true) ∧ last = past passed front tail := by
  constructor
  · intro steps
    generalize first_eq : (⟨passed, text⟩ : Cursor) = first at steps
    induction steps generalizing passed text with
    | here => exact ⟨[], text, rfl, by simp, first_eq.symm⟩
    | onto accepted _ ih =>
      obtain ⟨rfl, rfl⟩ := Cursor.mk.inj first_eq
      obtain ⟨front, tail, rfl, each, rfl⟩ := ih rfl
      exact ⟨_ :: front, tail, rfl, List.forall_mem_cons.mpr ⟨accepted, each⟩, (past_cons ..).symm⟩
  · rintro ⟨front, tail, rfl, each, rfl⟩
    exact Steps.past front tail each

end Cursor

namespace Pattern

/-- The patterns match one after the other from a place on. -/
def Leads (patterns : List Pattern) (first : Cursor) : Prop := ∃ last, (row patterns).Matches first last

variable {rest : List Pattern} {first : Cursor} {passed : Option Char} {text front tail : Text}

theorem leads_nil : Leads [] first := ⟨first, rfl⟩

theorem leads_cons {pattern : Pattern} :
    Leads (pattern :: rest) first ↔ ∃ middle, pattern.Matches first middle ∧ Leads rest middle := by
  constructor
  · rintro ⟨last, middle, before, behind⟩
    exact ⟨middle, before, last, behind⟩
  · rintro ⟨middle, before, last, behind⟩
    exact ⟨last, middle, before, behind⟩

theorem not_leads {c : Char} (takes : (row rest).nullable = false) (refused : (row rest).firsts c = false) :
    ¬ Leads rest ⟨passed, c :: text⟩ := by
  rintro ⟨last, matched⟩
  rcases matched.starts with ⟨idle, _⟩ | ⟨d, behind, ahead, accepted⟩
  · simp [takes] at idle
  · obtain ⟨rfl, rfl⟩ := List.cons_eq_cons.mp ahead
    simp [refused] at accepted

theorem leads_one {accepts : Char → Bool} {c : Char} :
    Leads (one accepts :: rest) ⟨passed, c :: text⟩ ↔ accepts c = true ∧ Leads rest ⟨some c, text⟩ := by
  rw [leads_cons]
  constructor
  · rintro ⟨middle, ⟨d, behind, ahead, accepted, rfl⟩, leads⟩
    obtain ⟨rfl, rfl⟩ := List.cons_eq_cons.mp ahead
    exact ⟨accepted, leads⟩
  · rintro ⟨accepted, leads⟩
    exact ⟨_, ⟨c, text, rfl, accepted, rfl⟩, leads⟩

theorem leads_char {c d : Char} :
    Leads (char d :: rest) ⟨passed, c :: text⟩ ↔ c = d ∧ Leads rest ⟨some c, text⟩ := by
  rw [char, leads_one, beq_iff_eq]

theorem leads_absent {body : Pattern} :
    Leads (absent body :: rest) first ↔ (¬ ∃ place, body.Matches first place) ∧ Leads rest first := by
  rw [leads_cons]
  constructor
  · rintro ⟨_, ⟨none, rfl⟩, leads⟩
    exact ⟨none, leads⟩
  · rintro ⟨none, leads⟩
    exact ⟨first, ⟨none, rfl⟩, leads⟩

theorem leads_many_iff {accepts : Char → Bool} :
    Leads (many accepts :: rest) ⟨passed, text⟩ ↔ ∃ front tail, text = front ++ tail ∧
      (∀ c ∈ front, accepts c = true) ∧ Leads rest (Cursor.past passed front tail) := by
  rw [leads_cons]
  constructor
  · rintro ⟨middle, steps, leads⟩
    obtain ⟨front, tail, rfl, each, rfl⟩ := Cursor.steps_iff.mp steps
    exact ⟨front, tail, rfl, each, leads⟩
  · rintro ⟨front, tail, rfl, each, leads⟩
    exact ⟨_, Cursor.Steps.past front tail each, leads⟩

theorem leads_many {accepts : Char → Bool} (takes : (row rest).nullable = false)
    (apart : ∀ c, accepts c = true → (row rest).firsts c = false)
    (each : ∀ c ∈ front, accepts c = true) (stops : ∀ c, tail.head? = some c → accepts c = false) :
    Leads (many accepts :: rest) ⟨passed, front ++ tail⟩ ↔ Leads rest (Cursor.past passed front tail) := by
  rw [leads_many_iff]
  constructor
  · rintro ⟨near, far, cut, near_each, leads⟩
    rcases List.append_eq_append_iff.mp cut with ⟨more, rfl, tail_eq⟩ | ⟨more, rfl, far_eq⟩
    · -- The run cannot go on behind the front.
      cases more with
      | nil =>
        obtain rfl : tail = far := by simpa using tail_eq
        simpa using leads
      | cons c more =>
        have refused := stops c (by simp [tail_eq])
        simp [near_each c (by simp)] at refused
    · -- And what follows the run cannot start inside the front.
      cases more with
      | nil =>
        obtain rfl : far = tail := by simpa using far_eq
        simpa using leads
      | cons c more =>
        rw [far_eq] at leads
        exact absurd leads (not_leads takes (apart c (each c (by simp))))
  · intro leads
    exact ⟨front, tail, rfl, each, leads⟩

theorem leads_many_idle {accepts : Char → Bool} {c : Char} (takes : (row rest).nullable = false)
    (apart : ∀ d, accepts d = true → (row rest).firsts d = false) (refused : accepts c = false) :
    Leads (many accepts :: rest) ⟨passed, c :: text⟩ ↔ Leads rest ⟨passed, c :: text⟩ := by
  have stops : ∀ d, (c :: text).head? = some d → accepts d = false := by
    rintro d ⟨⟩
    exact refused
  have none_each : ∀ d ∈ ([] : Text), accepts d = true := by simp
  exact leads_many takes apart none_each stops

theorem leads_alt {left right : Pattern} :
    Leads (alt left right :: rest) first ↔ Leads (left :: rest) first ∨ Leads (right :: rest) first := by
  simp only [leads_cons, Matches, or_and_right, exists_or]

theorem leads_empty : Leads (empty :: rest) first ↔ Leads rest first := by
  simp [leads_cons, Matches]

theorem leads_seq {left right : Pattern} :
    Leads (seq left right :: rest) first ↔ Leads (left :: right :: rest) first := by
  simp only [leads_cons, Matches]
  constructor
  · rintro ⟨last, ⟨middle, before, behind⟩, leads⟩
    exact ⟨middle, before, last, behind, leads⟩
  · rintro ⟨middle, before, last, behind, leads⟩
    exact ⟨last, ⟨middle, before, behind⟩, leads⟩

theorem leads_some1_iff {accepts : Char → Bool} :
    Leads (some1 accepts :: rest) ⟨passed, text⟩ ↔ ∃ front tail, front ≠ [] ∧ text = front ++ tail ∧
      (∀ c ∈ front, accepts c = true) ∧ Leads rest (Cursor.past passed front tail) := by
  refine leads_seq.trans ?_
  constructor
  · intro leads
    cases text with
    | nil => simp [leads_cons, Matches] at leads
    | cons c text =>
      obtain ⟨accepted, leads⟩ := leads_one.mp leads
      obtain ⟨front, tail, rfl, each, leads⟩ := leads_many_iff.mp leads
      refine ⟨c :: front, tail, by simp, rfl, List.forall_mem_cons.mpr ⟨accepted, each⟩, ?_⟩
      rwa [Cursor.past_cons]
  · rintro ⟨front, tail, some_char, rfl, each, leads⟩
    obtain ⟨c, front, rfl⟩ := List.exists_cons_of_ne_nil some_char
    obtain ⟨accepted, each⟩ := List.forall_mem_cons.mp each
    rw [Cursor.past_cons] at leads
    exact leads_one.mpr ⟨accepted, leads_many_iff.mpr ⟨front, tail, rfl, each, leads⟩⟩

theorem leads_optional {pattern : Pattern} {c : Char} (takes : pattern.nullable = false)
    (refused : pattern.firsts c = false) :
    Leads (optional pattern :: rest) ⟨passed, c :: text⟩ ↔ Leads rest ⟨passed, c :: text⟩ := by
  have absent : ¬ Leads (pattern :: rest) ⟨passed, c :: text⟩ :=
    not_leads (by simp [row, nullable, takes]) (by simp [row, firsts, takes, refused])
  exact leads_alt.trans (by simp [absent, leads_empty])

theorem leads_star {body : Pattern} (none : ¬ ∃ place, body.Matches first place) :
    Leads (star body :: rest) first ↔ Leads rest first := by
  rw [leads_cons]
  constructor
  · rintro ⟨middle, rounds, leads⟩
    cases rounds with
    | done => exact leads
    | more moved => exact absurd ⟨_, moved⟩ none
  · intro leads
    exact ⟨first, .done first, leads⟩

theorem matchesIn_tied {pattern : Pattern} (shape : pattern.flat = start :: blanks :: rest)
    (filled : ∀ c, text.head? = some c → isBlank c = false) :
    pattern.matchesIn text = true ↔ Leads rest (Cursor.start text) := by
  rw [matchesIn_iff]
  constructor
  · rintro ⟨first, last, reached, matched⟩
    rw [← matches_row_flat, shape] at matched
    obtain ⟨_, ⟨fresh, rfl⟩, middle, blanks, matched⟩ := matched
    obtain rfl := reached.unmoved fresh
    obtain ⟨front, tail, cut, each, rfl⟩ := Cursor.steps_iff.mp blanks
    cases front with
    | nil => exact ⟨last, by simpa [Cursor.start, cut] using matched⟩
    | cons c more =>
      have no_blank := filled c (by rw [cut]; rfl)
      simp [each c (by simp)] at no_blank
  · rintro ⟨last, matched⟩
    refine ⟨Cursor.start text, last, .here _, ?_⟩
    rw [← matches_row_flat, shape]
    exact ⟨_, ⟨rfl, rfl⟩, _, .here _, matched⟩

theorem nullable_append {left right : Pattern} : (left ++ right).nullable = (left.nullable && right.nullable) :=
  rfl

theorem firsts_append {left right : Pattern} (c : Char) :
    (left ++ right).firsts c = (left.firsts c || left.nullable && right.firsts c) :=
  rfl

theorem firsts_optional {pattern : Pattern} (c : Char) : (optional pattern).firsts c = pattern.firsts c :=
  Bool.or_false _

/-! ## Words -/

theorem matches_literal {word : Text} {last : Cursor} :
    (literal word).Matches ⟨passed, text⟩ last ↔
      ∃ behind, text = word ++ behind ∧ last = Cursor.past passed word behind := by
  induction word using literal.induct generalizing passed text with
  | case1 => simp [literal, Matches]
  | case2 c =>
    constructor
    · rintro ⟨d, behind, rfl, same, rfl⟩
      exact ⟨behind, by rw [beq_iff_eq.mp same]; rfl, by rw [beq_iff_eq.mp same]; rfl⟩
    · rintro ⟨behind, rfl, rfl⟩
      exact ⟨c, behind, rfl, beq_self_eq_true c, rfl⟩
  | case3 c word some_more ih =>
    rw [literal.eq_3 c word some_more]
    constructor
    · rintro ⟨_, ⟨d, rest, rfl, same, rfl⟩, more⟩
      obtain ⟨behind, rfl, rfl⟩ := ih.mp more
      obtain rfl := beq_iff_eq.mp same
      exact ⟨behind, rfl, (Cursor.past_cons ..).symm⟩
    · rintro ⟨behind, rfl, rfl⟩
      exact ⟨_, ⟨c, word ++ behind, rfl, beq_self_eq_true c, rfl⟩, ih.mpr ⟨behind, rfl, Cursor.past_cons ..⟩⟩

theorem matches_oneOf {patterns : List Pattern} {last : Cursor} :
    (oneOf patterns).Matches first last ↔ ∃ pattern ∈ patterns, pattern.Matches first last := by
  induction patterns using oneOf.induct with
  | case1 => simp [oneOf, Matches]
  | case2 pattern => simp [oneOf]
  | case3 pattern rest some_more ih =>
    rw [oneOf.eq_3 pattern rest some_more, List.exists_mem_cons_iff, ← ih]
    exact Iff.rfl

theorem matches_words {words : List Text} {last : Cursor} :
    (oneOf (words.map literal)).Matches ⟨passed, text⟩ last ↔
      ∃ word ∈ words, ∃ behind, text = word ++ behind ∧ last = Cursor.past passed word behind := by
  simp only [matches_oneOf, List.mem_map, exists_exists_and_eq_and, matches_literal]

end Pattern

end Docblock
