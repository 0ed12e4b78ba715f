import Docblock.Proofs.Lines
import Docblock.Snippet
import Mathlib.Data.List.TakeWhile

/-! Rendering of snippets. Each of its passes takes stretches of text that start and end in a mark, and
leaves in their place a part of their inside or a few characters without a line break. What every such
pass keeps, rendering keeps; so a snippet that ends in a line feed renders to a text that does. -/

set_option autoImplicit false

namespace Docblock

namespace Text

theorem takeWhile_dropWhile_iff {accepts : Char → Bool} {text front rest : Text} :
    text.takeWhile accepts = front ∧ text.dropWhile accepts = rest ↔
      text = front ++ rest ∧ (∀ c ∈ front, accepts c = true) ∧
        ∀ c, rest.head? = some c → accepts c = false := by
  constructor
  · rintro ⟨rfl, rfl⟩
    refine ⟨List.takeWhile_append_dropWhile.symm, fun c within => List.mem_takeWhile_imp within, ?_⟩
    intro c first
    have refused := List.head?_dropWhile_not accepts text
    simpa [first] using refused
  · rintro ⟨rfl, accepted, refused⟩
    have stops : rest.takeWhile accepts = [] ∧ rest.dropWhile accepts = rest := by
      cases rest with
      | nil => simp
      | cons c tail => simp [refused c rfl]
    rw [List.takeWhile_append_of_pos accepted, List.dropWhile_append_of_pos accepted, stops.1, stops.2]
    simp

theorem substitute_of_none {find : Text → Option (Text × Nat)} {c : Char} {rest : Text}
    (passed : find (c :: rest) = none) :
    substitute find (c :: rest) = c :: substitute find rest := by
  simp [substitute, substituteFrom, passed]

theorem substitute_of_some {find : Text → Option (Text × Nat)} {taken rest replacement : Text}
    (filled : taken ≠ []) (found : find (taken ++ rest) = some (replacement, taken.length)) :
    substitute find (taken ++ rest) = replacement ++ substitute find rest := by
  obtain ⟨c, more, rfl⟩ := List.exists_cons_of_ne_nil filled
  rw [List.cons_append] at found ⊢
  simp only [substitute, substituteFrom, found, List.length_cons, Nat.add_sub_cancel]
  rw [substituteFrom_drop, List.drop_left, substitute]

end Text

namespace Snippet

/-- A character that neither breaks a line nor stands in the margin of a comment. -/
def Mark (c : Char) : Prop := c ≠ ' ' ∧ c ≠ '*' ∧ c ≠ '/' ∧ c ≠ '\r' ∧ c ≠ '\n'

instance (c : Char) : Decidable (Mark c) := inferInstanceAs (Decidable (_ ∧ _ ∧ _ ∧ _ ∧ _))

structure Reduces (taken replacement : Text) : Prop where
  opens : ∃ c more, taken = c :: more ∧ Mark c
  ends : ∃ more c, taken = more ++ [c] ∧ Mark c
  keeps : replacement.Unbroken ∨
    ∃ before c behind, taken = before ++ replacement ++ c :: behind ∧ Mark c

-- Whatever is found, in whatever text, is replaced in that way.
def Reducing (find : Text → Option (Text × Nat)) : Prop :=
  ∀ text replacement length, find text = some (replacement, length) →
    ∃ taken rest, text = taken ++ rest ∧ length = taken.length ∧ Reduces taken replacement

/-- Facts about a reducing pass go by the stretches that it replaces and the characters in between. -/
theorem Reducing.induction {find : Text → Option (Text × Nat)} (reducing : Reducing find)
    {motive : Text → Text → Prop} (nil : motive [] [])
    (pass : ∀ (c : Char) (rest : Text), find (c :: rest) = none →
      motive rest (rest.substitute find) → motive (c :: rest) (c :: rest.substitute find))
    (replace : ∀ taken rest replacement : Text, find (taken ++ rest) = some (replacement, taken.length) →
      Reduces taken replacement → motive rest (rest.substitute find) →
      motive (taken ++ rest) (replacement ++ rest.substitute find))
    (text : Text) : motive text (text.substitute find) := by
  -- By induction on a bound for the length, as a replacement skips more than one character.
  obtain ⟨bound, within⟩ : ∃ bound, text.length ≤ bound := ⟨_, Nat.le_refl _⟩
  induction bound generalizing text with
  | zero =>
    obtain rfl := List.length_eq_zero_iff.mp (Nat.le_zero.mp within)
    exact nil
  | succ bound ih =>
    cases text with
    | nil => exact nil
    | cons c rest =>
      rw [List.length_cons] at within
      cases found : find (c :: rest) with
      | none =>
        rw [Text.substitute_of_none found]
        exact pass c rest found (ih rest (by omega))
      | some answer =>
        obtain ⟨replacement, length⟩ := answer
        obtain ⟨taken, behind, cut, rfl, reduces⟩ := reducing _ _ _ found
        obtain ⟨d, more, rfl, _⟩ := reduces.opens
        have total := congrArg List.length cut
        rw [List.length_append, List.length_cons, List.length_cons] at total
        rw [cut] at found ⊢
        rw [Text.substitute_of_some (by simp) found]
        exact replace _ _ _ found reduces (ih behind (by omega))

def Unmarked (text : Text) : Prop := ∀ c ∈ text, ¬ Mark c

instance (text : Text) : Decidable (Unmarked text) := List.decidableBAll _ text

theorem Reducing.substitute_append {find : Text → Option (Text × Nat)} (reducing : Reducing find)
    {front : Text} (plain : Unmarked front) (rest : Text) :
    (front ++ rest).substitute find = front ++ rest.substitute find := by
  induction front with
  | nil => rfl
  | cons c more ih =>
    have passed : find (c :: (more ++ rest)) = none := by
      cases found : find (c :: (more ++ rest)) with
      | none => rfl
      | some answer =>
        obtain ⟨taken, behind, cut, _, reduces⟩ := reducing _ answer.1 answer.2 found
        obtain ⟨d, others, rfl, mark⟩ := reduces.opens
        obtain rfl : c = d := (List.cons.inj cut).1
        exact absurd mark (plain c List.mem_cons_self)
    rw [List.cons_append, Text.substitute_of_none passed,
      ih fun d within => plain d (List.mem_cons_of_mem c within), List.cons_append]

theorem Reducing.unbroken {find : Text → Option (Text × Nat)} (reducing : Reducing find) {text : Text}
    (whole : text.Unbroken) : (text.substitute find).Unbroken := by
  induction text using reducing.induction with
  | nil => exact whole
  | pass c rest _ ih =>
    have below := ih fun d within => whole d (List.mem_cons_of_mem c within)
    intro d within
    cases List.mem_cons.mp within with
    | inl same => exact same ▸ whole c List.mem_cons_self
    | inr within => exact below d within
  | replace taken rest replacement _ reduces ih =>
    have below := ih fun d within => whole d (List.mem_append_right taken within)
    intro d within
    cases List.mem_append.mp within with
    | inr within => exact below d within
    | inl within =>
      cases reduces.keeps with
      | inl unbroken => exact unbroken d within
      | inr kept =>
        obtain ⟨before, c, behind, rfl, _⟩ := kept
        exact whole d (by simp [within])

/-! ## What the passes find -/

def Digits (row : Text) : Prop := row ≠ [] ∧ ∀ c ∈ row, isDigit c = true

theorem mark_of_isDigit {c : Char} (digit : isDigit c = true) : Mark c := by
  refine ⟨?_, ?_, ?_, ?_, ?_⟩ <;> rintro rfl <;> revert digit <;> decide

theorem Digits.ends {row : Text} (digits : Digits row) : ∃ more c, row = more ++ [c] ∧ Mark c :=
  ⟨row.dropLast, row.getLast digits.1, (List.dropLast_concat_getLast digits.1).symm,
    mark_of_isDigit (digits.2 _ (List.getLast_mem digits.1))⟩

theorem Digits.unbroken {row : Text} (digits : Digits row) : row.Unbroken :=
  fun c within => (mark_of_isDigit (digits.2 c within)).2.2.2

theorem Digits.cut {row : Text} (digits : Digits row) {c : Char} (no_digit : isDigit c = false) (rest : Text) :
    (row ++ c :: rest).takeWhile isDigit = row ∧ (row ++ c :: rest).dropWhile isDigit = c :: rest := by
  refine Text.takeWhile_dropWhile_iff.mpr ⟨rfl, digits.2, ?_⟩
  rintro d ⟨⟩
  exact no_digit

theorem digitValue?_of_ascii {c : Char} (digit : c.isDigit = true) : digitValue? c = some (c.toNat - '0'.toNat) := by
  have within : 0x30 ≤ c.toNat ∧ c.toNat ≤ 0x39 := by
    simpa [Char.isDigit, UInt32.le_iff_toNat_le] using digit
  simp [digitValue?, digitZeros, within]

theorem isDigit_of_ascii {c : Char} (digit : c.isDigit = true) : isDigit c = true := by
  rw [isDigit, digitValue?_of_ascii digit, Option.isSome_some]

theorem digits_of_writeNumber {number : Nat} {row : Text} (written : writeNumber number = .ok row) :
    Digits row := by
  unfold writeNumber at written
  split at written
  · simp at written
  · obtain rfl := Except.ok.inj written
    rw [decimal, if_neg (by omega)]
    refine ⟨Nat.toDigits_ne_nil, fun c within => isDigit_of_ascii ?_⟩
    exact Nat.isDigit_of_mem_toDigits (by decide) (by decide) within

theorem braced?_eq_some_iff {mark : Char} (no_digit : isDigit mark = false) {plain : Char → Bool}
    {text inner rest : Text} :
    braced? mark plain text = some (inner, rest) ↔
      ∃ row, Digits row ∧ text = '$' :: '\x7b' :: (row ++ mark :: (inner ++ rest)) ∧
        (∀ c ∈ inner, plain c = true) ∧ ∀ c, rest.head? = some c → plain c = false := by
  constructor
  · intro found
    unfold braced? at found
    split at found
    · next tail =>
      split at found
      · next first more c behind row_eq behind_eq =>
        obtain ⟨cut, accepted, _⟩ := Text.takeWhile_dropWhile_iff.mp ⟨row_eq, behind_eq⟩
        split at found
        · next same =>
          obtain ⟨inner_eq, rest_eq⟩ := Prod.mk.inj (Option.some.inj found)
          obtain ⟨behind_cut, inside, outside⟩ := Text.takeWhile_dropWhile_iff.mp ⟨inner_eq, rest_eq⟩
          refine ⟨first :: more, ⟨by simp, accepted⟩, ?_, inside, outside⟩
          rw [cut, same, behind_cut]
        · simp at found
      · simp at found
    · simp at found
  · rintro ⟨row, digits, rfl, inside, outside⟩
    obtain ⟨row_eq, behind_eq⟩ := digits.cut no_digit (inner ++ rest)
    obtain ⟨first, more, rfl⟩ := List.exists_cons_of_ne_nil digits.1
    obtain ⟨inner_eq, rest_eq⟩ := Text.takeWhile_dropWhile_iff.mpr ⟨rfl, inside, outside⟩
    simp only [braced?, row_eq, behind_eq, if_true, inner_eq, rest_eq]

def placeholder (row default : Text) : Text :=
  '$' :: '\x7b' :: (row ++ ':' :: (default ++ ['\x7d']))

theorem placeholder?_eq_some_iff {text default : Text} {length : Nat} :
    placeholder? text = some (default, length) ↔
      ∃ row rest, Digits row ∧ (∀ c ∈ default, c ≠ '\x7b' ∧ c ≠ '\x7d') ∧
        text = placeholder row default ++ rest ∧ length = (placeholder row default).length := by
  constructor
  · intro found
    unfold placeholder? at found
    split at found
    · next inner rest cut =>
      obtain ⟨rfl, rfl⟩ := Prod.mk.inj (Option.some.inj found)
      obtain ⟨row, digits, rfl, inside, _⟩ := (braced?_eq_some_iff (by decide)).mp cut
      exact ⟨row, rest, digits, by simpa using inside, by simp [placeholder],
        by simp [placeholder]; omega⟩
    · simp at found
  · rintro ⟨row, rest, digits, inside, rfl, rfl⟩
    have cut : braced? ':' (fun c => c != '\x7b' && c != '\x7d') (placeholder row default ++ rest) =
        some (default, '\x7d' :: rest) :=
      (braced?_eq_some_iff (by decide)).mpr
        ⟨row, digits, by simp [placeholder], by simpa using inside, by simp⟩
    simp only [placeholder?, cut, List.length_append, Nat.add_sub_cancel]

def choice (row options : Text) : Text :=
  '$' :: '\x7b' :: (row ++ '|' :: (options ++ ['|', '\x7d']))

theorem choice?_eq_some_iff {text option : Text} {length : Nat} :
    choice? text = some (option, length) ↔
      ∃ row options rest, Digits row ∧ (∀ c ∈ options, c ≠ '|') ∧
        option = options.takeWhile (· != ',') ∧
          text = choice row options ++ rest ∧ length = (choice row options).length := by
  constructor
  · intro found
    unfold choice? at found
    split at found
    · next options rest cut =>
      obtain ⟨rfl, rfl⟩ := Prod.mk.inj (Option.some.inj found)
      obtain ⟨row, digits, rfl, inside, _⟩ := (braced?_eq_some_iff (by decide)).mp cut
      exact ⟨row, options, rest, digits, by simpa using inside, rfl, by simp [choice],
        by simp [choice]; omega⟩
    · simp at found
  · rintro ⟨row, options, rest, digits, inside, rfl, rfl, rfl⟩
    have cut : braced? '|' (· != '|') (choice row options ++ rest) =
        some (options, '|' :: '\x7d' :: rest) :=
      (braced?_eq_some_iff (by decide)).mpr
        ⟨row, digits, by simp [choice], by simpa using inside, by simp⟩
    simp only [choice?, cut, List.length_append, Nat.add_sub_cancel]

theorem tabStop?_eq_some {text replacement : Text} {length : Nat}
    (found : tabStop? text = some (replacement, length)) :
    replacement = [] ∧ ∃ row rest, Digits row ∧
      ((text = '$' :: '\x7b' :: (row ++ '\x7d' :: rest) ∧ length = row.length + 3) ∨
        (text = '$' :: (row ++ rest) ∧ length = row.length + 1)) := by
  unfold tabStop? at found
  split at found
  · next tail =>
    split at found
    · next first more rest row_eq rest_eq =>
      obtain ⟨rfl, rfl⟩ := Prod.mk.inj (Option.some.inj found)
      obtain ⟨rfl, accepted, _⟩ := Text.takeWhile_dropWhile_iff.mp ⟨row_eq, rest_eq⟩
      exact ⟨rfl, first :: more, rest, ⟨by simp, accepted⟩, .inl ⟨rfl, by simp; omega⟩⟩
    · simp at found
  · next tail _ =>
    split at found
    · simp at found
    · next filled =>
      obtain ⟨rfl, rfl⟩ := Prod.mk.inj (Option.some.inj found)
      obtain ⟨cut, accepted, _⟩ := Text.takeWhile_dropWhile_iff.mp
        ⟨rfl, (rfl : tail.dropWhile isDigit = _)⟩
      refine ⟨rfl, tail.takeWhile isDigit, tail.dropWhile isDigit,
        ⟨by simpa using filled, accepted⟩, .inr ⟨by rw [← cut], ?_⟩⟩
      have total := congrArg List.length cut
      simp only [List.length_append, List.length_cons] at total ⊢
      omega
  · simp at found

/-! ## What every pass keeps -/

theorem reducing_placeholder : Reducing placeholder? := by
  intro text default length found
  obtain ⟨row, rest, _, _, cut, measured⟩ := placeholder?_eq_some_iff.mp found
  refine ⟨placeholder row default, rest, cut, measured, ⟨'$', _, rfl, by decide⟩, ?_, .inr ?_⟩
  · exact ⟨'$' :: '\x7b' :: (row ++ ':' :: default), '\x7d', by simp [placeholder], by decide⟩
  · exact ⟨'$' :: '\x7b' :: (row ++ [':']), '\x7d', [], by simp [placeholder], by decide⟩

theorem reducing_choice : Reducing choice? := by
  intro text option length found
  obtain ⟨row, options, rest, _, _, first, cut, measured⟩ := choice?_eq_some_iff.mp found
  refine ⟨choice row options, rest, cut, measured, ⟨'$', _, rfl, by decide⟩, ?_, .inr ?_⟩
  · exact ⟨'$' :: '\x7b' :: (row ++ '|' :: (options ++ ['|'])), '\x7d', by simp [choice], by decide⟩
  · obtain ⟨whole, _, stopped⟩ :=
      Text.takeWhile_dropWhile_iff.mp ⟨first.symm, (rfl : options.dropWhile (· != ',') = _)⟩
    -- The option ends at a comma, or else at the bar behind the last option.
    cases others : options.dropWhile (· != ',') with
    | nil =>
      rw [others, List.append_nil] at whole
      exact ⟨'$' :: '\x7b' :: (row ++ ['|']), '|', ['\x7d'], by simp [choice, whole], by decide⟩
    | cons c more =>
      have comma : c = ',' := by simpa using stopped c (by simp [others])
      rw [others, comma] at whole
      exact ⟨'$' :: '\x7b' :: (row ++ ['|']), ',', more ++ ['|', '\x7d'], by simp [choice, whole],
        by decide⟩

theorem reducing_tabStop : Reducing tabStop? := by
  intro text replacement length found
  obtain ⟨rfl, row, rest, digits, cut | cut⟩ := tabStop?_eq_some found
  · refine ⟨'$' :: '\x7b' :: (row ++ ['\x7d']), rest, by simp [cut.1], by simp [cut.2],
      ⟨'$', _, rfl, by decide⟩, ?_, .inl (by simp [Text.Unbroken])⟩
    exact ⟨'$' :: '\x7b' :: row, '\x7d', by simp, by decide⟩
  · obtain ⟨more, c, row_eq, mark⟩ := digits.ends
    exact ⟨'$' :: row, rest, by simp [cut.1], by simp [cut.2], ⟨'$', _, rfl, by decide⟩,
      ⟨'$' :: more, c, by simp [row_eq], mark⟩, .inl (by simp [Text.Unbroken])⟩

-- Replacing a text between two marks by an unbroken one is a reducing pass.
theorem reducing_replace (old new : Text) (opens : ∃ c more, old = c :: more ∧ Mark c)
    (ends : ∃ more c, old = more ++ [c] ∧ Mark c) (whole : new.Unbroken) :
    Reducing fun ahead => if old.isPrefixOf ahead then some (new, old.length) else none := by
  intro text replacement length found
  dsimp only at found
  split at found
  · next fits =>
    obtain ⟨rfl, rfl⟩ := Prod.mk.inj (Option.some.inj found)
    obtain ⟨rest, cut⟩ := List.isPrefixOf_iff_prefix.mp fits
    exact ⟨old, rest, cut.symm, rfl, opens, ends, .inl whole⟩
  · simp at found

theorem render_keeps (Holds : Text → Prop)
    (pass : ∀ find, Reducing find → ∀ text, Holds text → Holds (text.substitute find)) {text : Text}
    (holds : Holds text) : Holds (render text) := by
  -- The rounds that resolve placeholders are passes of one kind, as many as there may be.
  have resolved (rounds : Nat) (text : Text) (holds : Holds text) : Holds (resolve rounds text) := by
    induction rounds generalizing text with
    | zero => exact holds
    | succ rounds ih =>
      simp only [resolve]
      split
      · exact holds
      · exact ih _ (pass _ reducing_placeholder _ holds)
  have set_aside := reducing_replace ['\\', '$'] ['\x00']
    ⟨'\\', ['$'], rfl, by decide⟩ ⟨['\\'], '$', rfl, by decide⟩ (by decide)
  have put_back := reducing_replace ['\x00'] ['$']
    ⟨'\x00', [], rfl, by decide⟩ ⟨[], '\x00', rfl, by decide⟩ (by decide)
  exact pass _ put_back _ (pass _ reducing_tabStop _ (pass _ reducing_choice _
    (resolved _ _ (pass _ set_aside _ holds))))

theorem getLast?_render {text : Text} (feed : text.getLast? = some '\n') :
    (render text).getLast? = some '\n' := by
  refine render_keeps (fun text => text.getLast? = some '\n') (fun find reducing text => ?_) feed
  -- For the induction: a rest that is empty stays so, and then the character before it was the last.
  suffices (text = [] → text.substitute find = []) ∧
      (text.getLast? = some '\n' → (text.substitute find).getLast? = some '\n') from this.2
  induction text using reducing.induction with
  | nil => simp
  | pass c rest _ ih =>
    refine ⟨by simp, fun last => ?_⟩
    cases rest with
    | nil => simpa [ih.1 rfl] using last
    | cons d more =>
      have last : (d :: more).getLast? = some '\n' := by simpa [List.getLast?_cons] using last
      simp [List.getLast?_cons, ih.2 last]
  | replace taken rest replacement _ reduces ih =>
    obtain ⟨more, c, rfl, mark⟩ := reduces.ends
    refine ⟨by simp, fun last => ?_⟩
    rw [List.getLast?_append, List.getLast?_concat] at last
    cases behind : rest.getLast? with
    | none => simp [behind, mark.2.2.2.2] at last
    | some d =>
      have last : rest.getLast? = some '\n' := by simpa [behind] using last
      simp [List.getLast?_append, ih.2 last]

end Snippet

end Docblock
