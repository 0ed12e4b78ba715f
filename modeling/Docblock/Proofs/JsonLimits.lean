import Docblock.Json.Reader
import Docblock.Proofs.Scanning

/-! The limits of the JSON reader. It gives up a text that is no JSON, and besides one with a row of digits that is
too long for a number, or with more brackets than values may stand in each other. Its steps never run out. -/

set_option autoImplicit false

namespace Docblock.Json

def opensContainer (c : Char) : Bool := c == '[' || c == '\x7b'

/-- What a text must hold for its reading to end with an error, where `room` values may still open in each
other. -/
def Blames (room : Nat) (text : Text) : ReadError → Prop
  | .malformed _ rest => rest <:+ text
  | .tooLong _ => ∃ row, row <:+: text ∧ row.all Char.isDigit = true ∧ maxDigits < row.length
  | .tooDeep _ => room < text.countP opensContainer

/-- What is left behind what was read is the end of the text, and an error has its reason in the text. -/
def Within {α : Type} (room : Nat) (text : Text) : Except ReadError (α × Text) → Prop
  | .ok (_, rest) => rest <:+ text
  | .error error => Blames room text error

section
variable {α β : Type} {room : Nat} {text part : Text}

theorem Blames.of_suffix {error : ReadError} (blames : Blames room part error) (suffix : part <:+ text) :
    Blames room text error := by
  cases error with
  | malformed complaint rest => exact List.IsSuffix.trans blames suffix
  | tooLong limit =>
    obtain ⟨row, infix_part, digits, long⟩ := blames
    exact ⟨row, infix_part.trans suffix.isInfix, digits, long⟩
  | tooDeep innermost => exact Nat.lt_of_lt_of_le blames (suffix.sublist.countP_le)

namespace Within

theorem malformed {complaint : Complaint} {rest : Text} (suffix : rest <:+ text) :
    Within (α := α) room text (.error (.malformed complaint rest)) := suffix

theorem of_suffix {result : Except ReadError (α × Text)} (within : Within room part result) (suffix : part <:+ text) :
    Within room text result := by
  cases result with
  | error error => exact Blames.of_suffix within suffix
  | ok found => exact List.IsSuffix.trans within suffix

theorem bind {first : Except ReadError (α × Text)} {next : α × Text → Except ReadError (β × Text)}
    (within : Within room text first) (goes_on : ∀ value rest, rest <:+ text → Within room text (next (value, rest))) :
    Within room text (first >>= next) := by
  cases first with
  | error error => exact within
  | ok found => exact goes_on found.1 found.2 within

theorem bind_congr {first : Except ReadError (α × Text)}
    {next other : α × Text → Except ReadError (β × Text)} (within : Within room text first)
    (same : ∀ value rest, rest <:+ text → next (value, rest) = other (value, rest)) : first >>= next = first >>= other := by
  cases first with
  | error error => rfl
  | ok found => exact same found.1 found.2 within

theorem opened {result : Except ReadError (α × Text)} {c : Char} {rest : Text} (opens : opensContainer c = true)
    (within : Within room rest result) : Within (room + 1) (c :: rest) result := by
  cases result with
  | ok found => exact List.IsSuffix.trans within (List.suffix_cons c rest)
  | error error =>
    cases error with
    | tooDeep innermost =>
      have deep : room < rest.countP opensContainer := within
      show room + 1 < (c :: rest).countP opensContainer
      rw [List.countP_cons_of_pos opens]
      omega
    | malformed complaint left =>
      exact Blames.of_suffix (show Blames room rest (.malformed complaint left) from within) (List.suffix_cons c rest)
    | tooLong limit => exact Blames.of_suffix (show Blames room rest (.tooLong limit) from within) (List.suffix_cons c rest)

end Within

/-! ## Strings and numbers -/

theorem skipSpace_suffix (text : Text) : skipSpace text <:+ text := List.dropWhile_suffix _

theorem within_units (room : Nat) {opened : Text} (done : List Nat) (suffix : text <:+ opened) :
    Within room opened (units opened done text) := by
  fun_induction units opened done text with
  | case1 => exact .malformed (List.suffix_refl _)
  | case2 done rest => exact (List.suffix_cons '"' rest).trans suffix
  | case3 | case5 | case6 => exact .malformed ((List.suffix_cons '\\' _).trans suffix)
  | case4 done a b c d rest unit found more ih => exact ih (.trans ⟨['\\', 'u', a, b, c, d], rfl⟩ suffix)
  | case7 done c rest other other_too meant found ih => exact ih (.trans ⟨['\\', c], rfl⟩ suffix)
  | case8 => exact .malformed suffix
  | case9 => exact .malformed (List.suffix_refl _)
  | case10 => exact .malformed suffix
  | case11 done c rest _ _ _ _ _ _ ih => exact ih ((List.suffix_cons c rest).trans suffix)

theorem within_string (room : Nat) (text : Text) : Within room ('"' :: text) (string text) :=
  (within_units room [] (List.suffix_cons '"' text)).bind fun _ _ suffix => suffix

theorem digits_suffix (text : Text) : (digits text).2 <:+ text := List.dropWhile_suffix _

theorem fraction_suffix (text : Text) : (fraction text).2 <:+ text := by
  unfold fraction
  split
  · next rest =>
    split
    · exact List.suffix_refl _
    · exact (digits_suffix rest).trans (List.suffix_cons '.' rest)
  · exact List.suffix_refl _

theorem exponent_suffix (text : Text) : (exponent text).2 <:+ text := by
  have signed (negative : Bool) {rest : Text} (suffix : rest <:+ text) :
      (if (digits rest).1.isEmpty then ((none : Option Int), text)
        else (some (if negative then -(numberOfDigits (digits rest).1 : Int) else numberOfDigits (digits rest).1),
          (digits rest).2)).2 <:+ text := by
    split
    · exact List.suffix_refl _
    · exact (digits_suffix rest).trans suffix
  unfold exponent
  dsimp only
  split
  · next rest => exact signed true ⟨['e', '-'], rfl⟩
  · next rest => exact signed true ⟨['E', '-'], rfl⟩
  · next rest => exact signed false ⟨['e', '+'], rfl⟩
  · next rest => exact signed false ⟨['E', '+'], rfl⟩
  · next rest _ _ => exact signed false ⟨['e'], rfl⟩
  · next rest _ _ => exact signed false ⟨['E'], rfl⟩
  · exact List.suffix_refl _

theorem blames_of_readNumber (room : Nat) {row : Text} {limit : DigitLimit} (failed : readNumber row = .error limit)
    (inside : row <:+: text) (digits_only : row.all Char.isDigit = true) : Blames room text (.tooLong limit) := by
  unfold readNumber at failed
  split at failed
  · next long => exact ⟨row, inside, digits_only, long⟩
  · simp at failed

theorem within_number (room : Nat) {opened : Text} (negative : Bool) (part_suffix : text <:+ opened) :
    Within room opened (number opened negative text) := by
  unfold number
  split
  next whole rest cut =>
  have facts : (whole, rest).2 <:+ text ∧ (whole, rest).1 <:+: text ∧ (whole, rest).1.all Char.isDigit = true := by
    rw [← cut]
    split
    · next rest => exact ⟨List.suffix_cons '0' rest, ⟨[], rest, rfl⟩, rfl⟩
    · exact ⟨digits_suffix text, (List.takeWhile_prefix _).isInfix, List.all_takeWhile⟩
  obtain ⟨suffix, inside, digits_only⟩ := facts
  have behind : (exponent (fraction rest).2).2 <:+ opened :=
    (exponent_suffix _).trans ((fraction_suffix rest).trans (suffix.trans part_suffix))
  dsimp only
  split
  · exact .malformed (List.suffix_refl _)
  · split
    · split
      · exact behind
      · next failed => exact blames_of_readNumber room failed (inside.trans part_suffix.isInfix) digits_only
    · exact behind

theorem within_scalar (room : Nat) (text : Text) : Within room text (scalar text) := by
  unfold scalar
  split
  · next word value found => exact List.drop_suffix _ _
  · split
    · next rest _ => exact within_number room true (List.suffix_cons '-' rest)
    · exact within_number room false (List.suffix_refl text)

/-! ## Values in values -/

section
variable {fuel : Nat}

theorem within_value (items_within : ∀ room text, Within room text (items fuel room text))
    (members_within : ∀ room before text, Within room text (members fuel room before text)) (room : Nat)
    (text : Text) : Within room text (value (fuel + 1) room text) := by
  unfold value
  split
  · next rest => exact (within_string room rest).bind fun _ _ suffix => suffix
  · next rest =>
    show 0 < ('[' :: rest).countP opensContainer
    simp [opensContainer]
  · next rest =>
    show 0 < ('\x7b' :: rest).countP opensContainer
    simp [opensContainer]
  · next rest room =>
    refine .opened rfl (.of_suffix ?_ (skipSpace_suffix rest))
    split
    · next behind ended => exact ended ▸ List.suffix_cons ']' behind
    · exact (items_within room _).bind fun _ _ suffix => suffix
  · next rest room =>
    refine .opened rfl (.of_suffix ?_ (skipSpace_suffix rest))
    split
    · next behind ended => exact ended ▸ List.suffix_cons '\x7d' behind
    · exact (members_within room [] _).bind fun _ _ suffix => suffix
  · exact within_scalar room _

theorem suffix_of_skipSpace {part rest text : Text} {c : Char} (ahead : skipSpace part = c :: rest)
    (suffix : part <:+ text) : rest <:+ text :=
  (List.suffix_cons c rest).trans (ahead ▸ (skipSpace_suffix part).trans suffix)

theorem within_items (value_within : ∀ room text, Within room text (value fuel room text))
    (items_within : ∀ room text, Within room text (items fuel room text)) (room : Nat) (text : Text) :
    Within room text (items (fuel + 1) room text) := by
  unfold items
  refine (value_within room text).bind fun first rest suffix => ?_
  dsimp only
  split
  · next behind ended => exact suffix_of_skipSpace ended suffix
  · next more going_on =>
    have next_suffix := (skipSpace_suffix more).trans (suffix_of_skipSpace going_on suffix)
    exact ((items_within room (skipSpace more)).of_suffix next_suffix).bind fun _ _ suffix => suffix
  · exact .malformed ((skipSpace_suffix rest).trans suffix)

theorem within_members (value_within : ∀ room text, Within room text (value fuel room text))
    (members_within : ∀ room before text, Within room text (members fuel room before text)) (room : Nat)
    (before : Entries Points (Json Points)) (text : Text) : Within room text (members (fuel + 1) room before text) := by
  unfold members
  split
  · next rest =>
    refine (within_string room rest).bind fun name afterName name_suffix => ?_
    dsimp only
    split
    · next afterColon colon =>
      have colon_suffix := (skipSpace_suffix afterColon).trans (suffix_of_skipSpace colon name_suffix)
      refine ((value_within room _).of_suffix colon_suffix).bind fun content afterValue suffix => ?_
      dsimp only
      split
      · next behind ended => exact suffix_of_skipSpace ended suffix
      · next more going_on =>
        exact (members_within room _ _).of_suffix
          ((skipSpace_suffix more).trans (suffix_of_skipSpace going_on suffix))
      · exact .malformed ((skipSpace_suffix afterValue).trans suffix)
    · exact .malformed ((skipSpace_suffix afterName).trans name_suffix)
  · exact .malformed (List.suffix_refl text)

end

theorem within_all (fuel : Nat) :
    (∀ room text, Within room text (value fuel room text)) ∧
    (∀ room text, Within room text (items fuel room text)) ∧
    ∀ room before text, Within room text (members fuel room before text) := by
  induction fuel with
  | zero =>
    refine ⟨fun room text => ?_, fun room text => ?_, fun room before text => ?_⟩
    · rw [value]
      exact .malformed (List.suffix_refl text)
    · rw [items]
      exact .malformed (List.suffix_refl text)
    · rw [members]
      exact .malformed (List.suffix_refl text)
  | succ fuel ih =>
    obtain ⟨value_within, items_within, members_within⟩ := ih
    exact ⟨within_value items_within members_within, within_items value_within items_within,
      within_members value_within members_within⟩

/-! ## Steps -/

section
variable {fuel : Nat}

theorem length_lt_of_skipSpace {rest : Text} {c : Char} (ahead : skipSpace part = c :: rest)
    (suffix : part <:+ text) : rest.length < text.length :=
  Nat.lt_of_lt_of_le (by simp) ((ahead ▸ skipSpace_suffix part : c :: rest <:+ part).trans suffix).length_le

theorem value_more_steps
    (items_same : ∀ room text, 2 * text.length + 1 < fuel → items (fuel + 1) room text = items fuel room text)
    (members_same : ∀ room before text, 2 * text.length + 1 < fuel →
      members (fuel + 1) room before text = members fuel room before text) (room : Nat)
    (enough : 2 * text.length < fuel + 1) : value (fuel + 2) room text = value (fuel + 1) room text := by
  unfold value
  split
  · rfl
  · rfl
  · rfl
  · next rest room =>
    split
    · rfl
    · rw [items_same]
      have := (skipSpace_suffix rest).length_le
      simp at enough
      omega
  · next rest room =>
    split
    · rfl
    · rw [members_same]
      have := (skipSpace_suffix rest).length_le
      simp at enough
      omega
  · rfl

theorem items_more_steps
    (value_same : ∀ room text, 2 * text.length < fuel → value (fuel + 1) room text = value fuel room text)
    (items_same : ∀ room text, 2 * text.length + 1 < fuel → items (fuel + 1) room text = items fuel room text)
    (room : Nat) (enough : 2 * text.length + 1 < fuel + 1) :
    items (fuel + 2) room text = items (fuel + 1) room text := by
  unfold items
  rw [value_same room text (by omega)]
  refine ((within_all fuel).1 room text).bind_congr fun first rest suffix => ?_
  dsimp only
  split
  · rfl
  · next more going_on =>
    have shorter := length_lt_of_skipSpace going_on suffix
    have no_longer := (skipSpace_suffix more).length_le
    rw [items_same room (skipSpace more) (by omega)]
  · rfl

theorem members_more_steps
    (value_same : ∀ room text, 2 * text.length < fuel → value (fuel + 1) room text = value fuel room text)
    (members_same : ∀ room before text, 2 * text.length + 1 < fuel →
      members (fuel + 1) room before text = members fuel room before text)
    (room : Nat) (before : Entries Points (Json Points)) (enough : 2 * text.length + 1 < fuel + 1) :
    members (fuel + 2) room before text = members (fuel + 1) room before text := by
  unfold members
  split
  · next rest =>
    refine (within_string room rest).bind_congr fun name afterName name_suffix => ?_
    dsimp only
    split
    · next afterColon colon =>
      have colon_shorter := length_lt_of_skipSpace colon name_suffix
      have colon_no_longer := (skipSpace_suffix afterColon).length_le
      rw [value_same room (skipSpace afterColon) (by omega)]
      refine ((within_all fuel).1 room _).bind_congr fun content afterValue suffix => ?_
      dsimp only
      split
      · rfl
      · next more going_on =>
        have shorter := length_lt_of_skipSpace going_on suffix
        have no_longer := (skipSpace_suffix more).length_le
        rw [members_same room _ (skipSpace more) (by omega)]
      · rfl
    · rfl
  · rfl

theorem more_steps (fuel : Nat) :
    (∀ room text, 2 * text.length < fuel → value (fuel + 1) room text = value fuel room text) ∧
    (∀ room text, 2 * text.length + 1 < fuel → items (fuel + 1) room text = items fuel room text) ∧
    ∀ room before text, 2 * text.length + 1 < fuel →
      members (fuel + 1) room before text = members fuel room before text := by
  induction fuel with
  | zero => exact ⟨fun _ _ few => absurd few (Nat.not_lt_zero _), fun _ _ few => absurd few (Nat.not_lt_zero _),
      fun _ _ _ few => absurd few (Nat.not_lt_zero _)⟩
  | succ fuel ih =>
    obtain ⟨value_same, items_same, members_same⟩ := ih
    exact ⟨fun room _ => value_more_steps items_same members_same room,
      fun room _ => items_more_steps value_same items_same room,
      fun room before _ => members_more_steps value_same members_same room before⟩

/-- The steps that a text is given suffice: with more of them nothing else is read. -/
theorem value_of_steps_le (room : Nat) (enough : 2 * text.length + 1 ≤ fuel) :
    value fuel room text = value (2 * text.length + 1) room text := by
  obtain ⟨extra, rfl⟩ := Nat.exists_eq_add_of_le enough
  induction extra with
  | zero => rfl
  | succ extra ih =>
    have some_left : 2 * text.length < 2 * text.length + 1 + extra := by omega
    exact ((more_steps _).1 room text some_left).trans (ih (Nat.le_add_right _ _))

end

/-! ## Modest texts -/

end

end Docblock.Json
