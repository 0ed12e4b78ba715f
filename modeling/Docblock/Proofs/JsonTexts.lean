import Docblock.Json.Reader
import Docblock.Proofs.Scanning

/-! Texts of JSON values. A value that is made of strings, arrays and objects can be written in many ways, which differ
in blanks and in how characters are escaped. Whichever way it is written, it is what is read. -/

set_option autoImplicit false

namespace Docblock.Json

open scoped Text

/-! ## Strings -/

def HexDigit (value : Nat) (c : Char) : Prop :=
  "0123456789abcdef".toList[value]? = some c ∨ "0123456789ABCDEF".toList[value]? = some c

inductive FourDigits : Nat → Text → Prop where
  | digits {u v w x : Nat} {a b c d : Char} : HexDigit u a → HexDigit v b → HexDigit w c → HexDigit x d →
      FourDigits (4096 * u + 256 * v + 16 * w + x) [a, b, c, d]

/-- The characters that have a short form, behind the mark that stands for them after a backslash. -/
def shortForms : List (Char × Char) :=
  [('"', '"'), ('\\', '\\'), ('/', '/'), ('b', '\x08'), ('f', '\x0c'), ('n', '\n'), ('r', '\r'), ('t', '\t')]

/-- The ways to write a character in a string. One beyond the basic plane can be written as two surrogates. -/
inductive Spells (c : Char) : Text → Prop where
  | itself : c ≠ '"' → c ≠ '\\' → 32 ≤ c.toNat → Spells c [c]
  | short {mark : Char} : (mark, c) ∈ shortForms → Spells c ['\\', mark]
  | code {row : Text} : FourDigits c.toNat row → Spells c ('\\' :: 'u' :: row)
  | pair {high low : Nat} {row more : Text} : high < 0x400 → low < 0x400 →
      c.toNat = 0x10000 + 0x400 * high + low → FourDigits (0xD800 + high) row → FourDigits (0xDC00 + low) more →
      Spells c ('\\' :: 'u' :: row ++ '\\' :: 'u' :: more)

/-- The inside of a string: its characters, written one after the other. -/
inductive SpellsAll : Text → Text → Prop where
  | nil : SpellsAll [] []
  | cons {c : Char} {rest front behind : Text} : Spells c front → SpellsAll rest behind →
      SpellsAll (c :: rest) (front ++ behind)

theorem SpellsAll.itself {content : Text} (plain : ∀ c ∈ content, c ≠ '"' ∧ c ≠ '\\' ∧ 32 ≤ c.toNat) :
    SpellsAll content content := by
  induction content with
  | nil => exact .nil
  | cons c rest ih =>
    obtain ⟨⟨no_quote, no_escape, printed⟩, rest_plain⟩ := List.forall_mem_cons.mp plain
    exact .cons (.itself no_quote no_escape printed) (ih rest_plain)

inductive Quotes (content : Text) : Text → Prop where
  | quoted {inside : Text} : SpellsAll content inside → Quotes content ('"' :: (inside ++ ['"']))

section
variable {content front inside row written : Text} {c : Char} {code : Nat}

theorem hexValue?_of_hexDigit {value : Nat} (digit : HexDigit value c) : hexValue? c = some value := by
  have lower : ∀ value : Fin 16, hexValue? ("0123456789abcdef".toList.get value) = some value := by decide
  have upper : ∀ value : Fin 16, hexValue? ("0123456789ABCDEF".toList.get value) = some value := by decide
  rcases digit with found | found
  · obtain ⟨within, rfl⟩ := List.getElem?_eq_some_iff.mp found
    exact lower ⟨value, within⟩
  · obtain ⟨within, rfl⟩ := List.getElem?_eq_some_iff.mp found
    exact upper ⟨value, within⟩

theorem units_code (digits : FourDigits code row) (opened : Text) (done : List Nat) {rest : Text} (more : rest ≠ []) :
    units opened done ('\\' :: 'u' :: row ++ rest) = units opened (code :: done) rest := by
  cases digits with
  | digits first second third fourth =>
    simp [units, hexUnit?, hexValue?_of_hexDigit first, hexValue?_of_hexDigit second, hexValue?_of_hexDigit third,
      hexValue?_of_hexDigit fourth, more]

theorem units_short {mark : Char} (short : (mark, c) ∈ shortForms) (opened : Text) (done : List Nat) (rest : Text) :
    units opened done ('\\' :: mark :: rest) = units opened (c.toNat :: done) rest := by
  have read : ∀ form ∈ shortForms, form.1 ≠ 'u' ∧ escape? form.1 = some form.2 := by decide
  obtain ⟨no_code, meant⟩ := read _ short
  rw [units.eq_5 _ _ _ _ (by rintro a b c d more rfl; exact absurd rfl no_code) no_code]
  simp only [meant]

theorem units_itself (no_quote : c ≠ '"') (no_escape : c ≠ '\\') (printed : 32 ≤ c.toNat) (opened : Text)
    (done : List Nat) (rest : Text) : units opened done (c :: rest) = units opened (c.toNat :: done) rest := by
  rw [units.eq_6 _ _ _ _ no_quote (fun _ _ _ _ _ same _ => no_escape same) (fun _ same _ => no_escape same)
    (fun _ _ same _ => no_escape same), if_neg no_escape, if_neg (Nat.not_lt.mpr printed)]

theorem ofCode_eq_char (plain : code < 0xD800 ∨ 0xDFFF < code) : Point.ofCode code = .char (Char.ofNat code) :=
  dif_neg (by omega)

theorem joinSurrogates_cons (plain : code < 0xD800 ∨ 0xDFFF < code) (more : List Nat) :
    joinSurrogates (code :: more) = .char (Char.ofNat code) :: joinSurrogates more := by
  cases more with
  | nil => rw [joinSurrogates, joinSurrogates, ofCode_eq_char plain]
  | cons low rest => rw [joinSurrogates, if_neg (by omega), ofCode_eq_char plain]

theorem joinSurrogates_toNat (c : Char) (more : List Nat) :
    joinSurrogates (c.toNat :: more) = .char c :: joinSurrogates more := by
  have plain : c.toNat < 0xD800 ∨ 0xDFFF < c.toNat := c.valid.imp id And.left
  rw [joinSurrogates_cons plain, Char.ofNat_toNat]

theorem joinSurrogates_pair {high low : Nat} (high_bound : high < 0x400) (low_bound : low < 0x400) (more : List Nat) :
    joinSurrogates ((0xD800 + high) :: (0xDC00 + low) :: more) =
      .char (Char.ofNat (0x10000 + 0x400 * high + low)) :: joinSurrogates more := by
  rw [joinSurrogates, if_pos (by omega), Nat.add_sub_cancel_left, Nat.add_sub_cancel_left, ofCode_eq_char (by omega)]

/-- The codes are what is read of a part of a string, whatever stands around it; it does not end the text. -/
def Decodes (written : Text) (codes : List Nat) : Prop :=
  ∀ opened done rest, rest ≠ [] → units opened done (written ++ rest) = units opened (codes.reverse ++ done) rest

theorem Spells.decodes (spells : Spells c front) :
    ∃ codes, Decodes front codes ∧ ∀ more, joinSurrogates (codes ++ more) = .char c :: joinSurrogates more := by
  cases spells with
  | itself no_quote no_escape printed =>
    exact ⟨[c.toNat], fun opened done rest _ => units_itself no_quote no_escape printed opened done rest,
      joinSurrogates_toNat c⟩
  | short short => exact ⟨[c.toNat], fun opened done rest _ => units_short short opened done rest, joinSurrogates_toNat c⟩
  | code digits => exact ⟨[c.toNat], fun opened done rest more => units_code digits opened done more, joinSurrogates_toNat c⟩
  | @pair high low row more high_bound low_bound same first second =>
    refine ⟨[0xD800 + high, 0xDC00 + low], fun opened done rest behind => ?_, fun behind => ?_⟩
    · rw [List.append_assoc, units_code first opened done (by simp), List.cons_append, List.cons_append,
        ← List.cons_append, ← List.cons_append, units_code second opened _ behind]
      rfl
    · rw [List.cons_append, List.singleton_append, joinSurrogates_pair high_bound low_bound, ← same, Char.ofNat_toNat]

theorem SpellsAll.decodes (spells : SpellsAll content inside) :
    ∃ codes, Decodes inside codes ∧ joinSurrogates codes = .ofText content := by
  induction spells with
  | nil => exact ⟨[], fun opened done rest _ => rfl, rfl⟩
  | cons spells _ ih =>
    obtain ⟨first, first_decodes, first_joined⟩ := spells.decodes
    obtain ⟨others, others_decode, others_joined⟩ := ih
    refine ⟨first ++ others, fun opened done rest more => ?_, ?_⟩
    · rw [List.append_assoc, first_decodes _ _ _ (by simp [more]), others_decode _ _ _ more, List.reverse_append,
        List.append_assoc]
    · rw [first_joined, others_joined]
      rfl

theorem string_of_spellsAll (spells : SpellsAll content inside) (rest : Text) :
    string (inside ++ '"' :: rest) = .ok (.ofText content, rest) := by
  obtain ⟨codes, decodes, joined⟩ := spells.decodes
  have closed (opened : Text) : units opened [] (inside ++ '"' :: rest) = .ok (codes, rest) := by
    rw [decodes _ _ _ (List.cons_ne_nil _ _), units, List.append_nil, List.reverse_reverse]
  simp [string, closed, joined, bind, Except.bind, pure, Except.pure]

end

/-! ## Blanks -/

def Space (gap : Text) : Prop := ∀ c ∈ gap, isSpace c = true

instance (gap : Text) : Decidable (Space gap) := List.decidableBAll _ gap

theorem skipSpace_append {gap : Text} (space : Space gap) (rest : Text) : skipSpace (gap ++ rest) = skipSpace rest :=
  List.dropWhile_append_of_pos space

theorem skipSpace_cons {c : Char} (visible : isSpace c = false) (rest : Text) : skipSpace (c :: rest) = c :: rest := by
  simp [skipSpace, visible]

theorem skipSpace_gap {gap : Text} {c : Char} (space : Space gap) (visible : isSpace c = false) (rest : Text) :
    skipSpace (gap ++ c :: rest) = c :: rest :=
  (skipSpace_append space _).trans (skipSpace_cons visible rest)

/-! ## Values -/

mutual

/-- How many arrays and objects stand in each other in a value. -/
def depth : Json Points → Nat
  | .array items => deepestItem items + 1
  | .object fields => deepestField fields + 1
  | _ => 0

def deepestItem : List (Json Points) → Nat
  | [] => 0
  | item :: rest => max (depth item) (deepestItem rest)

def deepestField : List (Points × Json Points) → Nat
  | [] => 0
  | (_, content) :: rest => max (depth content) (deepestField rest)

end

theorem deepestItem_le_iff {items : List (Json Points)} {bound : Nat} :
    deepestItem items ≤ bound ↔ ∀ item ∈ items, depth item ≤ bound := by
  induction items with
  | nil => simp [deepestItem]
  | cons item rest ih => rw [deepestItem, Nat.max_le, ih, List.forall_mem_cons]

theorem deepestField_le_iff {fields : List (Points × Json Points)} {bound : Nat} :
    deepestField fields ≤ bound ↔ ∀ field ∈ fields, depth field.2 ≤ bound := by
  induction fields with
  | nil => simp [deepestField]
  | cons field rest ih => rw [deepestField, Nat.max_le, ih, List.forall_mem_cons]

mutual

/-- The ways to write a value that is made of strings, arrays and objects. No name is given twice in one object. -/
inductive Writes : Json Points → Text → Prop where
  | text {content written : Text} : Quotes content written → Writes (.text (.ofText content)) written
  | noItems {gap : Text} : Space gap → Writes (.array []) ('[' :: (gap ++ [']']))
  | array {items : List (Json Points)} {inside : Text} : WritesItems items inside →
      Writes (.array items) ('[' :: (inside ++ [']']))
  | noFields {gap : Text} : Space gap → Writes (.object []) ('\x7b' :: (gap ++ ['\x7d']))
  | object {fields : List (Points × Json Points)} {inside : Text} : (fields.map (·.1)).Nodup → WritesFields fields inside →
      Writes (.object fields) ('\x7b' :: (inside ++ ['\x7d']))

inductive WritesItem : Json Points → Text → Prop where
  | item {content : Json Points} {front written behind : Text} : Space front → Writes content written → Space behind →
      WritesItem content (front ++ (written ++ behind))

inductive WritesItems : List (Json Points) → Text → Prop where
  | last {item : Json Points} {written : Text} : WritesItem item written → WritesItems [item] written
  | cons {item : Json Points} {items : List (Json Points)} {written more : Text} : WritesItem item written → WritesItems items more →
      WritesItems (item :: items) (written ++ ',' :: more)

inductive WritesField : Points × Json Points → Text → Prop where
  | field {name front quoted gap written : Text} {content : Json Points} : Space front → Quotes name quoted → Space gap →
      WritesItem content written → WritesField (.ofText name, content) (front ++ (quoted ++ (gap ++ ':' :: written)))

inductive WritesFields : List (Points × Json Points) → Text → Prop where
  | last {field : Points × Json Points} {written : Text} : WritesField field written → WritesFields [field] written
  | cons {field : Points × Json Points} {fields : List (Points × Json Points)} {written more : Text} : WritesField field written →
      WritesFields fields more → WritesFields (field :: fields) (written ++ ',' :: more)

end

/-- A JSON text of a value: the value is written, with blanks around it. -/
def Encodes (content : Json Points) (written : Text) : Prop := WritesItem content written

section
variable {content : Json Points} {contents : List (Json Points)} {written inside : Text} {field : Points × Json Points}
  {fields : List (Points × Json Points)} {fuel room : Nat}

theorem Writes.starts (writes : Writes content written) : ∃ c tail, written = c :: tail ∧ c ∈ ['"', '[', '\x7b'] := by
  cases writes with
  | text quotes => cases quotes; exact ⟨_, _, rfl, by simp⟩
  | noItems | array | noFields | object => exact ⟨_, _, rfl, by simp⟩

theorem isSpace_start {c : Char} (start : c ∈ ['"', '[', '\x7b']) : isSpace c = false := by
  have all : ∀ c ∈ ['"', '[', '\x7b'], isSpace c = false := by decide
  exact all c start

theorem Writes.skipSpace {gap : Text} (writes : Writes content written) (space : Space gap) (rest : Text) :
    Json.skipSpace (gap ++ (written ++ rest)) = written ++ rest := by
  obtain ⟨c, tail, rfl, start⟩ := writes.starts
  exact skipSpace_gap space (isSpace_start start) (tail ++ rest)

theorem WritesItem.starts (writes : WritesItem content written) (rest : Text) :
    ∃ c tail, Json.skipSpace (written ++ rest) = c :: tail ∧ c ∈ ['"', '[', '\x7b'] := by
  cases writes with
  | @item _ front written behind space writes _ =>
    obtain ⟨c, tail, rfl, start⟩ := writes.starts
    rw [List.append_assoc, List.append_assoc]
    exact ⟨c, _, skipSpace_gap space (isSpace_start start) _, start⟩

theorem WritesItems.starts (writes : WritesItems contents inside) (rest : Text) :
    ∃ c tail, Json.skipSpace (inside ++ rest) = c :: tail ∧ c ∈ ['"', '[', '\x7b'] := by
  cases writes with
  | last writes => exact writes.starts rest
  | cons writes _ => rw [List.append_assoc]; exact writes.starts _

theorem WritesField.starts (writes : WritesField field written) (rest : Text) :
    ∃ tail, Json.skipSpace (written ++ rest) = '"' :: tail := by
  cases writes with
  | field space quotes =>
    cases quotes with
    | quoted => rw [List.append_assoc]; exact ⟨_, skipSpace_gap space rfl _⟩

theorem WritesFields.starts (writes : WritesFields fields inside) (rest : Text) :
    ∃ tail, Json.skipSpace (inside ++ rest) = '"' :: tail := by
  cases writes with
  | last writes => exact writes.starts rest
  | cons writes _ => rw [List.append_assoc]; exact writes.starts _

/-- What is written is read, when the steps suffice and no more values stand in each other than may. -/
def ReadsValues (fuel : Nat) : Prop :=
  ∀ ⦃room : Nat⦄ ⦃content : Json Points⦄ ⦃written : Text⦄, Writes content written → written.length ≤ fuel →
    depth content ≤ room → ∀ rest, value fuel room (written ++ rest) = .ok (content, rest)

def ReadsItems (fuel : Nat) : Prop :=
  ∀ ⦃room : Nat⦄ ⦃contents : List (Json Points)⦄ ⦃inside : Text⦄, WritesItems contents inside → inside.length < fuel →
    deepestItem contents ≤ room → ∀ rest, items fuel room (skipSpace (inside ++ ']' :: rest)) = .ok (contents, rest)

def ReadsFields (fuel : Nat) : Prop :=
  ∀ ⦃room : Nat⦄ ⦃before fields : List (Points × Json Points)⦄ ⦃inside : Text⦄, WritesFields fields inside →
    inside.length < fuel → deepestField fields ≤ room → ((before ++ fields).map (·.1)).Nodup →
    ∀ rest, members fuel room before (skipSpace (inside ++ '\x7d' :: rest)) = .ok (before ++ fields, rest)

theorem WritesItem.read (writes : WritesItem content written) (values_read : ReadsValues fuel)
    (short : written.length ≤ fuel) (shallow : depth content ≤ room) (rest : Text) :
    ∃ left, value fuel room (Json.skipSpace (written ++ rest)) = .ok (content, left) ∧
      Json.skipSpace left = Json.skipSpace rest := by
  cases writes with
  | @item _ front written behind front_space writes behind_space =>
    refine ⟨behind ++ rest, ?_, skipSpace_append behind_space rest⟩
    rw [List.append_assoc, List.append_assoc, writes.skipSpace front_space]
    have shorter : written.length ≤ fuel := by simp only [List.length_append] at short; omega
    exact values_read writes shorter shallow (behind ++ rest)

theorem WritesItems.read (writes : WritesItems contents inside) (values_read : ReadsValues fuel)
    (items_read : ReadsItems fuel) (short : inside.length < fuel + 1) (shallow : deepestItem contents ≤ room)
    (rest : Text) : items (fuel + 1) room (Json.skipSpace (inside ++ ']' :: rest)) = .ok (contents, rest) := by
  rw [items]
  cases writes with
  | @last item _ writes =>
    obtain ⟨left, first_read, left_eq⟩ :=
      writes.read values_read (Nat.le_of_lt_succ short) (Nat.le_trans (Nat.le_max_left ..) shallow) (']' :: rest)
    refine bind_eq_ok_iff.mpr ⟨_, first_read, ?_⟩
    dsimp only
    rw [left_eq, skipSpace_cons rfl]
    rfl
  | @cons item others written more writes others_write =>
    simp only [List.length_append, List.length_cons] at short
    obtain ⟨first_shallow, others_shallow⟩ := Nat.max_le.mp shallow
    obtain ⟨left, first_read, left_eq⟩ :=
      writes.read values_read (by omega) first_shallow (',' :: (more ++ ']' :: rest))
    rw [List.append_assoc, List.cons_append]
    refine bind_eq_ok_iff.mpr ⟨_, first_read, ?_⟩
    dsimp only
    rw [left_eq, skipSpace_cons rfl]
    exact bind_eq_ok_iff.mpr ⟨_, items_read others_write (by omega) others_shallow rest, rfl⟩

/-- A field takes the place behind those before it, and the reading goes on at the mark behind the field. -/
theorem WritesField.read (writes : WritesField field written) (values_read : ReadsValues fuel)
    (short : written.length < fuel + 1) (shallow : depth field.2 ≤ room) {before : List (Points × Json Points)}
    (fresh : field.1 ∉ before.map (·.1)) (rest : Text) :
    members (fuel + 1) room before (Json.skipSpace (written ++ rest)) =
      match Json.skipSpace rest with
      | '\x7d' :: behind => .ok (before ++ [field], behind)
      | ',' :: more => members fuel room (before ++ [field]) (Json.skipSpace more)
      | left => .error (.malformed .noComma left) := by
  cases writes with
  | @field name front quoted gap written content front_space quotes gap_space writes =>
    cases quotes with
    | @quoted inside spells =>
      simp only [List.length_append, List.length_cons] at short
      obtain ⟨left, content_read, left_eq⟩ := writes.read values_read (by omega) shallow rest
      have at_quote : Json.skipSpace (front ++ ('"' :: (inside ++ ['"']) ++ (gap ++ ':' :: written)) ++ rest) =
          '"' :: (inside ++ '"' :: (gap ++ ':' :: (written ++ rest))) := by
        simpa using skipSpace_gap front_space (show isSpace '"' = false from rfl) _
      have at_colon : Json.skipSpace (gap ++ ':' :: (written ++ rest)) = ':' :: (written ++ rest) :=
        skipSpace_gap gap_space rfl _
      have placed : Entries.set (.ofText name) content before = before ++ [(.ofText name, content)] :=
        Entries.set_of_not_mem fresh content
      rw [at_quote, members]
      simp only [string_of_spellsAll spells, at_colon, content_read, placed, left_eq, bind, Except.bind]
      rfl

theorem WritesFields.read (writes : WritesFields fields inside) (values_read : ReadsValues fuel)
    (fields_read : ReadsFields fuel) (short : inside.length < fuel + 1) (shallow : deepestField fields ≤ room)
    {before : List (Points × Json Points)} (apart : ((before ++ fields).map (·.1)).Nodup) (rest : Text) :
    members (fuel + 1) room before (Json.skipSpace (inside ++ '\x7d' :: rest)) = .ok (before ++ fields, rest) := by
  have fresh {field : Points × Json Points} {others : List (Points × Json Points)}
      (apart : ((before ++ field :: others).map (·.1)).Nodup) : field.1 ∉ before.map (·.1) := by
    rw [List.map_append, List.map_cons] at apart
    exact fun member => (List.nodup_append.mp apart).2.2 _ member _ List.mem_cons_self rfl
  cases writes with
  | @last field _ writes =>
    rw [writes.read values_read short (Nat.le_trans (Nat.le_max_left ..) shallow) (fresh apart), skipSpace_cons rfl]
    rfl
  | @cons field others written more writes others_write =>
    simp only [List.length_append, List.length_cons] at short
    obtain ⟨first_shallow, others_shallow⟩ := Nat.max_le.mp shallow
    rw [List.append_assoc, writes.read values_read (by omega) first_shallow (fresh apart), List.cons_append,
      skipSpace_cons rfl]
    rw [List.append_cons before field others] at apart ⊢
    exact fields_read others_write (by omega) others_shallow apart rest

theorem value_array {text : Text} {c : Char} {tail : Text} (inner : Json.skipSpace text = c :: tail) (more : c ≠ ']') :
    value (fuel + 1) (room + 1) ('[' :: text) = (do
      let (contents, behind) ← items fuel room (Json.skipSpace text)
      return (.array contents, behind)) := by
  rw [value, inner]
  split
  · next behind ended => exact absurd (List.cons.inj ended).1 more
  · rfl

theorem value_object {text : Text} {c : Char} {tail : Text} (inner : Json.skipSpace text = c :: tail)
    (more : c ≠ '\x7d') :
    value (fuel + 1) (room + 1) ('\x7b' :: text) = (do
      let (fields, behind) ← members fuel room [] (Json.skipSpace text)
      return (.object fields, behind)) := by
  rw [value, inner]
  split
  · next behind ended => exact absurd (List.cons.inj ended).1 more
  · rfl

theorem Writes.read (writes : Writes content written) (items_read : ReadsItems fuel) (fields_read : ReadsFields fuel)
    (short : written.length ≤ fuel + 1) (shallow : depth content ≤ room) (rest : Text) :
    value (fuel + 1) room (written ++ rest) = .ok (content, rest) := by
  cases writes with
  | text quotes =>
    cases quotes with
    | @quoted inside spells =>
      have opened : '"' :: (inside ++ ['"']) ++ rest = '"' :: (inside ++ '"' :: rest) := by simp
      rw [opened, value]
      simp only [string_of_spellsAll spells, bind, Except.bind]
      rfl
  | @noItems gap space =>
    obtain ⟨room, rfl⟩ := Nat.exists_eq_add_of_le' (show 1 ≤ room from shallow)
    have inner : Json.skipSpace (gap ++ ([']'] ++ rest)) = ']' :: rest := skipSpace_gap space rfl rest
    rw [List.cons_append, List.append_assoc, value, inner]
    rfl
  | @array contents inside writes =>
    obtain ⟨room, rfl⟩ := Nat.exists_eq_add_of_le' (Nat.le_trans (Nat.le_add_left 1 _) shallow)
    have shorter : inside.length < fuel := Nat.lt_of_succ_le (by simpa using short)
    obtain ⟨c, tail, inner, start⟩ := writes.starts (']' :: rest)
    have opened : '[' :: (inside ++ [']']) ++ rest = '[' :: (inside ++ ']' :: rest) := by simp
    rw [opened, value_array inner (by rintro rfl; simp at start)]
    exact bind_eq_ok_iff.mpr ⟨_, items_read writes shorter (Nat.le_of_succ_le_succ shallow) rest, rfl⟩
  | @noFields gap space =>
    obtain ⟨room, rfl⟩ := Nat.exists_eq_add_of_le' (show 1 ≤ room from shallow)
    have inner : Json.skipSpace (gap ++ (['\x7d'] ++ rest)) = '\x7d' :: rest := skipSpace_gap space rfl rest
    rw [List.cons_append, List.append_assoc, value, inner]
    rfl
  | @object fields inside apart writes =>
    obtain ⟨room, rfl⟩ := Nat.exists_eq_add_of_le' (Nat.le_trans (Nat.le_add_left 1 _) shallow)
    have shorter : inside.length < fuel := Nat.lt_of_succ_le (by simpa using short)
    obtain ⟨tail, inner⟩ := writes.starts ('\x7d' :: rest)
    have opened : '\x7b' :: (inside ++ ['\x7d']) ++ rest = '\x7b' :: (inside ++ '\x7d' :: rest) := by simp
    rw [opened, value_object inner (by decide)]
    have none_before : (([] ++ fields : List (Points × Json Points)).map (·.1)).Nodup := apart
    exact bind_eq_ok_iff.mpr ⟨_, fields_read writes shorter (Nat.le_of_succ_le_succ shallow) none_before rest, rfl⟩

theorem reads_all (fuel : Nat) : ReadsValues fuel ∧ ReadsItems fuel ∧ ReadsFields fuel := by
  induction fuel with
  | zero =>
    refine ⟨fun _ _ _ writes short _ _ => ?_, fun _ _ _ _ short _ _ => absurd short (Nat.not_lt_zero _),
      fun _ _ _ _ _ short _ _ _ => absurd short (Nat.not_lt_zero _)⟩
    obtain ⟨c, tail, rfl, _⟩ := writes.starts
    exact absurd short (Nat.not_succ_le_zero _)
  | succ fuel ih =>
    -- Each reader spends a step before it hands what is left of the text to the others, which is shorter by then.
    obtain ⟨values_read, items_read, fields_read⟩ := ih
    exact ⟨fun _ _ _ writes => writes.read items_read fields_read,
      fun _ _ _ writes => writes.read values_read items_read,
      fun _ _ _ _ writes short shallow apart => writes.read values_read fields_read short shallow apart⟩

theorem WritesItem.head?_ne_mark (writes : WritesItem content written) : written.head? ≠ some '\ufeff' := by
  intro marked
  obtain ⟨tail, rfl⟩ := List.head?_eq_some_iff.mp marked
  obtain ⟨c, more, at_start, start⟩ := writes.starts []
  rw [List.cons_append, skipSpace_cons (by decide)] at at_start
  rw [← (List.cons.inj at_start).1] at start
  simp at start

/-- A value is read from every text of it, if no more values stand in each other than may. -/
theorem read_of_encodes {limit : Nat} (encodes : Encodes content written) (shallow : depth content ≤ limit) :
    read limit written = .ok content := by
  have values_read := (reads_all (2 * written.length + 1)).1
  obtain ⟨left, content_read, left_eq⟩ := encodes.read values_read (by omega) shallow []
  rw [List.append_nil] at content_read
  unfold read
  rw [if_neg encodes.head?_ne_mark]
  refine bind_eq_ok_iff.mpr ⟨_, content_read, ?_⟩
  dsimp only
  rw [left_eq]
  rfl

end

end Docblock.Json
