import Docblock.Proofs.Lines
import Docblock.Proofs.Trimming
import Docblock.Signature
import Mathlib.Data.List.Infix

/-! Brackets in parameter lists. The parenthesis that closes a list is the first behind a text with as many
closing as opening parentheses, and a list is cut at the commas between texts whose own brackets are all
closed. -/

set_option autoImplicit false

namespace Docblock.Signature

/-! ## Parentheses -/

/-- From left to right no more parentheses close than have opened, with `depth` others open in front. -/
def Guarded (depth : Nat) (text : Text) : Prop :=
  ∀ front, front <+: text → front.count ')' ≤ depth + front.count '('

/-- As many parentheses close as open, and none before it has opened. -/
def Balanced (text : Text) : Prop := text.count '(' = text.count ')' ∧ Guarded 0 text

instance (depth : Nat) (text : Text) : Decidable (Guarded depth text) :=
  decidable_of_iff (∀ front ∈ text.inits, front.count ')' ≤ depth + front.count '(') (by simp [Guarded])

instance (text : Text) : Decidable (Balanced text) := inferInstanceAs (Decidable (_ ∧ _))

theorem Guarded.front {depth : Nat} {front text : Text} (guarded : Guarded depth text)
    (starts : front <+: text) : Guarded depth front :=
  fun other within => guarded other (within.trans starts)

theorem closeParen_open (depth : Nat) (rest : Text) :
    closeParen depth ('(' :: rest) = (closeParen (depth + 1) rest).map ('(' :: ·) := by
  simp [closeParen]

theorem closeParen_close (depth : Nat) (rest : Text) :
    closeParen (depth + 1) (')' :: rest) = (closeParen depth rest).map (')' :: ·) := by
  simp [closeParen]

theorem closeParen_other {c : Char} (no_open : c ≠ '(') (no_close : c ≠ ')') (depth : Nat) (rest : Text) :
    closeParen depth (c :: rest) = (closeParen depth rest).map (c :: ·) := by
  simp [closeParen, no_open, no_close]

theorem closeParen_append {depth : Nat} {text : Text} (guarded : Guarded depth text) (rest : Text) :
    closeParen depth (text ++ rest) =
      (closeParen (depth + text.count '(' - text.count ')') rest).map (text ++ ·) := by
  induction text generalizing depth with
  | nil => simp
  | cons c more ih =>
    have counted (front : Text) (starts : front <+: more) :
        (c :: front).count ')' ≤ depth + (c :: front).count '(' :=
      guarded (c :: front) (List.cons_prefix_cons.mpr ⟨rfl, starts⟩)
    rw [List.cons_append]
    by_cases opens : c = '('
    · subst opens
      have below : Guarded (depth + 1) more := fun front starts => by
        have bound := counted front starts
        simp at bound
        omega
      rw [closeParen_open, ih below, Option.map_map]
      simp [Function.comp_def, Nat.add_right_comm, Nat.add_assoc]
    · by_cases closes : c = ')'
      · subst closes
        have bound : 1 ≤ depth := by simpa using counted [] List.nil_prefix
        obtain ⟨depth, rfl⟩ := Nat.exists_eq_add_one.mpr bound
        have below : Guarded depth more := fun front starts => by
          have bound := counted front starts
          simp at bound
          omega
        rw [closeParen_close, ih below, Option.map_map]
        have depth_eq : depth + 1 + List.count '(' (')' :: more) - List.count ')' (')' :: more) =
            depth + more.count '(' - more.count ')' := by
          simp
          omega
        rw [depth_eq]
        rfl
      · have below : Guarded depth more := fun front starts => by
          simpa [List.count_cons_of_ne opens, List.count_cons_of_ne closes] using counted front starts
        rw [closeParen_other opens closes, ih below, Option.map_map, List.count_cons_of_ne opens,
          List.count_cons_of_ne closes]
        rfl

theorem dropWhile_to_paren {head : Text} (no_paren : '(' ∉ head) (rest : Text) :
    (head ++ '(' :: rest).dropWhile (· != '(') = '(' :: rest := by
  rw [List.dropWhile_append_of_pos fun c within => ?_]
  · rfl
  · simpa using fun same : c = '(' => no_paren (same ▸ within)

theorem parameterList?_eq {head list : Text} (no_paren : '(' ∉ head) (balanced : Balanced list) (tail : Text) :
    parameterList? (head ++ '(' :: (list ++ ')' :: tail)) = some list := by
  rw [parameterList?, dropWhile_to_paren no_paren]
  simp only [closeParen_append balanced.2, balanced.1, Nat.zero_add, Nat.sub_self]
  simp [closeParen]

theorem parameterList?_eq_none {head list : Text} (no_paren : '(' ∉ head) (guarded : Guarded 0 list) :
    parameterList? (head ++ '(' :: list) = none := by
  have searched := closeParen_append guarded []
  rw [List.append_nil] at searched
  rw [parameterList?, dropWhile_to_paren no_paren]
  simp [searched, closeParen]

def ParenFree (text : Text) : Prop := ∀ c ∈ text, c ≠ '(' ∧ c ≠ ')'

instance (text : Text) : Decidable (ParenFree text) := List.decidableBAll _ text

theorem ParenFree.balanced {text : Text} (free : ParenFree text) : Balanced text := by
  have none_opens : text.count '(' = 0 := List.count_eq_zero.mpr fun within => (free _ within).1 rfl
  have none_closes : text.count ')' = 0 := List.count_eq_zero.mpr fun within => (free _ within).2 rfl
  refine ⟨none_opens.trans none_closes.symm, fun front starts => ?_⟩
  have fewer := starts.sublist.count_le ')'
  omega

theorem Guarded.append {depth : Nat} {text rest : Text} (guarded : Guarded depth text)
    (below : Guarded (depth + text.count '(' - text.count ')') rest) : Guarded depth (text ++ rest) := by
  intro front starts
  rcases List.prefix_or_prefix_of_prefix starts (List.prefix_append text rest) with within | ⟨more, rfl⟩
  · exact guarded front within
  · have bound := guarded text (List.prefix_refl text)
    have bound_below := below more ((List.prefix_append_right_inj text).mp starts)
    simp only [List.count_append]
    omega

theorem Guarded.concat {depth : Nat} {text : Text} {c : Char} (guarded : Guarded depth text)
    (level : c = ')' → text.count ')' < depth + text.count '(') : Guarded depth (text ++ [c]) := by
  intro front starts
  rcases List.prefix_concat_iff.mp starts with rfl | within
  · by_cases closes : c = ')'
    · subst closes
      simpa [Nat.succ_le_iff] using level rfl
    · have bound := guarded text (List.prefix_refl text)
      simp only [List.count_append, List.count_cons_of_ne closes, List.count_nil, Nat.add_zero]
      omega
  · exact guarded front within

theorem balanced_nil : Balanced [] := by decide

theorem Balanced.append {text rest : Text} (balanced : Balanced text) (below : Balanced rest) :
    Balanced (text ++ rest) := by
  refine ⟨by simp [balanced.1, below.1], balanced.2.append ?_⟩
  simpa [balanced.1] using below.2

theorem Balanced.group {text : Text} (balanced : Balanced text) : Balanced ('(' :: (text ++ [')'])) := by
  have inside : Guarded 1 text := fun front starts => (balanced.2 front starts).trans (by omega)
  have opened : Guarded 0 ['('] := by decide
  refine ⟨by simp [balanced.1], opened.append (inside.append ?_)⟩
  rw [balanced.1, Nat.add_sub_cancel]
  decide

/-! ## The list of a signature -/

/-- A place in a signature where a list stands between the first parenthesis and the one that closes it. -/
@[ext]
structure ListPlace (signature : Text) where
  head : Text
  list : Text
  tail : Text
  cut : signature = head ++ '(' :: (list ++ ')' :: tail)
  no_paren : '(' ∉ head
  balanced : Balanced list

theorem ListPlace.parameterList?_eq_list {signature : Text} (place : ListPlace signature) :
    parameterList? signature = some place.list := by
  conv_lhs => rw [place.cut]
  exact parameterList?_eq place.no_paren place.balanced place.tail

theorem ListPlace.dropWhile_eq {signature : Text} (place : ListPlace signature) :
    signature.dropWhile (· != '(') = '(' :: (place.list ++ ')' :: place.tail) := by
  conv_lhs => rw [place.cut]
  exact dropWhile_to_paren place.no_paren _

instance (signature : Text) : Subsingleton (ListPlace signature) where
  allEq place other := by
    have same_list : place.list = other.list :=
      Option.some.inj (place.parameterList?_eq_list.symm.trans other.parameterList?_eq_list)
    have same_rest := place.dropWhile_eq.symm.trans other.dropWhile_eq
    have same_whole := place.cut.symm.trans other.cut
    rw [same_rest] at same_whole
    rw [same_list] at same_rest
    exact ListPlace.ext (List.append_cancel_right same_whole) same_list (by simpa using same_rest)

/-- No closing parenthesis of a text is too many, or else the first that is has a balanced text in front of it. -/
theorem guarded_or_closed (text : Text) :
    Guarded 0 text ∨ ∃ list tail, Balanced list ∧ text = list ++ ')' :: tail := by
  -- From the end of the text: what is decided in front of a character stays so, and if none is too many there, only
  -- this one can be.
  induction text using List.reverseRecOn with
  | nil => exact .inl balanced_nil.2
  | append_singleton front c ih =>
    rcases ih with guarded | ⟨list, tail, balanced, rfl⟩
    · by_cases closes : c = ')' ∧ front.count '(' = front.count ')'
      · obtain ⟨rfl, level⟩ := closes
        exact .inr ⟨front, [], ⟨level, guarded⟩, rfl⟩
      · refine .inl (guarded.concat fun same => ?_)
        have bound := guarded front (List.prefix_refl front)
        have other : front.count '(' ≠ front.count ')' := fun level => closes ⟨same, level⟩
        omega
    · exact .inr ⟨list, tail ++ [c], balanced, by simp⟩

theorem parameterList?_none_or_place (signature : Text) :
    parameterList? signature = none ∨ Nonempty (ListPlace signature) := by
  by_cases opens : '(' ∈ signature
  · obtain ⟨head, rest, rfl, no_paren⟩ := List.eq_append_cons_of_mem opens
    rcases guarded_or_closed rest with guarded | ⟨list, tail, balanced, rfl⟩
    · exact .inl (parameterList?_eq_none no_paren guarded)
    · exact .inr ⟨⟨head, list, tail, rfl, no_paren, balanced⟩⟩
  · have dropped : signature.dropWhile (· != '(') = [] :=
      List.dropWhile_eq_nil_iff.mpr fun c within => by simpa using ne_of_mem_of_not_mem within opens
    exact .inl (by rw [parameterList?, dropped])

/-- The list of a signature is found exactly if there is a place for it, and there is no second place. -/
theorem parameterList?_iff_place (signature : Text) :
    (∀ list, parameterList? signature = some list ↔ ∃ place : ListPlace signature, place.list = list) ∧
      (parameterList? signature = none ↔ IsEmpty (ListPlace signature)) ∧ Subsingleton (ListPlace signature) := by
  refine ⟨fun list => ⟨fun found => ?_, ?_⟩, ⟨fun missed => ⟨fun place => ?_⟩, fun nowhere => ?_⟩, inferInstance⟩
  · rcases parameterList?_none_or_place signature with missed | ⟨⟨place⟩⟩
    · cases found.symm.trans missed
    · exact ⟨place, Option.some.inj (place.parameterList?_eq_list.symm.trans found)⟩
  · rintro ⟨place, rfl⟩
    exact place.parameterList?_eq_list
  · cases place.parameterList?_eq_list.symm.trans missed
  · exact (parameterList?_none_or_place signature).resolve_right fun ⟨place⟩ => nowhere.false place

-- Parentheses that are closed inside belong to the list, and one that closes in front of it does not count.
example : parameterList? ") run(a, fn(b), c) \x7b".toList = some "a, fn(b), c".toList := by decide

/-! ## Cutting at commas -/

/-- The openers that wait behind a character; none if the character ends a piece. -/
def turn (nesting : List (Char × Char)) (opened : List Char) (c : Char) : Option (List Char) :=
  if nesting.any (·.1 == c) then some (c :: opened)
  else match openerOf? nesting c, opened with
    | some opener, innermost :: outer => some (if innermost = opener then outer else opened)
    | _, _ => if c = ',' ∧ opened.isEmpty then none else some opened

theorem pieces_cons (nesting : List (Char × Char)) (opened : List Char) (c : Char) (rest : Text) :
    pieces nesting opened (c :: rest) =
      match turn nesting opened c with
      | some behind => consFirst c (pieces nesting behind rest)
      | none => [] :: pieces nesting [] rest := by
  rw [pieces.eq_def]
  unfold turn
  dsimp only
  split
  · rfl
  · split
    · split <;> simp_all
    · split <;> simp_all

/-- Text whose brackets are properly nested. Outside all of them it may have commas only if `commas`
says so; inside it may always. -/
inductive Nested (nesting : List (Char × Char)) : Bool → Text → Prop where
  | nil {commas : Bool} : Nested nesting commas []
  | plain {commas : Bool} {c : Char} {rest : Text} :
      (∀ pair ∈ nesting, pair.1 ≠ c ∧ pair.2 ≠ c) → (c = ',' → commas = true) →
        Nested nesting commas rest → Nested nesting commas (c :: rest)
  | group {commas : Bool} {pair : Char × Char} {inner rest : Text} :
      pair ∈ nesting → Nested nesting true inner → Nested nesting commas rest →
        Nested nesting commas (pair.1 :: (inner ++ pair.2 :: rest))

/-- Text whose brackets are all closed. A closer counts for nothing where the bracket around it is of another kind, or
where there is none; `innermost` is the bracket around the whole text. Outside all brackets of its own the text may have
commas only if `commas` says so. -/
inductive Settled (nesting : List (Char × Char)) : Option Char → Bool → Text → Prop where
  | nil {innermost : Option Char} {commas : Bool} : Settled nesting innermost commas []
  | plain {innermost : Option Char} {commas : Bool} {c : Char} {rest : Text} :
      (∀ pair ∈ nesting, pair.1 ≠ c ∧ (innermost = some pair.1 → pair.2 ≠ c)) → (c = ',' → commas = true) →
        Settled nesting innermost commas rest → Settled nesting innermost commas (c :: rest)
  | group {innermost : Option Char} {commas : Bool} {pair : Char × Char} {inner rest : Text} :
      pair ∈ nesting → Settled nesting (some pair.1) true inner → Settled nesting innermost commas rest →
        Settled nesting innermost commas (pair.1 :: (inner ++ pair.2 :: rest))

theorem Settled.ofNested {nesting : List (Char × Char)} {innermost : Option Char} {commas : Bool} {text : Text}
    (nested : Nested nesting commas text) : Settled nesting innermost commas text := by
  induction nested generalizing innermost with
  | nil => exact .nil
  | plain other comma _ ih =>
    exact .plain (fun pair member => ⟨(other pair member).1, fun _ => (other pair member).2⟩) comma ih
  | group member _ _ ih_inner ih_rest => exact .group member ih_inner ih_rest

/-- A table of brackets that cannot be mistaken for each other or for a comma. -/
def Distinct (nesting : List (Char × Char)) : Prop :=
  ∀ pair ∈ nesting, openerOf? nesting pair.2 = some pair.1 ∧ nesting.any (·.1 == pair.2) = false ∧
    pair.1 ≠ ',' ∧ pair.2 ≠ ','

instance (nesting : List (Char × Char)) : Decidable (Distinct nesting) :=
  List.decidableBAll _ nesting

theorem foldr_consFirst (text piece : Text) (more : List Text) :
    text.foldr consFirst (piece :: more) = (text ++ piece) :: more := by
  induction text with
  | nil => rfl
  | cons c rest ih => rw [List.foldr_cons, ih]; rfl

section
variable {nesting : List (Char × Char)} {opened : List Char} {rest : Text}

theorem pieces_of_turn {c : Char} {behind : List Char} (turned : turn nesting opened c = some behind) :
    pieces nesting opened (c :: rest) = consFirst c (pieces nesting behind rest) := by
  rw [pieces_cons, turned]

theorem pieces_of_end {c : Char} (ends : turn nesting opened c = none) :
    pieces nesting opened (c :: rest) = [] :: pieces nesting [] rest := by
  rw [pieces_cons, ends]

theorem turn_plain {c : Char}
    (other : ∀ pair ∈ nesting, pair.1 ≠ c ∧ (opened.head? = some pair.1 → pair.2 ≠ c))
    (guarded : c = ',' → opened ≠ []) : turn nesting opened c = some opened := by
  have no_opener : nesting.any (·.1 == c) = false := by
    simpa using fun opener closer member => (other (opener, closer) member).1
  have no_comma : ¬ (c = ',' ∧ opened.isEmpty = true) := by
    intro separates
    exact guarded separates.1 (by simpa using separates.2)
  unfold turn
  simp only [no_opener, Bool.false_eq_true, if_false, no_comma]
  split
  · next opener innermost outer closes =>
    -- The closer is not of the innermost bracket.
    obtain ⟨pair, found, rfl⟩ := Option.map_eq_some_iff.mp closes
    have member : pair ∈ nesting := List.mem_reverse.mp (List.mem_of_find?_eq_some found)
    have closer : pair.2 = c := by simpa using List.find?_some found
    rw [if_neg fun same => (other pair member).2 (congrArg some same) closer]
  · rfl

theorem turn_open {pair : Char × Char} (member : pair ∈ nesting) :
    turn nesting opened pair.1 = some (pair.1 :: opened) :=
  if_pos (List.any_eq_true.mpr ⟨pair, member, by simp⟩)

theorem turn_close (distinct : Distinct nesting) {pair : Char × Char} (member : pair ∈ nesting) :
    turn nesting (pair.1 :: opened) pair.2 = some opened := by
  obtain ⟨closes, no_opener, _⟩ := distinct pair member
  simp [turn, no_opener, closes]

theorem turn_comma (distinct : Distinct nesting) : turn nesting [] ',' = none := by
  have no_opener : nesting.any (·.1 == ',') = false := by
    simpa using fun opener closer member => (distinct (opener, closer) member).2.2.1
  simp [turn, no_opener]

theorem comma_of_turn {c : Char} (ends : turn nesting opened c = none) : c = ',' := by
  unfold turn at ends
  split at ends
  · cases ends
  · split at ends
    · cases ends
    · split at ends
      · next comma => exact comma.1
      · cases ends

/-- The text goes into one piece as a whole, and takes the openers that wait from `opened` to `behind`. -/
def Carries (nesting : List (Char × Char)) (opened : List Char) (text : Text) (behind : List Char) : Prop :=
  ∀ rest, pieces nesting opened (text ++ rest) = text.foldr consFirst (pieces nesting behind rest)

namespace Carries
variable {between behind : List Char} {text more : Text}

theorem nil : Carries nesting opened [] opened := fun _ => rfl

theorem of_turn {c : Char} (turned : turn nesting opened c = some behind) : Carries nesting opened [c] behind :=
  fun _ => pieces_of_turn turned

theorem append (front : Carries nesting opened text between) (back : Carries nesting between more behind) :
    Carries nesting opened (text ++ more) behind := by
  intro rest
  rw [List.append_assoc, front, back, List.foldr_append]

theorem of_comma (distinct : Distinct nesting) (guarded : opened ≠ []) : Carries nesting opened [','] opened := by
  refine of_turn (turn_plain (fun pair member => ?_) fun _ => guarded)
  obtain ⟨_, _, opener, closer⟩ := distinct pair member
  exact ⟨opener, fun _ => closer⟩

theorem group (distinct : Distinct nesting) {pair : Char × Char} (member : pair ∈ nesting)
    (inside : Carries nesting (pair.1 :: opened) text (pair.1 :: opened)) :
    Carries nesting opened (pair.1 :: (text ++ [pair.2])) opened :=
  (of_turn (turn_open member)).append (inside.append (of_turn (turn_close distinct member)))

theorem join (distinct : Distinct nesting) (guarded : opened ≠ []) {rows : List Text}
    (each : ∀ row ∈ rows, Carries nesting opened row opened) : Carries nesting opened (Text.join [','] rows) opened := by
  induction rows with
  | nil => exact nil
  | cons row others ih =>
    obtain ⟨row_carried, others_carried⟩ := List.forall_mem_cons.mp each
    cases others with
    | nil => exact row_carried
    | cons next others =>
      rw [Text.join_cons_cons]
      exact (row_carried.append (of_comma distinct guarded)).append (ih others_carried)

end Carries

-- The commas of a settled text must be inside brackets, its own or those that are open around it.
theorem Settled.carries (distinct : Distinct nesting) {innermost : Option Char} {commas : Bool} {text : Text}
    (settled : Settled nesting innermost commas text) (around : opened.head? = innermost)
    (guarded : commas = true → opened ≠ []) : Carries nesting opened text opened := by
  -- A group opens one bracket more for its inside, so that commas are guarded there.
  induction settled generalizing opened with
  | nil => exact .nil
  | plain other comma _ ih =>
    subst around
    exact (Carries.of_turn (turn_plain other fun same => guarded (comma same))).append (ih rfl guarded)
  | @group innermost commas pair inner behind member _ _ ih_inner ih_behind =>
    have inside : Carries nesting (pair.1 :: opened) inner (pair.1 :: opened) := ih_inner rfl (by simp)
    simpa using (inside.group distinct member).append (ih_behind around guarded)

theorem Nested.carries (distinct : Distinct nesting) {text : Text} (nested : Nested nesting false text) :
    Carries nesting [] text [] :=
  (Settled.ofNested nested).carries distinct rfl (by simp)

theorem pieces_join (distinct : Distinct nesting) {segments : List Text} (some_segment : segments ≠ [])
    (carried : ∀ segment ∈ segments, Carries nesting [] segment []) :
    pieces nesting [] (Text.join [','] segments) = segments := by
  refine Text.cut_join (fun segment whole => ?_) (fun segment others whole _ => ?_) some_segment carried
  · simpa [pieces, foldr_consFirst] using whole []
  · rw [List.append_assoc, List.singleton_append, whole, pieces_of_end (turn_comma distinct), foldr_consFirst,
      List.append_nil]

/-- What a list is cut into is trimmed, and blank segments are dropped. -/
theorem split_join (distinct : Distinct nesting) {segments : List Text}
    (carried : ∀ segment ∈ segments, Carries nesting [] segment []) :
    split nesting (Text.join [','] segments) = (segments.map Text.trim).filter (!·.isEmpty) := by
  by_cases none : segments = []
  · subst none
    rfl
  · rw [split, pieces_join distinct none carried]

/-! ## Nothing is lost -/

theorem pieces_ne_nil (nesting : List (Char × Char)) (opened : List Char) (list : Text) :
    pieces nesting opened list ≠ [] := by
  cases list with
  | nil => simp [pieces]
  | cons c rest =>
    cases turned : turn nesting opened c with
    | some behind =>
      rw [pieces_of_turn turned]
      cases pieces nesting behind rest <;> simp [consFirst]
    | none => simp [pieces_of_end turned]

theorem join_consFirst (separator : Text) (c : Char) (rows : List Text) :
    Text.join separator (consFirst c rows) = c :: Text.join separator rows := by
  cases rows with
  | nil => rfl
  | cons row more => exact Text.join_cons_char separator c row more

/-- Only commas are taken out of a list when it is cut, whatever brackets stand in it. -/
theorem join_pieces (nesting : List (Char × Char)) (opened : List Char) (list : Text) :
    Text.join [','] (pieces nesting opened list) = list := by
  induction list generalizing opened with
  | nil => rfl
  | cons c rest ih =>
    cases turned : turn nesting opened c with
    | some behind => rw [pieces_of_turn turned, join_consFirst, ih]
    | none =>
      rw [pieces_of_end turned, Text.join_cons_of_ne_nil _ _ (pieces_ne_nil nesting [] rest), ih, comma_of_turn turned]
      rfl

end

end Docblock.Signature
