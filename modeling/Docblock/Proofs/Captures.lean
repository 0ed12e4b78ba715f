import Docblock.Proofs.CommentLines
import Docblock.Proofs.MethodLines

/-! What patterns capture. A match says where a pattern can end and a run in which order these places are tried, so that
the text that is captured is told by the order: a run of characters reaches as far as it can, or stops as soon as it
can, for what follows to succeed. -/

set_option autoImplicit false

namespace Docblock

theorem Cursor.farthestFirst_eq_append {accepts : Char → Bool} {passed : Option Char} {text : Text}
    (nearer : List Cursor) :
    farthestFirst accepts passed text nearer = farthestFirst accepts passed text [] ++ nearer := by
  induction text generalizing passed nearer with
  | nil => rfl
  | cons c rest ih =>
    rw [farthestFirst, farthestFirst]
    split
    · rw [ih (_ :: nearer), ih [_], List.append_assoc, List.singleton_append]
    · rfl

namespace Pattern
variable {β : Type} {next : Cursor → Option β} {accepts : Char → Bool} {pattern : Pattern} {passed : Option Char}
  {first place : Cursor} {text front tail : Text} {c : Char} {value : β}

/-! ## The order of places -/

theorem run_many_cons : (many accepts).run next ⟨passed, c :: text⟩ =
    if accepts c then ((many accepts).run next ⟨some c, text⟩).or (next ⟨passed, c :: text⟩)
    else next ⟨passed, c :: text⟩ := by
  rw [run, run, Cursor.farthestFirst]
  split
  · rw [Cursor.farthestFirst_eq_append, List.findSome?_append]
    simp
  · simp

theorem run_few_cons : (few accepts).run next ⟨passed, c :: text⟩ =
    if accepts c then (next ⟨passed, c :: text⟩).or ((few accepts).run next ⟨some c, text⟩)
    else next ⟨passed, c :: text⟩ := by
  rw [run, run, Cursor.farthestFirst]
  split
  · rw [Cursor.farthestFirst_eq_append, List.reverse_append, List.findSome?_append]
    simp
  · simp

theorem run_many_of_farthest (each : ∀ c ∈ front, accepts c = true)
    (stops : ∀ c, tail.head? = some c → accepts c = false) (answers : next (.past passed front tail) = some value) :
    (many accepts).run next ⟨passed, front ++ tail⟩ = some value := by
  induction front generalizing passed with
  | nil =>
    cases tail with
    | nil => simpa [run, Cursor.farthestFirst] using answers
    | cons c rest => simpa [run_many_cons, stops c rfl] using answers
  | cons c more ih =>
    obtain ⟨accepted, below⟩ := List.forall_mem_cons.mp each
    rw [Cursor.past_cons] at answers
    rw [List.cons_append, run_many_cons, if_pos accepted, ih below answers, Option.some_or]

/-- There is no answer at any place in the front of a text. -/
def SilentIn (next : Cursor → Option β) (passed : Option Char) (front tail : Text) : Prop :=
  ∀ near c far, front = near ++ c :: far → next (.past passed near (c :: (far ++ tail))) = none

theorem SilentIn.below {more : Text} (silent : SilentIn next passed (c :: more) tail) :
    SilentIn next (some c) more tail := by
  rintro near d far rfl
  rw [← Cursor.past_cons passed]
  exact silent (c :: near) d far rfl

theorem run_few_of_nearest (each : ∀ c ∈ front, accepts c = true) (silent : SilentIn next passed front tail)
    (answers : next (.past passed front tail) = some value) :
    (few accepts).run next ⟨passed, front ++ tail⟩ = some value := by
  induction front generalizing passed with
  | nil =>
    cases tail with
    | nil => simpa [run, Cursor.farthestFirst] using answers
    | cons c rest =>
      have answers : next ⟨passed, c :: rest⟩ = some value := answers
      rw [List.nil_append, run_few_cons, answers]
      split <;> rfl
  | cons c more ih =>
    obtain ⟨accepted, below⟩ := List.forall_mem_cons.mp each
    have here : next ⟨passed, c :: (more ++ tail)⟩ = none := silent [] c more rfl
    rw [Cursor.past_cons] at answers
    rw [List.cons_append, run_few_cons, if_pos accepted, here, Option.none_or, ih below silent.below answers]

theorem findSome?_onward_here (answers : next ⟨passed, text⟩ = some value) :
    (Cursor.onward passed text).findSome? next = some value := by
  cases text <;> simp [Cursor.onward, answers]

theorem findSome?_onward (silent : SilentIn next passed front tail) :
    (Cursor.onward passed (front ++ tail)).findSome? next =
      (Cursor.onward (front.getLast?.or passed) tail).findSome? next := by
  induction front generalizing passed with
  | nil => rfl
  | cons c more ih =>
    have here : next ⟨passed, c :: (more ++ tail)⟩ = none := silent [] c more rfl
    have last_eq : (c :: more).getLast?.or passed = more.getLast?.or (some c) := by
      cases more <;> simp [List.getLast?_cons]
    rw [List.cons_append, Cursor.onward, List.findSome?_cons, here, ih silent.below, last_eq]

/-! ## Where a match can end -/

theorem run_eq_none (unmatched : ∀ last, ¬ pattern.Matches first last) : pattern.run next first = none := by
  refine Option.eq_none_iff_forall_ne_some.mpr fun value found => ?_
  obtain ⟨last, matched, _⟩ := pattern.adequate.sound found
  exact unmatched last matched

theorem find_eq_none (unmatched : pattern.matchesIn text = false) : pattern.find next text = none := by
  refine List.findSome?_eq_none_iff.mpr fun place member => run_eq_none fun last matched => ?_
  have found : pattern.matchesIn text = true := matchesIn_iff.mpr ⟨place, last, mem_onward.mp member, matched⟩
  simp [unmatched] at found

theorem capture_isSome {before body after : Pattern} :
    (capture before body after text).isSome = (before ++ body ++ after).matchesIn text := by
  rw [Bool.eq_iff_iff, matchesIn_iff, capture, find, List.findSome?_isSome_iff]
  simp only [mem_onward, run_isSome_iff]
  constructor
  · rintro ⟨first, reached, middle, matched, last, inside, behind, after_matched, -⟩
    exact ⟨first, behind, reached, last, ⟨middle, matched, inside⟩, after_matched⟩
  · rintro ⟨first, behind, reached, last, ⟨middle, matched, inside⟩, after_matched⟩
    exact ⟨first, reached, middle, matched, last, inside, behind, after_matched, rfl⟩

theorem run_capture_eq_none {before body after : Pattern}
    (unmatched : ∀ last, ¬ (before ++ body ++ after).Matches first last) :
    before.run (fun inner => body.run (fun last => after.run (fun _ => some (inner.upTo last)) last) inner) first =
      none := by
  refine Option.eq_none_iff_forall_ne_some.mpr fun value found => ?_
  obtain ⟨inner, matched, found⟩ := before.adequate.sound found
  obtain ⟨last, inside, found⟩ := body.adequate.sound found
  obtain ⟨behind, after_matched, _⟩ := after.adequate.sound found
  exact unmatched behind ⟨last, ⟨inner, matched, inside⟩, after_matched⟩

/-- Where a match can end at a single place only, the run goes on there. -/
theorem run_eq_of_only (only : ∀ last, pattern.Matches first last ↔ last = place) :
    pattern.run next first = next place := by
  cases found : pattern.run next first with
  | some value =>
    obtain ⟨last, matched, answer⟩ := pattern.adequate.sound found
    rw [← (only last).mp matched, answer]
  | none =>
    refine (Option.not_isSome_iff_eq_none.mp fun answers => ?_).symm
    have runs := pattern.adequate.complete ((only place).mpr rfl) answers
    simp [found] at runs

/-- The pattern can match at the very start of a text only. -/
def Tied (pattern : Pattern) : Prop := ∀ first last, pattern.Matches first last → first.passed = none

theorem tied_of_flat {rest : List Pattern} (shape : pattern.flat = start :: rest) : pattern.Tied := by
  intro first last matched
  rw [← matches_row_flat, shape] at matched
  obtain ⟨_, ⟨fresh, _⟩, _⟩ := matched
  exact fresh

theorem Tied.matchesIn_iff (tied : pattern.Tied) :
    pattern.matchesIn text = true ↔ ∃ last, pattern.Matches (.start text) last := by
  rw [Pattern.matchesIn_iff]
  constructor
  · rintro ⟨first, last, reached, matched⟩
    obtain rfl := reached.unmoved (tied first last matched)
    exact ⟨last, matched⟩
  · rintro ⟨last, matched⟩
    exact ⟨_, last, .here _, matched⟩

theorem Tied.find_eq (tied : pattern.Tied) : pattern.find next text = pattern.run next (.start text) := by
  cases found : pattern.run next (.start text) with
  | some value => exact findSome?_onward_here found
  | none =>
    refine List.findSome?_eq_none_iff.mpr fun place member => ?_
    by_cases same : place = .start text
    · rw [same, found]
    · exact run_eq_none fun last matched => same ((mem_onward.mp member).unmoved (tied place last matched))

theorem find_behind (takes : pattern.nullable = false) (refused : ∀ c ∈ front, pattern.firsts c = false) :
    pattern.find next (front ++ tail) = (Cursor.onward front.getLast? tail).findSome? (pattern.run next) := by
  have silent : SilentIn (pattern.run next) none front tail := by
    rintro near c far rfl
    refine run_eq_none fun last matched => ?_
    rcases matched.starts with ⟨idle, _⟩ | ⟨d, rest, ahead, accepted⟩
    · simp [takes] at idle
    · obtain rfl : c = d := (List.cons_eq_cons.mp ahead).1
      simp [refused c (by simp)] at accepted
  rw [find, findSome?_onward silent, Option.or_none]

theorem Matches.taken {last : Cursor} (matched : pattern.Matches first last) :
    ∃ taken, first.ahead = taken ++ last.ahead ∧ ∀ c ∈ taken, pattern.takes c = true := by
  induction pattern generalizing first last with
  | empty => exact ⟨[], matched ▸ rfl, by simp⟩
  | one accepts =>
    obtain ⟨c, rest, ahead, accepted, rfl⟩ := matched
    exact ⟨[c], ahead, List.forall_mem_singleton.mpr accepted⟩
  | many accepts | few accepts => exact Cursor.Steps.taken matched
  | seq left right hl hr =>
    obtain ⟨middle, before, behind⟩ := matched
    obtain ⟨near, near_cut, near_each⟩ := hl before
    obtain ⟨far, far_cut, far_each⟩ := hr behind
    refine ⟨near ++ far, by rw [near_cut, far_cut, List.append_assoc], ?_⟩
    refine List.forall_mem_append.mpr ⟨fun c within => ?_, fun c within => ?_⟩
    · simp [takes, near_each c within]
    · simp [takes, far_each c within]
  | alt left right hl hr =>
    rcases matched with matched | matched
    · obtain ⟨taken, cut, each⟩ := hl matched
      exact ⟨taken, cut, fun c within => by simp [takes, each c within]⟩
    · obtain ⟨taken, cut, each⟩ := hr matched
      exact ⟨taken, cut, fun c within => by simp [takes, each c within]⟩
  | star body ih =>
    have rounds : Rounds body.Matches first last := matched
    induction rounds with
    | done cursor => exact ⟨[], rfl, by simp⟩
    | more moved _ rest onward =>
      obtain ⟨near, near_cut, near_each⟩ := ih moved
      obtain ⟨far, far_cut, far_each⟩ := onward rest
      refine ⟨near ++ far, by rw [near_cut, far_cut, List.append_assoc], ?_⟩
      exact List.forall_mem_append.mpr ⟨near_each, far_each⟩
  | start | stop | edge | absent => exact ⟨[], matched.2 ▸ rfl, by simp⟩

theorem Matches.ends_at {mark : Char} (matched : (pattern ++ char mark).Matches ⟨passed, front ++ mark :: tail⟩ place)
    (refused : pattern.takes mark = false) (unmarked : mark ∉ front) : place = ⟨some mark, tail⟩ := by
  obtain ⟨middle, before, c, rest, ahead, same, rfl⟩ := matched
  obtain rfl : c = mark := beq_iff_eq.mp same
  obtain ⟨taken, cut, each⟩ := before.taken
  rw [ahead] at cut
  have untaken : c ∉ taken := fun within => by simp [each c within] at refused
  obtain ⟨more, rfl, rest_eq⟩ := Text.exists_of_append_eq cut untaken
  cases more with
  | nil => rw [(List.cons_eq_cons.mp rest_eq).2]
  | cons d more =>
    obtain ⟨rfl, -⟩ := List.cons_eq_cons.mp rest_eq
    exact absurd (by simp) unmarked

/-! ## In front of a mark -/

/-- Whether no part of the pattern takes the character, not even where something is to be absent. -/
def stopsAt (mark : Char) : Pattern → Bool
  | one accepts | many accepts | few accepts => !accepts mark
  | seq left right | alt left right => left.stopsAt mark && right.stopsAt mark
  | star body | absent body => body.stopsAt mark
  | empty | start | stop | edge => true

theorem Matches.before_mark {mark : Char} {last : Cursor} {near far : Text}
    (matched : pattern.Matches ⟨passed, near ++ mark :: far⟩ last) (stops : pattern.stopsAt mark = true)
    (no_feed : mark ≠ '\n') (other : Text) :
    ∃ later rest, last = ⟨later, rest ++ mark :: far⟩ ∧
      pattern.Matches ⟨passed, near ++ mark :: other⟩ ⟨later, rest ++ mark :: other⟩ := by
  induction pattern generalizing passed near far last other with
  | empty => exact ⟨passed, near, matched, rfl⟩
  | one accepts =>
    obtain ⟨c, rest, ahead, accepted, rfl⟩ := matched
    cases near with
    | nil =>
      obtain rfl : mark = c := (List.cons_eq_cons.mp ahead).1
      simp [stopsAt, accepted] at stops
    | cons d near =>
      obtain ⟨rfl, rfl⟩ := List.cons_eq_cons.mp ahead
      exact ⟨some d, near, rfl, d, _, rfl, accepted, rfl⟩
  | many accepts | few accepts =>
    obtain ⟨front, tail, whole, each, rfl⟩ := Cursor.steps_iff.mp matched
    have untaken : mark ∉ front := fun within => by simp [stopsAt, each mark within] at stops
    obtain ⟨more, rfl, rfl⟩ := Text.exists_of_append_eq whole untaken
    refine ⟨_, more, rfl, ?_⟩
    rw [List.append_assoc]
    exact Cursor.Steps.past front (more ++ mark :: other) each
  | seq left right hl hr =>
    obtain ⟨middle, before, behind⟩ := matched
    obtain ⟨left_stops, right_stops⟩ := Bool.and_eq_true_iff.mp stops
    obtain ⟨later, rest, rfl, before_too⟩ := hl before left_stops other
    obtain ⟨latest, rest, rfl, behind_too⟩ := hr behind right_stops other
    exact ⟨latest, rest, rfl, _, before_too, behind_too⟩
  | alt left right hl hr =>
    obtain ⟨left_stops, right_stops⟩ := Bool.and_eq_true_iff.mp stops
    rcases matched with matched | matched
    · obtain ⟨later, rest, last_eq, matched_too⟩ := hl matched left_stops other
      exact ⟨later, rest, last_eq, .inl matched_too⟩
    · obtain ⟨later, rest, last_eq, matched_too⟩ := hr matched right_stops other
      exact ⟨later, rest, last_eq, .inr matched_too⟩
  | star body ih =>
    have rounds : Rounds body.Matches ⟨passed, near ++ mark :: far⟩ last := matched
    generalize first_eq : (⟨passed, near ++ mark :: far⟩ : Cursor) = first at rounds
    induction rounds generalizing passed near with
    | done cursor => exact ⟨passed, near, first_eq.symm, .done _⟩
    | more moved shorter rest onward =>
      subst first_eq
      obtain ⟨later, between, rfl, moved_too⟩ := ih moved stops other
      obtain ⟨latest, rest, last_eq, rest_too⟩ := onward rest rfl
      have shorter_too : (between ++ mark :: other).length < (near ++ mark :: other).length := by
        simp only [List.length_append, List.length_cons] at shorter ⊢
        omega
      exact ⟨latest, rest, last_eq, .more moved_too shorter_too rest_too⟩
  | start => exact ⟨passed, near, matched.2, matched.1, rfl⟩
  | stop =>
    have at_stop : (near ++ mark :: far).isEmpty || near ++ mark :: far == ['\n'] := matched.1
    cases near <;> simp [no_feed] at at_stop
  | edge =>
    have same_head : (near ++ mark :: far).head? = (near ++ mark :: other).head? := by
      cases near <;> rfl
    have at_edge : (passed.any isWord != (near ++ mark :: far).head?.any isWord) = true := matched.1
    rw [same_head] at at_edge
    exact ⟨passed, near, matched.2, at_edge, rfl⟩
  | absent body ih =>
    refine ⟨passed, near, matched.2, ?_, rfl⟩
    rintro ⟨place, found⟩
    obtain ⟨later, rest, -, found_too⟩ := ih found stops far
    exact matched.1 ⟨_, found_too⟩

/-- Where a pattern stops at a mark and matches nowhere in a front that the mark and a blank end, it matches from no
place in that front on, whatever follows. -/
theorem not_matches_in_front {mark : Char} {body near far : Text} {last : Cursor} (stops : pattern.stopsAt mark = true)
    (no_feed : mark ≠ '\n') (takes : pattern.nullable = false) (refused : pattern.firsts ' ' = false)
    (unmatched : pattern.matchesIn (body ++ [mark, ' ']) = false) (cut : body ++ [mark, ' '] = near ++ c :: far) :
    ¬ pattern.Matches (.past none near (c :: (far ++ tail))) last := by
  intro matched
  have in_front (inner : Text) (ahead_eq : c :: far = inner ++ [mark, ' ']) : False := by
    have ahead_too : c :: (far ++ tail) = inner ++ mark :: ' ' :: tail := by
      rw [← List.cons_append, ahead_eq, List.append_assoc]
      rfl
    rw [ahead_too] at matched
    obtain ⟨later, rest, -, found⟩ := matched.before_mark stops no_feed [' ']
    have reached : Cursor.Steps (fun _ => true) ⟨none, near ++ (inner ++ [mark, ' '])⟩
        (.past none near (inner ++ [mark, ' '])) :=
      Cursor.Steps.past near _ (by simp)
    rw [← ahead_eq, ← cut] at reached
    rw [← ahead_eq] at found
    have matched_in : pattern.matchesIn (body ++ [mark, ' ']) = true := matchesIn_iff.mpr ⟨_, _, reached, found⟩
    simp [unmatched] at matched_in
  rcases List.append_eq_append_iff.mp cut with ⟨between, rfl, ends⟩ | ⟨inner, rfl, ahead_eq⟩
  · match between with
    | [] => exact in_front [] ends.symm
    | [_] =>
      -- The last place is in front of the blank, which the pattern cannot start with.
      obtain ⟨-, rfl, rfl⟩ : mark = _ ∧ ' ' = c ∧ far = [] := by simpa using ends
      rcases matched.starts with ⟨idle, _⟩ | ⟨d, rest, ahead, accepted⟩
      · simp [takes] at idle
      · obtain ⟨rfl, -⟩ := List.cons_eq_cons.mp ahead
        simp [refused] at accepted
    | _ :: _ :: _ => simp at ends
  · exact in_front inner ahead_eq

/-- Whether the pattern takes a character before it looks at anything. -/
def takesFirst : Pattern → Bool
  | one _ => true
  | seq left _ => left.takesFirst
  | alt left right => left.takesFirst && right.takesFirst
  | _ => false

theorem run_of_takesFirst (takes : pattern.takesFirst = true) (other : Option Char) :
    pattern.run next ⟨passed, text⟩ = pattern.run next ⟨other, text⟩ := by
  induction pattern generalizing next with
  | one accepts => rfl
  | seq left right hl _ => exact hl takes
  | alt left right hl hr =>
    obtain ⟨left_takes, right_takes⟩ := Bool.and_eq_true_iff.mp takes
    rw [run, run, hl left_takes, hr right_takes]
  | _ => simp [takesFirst] at takes

theorem run_edge_of_blank (pattern : Pattern) (takes : pattern.takesFirst = true) :
    edge.run (pattern.run next) ⟨some ' ', text⟩ = edge.run (pattern.run next) (.start text) := by
  have same_edge : Cursor.atEdge ⟨some ' ', text⟩ = (Cursor.start text).atEdge := by
    have outside : isWord ' ' = false := by decide
    simp [Cursor.atEdge, Cursor.start, outside]
  rw [run, run, same_edge, Cursor.start, run_of_takesFirst takes none]

theorem find_drop (silent : SilentIn (pattern.run next) none front tail)
    (fresh : pattern.run next ⟨front.getLast?, tail⟩ = pattern.run next (.start tail)) :
    pattern.find next (front ++ tail) = pattern.find next tail := by
  have fresh : pattern.run next ⟨front.getLast?, tail⟩ = pattern.run next ⟨none, tail⟩ := fresh
  rw [find, find, findSome?_onward silent, Option.or_none]
  cases tail <;> simp [Cursor.onward, List.findSome?_cons, fresh]

variable {mark : Char} {body : Text}

/-- Behind a front that a mark and a blank end and in which a pattern matches nowhere, it matches as in the rest
alone. -/
theorem matchesIn_drop (stops : pattern.stopsAt mark = true) (no_feed : mark ≠ '\n') (takes : pattern.nullable = false)
    (refused : pattern.firsts ' ' = false)
    (fresh : pattern.run some ⟨some ' ', tail⟩ = pattern.run some (.start tail))
    (unmatched : pattern.matchesIn (body ++ [mark, ' ']) = false) :
    pattern.matchesIn (body ++ [mark, ' '] ++ tail) = pattern.matchesIn tail := by
  have silent : SilentIn (pattern.run some) none (body ++ [mark, ' ']) tail := fun near c far cut =>
    run_eq_none fun last => not_matches_in_front stops no_feed takes refused unmatched cut
  rw [matchesIn, matchesIn, find_drop silent (by simpa using fresh)]

theorem capture_drop {before inner after : Pattern} (stops : (before ++ inner ++ after).stopsAt mark = true)
    (no_feed : mark ≠ '\n') (takes : (before ++ inner ++ after).nullable = false)
    (refused : (before ++ inner ++ after).firsts ' ' = false)
    (fresh : ∀ next : Cursor → Option Text, before.run next ⟨some ' ', tail⟩ = before.run next (.start tail))
    (uncaptured : capture before inner after (body ++ [mark, ' ']) = none) :
    capture before inner after (body ++ [mark, ' '] ++ tail) = capture before inner after tail := by
  have unmatched : (before ++ inner ++ after).matchesIn (body ++ [mark, ' ']) = false := by
    rw [← capture_isSome, uncaptured, Option.isSome_none]
  refine find_drop (fun near c far cut => ?_) (by simpa using fresh _)
  exact run_capture_eq_none fun last => not_matches_in_front stops no_feed takes refused unmatched cut

end Pattern

end Docblock
