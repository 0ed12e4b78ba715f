import Docblock.Proofs.Insertion

/-! Rendering piece by piece. A piece of a snippet that nothing behind it can become a part of renders in the
same way wherever it stands, so that lines of such pieces render line by line. -/

set_option autoImplicit false

namespace Docblock

namespace Text

-- A pass that only takes text away leaves part of the text, in its order.
theorem substituteFrom_sublist {find : Text → Option (Text × Nat)}
    (erases : ∀ text replacement length, find text = some (replacement, length) → replacement = [])
    (pending : Nat) (text : Text) : (substituteFrom find pending text).Sublist text := by
  induction text generalizing pending with
  | nil => simp
  | cons c rest ih =>
    cases pending with
    | succ pending => exact (ih pending).cons c
    | zero =>
      rw [substituteFrom]
      split
      · next replacement length found =>
        rw [erases _ _ _ found]
        exact (ih _).cons c
      · exact (ih 0).cons_cons c

end Text

namespace Snippet

/-! ## Passes over pieces -/

/-- The pass leaves `out` of a piece, whatever stands behind it. -/
def Passes (find : Text → Option (Text × Nat)) (piece out : Text) : Prop :=
  ∀ rest, (piece ++ rest).substitute find = out ++ rest.substitute find

/-- Whatever is found starts with the mark. -/
def StartsWith (mark : Char) (find : Text → Option (Text × Nat)) : Prop :=
  ∀ c rest, c ≠ mark → find (c :: rest) = none

section
variable {find : Text → Option (Text × Nat)} {piece out more others : Text} {mark : Char}

theorem Passes.append (passes : Passes find piece out) (behind : Passes find more others) :
    Passes find (piece ++ more) (out ++ others) := by
  intro rest
  rw [List.append_assoc, passes, behind, List.append_assoc]

theorem Passes.substitute_eq (passes : Passes find piece out) : piece.substitute find = out := by
  have whole := passes []
  rw [List.append_nil] at whole
  exact whole.trans (List.append_nil out)

theorem StartsWith.passes (starts : StartsWith mark find) (absent : mark ∉ piece) :
    Passes find piece piece := by
  intro rest
  induction piece with
  | nil => rfl
  | cons c more ih =>
    obtain ⟨other, absent_below⟩ : mark ≠ c ∧ mark ∉ more := by simpa using absent
    rw [List.cons_append, Text.substitute_of_none (starts c _ other.symm), ih absent_below, List.cons_append]

end

theorem startsWith_placeholder : StartsWith '$' placeholder? := by
  intro c rest other
  simp [placeholder?, braced?, other]

theorem startsWith_choice : StartsWith '$' choice? := by
  intro c rest other
  simp [choice?, braced?, other]

theorem startsWith_tabStop : StartsWith '$' tabStop? := by
  intro c rest other
  simp [tabStop?, other]

theorem startsWith_replace (mark : Char) (old new : Text) : StartsWith mark fun ahead =>
    if (mark :: old).isPrefixOf ahead then some (new, (mark :: old).length) else none := by
  intro c rest other
  simp [other.symm]

theorem replace_eq_of_not_mem {mark : Char} {text : Text} (absent : mark ∉ text) (old new : Text) :
    text.replace (mark :: old) new = text :=
  ((startsWith_replace mark old new).passes absent).substitute_eq

theorem resolve_eq {text middle : Text} (next : text.substitute placeholder? = middle)
    (stays : middle.substitute placeholder? = middle) : resolve text.length text = middle := by
  have fixed (rounds : Nat) : resolve rounds middle = middle := by
    cases rounds with
    | zero => rfl
    | succ rounds => simp [resolve, stays]
  cases text with
  | nil => exact next
  | cons c rest =>
    rw [List.length_cons, resolve, next]
    split
    · next same => exact same.symm
    · exact fixed rest.length

/-! ## What pieces render to -/

/-- The piece renders to `out` wherever it stands. -/
structure Shows (piece out : Text) : Prop where
  no_escape : '\\' ∉ piece
  no_nul : '\x00' ∉ out
  stages : ∃ middle, Passes placeholder? piece middle ∧ Passes placeholder? middle middle ∧
    Passes choice? middle middle ∧ Passes tabStop? middle out

theorem Shows.append {piece out more others : Text} (shows : Shows piece out) (behind : Shows more others) :
    Shows (piece ++ more) (out ++ others) := by
  obtain ⟨middle, resolved, settled, chosen, stopped⟩ := shows.stages
  obtain ⟨middle_behind, resolved_behind, settled_behind, chosen_behind, stopped_behind⟩ := behind.stages
  exact ⟨List.not_mem_append shows.no_escape behind.no_escape, List.not_mem_append shows.no_nul behind.no_nul,
    middle ++ middle_behind, resolved.append resolved_behind, settled.append settled_behind,
    chosen.append chosen_behind, stopped.append stopped_behind⟩

theorem Shows.render_eq {text out : Text} (shows : Shows text out) : render text = out := by
  obtain ⟨middle, resolved, settled, chosen, stopped⟩ := shows.stages
  unfold render
  dsimp only
  rw [replace_eq_of_not_mem shows.no_escape, resolve_eq resolved.substitute_eq settled.substitute_eq,
    chosen.substitute_eq, stopped.substitute_eq, replace_eq_of_not_mem shows.no_nul]

/-- Text without the characters that snippets are made of. -/
def Plain (text : Text) : Prop := '$' ∉ text ∧ '\\' ∉ text ∧ '\x00' ∉ text

instance (text : Text) : Decidable (Plain text) := inferInstanceAs (Decidable (_ ∧ _ ∧ _))

theorem Shows.of_plain {text : Text} (plain : Plain text) : Shows text text :=
  ⟨plain.2.1, plain.2.2, text, startsWith_placeholder.passes plain.1, startsWith_placeholder.passes plain.1,
    startsWith_choice.passes plain.1, startsWith_tabStop.passes plain.1⟩

/-- Whether each dollar sign of a text is where a placeholder starts. -/
def placeholdersOnly : Text → Bool
  | [] => true
  | c :: rest => (c != '$' || (placeholder? (c :: rest)).isSome) && placeholdersOnly rest

theorem placeholdersOnly_of_append {front rest : Text} (only : placeholdersOnly (front ++ rest) = true) :
    placeholdersOnly rest = true := by
  induction front with
  | nil => exact only
  | cons c more ih =>
    rw [List.cons_append, placeholdersOnly, Bool.and_eq_true] at only
    exact ih only.2

theorem passes_placeholder {text : Text} (only : placeholdersOnly text = true) :
    Passes placeholder? text (text.substitute placeholder?) := by
  intro behind
  induction text using reducing_placeholder.induction with
  | nil => rfl
  | pass c rest missed ih =>
    rw [placeholdersOnly, Bool.and_eq_true, missed] at only
    have other : c ≠ '$' := by simpa using only.1
    rw [List.cons_append, Text.substitute_of_none (startsWith_placeholder c _ other), ih only.2]
    rfl
  | replace taken rest replacement found _ ih =>
    have filled : taken ≠ [] := by
      rintro rfl
      simp [placeholder?_eq_some_iff, placeholder] at found
    obtain ⟨row, tail, digits, inside, cut, measured⟩ := placeholder?_eq_some_iff.mp found
    have taken_eq : taken = placeholder row replacement := (List.append_inj cut measured).1
    have found_here : placeholder? (taken ++ (rest ++ behind)) = some (replacement, taken.length) :=
      placeholder?_eq_some_iff.mpr ⟨row, rest ++ behind, digits, inside, by rw [taken_eq], measured⟩
    rw [List.append_assoc, Text.substitute_of_some filled found_here, ih (placeholdersOnly_of_append only),
      List.append_assoc]

/-- A text with placeholders renders to the text with their defaults. -/
theorem Shows.of_placeholders {text : Text} (only : placeholdersOnly text = true) (no_escape : '\\' ∉ text)
    (plain : Plain (text.substitute placeholder?)) : Shows text (text.substitute placeholder?) :=
  have filled := Shows.of_plain plain
  ⟨no_escape, filled.no_nul, text.substitute placeholder?, passes_placeholder only,
    startsWith_placeholder.passes plain.1, startsWith_choice.passes plain.1, startsWith_tabStop.passes plain.1⟩

theorem passes_resolved {row default : Text} (digits : Digits row)
    (no_brace : '\x7b' ∉ default ∧ '\x7d' ∉ default) : Passes placeholder? (placeholder row default) default := by
  intro rest
  have inside : ∀ c ∈ default, c ≠ '\x7b' ∧ c ≠ '\x7d' :=
    fun c within => ⟨ne_of_mem_of_not_mem within no_brace.1, ne_of_mem_of_not_mem within no_brace.2⟩
  exact Text.substitute_of_some (by simp [placeholder])
    (placeholder?_eq_some_iff.mpr ⟨row, rest, digits, inside, rfl, rfl⟩)

theorem shows_placeholder {row default : Text} (digits : Digits row) (plain : Plain default)
    (no_brace : '\x7b' ∉ default ∧ '\x7d' ∉ default) : Shows (placeholder row default) default where
  no_escape := by
    have not_digit : '\\' ∉ row := fun within => absurd (digits.2 '\\' within) (by decide)
    simp [placeholder, not_digit, plain.2.1]
  no_nul := plain.2.2
  stages := ⟨default, passes_resolved digits no_brace, startsWith_placeholder.passes plain.1,
    startsWith_choice.passes plain.1, startsWith_tabStop.passes plain.1⟩

/-! ## Text with tab stops in it -/

/-- The text that is left of a text without braces when its tab stops are taken out. -/
def withoutStops (text : Text) : Text := text.substitute tabStop?

theorem tabStop?_dollar {text : Text} (no_brace : text.head? ≠ some '\x7b') :
    tabStop? ('$' :: text) = if (text.takeWhile isDigit).isEmpty then none
      else some ([], ('$' :: text).length - (text.dropWhile isDigit).length) := by
  rw [tabStop?.eq_2 text (by rintro tail rfl; exact no_brace rfl)]

/-- A character that no tab stop reaches over. -/
structure EndsStop (c : Char) : Prop where
  no_digit : isDigit c = false
  no_brace : c ≠ '\x7b' ∧ c ≠ '\x7d'

theorem EndsStop.digits_append {c : Char} (ends : EndsStop c) (text rest : Text) :
    (text ++ c :: rest).takeWhile isDigit = text.takeWhile isDigit ∧
      (text ++ c :: rest).dropWhile isDigit = text.dropWhile isDigit ++ c :: rest := by
  refine Text.takeWhile_dropWhile_iff.mpr ⟨?_, fun c => List.mem_takeWhile_imp, fun d first => ?_⟩
  · rw [← List.append_assoc, List.takeWhile_append_dropWhile]
  · have refused := List.head?_dropWhile_not isDigit text
    cases behind : text.dropWhile isDigit with
    | nil =>
      obtain rfl : c = d := by simpa [behind] using first
      exact ends.no_digit
    | cons _ _ => simp_all

theorem tabStop?_append {text : Text} {c : Char} (ends : EndsStop c) (filled : text ≠ []) (rest : Text) :
    tabStop? (text ++ c :: rest) = tabStop? text := by
  obtain ⟨d, more, rfl⟩ := List.exists_cons_of_ne_nil filled
  by_cases dollar : d = '$'
  · subst dollar
    by_cases brace : more.head? = some '\x7b'
    · obtain ⟨inner, rfl⟩ := List.head?_eq_some_iff.mp brace
      obtain ⟨row_eq, behind_eq⟩ := ends.digits_append inner rest
      simp only [List.cons_append, tabStop?, row_eq, behind_eq]
      cases inner.takeWhile isDigit with
      | nil => rfl
      | cons _ _ =>
        cases inner.dropWhile isDigit with
        | nil => simp [ends.no_brace.2]
        | cons e _ =>
          by_cases closes : e = '\x7d'
          · subst closes
            simp only [List.cons_append, List.length_cons, List.length_append, Option.some.injEq, Prod.mk.injEq,
              true_and]
            omega
          · simp [closes]
    · have brace_append : (more ++ c :: rest).head? ≠ some '\x7b' := by
        cases more with
        | nil => simpa using ends.no_brace.1
        | cons _ _ => exact brace
      obtain ⟨row_eq, behind_eq⟩ := ends.digits_append more rest
      rw [List.cons_append, tabStop?_dollar brace_append, tabStop?_dollar brace, row_eq, behind_eq]
      simp only [List.length_cons, List.length_append]
      congr 3
      omega
  · rw [List.cons_append, startsWith_tabStop d _ dollar, startsWith_tabStop d _ dollar]

theorem substitute_tabStop_append {c : Char} (ends : EndsStop c) (text rest : Text) :
    Text.substitute tabStop? (text ++ c :: rest) =
      Text.substitute tabStop? text ++ Text.substitute tabStop? (c :: rest) := by
  induction text using reducing_tabStop.induction with
  | nil => rfl
  | pass d more missed ih =>
    have missed_here : tabStop? (d :: (more ++ c :: rest)) = none :=
      (tabStop?_append ends (List.cons_ne_nil d more) rest).trans missed
    rw [List.cons_append, Text.substitute_of_none missed_here, ih, List.cons_append]
  | replace taken more replacement found reduces ih =>
    obtain ⟨d, others, rfl, _⟩ := reduces.opens
    have found_here : tabStop? (d :: others ++ (more ++ c :: rest)) = some (replacement, (d :: others).length) := by
      rw [← List.append_assoc]
      exact (tabStop?_append ends (List.cons_ne_nil d (others ++ more)) rest).trans found
    rw [List.append_assoc, Text.substitute_of_some (by simp) found_here, ih, List.append_assoc]

theorem passes_tabStop (text : Text) : Passes tabStop? (text ++ [' ']) (withoutStops text ++ [' ']) := by
  intro rest
  have ends : EndsStop ' ' := ⟨by decide, by decide⟩
  rw [List.append_assoc, List.append_assoc, List.singleton_append, List.singleton_append, withoutStops,
    substitute_tabStop_append ends, Text.substitute_of_none (startsWith_tabStop ' ' rest (by decide))]

theorem erases_tabStop (text replacement : Text) (length : Nat)
    (found : tabStop? text = some (replacement, length)) : replacement = [] :=
  (tabStop?_eq_some found).1

def HasStop (text : Text) : Prop := ∃ c, isDigit c = true ∧ ['$', c] <:+: text

theorem hasStop_cons {c : Char} {rest : Text} :
    HasStop (c :: rest) ↔ (c = '$' ∧ rest.head?.any isDigit = true) ∨ HasStop rest := by
  unfold HasStop
  constructor
  · intro stop
    obtain ⟨d, digit, inside⟩ := stop
    rcases List.infix_cons_iff.mp inside with first | below
    · obtain ⟨same, more⟩ := List.cons_prefix_cons.mp first
      obtain ⟨behind, rfl⟩ := more
      exact .inl ⟨same.symm, by simpa using digit⟩
    · exact .inr ⟨d, digit, below⟩
  · rintro (⟨rfl, first⟩ | ⟨d, digit, inside⟩)
    · obtain ⟨d, first, digit⟩ := (Option.any_eq_true _ _).mp first
      obtain ⟨more, rfl⟩ := List.head?_eq_some_iff.mp first
      exact ⟨d, digit, ⟨[], more, rfl⟩⟩
    · exact ⟨d, digit, List.infix_cons inside⟩

theorem tabStop?_eq_none_iff {c : Char} {rest : Text} (no_brace : '\x7b' ∉ rest) :
    tabStop? (c :: rest) = none ↔ ¬ (c = '$' ∧ rest.head?.any isDigit = true) := by
  by_cases dollar : c = '$'
  · subst dollar
    rw [tabStop?_dollar fun first => no_brace (List.mem_of_head? first)]
    cases rest with
    | nil => simp
    | cons d more => cases digit : isDigit d <;> simp [digit]
  · simp [startsWith_tabStop c _ dollar, dollar]

theorem withoutStops_eq_iff {text : Text} (no_brace : '\x7b' ∉ text) :
    withoutStops text = text ↔ ¬ HasStop text := by
  induction text with
  | nil => simp [withoutStops, Text.substitute, HasStop]
  | cons c rest ih =>
    have no_brace_below : '\x7b' ∉ rest := fun within => no_brace (List.mem_cons_of_mem c within)
    rw [hasStop_cons, not_or, ← tabStop?_eq_none_iff no_brace_below, ← ih no_brace_below]
    cases found : tabStop? (c :: rest) with
    | none => simp [withoutStops, Text.substitute_of_none found]
    | some answer =>
      -- What is left is part of the rest, and so shorter than the text.
      obtain ⟨replacement, length⟩ := answer
      obtain rfl := erases_tabStop _ _ _ found
      have shorter := (Text.substituteFrom_sublist erases_tabStop (length - 1) rest).length_le
      have left : withoutStops (c :: rest) = Text.substituteFrom tabStop? (length - 1) rest := by
        simp [withoutStops, Text.substitute, Text.substituteFrom, found]
      refine iff_of_false (fun same => ?_) (by simp)
      rw [← left, same, List.length_cons] at shorter
      omega

theorem braced?_dollar {mark : Char} {plain : Char → Bool} {text : Text}
    (no_brace : text.head? ≠ some '\x7b') : braced? mark plain ('$' :: text) = none := by
  rw [braced?.eq_2 _ _ _ (by rintro tail same; exact no_brace (by simp [(List.cons.inj same).2]))]

-- A pass that looks for dollar signs with a brace finds none in a text without braces.
theorem passes_of_no_brace {find : Text → Option (Text × Nat)} (starts : StartsWith '$' find)
    (braced : ∀ rest, rest.head? ≠ some '\x7b' → find ('$' :: rest) = none) {text : Text}
    (no_brace : '\x7b' ∉ text) : Passes find (text ++ [' ']) (text ++ [' ']) := by
  intro rest
  rw [List.append_assoc, List.append_assoc, List.singleton_append, List.singleton_append]
  induction text with
  | nil => exact Text.substitute_of_none (starts ' ' rest (by decide))
  | cons c more ih =>
    obtain ⟨other, no_brace_below⟩ : '\x7b' ≠ c ∧ '\x7b' ∉ more := by simpa using no_brace
    have missed : find (c :: (more ++ ' ' :: rest)) = none := by
      by_cases dollar : c = '$'
      · subst dollar
        refine braced _ ?_
        cases more with
        | nil => simp
        | cons d others => simpa using fun same => no_brace_below (by simp [same])
      · exact starts c _ dollar
    rw [List.cons_append, Text.substitute_of_none missed, ih no_brace_below, List.cons_append]

theorem shows_withoutStops {text : Text} (no_brace : '\x7b' ∉ text) (no_escape : '\\' ∉ text)
    (no_nul : '\x00' ∉ text) : Shows (text ++ [' ']) (withoutStops text ++ [' ']) where
  no_escape := List.not_mem_append no_escape (by decide)
  no_nul := List.not_mem_append (fun within =>
    no_nul ((Text.substituteFrom_sublist erases_tabStop 0 text).subset within)) (by decide)
  stages := by
    have resolved : Passes placeholder? (text ++ [' ']) (text ++ [' ']) :=
      passes_of_no_brace startsWith_placeholder (fun rest first => by simp [placeholder?, braced?_dollar first])
        no_brace
    have chosen : Passes choice? (text ++ [' ']) (text ++ [' ']) :=
      passes_of_no_brace startsWith_choice (fun rest first => by simp [choice?, braced?_dollar first]) no_brace
    exact ⟨text ++ [' '], resolved, resolved, chosen, passes_tabStop text⟩

/-! ## Lines -/

theorem shows_join {lines : List Text} (shown : ∀ line ∈ lines, Shows line (render line)) :
    Shows (Text.join ['\n'] (lines ++ [[]])) (Text.join ['\n'] (lines.map render ++ [[]])) := by
  induction lines with
  | nil => exact .of_plain (by decide)
  | cons line rest ih =>
    obtain ⟨line_shown, rest_shown⟩ := List.forall_mem_cons.mp shown
    rw [List.map_cons, List.cons_append, List.cons_append, Text.join_cons_of_ne_nil _ _ (by simp),
      Text.join_cons_of_ne_nil _ _ (by simp)]
    exact (line_shown.append (.of_plain (by decide))).append (ih rest_shown)

/-- Lines that render by themselves render line by line. -/
theorem block_eq_map {lines : List Text} (some_line : lines ≠ [])
    (shown : ∀ line ∈ lines, Shows line (render line)) (whole : ∀ line ∈ lines, (render line).Unbroken) :
    block lines = lines.map render := by
  have ended : Text.join ['\n'] (lines ++ [[]]) = Text.join ['\n'] lines ++ ['\n'] := by
    rw [Text.join_append some_line (List.cons_ne_nil [] []), Text.join_singleton, List.append_nil]
  have rendered : plain lines = Text.join ['\n'] (lines.map render ++ [[]]) := by
    rw [plain, ← ended]
    exact (shows_join shown).render_eq
  have rows_whole : ∀ row ∈ lines.map render, row.Unbroken := by simpa using whole
  have cut := Text.lines_join_append rows_whole []
  rw [List.append_nil, ← rendered] at cut
  rw [block, cut, Text.lines_nil, List.dropLast_concat]

end Snippet

end Docblock
