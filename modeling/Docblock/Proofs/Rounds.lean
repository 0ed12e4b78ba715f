import Docblock.Proofs.Insertion

/-! Rounds of rendering. A round that changes a text makes it shorter, so that the rounds end, whatever the snippet looks
like, and no placeholder that could be resolved is left then. Rendering makes no snippet longer, and what stands behind a
rendered snippet starts a line of its own. -/

set_option autoImplicit false

namespace Docblock

/-- What is found fits into the text, and its replacement is not longer. -/
def Text.NotLonger (find : Text → Option (Text × Nat)) : Prop :=
  ∀ text replacement length, find text = some (replacement, length) →
    replacement.length ≤ length ∧ length ≤ text.length

theorem Text.length_substituteFrom_le {find : Text → Option (Text × Nat)} (not_longer : NotLonger find)
    (pending : Nat) (text : Text) : (substituteFrom find pending text).length ≤ text.length - pending := by
  induction text generalizing pending with
  | nil => simp
  | cons c rest ih =>
    cases pending with
    | succ pending => simpa [substituteFrom] using ih pending
    | zero =>
      rw [substituteFrom]
      split
      · next replacement length found =>
        obtain ⟨fits, within⟩ := not_longer _ _ _ found
        have behind := ih (length - 1)
        simp only [List.length_append, List.length_cons] at within ⊢
        omega
      · simpa using ih 0

theorem Text.length_substitute_le {find : Text → Option (Text × Nat)} (not_longer : NotLonger find) (text : Text) :
    (text.substitute find).length ≤ text.length :=
  length_substituteFrom_le not_longer 0 text

namespace Snippet

/-! ## What is found is longer than what is put there -/

theorem Reducing.notLonger {find : Text → Option (Text × Nat)} (reducing : Reducing find)
    (fits : ∀ text replacement length, find text = some (replacement, length) → replacement.length ≤ length) :
    Text.NotLonger find := by
  intro text replacement length found
  obtain ⟨taken, rest, rfl, rfl, _⟩ := reducing _ _ _ found
  exact ⟨fits _ _ _ found, by simp⟩

theorem length_default_lt {text default : Text} {length : Nat} (found : placeholder? text = some (default, length)) :
    default.length < length := by
  obtain ⟨row, rest, _, _, _, rfl⟩ := placeholder?_eq_some_iff.mp found
  simp only [placeholder, List.length_cons, List.length_append]
  omega

theorem notLonger_placeholder : Text.NotLonger placeholder? :=
  reducing_placeholder.notLonger fun _ _ _ found => Nat.le_of_lt (length_default_lt found)

theorem notLonger_choice : Text.NotLonger choice? := by
  refine reducing_choice.notLonger fun text option length found => ?_
  obtain ⟨row, options, rest, _, _, rfl, _, rfl⟩ := choice?_eq_some_iff.mp found
  have first := (options.takeWhile_prefix (· != ',')).length_le
  simp only [choice, List.length_cons, List.length_append]
  omega

theorem notLonger_tabStop : Text.NotLonger tabStop? := by
  refine reducing_tabStop.notLonger fun text replacement length found => ?_
  rw [(tabStop?_eq_some found).1]
  exact Nat.zero_le length

theorem length_replace_le {old new : Text} (shorter : new.length ≤ old.length) (text : Text) :
    (text.replace old new).length ≤ text.length := by
  refine Text.length_substitute_le (fun text replacement length found => ?_) text
  split at found
  · next starts =>
    obtain ⟨rfl, rfl⟩ := Prod.mk.inj (Option.some.inj found)
    exact ⟨shorter, (List.isPrefixOf_iff_prefix.mp starts).length_le⟩
  · cases found

/-! ## Rounds -/

/-- No placeholder without braces in its default is left in the text. -/
def Resolved (text : Text) : Prop :=
  ∀ row default : Text, Digits row → '\x7b' ∉ default ∧ '\x7d' ∉ default → ¬ placeholder row default <:+: text

theorem Resolved.cons {c : Char} {rest : Text} (resolved : Resolved rest)
    (missed : placeholder? (c :: rest) = none) : Resolved (c :: rest) := by
  intro row default digits no_brace within
  rcases List.infix_cons_iff.mp within with ⟨behind, cut⟩ | below
  · have inside : ∀ c ∈ default, c ≠ '\x7b' ∧ c ≠ '\x7d' :=
      fun c within => ⟨ne_of_mem_of_not_mem within no_brace.1, ne_of_mem_of_not_mem within no_brace.2⟩
    cases missed.symm.trans (placeholder?_eq_some_iff.mpr ⟨row, behind, digits, inside, cut.symm, rfl⟩)
  · exact resolved row default digits no_brace below

/-- A round makes a text shorter, or else there is nothing to do. -/
theorem resolved_or_shorter (text : Text) :
    text.substitute placeholder? = text ∧ Resolved text ∨ (text.substitute placeholder?).length < text.length := by
  induction text using reducing_placeholder.induction with
  | nil =>
    refine .inl ⟨rfl, fun row default _ _ within => ?_⟩
    simp [placeholder] at within
  | pass c rest missed ih =>
    rcases ih with ⟨same, resolved⟩ | shorter
    · exact .inl ⟨congrArg (c :: ·) same, resolved.cons missed⟩
    · exact .inr (Nat.succ_lt_succ shorter)
  | replace taken rest replacement found _ _ =>
    have shorter := length_default_lt found
    have behind := Text.length_substitute_le notLonger_placeholder rest
    right
    simp only [List.length_append]
    omega

/-- The rounds on a text come to an end at `last`, the first that one more round leaves as it is. -/
inductive RoundsTo : Text → Text → Prop where
  | stay {text : Text} : text.substitute placeholder? = text → RoundsTo text text
  | round {text last : Text} : text.substitute placeholder? ≠ text →
      RoundsTo (text.substitute placeholder?) last → RoundsTo text last

theorem RoundsTo.resolved {text last : Text} (rounds : RoundsTo text last) : Resolved last := by
  induction rounds with
  | @stay text same =>
    exact ((resolved_or_shorter text).resolve_right fun shorter => Nat.ne_of_lt shorter (congrArg List.length same)).2
  | round _ _ ih => exact ih

/-- As many rounds as the text has characters are enough. -/
theorem roundsTo_resolve {rounds : Nat} {text : Text} (enough : text.length ≤ rounds) :
    RoundsTo text (resolve rounds text) := by
  induction rounds generalizing text with
  | zero =>
    have settled := (resolved_or_shorter text).resolve_right (by omega)
    exact .stay settled.1
  | succ rounds ih =>
    rw [resolve]
    split
    · next same => exact .stay same
    · next changed =>
      have shorter := (resolved_or_shorter text).resolve_left fun settled => changed settled.1
      exact .round changed (ih (by omega))

theorem RoundsTo.eq {text last other : Text} (rounds : RoundsTo text last) (others : RoundsTo text other) :
    last = other := by
  induction rounds with
  | stay same =>
    cases others with
    | stay _ => rfl
    | round changed _ => exact absurd same changed
  | round changed _ ih =>
    cases others with
    | stay same => exact absurd same changed
    | round _ others => exact ih others

/-- The rounds end at one text only, and as many rounds as there are characters at first lead to it. -/
theorem roundsTo_iff {text last : Text} : RoundsTo text last ↔ last = resolve text.length text := by
  have rounds : RoundsTo text (resolve text.length text) := roundsTo_resolve (Nat.le_refl text.length)
  exact ⟨fun others => others.eq rounds, fun same => same ▸ rounds⟩

theorem RoundsTo.length_le {text last : Text} (rounds : RoundsTo text last) : last.length ≤ text.length := by
  induction rounds with
  | stay _ => exact Nat.le_refl _
  | round _ _ ih => exact ih.trans (Text.length_substitute_le notLonger_placeholder _)

/-! ## Rendering -/

/-- The snippet with its escaped dollar signs set aside, which the rounds begin with. -/
def setAside (snippet : Text) : Text := snippet.replace ['\\', '$'] ['\x00']

/-- What is made of a text when its rounds are over. -/
def finish (text : Text) : Text := ((text.substitute choice?).substitute tabStop?).replace ['\x00'] ['$']

theorem render_eq_finish {snippet last : Text} (rounds : RoundsTo (setAside snippet) last) :
    render snippet = finish last := by
  rw [roundsTo_iff.mp rounds]
  rfl

theorem length_finish_le (text : Text) : (finish text).length ≤ text.length :=
  calc (finish text).length
      ≤ ((text.substitute choice?).substitute tabStop?).length := length_replace_le (by decide) _
    _ ≤ (text.substitute choice?).length := Text.length_substitute_le notLonger_tabStop _
    _ ≤ text.length := Text.length_substitute_le notLonger_choice text

theorem length_render_le (snippet : Text) : (render snippet).length ≤ snippet.length := by
  have rounds : RoundsTo (setAside snippet) _ := roundsTo_iff.mpr rfl
  rw [render_eq_finish rounds]
  calc (finish (resolve (setAside snippet).length (setAside snippet))).length
      ≤ (resolve (setAside snippet).length (setAside snippet)).length := length_finish_le _
    _ ≤ (setAside snippet).length := rounds.length_le
    _ ≤ snippet.length := length_replace_le (by decide) snippet

end Snippet

theorem Buffer.insert_at_column (rows above below : List Text) (target : Text) (column : Int) (insertions : Nat) :
    Buffer.insert ⟨⟨above ++ target :: below⟩, insertions⟩ rows above.length column =
      .ok ⟨⟨(Text.join ['\n'] (above ++ [target.take column.toNat]) ++ Snippet.plain rows).lines.dropLast ++
        (Text.join ['\n'] (target.drop column.toNat :: below)).lines⟩, insertions + 1⟩ := by
  have feed : (Text.join ['\n'] (above ++ [target.take column.toNat]) ++ Snippet.plain rows).getLast? = some '\n' := by
    rw [List.getLast?_append, Snippet.plain, Snippet.getLast?_render (by simp)]
    rfl
  have cut := (Text.lines_ended_append feed).2 (Text.join ['\n'] (target.drop column.toNat :: below))
  simp only [insert, insertedText, Int.toNat_natCast, List.drop_left, List.take_left]
  exact congrArg (fun lines => Except.ok (Buffer.mk ⟨lines⟩ (insertions + 1))) cut

namespace Snippet

/-- The rounds of rendering end for every snippet, as each makes the text shorter or is the last. No placeholder without
braces in its default is left then, and what is rendered is not longer than the snippet. Lines are rendered to a text that
ends in a line feed, so that what stands behind it in a document starts a line of its own. -/
theorem rounds_end :
    (∀ text : Text, text.substitute placeholder? = text ∨ (text.substitute placeholder?).length < text.length) ∧
      (∀ snippet : Text, ∃ last, (∀ other, RoundsTo (setAside snippet) other ↔ other = last) ∧ Resolved last ∧
        render snippet = finish last ∧ (render snippet).length ≤ snippet.length) ∧
      ∀ (rows above below : List Text) (target : Text) (column : Int) (insertions : Nat),
        (render (Text.join ['\n'] rows ++ ['\n'])).getLast? = some '\n' ∧
          Buffer.insert ⟨⟨above ++ target :: below⟩, insertions⟩ rows above.length column =
            .ok ⟨⟨(Text.join ['\n'] (above ++ [target.take column.toNat]) ++ plain rows).lines.dropLast ++
              (Text.join ['\n'] (target.drop column.toNat :: below)).lines⟩, insertions + 1⟩ := by
  refine ⟨fun text => ?_, fun snippet => ?_, fun rows above below target column insertions => ⟨?_, ?_⟩⟩
  · exact (resolved_or_shorter text).imp_left And.left
  · have rounds : RoundsTo (setAside snippet) _ := roundsTo_iff.mpr rfl
    exact ⟨_, fun _ => roundsTo_iff, rounds.resolved, render_eq_finish rounds, length_render_le snippet⟩
  · exact getLast?_render (by simp)
  · exact Buffer.insert_at_column rows above below target column insertions

-- What is left of one placeholder can make another of what stands around it.
example : render "$\x7b$\x7b1:2\x7d:name\x7d".toList = "name".toList := by decide

end Snippet

end Docblock
