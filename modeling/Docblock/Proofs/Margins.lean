import Docblock.Proofs.Insertion

/-! The margin of a comment. The lines of a comment below the one that opens it are empty or start with a
blank and an asterisk. Rendering takes nothing away from the margin and puts no new line next to it. -/

set_option autoImplicit false

namespace Docblock

namespace Text

/-- A line as it stands in a comment below the line that opens it. -/
def Marginal (line : Text) : Prop := line = [] ∨ [' ', '*'] <+: line

instance (line : Text) : Decidable line.Marginal := inferInstanceAs (Decidable (_ ∨ _))

/-- Only line feeds end lines of the text, and all lines but the first are marginal. -/
def Margined : Text → Prop
  | [] => True
  | c :: rest => c ≠ '\r' ∧ (c = '\n' → Marginal rest ∨ ['\n'] <+: rest) ∧ Margined rest

theorem margined_append {front rest : Text} (whole : front.Unbroken) (margined : rest.Margined) :
    (front ++ rest).Margined := by
  induction front with
  | nil => exact margined
  | cons c more ih =>
    obtain ⟨no_return, no_feed⟩ := whole c List.mem_cons_self
    have below := ih fun d within => whole d (List.mem_cons_of_mem c within)
    exact ⟨no_return, fun feed => absurd feed no_feed, below⟩

theorem Margined.of_append {front rest : Text} (margined : (front ++ rest).Margined) :
    rest.Margined := by
  induction front with
  | nil => exact margined
  | cons c more ih => exact ih margined.2.2

-- What stands in front of a mark may be put in front of another text.
theorem Margined.splice {inner behind out : Text} {c : Char} (mark : Snippet.Mark c)
    (margined : (inner ++ c :: behind).Margined) (out_margined : out.Margined) :
    (inner ++ out).Margined := by
  obtain ⟨no_blank, no_star, _, no_return, no_feed⟩ := mark
  induction inner with
  | nil => exact out_margined
  | cons d more ih =>
    obtain ⟨other, follows, below⟩ := margined
    refine ⟨other, fun feed => ?_, ih below⟩
    -- The margin behind a line feed cannot reach as far as the mark.
    have margin := follows feed
    cases more with
    | nil => simp [Marginal, List.cons_prefix_cons, no_blank.symm, no_feed.symm] at margin
    | cons e others =>
      cases others with
      | nil => exact .inr (by simpa [Marginal, List.cons_prefix_cons, no_star.symm] using margin)
      | cons f others => simpa [Marginal, List.cons_prefix_cons] using margin

theorem marginal_of_mem_lines {text : Text} (margined : text.Margined) :
    ∀ row ∈ text.lines.tail, row.Marginal := by
  induction text with
  | nil => simp
  | cons c rest ih =>
    obtain ⟨no_return, follows, below⟩ := margined
    have tail := ih below
    by_cases feed : c = '\n'
    · subst feed
      rw [lines_feed, List.tail_cons]
      obtain ⟨first, more, cut⟩ := List.exists_cons_of_ne_nil (lines_ne_nil rest)
      rw [cut] at tail ⊢
      have first_marginal : first.Marginal := by
        rcases follows rfl with (rfl | ⟨behind, rfl⟩) | ⟨behind, rfl⟩
        · obtain ⟨rfl, _⟩ := List.cons.inj cut
          exact .inl rfl
        · -- Blank and asterisk are the first characters of that line.
          obtain ⟨line, others, cut_behind⟩ := List.exists_cons_of_ne_nil (lines_ne_nil behind)
          rw [List.cons_append, List.cons_append, List.nil_append,
            lines_cons (by decide) (lines_cons (by decide) cut_behind)] at cut
          obtain ⟨rfl, _⟩ := List.cons.inj cut
          exact .inr (by simp [List.cons_prefix_cons])
        · rw [List.cons_append, lines_feed] at cut
          obtain ⟨rfl, _⟩ := List.cons.inj cut
          exact .inl rfl
      exact List.forall_mem_cons.mpr ⟨first_marginal, tail⟩
    · obtain ⟨line, more, cut⟩ := List.exists_cons_of_ne_nil (lines_ne_nil rest)
      rw [lines_cons ⟨no_return, feed⟩ cut]
      simpa [cut] using tail

theorem join_ended (row : Text) (rest : List Text) :
    ∃ below, join ['\n'] (row :: rest) ++ ['\n'] = row ++ '\n' :: below := by
  cases rest with
  | nil => exact ⟨[], rfl⟩
  | cons next others =>
    exact ⟨join ['\n'] (next :: others) ++ ['\n'], by simp [join_cons_cons]⟩

theorem margined_join {first : Text} {rows : List Text} (first_whole : first.Unbroken)
    (rows_whole : ∀ row ∈ rows, row.Unbroken) (marginal : ∀ row ∈ rows, row.Marginal) :
    (join ['\n'] (first :: rows) ++ ['\n']).Margined := by
  induction rows generalizing first with
  | nil => exact margined_append first_whole ⟨by decide, fun _ => .inl (.inl rfl), trivial⟩
  | cons row rest ih =>
    have below := ih (rows_whole row List.mem_cons_self)
      (fun other member => rows_whole other (List.mem_cons_of_mem row member))
      (fun other member => marginal other (List.mem_cons_of_mem row member))
    rw [join_cons_cons, List.append_assoc, List.append_assoc, List.singleton_append]
    refine margined_append first_whole ⟨by decide, fun _ => ?_, below⟩
    obtain ⟨behind, ended⟩ := join_ended row rest
    rw [ended]
    cases marginal row List.mem_cons_self with
    | inl none => exact .inr ⟨behind, by simp [none]⟩
    | inr margin => exact .inl (.inr (margin.trans (List.prefix_append row _)))

end Text

namespace Snippet

theorem Reducing.marginal {find : Text → Option (Text × Nat)} (reducing : Reducing find) {line : Text}
    (marginal : line.Marginal) : (line.substitute find).Marginal := by
  rcases marginal with rfl | ⟨behind, rfl⟩
  · exact .inl rfl
  · rw [reducing.substitute_append (by decide)]
    exact .inr (List.prefix_append _ _)

theorem Reducing.margined {find : Text → Option (Text × Nat)} (reducing : Reducing find) {text : Text}
    (margined : text.Margined) : (text.substitute find).Margined := by
  induction text using reducing.induction with
  | nil => trivial
  | pass c rest _ ih =>
    obtain ⟨no_return, follows, below⟩ := margined
    refine ⟨no_return, fun feed => ?_, ih below⟩
    rcases follows feed with marginal | ⟨behind, rfl⟩
    · exact .inl (reducing.marginal marginal)
    · rw [reducing.substitute_append (by decide)]
      exact .inr (List.prefix_append _ _)
  | replace taken rest replacement _ reduces ih =>
    have below := ih margined.of_append
    cases reduces.keeps with
    | inl whole => exact Text.margined_append whole below
    | inr kept =>
      obtain ⟨before, c, behind, rfl, mark⟩ := kept
      rw [List.append_assoc, List.append_assoc] at margined
      exact Text.Margined.splice mark margined.of_append below

theorem block_margined {first : Text} {rows : List Text} (plain : Unmarked first)
    (first_whole : first.Unbroken) (rows_whole : ∀ row ∈ rows, row.Unbroken)
    (marginal : ∀ row ∈ rows, row.Marginal) :
    ∃ below, block (first :: rows) = first :: below ∧ ∀ row ∈ below, row.Marginal := by
  have margined : (Snippet.plain (first :: rows)).Margined :=
    render_keeps Text.Margined (fun find reducing text => reducing.margined)
      (Text.margined_join first_whole rows_whole marginal)
  obtain ⟨behind, ended⟩ := Text.join_ended first rows
  have opened : first ++ ['\n'] <+: Snippet.plain (first :: rows) := by
    refine render_keeps (fun text => first ++ ['\n'] <+: text) ?_ ⟨behind, by simp [ended]⟩
    intro find reducing text starts
    obtain ⟨rest, rfl⟩ := starts
    have passed : Unmarked (first ++ ['\n']) := by
      intro c within
      cases List.mem_append.mp within with
      | inl within => exact plain c within
      | inr feed => simp [List.mem_singleton.mp feed, Mark]
    rw [reducing.substitute_append passed]
    exact List.prefix_append _ _
  obtain ⟨rest, cut⟩ := opened
  have cut_lines : (Snippet.plain (first :: rows)).lines = first :: Text.lines rest := by
    rw [← cut, List.append_assoc, List.singleton_append, Text.lines_unbroken_feed first_whole]
  refine ⟨(Text.lines rest).dropLast, ?_, fun row member => ?_⟩
  · rw [block, cut_lines, List.dropLast_cons_of_ne_nil (Text.lines_ne_nil rest)]
  · have below := Text.marginal_of_mem_lines margined
    rw [cut_lines, List.tail_cons] at below
    exact below row (List.dropLast_subset _ member)

end Snippet

end Docblock
