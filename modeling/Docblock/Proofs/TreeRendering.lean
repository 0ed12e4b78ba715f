import Docblock.Proofs.SnippetTrees
import Mathlib.Data.List.Destutter

/-! What is left of a tree. The rounds take away every placeholder whose default has no braces but those of further
placeholders, and then the leaves of the tree are left in their order. A tab stop without braces takes the digits
behind it along, and the frame of a placeholder that is not resolved stays. -/

set_option autoImplicit false

namespace Docblock.Snippet

/-- What a snippet consists of, with its placeholders resolved and its choices made. -/
inductive Leaf where
  | char (c : Char)
  | dollar
  | stop (braced : Bool) (row : Row)

namespace Leaf

def written : Leaf → Text
  | char c => [c]
  | dollar => ['\x00']
  | stop braced row => tabStop braced row.1

def shown (sign : Char) : Leaf → Text
  | char c => [c]
  | dollar => [sign]
  | stop _ _ => []

/-- The first leaf does not take the next one along, as a tab stop without braces does with a digit. -/
def Spares : Leaf → Leaf → Prop
  | stop false _, char c => isDigit c = false
  | _, _ => True

instance : DecidableRel Spares
  | stop false _, char c => inferInstanceAs (Decidable (isDigit c = false))
  | stop false _, dollar | stop false _, stop _ _ | stop true _, _ | char _, _ | dollar, _ =>
    inferInstanceAs (Decidable True)

theorem not_spares {first next : Leaf} (taken : ¬ first.Spares next) :
    ∃ row c, first = stop false row ∧ next = char c ∧ isDigit c = true := by
  unfold Spares at taken
  split at taken
  · next row c => exact ⟨row, c, rfl, rfl, by simpa using taken⟩
  · exact absurd trivial taken

end Leaf

namespace Tree

def leaves : Tree → List Leaf
  | done => []
  | prose text rest => text.1.map .char ++ rest.leaves
  | dollar rest => .dollar :: rest.leaves
  | stop braced row rest => .stop braced row :: rest.leaves
  | choice _ first _ rest => first.1.map .char ++ rest.leaves
  | placeholder _ default rest => default.leaves ++ rest.leaves

theorem value_eq (tree : Tree) : tree.value = tree.leaves.flatMap (Leaf.shown '$') := by
  induction tree with
  | done => rfl
  | prose _ _ ih | dollar _ ih | stop _ _ _ ih | choice _ _ _ _ ih =>
    simp [value, leaves, Leaf.shown, List.flatMap_map, ih]
  | placeholder _ _ _ inside ih => simp [value, leaves, inside, ih]

theorem not_reserved_of_leaf {tree : Tree} {c : Char} (leaf : .char c ∈ tree.leaves) : c ∉ reserved := by
  induction tree with
  | done => cases leaf
  | prose text rest ih =>
    have leaf : c ∈ text.1 ∨ .char c ∈ rest.leaves := by simpa [leaves] using leaf
    exact leaf.elim (text.2 c) ih
  | dollar rest ih | stop _ _ rest ih => exact ih (by simpa [leaves] using leaf)
  | choice row first others rest ih =>
    have leaf : c ∈ first.1 ∨ .char c ∈ rest.leaves := by simpa [leaves] using leaf
    exact leaf.elim (first.2.1 c) ih
  | placeholder row default rest inside ih =>
    have leaf : .char c ∈ default.leaves ∨ .char c ∈ rest.leaves := by simpa [leaves] using leaf
    exact leaf.elim inside ih

/-! ## What rounds keep -/

/-- Whether there is no choice and no tab stop with braces, at any depth. -/
def bare : Tree → Bool
  | done => true
  | prose _ rest | dollar rest | stop false _ rest => rest.bare
  | stop true _ _ | choice _ _ _ _ => false
  | placeholder _ default rest => default.bare && rest.bare

/-- Whether there is none in the default of any placeholder. -/
def bareDefaults : Tree → Bool
  | done => true
  | prose _ rest | dollar rest | stop _ _ rest | choice _ _ _ rest => rest.bareDefaults
  | placeholder _ default rest => default.bare && rest.bareDefaults

/-- Whether the snippet has no placeholder. -/
def flat : Tree → Bool
  | done => true
  | prose _ rest | dollar rest | stop _ _ rest | choice _ _ _ rest => rest.flat
  | placeholder _ _ _ => false

theorem append_keeps (tree behind : Tree) :
    (tree.append behind).leaves = tree.leaves ++ behind.leaves ∧
      (tree.append behind).bare = (tree.bare && behind.bare) ∧
        (tree.append behind).bareDefaults = (tree.bareDefaults && behind.bareDefaults) := by
  induction tree with
  | done => simp [append, leaves, bare, bareDefaults]
  | stop braced row rest ih => cases braced <;> simp [append, leaves, bare, bareDefaults, ih]
  | prose _ _ ih | dollar _ ih | choice _ _ _ _ ih | placeholder _ _ _ _ ih =>
    simp [append, leaves, bare, bareDefaults, ih, Bool.and_assoc]

theorem braceless_iff {tree : Tree} : tree.braceless = true ↔ tree.flat = true ∧ tree.bare = true := by
  induction tree with
  | done => simp [braceless, flat, bare]
  | stop braced row rest ih => cases braced <;> simp [braceless, flat, bare, ih]
  | prose _ _ ih | dollar _ ih => simp [braceless, flat, bare, ih]
  | choice | placeholder => simp [braceless, flat, bare]

theorem bareDefaults_of_bare {tree : Tree} (bare : tree.bare = true) : tree.bareDefaults = true := by
  induction tree with
  | done => rfl
  | stop braced row rest ih =>
    cases braced with
    | true => cases bare
    | false => exact ih bare
  | prose _ _ ih | dollar _ ih => exact ih bare
  | choice => cases bare
  | placeholder row default rest _ ih =>
    have bare : default.bare = true ∧ rest.bare = true := by simpa [Tree.bare] using bare
    simp [bareDefaults, bare.1, ih bare.2]

theorem round_keeps (tree : Tree) :
    tree.round.leaves = tree.leaves ∧ tree.round.bare = tree.bare ∧
      tree.round.bareDefaults = tree.bareDefaults := by
  induction tree with
  | done => exact ⟨rfl, rfl, rfl⟩
  | stop braced row rest ih => cases braced <;> simp [round, leaves, bare, bareDefaults, ih]
  | prose _ _ ih | dollar _ ih | choice _ _ _ _ ih => simp [round, leaves, bare, bareDefaults, ih]
  | placeholder row default rest inside ih =>
    cases braceless : default.braceless with
    | true =>
      have bare_default := (braceless_iff.mp braceless).2
      simp [round, braceless, append_keeps, leaves, bare, bareDefaults, bare_default,
        bareDefaults_of_bare bare_default, ih]
    | false => simp [round, braceless, leaves, bare, bareDefaults, inside, ih]

theorem flat_iff_of_settled {tree : Tree} (settled : tree.settled = true) :
    tree.flat = true ↔ tree.bareDefaults = true := by
  induction tree with
  | done => exact Iff.rfl
  | prose _ _ ih | dollar _ ih | stop _ _ _ ih | choice _ _ _ _ ih => exact ih settled
  | placeholder row default rest inside ih =>
    obtain ⟨⟨braces, settled_inside⟩, _⟩ :
        (default.braceless = false ∧ default.settled = true) ∧ rest.settled = true := by
      simpa [Tree.settled] using settled
    have not_bare : default.bare ≠ true := by
      intro bare
      have flat := (inside settled_inside).mpr (bareDefaults_of_bare bare)
      exact absurd (braceless_iff.mpr ⟨flat, bare⟩) (by simp [braces])
    simp [flat, bareDefaults, not_bare]

end Tree

/-! ## Tab stops -/

theorem tabStop?_tabStop {braced : Bool} {row rest : Text} (digits : Digits row)
    (stops : braced = false → ∀ c, rest.head? = some c → isDigit c = false) :
    tabStop? (tabStop braced row ++ rest) = some ([], (tabStop braced row).length) := by
  obtain ⟨first, more, rfl⟩ := List.exists_cons_of_ne_nil digits.1
  cases braced with
  | true =>
    obtain ⟨row_eq, rest_eq⟩ := digits.cut (by decide : isDigit '\x7d' = false) rest
    have cut : tabStop true (first :: more) ++ rest = '$' :: '\x7b' :: (first :: more ++ '\x7d' :: rest) := by
      simp [tabStop]
    rw [cut]
    simp only [tabStop?, row_eq, rest_eq, tabStop, if_true, List.length_cons, List.length_append,
      List.length_nil, Option.some.injEq, Prod.mk.injEq, true_and]
    omega
  | false =>
    obtain ⟨row_eq, rest_eq⟩ := Text.takeWhile_dropWhile_iff.mpr ⟨rfl, digits.2, stops rfl⟩
    have no_brace : (first :: more ++ rest).head? ≠ some '\x7b' := by
      rintro ⟨⟩
      exact not_mem_of_digits digits (by decide) List.mem_cons_self
    rw [tabStop, if_neg Bool.false_ne_true, List.cons_append, tabStop?_dollar no_brace, row_eq, rest_eq]
    simp only [List.isEmpty_cons, Bool.false_eq_true, if_false, List.length_cons, List.length_append,
      Option.some.injEq, Prod.mk.injEq, true_and]
    omega

/-- The text has the start of a placeholder in it. -/
def HasFrame (text : Text) : Prop :=
  ∃ front row behind, Digits row ∧ text = front ++ '$' :: '\x7b' :: (row ++ ':' :: behind)

theorem HasFrame.append_left {text : Text} (frame : HasFrame text) (front : Text) : HasFrame (front ++ text) := by
  obtain ⟨between, row, behind, digits, rfl⟩ := frame
  exact ⟨front ++ between, row, behind, digits, (List.append_assoc _ _ _).symm⟩

theorem HasFrame.brace_mem {text : Text} (frame : HasFrame text) : '\x7b' ∈ text.substitute tabStop? := by
  obtain ⟨front, row, behind, digits, rfl⟩ := frame
  have missed : tabStop? ('$' :: '\x7b' :: (row ++ ':' :: behind)) = none := by
    obtain ⟨row_eq, behind_eq⟩ := digits.cut (by decide : isDigit ':' = false) behind
    obtain ⟨first, more, rfl⟩ := List.exists_cons_of_ne_nil digits.1
    simp only [tabStop?, row_eq, behind_eq]
    rfl
  rw [substitute_tabStop_append ⟨by decide, by decide⟩, Text.substitute_of_none missed,
    Text.substitute_of_none (startsWith_tabStop _ _ (by decide))]
  simp

namespace Leaf

theorem substitute_written {leaf : Leaf} {behind : Text} (plain : ∀ c, leaf = char c → c ≠ '$')
    (spared : ∀ row, leaf = stop false row → ∀ c, behind.head? = some c → isDigit c = false) :
    Text.substitute tabStop? (leaf.written ++ behind) = leaf.shown '\x00' ++ Text.substitute tabStop? behind := by
  cases leaf with
  | char c => exact Text.substitute_of_none (startsWith_tabStop c _ (plain c rfl))
  | dollar => exact Text.substitute_of_none (startsWith_tabStop '\x00' _ (by decide))
  | stop braced row =>
    refine Text.substitute_of_some ?_ (tabStop?_tabStop row.2 ?_)
    · cases braced <;> simp [written, tabStop]
    · rintro rfl
      exact spared row rfl

theorem shown_destutter_stop (row other : Row) (leaves : List Leaf) (sign : Char) :
    (leaves.destutter' Spares (stop false row)).flatMap (shown sign) =
      (leaves.destutter' Spares (stop false other)).flatMap (shown sign) := by
  induction leaves with
  | nil => rfl
  | cons leaf leaves ih =>
    by_cases spares : (stop false row).Spares leaf
    · have spares_other : (stop false other).Spares leaf := by cases leaf <;> exact spares
      simp [List.destutter', spares, spares_other, shown]
    · have taken_other : ¬ (stop false other).Spares leaf := by cases leaf <;> exact spares
      simpa [List.destutter', spares, taken_other] using ih

theorem head?_written_of_spares {row : Row} {next : Leaf} (spares : (stop false row).Spares next) (behind : Text)
    (c : Char) (first : (next.written ++ behind).head? = some c) : isDigit c = false := by
  cases next with
  | char d =>
    obtain rfl : d = c := by simpa [written] using first
    exact spares
  | dollar =>
    obtain rfl : '\x00' = c := by simpa [written] using first
    decide
  | stop braced row =>
    obtain rfl : '$' = c := by cases braced <;> simpa [written, tabStop] using first
    decide

theorem substitute_flatMap {leaf : Leaf} {leaves : List Leaf} (plain : ∀ c, char c ∈ leaf :: leaves → c ≠ '$') :
    Text.substitute tabStop? ((leaf :: leaves).flatMap written) =
      (leaves.destutter' Spares leaf).flatMap (shown '\x00') := by
  induction leaves generalizing leaf with
  | nil =>
    have alone : Text.substitute tabStop? (leaf.written ++ []) = leaf.shown '\x00' ++ [] :=
      substitute_written (fun c same => plain c (by simp [same])) (by simp)
    simpa using alone
  | cons next leaves ih =>
    have plain_below : ∀ c, char c ∈ next :: leaves → c ≠ '$' :=
      fun c within => plain c (List.mem_cons_of_mem leaf within)
    by_cases spares : leaf.Spares next
    · rw [List.flatMap_cons, substitute_written (fun c same => plain c (by simp [same])), ih plain_below,
        List.destutter'_cons_pos (h := spares), List.flatMap_cons]
      rintro row rfl c first
      exact head?_written_of_spares spares _ c (by simpa using first)
    · -- The digit is one more of the row, whose length makes no difference.
      obtain ⟨row, c, rfl, rfl, digit⟩ := not_spares spares
      have digits : Digits (row.1 ++ [c]) := ⟨by simp, by simpa [or_imp, forall_and, digit] using row.2.2⟩
      have plain_longer : ∀ d, char d ∈ stop false ⟨row.1 ++ [c], digits⟩ :: leaves → d ≠ '$' :=
        fun d within => plain_below d (by simpa using Or.inr within)
      rw [List.destutter'_cons_neg (h := spares), shown_destutter_stop row ⟨row.1 ++ [c], digits⟩,
        ← ih plain_longer]
      simp [written, tabStop]

theorem map_shown {leaves : List Leaf} (plain : ∀ c, char c ∈ leaves → c ≠ '\x00') (sign : Char) :
    (leaves.flatMap (shown '\x00')).map (fun c => if c = '\x00' then sign else c) =
      leaves.flatMap (shown sign) := by
  rw [List.map_flatMap]
  refine List.flatMap_congr fun leaf member => ?_
  cases leaf with
  | char c => simp [shown, plain c member]
  | dollar => rfl
  | stop braced row => rfl

theorem length_destutter (leaf : Leaf) (leaves : List Leaf) (sign : Char) :
    (leaves.destutter' Spares leaf).length + ((leaf :: leaves).flatMap (shown sign)).length =
      (leaf :: leaves).length + ((leaves.destutter' Spares leaf).flatMap (shown sign)).length := by
  induction leaves generalizing leaf with
  | nil => simp
  | cons next leaves ih =>
    by_cases spares : leaf.Spares next
    · have below := ih next
      simp only [List.destutter'_cons_pos (h := spares), List.flatMap_cons, List.length_cons, List.length_append]
        at below ⊢
      omega
    · have below := ih leaf
      obtain ⟨row, c, rfl, rfl, _⟩ := not_spares spares
      simp only [List.destutter'_cons_neg (h := spares), List.flatMap_cons, List.length_cons, List.length_append,
        shown, List.length_nil] at below ⊢
      omega

theorem shown_destutter_eq_iff (leaves : List Leaf) (sign : Char) :
    (leaves.destutter Spares).flatMap (shown sign) = leaves.flatMap (shown sign) ↔ leaves.IsChain Spares := by
  rw [← List.destutter_eq_self_iff]
  refine ⟨fun same => (List.destutter_sublist Spares leaves).eq_of_length ?_, fun same => by rw [same]⟩
  cases leaves with
  | nil => rfl
  | cons leaf leaves =>
    have lengths := length_destutter leaf leaves sign
    rw [List.destutter_cons'] at same ⊢
    rw [same] at lengths
    omega

end Leaf

/-! ## Rendering -/

namespace Tree

theorem aside_chosen_of_flat {tree : Tree} (flat : tree.flat = true) :
    tree.chosen.aside = tree.leaves.flatMap Leaf.written := by
  unfold aside
  induction tree with
  | done => rfl
  | prose _ _ ih | dollar _ ih | stop _ _ _ ih | choice _ _ _ _ ih =>
    simp [chosen, written, leaves, Leaf.written, List.flatMap_map, ih flat]
  | placeholder => cases flat

theorem hasFrame_of_not_flat {tree : Tree} (left : tree.flat = false) : HasFrame tree.chosen.aside := by
  unfold aside
  induction tree with
  | done => cases left
  | prose _ _ ih | dollar _ ih | stop _ _ _ ih | choice _ _ _ _ ih => exact (ih left).append_left _
  | placeholder row default rest =>
    exact ⟨[], row.1, default.chosen.written ['\x00'] ++ '\x7d' :: rest.chosen.written ['\x00'], row.2,
      by simp [chosen, written, Snippet.placeholder]⟩

theorem render_source (tree : Tree) : ∃ last : Tree, last.leaves = tree.leaves ∧
    (last.flat = true ↔ tree.bareDefaults = true) ∧
      render tree.source =
        (last.chosen.aside.substitute tabStop?).map fun c => if c = '\x00' then '$' else c := by
  obtain ⟨last, resolved, settled, same_leaves, same_bare⟩ :=
    resolve_aside (fun last => last.leaves = tree.leaves ∧ last.bareDefaults = tree.bareDefaults)
      (fun last same => ⟨(round_keeps last).1.trans same.1, (round_keeps last).2.2.trans same.2⟩)
      ⟨rfl, rfl⟩ (Nat.le_refl tree.aside.length)
  refine ⟨last, same_leaves, same_bare ▸ flat_iff_of_settled settled, ?_⟩
  unfold render
  dsimp only
  rw [replace_source, resolved, (passes_chosen last).substitute_eq, replace_singleton]

theorem render_of_bareDefaults {tree : Tree} (bare : tree.bareDefaults = true) :
    render tree.source = (tree.leaves.destutter Leaf.Spares).flatMap (Leaf.shown '$') := by
  obtain ⟨last, same_leaves, flat_iff, rendered⟩ := render_source tree
  have plain (mark : Char) (reserved_mark : mark ∈ reserved) (c : Char) (leaf : .char c ∈ tree.leaves) :
      c ≠ mark :=
    fun same => not_reserved_of_leaf leaf (same ▸ reserved_mark)
  rw [rendered, aside_chosen_of_flat (flat_iff.mpr bare), same_leaves]
  cases leaves_eq : tree.leaves with
  | nil => rfl
  | cons leaf leaves =>
    rw [leaves_eq] at plain
    rw [Leaf.substitute_flatMap (plain '$' (by decide)), List.destutter_cons', Leaf.map_shown]
    exact fun c within => plain '\x00' (by decide) c ((leaves.destutter'_sublist Leaf.Spares leaf).subset within)

theorem brace_mem_render {tree : Tree} (more : tree.bareDefaults = false) : '\x7b' ∈ render tree.source := by
  obtain ⟨last, _, flat_iff, rendered⟩ := render_source tree
  have left : last.flat = false := by simpa [more] using flat_iff
  rw [rendered]
  exact List.mem_map.mpr ⟨'\x7b', (hasFrame_of_not_flat left).brace_mem, rfl⟩

theorem brace_not_mem_value (tree : Tree) : '\x7b' ∉ tree.value := by
  rw [value_eq, List.mem_flatMap]
  rintro ⟨leaf, member, within⟩
  cases leaf with
  | char c =>
    obtain rfl : '\x7b' = c := by simpa [Leaf.shown] using within
    exact not_reserved_of_leaf member (by decide)
  | dollar => simp [Leaf.shown] at within
  | stop braced row => simp [Leaf.shown] at within

/-- Rendering leaves what is to be left of a snippet exactly if the default of each placeholder has only text,
placeholders and tab stops without braces in it, and no tab stop without braces stands before a digit. -/
theorem render_source_iff (tree : Tree) :
    render tree.source = tree.value ↔ tree.bareDefaults = true ∧ tree.leaves.IsChain Leaf.Spares := by
  cases bare : tree.bareDefaults with
  | true => simp [render_of_bareDefaults bare, value_eq, Leaf.shown_destutter_eq_iff]
  | false =>
    have other : render tree.source ≠ tree.value :=
      fun same => brace_not_mem_value tree (same ▸ brace_mem_render bare)
    simp [other]

def everyDay : Tree :=
  placeholder ⟨['1'], by decide⟩
    (prose ⟨"every ".toList, by decide⟩
      (choice ⟨['2'], by decide⟩ ⟨"day".toList, by decide⟩ [⟨"week".toList, by decide⟩] done))
    done

/-- A choice is made when the rounds are over, and the placeholder that it stands in keeps its frame. -/
theorem render_everyDay :
    everyDay.source = "$\x7b1:every $\x7b2|day,week|\x7d\x7d".toList ∧
      render everyDay.source = "$\x7b1:every day\x7d".toList ∧ everyDay.value = "every day".toList := by
  decide

end Tree

end Docblock.Snippet
