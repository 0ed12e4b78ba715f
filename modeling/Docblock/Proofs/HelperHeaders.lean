import Docblock.Proofs.Planning

/-! Headers of helpers. A document is a helper if its first code opens an object literal in parentheses, and
no doc comment stands above that line. A header is planned from a line of a helper, where it is the header
that is planned for the document as a whole, or else from a line that opens such a literal below other code. -/

set_option autoImplicit false

namespace Docblock

namespace AuraFile
variable {doc : Document} {text : Text}

/-! ## The first code -/

theorem plain_of_beforeCode (before : beforeCode text = true) :
    Comment.opener.isPrefixOf text.trim = false ∧ opensHelper text = false := by
  rcases Bool.or_eq_true_iff.mp before with blank | comment
  · have trimmed : text.trim = [] := by
      rw [← List.head?_eq_none_iff, Text.head?_trim, Text.opening?_eq_none_iff.mpr blank]
    simp [opensHelper, trimmed, Comment.opener]
  · obtain ⟨rest, trimmed⟩ := List.isPrefixOf_iff_prefix.mp comment
    simp [opensHelper, ← trimmed, Comment.opener, List.isPrefixOf]

theorem plain_of_interpreter (calls : "#!".toList.isPrefixOf text = true) :
    Comment.opener.isPrefixOf text.trim = false ∧ opensHelper text = false := by
  obtain ⟨behind, cut⟩ := List.isPrefixOf_iff_prefix.mp calls
  have hash : text.opening? = some '#' := cut ▸ Text.opening?_append (by decide) behind
  obtain ⟨rest, trimmed⟩ := List.head?_eq_some_iff.mp ((Text.head?_trim text).trans hash)
  simp [opensHelper, trimmed, Comment.opener, List.isPrefixOf]

theorem code_of_annotation (annotated : text.opening? = some '@') :
    beforeCode text = false ∧ "#!".toList.isPrefixOf text = false ∧ opensHelper text = false := by
  obtain ⟨rest, trimmed⟩ := List.head?_eq_some_iff.mp ((Text.head?_trim text).trans annotated)
  refine ⟨?_, ?_, by simp [opensHelper, trimmed]⟩
  · simp [beforeCode, Text.blank_eq_false_of_opening? annotated, trimmed, List.isPrefixOf]
  · rw [← Bool.not_eq_true]
    intro calls
    obtain ⟨behind, cut⟩ := List.isPrefixOf_iff_prefix.mp calls
    have hash : text.opening? = some '#' := cut ▸ Text.opening?_append (by decide) behind
    simp [annotated] at hash

/-- Where the first code is, and what it makes of the document. -/
structure Preamble.Found (doc : Document) (preamble : Preamble) : Prop where
  above : ∀ i text, i < preamble.firstCode → doc.line i = .ok text →
    beforeCode text = true ∨ "#!".toList.isPrefixOf text = true
  code : doc.count ≤ preamble.firstCode ∧ preamble.isHelper = false ∨
    ∃ text, doc.line preamble.firstCode = .ok text ∧ preamble.isHelper = opensHelper text

theorem exists_code (doc : Document) {top : Int} (nonneg : 0 ≤ top) :
    ∃ first, skipDown (fun i => return beforeCode (← doc.line i)) (doc.count - top).toNat top = .ok first ∧
      top ≤ first ∧ ∀ i text, top ≤ i → i < first → doc.line i = .ok text → beforeCode text = true := by
  obtain ⟨first, skipped⟩ : ∃ first, skipDown (fun i => return beforeCode (← doc.line i))
      (doc.count - top).toNat top = .ok first := by
    refine skipDown_ok fun i _ _ => ?_
    exact Document.bind_line_ok (by omega) (by omega) fun text => ⟨_, rfl⟩
  obtain ⟨from_top, _, passed, _⟩ := skipDown_eq_ok_iff.mp skipped
  refine ⟨first, skipped, from_top, fun i text under above read => ?_⟩
  obtain ⟨other, other_read, before⟩ := bind_eq_ok_iff.mp (passed i under above)
  obtain rfl : text = other := Except.ok.inj (read.symm.trans other_read)
  exact pure_eq_ok_iff.mp before

theorem exists_preamble (filled : doc.lines ≠ []) : ∃ found, preamble doc = .ok found ∧ found.Found doc := by
  have some_line : 0 < doc.count := List.length_pos_iff.mpr filled
  obtain ⟨text, read⟩ : ∃ text, doc.line 0 = .ok text := Document.exists_line (by omega) (by omega)
  -- The walk starts below an interpreter line, if there is one.
  obtain ⟨top, top_eq⟩ : ∃ top : Int, (if "#!".toList.isPrefixOf text then 1 else 0) = top := ⟨_, rfl⟩
  have top_cases : top = 0 ∨ top = 1 ∧ "#!".toList.isPrefixOf text = true := by
    split at top_eq
    · next calls => exact .inr ⟨top_eq.symm, calls⟩
    · exact .inl top_eq.symm
  obtain ⟨first, skipped, from_top, passed⟩ := exists_code doc (by omega : 0 ≤ top)
  have above (i : Int) (row : Text) (above : i < first) (row_read : doc.line i = .ok row) :
      beforeCode row = true ∨ "#!".toList.isPrefixOf row = true := by
    have nonneg := (Document.line_within row_read).1
    by_cases walked : top ≤ i
    · exact .inl (passed i row walked above row_read)
    · obtain rfl : i = 0 := by omega
      obtain rfl : text = row := Except.ok.inj (read.symm.trans row_read)
      exact top_cases.elim (fun same => absurd same (by omega)) fun interpreter => .inr interpreter.2
  have found_top {found : Preamble} (ends : (if (doc.count : Int) ≤ first then return ⟨false, first⟩
      else return ⟨opensHelper (← doc.line first), first⟩ : Except OutOfRange Preamble) = .ok found) :
      preamble doc = .ok found := by
    unfold preamble
    rw [if_neg (by simpa using filled)]
    exact bind_eq_ok_iff.mpr ⟨text, read, bind_eq_ok_iff.mpr ⟨first, top_eq ▸ skipped, ends⟩⟩
  by_cases all_above : (doc.count : Int) ≤ first
  · exact ⟨⟨false, first⟩, found_top (if_pos all_above), above, .inl ⟨all_above, rfl⟩⟩
  · obtain ⟨row, row_read⟩ : ∃ row, doc.line first = .ok row := Document.exists_line (by omega) (by omega)
    refine ⟨⟨opensHelper row, first⟩, found_top ?_, above, .inr ⟨row, row_read, rfl⟩⟩
    rw [if_neg all_above]
    exact bind_eq_ok_iff.mpr ⟨row, row_read, rfl⟩

/-! ## Doc comments above the first code -/

theorem hasHeader_ok (doc : Document) (line : Int) : ∃ has, hasHeader doc line = .ok has := by
  refine bind_ok (scanDown_ok fun i above _ => ?_) fun verdict _ => ⟨_, rfl⟩
  exact Document.bind_line_ok above (by omega) fun text => ⟨_, rfl⟩

theorem opener_of_hasHeader {line : Int} (has : hasHeader doc line = .ok true) :
    ∃ i text, i < line ∧ doc.line i = .ok text ∧ Comment.opener.isPrefixOf text.trim = true := by
  obtain ⟨verdict, scanned, found⟩ := bind_eq_ok_iff.mp has
  have found := pure_eq_ok_iff.mp found
  obtain rfl : verdict = some true := by
    cases verdict with
    | none => simp at found
    | some told => exact congrArg some found
  obtain ⟨i, above, below, hit, _⟩ := scanDown_eq_some_iff.mp scanned
  obtain ⟨text, read, told⟩ := bind_eq_ok_iff.mp hit
  refine ⟨i, text, by omega, read, ?_⟩
  simp only [pure_eq_ok_iff] at told
  split at told
  · assumption
  · split at told <;> simp at told

namespace Preamble.Found
variable {preamble : Preamble}

theorem no_header (found : preamble.Found doc) : hasHeader doc preamble.firstCode = .ok false := by
  obtain ⟨has, checked⟩ := hasHeader_ok doc preamble.firstCode
  cases has with
  | false => exact checked
  | true =>
    obtain ⟨i, text, above, read, opens⟩ := opener_of_hasHeader checked
    rcases found.above i text above read with before | calls
    · simp [(plain_of_beforeCode before).1] at opens
    · simp [(plain_of_interpreter calls).1] at opens

theorem le_of_opensHelper (found : preamble.Found doc) {line : Int} (read : doc.line line = .ok text)
    (opens : opensHelper text = true) : preamble.firstCode ≤ line := by
  by_contra above
  rcases found.above line text (by omega) read with before | calls
  · simp [(plain_of_beforeCode before).2] at opens
  · simp [(plain_of_interpreter calls).2] at opens

end Preamble.Found

end AuraFile

namespace Planner
open AuraFile (opensHelper)

section
variable {store : Template.Store} {cache : Template.Cache} {grammar : Grammar} {doc : Document}
  {line : Int} {plan : Plan} {preamble : AuraFile.Preamble}

/-! ## Where headers are wanted -/

theorem opensHelper_of_headerOnOpenLine (wanted : headerOnOpenLine doc line = .ok true) :
    ∃ text, doc.line (doc.clamp line) = .ok text ∧ opensHelper text = true := by
  unfold headerOnOpenLine at wanted
  obtain ⟨text, read, wanted⟩ := bind_eq_ok_iff.mp wanted
  split at wanted
  · next opens => exact ⟨text, read, opens⟩
  · simp at wanted

theorem at_top_of_headerAtTop (found : AuraFile.preamble doc = .ok preamble)
    (wanted : headerAtTop doc line = .ok true) : preamble.isHelper = true ∧ line ≤ preamble.firstCode := by
  obtain ⟨other, other_found, wanted⟩ := bind_eq_ok_iff.mp wanted
  obtain rfl : preamble = other := Except.ok.inj (found.symm.trans other_found)
  split at wanted
  · next helper => simpa using helper
  · simp at wanted

theorem isHelper_of_headerAtTop (found : AuraFile.preamble doc = .ok preamble)
    (wanted : headerAtTop doc line = .ok true) : preamble.isHelper = true :=
  (at_top_of_headerAtTop found wanted).1

theorem no_header_on_annotation {text : Text} (read : doc.line line = .ok text) (annotated : text.opening? = some '@') :
    headerOnOpenLine doc line ≠ .ok true ∧ headerAtTop doc line ≠ .ok true := by
  obtain ⟨code, no_call, no_literal⟩ := AuraFile.code_of_annotation annotated
  have within := Document.line_within read
  constructor
  · intro wanted
    obtain ⟨other, other_read, opens⟩ := opensHelper_of_headerOnOpenLine wanted
    rw [Document.clamp_eq_self within.1 within.2] at other_read
    obtain rfl : text = other := Except.ok.inj (read.symm.trans other_read)
    simp [no_literal] at opens
  · intro wanted
    have filled : doc.lines ≠ [] := by simpa using Document.lines_filled within.1 within.2
    obtain ⟨preamble, found, first_code⟩ := AuraFile.exists_preamble filled
    obtain ⟨helper, upper⟩ := at_top_of_headerAtTop found wanted
    rcases Int.le_iff_eq_or_lt.mp upper with same | above
    · -- The annotation would be the first code, which opens a literal.
      rcases first_code.code with ⟨none_left, _⟩ | ⟨other, other_read, opens⟩
      · omega
      · obtain rfl : text = other := Except.ok.inj (read.symm.trans (same ▸ other_read))
        simp [helper, no_literal] at opens
    · rcases first_code.above line text above read with before | calls
      · exact Bool.false_ne_true (code.symm.trans before)
      · exact Bool.false_ne_true (no_call.symm.trans calls)

/-- The document as a whole wants a header exactly if it is a helper. -/
theorem wantsHeader_eq (script : grammar.dialect = .javaScript) (filled : doc.lines ≠ [])
    (found : AuraFile.preamble doc = .ok preamble)
    (no_header : AuraFile.hasHeader doc preamble.firstCode = .ok false) :
    wantsHeader grammar doc = .ok preamble.isHelper := by
  unfold wantsHeader
  rw [if_neg (by simp [script, filled])]
  refine bind_eq_ok_iff.mpr ⟨preamble, found, ?_⟩
  cases helper : preamble.isHelper with
  | false => simp
  | true =>
    rw [if_pos rfl]
    exact bind_eq_ok_iff.mpr ⟨false, no_header, rfl⟩

theorem header_wanted (made : (generate store cache grammar doc line).plan? = some plan)
    (header : plan.isFileHeader = true) :
    grammar.dialect = .javaScript ∧ doc.lines ≠ [] ∧
      (headerOnOpenLine doc line = .ok true ∨ headerAtTop doc line = .ok true) ∧
      ∃ fetched, cache.get store grammar.dialect headerTemplate = .ok fetched ∧
        plan = headerPlan fetched.lines := by
  rw [Outcome.plan?_eq_some_iff] at made
  unfold generate at made
  cases took : aim grammar doc line with
  | error error => simp [took] at made
  | ok aimed =>
    obtain ⟨search, target?⟩ := aimed
    simp only [took] at made
    obtain ⟨rfl, script, filled, wanted⟩ | ⟨_, aimed⟩ := aim_cases took
    · refine ⟨script, filled, wanted, ?_⟩
      obtain ⟨fetched, got, plan_eq, _⟩ := planHeader_eq_ok made
      exact ⟨fetched, got, (Option.some.inj plan_eq).symm⟩
    · -- A plan for a site is no header.
      cases found : search.site? with
      | none => simp [aimed, found] at made
      | some site =>
        simp only [aimed, found, Option.map_some] at made
        obtain ⟨_, _, other, _, _, filled, plan_eq, _⟩ := planSite_eq_ok made
        obtain rfl := Option.some.inj plan_eq
        obtain ⟨_, _, _, _, _, _, rfl⟩ := fill_eq_ok_iff.mp filled
        simp at header

end

/-- A header that is planned from a line is the header of the document as a whole, which no doc comment stands
above, if the document is a helper. If it is none, the document wants no header, and the line opens a literal
below the first code. -/
theorem header_from_line (store : Template.Store) (cache other : Template.Cache) (grammar : Grammar)
    (doc : Document) (line : Int) (plan : Plan) (faithful : cache.Faithful store)
    (other_faithful : other.Faithful store)
    (made : (generate store cache grammar doc line).plan? = some plan) (header : plan.isFileHeader = true) :
    ∃ preamble, AuraFile.preamble doc = .ok preamble ∧
      AuraFile.hasHeader doc preamble.firstCode = .ok false ∧
      (fileHeader store other grammar doc).plan? = (if preamble.isHelper then some plan else none) ∧
      (preamble.isHelper = false → preamble.firstCode < doc.clamp line ∧
        ∃ text, doc.line (doc.clamp line) = .ok text ∧ opensHelper text = true) := by
  obtain ⟨script, filled, wanted, fetched, got, rfl⟩ := header_wanted made header
  obtain ⟨preamble, found, first_code⟩ := AuraFile.exists_preamble filled
  refine ⟨preamble, found, first_code.no_header, ?_, fun no_helper => ?_⟩
  · have whole := wantsHeader_eq script filled found first_code.no_header
    obtain ⟨again, got_again, same⟩ := other_faithful.exists_get (faithful.get got).1
    unfold fileHeader
    rw [whole]
    cases preamble.isHelper with
    | false => rfl
    | true => simp [planHeader, got_again, Template.Fetched.lines, same, Outcome.plan?_eq_some_iff]
  · rcases wanted with on_open_line | at_top
    · obtain ⟨text, read, opens⟩ := opensHelper_of_headerOnOpenLine on_open_line
      have below := first_code.le_of_opensHelper read opens
      refine ⟨Int.lt_iff_le_and_ne.mpr ⟨below, fun same => ?_⟩, text, read, opens⟩
      -- On the first code itself the line would make the document a helper.
      rcases first_code.code with ⟨below, _⟩ | ⟨code, code_read, helper⟩
      · have within := (Document.line_within read).2
        omega
      · obtain rfl : code = text := Except.ok.inj (code_read.symm.trans (same ▸ read))
        simp [no_helper, opens] at helper
    · simp [isHelper_of_headerAtTop found at_top] at no_helper

-- A helper below an interpreter line and a comment, looked at from the comment.
theorem header_from_line_of_helper :
    ∃ plan preamble, let doc := Document.ofText "#! run\n// helper\n(\x7b\n\x7d)".toList
      (generate .bundled [] (JavaScript.grammar {}) doc 1).plan? = some plan ∧ plan.isFileHeader = true ∧
      AuraFile.preamble doc = .ok preamble ∧ AuraFile.hasHeader doc preamble.firstCode = .ok false ∧
      (fileHeader .bundled [] (JavaScript.grammar {}) doc).plan? =
        (if preamble.isHelper then some plan else none) ∧
      (preamble.isHelper = false → preamble.firstCode < doc.clamp 1 ∧
        ∃ text, doc.line (doc.clamp 1) = .ok text ∧ opensHelper text = true) := by
  obtain ⟨plan, made, header⟩ : ∃ plan, (generate .bundled [] (JavaScript.grammar {})
      (.ofText "#! run\n// helper\n(\x7b\n\x7d)".toList) 1).plan? = some plan ∧ plan.isFileHeader = true :=
    (Option.any_eq_true _ _).mp (by decide +kernel)
  obtain ⟨preamble, told⟩ := header_from_line .bundled [] [] (JavaScript.grammar {}) _ 1 plan
    (Template.Cache.faithful_nil _) (Template.Cache.faithful_nil _) made header
  exact ⟨plan, preamble, made, header, told⟩

/-- From a line that opens a literal below other code a header is planned that the document does not want. -/
theorem header_below_code :
    ∃ plan, let doc := Document.ofText "load();\n(\x7b a \x7d = read());".toList
      (generate .bundled [] (JavaScript.grammar {}) doc 1).plan? = some plan ∧ plan.isFileHeader = true ∧
      AuraFile.preamble doc = .ok ⟨false, 0⟩ ∧
      (fileHeader .bundled [] (JavaScript.grammar {}) doc).plan? = none := by
  obtain ⟨plan, made, header⟩ : ∃ plan, (generate .bundled [] (JavaScript.grammar {})
      (.ofText "load();\n(\x7b a \x7d = read());".toList) 1).plan? = some plan ∧ plan.isFileHeader = true :=
    (Option.any_eq_true _ _).mp (by decide +kernel)
  exact ⟨plan, made, header, by decide +kernel, by decide +kernel⟩

end Planner

end Docblock
