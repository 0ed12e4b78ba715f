import Docblock.Proofs.Bounds
import Docblock.Proofs.Commented

/-! Completions in comments. On each line of a comment that was planned for a declaration and carried out, what
is offered suits that declaration: the end of the comment is found, the search starts under it, and annotations
that stand there lead to the declaration below them, whatever is declared above the comment. -/

set_option autoImplicit false

namespace Docblock

namespace Completion
variable {grammar : Grammar} {doc : Document} {line focus close code : Int} {search : Search} {site : Site}

theorem focus_of_closed (ends : Comment.blockEnd doc line grammar.windows.commentLookback = .ok (some close))
    (under : close < code) (blank : ∀ i, close < i → i < code → doc.BlankAt i)
    (stops : ∃ text, doc.line code = .ok text ∧ text.blank = false) :
    Completion.focus grammar doc line = .ok code := by
  obtain ⟨text, read, filled⟩ := stops
  have within := Document.line_within read
  have walked : skipDown (fun i => return (← doc.line i).blank) (doc.count - (close + 1)).toNat (close + 1) =
      .ok code := by
    refine skipDown_eq_ok_iff.mpr ⟨by omega, by omega, fun i from_comment to_code => ?_, fun _ => ?_⟩
    · obtain ⟨other, other_read, is_blank⟩ := blank i (by omega) to_code
      exact bind_eq_ok_iff.mpr ⟨other, other_read, pure_eq_ok_iff.mpr is_blank⟩
    · exact bind_eq_ok_iff.mpr ⟨text, read, pure_eq_ok_iff.mpr filled⟩
  refine bind_eq_ok_iff.mpr ⟨some close, ends, bind_eq_ok_iff.mpr ⟨code, walked, ?_⟩⟩
  rw [if_pos within.2]
  rfl

theorem suggest_of_search (inside : Comment.inside doc line grammar.windows.commentLookback = .ok true)
    (starts : Completion.focus grammar doc line = .ok focus) (ran : Search.run grammar doc focus = .ok search)
    (found : search.site? = some site) (character : Int) :
    ∃ replaces, atSign doc line character = .ok replaces ∧
      suggest grammar doc line character = .ok (search, all grammar.dialect site.kind replaces) := by
  obtain ⟨replaces, signed⟩ := atSign_ok (Comment.nonneg_of_inside inside) character
  refine ⟨replaces, signed, bind_eq_ok_iff.mpr ⟨true, inside, ?_⟩⟩
  refine bind_eq_ok_iff.mpr ⟨focus, starts, bind_eq_ok_iff.mpr ⟨search, ran, ?_⟩⟩
  exact bind_eq_ok_iff.mpr ⟨replaces, signed, by rw [found]; rfl⟩

theorem labels_all (dialect : Dialect) (kind : Kind) (replaces : Option (Int × Int)) :
    (all dialect kind replaces).map (·.label) =
      commonTags dialect ++ kindTags dialect kind ++ (inlineReferences dialect).map (·.1) := by
  simp [all, Function.comp_def]

end Completion

namespace Commented
variable {dialect : Dialect} {windows : Windows} {doc : Document} {top i : Nat} {rows : List Text} {site : Site}

section
variable {grammar : Grammar} (commented : Commented grammar doc top rows site)
include commented

theorem inside (within : i < rows.length) (lookback : Int) :
    Comment.inside doc (top + i : Nat) lookback = .ok true := by
  have read := commented.comment i rows[i] (List.getElem?_eq_getElem within)
  have in_doc := Document.line_within read
  have shown := commented.enclosed.shows_comment (List.getElem_mem within)
  unfold Comment.inside
  rw [if_neg (by omega)]
  refine bind_eq_ok_iff.mpr ⟨rows[i], read, ?_⟩
  dsimp only
  rw [if_pos shown]
  rfl

theorem blockEnd_eq (within : i < rows.length) {lookahead : Int} (long : rows.length ≤ lookahead) :
    Comment.blockEnd doc (top + i : Nat) lookahead = .ok (some (top + rows.length - 1)) := by
  have test (j : Nat) (inside : j < rows.length) :
      (do return if (← doc.line (top + j : Nat)).holds Comment.closer then some ((top + j : Nat) : Int) else none :
        Except OutOfRange (Option Int)) =
        .ok (if j + 1 = rows.length then some ((top + j : Nat) : Int) else none) := by
    have found : rows[j]? = some rows[j] := List.getElem?_eq_getElem inside
    refine bind_eq_ok_iff.mpr ⟨rows[j], commented.comment j _ found, ?_⟩
    rw [pure_eq_ok_iff]
    exact if_congr (commented.enclosed.holds_closer_iff found) rfl rfl
  obtain ⟨last, length_eq⟩ : ∃ last, rows.length = last + 1 := Nat.exists_eq_add_one.mpr (by omega)
  have last_read := commented.comment last _ (List.getElem?_eq_getElem (by omega))
  have in_doc := Document.line_within last_read
  have last_eq : (top : Int) + rows.length - 1 = (top + last : Nat) := by omega
  refine scanDown_eq_some_iff.mpr ⟨(top + last : Nat), by omega, by omega, ?_, fun j from_line to_last => ?_⟩
  · rw [test last (by omega), if_pos length_eq.symm, last_eq]
  · obtain ⟨j, rfl⟩ : ∃ k : Nat, j = (top + k : Nat) := ⟨(j - top).toNat, by omega⟩
    rw [test j (by omega), if_neg (by omega)]

theorem focus_eq (within : i < rows.length) (long : rows.length ≤ grammar.windows.commentLookback) {first : Nat}
    (under : top + rows.length ≤ first)
    (blank : ∀ j : Nat, top + rows.length ≤ j → j < first → doc.BlankAt j)
    (stops : ∃ text, doc.line first = .ok text ∧ text.blank = false) :
    Completion.focus grammar doc (top + i : Nat) = .ok (first : Int) := by
  refine Completion.focus_of_closed (commented.blockEnd_eq within long) (by omega) (fun j below to_first => ?_) stops
  obtain ⟨j, rfl⟩ := Int.eq_ofNat_of_zero_le (by omega : 0 ≤ j)
  exact blank j (by omega) (by omega)

end

section
variable (commented : Commented (dialect.grammar windows) doc top rows site)
include commented

theorem focus_cases (within : i < rows.length) (long : rows.length ≤ (dialect.grammar windows).windows.commentLookback) :
    Completion.focus (dialect.grammar windows) doc (top + i : Nat) = .ok (site.line : Int) ∨
      Completion.focus (dialect.grammar windows) doc (top + i : Nat) = .ok ((top + rows.length : Nat) : Int) ∧
        (dialect.grammar windows).bareAnnotationAt doc (top + rows.length : Nat) = .ok true := by
  obtain ⟨below, under, above_site, bare, blank⟩ := commented.parted
  by_cases annotated : top + rows.length < below
  · have bare_under := bare (top + rows.length) le_rfl annotated
    exact .inr ⟨commented.focus_eq within long le_rfl (fun j _ _ => by omega)
      (filled_of_bareAnnotationAt bare_under), bare_under⟩
  · obtain ⟨text, read, filled, _⟩ := Grammar.filled_of_kindAt commented.declares
    refine .inl (commented.focus_eq within long (under.trans above_site) (fun j from_comment to_site => ?_)
      ⟨text, read, filled⟩)
    exact blank j (by omega) to_site

theorem exists_search (window : 0 ≤ (dialect.grammar windows).windows.declaration) (within : i < rows.length)
    (long : rows.length ≤ (dialect.grammar windows).windows.commentLookback) :
    ∃ focus search, Completion.focus (dialect.grammar windows) doc (top + i : Nat) = .ok focus ∧
      Search.run (dialect.grammar windows) doc focus = .ok search ∧ search.site? = some site := by
  rcases commented.focus_cases within long with focus_eq | ⟨focus_eq, annotated⟩
  · obtain ⟨search, ran, found⟩ := bind_eq_ok_iff.mp (Search.locate_declaring commented.declares window)
    exact ⟨_, search, focus_eq, ran, pure_eq_ok_iff.mp found⟩
  · obtain ⟨below, under, above_site, bare, blank⟩ := commented.parted
    refine ⟨_, _, focus_eq, Search.run_of_annotation commented.declares window (under.trans above_site) annotated ?_, rfl⟩
    intro j from_comment to_site
    by_cases in_run : j < below
    · exact .inr (bare j from_comment in_run)
    · exact .inl (blank j (by omega) to_site)

/-- On each line of a comment the completions are those for its declaration. -/
theorem suggest_eq (window : 0 ≤ (dialect.grammar windows).windows.declaration) (within : i < rows.length)
    (long : rows.length ≤ (dialect.grammar windows).windows.commentLookback) (character : Int) :
    ∃ search replaces, Completion.suggest (dialect.grammar windows) doc (top + i : Nat) character =
      .ok (search, Completion.all (dialect.grammar windows).dialect site.kind replaces) ∧
      search.site? = some site := by
  obtain ⟨focus, search, focus_eq, ran, found⟩ := commented.exists_search window within long
  obtain ⟨replaces, _, suggested⟩ :=
    Completion.suggest_of_search (commented.inside within _) focus_eq ran found character
  exact ⟨search, replaces, suggested, found⟩

end

end Commented

namespace Planner

/-- Each line of a comment that was planned for a declaration of a script and carried out offers the tags that all
declarations share, then those of the kind that the comment was planned for, then the inline references: from
there the search finds the declaration under the comment. -/
theorem completions_in_comment (cache : Template.Cache) (windows : Windows) (text : Text) (line : Int)
    (insertions : Nat) (plan : Plan) (kind : Kind) (faithful : cache.Faithful .bundled)
    (made : (generate .bundled cache (JavaScript.grammar windows) (.ofText text) line).plan? = some plan)
    (no_header : plan.isFileHeader = false) (kind_eq : plan.kind = some kind)
    (documented : kind ∈ [Kind.method, .function, .type, .property])
    (long : ((Snippet.render plan.snippet).breaks : Int) ≤ windows.commentLookback) :
    ∃ (above declared : Nat) (comment : List Text), plan.insertLine = above ∧ plan.declarationLine = some declared ∧
      comment.length = (Snippet.render plan.snippet).breaks ∧
      Buffer.apply ⟨.ofText text, insertions⟩ plan =
        .ok ⟨⟨text.lines.take above ++ comment ++ text.lines.drop above⟩, insertions + 1⟩ ∧
      ∀ i < comment.length, ∀ character : Int, ∃ search replaces offered,
        Completion.suggest (JavaScript.grammar windows)
          ⟨text.lines.take above ++ comment ++ text.lines.drop above⟩ (above + i : Nat) character =
          .ok (search, offered) ∧
        search.site? = some ⟨kind, declared + comment.length⟩ ∧ offered = Completion.all .javaScript kind replaces ∧
        offered.map (·.label) = Completion.commonTags .javaScript ++ Completion.kindTags .javaScript kind ++
          (Completion.inlineReferences .javaScript).map (·.1) := by
  have planned : Planned .bundled cache (JavaScript.grammar windows) (Buffer.mk (.ofText text) insertions).document
      plan _ := generate_planned made
  have no_var : plan.kind ≠ some .var := by
    rw [kind_eq]
    rintro ⟨⟩
    simp at documented
  obtain ⟨site, above, site_kind, line_eq, place_eq, window, commented⟩ :=
    planned.commented faithful no_header no_var
  obtain rfl : kind = site.kind := Option.some.inj (kind_eq.symm.trans site_kind)
  obtain ⟨place, same_place, _, applied⟩ := planned.apply_eq (Document.unbroken_ofText text)
  obtain rfl : above = place := by omega
  have length_eq : (Snippet.block plan.lines).length = (Snippet.render plan.snippet).breaks :=
    Snippet.length_block plan.lines
  refine ⟨above, site.line, Snippet.block plan.lines, place_eq, line_eq, length_eq, applied,
    fun i within character => ?_⟩
  have of_script : Commented (Dialect.javaScript.grammar windows) _ _ _ _ := commented
  obtain ⟨search, replaces, suggested, found⟩ := of_script.suggest_eq window within (length_eq ▸ long) character
  exact ⟨search, replaces, _, suggested, found, rfl, Completion.labels_all .javaScript site.kind replaces⟩

-- A field whose annotation stands above a blank line, under another declaration.
theorem completions_in_comment_of_field :
    ∃ (plan : Plan) (above declared : Nat) (comment : List Text),
      let text : Text := "class Card \x7b\n  @api\n\n  title;\n\x7d".toList
      (generate .bundled [] (JavaScript.grammar {}) (.ofText text) 3).plan? = some plan ∧
      plan.isFileHeader = false ∧ plan.kind = some .property ∧ (Snippet.render plan.snippet).breaks ≤ 100 ∧
      plan.insertLine = above ∧ plan.declarationLine = some declared ∧
      comment.length = (Snippet.render plan.snippet).breaks ∧
      Buffer.apply ⟨.ofText text, 0⟩ plan =
        .ok ⟨⟨text.lines.take above ++ comment ++ text.lines.drop above⟩, 0 + 1⟩ ∧
      ∀ i < comment.length, ∀ character : Int, ∃ search replaces offered,
        Completion.suggest (JavaScript.grammar {})
          ⟨text.lines.take above ++ comment ++ text.lines.drop above⟩ (above + i : Nat) character =
          .ok (search, offered) ∧
        search.site? = some ⟨.property, declared + comment.length⟩ ∧
        offered = Completion.all .javaScript .property replaces ∧
        offered.map (·.label) = Completion.commonTags .javaScript ++ Completion.kindTags .javaScript .property ++
          (Completion.inlineReferences .javaScript).map (·.1) := by
  obtain ⟨plan, made, told⟩ : ∃ plan, (generate .bundled [] (JavaScript.grammar {})
      (.ofText "class Card \x7b\n  @api\n\n  title;\n\x7d".toList) 3).plan? = some plan ∧
      (!plan.isFileHeader && (plan.kind == some .property &&
        decide ((Snippet.render plan.snippet).breaks ≤ 100))) = true :=
    (Option.any_eq_true _ _).mp (by decide +kernel)
  obtain ⟨no_header, kind_eq, short⟩ : plan.isFileHeader = false ∧ plan.kind = some .property ∧
      (Snippet.render plan.snippet).breaks ≤ 100 := by
    simpa using told
  obtain ⟨above, declared, comment, offered⟩ := completions_in_comment [] {} _ 3 0 plan .property
    (Template.Cache.faithful_nil _) made no_header kind_eq (by decide) (Int.ofNat_le.mpr short)
  exact ⟨plan, above, declared, comment, made, no_header, kind_eq, short, offered⟩

end Planner

end Docblock
