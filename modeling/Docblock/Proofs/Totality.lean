import Docblock.Proofs.Bounds
import Docblock.Proofs.ScriptComments
import Docblock.Proofs.TabStops

/-! Calls that cannot fail. With the templates that come with the library every call on a document gives a
result, whatever the windows and wherever the cursor is, but for a plan for a script where a parameter name
holds a tab stop too long to be counted on from. -/

set_option autoImplicit false

namespace Docblock

/-! ## Templates for all kinds -/

namespace Planner

section
variable {dialect : Dialect} {windows : Windows} {doc : Document} {site : Site}

theorem exists_templateName (declares : site.Declares (dialect.grammar windows) doc) :
    ∃ name, templateName? dialect site.kind = some name := by
  obtain ⟨_, _, rule, member, same, _⟩ := Grammar.exists_firing_rule declares
  have all_named : ∀ rule ∈ (dialect.grammar windows).rules, (templateName? dialect rule.kind).isSome = true := by
    cases dialect with
    | apex => simp [Dialect.grammar, Apex.grammar, Apex.rules, templateName?]
    | javaScript => simp [Dialect.grammar, JavaScript.grammar, JavaScript.rules, templateName?]
  exact Option.isSome_iff_exists.mp (same ▸ all_named rule member)

theorem no_dollar_of_apex {line : Int} {kind : Kind} {names : List Text}
    (read : Signature.parameters (Apex.grammar windows) doc line kind = .ok names) :
    ∀ name ∈ names, '$' ∉ name := by
  intro name member within
  obtain rfl | ⟨_, _, _, bare⟩ | ⟨signature, rfl⟩ := Signature.parameters_cases read
  · simp at member
  · simp [Apex.grammar] at bare
  · obtain ⟨segment, rfl⟩ := Signature.exists_segment member
    exact absurd (List.mem_filter.mp within).2 (by decide)

end

section
variable {cache : Template.Cache} {dialect : Dialect} {windows : Windows} {doc : Document} {line : Int}
  {before : List Event} {site : Site}

/-! ## Plans -/

theorem planHeader_ok (faithful : cache.Faithful .bundled) (script : dialect = .javaScript) (before : List Event) :
    ∃ plan, (planHeader .bundled cache dialect before).result = .ok (some plan) := by
  subst script
  obtain ⟨fetched, got, _⟩ := faithful.exists_get (Template.load_bundled fileTemplate_mem)
  have got : cache.get .bundled .javaScript headerTemplate = .ok fetched := got
  unfold planHeader
  rw [got]
  exact ⟨_, rfl⟩

theorem fileHeader_ok (faithful : cache.Faithful .bundled) (grammar : Grammar) (doc : Document) :
    ∃ made, (fileHeader .bundled cache grammar doc).result = .ok made := by
  obtain ⟨wanted, checked⟩ := wantsHeader_ok grammar doc
  unfold fileHeader
  rw [checked]
  cases wanted with
  | false => exact ⟨none, rfl⟩
  | true =>
    obtain ⟨plan, made⟩ := planHeader_ok faithful (grounded_of_wantsHeader checked).1 []
    exact ⟨some plan, made⟩

/-- What keeps a comment for a declaration from being planned. -/
def Uncountable (dialect : Dialect) (windows : Windows) (doc : Document) (site : Site) : Prop :=
  dialect = .javaScript ∧ ∃ names, Signature.parameters (dialect.grammar windows) doc site.line site.kind = .ok names ∧
    ∃ name ∈ names, Snippet.HasLongStop name

theorem fill_cases (name : Text) {template : List Text}
    (declares : site.Declares (dialect.grammar windows) doc)
    (enclosed : Comment.Enclosed (Snippet.StopsWithin 1) template) :
    (∃ plan, fill (dialect.grammar windows) doc site name template = .ok plan) ∨
      ∃ limit, fill (dialect.grammar windows) doc site name template = .error (.tooLong limit) ∧
        Uncountable dialect windows doc site := by
  have bounded := dialect.bounded windows doc
  obtain ⟨names, read⟩ := bounded.parameters_ok site.line site.kind
  obtain ⟨insertLine, placed⟩ := bounded.insertionLine_ok site.line
  by_cases short : ∀ name ∈ names, Snippet.StopsWithin (maxDigits - 1) name
  · obtain ⟨lines, fitted⟩ := siteLines_ok windows declares.within enclosed short
    exact .inl ⟨_, fill_eq_ok_iff.mpr ⟨names, lines, insertLine, read, fitted, placed, rfl⟩⟩
  · simp only [not_forall] at short
    obtain ⟨param, member, not_short⟩ := short
    have script : dialect = .javaScript := by
      cases dialect with
      | javaScript => rfl
      | apex => exact absurd (.of_no_dollar (no_dollar_of_apex read param member)) not_short
    have no_brace : '\x7b' ∉ param := fun within =>
      absurd (nameChar_of_mem_parameters read param member '\x7b' within) (by decide)
    have long := (Snippet.stopsWithin_or_hasLongStop no_brace).resolve_left not_short
    cases fitted : siteLines (dialect.grammar windows) doc site template names with
    | ok lines => exact .inl ⟨_, fill_eq_ok_iff.mpr ⟨names, lines, insertLine, read, fitted, placed, rfl⟩⟩
    | error failure =>
      rcases siteLines_error fitted with ⟨error, unread, _⟩ | ⟨limit, rfl⟩
      · obtain ⟨type, type_read⟩ := exists_variableType declares.within
        simp [type_read] at unread
      · exact .inr ⟨limit, fill_eq_error_iff.mpr (.inr ⟨names, read, .inl fitted⟩), script, names, read, param,
          member, long⟩

theorem planSite_cases (faithful : cache.Faithful .bundled) (declares : site.Declares (dialect.grammar windows) doc)
    (before : List Event) :
    (∃ plan, (planSite .bundled cache (dialect.grammar windows) doc site before).result = .ok (some plan)) ∨
      ∃ limit, (planSite .bundled cache (dialect.grammar windows) doc site before).result =
        .error (.tooLong limit) ∧ Uncountable dialect windows doc site := by
  obtain ⟨name, named⟩ := exists_templateName declares
  obtain ⟨rows, member⟩ := templateName?_bundled named
  obtain ⟨fetched, got, _⟩ := faithful.exists_get (Template.load_bundled member)
  have enclosed : Comment.Enclosed (Snippet.StopsWithin 1) fetched.lines :=
    faithful.bundled_lines member got ▸ templates_short dialect _ member
  unfold planSite
  rw [Dialect.dialect_grammar, named]
  simp only [got]
  rcases fill_cases name.toList declares enclosed with ⟨plan, filled⟩ | ⟨limit, failed, long⟩
  · exact .inl ⟨plan, by rw [filled]⟩
  · exact .inr ⟨limit, by rw [failed], long⟩

theorem generate_cases (faithful : cache.Faithful .bundled) (line : Int) :
    (∃ made, (generate .bundled cache (dialect.grammar windows) doc line).result = .ok made) ∨
      ∃ limit site, (generate .bundled cache (dialect.grammar windows) doc line).result =
        .error (.tooLong limit) ∧ locate (dialect.grammar windows) doc line = .ok (some site) ∧
        Uncountable dialect windows doc site := by
  obtain ⟨⟨search, target?⟩, took⟩ := aim_ok (dialect.bounded windows doc) line
  unfold generate
  rw [took]
  obtain ⟨rfl, script, _⟩ | ⟨ran, rfl⟩ := aim_cases took
  · obtain ⟨plan, made⟩ := planHeader_ok faithful script (Event.ofSearch (dialect.grammar windows).dialect search)
    exact .inl ⟨some plan, made⟩
  · cases found : search.site? with
    | none => exact .inl ⟨none, rfl⟩
    | some site =>
      have declares := (Search.run_sound ran found).1
      rcases planSite_cases faithful declares (Event.ofSearch (dialect.grammar windows).dialect search) with
        ⟨plan, made⟩ | ⟨limit, failed, long⟩
      · exact .inl ⟨some plan, made⟩
      · exact .inr ⟨limit, site, failed, bind_eq_ok_iff.mpr ⟨search, ran, by rw [found]; rfl⟩, long⟩

end

/-- Every call on a document gives a result: no line is read that is not there, and no template is missing. A
comment for a declaration is not planned only if it is one of a script and a parameter name holds a dollar sign
in front of as many digits as the longest number has. -/
theorem calls_give_results (cache : Template.Cache) (dialect : Dialect) (windows : Windows) (doc : Document)
    (line character : Int) (faithful : cache.Faithful .bundled) :
    (∃ site?, locate (dialect.grammar windows) doc line = .ok site?) ∧
    (∃ told, describe (dialect.grammar windows) doc line = .ok told) ∧
    (∃ made, (fileHeader .bundled cache (dialect.grammar windows) doc).result = .ok made) ∧
    (∃ offered, Completion.suggest (dialect.grammar windows) doc line character = .ok offered) ∧
    ((∃ made, (generate .bundled cache (dialect.grammar windows) doc line).result = .ok made) ∨
      ∃ limit site, (generate .bundled cache (dialect.grammar windows) doc line).result =
        .error (.tooLong limit) ∧ locate (dialect.grammar windows) doc line = .ok (some site) ∧
        Uncountable dialect windows doc site) := by
  have bounded := dialect.bounded windows doc
  exact ⟨bounded.locate_ok line, describe_ok bounded line, fileHeader_ok faithful _ doc,
    Completion.suggest_ok bounded line character, generate_cases faithful line⟩

-- A helper whose function has a dollar sign in a parameter name. The cache holds the template that a comment for the
-- function was made from.
theorem calls_give_results_in_helper :
    let grammar := Dialect.javaScript.grammar {}
    let doc : Document :=
      ⟨["(\x7b".toList, "  pick : function(cmp, $4) \x7b".toList, "  \x7d".toList, "\x7d)".toList]⟩
    let first := generate .bundled [] grammar doc 1
    (∃ plan, first.plan? = some plan ∧ plan.parameters = ["cmp".toList, "$4".toList]) ∧ first.cache.length = 1 ∧
    (∃ site?, locate grammar doc 1 = .ok site?) ∧
    (∃ told, describe grammar doc 1 = .ok told) ∧
    (∃ made, (fileHeader .bundled first.cache grammar doc).result = .ok made) ∧
    (∃ offered, Completion.suggest grammar doc 1 7 = .ok offered) ∧
    ((∃ made, (generate .bundled first.cache grammar doc 1).result = .ok made) ∨
      ∃ limit site, (generate .bundled first.cache grammar doc 1).result = .error (.tooLong limit) ∧
        locate grammar doc 1 = .ok (some site) ∧ Uncountable .javaScript {} doc site) := by
  intro grammar doc first
  obtain ⟨plan, made, told⟩ : ∃ plan, first.plan? = some plan ∧
      (decide (plan.parameters = ["cmp".toList, "$4".toList]) && decide (first.cache.length = 1)) = true :=
    (Option.any_eq_true _ _).mp (by decide +kernel)
  simp only [Bool.and_eq_true, decide_eq_true_eq] at told
  have faithful : first.cache.Faithful .bundled := generate_faithful (Template.Cache.faithful_nil _)
  exact ⟨⟨plan, made, told.1⟩, told.2, calls_give_results first.cache .javaScript {} doc 1 7 faithful⟩

end Planner

end Docblock
