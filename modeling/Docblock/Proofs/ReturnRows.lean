import Docblock.Proofs.FreshStops

/-! Return rows. With the templates that come with the library, the comment for a method or a function has exactly one
row with the return tag, and other comments have none, but for those of constructors: they share the template of
methods, which has a return row of its own. -/

set_option autoImplicit false

namespace Docblock

namespace Template
open Comment (Enclosed)

variable {markers : Markers} {template block lines : List Text} {stop? : Option Text}

theorem filter_returns_injectParameters (block_plain : ∀ row ∈ block, hasTag markers.returns row = false)
    (apart : ∀ row ∈ template, hasTag markers.returns row = true → hasTag markers.param row = false) :
    (injectParameters markers template block).filter (hasTag markers.returns) =
      template.filter (hasTag markers.returns) := by
  obtain ⟨above, below, place⟩ := exists_parameterPlace markers template
  have none_put : block.filter (hasTag markers.returns) = [] :=
    List.filter_eq_nil_iff.mpr fun row member => by simp [block_plain row member]
  calc (injectParameters markers template block).filter (hasTag markers.returns)
    _ = (above ++ below).filter (hasTag markers.returns) := by
      rw [place.injectParameters_eq, List.filter_append, List.filter_append, none_put, List.append_nil,
        ← List.filter_append]
    _ = (template.filter fun row => !hasTag markers.param row).filter (hasTag markers.returns) := by
      rw [place.append_eq]
    _ = template.filter (hasTag markers.returns) := by
      rw [List.filter_filter]
      refine List.filter_congr fun row member => ?_
      cases tagged : hasTag markers.returns row with
      | false => rfl
      | true => simp [apart row member tagged]

theorem Returning.filter_eq (returning : Returning markers template lines stop?)
    (own_tag : ∀ stop, hasTag markers.returns (markers.returnLine stop) = true)
    (plain : template.filter (hasTag markers.returns) = []) :
    ∃ stop, lines.filter (hasTag markers.returns) = [markers.returnLine stop] := by
  cases returning with
  | kept tagged =>
    obtain ⟨row, member, tag⟩ := tagged
    exact absurd tag (List.filter_eq_nil_iff.mp plain row member)
  | @added above below stop _ cut _ _ =>
    refine ⟨stop, ?_⟩
    rw [← cut, List.filter_append, List.append_eq_nil_iff] at plain
    rw [List.filter_append, plain.1, List.filter_cons_of_pos (own_tag stop), plain.2, List.nil_append]

/-- The return row of the template that methods and constructors of Apex share. -/
def sharedReturnRow : Text := " * @return $\x7b4:description\x7d".toList

theorem bundled_returns (dialect : Dialect) (windows : Windows) : ∀ entry ∈ bundled dialect,
    (entry.2.map String.toList).filter (hasTag (dialect.grammar windows).markers.returns) =
      if dialect = .apex ∧ entry.1 = "method" then [sharedReturnRow] else [] := by
  cases dialect with
  | apex =>
    have checked : ∀ entry ∈ bundled .apex, (entry.2.map String.toList).filter (hasTag Apex.markers.returns) =
      if Dialect.apex = .apex ∧ entry.1 = "method" then [sharedReturnRow] else [] := by decide
    exact checked
  | javaScript =>
    have checked : ∀ entry ∈ bundled .javaScript,
      (entry.2.map String.toList).filter (hasTag JavaScript.markers.returns) =
        if Dialect.javaScript = .apex ∧ entry.1 = "method" then [sharedReturnRow] else [] := by decide
    exact checked

theorem bundled_apart (dialect : Dialect) (windows : Windows) : ∀ entry ∈ bundled dialect,
    ∀ row ∈ entry.2.map String.toList, hasTag (dialect.grammar windows).markers.returns row = true →
      hasTag (dialect.grammar windows).markers.param row = false := by
  cases dialect with
  | apex =>
    have checked : ∀ entry ∈ bundled .apex, ∀ row ∈ entry.2.map String.toList,
      hasTag Apex.markers.returns row = true → hasTag Apex.markers.param row = false := by decide
    exact checked
  | javaScript =>
    have checked : ∀ entry ∈ bundled .javaScript, ∀ row ∈ entry.2.map String.toList,
      hasTag JavaScript.markers.returns row = true → hasTag JavaScript.markers.param row = false := by decide
    exact checked

end Template

namespace Planner
open Template (hasTag sharedReturnRow)

section
variable {dialect : Dialect} {windows : Windows}

theorem hasTag_returns_eq_false {row rest : Text} {c : Char} (row_eq : row = ' ' :: '*' :: (" @param ".toList ++ rest))
    (last : row.getLast? = some c) (filled : isBlank c = false) :
    hasTag (dialect.grammar windows).markers.returns row = false := by
  rw [hasTag_eq row_eq last filled]
  cases dialect <;> rfl

theorem hasTag_returns_apexParamLine (name : Text) :
    hasTag (dialect.grammar windows).markers.returns (apexParamLine name) = false := by
  have last : (apexParamLine name).getLast? = some 'n' := getLast?_append_of_some (by decide)
  exact hasTag_returns_eq_false rfl last (by decide)

theorem hasTag_returns_scriptParamLine {description : Text} {c : Char} (name : Text)
    (last : (' ' :: description).getLast? = some c) (filled : isBlank c = false) :
    hasTag (dialect.grammar windows).markers.returns (scriptParamLine description name) = false := by
  have last : (scriptParamLine description name).getLast? = some c := getLast?_append_of_some last
  exact hasTag_returns_eq_false rfl last filled

theorem hasTag_returns_typeLine (type : Text) :
    hasTag (dialect.grammar windows).markers.returns (typeLine type) = false := by
  have last : (typeLine type).getLast? = some '\x7d' := getLast?_append_of_some List.getLast?_concat
  have shape : typeLine type = ' ' :: '*' :: (" @type ".toList ++ ('\x7b' :: type ++ ['\x7d'])) := rfl
  rw [hasTag_eq shape last (by decide)]
  cases dialect <;> rfl

end

/-! ## The return rows of a plan -/

section
variable {windows : Windows} {template names lines : List Text}

def returnRows (dialect : Dialect) (windows : Windows) (lines : List Text) : List Text :=
  lines.filter (hasTag (dialect.grammar windows).markers.returns)

theorem returnRows_apexLines {kind : Kind} (apart : ∀ row ∈ template,
      hasTag Apex.markers.returns row = true → hasTag Apex.markers.param row = false)
    (has_own : kind = .method → returnRows .apex windows template ≠ [])
    (fitted : apexLines Apex.markers template kind names = .ok lines) :
    returnRows .apex windows lines = returnRows .apex windows template := by
  have block_plain : ∀ row ∈ names.map apexParamLine, hasTag Apex.markers.returns row = false := by
    intro row member
    obtain ⟨name, _, rfl⟩ := List.mem_map.mp member
    have plain : hasTag (Dialect.apex.grammar windows).markers.returns (apexParamLine name) = false :=
      hasTag_returns_apexParamLine name
    exact plain
  unfold apexLines at fitted
  dsimp only at fitted
  generalize injected_eq : (if names.isEmpty then template else
    Template.injectParameters Apex.markers template (names.map apexParamLine)) = injected at fitted
  have kept : returnRows .apex windows injected = returnRows .apex windows template := by
    rw [← injected_eq]
    split
    · rfl
    · exact Template.filter_returns_injectParameters block_plain apart
  split at fitted
  · next is_method =>
    have tagged : ∃ row ∈ injected, hasTag Apex.markers.returns row = true := by
      obtain ⟨row, member⟩ := List.exists_mem_of_ne_nil _ (kept ▸ has_own is_method)
      exact ⟨row, List.mem_filter.mp member⟩
    obtain rfl := Except.ok.inj ((Template.ensureReturn_of_tagged tagged).symm.trans fitted)
    exact kept
  · exact pure_eq_ok_iff.mp fitted ▸ kept

theorem hasTag_returns_scriptParamLines {block : List Text}
    (written : scriptParamLines JavaScript.markers template names = .ok block) :
    ∀ row ∈ block, hasTag JavaScript.markers.returns row = false := by
  have plain {description : Text} {c : Char} (last : (' ' :: description).getLast? = some c)
      (filled : isBlank c = false) (name : Text) :
      hasTag (Dialect.javaScript.grammar {}).markers.returns (scriptParamLine description name) = false :=
    hasTag_returns_scriptParamLine name last filled
  cases names with
  | nil =>
    obtain rfl := pure_eq_ok_iff.mp written
    exact List.forall_mem_nil _
  | cons first rest =>
    obtain ⟨_, stop, _, rfl⟩ := scriptParamLines_cons written
    have stop_last : (' ' :: ("$\x7b".toList ++ stop ++ ":description\x7d".toList)).getLast? = some '\x7d' := by
      rw [← List.cons_append]
      exact getLast?_append_of_some (by decide)
    refine List.forall_mem_cons.mpr ⟨plain stop_last (by decide) first, fun row member => ?_⟩
    obtain ⟨name, _, rfl⟩ := List.mem_map.mp member
    exact plain (by decide : (' ' :: "description".toList).getLast? = some 'n') (by decide) name

theorem returnRows_scriptLines (apart : ∀ row ∈ template,
      hasTag JavaScript.markers.returns row = true → hasTag JavaScript.markers.param row = false)
    (plain : returnRows .javaScript windows template = [])
    (fitted : scriptLines JavaScript.markers template names = .ok lines) :
    ∃ stop, returnRows .javaScript windows lines = [JavaScript.markers.returnLine stop] := by
  have own_tag := Template.returnLine_tagged .javaScript windows
  unfold scriptLines at fitted
  split at fitted
  · obtain ⟨_, returning⟩ := Template.exists_returning .javaScript windows fitted
    exact returning.filter_eq own_tag plain
  · obtain ⟨block, written, ensured⟩ := bind_eq_ok_iff.mp fitted
    have kept := Template.filter_returns_injectParameters (hasTag_returns_scriptParamLines written) apart
    obtain ⟨_, returning⟩ := Template.exists_returning .javaScript windows ensured
    exact returning.filter_eq own_tag (kept.trans plain)

end

section
variable {cache later : Template.Cache} {dialect : Dialect} {windows : Windows} {doc : Document} {plan : Plan}

/-- What the return rows of a comment are, by the kind of the declaration. -/
def ReturnsAs (rows : List Text) : Option Kind → Prop
  | some .method | some .function => ∃ row, rows = [row]
  | some .constructor => rows = [sharedReturnRow]
  | _ => rows = []

theorem returnsAs_of_siteLines {site : Site} {name : String} {rows : List String} {names lines : List Text}
    (member : (name, rows) ∈ Template.bundled dialect) (named : templateName? dialect site.kind = some name)
    (no_type : dialect = .javaScript → site.kind ≠ .var)
    (fitted : siteLines (dialect.grammar windows) doc site (rows.map String.toList) names = .ok lines) :
    ReturnsAs (returnRows dialect windows lines) (some site.kind) := by
  have own : returnRows dialect windows (rows.map String.toList) =
      if dialect = .apex ∧ name = "method" then [sharedReturnRow] else [] :=
    Template.bundled_returns dialect windows _ member
  have apart := Template.bundled_apart dialect windows _ member
  obtain ⟨kind, line⟩ := site
  cases dialect with
  | apex =>
    have has_own : kind = .method → returnRows .apex windows (rows.map String.toList) ≠ [] := by
      rintro rfl
      obtain rfl := Option.some.inj named
      rw [own]
      exact List.cons_ne_nil _ _
    rw [returnRows_apexLines apart has_own (lift_eq_ok_iff.mp fitted), own]
    cases kind with
    | method =>
      obtain rfl := Option.some.inj named
      exact ⟨sharedReturnRow, rfl⟩
    | constructor | type | property | enumValue =>
      obtain rfl := Option.some.inj named
      rfl
    | function | var => simp [templateName?] at named
  | javaScript =>
    cases kind with
    | var => exact absurd rfl (no_type rfl)
    | method | function =>
      obtain ⟨stop, rows_eq⟩ := returnRows_scriptLines apart own (lift_eq_ok_iff.mp fitted)
      exact ⟨_, rows_eq⟩
    | type | property | enumValue => exact Except.ok.inj fitted ▸ own
    | constructor => simp [templateName?] at named

theorem returnRows_variable (type : Text) :
    returnRows .javaScript windows [Comment.opener, variableRow, typeLine type, Comment.ending] = [] := by
  have plain : ∀ row ∈ [Comment.opener, variableRow, Comment.ending],
    hasTag JavaScript.markers.returns row = false := by decide
  have type_plain : hasTag (Dialect.javaScript.grammar windows).markers.returns (typeLine type) = false :=
    hasTag_returns_typeLine type
  refine List.filter_eq_nil_iff.mpr fun row member => ?_
  have row_plain : hasTag JavaScript.markers.returns row = false := by
    simp only [List.mem_cons, List.not_mem_nil, or_false] at member
    rcases member with rfl | rfl | rfl | rfl
    · exact plain _ (by simp)
    · exact plain _ (by simp)
    · exact type_plain
    · exact plain _ (by simp)
  exact Bool.eq_false_iff.mp row_plain

theorem returnRows_headerPlan {fetched : Template.Fetched} (faithful : cache.Faithful .bundled)
    (got : cache.get .bundled .javaScript headerTemplate = .ok fetched) :
    returnRows .javaScript windows (headerPlan fetched.lines).lines = [] := by
  obtain ⟨rows, member⟩ : ∃ rows, ("file", rows) ∈ Template.bundled .javaScript := ⟨_, List.mem_cons_self⟩
  have plain : returnRows .javaScript windows (rows.map String.toList) = [] :=
    Template.bundled_returns .javaScript windows _ member
  calc returnRows .javaScript windows (headerPlan fetched.lines).lines
    _ = returnRows .javaScript windows (rows.map String.toList) ++ returnRows .javaScript windows [[]] := by
      rw [faithful.bundled_lines member got]
      exact List.filter_append _ _
    _ = [] := by
      rw [plain]
      rfl

theorem Planned.returnsAs (planned : Planned .bundled cache (dialect.grammar windows) doc plan later)
    (faithful : cache.Faithful .bundled) : ReturnsAs (returnRows dialect windows plan.lines) plan.kind := by
  cases header : plan.isFileHeader with
  | true =>
    cases planned with
    | header grounded got =>
      obtain rfl : dialect = .javaScript := (Dialect.dialect_grammar dialect windows).symm.trans grounded.1
      exact returnRows_headerPlan faithful got
    | site _ _ _ filled =>
      obtain ⟨_, _, _, _, _, _, rfl⟩ := fill_eq_ok_iff.mp filled
      simp at header
  | false =>
    by_cases is_var : plan.kind = some .var
    · obtain ⟨_, type, rfl, _, _, lines_eq⟩ := planned.variable_lines faithful header is_var
      rw [is_var, lines_eq]
      exact returnRows_variable type
    · obtain ⟨site, name, rows, member, named, kind_eq, fitted⟩ := planned.exists_entry faithful header
      rw [kind_eq]
      exact returnsAs_of_siteLines member named (fun _ same => is_var (kind_eq.trans (congrArg some same))) fitted

end

/-- With the templates that come with the library, the comment for a method or a function has exactly one return row.
The comment for a constructor has the one that its template brings along, and no other comment has any. -/
theorem return_rows (cache : Template.Cache) (dialect : Dialect) (windows : Windows) (doc : Document) (line : Int)
    (plan : Plan) (faithful : cache.Faithful .bundled)
    (made : (generate .bundled cache (dialect.grammar windows) doc line).plan? = some plan) :
    (plan.kind = some .method ∨ plan.kind = some .function →
      ∃ row, returnRows dialect windows plan.lines = [row]) ∧
    (plan.kind = some .constructor → returnRows dialect windows plan.lines = [sharedReturnRow]) ∧
    (plan.kind ∉ [some .method, some .function, some .constructor] → returnRows dialect windows plan.lines = []) := by
  have returns := (generate_planned made).returnsAs faithful
  refine ⟨fun carries => ?_, fun constructs => ?_, fun other => ?_⟩
  · rcases carries with is_method | is_function
    · rwa [is_method] at returns
    · rwa [is_function] at returns
  · rwa [constructs] at returns
  · unfold ReturnsAs at returns
    split at returns <;> simp_all

-- A constructor next to a method: of the two only the method can return something.
theorem return_rows_of_method :
    let doc : Document := ⟨["class Foo \x7b".toList, "  public Foo(String a) \x7b \x7d".toList,
      "  void run(Id b) \x7b".toList, "\x7d".toList]⟩
    ∃ plan, (generate .bundled [] (Dialect.apex.grammar {}) doc 2).plan? = some plan ∧
      plan.kind = some .method ∧ ∃ row, returnRows .apex {} plan.lines = [row] := by
  intro doc
  obtain ⟨plan, made, is_method⟩ : ∃ plan,
      (generate .bundled [] (Dialect.apex.grammar {}) doc 2).plan? = some plan ∧
        decide (plan.kind = some .method) = true :=
    (Option.any_eq_true _ _).mp (by decide +kernel)
  have is_method := of_decide_eq_true is_method
  obtain ⟨carries, _, _⟩ := return_rows [] .apex {} _ 2 plan (Template.Cache.faithful_nil _) made
  exact ⟨plan, made, is_method, carries (.inl is_method)⟩

/-- The comment for a constructor tells what is returned. -/
theorem constructor_returns :
    let doc : Document := ⟨["public class Foo \x7b".toList, "    public Foo(String a) \x7b".toList]⟩
    ∃ plan, (generate .bundled [] (Dialect.apex.grammar {}) doc 1).plan? = some plan ∧
      plan.kind = some .constructor ∧ returnRows .apex {} plan.lines ≠ [] := by
  intro doc
  obtain ⟨plan, made, returning⟩ : ∃ plan,
      (generate .bundled [] (Dialect.apex.grammar {}) doc 1).plan? = some plan ∧
        (decide (plan.kind = some .constructor) && !(returnRows .apex {} plan.lines).isEmpty) = true :=
    (Option.any_eq_true _ _).mp (by decide +kernel)
  obtain ⟨constructs, filled⟩ := Bool.and_eq_true_iff.mp returning
  exact ⟨plan, made, of_decide_eq_true constructs, by simpa using filled⟩

end Planner

end Docblock
