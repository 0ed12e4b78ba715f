import Docblock.Proofs.Pieces
import Docblock.Proofs.Placement
import Docblock.Proofs.Rows

/-! Parameter lines. The comment that comes to stand in a document has a line for each parameter, in their
order, and no other line with the tag of parameters. A line names its parameter in full unless the name holds
what a snippet takes for a tab stop, which is lost. -/

set_option autoImplicit false

namespace Docblock

namespace Planner
open Snippet (Shows render withoutStops)
open Template (hasTag)

/-- The line for a parameter as it is to stand in a document. -/
def paramLine : Dialect → Text → Text
  | .apex => apexParamLine
  | .javaScript => scriptParamLine "description".toList

/-! ## Tags -/

section
variable {dialect : Dialect} {windows : Windows} {row rest : Text}

theorem getLast?_append_of_some {front back : Text} {c : Char} (last : back.getLast? = some c) :
    (front ++ back).getLast? = some c := by
  rw [List.getLast?_append, last]
  rfl

theorem hasTag_eq {tag : Pattern} {c : Char} (row_eq : row = ' ' :: '*' :: rest) (last : row.getLast? = some c)
    (filled : isBlank c = false) : hasTag tag row = tag.matchesAt ('*' :: rest) := by
  rw [row_eq, List.getLast?_cons_cons] at last
  have last_filled : ∀ d, ('*' :: rest).getLast? = some d → isBlank d = false := by
    intro d same
    exact Option.some.inj (last.symm.trans same) ▸ filled
  have trimmed : row.trim = '*' :: rest := by
    rw [row_eq]
    exact Text.trimRight_eq_self last_filled
  rw [hasTag, trimmed]

theorem hasTag_param {c : Char} (row_eq : row = ' ' :: '*' :: (" @param ".toList ++ rest))
    (last : row.getLast? = some c) (filled : isBlank c = false) :
    hasTag (dialect.grammar windows).markers.param row = true := by
  rw [hasTag_eq row_eq last filled]
  cases dialect <;> rfl

theorem hasTag_return {c : Char} (row_eq : row = ' ' :: '*' :: (" @return".toList ++ rest))
    (last : row.getLast? = some c) (filled : isBlank c = false) :
    hasTag (dialect.grammar windows).markers.param row = false := by
  rw [hasTag_eq row_eq last filled]
  cases dialect <;> rfl

theorem hasTag_apexParamLine (name : Text) :
    hasTag (dialect.grammar windows).markers.param (apexParamLine name) = true := by
  have last : (apexParamLine name).getLast? = some 'n' := getLast?_append_of_some (by decide)
  exact hasTag_param rfl last (by decide)

theorem hasTag_scriptParamLine {description : Text} {c : Char} (name : Text)
    (last : (' ' :: description).getLast? = some c) (filled : isBlank c = false) :
    hasTag (dialect.grammar windows).markers.param (scriptParamLine description name) = true := by
  have last : (scriptParamLine description name).getLast? = some c := getLast?_append_of_some last
  exact hasTag_param rfl last filled

theorem hasTag_paramLine (name : Text) :
    hasTag (dialect.grammar windows).markers.param (paramLine dialect name) = true := by
  cases dialect with
  | apex => exact hasTag_apexParamLine name
  | javaScript =>
    have last : (' ' :: "description".toList).getLast? = some 'n' := by decide
    exact hasTag_scriptParamLine name last (by decide)

theorem hasTag_stopParamLine (stop name : Text) : hasTag (dialect.grammar windows).markers.param
    (scriptParamLine ("$\x7b".toList ++ stop ++ ":description\x7d".toList) name) = true := by
  have last : (' ' :: ("$\x7b".toList ++ stop ++ ":description\x7d".toList)).getLast? = some '\x7d' := by
    rw [← List.cons_append]
    exact getLast?_append_of_some (by decide)
  exact hasTag_scriptParamLine name last (by decide)

theorem hasTag_returnLine (stop : Text) : hasTag (dialect.grammar windows).markers.param
    ((dialect.grammar windows).markers.returnLine stop) = false := by
  have last : ((dialect.grammar windows).markers.returnLine stop).getLast? = some '\x7d' := by
    cases dialect <;> exact getLast?_append_of_some (by decide)
  cases dialect with
  | apex => exact hasTag_return rfl last (by decide)
  | javaScript => exact hasTag_return rfl last (by decide)

end

/-! ## Rows that render by themselves -/

/-- The row renders by itself, to a single line with the same tag. -/
structure Alone (tag : Pattern) (row : Text) : Prop where
  shows : Shows row (render row)
  whole : (render row).Unbroken
  same_tag : hasTag tag (render row) = hasTag tag row

theorem Alone.of_shows {tag : Pattern} {row out : Text} (shows : Shows row out) (whole : out.Unbroken)
    (same_tag : hasTag tag out = hasTag tag row) : Alone tag row := by
  rw [← shows.render_eq] at whole same_tag
  exact ⟨shows.render_eq ▸ shows, whole, same_tag⟩

section
variable {dialect : Dialect} {windows : Windows} {name description out stop : Text}

theorem shows_name (each : ∀ c ∈ name, JavaScript.nameChar c = true) :
    Shows (name ++ [' ']) (withoutStops name ++ [' ']) := by
  have other {c : Char} (refused : JavaScript.nameChar c = false) : c ∉ name :=
    fun within => absurd (each c within) (by simp [refused])
  exact Snippet.shows_withoutStops (other (by decide)) (other (by decide)) (other (by decide))

theorem nameChar_of_mem_withoutStops (each : ∀ c ∈ name, JavaScript.nameChar c = true) :
    ∀ c ∈ withoutStops name, JavaScript.nameChar c = true :=
  fun c within => each c ((Text.substituteFrom_sublist Snippet.erases_tabStop 0 name).subset within)

theorem shows_apexParamLine (each : ∀ c ∈ name, JavaScript.nameChar c = true) :
    Shows (apexParamLine name) (apexParamLine (withoutStops name)) := by
  have line_eq (name : Text) : apexParamLine name = " * @param ".toList ++ (name ++ [' ']) ++ "description".toList := by
    rw [← List.append_assoc, List.append_assoc _ [' ']]
    rfl
  rw [line_eq, line_eq]
  exact (Shows.append (.of_plain (by decide)) (shows_name each)).append (.of_plain (by decide))

theorem shows_scriptParamLine (each : ∀ c ∈ name, JavaScript.nameChar c = true)
    (described : Shows description out) :
    Shows (scriptParamLine description name) (scriptParamLine out (withoutStops name)) := by
  have line_eq (description name : Text) :
      scriptParamLine description name = " * @param \x7bany\x7d ".toList ++ (name ++ [' ']) ++ description := by
    rw [← List.append_assoc, List.append_assoc _ [' ']]
    rfl
  rw [line_eq, line_eq]
  exact (Shows.append (.of_plain (by decide)) (shows_name each)).append described

theorem shows_stop (front default : Text) (digits : Snippet.Digits stop)
    (plain : Snippet.Plain front ∧ Snippet.Plain default) (no_brace : '\x7b' ∉ default ∧ '\x7d' ∉ default) :
    Shows (front ++ "$\x7b".toList ++ stop ++ (':' :: (default ++ ['\x7d']))) (front ++ default) := by
  have shown := Shows.append (.of_plain plain.1) (Snippet.shows_placeholder digits plain.2 no_brace)
  have same : front ++ Snippet.placeholder stop default =
      front ++ "$\x7b".toList ++ stop ++ (':' :: (default ++ ['\x7d'])) := by
    simp [Snippet.placeholder]
  rwa [same] at shown

theorem shows_stopDescription (digits : Snippet.Digits stop) :
    Shows ("$\x7b".toList ++ stop ++ ":description\x7d".toList) "description".toList :=
  shows_stop [] "description".toList digits (by decide) (by decide)

def returnText : Dialect → Text
  | .apex => " * @return description".toList
  | .javaScript => " * @returns \x7bany\x7d What is returned".toList

theorem shows_returnLine (digits : Snippet.Digits stop) :
    Shows ((dialect.grammar windows).markers.returnLine stop) (returnText dialect) := by
  cases dialect with
  | apex => exact shows_stop " * @return ".toList "description".toList digits (by decide) (by decide)
  | javaScript =>
    exact shows_stop " * @returns \x7bany\x7d ".toList "What is returned".toList digits (by decide) (by decide)

/-! ## Rows -/

theorem unbroken_paramLine (each : ∀ c ∈ name, JavaScript.nameChar c = true) :
    (paramLine dialect name).Unbroken := by
  have name_whole : name.Unbroken := Text.unbroken_of_forall (by decide) (by decide) each
  cases dialect with
  | apex => exact Text.unbroken_append.mpr ⟨Text.unbroken_append.mpr ⟨by decide, name_whole⟩, by decide⟩
  | javaScript => exact Text.unbroken_append.mpr ⟨Text.unbroken_append.mpr ⟨by decide, name_whole⟩, by decide⟩

theorem shows_added {names : List Text} {row : Text}
    (named : ∀ name ∈ names, ∀ c ∈ name, JavaScript.nameChar c = true)
    (added : Added (dialect.grammar windows) names row) :
    (∃ name ∈ names, Shows row (paramLine dialect (withoutStops name)) ∧
      hasTag (dialect.grammar windows).markers.param row = true) ∨
    Shows row (returnText dialect) ∧ hasTag (dialect.grammar windows).markers.param row = false := by
  cases added with
  | @apexParam name apex member =>
    obtain rfl : dialect = .apex := (Dialect.dialect_grammar dialect windows).symm.trans apex
    exact .inl ⟨name, member, shows_apexParamLine (named name member), hasTag_paramLine name⟩
  | @scriptParam name script member =>
    obtain rfl : dialect = .javaScript := (Dialect.dialect_grammar dialect windows).symm.trans script
    have described : Shows "description".toList "description".toList := .of_plain (by decide)
    exact .inl ⟨name, member, shows_scriptParamLine (named name member) described, hasTag_paramLine name⟩
  | @stopParam name stop number script member written =>
    obtain rfl : dialect = .javaScript := (Dialect.dialect_grammar dialect windows).symm.trans script
    have described := shows_stopDescription (Snippet.digits_of_writeNumber written)
    exact .inl ⟨name, member, shows_scriptParamLine (named name member) described, hasTag_stopParamLine stop name⟩
  | @returns stop number written =>
    exact .inr ⟨shows_returnLine (Snippet.digits_of_writeNumber written), hasTag_returnLine stop⟩

theorem alone_of_added {names : List Text} {row : Text}
    (named : ∀ name ∈ names, ∀ c ∈ name, JavaScript.nameChar c = true)
    (added : Added (dialect.grammar windows) names row) : Alone (dialect.grammar windows).markers.param row := by
  rcases shows_added named added with ⟨name, member, shown, tagged⟩ | ⟨shown, untagged⟩
  · refine .of_shows shown ?_ ((hasTag_paramLine _).trans tagged.symm)
    exact unbroken_paramLine (nameChar_of_mem_withoutStops (named name member))
  · refine .of_shows shown (by cases dialect <;> decide) ?_
    rw [untagged]
    cases dialect <;> rfl

/-- What can be checked of a row whose placeholders are known, so that it renders by itself. -/
def Checked (tag : Pattern) (row : Text) : Prop :=
  Snippet.placeholdersOnly row = true ∧ '\\' ∉ row ∧ Snippet.Plain (row.substitute Snippet.placeholder?) ∧
    (row.substitute Snippet.placeholder?).Unbroken ∧
    hasTag tag (row.substitute Snippet.placeholder?) = hasTag tag row

instance (tag : Pattern) : DecidablePred (Checked tag) :=
  fun _ => inferInstanceAs (Decidable (_ ∧ _ ∧ _ ∧ _ ∧ _))

theorem Checked.alone {tag : Pattern} {row : Text} (checked : Checked tag row) : Alone tag row :=
  .of_shows (.of_placeholders checked.1 checked.2.1 checked.2.2.1) checked.2.2.2.1 checked.2.2.2.2

theorem ends_alone (dialect : Dialect) (windows : Windows) :
    ∀ line ∈ [Comment.opener, Comment.ending], Alone (dialect.grammar windows).markers.param line := by
  cases dialect with
  | apex =>
    have checked : ∀ line ∈ [Comment.opener, Comment.ending], Checked Apex.markers.param line := by decide +kernel
    exact fun line member => (checked line member).alone
  | javaScript =>
    have checked : ∀ line ∈ [Comment.opener, Comment.ending], Checked JavaScript.markers.param line := by
      decide +kernel
    exact fun line member => (checked line member).alone

theorem templates_alone (dialect : Dialect) (windows : Windows) : ∀ entry ∈ Template.bundled dialect,
    Comment.Enclosed (Alone (dialect.grammar windows).markers.param) (entry.2.map String.toList) := by
  intro entry member
  cases dialect with
  | apex =>
    have checked : ∀ entry ∈ Template.bundled .apex,
        Comment.Enclosed (Checked Apex.markers.param) (entry.2.map String.toList) := by decide +kernel
    exact (checked entry member).mono fun row => Checked.alone
  | javaScript =>
    have checked : ∀ entry ∈ Template.bundled .javaScript,
        Comment.Enclosed (Checked JavaScript.markers.param) (entry.2.map String.toList) := by decide +kernel
    exact (checked entry member).mono fun row => Checked.alone

/-! ## The lines of a plan -/

section
variable {markers : Markers} {template names lines : List Text}
  (return_plain : ∀ (number : Nat) (stop : Text), writeNumber number = .ok stop →
    hasTag markers.param (markers.returnLine stop) = false)
include return_plain

theorem filter_apexLines {kind : Kind} (some_name : names ≠ [])
    (tagged : ∀ name, hasTag markers.param (apexParamLine name) = true)
    (fitted : apexLines markers template kind names = .ok lines) :
    lines.filter (hasTag markers.param) = names.map apexParamLine := by
  have block_tagged : ∀ row ∈ names.map apexParamLine, hasTag markers.param row = true := by
    intro row member
    obtain ⟨name, _, rfl⟩ := List.mem_map.mp member
    exact tagged name
  have injected : (Template.injectParameters markers template (names.map apexParamLine)).filter
      (hasTag markers.param) = names.map apexParamLine := Template.filter_injectParameters block_tagged
  have filled : names.isEmpty = false := by simpa using some_name
  unfold apexLines at fitted
  simp only [filled, Bool.false_eq_true, if_false] at fitted
  split at fitted
  · rw [Template.filter_ensureReturn return_plain fitted, injected]
  · rw [← pure_eq_ok_iff.mp fitted, injected]

theorem filter_scriptLines (some_name : names ≠ [])
    (tagged : ∀ block, scriptParamLines markers template names = .ok block →
      ∀ row ∈ block, hasTag markers.param row = true)
    (fitted : scriptLines markers template names = .ok lines) :
    scriptParamLines markers template names = .ok (lines.filter (hasTag markers.param)) := by
  unfold scriptLines at fitted
  rw [if_neg (by simpa using some_name)] at fitted
  obtain ⟨block, written, fitted⟩ := bind_eq_ok_iff.mp fitted
  rw [Template.filter_ensureReturn return_plain fitted,
    Template.filter_injectParameters (tagged block written), written]

end

theorem filter_siteLines {doc : Document} {site : Site} {template names lines : List Text}
    (some_name : names ≠ []) (has_list : site.kind ∈ (dialect.grammar windows).signatureKinds)
    (named : ∀ name ∈ names, ∀ c ∈ name, JavaScript.nameChar c = true)
    (fitted : siteLines (dialect.grammar windows) doc site template names = .ok lines) :
    (lines.filter (hasTag (dialect.grammar windows).markers.param)).map render =
      names.map fun name => paramLine dialect (withoutStops name) := by
  obtain ⟨kind, line⟩ := site
  cases dialect with
  | apex =>
    have filtered := filter_apexLines (fun _ stop _ => hasTag_returnLine stop) some_name hasTag_apexParamLine
      (lift_eq_ok_iff.mp fitted)
    rw [filtered, List.map_map]
    exact List.map_congr_left fun name member => (shows_apexParamLine (named name member)).render_eq
  | javaScript =>
    have fitted : scriptLines (Dialect.javaScript.grammar windows).markers template names = .ok lines := by
      obtain rfl | rfl : kind = .function ∨ kind = .method := by
        simpa [Dialect.grammar, JavaScript.grammar] using has_list
      · exact lift_eq_ok_iff.mp fitted
      · exact lift_eq_ok_iff.mp fitted
    obtain ⟨first, rest, rfl⟩ := List.exists_cons_of_ne_nil some_name
    have tagged : ∀ block, scriptParamLines (Dialect.javaScript.grammar windows).markers template (first :: rest) =
        .ok block → ∀ row ∈ block, hasTag (Dialect.javaScript.grammar windows).markers.param row = true := by
      intro block written
      obtain ⟨number, stop, _, rfl⟩ := scriptParamLines_cons written
      refine List.forall_mem_cons.mpr ⟨hasTag_stopParamLine stop first, fun row member => ?_⟩
      obtain ⟨name, _, rfl⟩ := List.mem_map.mp member
      exact hasTag_paramLine name
    have written := filter_scriptLines (fun _ stop _ => hasTag_returnLine stop) some_name tagged fitted
    obtain ⟨number, stop, stop_written, filtered⟩ := scriptParamLines_cons written
    obtain ⟨first_named, rest_named⟩ := List.forall_mem_cons.mp named
    have described := shows_stopDescription (Snippet.digits_of_writeNumber stop_written)
    have first_shown := shows_scriptParamLine first_named described
    rw [filtered, List.map_cons, List.map_cons, first_shown.render_eq, List.map_map]
    refine congrArg _ (List.map_congr_left fun name member => ?_)
    exact (shows_scriptParamLine (rest_named name member) (.of_plain (by decide))).render_eq

section
variable {cache later : Template.Cache} {doc : Document} {plan : Plan}

theorem Planned.with_parameters (planned : Planned .bundled cache (dialect.grammar windows) doc plan later)
    (some_parameter : plan.parameters ≠ []) :
    plan.isFileHeader = false ∧ ∃ (site : Site) (template : List Text), plan.kind = some site.kind ∧
      site.kind ∈ (dialect.grammar windows).signatureKinds ∧
      siteLines (dialect.grammar windows) doc site template plan.parameters = .ok plan.lines := by
  cases planned with
  | header _ _ => exact absurd rfl some_parameter
  | @site site _ fetched _ _ _ _ filled =>
    obtain ⟨names, lines, _, read, fitted, _, rfl⟩ := fill_eq_ok_iff.mp filled
    exact ⟨rfl, site, fetched.lines, rfl, Signature.mem_signatureKinds read some_parameter, fitted⟩

/-- Unless a comment tells the type of a variable, each of its lines renders by itself. -/
theorem Planned.alone_of_not_var (planned : Planned .bundled cache (dialect.grammar windows) doc plan later)
    (faithful : cache.Faithful .bundled) (no_header : plan.isFileHeader = false) (no_var : plan.kind ≠ some .var) :
    ∀ line ∈ plan.lines, Alone (dialect.grammar windows).markers.param line := by
  obtain ⟨rows, lines_eq, rows_alone⟩ := planned.enclosed faithful no_header (templates_alone dialect windows)
    (fun row => alone_of_added planned.nameChar) (fun _ _ is_var => absurd is_var no_var)
  have ends_alone := ends_alone dialect windows
  intro line member
  rw [lines_eq, List.mem_cons, List.mem_append] at member
  rcases member with rfl | inside | last
  · exact ends_alone _ (by simp)
  · exact rows_alone line inside
  · exact ends_alone line (List.mem_cons_of_mem _ last)

theorem Planned.alone (planned : Planned .bundled cache (dialect.grammar windows) doc plan later)
    (faithful : cache.Faithful .bundled) (some_parameter : plan.parameters ≠ []) :
    ∀ line ∈ plan.lines, Alone (dialect.grammar windows).markers.param line := by
  obtain ⟨no_header, site, _, kind_eq, has_list, _⟩ := planned.with_parameters some_parameter
  refine planned.alone_of_not_var faithful no_header fun is_var => ?_
  rw [Option.some.inj (kind_eq.symm.trans is_var)] at has_list
  cases dialect <;> simp [Dialect.grammar, Apex.grammar, JavaScript.grammar] at has_list

theorem paramLine_inj {name other : Text} : paramLine dialect name = paramLine dialect other ↔ name = other := by
  refine ⟨fun same => ?_, congrArg _⟩
  cases dialect with
  | apex => exact List.append_cancel_left (List.append_cancel_right same)
  | javaScript => exact List.append_cancel_left (List.append_cancel_right same)

end

end

/-- A comment that is planned for a declaration with parameters and then carried out has a line for each of
them, in their order, and no other parameter line. Each names its parameter, less the dollar signs and digits
that count as tab stops in the name; so all are named in full exactly if no name has a dollar sign in front
of a digit. -/
theorem parameter_lines (cache : Template.Cache) (dialect : Dialect) (windows : Windows) (text : Text)
    (line : Int) (insertions : Nat) (plan : Plan) (faithful : cache.Faithful .bundled)
    (made : (generate .bundled cache (dialect.grammar windows) (.ofText text) line).plan? = some plan)
    (some_parameter : plan.parameters ≠ []) :
    ∃ (above : Nat) (comment : List Text), plan.insertLine = above ∧ above < text.lines.length ∧
      Buffer.apply ⟨.ofText text, insertions⟩ plan =
        .ok ⟨⟨text.lines.take above ++ comment ++ text.lines.drop above⟩, insertions + 1⟩ ∧
      comment.filter (hasTag (dialect.grammar windows).markers.param) =
        plan.parameters.map (fun name => paramLine dialect (withoutStops name)) ∧
      (comment.filter (hasTag (dialect.grammar windows).markers.param) =
          plan.parameters.map (paramLine dialect) ↔
        ∀ name ∈ plan.parameters, ¬ Snippet.HasStop name) := by
  have planned : Planned .bundled cache (dialect.grammar windows) (Buffer.mk (.ofText text) insertions).document
      plan _ := generate_planned made
  obtain ⟨above, line_eq, within, applied⟩ := planned.apply_eq (Document.unbroken_ofText text)
  obtain ⟨_, site, template, _, has_list, fitted⟩ := planned.with_parameters some_parameter
  have tagged := filter_siteLines some_parameter has_list planned.nameChar fitted
  have some_line : plan.lines ≠ [] := by
    intro none
    rw [none] at tagged
    exact some_parameter (List.map_eq_nil_iff.mp tagged.symm)
  have alone := planned.alone faithful some_parameter
  have block_eq := Snippet.block_eq_map some_line (fun line member => (alone line member).shows)
    (fun line member => (alone line member).whole)
  have filtered : (Snippet.block plan.lines).filter (hasTag (dialect.grammar windows).markers.param) =
      plan.parameters.map fun name => paramLine dialect (withoutStops name) := by
    rw [block_eq, List.filter_map, ← tagged]
    exact congrArg _ (List.filter_congr fun line member => (alone line member).same_tag)
  refine ⟨above, Snippet.block plan.lines, line_eq, within, applied, filtered, ?_⟩
  rw [filtered, List.map_inj_left]
  refine forall_congr' fun name => forall_congr' fun member => ?_
  have no_brace : '\x7b' ∉ name := fun inside => absurd (planned.nameChar name member _ inside) (by decide)
  rw [paramLine_inj, Snippet.withoutStops_eq_iff no_brace]

-- Of the two names the first has a dollar sign, but no tab stop.
theorem parameter_lines_of_function :
    ∃ (plan : Plan) (above : Nat) (comment : List Text),
      let text : Text := "function pick($item,\n    options = \x7b\x7d) \x7b\n\x7d".toList
      (generate .bundled [] (Dialect.javaScript.grammar {}) (.ofText text) 0).plan? = some plan ∧
      plan.parameters ≠ [] ∧ plan.insertLine = above ∧ above < text.lines.length ∧
      Buffer.apply ⟨.ofText text, 0⟩ plan =
        .ok ⟨⟨text.lines.take above ++ comment ++ text.lines.drop above⟩, 0 + 1⟩ ∧
      comment.filter (hasTag (Dialect.javaScript.grammar {}).markers.param) =
        plan.parameters.map (fun name => paramLine .javaScript (withoutStops name)) ∧
      (comment.filter (hasTag (Dialect.javaScript.grammar {}).markers.param) =
          plan.parameters.map (paramLine .javaScript) ↔
        ∀ name ∈ plan.parameters, ¬ Snippet.HasStop name) := by
  obtain ⟨plan, made, some_parameter⟩ : ∃ plan, (generate .bundled [] (Dialect.javaScript.grammar {})
      (.ofText "function pick($item,\n    options = \x7b\x7d) \x7b\n\x7d".toList) 0).plan? = some plan ∧
      (!plan.parameters.isEmpty) = true :=
    (Option.any_eq_true _ _).mp (by decide +kernel)
  have some_parameter : plan.parameters ≠ [] := by simpa using some_parameter
  obtain ⟨above, comment, told⟩ :=
    parameter_lines [] .javaScript {} _ 0 0 plan (Template.Cache.faithful_nil _) made some_parameter
  exact ⟨plan, above, comment, made, some_parameter, told⟩

/-- A dollar sign in front of a digit is lost, and here the name with it. -/
theorem parameter_line_of_stop :
    ∃ (plan : Plan) (buffer : Buffer),
      (generate .bundled [] (Dialect.javaScript.grammar {})
        (.ofText "function pick($1, b) \x7b\n\x7d".toList) 0).plan? = some plan ∧
      plan.parameters = ["$1".toList, "b".toList] ∧
      Buffer.apply ⟨.ofText "function pick($1, b) \x7b\n\x7d".toList, 0⟩ plan = .ok buffer ∧
      buffer.document.lines.filter (hasTag (Dialect.javaScript.grammar {}).markers.param) ≠
        plan.parameters.map (paramLine .javaScript) := by
  obtain ⟨plan, made, lost⟩ : ∃ plan, (generate .bundled [] (Dialect.javaScript.grammar {})
      (.ofText "function pick($1, b) \x7b\n\x7d".toList) 0).plan? = some plan ∧
      (decide (plan.parameters = ["$1".toList, "b".toList]) &&
        (Buffer.apply ⟨.ofText "function pick($1, b) \x7b\n\x7d".toList, 0⟩ plan).toOption.any fun buffer =>
          buffer.document.lines.filter (hasTag (Dialect.javaScript.grammar {}).markers.param) !=
            plan.parameters.map (paramLine .javaScript)) = true :=
    (Option.any_eq_true _ _).mp (by decide +kernel)
  obtain ⟨named, lost⟩ := Bool.and_eq_true_iff.mp lost
  obtain ⟨buffer, applied, lost⟩ := (Option.any_eq_true _ _).mp lost
  exact ⟨plan, buffer, made, of_decide_eq_true named, toOption_eq_some_iff.mp applied, by simpa using lost⟩

end Planner

end Docblock
