import Docblock.Proofs.ReturnLines

/-! Fresh tab stops. The comment for a function or a method of a script gets a tab stop for the description of its
first parameter, and one for what is returned if a return line is added. The first is above all tab stops of the
template lines that stay, and the second is above all that are there when it is given, so above the first as well. -/

set_option autoImplicit false

namespace Docblock

namespace Snippet

/-- The tab stop is above all those of the lines. -/
def Exceeds (stop : Text) (lines : List Text) : Prop :=
  ∀ line ∈ lines, ∀ row ∈ stopDigits line, numberOfDigits row < numberOfDigits stop

theorem exceeds_of_nextStop {lines : List Text} {number : Nat} {stop : Text} (found : nextStop lines = .ok number)
    (written : writeNumber number = .ok stop) : Exceeds stop lines := by
  intro line member row within
  obtain ⟨greatest, rfl, upper⟩ := nextStop_isGreatest found
  have le : numberOfDigits row ≤ greatest := upper.2 (.inr ⟨line, member, row, within, rfl⟩)
  have spelled := numberOfDigits_of_writeNumber written
  omega

end Snippet

namespace Template
open Snippet (Exceeds stopDigits)

/-- Lines with a return line, and the tab stop of that line if it was added. -/
inductive Returning (markers : Markers) (fitted : List Text) : List Text → Option Text → Prop where
  | kept : (∃ line ∈ fitted, hasTag markers.returns line = true) → Returning markers fitted fitted none
  | added {above below : List Text} {stop : Text} : (∀ line ∈ fitted, hasTag markers.returns line = false) →
      above ++ below = fitted → stopDigits (markers.returnLine stop) = [stop] → Exceeds stop fitted →
      Returning markers fitted (above ++ markers.returnLine stop :: below) (some stop)

theorem exists_returning (dialect : Dialect) (windows : Windows) {fitted lines : List Text}
    (ensured : ensureReturn (dialect.grammar windows).markers fitted = .ok lines) :
    ∃ stop?, Returning (dialect.grammar windows).markers fitted lines stop? := by
  by_cases tagged : ∃ line ∈ fitted, hasTag (dialect.grammar windows).markers.returns line = true
  · obtain rfl := Except.ok.inj ((ensureReturn_of_tagged tagged).symm.trans ensured)
    exact ⟨none, .kept tagged⟩
  · have plain : ∀ line ∈ fitted, hasTag (dialect.grammar windows).markers.returns line = false := by
      simpa using tagged
    obtain ⟨above, below, place⟩ := exists_returnPlace (dialect.grammar windows).markers fitted
    rw [place.ensureReturn_eq plain] at ensured
    obtain ⟨number, found, ensured⟩ := bind_eq_ok_iff.mp ensured
    obtain ⟨stop, written, ensured⟩ := bind_eq_ok_iff.mp ensured
    obtain rfl := pure_eq_ok_iff.mp ensured
    exact ⟨some stop, .added plain place.append_eq (stopDigits_returnLine (Snippet.digits_of_writeNumber written))
      (Snippet.exceeds_of_nextStop found written)⟩

end Template

namespace Planner
open Snippet (Exceeds stopDigits)
open Template (hasTag Returning)

/-- The line for the first parameter of a script, whose description has a tab stop. -/
def stopParamLine (stop name : Text) : Text :=
  scriptParamLine ("$\x7b".toList ++ stop ++ ":description\x7d".toList) name

theorem stopDigits_stopParamLine {stop : Text} (digits : Snippet.Digits stop) (name : Text) :
    stopDigits (stopParamLine stop name) = stopDigits name ++ [stop] := by
  have described : "$\x7b".toList ++ stop ++ ":description\x7d".toList =
      Snippet.placeholder stop "description".toList := by simp [Snippet.placeholder]
  have shape : stopParamLine stop name = " * @param \x7bany\x7d".toList ++
      ' ' :: (name ++ ' ' :: ("$\x7b".toList ++ stop ++ ":description\x7d".toList)) := rfl
  rw [shape, described, Snippet.stopDigits_blank, Snippet.stopDigits_blank name,
    Snippet.stopDigits_of_no_dollar (by decide), Snippet.stopDigits_placeholder digits (by decide), List.nil_append]

/-- A template with the lines for some parameters in the place of its own parameter lines, and the tab stop that the
first of them got. A template stays as it is where there are no parameters. -/
inductive Listing (markers : Markers) (template : List Text) : List Text → List Text → Option Text → Prop where
  | kept : Listing markers template [] template none
  | block {above below rest : List Text} {first stop : Text} :
      above ++ below = template.filter (fun line => !hasTag markers.param line) →
      stopDigits (stopParamLine stop first) = stopDigits first ++ [stop] → Exceeds stop (above ++ below) →
      Listing markers template (first :: rest)
        (above ++ (stopParamLine stop first :: rest.map (scriptParamLine "description".toList)) ++ below) (some stop)

section
variable {markers : Markers} {template names fitted lines : List Text}

theorem exists_listing {block : List Text} {first : Text} {rest : List Text}
    (written : scriptParamLines markers template (first :: rest) = .ok block) :
    ∃ stop, Listing markers template (first :: rest) (Template.injectParameters markers template block)
      (some stop) := by
  obtain ⟨number, found, written⟩ := bind_eq_ok_iff.mp written
  obtain ⟨stop, stop_written, written⟩ := bind_eq_ok_iff.mp written
  obtain rfl := pure_eq_ok_iff.mp written
  obtain ⟨above, below, place⟩ := Template.exists_parameterPlace markers template
  -- The stop is counted over the lines that are kept, which are those above and below the place.
  have exceeds : Exceeds stop (above ++ below) := place.append_eq ▸ Snippet.exceeds_of_nextStop found stop_written
  rw [place.injectParameters_eq]
  exact ⟨stop, .block place.append_eq (stopDigits_stopParamLine (Snippet.digits_of_writeNumber stop_written) first)
    exceeds⟩

theorem exists_listing_of_scriptLines (written : scriptLines markers template names = .ok lines) :
    ∃ fitted stop?, Listing markers template names fitted stop? ∧
      Template.ensureReturn markers fitted = .ok lines := by
  unfold scriptLines at written
  cases names with
  | nil => exact ⟨template, none, .kept, written⟩
  | cons first rest =>
    obtain ⟨block, block_written, ensured⟩ := bind_eq_ok_iff.mp written
    obtain ⟨stop, listing⟩ := exists_listing block_written
    exact ⟨_, some stop, listing, ensured⟩

theorem Listing.stop_lt {stop other : Text} (listing : Listing markers template names fitted (some stop))
    (returning : Returning markers fitted lines (some other)) : numberOfDigits stop < numberOfDigits other := by
  cases returning with
  | added _ _ _ exceeds =>
    cases listing with
    | @block _ _ _ first _ _ stops _ =>
      refine exceeds (stopParamLine stop first) (by simp) stop ?_
      rw [stops]
      exact List.mem_append_right _ List.mem_cons_self

end

theorem Planned.exists_scriptLines {store : Template.Store} {cache later : Template.Cache} {windows : Windows}
    {doc : Document} {plan : Plan} (planned : Planned store cache (JavaScript.grammar windows) doc plan later)
    (carries : plan.kind = some .method ∨ plan.kind = some .function) :
    ∃ fetched, cache.get store .javaScript plan.templateName = .ok fetched ∧
      scriptLines JavaScript.markers fetched.lines plan.parameters = .ok plan.lines := by
  cases planned with
  | header _ _ => simp [headerPlan] at carries
  | @site site name fetched _ _ _ got filled =>
    obtain ⟨names, lines, insertLine, _, fitted, _, rfl⟩ := fill_eq_ok_iff.mp filled
    obtain ⟨kind, _⟩ := site
    refine ⟨fetched, got, ?_⟩
    rcases carries with is_method | is_function
    · obtain rfl : kind = .method := Option.some.inj is_method
      exact lift_eq_ok_iff.mp fitted
    · obtain rfl : kind = .function := Option.some.inj is_function
      exact lift_eq_ok_iff.mp fitted

/-- Wherever the templates come from, the comment for a function or a method of a script is its template with the
lines for its parameters and with a return line. The tab stop of the first parameter is above all those of the template
lines that stay, and the tab stop of a return line that is added is above those of all other lines. -/
theorem fresh_stops (store : Template.Store) (cache : Template.Cache) (windows : Windows) (doc : Document) (line : Int)
    (plan : Plan) (made : (generate store cache (JavaScript.grammar windows) doc line).plan? = some plan)
    (carries : plan.kind = some .method ∨ plan.kind = some .function) :
    ∃ fetched fitted paramStop? returnStop?,
      cache.get store .javaScript plan.templateName = .ok fetched ∧
      Listing JavaScript.markers fetched.lines plan.parameters fitted paramStop? ∧
      Returning JavaScript.markers fitted plan.lines returnStop? ∧
      ∀ stop ∈ paramStop?, ∀ other ∈ returnStop?, numberOfDigits stop < numberOfDigits other := by
  obtain ⟨fetched, got, written⟩ := (generate_planned made).exists_scriptLines carries
  obtain ⟨fitted, paramStop?, listing, ensured⟩ := exists_listing_of_scriptLines written
  obtain ⟨returnStop?, returning⟩ := Template.exists_returning .javaScript windows ensured
  refine ⟨fetched, fitted, paramStop?, returnStop?, got, listing, returning, ?_⟩
  rintro stop rfl other rfl
  exact listing.stop_lt returning

-- The template has its own parameter lines, and of all its tab stops theirs are the greatest.
theorem fresh_stops_of_function :
    let store : Template.Store :=
      { files := [(["JSDoc".toList, "functions.json".toList], .body ["/**".toList,
          " * @description $\x7b3:What\x7d".toList, " * @param \x7bany\x7d $\x7b9:name\x7d".toList,
          " * @param $\x7b12:other\x7d".toList, " * @throws $5".toList, " */".toList])]
        folders := [["JSDoc".toList]] }
    let doc : Document := ⟨["function pick($item, limit) \x7b".toList]⟩
    ∃ (plan : Plan) (fetched : Template.Fetched) (fitted : List Text) (paramStop? returnStop? : Option Text),
      (generate store [] (JavaScript.grammar {}) doc 0).plan? = some plan ∧ plan.kind = some .function ∧
      Template.Cache.get [] store .javaScript plan.templateName = .ok fetched ∧
      Listing JavaScript.markers fetched.lines plan.parameters fitted paramStop? ∧
      Returning JavaScript.markers fitted plan.lines returnStop? ∧
      ∀ stop ∈ paramStop?, ∀ other ∈ returnStop?, numberOfDigits stop < numberOfDigits other := by
  intro store doc
  obtain ⟨plan, made, is_function⟩ : ∃ plan, (generate store [] (JavaScript.grammar {}) doc 0).plan? = some plan ∧
      decide (plan.kind = some .function) = true :=
    (Option.any_eq_true _ _).mp (by decide +kernel)
  have is_function := of_decide_eq_true is_function
  obtain ⟨fetched, fitted, paramStop?, returnStop?, fresh⟩ :=
    fresh_stops store [] {} doc 0 plan made (.inr is_function)
  exact ⟨plan, fetched, fitted, paramStop?, returnStop?, made, is_function, fresh⟩

end Planner

end Docblock
