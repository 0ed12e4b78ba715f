import Docblock.Proofs.Planning
import Docblock.Http.Service

/-! Descriptions and plans. What is told about the declaration near a line agrees with the comment that is
planned there: both come from one search, and a description cannot fail where the search found something. -/

set_option autoImplicit false

namespace Docblock

/-- The plan is for the declaration described and goes where the description says. -/
structure Info.Agrees (info : Info) (plan : Plan) : Prop where
  kind : plan.kind = some info.site.kind
  line : plan.declarationLine = some (info.site.line : Int)
  place : plan.insertLine = info.insertLine
  parameters : plan.parameters = info.parameters

theorem Grammar.enclosingType?_ok (grammar : Grammar) (doc : Document) (line : Int) :
    ∃ name, grammar.enclosingType? doc line = .ok name := by
  refine scanUp_ok fun i _ _ => ?_
  exact Document.bind_line_ok (by omega) (by omega) fun text => ⟨_, rfl⟩

namespace Planner

section
variable {grammar : Grammar} {doc : Document} {line : Int} {search : Search}

theorem describe_of_missed (ran : Search.run grammar doc line = .ok search)
    (missed : search.site? = none) : describe grammar doc line = .ok (search, none) := by
  refine bind_eq_ok_iff.mpr ⟨search, ran, ?_⟩
  rw [missed]
  rfl

theorem describe_of_found {site : Site} {insertLine : Nat} {parameters : List Text}
    (ran : Search.run grammar doc line = .ok search) (found : search.site? = some site)
    (placed : AnnotationRun.insertionLine grammar doc site.line = .ok insertLine)
    (read : Signature.parameters grammar doc site.line site.kind = .ok parameters) :
    ∃ enclosingType, describe grammar doc line =
      .ok (search, some ⟨site, insertLine, enclosingType, parameters⟩) := by
  obtain ⟨enclosingType, named⟩ := grammar.enclosingType?_ok doc site.line
  refine ⟨enclosingType, bind_eq_ok_iff.mpr ⟨search, ran, ?_⟩⟩
  rw [found]
  exact bind_eq_ok_iff.mpr ⟨insertLine, placed, bind_eq_ok_iff.mpr ⟨enclosingType, named,
    bind_eq_ok_iff.mpr ⟨parameters, read, rfl⟩⟩⟩

end

section
variable {store : Template.Store} {cache : Template.Cache} {grammar : Grammar} {doc : Document}
  {line : Int}

/-- What a call for a comment answers, told by the search from the same line. -/
inductive Answered (grammar : Grammar) (doc : Document) (line : Int) : Option Plan → Prop where
  | header {plan : Plan} : plan.isFileHeader = true → Answered grammar doc line (some plan)
  | missed {search : Search} :
      Search.run grammar doc line = .ok search → search.site? = none → Answered grammar doc line none
  | site {search : Search} {site : Site} {name : Text} {template : List Text} {plan : Plan} :
      Search.run grammar doc line = .ok search → search.site? = some site →
      fill grammar doc site name template = .ok plan → Answered grammar doc line (some plan)

theorem generate_answered {made : Option Plan}
    (answer : (generate store cache grammar doc line).result = .ok made) :
    Answered grammar doc line made := by
  unfold generate at answer
  cases took : aim grammar doc line with
  | error error => simp [took] at answer
  | ok aimed =>
    obtain ⟨search, target?⟩ := aimed
    simp only [took] at answer
    obtain ⟨rfl, _⟩ | ⟨ran, aimed⟩ := aim_cases took
    · obtain ⟨fetched, _, rfl, _⟩ := planHeader_eq_ok answer
      exact .header rfl
    · cases found : search.site? with
      | none =>
        obtain rfl : none = made := by simpa [aimed, found] using answer
        exact .missed ran found
      | some site =>
        simp only [aimed, found, Option.map_some] at answer
        obtain ⟨_, _, plan, _, _, filled, rfl, _⟩ := planSite_eq_ok answer
        exact .site ran found filled

/-- A comment that was filled in agrees with the description of its declaration. -/
theorem describe_of_fill {search : Search} {site : Site} {name : Text} {template : List Text} {plan : Plan}
    (ran : Search.run grammar doc line = .ok search) (found : search.site? = some site)
    (filled : fill grammar doc site name template = .ok plan) :
    plan.isFileHeader = false ∧
      ∃ info, describe grammar doc line = .ok (search, some info) ∧ info.Agrees plan := by
  obtain ⟨parameters, lines, insertLine, read, _, placed, rfl⟩ := fill_eq_ok_iff.mp filled
  obtain ⟨enclosingType, described⟩ := describe_of_found ran found placed read
  exact ⟨rfl, _, described, ⟨rfl, rfl, rfl, rfl⟩⟩

end

end Planner

namespace Http.Service
variable {service : Service} {grammar : Grammar} {doc : Document} {query : LineQuery}

theorem locate_response {search : Search} {info? : Option Info}
    (described : Planner.describe grammar doc query.line = .ok (search, info?)) :
    (service.locate grammar doc query).response = .located grammar.dialect info? := by
  rw [locate, described]

theorem generate_response {made : Option Plan}
    (answer : (Planner.generate service.store service.cache grammar doc query.line).result = .ok made) :
    (service.generate grammar doc query).response =
      made.elim (.missedDeclaration query.line) (carryOut grammar.dialect doc) := by
  rw [generate, replyToPlan, answer]
  cases made <;> rfl

end Http.Service

namespace Planner

/-- What is planned and what is described from one line agree, unless the plan is for a file header: there
is a plan exactly if there is a description, for the same declaration, place and parameters. The service
tells both as they are. -/
theorem describe_agrees (service : Http.Service) (grammar : Grammar) (doc : Document)
    (query : Http.LineQuery) (made : Option Plan)
    (answer : (generate service.store service.cache grammar doc query.line).result = .ok made) :
    (∀ plan, made = some plan → plan.isFileHeader = false →
      ∃ search info, describe grammar doc query.line = .ok (search, some info) ∧ info.Agrees plan ∧
        (service.locate grammar doc query).response = .located grammar.dialect (some info) ∧
        (service.generate grammar doc query).response =
          Http.Service.carryOut grammar.dialect doc plan) ∧
    (made = none →
      ∃ search, describe grammar doc query.line = .ok (search, none) ∧
        (service.locate grammar doc query).response = .located grammar.dialect none ∧
        (service.generate grammar doc query).response = .missedDeclaration query.line) ∧
    ∀ search info, describe grammar doc query.line = .ok (search, some info) →
      ∃ plan, made = some plan ∧ (plan.isFileHeader = true ∨ info.Agrees plan) := by
  have replied := Http.Service.generate_response answer
  cases generate_answered answer with
  | @header plan header =>
    refine ⟨fun other same no_header => ?_, by simp, fun search info _ => ⟨plan, rfl, .inl header⟩⟩
    obtain rfl := Option.some.inj same
    simp [header] at no_header
  | @missed search ran missed =>
    have described := describe_of_missed ran missed
    refine ⟨by simp, fun _ => ?_, fun other info told => ?_⟩
    · exact ⟨search, described, Http.Service.locate_response described, replied⟩
    · simp [described] at told
  | @site search site name template plan ran found filled =>
    obtain ⟨_, info, described, agrees⟩ := describe_of_fill ran found filled
    refine ⟨fun other same _ => ?_, by simp, fun other told telling => ?_⟩
    · obtain rfl := Option.some.inj same
      exact ⟨search, info, described, agrees, Http.Service.locate_response described, replied⟩
    · obtain ⟨_, rfl⟩ : search = other ∧ info = told := by simpa [described] using telling
      exact ⟨plan, rfl, .inr agrees⟩

-- A method below its annotation, with its parameters on lines of their own.
theorem describe_agrees_of_annotated :
    let service : Http.Service := { registry := .empty, store := .bundled }
    let doc : Document := ⟨["public class Rates \x7b".toList, "".toList, "  @AuraEnabled".toList,
      "  public static Decimal find(".toList, "    Id book, // the list".toList,
      "    Date day) \x7b".toList]⟩
    let query : Http.LineQuery := ⟨⟨[], none, none⟩, 2⟩
    ∃ plan search info, (generate service.store service.cache (Apex.grammar {}) doc query.line).result =
        .ok (some plan) ∧ plan.isFileHeader = false ∧
      describe (Apex.grammar {}) doc query.line = .ok (search, some info) ∧ info.Agrees plan ∧
      (service.locate (Apex.grammar {}) doc query).response = .located .apex (some info) ∧
      (service.generate (Apex.grammar {}) doc query).response = Http.Service.carryOut .apex doc plan := by
  intro service doc query
  obtain ⟨plan, made, no_header⟩ : ∃ plan,
      (generate service.store service.cache (Apex.grammar {}) doc query.line).plan? = some plan ∧
        (!plan.isFileHeader) = true :=
    (Option.any_eq_true _ _).mp (by decide +kernel)
  have no_header : plan.isFileHeader = false := by simpa using no_header
  have answer := Outcome.plan?_eq_some_iff.mp made
  obtain ⟨search, info, agreed⟩ :=
    (describe_agrees service (Apex.grammar {}) doc query (some plan) answer).1 plan rfl no_header
  exact ⟨plan, search, info, answer, no_header, agreed⟩

end Planner

end Docblock
