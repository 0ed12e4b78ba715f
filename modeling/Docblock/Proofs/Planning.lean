import Docblock.Proofs.Heading
import Docblock.Proofs.Location
import Docblock.Session

/-! How a call comes to a plan: for the header of a helper, or for a site that declares something and the
template that belongs to it. The cache holds only what the store gave. -/

set_option autoImplicit false

namespace Docblock

namespace Template

/-- What the cache answers is what the store would answer. -/
def Cache.Faithful (store : Store) (cache : Cache) : Prop :=
  ∀ dialect name rows, cache.lookup (dialect, name) = some rows → store.load dialect name = .ok rows

theorem Cache.faithful_nil (store : Store) : Cache.Faithful store [] := by
  intro dialect name rows found
  simp at found

theorem Cache.Faithful.get {store : Store} {cache : Cache} (faithful : cache.Faithful store)
    {dialect : Dialect} {name : Text} {fetched : Fetched}
    (got : cache.get store dialect name = .ok fetched) :
    store.load dialect name = .ok fetched.rows ∧ fetched.cache.Faithful store := by
  unfold Cache.get at got
  cases held : cache.lookup (dialect, name) with
  | some lines =>
    obtain rfl : ⟨lines, cache, false⟩ = fetched := by simpa [held] using got
    exact ⟨faithful _ _ _ held, faithful⟩
  | none =>
    cases loaded : store.load dialect name with
    | error error => simp [held, loaded, Except.map] at got
    | ok lines =>
      obtain rfl : ⟨lines, cache ++ [((dialect, name), lines)], true⟩ = fetched := by
        simpa [held, loaded, Except.map] using got
      refine ⟨rfl, ?_⟩
      intro other_dialect other_name other_lines found
      rw [List.lookup_append] at found
      cases before : cache.lookup (other_dialect, other_name) with
      | some _ => exact faithful _ _ _ (by simpa [before] using found)
      | none =>
        rw [before, Option.none_or, List.lookup_cons] at found
        split at found
        · next same =>
          obtain ⟨rfl, rfl⟩ : other_dialect = dialect ∧ other_name = name := by simpa using same
          simpa [loaded] using found
        · simp at found

/-- A template that the store can load is there to be got, with the rows that the store has for it. -/
theorem Cache.Faithful.exists_get {store : Store} {cache : Cache} (faithful : cache.Faithful store)
    {dialect : Dialect} {name : Text} {rows : List Points} (loaded : store.load dialect name = .ok rows) :
    ∃ fetched, cache.get store dialect name = .ok fetched ∧ fetched.rows = rows := by
  unfold Cache.get
  cases held : cache.lookup (dialect, name) with
  | some other => exact ⟨_, rfl, Except.ok.inj ((faithful _ _ _ held).symm.trans loaded)⟩
  | none => exact ⟨_, by rw [loaded]; rfl, rfl⟩

end Template

namespace Planner

theorem lift_eq_ok_iff {ε α : Type} {wrap : ε → Failure} {result : Except ε α} {value : α} :
    lift wrap result = .ok value ↔ result = .ok value := by
  cases result <;> simp [lift, Except.mapError]

theorem lift_eq_error_iff {ε α : Type} {wrap : ε → Failure} {result : Except ε α} {failure : Failure} :
    lift wrap result = .error failure ↔ ∃ error, result = .error error ∧ wrap error = failure := by
  cases result <;> simp [lift, Except.mapError]

theorem Outcome.plan?_eq_some_iff {outcome : Outcome (Option Plan)} {plan : Plan} :
    outcome.plan? = some plan ↔ outcome.result = .ok (some plan) := by
  unfold Outcome.plan?
  cases outcome.result with
  | error failure => simp [Except.toOption]
  | ok made => simp [Except.toOption]

theorem fill_eq_ok_iff {grammar : Grammar} {doc : Document} {site : Site} {name : Text}
    {template : List Text} {plan : Plan} :
    fill grammar doc site name template = .ok plan ↔
      ∃ parameters lines, ∃ insertLine : Nat,
        Signature.parameters grammar doc site.line site.kind = .ok parameters ∧
        siteLines grammar doc site template parameters = .ok lines ∧
        AnnotationRun.insertionLine grammar doc site.line = .ok insertLine ∧
        plan = { templateName := name, lines, insertLine, kind := some site.kind,
                 declarationLine := some site.line, parameters } := by
  simp only [fill, bind_eq_ok_iff, lift_eq_ok_iff, pure_eq_ok_iff]
  constructor
  · intro filled
    obtain ⟨parameters, read, lines, fitted, insertLine, placed, rfl⟩ := filled
    exact ⟨parameters, lines, insertLine, read, fitted, placed, rfl⟩
  · intro filled
    obtain ⟨parameters, lines, insertLine, read, fitted, placed, rfl⟩ := filled
    exact ⟨parameters, read, lines, fitted, insertLine, placed, rfl⟩

theorem fill_eq_error_iff {grammar : Grammar} {doc : Document} {site : Site} {name : Text}
    {template : List Text} {failure : Failure} :
    fill grammar doc site name template = .error failure ↔
      (∃ error, Signature.parameters grammar doc site.line site.kind = .error error ∧
        .outOfRange error = failure) ∨
      ∃ parameters, Signature.parameters grammar doc site.line site.kind = .ok parameters ∧
        (siteLines grammar doc site template parameters = .error failure ∨
        ∃ lines, siteLines grammar doc site template parameters = .ok lines ∧
          ∃ error, AnnotationRun.insertionLine grammar doc site.line = .error error ∧
            .outOfRange error = failure) := by
  simp only [fill, bind_eq_error_iff, lift_eq_ok_iff, lift_eq_error_iff, pure, Except.pure, reduceCtorEq,
    and_false, exists_false, or_false]

theorem siteLines_error {grammar : Grammar} {doc : Document} {site : Site} {template parameters : List Text}
    {failure : Failure} (failed : siteLines grammar doc site template parameters = .error failure) :
    (∃ error, variableType doc site.line = .error error ∧ .outOfRange error = failure) ∨
      ∃ limit, .tooLong limit = failure := by
  unfold siteLines at failed
  split at failed
  · obtain ⟨limit, _, limit_eq⟩ := lift_eq_error_iff.mp failed
    exact .inr ⟨limit, limit_eq⟩
  · obtain ⟨error, unread, error_eq⟩ := lift_eq_error_iff.mp failed
    refine .inl ⟨error, ?_, error_eq⟩
    cases read : variableType doc site.line with
    | error other => simpa [read, Except.map] using unread
    | ok type => simp [read, Except.map] at unread
  · obtain ⟨limit, _, limit_eq⟩ := lift_eq_error_iff.mp failed
    exact .inr ⟨limit, limit_eq⟩
  · obtain ⟨limit, _, limit_eq⟩ := lift_eq_error_iff.mp failed
    exact .inr ⟨limit, limit_eq⟩
  · simp at failed

theorem fill_ne_template_error {grammar : Grammar} {doc : Document} {site : Site} {name : Text}
    {template : List Text} {error : Template.Error} :
    fill grammar doc site name template ≠ .error (.template error) := by
  intro failed
  rcases fill_eq_error_iff.mp failed with ⟨_, _, other⟩ | ⟨_, _, lines_failed | ⟨_, _, _, _, other⟩⟩
  · simp at other
  · rcases siteLines_error lines_failed with ⟨_, _, other⟩ | ⟨_, other⟩ <;> simp at other
  · simp at other

def Target.Grounded (grammar : Grammar) (doc : Document) : Target → Prop
  | .header => grammar.dialect = .javaScript ∧ doc.lines ≠ [] ∧ ¬ doc.Headed
  | .site place => place.Declares grammar doc ∧ 0 ≤ grammar.windows.declaration

/-- How a plan came about, and the cache after it. -/
inductive Planned (store : Template.Store) (cache : Template.Cache) (grammar : Grammar) (doc : Document) :
    Plan → Template.Cache → Prop where
  | header {fetched : Template.Fetched} :
      Target.header.Grounded grammar doc →
      cache.get store grammar.dialect headerTemplate = .ok fetched →
      Planned store cache grammar doc (headerPlan fetched.lines) fetched.cache
  | site {site : Site} {name : String} {fetched : Template.Fetched} {plan : Plan} :
      (Target.site site).Grounded grammar doc →
      templateName? grammar.dialect site.kind = some name →
      cache.get store grammar.dialect name.toList = .ok fetched →
      fill grammar doc site name.toList fetched.lines = .ok plan →
      Planned store cache grammar doc plan fetched.cache

section
variable {store : Template.Store} {cache : Template.Cache} {grammar : Grammar} {doc : Document}
  {before : List Event} {line : Int} {plan : Plan}

/-- The ways in which a call comes to its target, or to none. -/
theorem aim_cases {search : Search} {target? : Option Target}
    (took : aim grammar doc line = .ok ⟨search, target?⟩) :
    (target? = some .header ∧ grammar.dialect = .javaScript ∧ doc.lines ≠ [] ∧
      (headerOnOpenLine doc line = .ok true ∨ headerAtTop doc line = .ok true)) ∨
    Search.run grammar doc line = .ok search ∧ target? = search.site?.map .site := by
  unfold aim at took
  split at took
  · next empty =>
    obtain ⟨rfl, rfl⟩ : Search.idle = search ∧ none = target? := by simpa using took
    exact .inr ⟨by simp [Search.run, empty], rfl⟩
  · next filled =>
    have filled : doc.lines ≠ [] := by simpa using filled
    dsimp only at took
    split at took
    · next script =>
      obtain ⟨wanted, checked, took⟩ := bind_eq_ok_iff.mp took
      cases wanted with
      | true =>
        obtain ⟨rfl, rfl⟩ : Search.idle = search ∧ some Target.header = target? := by simpa using took
        exact .inl ⟨rfl, script, filled, .inl checked⟩
      | false =>
        -- The search decides, and what it missed may still be the top of a helper.
        obtain ⟨found, ran, took⟩ := bind_eq_ok_iff.mp took
        cases site_eq : found.site? with
        | some site =>
          obtain ⟨rfl, rfl⟩ : found = search ∧ some (Target.site site) = target? := by
            simpa [site_eq] using took
          exact .inr ⟨ran, by rw [site_eq]; rfl⟩
        | none =>
          simp only [site_eq] at took
          obtain ⟨wanted, checked, took⟩ := bind_eq_ok_iff.mp took
          cases wanted with
          | true =>
            obtain ⟨rfl, rfl⟩ : found = search ∧ some Target.header = target? := by simpa using took
            exact .inl ⟨rfl, script, filled, .inr checked⟩
          | false =>
            obtain ⟨rfl, rfl⟩ : found = search ∧ none = target? := by simpa using took
            exact .inr ⟨ran, by rw [site_eq]; rfl⟩
    · obtain ⟨found, ran, took⟩ := bind_eq_ok_iff.mp took
      cases site_eq : found.site? with
      | some site =>
        obtain ⟨rfl, rfl⟩ : found = search ∧ some (Target.site site) = target? := by
          simpa [site_eq] using took
        exact .inr ⟨ran, by rw [site_eq]; rfl⟩
      | none =>
        obtain ⟨rfl, rfl⟩ : found = search ∧ none = target? := by simpa [site_eq] using took
        exact .inr ⟨ran, by rw [site_eq]; rfl⟩

theorem aim_grounded {search : Search} {target : Target}
    (took : aim grammar doc line = .ok ⟨search, some target⟩) : target.Grounded grammar doc := by
  obtain ⟨header, script, filled, wanted⟩ | ⟨ran, aimed⟩ := aim_cases took
  · obtain rfl := Option.some.inj header
    refine ⟨script, filled, ?_⟩
    cases wanted with
    | inl on_open_line => exact not_headed_of_headerOnOpenLine on_open_line
    | inr at_top => exact not_headed_of_headerAtTop at_top
  · obtain ⟨site, found, rfl⟩ := Option.map_eq_some_iff.mp aimed.symm
    exact Search.run_sound ran found

theorem grounded_of_wantsHeader (wanted : wantsHeader grammar doc = .ok true) :
    Target.header.Grounded grammar doc := by
  have not_headed := not_headed_of_wantsHeader wanted
  unfold wantsHeader at wanted
  split at wanted
  · simp at wanted
  · next applies =>
    have filled : doc.lines ≠ [] := fun none => applies (.inr (by simp [none]))
    cases dialect : grammar.dialect with
    | apex => exact absurd (.inl dialect) applies
    | javaScript => exact ⟨dialect, filled, not_headed⟩

theorem planHeader_eq_ok {dialect : Dialect} {made : Option Plan}
    (answer : (planHeader store cache dialect before).result = .ok made) :
    ∃ fetched, cache.get store dialect headerTemplate = .ok fetched ∧ some (headerPlan fetched.lines) = made ∧
      (planHeader store cache dialect before).cache = fetched.cache := by
  unfold planHeader at answer ⊢
  cases got : cache.get store dialect headerTemplate with
  | error error => simp [got] at answer
  | ok fetched => exact ⟨fetched, rfl, by simpa [got] using answer, rfl⟩

theorem planSite_eq_ok {site : Site} {made : Option Plan}
    (answer : (planSite store cache grammar doc site before).result = .ok made) :
    ∃ name fetched plan, templateName? grammar.dialect site.kind = some name ∧
      cache.get store grammar.dialect name.toList = .ok fetched ∧
      fill grammar doc site name.toList fetched.lines = .ok plan ∧ some plan = made ∧
      (planSite store cache grammar doc site before).cache = fetched.cache := by
  unfold planSite at answer ⊢
  cases named : templateName? grammar.dialect site.kind with
  | none => simp [named] at answer
  | some name =>
    cases got : cache.get store grammar.dialect name.toList with
    | error error => simp [named, got] at answer
    | ok fetched =>
      cases filled : fill grammar doc site name.toList fetched.lines with
      | error failure => simp [named, got, filled] at answer
      | ok plan => exact ⟨name, fetched, plan, rfl, got, filled, by simpa [named, got, filled] using answer,
          by simp [got, filled]⟩

theorem planHeader_planned (grounded : Target.header.Grounded grammar doc)
    (made : (planHeader store cache grammar.dialect before).plan? = some plan) :
    Planned store cache grammar doc plan (planHeader store cache grammar.dialect before).cache := by
  obtain ⟨fetched, got, plan_eq, later⟩ := planHeader_eq_ok (Outcome.plan?_eq_some_iff.mp made)
  obtain rfl := Option.some.inj plan_eq
  exact later ▸ .header grounded got

theorem planSite_planned {site : Site} (grounded : (Target.site site).Grounded grammar doc)
    (made : (planSite store cache grammar doc site before).plan? = some plan) :
    Planned store cache grammar doc plan (planSite store cache grammar doc site before).cache := by
  obtain ⟨name, fetched, other, named, got, filled, plan_eq, later⟩ :=
    planSite_eq_ok (Outcome.plan?_eq_some_iff.mp made)
  obtain rfl := Option.some.inj plan_eq
  exact later ▸ .site grounded named got filled

theorem generate_planned (made : (generate store cache grammar doc line).plan? = some plan) :
    Planned store cache grammar doc plan (generate store cache grammar doc line).cache := by
  unfold generate at made ⊢
  cases took : aim grammar doc line with
  | error error => simp [took, Outcome.plan?_eq_some_iff] at made
  | ok aimed =>
    obtain ⟨search, target?⟩ := aimed
    cases target? with
    | none => simp [took, Outcome.plan?_eq_some_iff] at made
    | some target =>
      have grounded := aim_grounded took
      cases target with
      | header => exact planHeader_planned grounded (by simpa [took] using made)
      | site site => exact planSite_planned grounded (by simpa [took] using made)

theorem fileHeader_planned (made : (fileHeader store cache grammar doc).plan? = some plan) :
    Planned store cache grammar doc plan (fileHeader store cache grammar doc).cache := by
  unfold fileHeader at made ⊢
  cases wanted : wantsHeader grammar doc with
  | error error => simp [wanted, Outcome.plan?_eq_some_iff] at made
  | ok wants =>
    cases wants with
    | false => simp [wanted, Outcome.plan?_eq_some_iff] at made
    | true => exact planHeader_planned (grounded_of_wantsHeader wanted) (by simpa [wanted] using made)

namespace Planned
variable {later : Template.Cache}

theorem header_placed (planned : Planned store cache grammar doc plan later)
    (header : plan.isFileHeader = true) :
    doc.lines ≠ [] ∧ ¬ doc.Headed ∧ plan.insertLine = 0 ∧ plan.insertColumn = 0 := by
  cases planned with
  | header grounded got => exact ⟨grounded.2.1, grounded.2.2, rfl, rfl⟩
  | site grounded named got fitted =>
    obtain ⟨_, _, _, _, _, _, rfl⟩ := fill_eq_ok_iff.mp fitted
    simp at header

theorem site_placed (planned : Planned store cache grammar doc plan later)
    (no_header : plan.isFileHeader = false) :
    ∃ (site : Site) (above : Nat), (Target.site site).Grounded grammar doc ∧ plan.kind = some site.kind ∧
      plan.declarationLine = some (site.line : Int) ∧ plan.insertLine = above ∧ above ≤ site.line ∧
      plan.insertColumn = 0 := by
  cases planned with
  | header grounded got => simp [headerPlan] at no_header
  | @site site name fetched plan grounded named got fitted =>
    obtain ⟨_, _, insertLine, _, _, placed, rfl⟩ := fill_eq_ok_iff.mp fitted
    have below := AnnotationRun.insertionLine_le placed
    exact ⟨site, insertLine, grounded, rfl, rfl, rfl, by omega, rfl⟩

theorem placed (planned : Planned store cache grammar doc plan later) :
    ∃ above : Nat, plan.insertLine = above ∧ above < doc.count ∧ plan.insertColumn = 0 := by
  cases header : plan.isFileHeader with
  | true =>
    obtain ⟨filled, _, line_eq, column_eq⟩ := planned.header_placed header
    exact ⟨0, line_eq, List.length_pos_iff.mpr filled, column_eq⟩
  | false =>
    obtain ⟨site, above, grounded, _, _, line_eq, below, column_eq⟩ := planned.site_placed header
    have within := grounded.1.within
    exact ⟨above, line_eq, by omega, column_eq⟩

end Planned

/-! ## The cache after a call -/

theorem planHeader_faithful (faithful : cache.Faithful store) (dialect : Dialect) :
    (planHeader store cache dialect before).cache.Faithful store := by
  unfold planHeader
  cases got : cache.get store dialect headerTemplate with
  | error error => exact faithful
  | ok fetched => exact (faithful.get got).2

theorem planSite_faithful (faithful : cache.Faithful store) (site : Site) :
    (planSite store cache grammar doc site before).cache.Faithful store := by
  unfold planSite
  cases named : templateName? grammar.dialect site.kind with
  | none => exact faithful
  | some name =>
    cases got : cache.get store grammar.dialect name.toList with
    | error error => simpa [got] using faithful
    | ok fetched =>
      have kept := (faithful.get got).2
      cases filled : fill grammar doc site name.toList fetched.lines with
      | error failure => simpa [got, filled] using kept
      | ok plan => simpa [got, filled] using kept

theorem planHeader_of_failed {failure : Failure} {dialect : Dialect}
    (failed : (planHeader store cache dialect before).result = .error failure) :
    (planHeader store cache dialect before).cache = cache := by
  unfold planHeader at failed ⊢
  cases got : cache.get store dialect headerTemplate with
  | error error => rfl
  | ok fetched => simp [got] at failed

theorem planSite_of_template_error {site : Site} {error : Template.Error}
    (failed : (planSite store cache grammar doc site before).result = .error (.template error)) :
    (planSite store cache grammar doc site before).cache = cache := by
  unfold planSite at failed ⊢
  cases named : templateName? grammar.dialect site.kind with
  | none => rfl
  | some name =>
    cases got : cache.get store grammar.dialect name.toList with
    | error error => simp [got]
    | ok fetched =>
      cases filled : fill grammar doc site name.toList fetched.lines with
      | error failure =>
        have same : failure = .template error := by simpa [named, got, filled] using failed
        exact absurd (same ▸ filled) fill_ne_template_error
      | ok plan => simp [named, got, filled] at failed

theorem generate_of_template_error {error : Template.Error}
    (failed : (generate store cache grammar doc line).result = .error (.template error)) :
    (generate store cache grammar doc line).cache = cache := by
  unfold generate at failed ⊢
  cases took : aim grammar doc line with
  | error error => rfl
  | ok aimed =>
    obtain ⟨search, target?⟩ := aimed
    cases target? with
    | none => rfl
    | some target =>
      cases target with
      | header => exact planHeader_of_failed (by simpa [took] using failed)
      | site site => exact planSite_of_template_error (by simpa [took] using failed)

theorem fileHeader_of_failed {failure : Failure}
    (failed : (fileHeader store cache grammar doc).result = .error failure) :
    (fileHeader store cache grammar doc).cache = cache := by
  unfold fileHeader at failed ⊢
  cases wanted : wantsHeader grammar doc with
  | error error => rfl
  | ok wants =>
    cases wants with
    | false => rfl
    | true => exact planHeader_of_failed (by simpa [wanted] using failed)

theorem generate_faithful (faithful : cache.Faithful store) :
    (generate store cache grammar doc line).cache.Faithful store := by
  unfold generate
  cases aim grammar doc line with
  | error error => exact faithful
  | ok aimed =>
    obtain ⟨search, target?⟩ := aimed
    cases target? with
    | none => exact faithful
    | some target =>
      cases target with
      | header => exact planHeader_faithful faithful grammar.dialect
      | site site => exact planSite_faithful faithful site

theorem fileHeader_faithful (faithful : cache.Faithful store) :
    (fileHeader store cache grammar doc).cache.Faithful store := by
  unfold fileHeader
  cases wantsHeader grammar doc with
  | error error => exact faithful
  | ok wants =>
    cases wants with
    | false => exact faithful
    | true => exact planHeader_faithful faithful grammar.dialect

end

end Planner

namespace Session

theorem answer_planned {store : Template.Store} {grammar : Grammar} {session : Session} {request : Request}
    {plan : Plan} (made : (session.answer store grammar request).plan? = some plan) :
    Planner.Planned store session.cache grammar session.document plan
      (session.answer store grammar request).cache := by
  cases request with
  | comment line => exact Planner.generate_planned made
  | header => exact Planner.fileHeader_planned made

theorem answer_faithful {store : Template.Store} {session : Session}
    (faithful : session.cache.Faithful store) (grammar : Grammar) (request : Request) :
    (session.answer store grammar request).cache.Faithful store := by
  cases request with
  | comment line => exact Planner.generate_faithful faithful
  | header => exact Planner.fileHeader_faithful faithful

end Session

end Docblock
