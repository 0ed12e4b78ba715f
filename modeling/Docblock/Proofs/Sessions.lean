import Docblock.Proofs.Placement
import Docblock.Proofs.ScriptComments

/-! Sessions on scripts. A step puts one comment into the buffer or leaves it alone. As comments declare
nothing, a session keeps what the script declares; and as each comment opens like a doc comment, no second
file header is planned below the first. -/

set_option autoImplicit false

namespace Docblock

namespace Session

/-- What every session that started from a text has in common. -/
structure Sound (store : Template.Store) (session : Session) : Prop where
  whole : session.document.Unbroken
  faithful : session.cache.Faithful store

theorem sound_start (store : Template.Store) (text : Text) : (start text).Sound store :=
  ⟨Document.unbroken_ofText text, Template.Cache.faithful_nil store⟩

section
variable {store : Template.Store} {session : Session}

/-- All that a step can do to the document. -/
theorem step_cases (sound : session.Sound store) (grammar : Grammar) (request : Request) :
    ((session.answer store grammar request).plan? = none ∧
      (session.step store grammar request).document = session.document) ∨
    ∃ plan later, ∃ above : Nat, (session.answer store grammar request).plan? = some plan ∧
      Planner.Planned store session.cache grammar session.document plan later ∧
      plan.insertLine = above ∧ above < session.document.count ∧
      (session.step store grammar request).document =
        session.document.insertAbove above (Snippet.block plan.lines) := by
  cases made : (session.answer store grammar request).plan? with
  | none => exact .inl ⟨rfl, by simp [step, settle, made, document]⟩
  | some plan =>
    have planned := answer_planned made
    obtain ⟨above, line_eq, within, applied⟩ := planned.apply_eq sound.whole
    refine .inr ⟨plan, _, above, rfl, planned, line_eq, within, ?_⟩
    simp [step, settle, made, applied, document, Except.toOption]

theorem sound_step (sound : session.Sound store) (grammar : Grammar) (request : Request) :
    (session.step store grammar request).Sound store := by
  refine ⟨?_, answer_faithful sound.faithful grammar request⟩
  rcases step_cases sound grammar request with ⟨_, same⟩ | ⟨plan, _, above, _, _, _, _, inserted⟩
  · exact same ▸ sound.whole
  · rw [inserted]
    exact sound.whole.insertAbove above fun row => Snippet.unbroken_of_mem_block

/-- What each step keeps, a run keeps. -/
theorem run_keeps (grammar : Grammar) (Holds : Session → Prop)
    (kept : ∀ session, session.Sound store → Holds session → ∀ request,
      Holds (session.step store grammar request))
    (sound : session.Sound store) (holds : Holds session) (requests : List Request) :
    (session.run store grammar requests).Sound store ∧ Holds (session.run store grammar requests) := by
  induction requests generalizing session with
  | nil => exact ⟨sound, holds⟩
  | cons request rest ih => exact ih (sound_step sound grammar request) (kept session sound holds request)

theorem sound_run (sound : session.Sound store) (grammar : Grammar) (requests : List Request) :
    (session.run store grammar requests).Sound store :=
  (run_keeps grammar (fun _ => True) (fun _ _ _ _ => trivial) sound trivial requests).1

end

section
variable {windows : Windows} {session : Session}

-- A declaring line of a script still declares what it did when others are put above it.
theorem declares_below {doc : Document} {site : Site} {above : Nat}
    (declares : site.Declares (JavaScript.grammar windows) doc) (below : above ≤ site.line)
    (rows : List Text) :
    Site.Declares (JavaScript.grammar windows) (doc.insertAbove above rows)
      ⟨site.kind, site.line + rows.length⟩ := by
  have within := declares.within
  unfold Site.Declares at declares ⊢
  rw [JavaScript.kindAt_eq] at declares ⊢
  cases read : doc.line site.line with
  | error error => simp [read, Except.map] at declares
  | ok text =>
    have found := (Document.line_eq_ok_iff.mp read).2
    have moved : (doc.insertAbove above rows).line (site.line + rows.length : Nat) = .ok text := by
      refine Document.line_eq_ok_iff.mpr ⟨by omega, ?_⟩
      rw [Int.toNat_natCast, Document.getElem?_insertAbove below (by omega)]
      exact found
    rw [moved]
    rw [read] at declares
    exact declares

/-! ## Headers -/

/-- A comment put into a headed document leaves one: it stands below the first line, or else its own
first line is the first. -/
theorem headed_step (sound : session.Sound .bundled) (headed : session.document.Headed) (request : Request) :
    (session.step .bundled (JavaScript.grammar windows) request).document.Headed := by
  rcases step_cases sound (JavaScript.grammar windows) request with
    ⟨_, same⟩ | ⟨plan, _, above, _, planned, _, _, inserted⟩
  · exact same ▸ headed
  · rw [inserted]
    cases above with
    | zero =>
      obtain ⟨rows, block_eq, _⟩ := (planned.framed sound.faithful sound.whole).block
      exact ⟨Comment.opener, rows ++ session.document.lines,
        by simp [Document.insertAbove, block_eq], by decide⟩
    | succ above =>
      obtain ⟨top, below, cut, opens⟩ := headed
      exact ⟨top, _, by rw [Document.insertAbove, cut, List.take_succ_cons, List.cons_append,
        List.cons_append], opens⟩

theorem headed_after_header (sound : session.Sound .bundled) {request : Request} {plan : Plan}
    (made : (session.answer .bundled (JavaScript.grammar windows) request).plan? = some plan)
    (header : plan.isFileHeader = true) :
    (session.step .bundled (JavaScript.grammar windows) request).document.Headed := by
  rcases step_cases sound (JavaScript.grammar windows) request with
    ⟨none, _⟩ | ⟨other, _, above, made_other, planned, line_eq, _, inserted⟩
  · simp [none] at made
  · obtain rfl : other = plan := by simpa [made_other] using made
    obtain ⟨_, _, top, _⟩ := planned.header_placed header
    obtain rfl : above = 0 := by omega
    obtain ⟨rows, block_eq, _⟩ := (planned.framed sound.faithful sound.whole).block
    rw [inserted]
    exact ⟨Comment.opener, rows ++ session.document.lines,
      by simp [Document.insertAbove, block_eq], by decide⟩

theorem no_header_of_headed {store : Template.Store} {grammar : Grammar} (headed : session.document.Headed)
    {request : Request} {plan : Plan} (made : (session.answer store grammar request).plan? = some plan) :
    plan.isFileHeader = false := by
  cases header : plan.isFileHeader with
  | false => rfl
  | true => exact absurd headed ((answer_planned made).header_placed header).2.1

theorem headed_run (windows : Windows) (sound : session.Sound .bundled) (headed : session.document.Headed)
    (requests : List Request) :
    (session.run .bundled (JavaScript.grammar windows) requests).document.Headed :=
  (run_keeps _ (fun session => session.document.Headed)
    (fun _ sound headed request => headed_step sound headed request) sound headed requests).2

theorem countP_headers_of_headed (windows : Windows) (sound : session.Sound .bundled)
    (headed : session.document.Headed) (requests : List Request) :
    (session.plans .bundled (JavaScript.grammar windows) requests).countP (·.isFileHeader) = 0 := by
  induction requests generalizing session with
  | nil => rfl
  | cons request rest ih =>
    have below := ih (sound_step sound (JavaScript.grammar windows) request) (headed_step sound headed request)
    rw [plans, List.countP_append, below]
    cases made : (session.answer .bundled (JavaScript.grammar windows) request).plan? with
    | none => rfl
    | some plan => simp [no_header_of_headed headed made]

theorem countP_headers_le (sound : session.Sound .bundled) (requests : List Request) :
    (session.plans .bundled (JavaScript.grammar windows) requests).countP (·.isFileHeader) ≤ 1 := by
  induction requests generalizing session with
  | nil => exact Nat.zero_le 1
  | cons request rest ih =>
    have next_sound := sound_step sound (JavaScript.grammar windows) request
    have below := ih next_sound
    rw [plans, List.countP_append]
    cases made : (session.answer .bundled (JavaScript.grammar windows) request).plan? with
    | none => simpa using below
    | some plan =>
      cases header : plan.isFileHeader with
      | false => simpa [header] using below
      | true =>
        -- The first header leaves a headed document, and no step after it plans another.
        have headed := headed_after_header sound made header
        have none_left := countP_headers_of_headed windows next_sound headed rest
        simp [header, none_left]

/-! ## Declarations -/

theorem declarations_step (sound : session.Sound .bundled) (request : Request) :
    (session.step .bundled (JavaScript.grammar windows) request).document.declarations
        (JavaScript.grammar windows) =
      session.document.declarations (JavaScript.grammar windows) := by
  rcases step_cases sound (JavaScript.grammar windows) request with
    ⟨_, same⟩ | ⟨plan, _, above, _, planned, _, _, inserted⟩
  · rw [same]
  · -- The lines that were put in declare nothing; those around them are what they were.
    have framed := planned.framed sound.faithful sound.whole
    have silent : (Snippet.block plan.lines).filterMap
        (fun text => (JavaScript.kindOf text).map fun kind => (text, kind)) = [] := by
      apply List.filterMap_eq_nil_iff.mpr
      intro row member
      rw [framed.kindOf_block member, Option.map_none]
    rw [inserted, JavaScript.declarations_eq, JavaScript.declarations_eq, Document.insertAbove,
      List.filterMap_append, List.filterMap_append, silent, List.append_nil, ← List.filterMap_append,
      List.take_append_drop]

theorem locate_after_step (sound : session.Sound .bundled) {request : Request} {plan : Plan}
    (made : (session.answer .bundled (JavaScript.grammar windows) request).plan? = some plan)
    (no_header : plan.isFileHeader = false) :
    ∃ (kind : Kind) (line inserted : Nat), plan.kind = some kind ∧ plan.declarationLine = some (line : Int) ∧
      (session.step .bundled (JavaScript.grammar windows) request).document.count =
        session.document.count + inserted ∧
      locate (JavaScript.grammar windows)
          (session.step .bundled (JavaScript.grammar windows) request).document (line + inserted : Nat) =
        .ok (some ⟨kind, line + inserted⟩) := by
  rcases step_cases sound (JavaScript.grammar windows) request with
    ⟨none, _⟩ | ⟨other, _, above, made_other, planned, line_eq, within, inserted⟩
  · simp [none] at made
  · obtain rfl : other = plan := by simpa [made_other] using made
    obtain ⟨site, place, grounded, kind_eq, declaration_eq, place_eq, below, _⟩ :=
      planned.site_placed no_header
    obtain rfl : above = place := by omega
    refine ⟨site.kind, site.line, (Snippet.block other.lines).length, kind_eq, declaration_eq, ?_, ?_⟩
    · rw [inserted]
      exact Document.count_insertAbove within _
    · rw [inserted]
      have declares := declares_below grounded.1 below (Snippet.block other.lines)
      have found := Search.locate_declaring declares grounded.2
      exact found

end

/-- A session puts at most one header into a script. Once it is there, no call at any line plans another. -/
theorem header_at_most_once (windows : Windows) (text : Text) (requests : List Request) :
    ((start text).plans .bundled (JavaScript.grammar windows) requests).countP (·.isFileHeader) ≤ 1 ∧
    ∀ (before after : List Request) (request next : Request) (header plan : Plan),
      requests = before ++ request :: after →
      (((start text).run .bundled (JavaScript.grammar windows) before).answer .bundled
        (JavaScript.grammar windows) request).plan? = some header →
      header.isFileHeader = true →
      (((start text).run .bundled (JavaScript.grammar windows) requests).answer .bundled
        (JavaScript.grammar windows) next).plan? = some plan →
      plan.isFileHeader = false := by
  have sound := sound_start .bundled text
  refine ⟨countP_headers_le sound requests, ?_⟩
  intro before after request next header plan split made is_header made_next
  have before_sound := sound_run sound (JavaScript.grammar windows) before
  have headed := headed_after_header before_sound made is_header
  have next_sound := sound_step before_sound (JavaScript.grammar windows) request
  have headed_later := headed_run windows next_sound headed after
  apply no_header_of_headed _ made_next
  simpa [split, run, List.foldl_append] using headed_later

-- A helper that gets its header, and then a comment on its method from the same line.
theorem header_at_most_once_in_helper :
    let text : Text := "(\x7b\n  run() \x7b\n  \x7d\n\x7d)".toList
    ∃ header plan : Plan,
      ((start text).answer .bundled (JavaScript.grammar {}) .header).plan? = some header ∧
      header.isFileHeader = true ∧
      (((start text).run .bundled (JavaScript.grammar {}) [.header]).answer .bundled
        (JavaScript.grammar {}) (.comment 0)).plan? = some plan ∧
      plan.isFileHeader = false := by
  intro text
  obtain ⟨header, made, is_header⟩ : ∃ header,
      ((start text).answer .bundled (JavaScript.grammar {}) .header).plan? = some header ∧
        header.isFileHeader = true :=
    Option.any_eq_true _ _ |>.mp (by decide +kernel)
  obtain ⟨plan, made_next⟩ : ∃ plan,
      (((start text).run .bundled (JavaScript.grammar {}) [.header]).answer .bundled
        (JavaScript.grammar {}) (.comment 0)).plan? = some plan :=
    Option.isSome_iff_exists.mp (by decide +kernel)
  have no_header := (header_at_most_once {} text [.header]).2 [] [] .header (.comment 0)
    header plan rfl made is_header made_next
  exact ⟨header, plan, made, is_header, made_next, no_header⟩

/-- A session keeps what a script declares: the declaring lines, their order and their kinds. After a
comment on a declaration, the declaration is found as many lines further down as the comment has. -/
theorem session_keeps_declarations (windows : Windows) (text : Text) (requests : List Request) :
    ((start text).run .bundled (JavaScript.grammar windows) requests).document.declarations
        (JavaScript.grammar windows) =
      (Document.ofText text).declarations (JavaScript.grammar windows) ∧
    ∀ (before after : List Request) (request : Request) (plan : Plan),
      let session := (start text).run .bundled (JavaScript.grammar windows) before
      let next := session.step .bundled (JavaScript.grammar windows) request
      requests = before ++ request :: after →
      (session.answer .bundled (JavaScript.grammar windows) request).plan? = some plan →
      plan.isFileHeader = false →
      ∃ (kind : Kind) (line inserted : Nat),
        plan.kind = some kind ∧ plan.declarationLine = some (line : Int) ∧
        next.document.count = session.document.count + inserted ∧
        locate (JavaScript.grammar windows) next.document (line + inserted : Nat) =
          .ok (some ⟨kind, line + inserted⟩) := by
  have sound := sound_start .bundled text
  refine ⟨?_, ?_⟩
  · have kept := run_keeps (JavaScript.grammar windows)
      (fun session => session.document.declarations (JavaScript.grammar windows) =
        (Document.ofText text).declarations (JavaScript.grammar windows))
      (fun _ sound same request => (declarations_step sound request).trans same) sound rfl requests
    exact kept.2
  · intro before after request plan session next _ made no_header
    have before_sound : session.Sound .bundled := sound_run sound (JavaScript.grammar windows) before
    exact locate_after_step before_sound made no_header

-- A field of a class, commented after its method.
theorem session_keeps_declarations_of_class :
    let text : Text := "class Meter \x7b\n  count = 0;\n\n  add(step) \x7b\n  \x7d\n\x7d".toList
    let later := (start text).run .bundled (JavaScript.grammar {}) [.comment 3, .comment 1]
    later.document.declarations (JavaScript.grammar {}) =
      (Document.ofText text).declarations (JavaScript.grammar {}) ∧
    ∃ (plan : Plan) (kind : Kind) (line inserted : Nat),
      let session := (start text).run .bundled (JavaScript.grammar {}) [.comment 3]
      (session.answer .bundled (JavaScript.grammar {}) (.comment 1)).plan? = some plan ∧
      plan.isFileHeader = false ∧ plan.kind = some kind ∧ plan.declarationLine = some (line : Int) ∧
      later.document.count = session.document.count + inserted ∧
      locate (JavaScript.grammar {}) later.document (line + inserted : Nat) =
        .ok (some ⟨kind, line + inserted⟩) := by
  intro text later
  obtain ⟨plan, made, no_header⟩ : ∃ plan,
      (((start text).run .bundled (JavaScript.grammar {}) [.comment 3]).answer .bundled
        (JavaScript.grammar {}) (.comment 1)).plan? = some plan ∧ (!plan.isFileHeader) = true :=
    (Option.any_eq_true _ _).mp (by decide +kernel)
  have no_header : plan.isFileHeader = false := by simpa using no_header
  have kept := session_keeps_declarations {} text [.comment 3, .comment 1]
  obtain ⟨kind, line, inserted, found⟩ := kept.2 [.comment 3] [] (.comment 1) plan rfl made no_header
  exact ⟨kept.1, plan, kind, line, inserted, made, no_header, found⟩

end Session

end Docblock
