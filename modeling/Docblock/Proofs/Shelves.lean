import Docblock.Proofs.Planning
import Docblock.Template.Shelf
import Mathlib.Data.List.Dedup

/-! Shelves over time. The cache gives for a key what the store held when the key was first got, whatever has
become of the store since; a key that never was got is looked for in the store as it is. -/

set_option autoImplicit false

namespace Docblock

namespace Template.Shelf

section
variable {shelf : Shelf} {key : Key} {lines : List Points}

/-! ## Steps -/

theorem get_of_held (held : shelf.cache.lookup key = some lines) :
    shelf.get key = .ok ⟨lines, shelf.cache, false⟩ := by
  unfold get Cache.get
  rw [held]

theorem get_of_loaded (fresh : shelf.cache.lookup key = none) (loaded : shelf.load key = .ok lines) :
    shelf.get key = .ok ⟨lines, shelf.cache ++ [(key, lines)], true⟩ := by
  unfold load at loaded
  unfold get Cache.get
  rw [fresh, loaded]
  rfl

theorem get_of_failed {error : Error} (fresh : shelf.cache.lookup key = none)
    (failed : shelf.load key = .error error) : shelf.get key = .error error := by
  unfold load at failed
  unfold get Cache.get
  rw [fresh, failed]
  rfl

/-- All that a step can do to the cache: keep it, or add a template that was not in it and that the store has
at that time. -/
theorem step_cases (shelf : Shelf) (action : Action) :
    ((shelf.step action).cache = shelf.cache ∧ ∀ attempt, shelf.attempt? action = some attempt →
      attempt.succeeded = true → ∃ lines, shelf.cache.lookup attempt.key = some lines) ∨
    ∃ key lines, action = .get key ∧ shelf.cache.lookup key = none ∧ shelf.load key = .ok lines ∧
      shelf.attempt? action = some ⟨key, shelf.store, .ok lines⟩ ∧
      shelf.step action = { shelf with cache := shelf.cache ++ [(key, lines)] } := by
  cases action with
  | write path content => exact .inl ⟨rfl, by simp [attempt?]⟩
  | delete path => exact .inl ⟨rfl, by simp [attempt?]⟩
  | load key => exact .inl ⟨rfl, by simp [attempt?]⟩
  | get key =>
    cases held : shelf.cache.lookup key with
    | some lines =>
      refine .inl ⟨by simp [step, get_of_held held], fun attempt same _ => ⟨lines, ?_⟩⟩
      obtain rfl := Option.some.inj same
      exact held
    | none =>
      cases loaded : shelf.load key with
      | ok lines =>
        have got := get_of_loaded held loaded
        exact .inr ⟨key, lines, rfl, held, loaded, by simp [attempt?, got, Except.map], by simp [step, got]⟩
      | error error =>
        have failed := get_of_failed held loaded
        refine .inl ⟨by simp [step, failed], fun attempt same succeeded => ?_⟩
        obtain rfl := Option.some.inj same
        simp [Attempt.succeeded, failed, Except.map, Except.isOk, Except.toBool] at succeeded

/-! ## Runs -/

theorem firstGot?_spec {attempts : List Attempt} {first : Attempt} (found : firstGot? key attempts = some first) :
    first ∈ attempts ∧ first.key = key ∧ first.succeeded = true := by
  have told := List.find?_some found
  simp only [Bool.and_eq_true, beq_iff_eq] at told
  exact ⟨List.mem_of_find?_eq_some found, told⟩

theorem lookup_run_of_held (held : shelf.cache.lookup key = some lines) (actions : List Action) :
    (shelf.run actions).cache.lookup key = some lines := by
  induction actions generalizing shelf with
  | nil => exact held
  | cons action rest ih =>
    refine ih ?_
    rcases step_cases shelf action with ⟨same, _⟩ | ⟨other, added, _, _, _, _, stepped⟩
    · rw [same, held]
    · rw [stepped, List.lookup_append, held, Option.some_or]

/-- A key that was not in the cache is in it after a run with the lines that the store had for it at the first
get of it that succeeded, or, if there was none, is still not in it. -/
theorem lookup_run (fresh : shelf.cache.lookup key = none) (actions : List Action) :
    (∃ first lines, firstGot? key (shelf.attempts actions) = some first ∧ first.result = .ok lines ∧
      first.store.load key.1 key.2 = .ok lines ∧ (shelf.run actions).cache.lookup key = some lines) ∨
    firstGot? key (shelf.attempts actions) = none ∧ (shelf.run actions).cache.lookup key = none := by
  induction actions generalizing shelf with
  | nil => exact .inr ⟨rfl, fresh⟩
  | cons action rest ih =>
    rw [attempts, firstGot?, List.find?_append]
    rcases step_cases shelf action with ⟨same, known⟩ | ⟨other, lines, _, _, loaded, tried, stepped⟩
    · -- No get of the key succeeds, as it would have found the key in the cache.
      have passed : (shelf.attempt? action).toList.find? (fun attempt => attempt.key == key && attempt.succeeded) =
          none := by
        refine List.find?_eq_none.mpr fun attempt member found => ?_
        obtain ⟨same_key, succeeded⟩ := Bool.and_eq_true_iff.mp found
        obtain ⟨lines, held⟩ := known attempt (Option.mem_toList.mp member) succeeded
        rw [eq_of_beq same_key, fresh] at held
        simp at held
      rw [passed, Option.none_or]
      exact ih (same ▸ fresh)
    · by_cases same_key : other = key
      · subst same_key
        have held : (shelf.step action).cache.lookup other = some lines := by
          rw [stepped, List.lookup_append, fresh]
          simp
        refine .inl ⟨⟨other, shelf.store, .ok lines⟩, lines, ?_, rfl, loaded, lookup_run_of_held held rest⟩
        simp [tried, Attempt.succeeded, Except.isOk, Except.toBool]
      · have still_fresh : (shelf.step action).cache.lookup key = none := by
          have apart : (key == other) = false := by simpa using Ne.symm same_key
          rw [stepped, List.lookup_append, fresh]
          simp [List.lookup_cons, apart]
        rw [tried, Option.toList_some, List.find?_cons_of_neg (by simp [same_key]), List.find?_nil, Option.none_or]
        exact ih still_fresh

theorem nodup_keys_run (distinct : (shelf.cache.map (·.1)).Nodup) (actions : List Action) :
    ((shelf.run actions).cache.map (·.1)).Nodup := by
  induction actions generalizing shelf with
  | nil => exact distinct
  | cons action rest ih =>
    refine ih ?_
    rcases step_cases shelf action with ⟨same, _⟩ | ⟨key, lines, _, fresh, _, _, stepped⟩
    · rw [same]
      exact distinct
    · have absent : key ∉ shelf.cache.map (·.1) := by
        intro member
        obtain ⟨entry, entry_member, rfl⟩ := List.mem_map.mp member
        simpa using List.lookup_eq_none_iff.mp fresh entry entry_member
      rw [stepped, List.map_append, List.map_singleton, ← List.concat_eq_append]
      exact List.Nodup.concat absent distinct

theorem mem_keys_run_iff (store : Store) (actions : List Action) (key : Key) :
    key ∈ ((Shelf.mk store []).run actions).cache.map (·.1) ↔
      key ∈ (((Shelf.mk store []).attempts actions).filter (·.succeeded)).map (·.key) := by
  have fresh : (Shelf.mk store []).cache.lookup key = none := rfl
  rw [Entries.mem_keys_iff]
  rcases lookup_run fresh actions with ⟨first, lines, found, _, _, held⟩ | ⟨none_found, absent⟩
  · obtain ⟨member, same_key, succeeded⟩ := firstGot?_spec found
    exact iff_of_true ⟨lines, held⟩
      (List.mem_map.mpr ⟨first, List.mem_filter.mpr ⟨member, succeeded⟩, same_key⟩)
  · refine iff_of_false (by simp [absent]) fun member => ?_
    obtain ⟨attempt, attempt_member, same_key⟩ := List.mem_map.mp member
    obtain ⟨attempt_member, succeeded⟩ := List.mem_filter.mp attempt_member
    exact List.find?_eq_none.mp none_found attempt attempt_member (by simp [same_key, succeeded])

theorem length_cache_run (store : Store) (actions : List Action) :
    ((Shelf.mk store []).run actions).cache.length =
      ((((Shelf.mk store []).attempts actions).filter (·.succeeded)).map (·.key)).dedup.length := by
  have none_yet : ((Shelf.mk store []).cache.map (·.1)).Nodup := List.nodup_nil
  have distinct := nodup_keys_run none_yet actions
  have same_keys : (((Shelf.mk store []).run actions).cache.map (·.1)).Perm
      ((((Shelf.mk store []).attempts actions).filter (·.succeeded)).map (·.key)).dedup := by
    refine (List.perm_ext_iff_of_nodup distinct (List.nodup_dedup _)).mpr fun key => ?_
    rw [List.mem_dedup, mem_keys_run_iff]
  simpa using same_keys.length_eq

end

end Template.Shelf

namespace Session

theorem cache_of_template_error {store : Template.Store} {grammar : Grammar} {session : Session}
    {request : Request} {error : Template.Error}
    (failed : (session.answer store grammar request).result = .error (.template error)) :
    (session.answer store grammar request).cache = session.cache := by
  cases request with
  | comment line => exact Planner.generate_of_template_error failed
  | header => exact Planner.fileHeader_of_failed failed

theorem step_of_template_error {store : Template.Store} {grammar : Grammar} {session : Session}
    {request : Request} {error : Template.Error}
    (failed : (session.answer store grammar request).result = .error (.template error)) :
    session.step store grammar request = session := by
  have no_plan : (session.answer store grammar request).plan? = none := by
    rw [Planner.Outcome.plan?, failed]
    rfl
  rw [step, settle, no_plan, cache_of_template_error failed]
  rfl

end Session

namespace Template.Shelf

/-- After any run on a store, a get of a key that was got before answers with what the store held when it was
first got, and a get of any other key with what the store holds now. One that fails changes nothing; and as many
templates are in the cache as keys were got. A call of a session that fails on a template changes nothing
either. -/
theorem get_after_run (store : Store) (actions : List Action) (key : Key) :
    let shelf := (Shelf.mk store []).run actions
    let attempts := (Shelf.mk store []).attempts actions
    (∀ first, firstGot? key attempts = some first →
      (shelf.get key).map (·.rows) = first.result ∧ first.result = first.store.load key.1 key.2) ∧
    (firstGot? key attempts = none → (shelf.get key).map (·.rows) = shelf.store.load key.1 key.2) ∧
    (∀ error, shelf.get key = .error error →
      shelf.store.load key.1 key.2 = .error error ∧ shelf.step (.get key) = shelf) ∧
    shelf.cache.length = ((attempts.filter (·.succeeded)).map (·.key)).dedup.length ∧
    ∀ (kept : Store) (grammar : Grammar) (session : Session) (request : Session.Request) (error : Error),
      (session.answer kept grammar request).result = .error (.template error) →
      session.step kept grammar request = session := by
  intro shelf attempts
  have fresh : (Shelf.mk store []).cache.lookup key = none := rfl
  refine ⟨?_, ?_, ?_, length_cache_run store actions, fun _ _ _ _ _ => Session.step_of_template_error⟩
  · intro first found
    rcases lookup_run fresh actions with ⟨other, lines, other_found, got, loaded, held⟩ | ⟨none_found, _⟩
    · obtain rfl : other = first := Option.some.inj (other_found.symm.trans found)
      rw [get_of_held held, got, loaded]
      exact ⟨rfl, rfl⟩
    · exact absurd (none_found.symm.trans found) (by simp)
  · intro none_found
    rcases lookup_run fresh actions with ⟨other, _, other_found, _⟩ | ⟨_, absent⟩
    · exact absurd (none_found.symm.trans other_found) (by simp)
    · cases loaded : shelf.load key with
      | ok lines => exact (congrArg _ (get_of_loaded absent loaded)).trans loaded.symm
      | error error => exact (congrArg _ (get_of_failed absent loaded)).trans loaded.symm
  · intro error failed
    refine ⟨?_, by simp [step, failed]⟩
    rcases lookup_run fresh actions with ⟨_, lines, _, _, _, held⟩ | ⟨_, absent⟩
    · simp [shelf, get_of_held held] at failed
    · cases loaded : shelf.load key with
      | ok lines => exact absurd ((get_of_loaded absent loaded).symm.trans failed) (by simp)
      | error other =>
        obtain rfl : other = error := Except.error.inj ((get_of_failed absent loaded).symm.trans failed)
        exact loaded

-- A template that was got, deleted and got again, beside one that never was there; and a session without any.
theorem get_after_run_of_deleted :
    let key : Key := (.javaScript, "file".toList)
    let absent : Key := (.javaScript, "nothing".toList)
    let actions : List Action := [.get key, .delete ["JSDoc".toList, "file.json".toList], .get absent, .get key]
    let shelf := (Shelf.mk .bundled []).run actions
    let session := Session.start "(\x7b\n\x7d)".toList
    shelf.store.load key.1 key.2 = .error (.notFound key.1 key.2) ∧
    (∃ first, firstGot? key ((Shelf.mk .bundled []).attempts actions) = some first ∧
      (shelf.get key).map (·.rows) = first.result ∧ first.result = first.store.load key.1 key.2) ∧
    shelf.get absent = .error (.notFound absent.1 absent.2) ∧ shelf.step (.get absent) = shelf ∧
    shelf.cache.length = 1 ∧
    (session.answer .empty (JavaScript.grammar {}) .header).result =
      .error (.template (.notFound key.1 key.2)) ∧
    session.step .empty (JavaScript.grammar {}) .header = session := by
  intro key absent actions shelf session
  obtain ⟨first, found⟩ : ∃ first, firstGot? key ((Shelf.mk .bundled []).attempts actions) = some first :=
    Option.isSome_iff_exists.mp (by decide +kernel)
  have missed : shelf.get absent = .error (.notFound absent.1 absent.2) := by decide +kernel
  have failed : (session.answer .empty (JavaScript.grammar {}) .header).result =
      .error (.template (.notFound key.1 key.2)) := by decide +kernel
  obtain ⟨same, _, _, counted, kept⟩ := get_after_run .bundled actions key
  obtain ⟨_, _, unchanged, _⟩ := get_after_run .bundled actions absent
  exact ⟨by decide +kernel, ⟨first, found, same first found⟩, missed, (unchanged _ missed).2,
    counted.trans (by decide +kernel), failed, kept _ _ session .header _ failed⟩

end Template.Shelf

end Docblock
