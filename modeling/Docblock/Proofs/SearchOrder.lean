import Docblock.Proofs.Bounds
import Mathlib

/-! The order of a search. Which line a search comes to is told by the lines that declare something: the least
below an annotation run, or else the greatest above the focus, or else the least below it. -/

set_option autoImplicit false

namespace Docblock

def Grammar.declaring (grammar : Grammar) (doc : Document) : Set Int :=
  {line | ∃ kind, grammar.kindAt doc line = .ok (some kind)}

/-- The lines from a focus on that are neither blank nor a bare annotation. All behind the document count. -/
def AnnotationRun.outside (grammar : Grammar) (doc : Document) (focus : Int) : Set Int :=
  {line | focus ≤ line ∧ blankOrBare grammar doc line ≠ .ok true}

variable {grammar : Grammar} {doc : Document}

theorem Grammar.declaring_eq_empty (grammar : Grammar) (empty : doc.lines = []) : grammar.declaring doc = ∅ := by
  refine Set.eq_empty_of_forall_notMem ?_
  rintro line ⟨kind, declared⟩
  have within := kindAt_within declared
  have count_eq : doc.count = 0 := congrArg List.length empty
  omega

theorem Site.Declares.mem_declaring {site : Site} (declares : site.Declares grammar doc) :
    (site.line : Int) ∈ grammar.declaring doc :=
  ⟨site.kind, declares⟩

theorem Site.Declares.unique {site other : Site} (first : site.Declares grammar doc)
    (second : other.Declares grammar doc) (same : (site.line : Int) = other.line) : site = other := by
  have kinds : some site.kind = some other.kind :=
    Except.ok.inj (first.symm.trans ((congrArg (grammar.kindAt doc) same).trans second))
  have lines : site.line = other.line := Int.ofNat.inj same
  cases site
  cases other
  simp_all

namespace Search

/-! ## Walks in search of a declaration -/

section
variable {top bottom : Int}

theorem not_mem_declaring_of_siteAt {line : Int} (none_there : siteAt grammar doc line = .ok none) :
    line ∉ grammar.declaring doc := by
  rintro ⟨kind, declared⟩
  obtain ⟨kind?, found, same⟩ := bind_eq_ok_iff.mp none_there
  obtain rfl : kind? = some kind := Except.ok.inj (found.symm.trans declared)
  simp at same

theorem scanDown_least {site : Site}
    (scanned : scanDown top (min (doc.count - 1) bottom) (siteAt grammar doc) = .ok (some site)) :
    site.Declares grammar doc ∧ IsLeast (grammar.declaring doc ∩ Set.Icc top bottom) site.line := by
  obtain ⟨i, above, below, hit, nearer⟩ := scanDown_eq_some_iff.mp scanned
  obtain ⟨declares, rfl⟩ := siteAt_eq_some_iff.mp hit
  refine ⟨declares, ⟨declares.mem_declaring, above, by omega⟩, ?_⟩
  rintro other ⟨declared, from_top, _⟩
  by_contra passed
  exact not_mem_declaring_of_siteAt (nearer other from_top (by omega)) declared

theorem scanDown_empty
    (scanned : scanDown top (min (doc.count - 1) bottom) (siteAt grammar doc) = .ok none) :
    grammar.declaring doc ∩ Set.Icc top bottom = ∅ := by
  refine Set.eq_empty_of_forall_notMem ?_
  rintro line ⟨declared, above, below⟩
  obtain ⟨kind, found⟩ := declared
  have within := Grammar.kindAt_within found
  exact not_mem_declaring_of_siteAt (scanDown_eq_none_iff.mp scanned line above (by omega)) ⟨kind, found⟩

theorem scanUp_greatest {site : Site}
    (scanned : scanUp bottom (max 0 top) (siteAt grammar doc) = .ok (some site)) :
    site.Declares grammar doc ∧ IsGreatest (grammar.declaring doc ∩ Set.Icc top bottom) site.line := by
  obtain ⟨i, above, below, hit, nearer⟩ := scanUp_eq_some_iff.mp scanned
  obtain ⟨declares, rfl⟩ := siteAt_eq_some_iff.mp hit
  refine ⟨declares, ⟨declares.mem_declaring, by omega, below⟩, ?_⟩
  rintro other ⟨declared, _, to_bottom⟩
  by_contra passed
  exact not_mem_declaring_of_siteAt (nearer other (by omega) to_bottom) declared

theorem scanUp_empty (scanned : scanUp bottom (max 0 top) (siteAt grammar doc) = .ok none) :
    grammar.declaring doc ∩ Set.Icc top bottom = ∅ := by
  refine Set.eq_empty_of_forall_notMem ?_
  rintro line ⟨declared, above, below⟩
  obtain ⟨kind, found⟩ := declared
  have within := Grammar.kindAt_within found
  exact not_mem_declaring_of_siteAt (scanUp_eq_none_iff.mp scanned line (by omega) below) ⟨kind, found⟩

end

/-! ## The end of a run -/

theorem mem_outside_of_count_le {focus line : Int} (reached : focus ≤ line) (behind : doc.count ≤ line) :
    line ∈ AnnotationRun.outside grammar doc focus := by
  refine ⟨reached, fun passed => ?_⟩
  obtain ⟨text, read, _⟩ := bind_eq_ok_iff.mp passed
  have within := Document.line_within read
  omega

theorem exists_isLeast_outside (grammar : Grammar) (doc : Document) (focus : Int) :
    ∃ first, IsLeast (AnnotationRun.outside grammar doc focus) first := by
  have some_line : max focus doc.count ∈ AnnotationRun.outside grammar doc focus :=
    mem_outside_of_count_le (by omega) (by omega)
  obtain ⟨first, member, least⟩ := Int.exists_least_of_bdd
    (P := (· ∈ AnnotationRun.outside grammar doc focus)) ⟨focus, fun _ member => member.1⟩ ⟨_, some_line⟩
  exact ⟨first, member, least⟩

theorem isLeast_of_skipDown {focus first : Int} (above : 0 ≤ focus)
    (skipped : skipDown (AnnotationRun.blankOrBare grammar doc) (doc.count - max 0 focus).toNat (max 0 focus) =
      .ok first) : IsLeast (AnnotationRun.outside grammar doc focus) first := by
  obtain ⟨from_focus, to_end, passed, stopped⟩ := skipDown_eq_ok_iff.mp skipped
  constructor
  · by_cases behind : doc.count ≤ first
    · exact mem_outside_of_count_le (by omega) behind
    · refine ⟨by omega, fun again => ?_⟩
      simp [stopped (by omega)] at again
  · rintro line ⟨reached, fails⟩
    by_contra sooner
    exact fails (passed line (by omega) (by omega))

/-! ## What a search comes to -/

section
variable (grammar : Grammar) (doc : Document) (focus first : Int)

/-- The focus is next to an annotation run, and behind the run, which ends above `first`, something is declared
inside the window. -/
def Redirected : Prop :=
  AnnotationRun.touches grammar doc focus = .ok true ∧
    (grammar.declaring doc ∩ Set.Icc first (first + grammar.windows.declaration)).Nonempty

/-- The answer to a search, told by the lines that declare something. -/
inductive Chosen : Option Site → Prop where
  | behindRun {site : Site} : Redirected grammar doc focus first → site.Declares grammar doc →
      IsLeast (grammar.declaring doc ∩ Set.Icc first (first + grammar.windows.declaration)) site.line →
      Chosen (some site)
  | above {site : Site} : ¬ Redirected grammar doc focus first → site.Declares grammar doc →
      IsGreatest (grammar.declaring doc ∩ Set.Icc (focus - grammar.windows.declaration) focus) site.line →
      Chosen (some site)
  | below {site : Site} : ¬ Redirected grammar doc focus first → site.Declares grammar doc →
      grammar.declaring doc ∩ Set.Icc (focus - grammar.windows.declaration) focus = ∅ →
      IsLeast (grammar.declaring doc ∩ Set.Icc (focus + 1) (focus + grammar.windows.declaration)) site.line →
      Chosen (some site)
  | missed : ¬ Redirected grammar doc focus first →
      grammar.declaring doc ∩ Set.Icc (focus - grammar.windows.declaration) focus = ∅ →
      grammar.declaring doc ∩ Set.Icc (focus + 1) (focus + grammar.windows.declaration) = ∅ →
      Chosen none

end

section
variable {focus first : Int}

theorem Chosen.unique {site? other? : Option Site} (chosen : Chosen grammar doc focus first site?)
    (again : Chosen grammar doc focus first other?) : site? = other? := by
  cases chosen with
  | behindRun redirected declares least =>
    cases again with
    | behindRun _ others other_least => exact congrArg some (declares.unique others (least.unique other_least))
    | above onward | below onward | missed onward => exact absurd redirected onward
  | above onward declares greatest =>
    cases again with
    | behindRun redirected => exact absurd redirected onward
    | above _ others other_greatest =>
      exact congrArg some (declares.unique others (greatest.unique other_greatest))
    | below _ _ empty | missed _ empty => exact absurd greatest.1 (by simp [empty])
  | below onward declares empty least =>
    cases again with
    | behindRun redirected => exact absurd redirected onward
    | above _ _ greatest => exact absurd greatest.1 (by simp [empty])
    | below _ others _ other_least => exact congrArg some (declares.unique others (least.unique other_least))
    | missed _ _ none_below => exact absurd least.1 (by simp [none_below])
  | missed onward empty none_below =>
    cases again with
    | behindRun redirected => exact absurd redirected onward
    | above _ _ greatest => exact absurd greatest.1 (by simp [empty])
    | below _ _ _ least => exact absurd least.1 (by simp [none_below])
    | missed => rfl

theorem chosen_of_nearest {search : Search} (onward : ¬ Redirected grammar doc focus first)
    (ran : nearest grammar doc focus = .ok search) : Chosen grammar doc focus first search.site? := by
  obtain ⟨up, scanned_up, ran⟩ := bind_eq_ok_iff.mp ran
  cases up with
  | some site =>
    obtain rfl := pure_eq_ok_iff.mp ran
    obtain ⟨declares, greatest⟩ := scanUp_greatest scanned_up
    exact .above onward declares greatest
  | none =>
    have none_above := scanUp_empty scanned_up
    obtain ⟨down, scanned_down, ran⟩ := bind_eq_ok_iff.mp ran
    cases down with
    | some site =>
      obtain rfl := pure_eq_ok_iff.mp ran
      obtain ⟨declares, least⟩ := scanDown_least scanned_down
      exact .below onward declares none_above least
    | none =>
      obtain rfl := pure_eq_ok_iff.mp ran
      exact .missed onward none_above (scanDown_empty scanned_down)

theorem chosen_of_run {line : Int} {search : Search}
    (least : IsLeast (AnnotationRun.outside grammar doc (doc.clamp line)) first)
    (ran : run grammar doc line = .ok search) :
    Chosen grammar doc (doc.clamp line) first search.site? := by
  unfold run at ran
  split at ran
  · next empty =>
    obtain rfl := pure_eq_ok_iff.mp ran
    have none_declared := grammar.declaring_eq_empty (List.isEmpty_iff.mp empty)
    have onward : ¬ Redirected grammar doc (doc.clamp line) first := by
      rintro ⟨_, other, declared, _⟩
      simp [none_declared] at declared
    exact .missed onward (by simp [none_declared]) (by simp [none_declared])
  · obtain ⟨touches, touched, ran⟩ := bind_eq_ok_iff.mp ran
    cases touches with
    | false =>
      refine chosen_of_nearest (fun redirected => ?_) ran
      exact absurd (touched.symm.trans redirected.1) (by simp)
    | true =>
      obtain ⟨site?, next, ran⟩ := bind_eq_ok_iff.mp ran
      obtain ⟨stop, skipped, scanned⟩ := bind_eq_ok_iff.mp next
      have above : 0 ≤ doc.clamp line := by
        unfold Document.clamp
        omega
      obtain rfl : stop = first := (isLeast_of_skipDown above skipped).unique least
      cases site? with
      | some site =>
        obtain rfl := pure_eq_ok_iff.mp ran
        obtain ⟨declares, behind_run⟩ := scanDown_least scanned
        exact .behindRun ⟨touched, _, behind_run.1⟩ declares behind_run
      | none =>
        refine chosen_of_nearest (fun redirected => ?_) ran
        obtain ⟨_, other, member⟩ := redirected
        simp [scanDown_empty scanned] at member

end

/-- Near an annotation run a search finds the first declaration behind the run, if one stands inside the window;
otherwise the nearest at or above the focus; otherwise the nearest below it; and it finds nothing exactly if
there is none of these. -/
theorem locate_eq_ok_iff (dialect : Dialect) (windows : Windows) (doc : Document) (line : Int) :
    ∃ first, IsLeast (AnnotationRun.outside (dialect.grammar windows) doc (doc.clamp line)) first ∧
      ∀ site?, locate (dialect.grammar windows) doc line = .ok site? ↔
        Chosen (dialect.grammar windows) doc (doc.clamp line) first site? := by
  obtain ⟨first, least⟩ := exists_isLeast_outside (dialect.grammar windows) doc (doc.clamp line)
  refine ⟨first, least, fun site? => ?_⟩
  obtain ⟨search, ran⟩ := (dialect.bounded windows doc).run_ok line
  have located : locate (dialect.grammar windows) doc line = .ok search.site? :=
    bind_eq_ok_iff.mpr ⟨search, ran, rfl⟩
  have chosen := chosen_of_run least ran
  rw [located, Except.ok.injEq]
  constructor
  · intro same
    exact same ▸ chosen
  · intro again
    exact chosen.unique again

end Search

end Docblock
