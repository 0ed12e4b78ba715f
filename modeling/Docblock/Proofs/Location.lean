import Docblock.Proofs.Classification
import Docblock.Search

/-! Where searches end and where comments go. Whichever way a site was found, it declares what it is said
to declare; and the comment on a declaration never goes below it. -/

set_option autoImplicit false

namespace Docblock

def Site.Declares (grammar : Grammar) (doc : Document) (site : Site) : Prop :=
  grammar.kindAt doc site.line = .ok (some site.kind)

theorem Site.Declares.within {grammar : Grammar} {doc : Document} {site : Site}
    (declares : site.Declares grammar doc) : site.line < doc.count := by
  have within := Grammar.kindAt_within declares
  omega

namespace Search

theorem siteAt_eq_some_iff {grammar : Grammar} {doc : Document} {line : Int} {site : Site} :
    siteAt grammar doc line = .ok (some site) ↔ site.Declares grammar doc ∧ line = site.line := by
  simp only [siteAt, bind_eq_ok_iff, pure_eq_ok_iff, Option.map_eq_some_iff]
  constructor
  · intro found
    obtain ⟨_, found, kind, rfl, rfl⟩ := found
    have same : (line.toNat : Int) = line := Int.toNat_of_nonneg (Grammar.kindAt_within found).1
    exact ⟨by simpa [Site.Declares, same] using found, same.symm⟩
  · intro found
    obtain ⟨declares, rfl⟩ := found
    exact ⟨some site.kind, declares, site.kind, rfl, by simp⟩

-- Only a search that may look at some line finds a site, and the site is real.
theorem nextDeclaration_sound {grammar : Grammar} {doc : Document} {line : Int} {site : Site}
    (found : AnnotationRun.nextDeclaration grammar doc line = .ok (some site)) :
    site.Declares grammar doc ∧ 0 ≤ grammar.windows.declaration := by
  unfold AnnotationRun.nextDeclaration at found
  obtain ⟨first, _, found⟩ := bind_eq_ok_iff.mp found
  obtain ⟨i, above, below, hit, _⟩ := scanDown_eq_some_iff.mp found
  have declares := (siteAt_eq_some_iff.mp hit).1
  exact ⟨declares, by omega⟩

theorem nearest_sound {grammar : Grammar} {doc : Document} {focus place : Int} {site : Site} {way : Way}
    (found : nearest grammar doc focus = .ok (.found place site way)) :
    site.Declares grammar doc ∧ 0 ≤ grammar.windows.declaration := by
  unfold nearest at found
  obtain ⟨up, scanned_up, found⟩ := bind_eq_ok_iff.mp found
  cases up with
  | some other =>
    obtain ⟨rfl, rfl, rfl⟩ : focus = place ∧ other = site ∧ Way.up = way := by simpa using found
    obtain ⟨i, above, below, hit, _⟩ := scanUp_eq_some_iff.mp scanned_up
    have declares := (siteAt_eq_some_iff.mp hit).1
    exact ⟨declares, by omega⟩
  | none =>
    obtain ⟨down, scanned_down, found⟩ := bind_eq_ok_iff.mp found
    cases down with
    | none => simp at found
    | some other =>
      obtain ⟨rfl, rfl, rfl⟩ : focus = place ∧ other = site ∧ Way.down = way := by simpa using found
      obtain ⟨i, above, below, hit, _⟩ := scanDown_eq_some_iff.mp scanned_down
      have declares := (siteAt_eq_some_iff.mp hit).1
      exact ⟨declares, by omega⟩

theorem run_sound {grammar : Grammar} {doc : Document} {line : Int} {search : Search} {site : Site}
    (ran : run grammar doc line = .ok search) (found : search.site? = some site) :
    site.Declares grammar doc ∧ 0 ≤ grammar.windows.declaration := by
  have nearest_case {focus : Int} (ran : nearest grammar doc focus = .ok search) :
      site.Declares grammar doc ∧ 0 ≤ grammar.windows.declaration := by
    cases search with
    | found place other way =>
      obtain rfl : other = site := by simpa [site?] using found
      exact nearest_sound ran
    | idle => simp [site?] at found
    | missed place => simp [site?] at found
  unfold run at ran
  split at ran
  · obtain rfl : idle = search := by simpa using ran
    simp [site?] at found
  · obtain ⟨touches, _, ran⟩ := bind_eq_ok_iff.mp ran
    dsimp only at ran
    split at ran
    · obtain ⟨below, redirected, ran⟩ := bind_eq_ok_iff.mp ran
      split at ran
      · next other =>
        obtain rfl := pure_eq_ok_iff.mp ran
        obtain rfl : other = site := by simpa [site?] using found
        exact nextDeclaration_sound redirected
      · exact nearest_case ran
    · exact nearest_case ran

theorem touches_declaring {grammar : Grammar} {doc : Document} {site : Site}
    (declares : site.Declares grammar doc) : AnnotationRun.touches grammar doc site.line = .ok false := by
  obtain ⟨text, read, filled, bare⟩ := Grammar.filled_of_kindAt declares
  have within := Grammar.kindAt_within declares
  have verdict : AnnotationRun.verdict grammar doc site.line = .ok (some false) :=
    bind_eq_ok_iff.mpr ⟨text, read, by
      rw [filled]
      exact bind_eq_ok_iff.mpr ⟨false, bare, rfl⟩⟩
  -- A window below zero makes both walks empty, and any other one lets them end where they start.
  have above : ∃ answer, scanUp site.line (max 0 (site.line - grammar.windows.annotationRun))
      (AnnotationRun.verdict grammar doc) = .ok answer ∧ answer ≠ some true := by
    by_cases window : 0 ≤ grammar.windows.annotationRun
    · exact ⟨some false, scanUp_eq_some_iff.mpr
        ⟨site.line, by omega, by omega, verdict, fun j _ _ => by omega⟩, by simp⟩
    · exact ⟨none, scanUp_eq_none_iff.mpr fun i _ _ => by omega, by simp⟩
  have below : ∃ answer, scanDown site.line
      (min (doc.count - 1) (site.line + grammar.windows.annotationRun))
      (AnnotationRun.verdict grammar doc) = .ok answer ∧ answer ≠ some true := by
    by_cases window : 0 ≤ grammar.windows.annotationRun
    · exact ⟨some false, scanDown_eq_some_iff.mpr
        ⟨site.line, by omega, by omega, verdict, fun j _ _ => by omega⟩, by simp⟩
    · exact ⟨none, scanDown_eq_none_iff.mpr fun i _ _ => by omega, by simp⟩
  obtain ⟨up, scanned_up, up_ne⟩ := above
  obtain ⟨down, scanned_down, down_ne⟩ := below
  unfold AnnotationRun.touches
  rw [if_neg (by omega)]
  refine bind_eq_ok_iff.mpr ⟨false, bare, ?_⟩
  refine bind_eq_ok_iff.mpr ⟨up, scanned_up, ?_⟩
  rw [if_neg up_ne]
  exact bind_eq_ok_iff.mpr ⟨down, scanned_down, by simpa using down_ne⟩

theorem locate_declaring {grammar : Grammar} {doc : Document} {site : Site}
    (declares : site.Declares grammar doc) (window : 0 ≤ grammar.windows.declaration) :
    locate grammar doc site.line = .ok (some site) := by
  have within := Grammar.kindAt_within declares
  have hit : scanUp site.line (max 0 (site.line - grammar.windows.declaration)) (siteAt grammar doc) =
      .ok (some site) :=
    scanUp_eq_some_iff.mpr ⟨site.line, by omega, by omega, siteAt_eq_some_iff.mpr ⟨declares, rfl⟩,
      fun j _ _ => by omega⟩
  have nearest_eq : nearest grammar doc site.line = .ok (found site.line site .up) :=
    bind_eq_ok_iff.mpr ⟨some site, hit, rfl⟩
  have ran : run grammar doc site.line = .ok (found site.line site .up) := by
    simp only [run, Document.lines_filled within.1 within.2, Document.clamp_eq_self within.1 within.2,
      Bool.false_eq_true, if_false]
    exact bind_eq_ok_iff.mpr ⟨false, touches_declaring declares, nearest_eq⟩
  exact bind_eq_ok_iff.mpr ⟨_, ran, rfl⟩

end Search

namespace AnnotationRun

theorem insertionLine_le {grammar : Grammar} {doc : Document} {line : Int} {number : Nat}
    (placed : insertionLine grammar doc line = .ok number) : number ≤ line.toNat := by
  unfold insertionLine at placed
  obtain ⟨below, skipped, placed⟩ := bind_eq_ok_iff.mp placed
  have blanks := (skipUp_eq_ok_iff.mp skipped).1
  have annotations := (skipUp_eq_ok_iff.mp placed).1
  omega

end AnnotationRun

end Docblock
