import Docblock.Proofs.CommentLines
import Docblock.Proofs.Resemblance
import Docblock.Proofs.SideBySide
import Docblock.Registry

/-! A comment in other words. The walks for the enclosing class and for the enum around a line read comments like
code, apart from what follows two slashes. Prose that names a class, or that holds the word of a header, so has a
say in what the lines below it declare; all other prose has none. -/

set_option autoImplicit false

namespace Docblock

namespace Document

/-- The document with another text on one of its lines. -/
def reword (doc : Document) (place : Nat) (text : Text) : Document :=
  ⟨doc.lines.set place text⟩

/-- A walk up from a line, over so many lines and to the first that `view` sees something on, sees the same with
either text at the place: it does not come to the place, or stops before, or `view` takes the texts for the same. -/
def SeenAlike {α : Type} (doc : Document) (view : Text → Option α) (window line : Int) (place : Nat)
    (old new : Text) : Prop :=
  line < place ∨ (place : Int) < line - window ∨
    (∃ i : Nat, place < i ∧ (i : Int) ≤ line ∧ ∃ text, doc.lines[i]? = some text ∧ (view text).isSome) ∨
    view old = view new

end Document

namespace Comment

/-- Inside a comment that opens further up and closes further down. -/
def Within (doc : Document) (place : Nat) : Prop :=
  ∃ top bottom, top < place ∧ place < bottom ∧
    (∃ text, doc.lines[top]? = some text ∧ text.holds opener = true ∧ text.holds closer = false) ∧
    (∃ text, doc.lines[bottom]? = some text ∧ text.holds closer = true) ∧
    ∀ i, top < i → i < bottom → ∃ text, doc.lines[i]? = some text ∧ text.holds closer = false

/-- A line that goes on with a comment and has no comment mark but the asterisk that it starts with. -/
def Prose (text : Text) : Prop :=
  text.opening? = some '*' ∧ text.holds opener = false ∧ text.holds closer = false ∧
    text.holds "//".toList = false

end Comment

/-- What a line says about the enum around the lines below it: it starts an enum, it rules one out, or neither. -/
def Apex.header? (text : Text) : Option Bool :=
  let code := Comment.stripLine text
  if classOrInterface.matchesIn code then some false else if enumHeader.matchesIn code then some true else none

/-- The walks from a line for its class and for its enum see the same with either text at the place. -/
def Apex.SeenAlike (windows : Windows) (doc : Document) (line : Int) (place : Nat) (old new : Text) : Prop :=
  doc.SeenAlike (fun text => className? (Comment.stripLine text)) windows.enclosingType line place old new ∧
    doc.SeenAlike header? windows.enumBlock line place old new

/-! ## What other words leave as it is -/

section
variable {doc : Document} {place : Nat} {old new : Text}

namespace Document

@[simp] theorem count_reword : (doc.reword place new).count = doc.count :=
  List.length_set

theorem line_reword_of_ne {number : Int} (other : number ≠ place) :
    (doc.reword place new).line number = doc.line number := by
  unfold line
  split
  · rw [count_reword]
  · have elsewhere : place ≠ number.toNat := by omega
    rw [reword, List.getElem?_set_ne elsewhere]
    simp [count]

theorem line_reword (stands : doc.lines[place]? = some old) : (doc.reword place new).line place = .ok new := by
  obtain ⟨inside, _⟩ := List.getElem?_eq_some_iff.mp stands
  exact line_eq_ok_iff.mpr ⟨by omega, by simp [reword, inside]⟩

theorem line_of_getElem? (stands : doc.lines[place]? = some old) : doc.line place = .ok old :=
  line_eq_ok_iff.mpr ⟨by omega, by simpa using stands⟩

-- A view of single lines that takes both texts for the same takes the documents for the same.
theorem map_line_reword {α : Type} {view : Text → α} (stands : doc.lines[place]? = some old)
    (same : view old = view new) (line : Int) :
    (doc.line line).map view = ((doc.reword place new).line line).map view := by
  by_cases other : line = place
  · subst other
    rw [line_reword stands, line_of_getElem? stands]
    exact congrArg Except.ok same
  · rw [line_reword_of_ne other]

theorem scanUp_reword {β : Type} {view : Text → Option β} (stands : doc.lines[place]? = some old)
    {line window bottom : Int} (seen : doc.SeenAlike view window line place old new) (from_line : bottom ≤ line)
    (starts : ∀ i : Int, i ≤ line → i < doc.count → i ≤ bottom) :
    scanUp bottom (max 0 (line - window)) (fun i => do return view (← (doc.reword place new).line i)) =
      scanUp bottom (max 0 (line - window)) (fun i => do return view (← doc.line i)) := by
  refine scanUp_congr fun i above below silent => ?_
  by_cases other : i = place
  · subst other
    rcases seen with sooner | later | ⟨stop, further_down, to_line, text, read, answers⟩ | same
    · omega
    · omega
    · have inside : stop < doc.count := (List.getElem?_eq_some_iff.mp read).1
      have told := silent stop (by omega) (starts stop to_line (by omega))
      rw [line_reword_of_ne (by omega), line_of_getElem? read] at told
      have untold : view text = none := Except.ok.inj told
      simp [untold] at answers
    · rw [line_reword stands, line_of_getElem? stands]
      exact congrArg Except.ok same.symm
  · rw [line_reword_of_ne other]

end Document

theorem Grammar.enclosingType?_reword (grammar : Grammar) (stands : doc.lines[place]? = some old) {line : Int}
    (seen : doc.SeenAlike (fun text => grammar.className? (Comment.stripLine text)) grammar.windows.enclosingType line
      place old new) :
    grammar.enclosingType? (doc.reword place new) line = grammar.enclosingType? doc line := by
  unfold enclosingType? enclosingClass?
  rw [Document.count_reword]
  exact Document.scanUp_reword stands seen (by omega) fun i to_line inside => by omega

namespace Apex
variable {windows : Windows}

theorem insideEnum_reword (windows : Windows) (stands : doc.lines[place]? = some old) {line : Int}
    (seen : doc.SeenAlike header? windows.enumBlock line place old new) :
    insideEnum windows (doc.reword place new) line = insideEnum windows doc line := by
  have walks := Document.scanUp_reword stands seen (Int.le_refl line) fun i to_line _ => to_line
  exact congrArg (· >>= fun nearest => pure (nearest.getD false)) walks

theorem kindAt_congr {other : Document} {line : Int}
    (texts : (grammar windows).declarationText other line = (grammar windows).declarationText doc line)
    (classes : enclosingName? windows other line = enclosingName? windows doc line)
    (enums : insideEnum windows other line = insideEnum windows doc line) :
    (grammar windows).kindAt other line = (grammar windows).kindAt doc line := by
  have rules_alike (text : Text) :
      Grammar.firstKind? other line text (rules windows) = Grammar.firstKind? doc line text (rules windows) := by
    simp only [rules, Grammar.firstKind?, Rule.fires, callsEnclosingClass, classes, enums]
  simp only [Grammar.kindAt, texts]
  simp only [grammar, rules_alike]

theorem kindAt_reword (stands : doc.lines[place]? = some old) {line : Int} (other : line ≠ place)
    (seen : SeenAlike windows doc line place old new) :
    (grammar windows).kindAt (doc.reword place new) line = (grammar windows).kindAt doc line := by
  have texts : (grammar windows).declarationText (doc.reword place new) line =
      (grammar windows).declarationText doc line := by
    simp only [Grammar.declarationText, Document.line_reword_of_ne other]
  exact kindAt_congr texts (Grammar.enclosingType?_reword (grammar windows) stands seen.1)
    (insideEnum_reword windows stands seen.2)

end Apex

theorem Dialect.kindAt_eq_none {dialect : Dialect} {windows : Windows} {line : Int} {text : Text}
    (read : doc.line line = .ok text) (opens : text.opening? = some '*') :
    (dialect.grammar windows).kindAt doc line = .ok none :=
  kindAt_of_inert read fun _ other => .inl (Option.some.inj (other.symm.trans opens))

theorem Dialect.isAnnotationLine_eq_false {dialect : Dialect} {windows : Windows} {text : Text}
    (opens : text.opening? = some '*') : (dialect.grammar windows).isAnnotationLine text = false :=
  isAnnotationLine_of_other (by simp [opens])

/-- A line of a comment that is put in other words changes what class a line stands in only if the walk for the
class sees a change. In a script it changes nothing about what any other line declares, and in Apex it does so only
if one of the walks for the class and for the enum sees a change. What a search finds then stays, too. -/
theorem Dialect.classification_reword (dialect : Dialect) (windows : Windows) (stands : doc.lines[place]? = some old)
    (old_star : old.opening? = some '*') (new_star : new.opening? = some '*') :
    (∀ line : Int, doc.SeenAlike (fun text => (dialect.grammar windows).className? (Comment.stripLine text))
        windows.enclosingType line place old new →
      (dialect.grammar windows).enclosingType? (doc.reword place new) line =
        (dialect.grammar windows).enclosingType? doc line) ∧
    (∀ line : Int, line ≠ place → (dialect = .javaScript ∨ Apex.SeenAlike windows doc line place old new) →
      (dialect.grammar windows).kindAt (doc.reword place new) line = (dialect.grammar windows).kindAt doc line) ∧
    ((∀ line : Int, line ≠ place → dialect = .javaScript ∨ Apex.SeenAlike windows doc line place old new) →
      ∀ focus, locate (dialect.grammar windows) (doc.reword place new) focus =
        locate (dialect.grammar windows) doc focus) := by
  have kinds (line : Int) (other : line ≠ place)
      (seen : dialect = .javaScript ∨ Apex.SeenAlike windows doc line place old new) :
      (dialect.grammar windows).kindAt (doc.reword place new) line = (dialect.grammar windows).kindAt doc line := by
    cases dialect with
    | apex => exact Apex.kindAt_reword stands other (by simpa using seen)
    | javaScript =>
      refine (JavaScript.kindAt_eq windows _ line).trans (.trans ?_ (JavaScript.kindAt_eq windows doc line).symm)
      rw [Document.line_reword_of_ne other]
  refine ⟨fun line seen => Grammar.enclosingType?_reword _ stands ?_, kinds, fun seen focus => ?_⟩
  · cases dialect <;> exact seen
  have alike : (dialect.grammar windows).Alike (doc.reword place new) doc := by
    refine ⟨Document.count_reword, fun line => ?_, fun line => ?_, funext fun line => ?_⟩
    · refine (Document.map_line_reword stands ?_ line).symm
      rw [Text.blank_eq_false_of_opening? old_star, Text.blank_eq_false_of_opening? new_star]
    · refine (Document.map_line_reword stands ?_ line).symm
      rw [isAnnotationLine_eq_false old_star, isAnnotationLine_eq_false new_star]
    · by_cases other : line = place
      · subst other
        rw [kindAt_eq_none (Document.line_reword stands) new_star, kindAt_eq_none (Document.line_of_getElem? stands) old_star]
      · exact kinds line other (seen line other)
  exact congrFun alike.locate focus

end

/-! ## Prose that is read as code -/

namespace Comment

def constructed : Document :=
  ⟨["public class Foo \x7b".toList, "  /**".toList, "   * Creates the instance".toList, "   */".toList,
    "  public Foo(String a) \x7b".toList]⟩

-- Words that name no class and hold no header word leave the constructor below the comment a constructor.
theorem constructed_in_other_words :
    locate (Apex.grammar {}) (constructed.reword 2 "   * Makes an instance".toList) 4 =
      locate (Apex.grammar {}) constructed 4 :=
  (Dialect.classification_reword .apex {} (show constructed.lines[2]? = some "   * Creates the instance".toList from rfl)
    (by decide) (by decide)).2.2
    (fun _ _ => .inr ⟨.inr (.inr (.inr (by decide))), .inr (.inr (.inr (by decide)))⟩) 4

theorem within_constructed : Within constructed 2 := by
  refine ⟨1, 3, by decide, by decide, ⟨_, rfl, by decide, by decide⟩, ⟨_, rfl, by decide⟩, ?_⟩
  intro i above below
  obtain rfl : i = 2 := by omega
  exact ⟨_, rfl, by decide⟩

-- A comment that says "class instance" names a class "instance", and the constructor below it is taken for a method.
theorem prose_reaches_constructor :
    ¬ ∀ (dialect : Dialect) (windows : Windows) (doc : Document) (place : Nat) (old new : Text),
      doc.lines[place]? = some old → Within doc place → Prose old → Prose new →
        (∀ line : Int, line ≠ place →
          (dialect.grammar windows).kindAt (doc.reword place new) line = (dialect.grammar windows).kindAt doc line ∧
          (dialect.grammar windows).enclosingType? (doc.reword place new) line =
            (dialect.grammar windows).enclosingType? doc line) ∧
        ∀ focus, locate (dialect.grammar windows) (doc.reword place new) focus =
          locate (dialect.grammar windows) doc focus := by
  intro claimed
  have same := (claimed .apex {} constructed 2 "   * Creates the instance".toList
    "   * Creates the class instance".toList rfl within_constructed
    (by unfold Prose; decide) (by unfold Prose; decide)).2 4
  have is_method : locate (Dialect.apex.grammar {})
      (constructed.reword 2 "   * Creates the class instance".toList) 4 = .ok (some ⟨.method, 4⟩) := by
    decide
  have is_constructor : locate (Dialect.apex.grammar {}) constructed 4 = .ok (some ⟨.constructor, 4⟩) := by
    decide
  exact absurd (is_method.symm.trans (same.trans is_constructor)) (by decide)

end Comment

end Docblock
