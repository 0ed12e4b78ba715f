import Docblock.Proofs.SignatureLines

/-! A document under empty lines. Walks that look up may see more lines then, but nothing on them, and so all that is
told about a line is told about it in its new place. -/

set_option autoImplicit false

namespace Docblock

/-! ## Lines in their new places -/

namespace Document

/-- The document under so many empty lines. -/
def sink (depth : Nat) (doc : Document) : Document := ⟨List.replicate depth [] ++ doc.lines⟩

variable {doc : Document} {depth : Nat}

theorem count_sink (depth : Nat) (doc : Document) : (doc.sink depth).count = depth + doc.count := by
  simp [sink, count]

theorem line_sink {line : Int} (above : 0 ≤ line) (below : line < doc.count) :
    (doc.sink depth).line (line + depth) = doc.line line := by
  obtain ⟨text, read⟩ := exists_line above below
  rw [read]
  obtain ⟨_, found⟩ := line_eq_ok_iff.mp read
  apply line_eq_ok_iff.mpr
  constructor
  · omega
  · rw [sink, List.getElem?_append_right (by simp; omega), List.length_replicate]
    rwa [show (line + depth).toNat - depth = line.toNat by omega]

theorem line_sink_of_lt {line : Int} (above : 0 ≤ line) (below : line < depth) :
    (doc.sink depth).line line = .ok [] := by
  apply line_eq_ok_iff.mpr
  constructor
  · exact above
  · rw [sink, List.getElem?_append_left (by simp; omega), List.getElem?_replicate_of_lt (by omega)]

theorem outside_sink {line : Int} (above : 0 ≤ line) :
    (line + depth < 0 ∨ ((doc.sink depth).count : Int) ≤ line + depth) ↔ (line < 0 ∨ (doc.count : Int) ≤ line) := by
  rw [count_sink]
  omega

theorem sunk_sink (doc : Document) (depth : Nat) : doc.Sunk (doc.sink depth) depth 0 (doc.count - 1) where
  moved i above below := line_sink above (by omega)
  empty i above below := line_sink_of_lt above below

end Document

/-! ## Walks -/

section
variable {ε β γ : Type} {test : Int → Except ε (Option β)} {other : Int → Except ε (Option γ)} {view : β → γ}
  {doc : Document} {depth : Nat} {line : Int}

-- The window of a walk up may reach the empty lines.
theorem scanUp_sink (window : Int) (below : line < doc.count)
    (same : ∀ i : Int, 0 ≤ i → i < doc.count → other (i + depth) = (test i).map (Option.map view))
    (silent : ∀ i : Int, 0 ≤ i → i < depth → other i = .ok none) :
    scanUp (line + depth) (max 0 (line + depth - window)) other =
      (scanUp line (max 0 (line - window)) test).map (Option.map view) := by
  apply scanUp_sunk
  · intro i from_top to_line
    exact same i (by omega) (by omega)
  · exact silent

theorem scanDown_sink (last : Int) (above : 0 ≤ line)
    (same : ∀ i : Int, 0 ≤ i → i < doc.count → other (i + depth) = (test i).map (Option.map view)) :
    scanDown (line + depth) (min (((doc.sink depth).count : Int) - 1) (last + depth)) other =
      (scanDown line (min ((doc.count : Int) - 1) last) test).map (Option.map view) := by
  have bottom : min (((doc.sink depth).count : Int) - 1) (last + depth) = min ((doc.count : Int) - 1) last + depth := by
    rw [Document.count_sink]
    omega
  rw [bottom]
  apply scanDown_moved
  intro i from_line to_bottom
  exact same i (by omega) (by omega)

end

/-! ## Signatures -/

section
variable {doc : Document} {depth : Nat} {line : Int}

theorem Dialect.enclosingType?_sink (dialect : Dialect) (windows : Windows) (depth : Nat) (above : 0 ≤ line)
    (below : line < doc.count) :
    (dialect.grammar windows).enclosingType? (doc.sink depth) (line + depth) =
      (dialect.grammar windows).enclosingType? doc line := by
  have sunk : doc.Sunk (doc.sink depth) depth 0 line := (Document.sunk_sink doc depth).narrow (Int.le_refl 0) (by omega)
  have unnamed : (dialect.grammar windows).className? [] = none := by
    cases dialect with
    | apex => exact Apex.className?_nil
    | javaScript => exact (show JavaScript.className? [] = none by decide)
  exact Grammar.enclosingType?_sunk unnamed sunk (by omega) below (sunk.inside above above below)

namespace Apex

theorem likeAt_sink (shape : Pattern) (above : 0 ≤ line) (below : line < doc.count) :
    likeAt shape (doc.sink depth) (line + depth) = (likeAt shape doc line).map (Option.map (· + (depth : Int))) := by
  unfold likeAt
  rw [Document.line_sink above below]
  cases doc.line line with
  | error error => rfl
  | ok text =>
    show Except.ok (if _ then _ else _) = Except.ok (Option.map _ (if _ then _ else _))
    split <;> rfl

theorem likeAt_sink_of_lt {shape : Pattern} (takes : shape.nullable = false) (above : 0 ≤ line) (below : line < depth) :
    likeAt shape (doc.sink depth) line = .ok none := by
  unfold likeAt
  rw [Document.line_sink_of_lt above below]
  have code : annotationName.strip (Comment.stripLine []) = [] := rfl
  show Except.ok (if shape.matchesIn (annotationName.strip (Comment.stripLine [])) = true then _ else _) = _
  rw [code, Pattern.matchesIn_nil takes]
  rfl

theorem nearestLike_sink {shape : Pattern} (takes : shape.nullable = false) (window : Int) (above : 0 ≤ line)
    (below : line < doc.count) :
    nearestLike shape window (doc.sink depth) (line + depth) =
      (nearestLike shape window doc line).map (Option.map (· + (depth : Int))) := by
  have same (i : Int) (above : 0 ≤ i) (below : i < doc.count) :
      likeAt shape (doc.sink depth) (i + depth) = (likeAt shape doc i).map (Option.map (· + (depth : Int))) :=
    likeAt_sink shape above below
  rw [nearestLike_eq, nearestLike_eq, scanUp_sink window below same fun i => likeAt_sink_of_lt takes,
    Int.add_right_comm line depth 1, Int.add_right_comm line depth window, scanDown_sink _ (by omega) same]
  cases scanUp line (max 0 (line - window)) (likeAt shape doc) with
  | error error => rfl
  | ok up => cases up <;> rfl

theorem constructorLine_takes (className : Text) : (constructorLine className).nullable = false :=
  Bool.and_false _

theorem signatureStart_sink (windows : Windows) (above : 0 ≤ line) (below : line < doc.count) (kind : Kind) :
    signatureStart windows (doc.sink depth) (line + depth) kind =
      (signatureStart windows doc line kind).map (Option.map (· + (depth : Int))) := by
  cases kind with
  | method => exact nearestLike_sink (by decide) windows.signature above below
  | constructor =>
    have classes : enclosingName? windows (doc.sink depth) (line + depth) = enclosingName? windows doc line :=
      Dialect.enclosingType?_sink .apex windows depth above below
    simp only [signatureStart, classes]
    cases enclosingName? windows doc line with
    | error error => rfl
    | ok className? =>
      cases className? with
      | none => rfl
      | some className => exact nearestLike_sink (constructorLine_takes className) windows.signature above below
  | _ => rfl

end Apex

theorem Dialect.signatureStart_sink (dialect : Dialect) (windows : Windows) (above : 0 ≤ line) (below : line < doc.count)
    (kind : Kind) :
    (dialect.grammar windows).signatureStart (doc.sink depth) (line + depth) kind =
      ((dialect.grammar windows).signatureStart doc line kind).map (Option.map (· + (depth : Int))) := by
  cases dialect with
  | apex => exact Apex.signatureStart_sink windows above below kind
  | javaScript =>
    show Except.ok (if _ then _ else _) = Except.ok (Option.map _ (if _ then _ else _))
    split <;> rfl

theorem Dialect.parameters_sink (dialect : Dialect) (windows : Windows) (depth : Nat) (above : 0 ≤ line)
    (below : line < doc.count) (kind : Kind) :
    Signature.parameters (dialect.grammar windows) (doc.sink depth) (line + depth) kind =
      Signature.parameters (dialect.grammar windows) doc line kind := by
  obtain ⟨start?, starts, within⟩ := (dialect.bounded windows doc).signatureStart line kind above below
  simp only [Signature.parameters_eq, Document.outside_sink above, dialect.signatureStart_sink windows above below,
    starts]
  cases start? with
  | none => rfl
  | some start =>
    obtain ⟨from_first, to_last⟩ := within start rfl
    have alike := (Document.sunk_sink doc depth).moved.parametersFrom (dialect.grammar windows) from_first (by omega)
      (Int.min_le_left _ _) (by rw [Document.count_sink]; omega)
    simp only [Except.map, Option.map_some, bind, Except.bind, alike]

end

/-! ## Searches -/

def Site.sink (depth : Nat) (site : Site) : Site := ⟨site.kind, site.line + depth⟩

def Search.sink (depth : Nat) : Search → Search
  | .idle => .idle
  | .missed focus => .missed (focus + depth)
  | .found focus site way => .found (focus + depth) (site.sink depth) way

/-- Lines that sink go on to declare what they declared. -/
def Grammar.Sinks (grammar : Grammar) (doc : Document) (depth : Nat) : Prop :=
  ∀ line : Int, 0 ≤ line → line < doc.count →
    grammar.kindAt (doc.sink depth) (line + depth) = grammar.kindAt doc line

theorem Dialect.sinks (dialect : Dialect) (windows : Windows) (doc : Document) (depth : Nat) :
    (dialect.grammar windows).Sinks doc depth := by
  intro line above below
  have sunk : doc.Sunk (doc.sink depth) depth (max 0 (line - dialect.reach windows)) line :=
    (Document.sunk_sink doc depth).narrow (by omega) (by omega)
  exact Dialect.kindAt_sunk sunk above below

section
variable {grammar : Grammar} {doc : Document} {depth : Nat} {line : Int}

theorem AnnotationRun.nextDeclaration_eq (grammar : Grammar) (doc : Document) (above : 0 ≤ line) :
    nextDeclaration grammar doc line = (do
      let first ← skipDown (blankOrBare grammar doc) (doc.count - line).toNat line
      scanDown first (min (doc.count - 1) (first + grammar.windows.declaration)) (Search.siteAt grammar doc)) := by
  unfold nextDeclaration
  rw [Int.max_eq_right above]
  rfl

theorem AnnotationRun.verdict_sink_of_lt (above : 0 ≤ line) (below : line < depth) :
    verdict grammar (doc.sink depth) line = .ok none := by
  unfold verdict
  rw [Document.line_sink_of_lt above below]
  rfl

theorem Search.siteAt_sink_of_lt (above : 0 ≤ line) (below : line < depth) :
    siteAt grammar (doc.sink depth) line = .ok none := by
  unfold siteAt
  rw [Grammar.kindAt_of_blank (Document.line_sink_of_lt above below) rfl]
  rfl

namespace Grammar.Sinks
variable (sinks : grammar.Sinks doc depth) (above : 0 ≤ line) (below : line < doc.count)
include sinks above below

theorem bareAnnotationAt :
    grammar.bareAnnotationAt (doc.sink depth) (line + depth) = grammar.bareAnnotationAt doc line := by
  simp only [Grammar.bareAnnotationAt, Document.line_sink above below, sinks line above below]

theorem blankOrBare : AnnotationRun.blankOrBare grammar (doc.sink depth) (line + depth) =
    AnnotationRun.blankOrBare grammar doc line := by
  simp only [AnnotationRun.blankOrBare, Document.line_sink above below, sinks.bareAnnotationAt above below]

theorem verdict : AnnotationRun.verdict grammar (doc.sink depth) (line + depth) =
    (AnnotationRun.verdict grammar doc line).map (Option.map id) := by
  simp only [AnnotationRun.verdict, Document.line_sink above below, sinks.bareAnnotationAt above below]
  simp

theorem siteAt : Search.siteAt grammar (doc.sink depth) (line + depth) =
    (Search.siteAt grammar doc line).map (Option.map (Site.sink depth)) := by
  unfold Search.siteAt
  rw [sinks line above below, show (line + depth).toNat = line.toNat + depth by omega]
  cases grammar.kindAt doc line with
  | error error => rfl
  | ok kind? => cases kind? <;> rfl

theorem touches : AnnotationRun.touches grammar (doc.sink depth) (line + depth) =
    AnnotationRun.touches grammar doc line := by
  have same (i : Int) (above : 0 ≤ i) (below : i < doc.count) := sinks.verdict above below
  have up := scanUp_sink grammar.windows.annotationRun below same fun i => AnnotationRun.verdict_sink_of_lt
  have down := scanDown_sink (line + grammar.windows.annotationRun) above same
  rw [Int.add_right_comm] at down
  simp only [AnnotationRun.touches, Document.outside_sink above, sinks.bareAnnotationAt above below, up, down]
  simp

theorem nextDeclaration : AnnotationRun.nextDeclaration grammar (doc.sink depth) (line + depth) =
    (AnnotationRun.nextDeclaration grammar doc line).map (Option.map (Site.sink depth)) := by
  have lengths : (((doc.sink depth).count : Int) - (line + depth)).toNat = ((doc.count : Int) - line).toNat := by
    rw [Document.count_sink]
    omega
  rw [AnnotationRun.nextDeclaration_eq _ _ above, AnnotationRun.nextDeclaration_eq _ _ (by omega), lengths]
  have skips : skipDown (AnnotationRun.blankOrBare grammar (doc.sink depth)) (doc.count - line).toNat (line + depth) =
      (skipDown (AnnotationRun.blankOrBare grammar doc) (doc.count - line).toNat line).map (· + (depth : Int)) := by
    apply skipDown_moved
    intro i from_line to_end
    exact sinks.blankOrBare (by omega) (by omega)
  rw [skips]
  cases skipped : skipDown (AnnotationRun.blankOrBare grammar doc) (doc.count - line).toNat line with
  | error error => rfl
  | ok first =>
    have reached : line ≤ first := (skipDown_eq_ok_iff.mp skipped).1
    have from_first : 0 ≤ first := Int.le_trans above reached
    have down := scanDown_sink (first + grammar.windows.declaration) from_first fun i => sinks.siteAt
    rw [Int.add_right_comm] at down
    exact down

theorem nearest : Search.nearest grammar (doc.sink depth) (line + depth) =
    (Search.nearest grammar doc line).map (Search.sink depth) := by
  have same (i : Int) (above : 0 ≤ i) (below : i < doc.count) := sinks.siteAt above below
  have up := scanUp_sink grammar.windows.declaration below same fun i => Search.siteAt_sink_of_lt
  have next_line : 0 ≤ line + 1 := by omega
  have down := scanDown_sink (line + grammar.windows.declaration) next_line same
  rw [Int.add_right_comm, Int.add_right_comm line _ depth] at down
  simp only [Search.nearest, up, down]
  cases scanUp line (max 0 (line - grammar.windows.declaration)) (Search.siteAt grammar doc) with
  | error error => rfl
  | ok up =>
    cases up with
    | some site => rfl
    | none =>
      cases scanDown (line + 1) (min ((doc.count : Int) - 1) (line + grammar.windows.declaration))
        (Search.siteAt grammar doc) with
      | error error => rfl
      | ok down => cases down <;> rfl

theorem run : Search.run grammar (doc.sink depth) (line + depth) =
    (Search.run grammar doc line).map (Search.sink depth) := by
  have inside : 0 ≤ line + depth ∧ line + depth < (doc.sink depth).count := by
    rw [Document.count_sink]
    omega
  unfold Search.run
  simp only [Document.lines_filled above below, Document.lines_filled inside.1 inside.2, Document.clamp_eq_self above below,
    Document.clamp_eq_self inside.1 inside.2, sinks.touches above below, sinks.nextDeclaration above below,
    sinks.nearest above below]
  cases AnnotationRun.touches grammar doc line with
  | error error => rfl
  | ok touched =>
    cases touched with
    | false => rfl
    | true =>
      cases AnnotationRun.nextDeclaration grammar doc line with
      | error error => rfl
      | ok site? => cases site? <;> rfl

theorem locate : Docblock.locate grammar (doc.sink depth) (line + depth) =
    (Docblock.locate grammar doc line).map (Option.map (Site.sink depth)) := by
  unfold Docblock.locate
  rw [sinks.run above below]
  cases Search.run grammar doc line with
  | error error => rfl
  | ok search => cases search <;> rfl

end Grammar.Sinks

/-- Under empty lines all that is told about a line is told about it in its new place: what it declares, the class
around it, the parameters of a declaration there, and the site that a search from it finds. -/
theorem Dialect.sink_shifts (dialect : Dialect) (windows : Windows) (depth : Nat) (above : 0 ≤ line)
    (below : line < doc.count) :
    (dialect.grammar windows).kindAt (doc.sink depth) (line + depth) = (dialect.grammar windows).kindAt doc line ∧
      (dialect.grammar windows).enclosingType? (doc.sink depth) (line + depth) =
        (dialect.grammar windows).enclosingType? doc line ∧
      (∀ kind, Signature.parameters (dialect.grammar windows) (doc.sink depth) (line + depth) kind =
        Signature.parameters (dialect.grammar windows) doc line kind) ∧
      locate (dialect.grammar windows) (doc.sink depth) (line + depth) =
        (locate (dialect.grammar windows) doc line).map (Option.map (Site.sink depth)) := by
  have sinks := dialect.sinks windows doc depth
  exact ⟨sinks line above below, dialect.enclosingType?_sink windows depth above below,
    dialect.parameters_sink windows depth above below, sinks.locate above below⟩

def account : Document :=
  ⟨["class Account \x7b".toList, "  Account(String name) \x7b".toList]⟩

-- The walks for the class and for the annotations around the constructor now see the empty lines, too.
theorem Dialect.sink_shifts_constructor :
    (Apex.grammar {}).kindAt (account.sink 3) 4 = .ok (some .constructor) ∧
      (Apex.grammar {}).enclosingType? (account.sink 3) 4 = .ok (some "Account".toList) ∧
      Signature.parameters (Apex.grammar {}) (account.sink 3) 4 .constructor = .ok ["name".toList] ∧
      locate (Apex.grammar {}) (account.sink 3) 4 = .ok (some ⟨.constructor, 4⟩) := by
  have first_line : (0 : Int) ≤ 1 := by decide
  have last_line : (1 : Int) < account.count := by decide
  obtain ⟨kind, name, parameters, site⟩ := Dialect.sink_shifts .apex {} 3 first_line last_line
  exact ⟨kind.trans (by decide), name.trans (by decide), (parameters .constructor).trans (by decide),
    site.trans (by decide)⟩

end

end Docblock
