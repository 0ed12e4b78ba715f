import Docblock.Proofs.Bounds
import Docblock.Proofs.Parameters
import Docblock.Proofs.Reach

/-! The lines of a signature. What tells that a line declares something with a signature also tells that the signature
starts there, so that of all lines only those from there through the window have a say in its parameters. -/

set_option autoImplicit false

namespace Docblock

namespace Document

def excerpt (doc : Document) (first size : Nat) : List Text := (doc.lines.drop first).take size

variable {doc other : Document} {line place size : Nat}

theorem getElem?_excerpt (doc : Document) (first : Nat) {i : Nat} (within : i < size) :
    (doc.excerpt first size)[i]? = doc.lines[first + i]? := by
  rw [excerpt, List.getElem?_take_of_lt within, List.getElem?_drop]

theorem length_excerpt (doc : Document) (first size : Nat) :
    (doc.excerpt first size).length = min size (doc.count - first) := by
  simp [excerpt, count]

theorem moved_of_excerpt (same : other.excerpt place size = doc.excerpt line size) :
    doc.Moved other ((place : Int) - line) line (min (doc.count - 1) (line + size - 1)) := by
  intro i above below
  obtain ⟨text, read⟩ : ∃ text, doc.line i = .ok text := exists_line (by omega) (by omega)
  rw [read]
  obtain ⟨_, found⟩ := line_eq_ok_iff.mp read
  have within : i.toNat - line < size := by omega
  have found_too : other.lines[place + (i.toNat - line)]? = doc.lines[line + (i.toNat - line)]? := by
    rw [← getElem?_excerpt other place within, ← getElem?_excerpt doc line within, same]
  apply line_eq_ok_iff.mpr
  constructor
  · omega
  · rwa [show (i + ((place : Int) - line)).toNat = place + (i.toNat - line) by omega, found_too,
      show line + (i.toNat - line) = i.toNat by omega]

end Document

/-! ## Where a signature starts -/

namespace Apex
variable {windows : Windows} {doc : Document} {line : Int} {kind : Kind}

theorem constructorLine_of_calls {text : Text} (calls : callsEnclosingClass windows doc line text = .ok true) :
    ∃ className, enclosingName? windows doc line = .ok (some className) ∧
      (constructorLine className).matchesIn text = true := by
  obtain ⟨className?, named, calls⟩ := bind_eq_ok_iff.mp calls
  cases className? with
  | none => simp at calls
  | some className => exact ⟨className, named, pure_eq_ok_iff.mp calls⟩

theorem signatureStart_of_kindAt (declared : (grammar windows).kindAt doc line = .ok (some kind))
    (signed : kind ∈ (grammar windows).signatureKinds) (wide : 0 ≤ windows.signature) :
    signatureStart windows doc line kind = .ok (some line) := by
  obtain ⟨text, read, rule, member, rfl, fired⟩ := Grammar.exists_firing_rule declared
  have member : rule ∈ rules windows := member
  have signed : rule.kind = .constructor ∨ rule.kind = .method := by simpa [grammar] using signed
  unfold Rule.fires at fired
  split at fired
  · next matched =>
    simp only [rules, List.mem_cons, List.not_mem_nil, or_false] at member
    rcases member with rfl | rfl | rfl | rfl | rfl
    · simp at signed
    · obtain ⟨className, named, called⟩ := constructorLine_of_calls fired
      exact bind_eq_ok_iff.mpr ⟨some className, named, nearestLike_of_matches read called wide⟩
    · exact signatureStart_eq read matched wide
    · simp at signed
    · simp at signed
  · simp at fired

end Apex

theorem Dialect.signatureStart_of_kindAt {dialect : Dialect} {windows : Windows} {doc : Document} {line : Int}
    {kind : Kind} (declared : (dialect.grammar windows).kindAt doc line = .ok (some kind))
    (signed : kind ∈ (dialect.grammar windows).signatureKinds) (wide : 0 ≤ windows.signature) :
    (dialect.grammar windows).signatureStart doc line kind = .ok (some line) := by
  cases dialect with
  | apex => exact Apex.signatureStart_of_kindAt declared signed wide
  | javaScript =>
    have signed : kind = .function ∨ kind = .method := by simpa [Dialect.grammar, JavaScript.grammar] using signed
    exact congrArg Except.ok (if_pos signed)

/-! ## What is read from there on -/

namespace Signature

def parametersFrom (grammar : Grammar) (doc : Document) (start : Int) : Except OutOfRange (List Text) := do
  match grammar.bareParameters? (← grammar.declarationText doc start) with
  | some bare => return bare
  | none => return ((← reassemble grammar doc start).map (names grammar)).getD []

theorem parameters_eq (grammar : Grammar) (doc : Document) (line : Int) (kind : Kind) :
    parameters grammar doc line kind = (do
      if kind ∉ grammar.signatureKinds ∨ line < 0 ∨ doc.count ≤ line then return []
      match ← grammar.signatureStart doc line kind with
      | none => return []
      | some start => parametersFrom grammar doc start) :=
  rfl

theorem parameters_of_start {grammar : Grammar} {doc : Document} {line start : Int} {kind : Kind}
    (signed : kind ∈ grammar.signatureKinds) (above : 0 ≤ line) (below : line < doc.count)
    (starts : grammar.signatureStart doc line kind = .ok (some start)) :
    parameters grammar doc line kind = parametersFrom grammar doc start := by
  rw [parameters_eq, if_neg (by simp only [signed, not_true_eq_false, false_or]; omega), starts]
  rfl

end Signature

namespace Document.Moved
variable {doc other : Document} {shift top bottom line : Int} (moved : doc.Moved other shift top bottom)
  (grammar : Grammar) (above : top ≤ line)
include moved above

theorem declarationText (below : line ≤ bottom) :
    grammar.declarationText other (line + shift) = grammar.declarationText doc line := by
  unfold Grammar.declarationText
  rw [moved line above below]

theorem collect {count : Nat} (below : line + count ≤ bottom + 1) (opened : Bool) :
    Signature.collect grammar other count (line + shift) opened = Signature.collect grammar doc count line opened := by
  induction count generalizing line opened with
  | zero => rfl
  | succ count ih =>
    rw [Signature.collect, Signature.collect, moved.declarationText grammar above (by omega)]
    have further (opened : Bool) : Signature.collect grammar other count (line + shift + 1) opened =
        Signature.collect grammar doc count (line + 1) opened := by
      rw [Int.add_right_comm]
      exact ih (by omega) (by omega) opened
    simp only [further]

/-- A signature is read alike where its window ends alike and its lines are the same. -/
theorem parametersFrom (below : line ≤ bottom)
    (to_bottom : min ((doc.count : Int) - 1) (line + grammar.windows.signature) ≤ bottom)
    (ends : min ((other.count : Int) - 1) (line + shift + grammar.windows.signature) =
      min ((doc.count : Int) - 1) (line + grammar.windows.signature) + shift) :
    Signature.parametersFrom grammar other (line + shift) = Signature.parametersFrom grammar doc line := by
  have last : min ((other.count : Int) - 1) (line + shift + grammar.windows.signature) + 1 - (line + shift) =
      min ((doc.count : Int) - 1) (line + grammar.windows.signature) + 1 - line := by
    omega
  have joined : Signature.reassemble grammar other (line + shift) = Signature.reassemble grammar doc line := by
    simp only [Signature.reassemble, last]
    rw [moved.collect grammar above (by omega)]
  simp only [Signature.parametersFrom, moved.declarationText grammar above below, joined]

end Document.Moved

/-- A line that declares something with a signature holds the start of it, and its parameters are told by the lines from
there through the window alone: where another document has the same lines, from a line that declares the same, it has the
same parameters there. -/
theorem Dialect.parameters_of_excerpt (dialect : Dialect) (windows : Windows) {doc : Document} {line : Nat} {kind : Kind}
    (wide : 0 ≤ windows.signature)
    (declared : (dialect.grammar windows).kindAt doc line = .ok (some kind))
    (signed : kind ∈ (dialect.grammar windows).signatureKinds) :
    (dialect.grammar windows).signatureStart doc line kind = .ok (some (line : Int)) ∧
      ∀ (other : Document) (place : Nat), (dialect.grammar windows).kindAt other place = .ok (some kind) →
        other.excerpt place (windows.signature.toNat + 1) = doc.excerpt line (windows.signature.toNat + 1) →
        ∃ names, Signature.parameters (dialect.grammar windows) doc line kind = .ok names ∧
          Signature.parameters (dialect.grammar windows) other place kind = .ok names := by
  have starts := Dialect.signatureStart_of_kindAt declared signed wide
  refine ⟨starts, fun other place declared_too same => ?_⟩
  have starts_too := Dialect.signatureStart_of_kindAt declared_too signed wide
  obtain ⟨above, below⟩ := Grammar.kindAt_within declared
  obtain ⟨above_too, below_too⟩ := Grammar.kindAt_within declared_too
  have lengths := congrArg List.length same
  rw [Document.length_excerpt, Document.length_excerpt] at lengths
  have moved := Document.moved_of_excerpt same
  have alike := moved.parametersFrom (dialect.grammar windows) (Int.le_refl line) (by omega)
    (by simp only [Dialect.windows_grammar]; omega) (by simp only [Dialect.windows_grammar]; omega)
  rw [show (line : Int) + (place - line) = place by omega] at alike
  obtain ⟨names, read⟩ := (dialect.bounded windows doc).parameters_ok line kind
  refine ⟨names, read, ?_⟩
  rw [Signature.parameters_of_start signed above_too below_too starts_too, alike,
    ← Signature.parameters_of_start signed above below starts, read]

def crowded : Document :=
  ⟨["class Box \x7b".toList, "  void clear(Integer from) \x7b \x7d".toList, "  public Box(String name, // as printed".toList,
    "    Integer size) \x7b".toList, "  \x7d".toList]⟩

def alone : Document :=
  ⟨["class Box \x7b".toList, "  public Box(String name, // as printed".toList, "    Integer size) \x7b".toList,
    "  \x7d".toList]⟩

-- The method above the constructor has parameters, too, and both documents end inside the window.
theorem Dialect.parameters_of_excerpt_of_constructor :
    (Apex.grammar {}).signatureStart crowded 2 .constructor = .ok (some 2) ∧
      Signature.parameters (Apex.grammar {}) crowded 2 .constructor = .ok ["name".toList, "size".toList] ∧
      Signature.parameters (Apex.grammar {}) alone 1 .constructor = .ok ["name".toList, "size".toList] := by
  have declared : (Apex.grammar {}).kindAt crowded (2 : Nat) = .ok (some .constructor) := by decide +kernel
  have declared_too : (Apex.grammar {}).kindAt alone (1 : Nat) = .ok (some .constructor) := by decide +kernel
  have signed : Kind.constructor ∈ (Apex.grammar {}).signatureKinds := by decide
  obtain ⟨starts, alike⟩ := Dialect.parameters_of_excerpt .apex {} (by decide) declared signed
  obtain ⟨names, read, read_too⟩ := alike alone 1 declared_too (by decide)
  have alone_names : Signature.parameters (Apex.grammar {}) alone (1 : Nat) .constructor =
      .ok ["name".toList, "size".toList] := by decide +kernel
  obtain rfl : names = ["name".toList, "size".toList] := Except.ok.inj (read_too.symm.trans alone_names)
  exact ⟨starts, read, read_too⟩

end Docblock
