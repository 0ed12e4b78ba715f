import Docblock.Proofs.Classification
import Docblock.Registry
import Docblock.Signature

/-! Parameter names. However a declaration comes to its parameters, their names are made of the characters
that names can have, so that they hold no blank, no line break and nothing that ends a comment. -/

set_option autoImplicit false

namespace Docblock

namespace Cursor

theorem upTo_eq {first last : Cursor} {taken : Text} (cut : first.ahead = taken ++ last.ahead) :
    first.upTo last = taken := by
  simp [upTo, cut]

theorem Steps.taken {accepts : Char → Bool} {first last : Cursor} (steps : Steps accepts first last) :
    ∃ taken, first.ahead = taken ++ last.ahead ∧ ∀ c ∈ taken, accepts c = true := by
  induction steps with
  | here cursor => exact ⟨[], rfl, by simp⟩
  | @onto passed c rest last accepted _ ih =>
    obtain ⟨taken, cut, each⟩ := ih
    exact ⟨c :: taken, congrArg (c :: ·) cut, List.forall_mem_cons.mpr ⟨accepted, each⟩⟩

end Cursor

theorem Signature.parameters_cases {grammar : Grammar} {doc : Document} {line : Int} {kind : Kind}
    {given : List Text} (read : parameters grammar doc line kind = .ok given) :
    given = [] ∨
    (∃ start code, grammar.declarationText doc start = .ok code ∧
      grammar.bareParameters? code = some given) ∨
    ∃ signature, given = names grammar signature := by
  unfold parameters at read
  split at read
  · exact .inl (pure_eq_ok_iff.mp read).symm
  · obtain ⟨start?, _, read⟩ := bind_eq_ok_iff.mp read
    cases start? with
    | none => exact .inl (pure_eq_ok_iff.mp read).symm
    | some start =>
      obtain ⟨code, code_read, read⟩ := bind_eq_ok_iff.mp read
      split at read
      · next bare found =>
        obtain rfl := pure_eq_ok_iff.mp read
        exact .inr (.inl ⟨start, code, code_read, found⟩)
      · obtain ⟨signature?, _, read⟩ := bind_eq_ok_iff.mp read
        obtain rfl := pure_eq_ok_iff.mp read
        cases signature? with
        | none => exact .inl rfl
        | some signature => exact .inr (.inr ⟨signature, rfl⟩)

theorem Signature.mem_signatureKinds {grammar : Grammar} {doc : Document} {line : Int} {kind : Kind}
    {given : List Text} (read : parameters grammar doc line kind = .ok given) (some_name : given ≠ []) :
    kind ∈ grammar.signatureKinds := by
  unfold parameters at read
  split at read
  · exact absurd (pure_eq_ok_iff.mp read).symm some_name
  · next applies => exact Decidable.not_not.mp fun refused => applies (.inl refused)

theorem Signature.exists_segment {grammar : Grammar} {signature name : Text}
    (member : name ∈ names grammar signature) : ∃ segment, name = grammar.parameterName segment := by
  unfold names at member
  split at member
  · obtain ⟨member, _⟩ := List.mem_filter.mp member
    obtain ⟨segment, _, rfl⟩ := List.mem_map.mp member
    exact ⟨segment, rfl⟩
  · simp at member

namespace JavaScript

theorem nameChar_of_nameStart {c : Char} (starts : nameStart c = true) : nameChar c = true := by
  simp only [nameStart, Bool.or_eq_true, beq_iff_eq] at starts
  rcases starts with (letter | rfl) | rfl
  · have word : isWord c = true := isWord_of_isAlphanum (by simp [Char.isAlphanum, letter])
    simp [nameChar, word]
  · decide
  · decide

theorem nameChar_of_capture {before after : Pattern} {text found : Text}
    (captured : Pattern.capture before name after text = some found) :
    ∀ c ∈ found, nameChar c = true := by
  obtain ⟨_, first, last, _, _, _, matched, _, rfl⟩ := Pattern.capture_sound captured
  obtain ⟨middle, ⟨c, rest, ahead, starts, rfl⟩, more⟩ := matched
  obtain ⟨taken, cut, each⟩ := Cursor.Steps.taken more
  have whole : first.ahead = (c :: taken) ++ last.ahead := ahead.trans (congrArg (c :: ·) cut)
  rw [Cursor.upTo_eq whole]
  exact List.forall_mem_cons.mpr ⟨nameChar_of_nameStart starts, each⟩

end JavaScript

theorem nameChar_of_mem_parameters {dialect : Dialect} {windows : Windows} {doc : Document} {line : Int}
    {kind : Kind} {given : List Text}
    (read : Signature.parameters (dialect.grammar windows) doc line kind = .ok given) :
    ∀ name ∈ given, ∀ c ∈ name, JavaScript.nameChar c = true := by
  obtain rfl | ⟨start, code, _, bare⟩ | ⟨signature, rfl⟩ := Signature.parameters_cases read
  · simp
  · cases dialect with
    | apex => exact absurd bare (by simp [Dialect.grammar, Apex.grammar])
    | javaScript =>
      obtain ⟨name, captured, rfl⟩ := Option.map_eq_some_iff.mp bare
      exact List.forall_mem_singleton.mpr (JavaScript.nameChar_of_capture captured)
  · intro name member c within
    obtain ⟨segment, rfl⟩ := Signature.exists_segment member
    cases dialect with
    | apex =>
      have kept := (List.mem_filter.mp within).2
      simp only [Bool.or_eq_true, beq_iff_eq] at kept
      rcases kept with letter | rfl
      · simp [JavaScript.nameChar, isWord_of_isAlphanum letter]
      · decide
    | javaScript => exact (List.mem_filter.mp within).2

end Docblock
