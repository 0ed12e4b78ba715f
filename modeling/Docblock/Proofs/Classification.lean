import Docblock.Grammar.JavaScript
import Docblock.Proofs.Openings
import Docblock.Proofs.Scanning

/-! What lines declare. Comments and annotations count for nothing, and a line of a script that opens with
an asterisk or a slash, or not at all, declares nothing. -/

set_option autoImplicit false

namespace Docblock

theorem Comment.opening?_stripLine (text : Text) :
    (stripLine text).opening? = none ∨ (stripLine text).opening? = text.opening? := by
  unfold stripLine
  induction text with
  | nil => exact .inl rfl
  | cons c rest ih =>
    rw [Text.cutAt]
    split
    · split <;> exact .inl (by decide)
    · rw [Text.opening?_cons, Text.opening?_cons]
      split
      · exact ih
      · exact .inr rfl

theorem Comment.opening?_of_stripLine {text : Text} {c : Char} (opens : (stripLine text).opening? = some c) :
    text.opening? = some c := by
  cases opening?_stripLine text with
  | inl none => simp [none] at opens
  | inr same => exact same ▸ opens

theorem Text.cutAt_subset (text opener : Text) : text.cutAt opener ⊆ text := by
  induction text with
  | nil => exact List.Subset.refl _
  | cons c rest ih =>
    rw [cutAt]
    split
    · split
      · next ends =>
        -- The line feed that is left is the last character of the text.
        have last : '\n' ∈ rest := List.mem_of_getLast? ends
        intro d feed
        exact List.mem_cons_of_mem c (List.mem_singleton.mp feed ▸ last)
      · exact List.nil_subset _
    · exact List.cons_subset_cons c ih

namespace AnnotationName

theorem afterArguments_suffix (text : Text) : afterArguments text <:+ text := by
  unfold afterArguments
  split
  · next inner opened =>
    split
    · next rest closed =>
      have below : ')' :: rest <:+ inner := closed ▸ List.dropWhile_suffix _
      have inside : '(' :: inner <:+ text := opened ▸ List.dropWhile_suffix _
      exact (List.suffix_cons _ rest).trans (below.trans ((List.suffix_cons _ inner).trans inside))
    · exact List.suffix_refl text
  · exact List.suffix_refl text

theorem afterOne?_suffix {name : AnnotationName} {text rest : Text}
    (after : name.afterOne? text = some rest) : rest <:+ text := by
  unfold afterOne? at after
  split at after
  · next c behind =>
    split at after
    · obtain rfl := Option.some.inj after
      have arguments := afterArguments_suffix (behind.dropWhile name.other)
      have name_dropped : behind.dropWhile name.other <:+ behind := List.dropWhile_suffix _
      exact (List.dropWhile_suffix _).trans (arguments.trans (name_dropped.trans
        ((List.suffix_cons c behind).trans (List.suffix_cons '@' _))))
    · simp at after
  · simp at after

theorem afterSome_suffix (name : AnnotationName) (count : Nat) (text : Text) :
    name.afterSome count text <:+ text := by
  induction count generalizing text with
  | zero => exact List.suffix_refl text
  | succ count ih =>
    rw [afterSome]
    split
    · next rest after => exact (ih rest).trans (afterOne?_suffix after)
    · exact List.suffix_refl text

theorem strip_suffix (name : AnnotationName) (text : Text) : name.strip text <:+ text := by
  unfold strip
  split
  · next rest after =>
    exact (afterSome_suffix name _ rest).trans ((afterOne?_suffix after).trans (List.dropWhile_suffix _))
  · exact List.suffix_refl text

theorem strip_of_opening? {name : AnnotationName} {text : Text}
    (other : text.opening? ≠ some '@') : name.strip text = text := by
  have no_annotation : name.afterOne? text.trimLeft = none := by
    unfold afterOne?
    split
    · next cut => exact absurd (by simp [Text.opening?, cut]) other
    · rfl
  simp [strip, no_annotation]

end AnnotationName

namespace Document

theorem line_within {doc : Document} {number : Int} {text : Text} (read : doc.line number = .ok text) :
    0 ≤ number ∧ number < doc.count := by
  obtain ⟨above, found⟩ := line_eq_ok_iff.mp read
  have below := (List.getElem?_eq_some_iff.mp found).1
  refine ⟨above, ?_⟩
  unfold count
  omega

theorem exists_line {doc : Document} {number : Int} (above : 0 ≤ number)
    (below : number < doc.count) : ∃ text, doc.line number = .ok text := by
  unfold count at below
  have within : number.toNat < doc.lines.length := by omega
  exact ⟨doc.lines[number.toNat], line_eq_ok_iff.mpr ⟨above, List.getElem?_eq_getElem within⟩⟩

-- What is made of a line that the document has can be made.
theorem bind_line_ok {α : Type} {doc : Document} {number : Int} {next : Text → Except OutOfRange α}
    (above : 0 ≤ number) (below : number < doc.count) (goes_on : ∀ text, ∃ value, next text = .ok value) :
    ∃ value, (doc.line number >>= next) = .ok value :=
  bind_ok (exists_line above below) fun text _ => goes_on text

theorem lines_filled {doc : Document} {number : Int} (above : 0 ≤ number) (below : number < doc.count) :
    doc.lines.isEmpty = false := by
  rw [List.isEmpty_eq_false_iff, ← List.length_pos_iff]
  unfold count at below
  omega

theorem clamp_eq_self {doc : Document} {number : Int} (above : 0 ≤ number) (below : number < doc.count) :
    doc.clamp number = number := by
  unfold clamp
  omega

theorem mem_of_line {doc : Document} {number : Int} {text : Text} (read : doc.line number = .ok text) :
    text ∈ doc.lines :=
  List.mem_of_getElem? (line_eq_ok_iff.mp read).2

end Document

namespace Grammar

def code (grammar : Grammar) (text : Text) : Text :=
  grammar.annotationName.strip (Comment.stripLine text)

theorem code_of_opening? {grammar : Grammar} {text : Text} (other : text.opening? ≠ some '@') :
    grammar.code text = Comment.stripLine text :=
  AnnotationName.strip_of_opening? fun opens => other (Comment.opening?_of_stripLine opens)

theorem code_blank {grammar : Grammar} {text : Text} (blank : text.blank = true) :
    (grammar.code text).blank = true := by
  have no_opening : text.opening? = none := Text.opening?_eq_none_iff.mpr blank
  rw [code_of_opening? (by simp [no_opening]), ← Text.opening?_eq_none_iff, Option.eq_none_iff_forall_ne_some]
  intro c opens
  simp [Comment.opening?_of_stripLine opens] at no_opening

theorem declarationText_eq_ok_iff {grammar : Grammar} {doc : Document} {line : Int} {text : Text} :
    grammar.declarationText doc line = .ok text ↔
      ∃ whole, doc.line line = .ok whole ∧ grammar.code whole = text := by
  simp only [declarationText, bind_eq_ok_iff, pure_eq_ok_iff, code]

theorem kindAt_eq_some_iff {grammar : Grammar} {doc : Document} {line : Int} {kind : Kind} :
    grammar.kindAt doc line = .ok (some kind) ↔
      ∃ text, doc.line line = .ok text ∧ (grammar.code text).blank = false ∧
        firstKind? doc line (grammar.code text) grammar.rules = .ok (some kind) := by
  simp only [kindAt, bind_eq_ok_iff, declarationText_eq_ok_iff]
  constructor
  · intro found
    obtain ⟨_, ⟨text, read, rfl⟩, found⟩ := found
    split at found
    · simp at found
    · next filled => exact ⟨text, read, by simpa using filled, found⟩
  · intro found
    obtain ⟨text, read, filled, found⟩ := found
    exact ⟨_, ⟨text, read, rfl⟩, by simpa [filled] using found⟩

theorem kindAt_within {grammar : Grammar} {doc : Document} {line : Int} {kind : Kind}
    (found : grammar.kindAt doc line = .ok (some kind)) : 0 ≤ line ∧ line < doc.count := by
  obtain ⟨_, read, _⟩ := kindAt_eq_some_iff.mp found
  exact Document.line_within read

theorem exists_firing_rule {grammar : Grammar} {doc : Document} {line : Int} {kind : Kind}
    (found : grammar.kindAt doc line = .ok (some kind)) :
    ∃ text, grammar.declarationText doc line = .ok text ∧
      ∃ rule ∈ grammar.rules, rule.kind = kind ∧ rule.fires doc line text = .ok true := by
  obtain ⟨whole, read, _, first⟩ := kindAt_eq_some_iff.mp found
  refine ⟨grammar.code whole, declarationText_eq_ok_iff.mpr ⟨whole, read, rfl⟩, ?_⟩
  generalize grammar.rules = rules at first
  induction rules with
  | nil => simp [firstKind?] at first
  | cons rule rest ih =>
    obtain ⟨fires, tested, first⟩ := bind_eq_ok_iff.mp first
    cases fires with
    | true => exact ⟨rule, List.mem_cons_self, Option.some.inj (pure_eq_ok_iff.mp first), tested⟩
    | false =>
      obtain ⟨other, member, fired⟩ := ih first
      exact ⟨other, List.mem_cons_of_mem rule member, fired⟩

theorem kindAt_of_blank {grammar : Grammar} {doc : Document} {line : Int} {text : Text}
    (read : doc.line line = .ok text) (blank : text.blank = true) : grammar.kindAt doc line = .ok none := by
  have code : grammar.declarationText doc line = .ok (grammar.code text) :=
    declarationText_eq_ok_iff.mpr ⟨text, read, rfl⟩
  unfold kindAt
  rw [code]
  exact if_pos (code_blank blank)

theorem filled_of_kindAt {grammar : Grammar} {doc : Document} {line : Int} {kind : Kind}
    (found : grammar.kindAt doc line = .ok (some kind)) :
    ∃ text, doc.line line = .ok text ∧ text.blank = false ∧
      grammar.bareAnnotationAt doc line = .ok false := by
  obtain ⟨text, read, code_filled, _⟩ := kindAt_eq_some_iff.mp found
  refine ⟨text, read, ?_, ?_⟩
  · cases blank : text.blank with
    | false => rfl
    | true => simp [code_blank blank] at code_filled
  · unfold bareAnnotationAt
    refine bind_eq_ok_iff.mpr ⟨text, read, ?_⟩
    split
    · exact bind_eq_ok_iff.mpr ⟨some kind, found, rfl⟩
    · rfl

-- Where no rule looks at its surroundings, the text alone decides.
theorem firstKind?_eq_find? {rules : List Rule}
    (plain : ∀ rule ∈ rules, ∀ doc line text, rule.surroundings doc line text = .ok true)
    (doc : Document) (line : Int) (text : Text) :
    firstKind? doc line text rules =
      .ok ((rules.find? fun rule => rule.pattern.matchesIn text).map (·.kind)) := by
  induction rules with
  | nil => rfl
  | cons rule rest ih =>
    have below := ih fun other member => plain other (List.mem_cons_of_mem rule member)
    have here := plain rule List.mem_cons_self doc line text
    rw [firstKind?, Rule.fires, List.find?_cons]
    cases rule.pattern.matchesIn text with
    | true => simp [here, bind, Except.bind, pure, Except.pure]
    | false => simpa [bind, Except.bind] using below

end Grammar

/-- The lines that declare something, in their order, with the kinds that they declare. -/
def Document.declarations (grammar : Grammar) (doc : Document) : List (Text × Kind) :=
  (List.range doc.count).filterMap fun i : Nat =>
    match doc.line i, grammar.kindAt doc i with
    | .ok text, .ok (some kind) => some (text, kind)
    | _, _ => none

theorem filterMap_range_length {α β : Type} (f : α → Option β) (rows : List α) :
    (List.range rows.length).filterMap (fun i => rows[i]?.bind f) = rows.filterMap f := by
  induction rows with
  | nil => rfl
  | cons row rest ih =>
    simp [List.range_succ_eq_map, List.filterMap_cons, List.filterMap_map, ih]

namespace JavaScript

def kindOf (text : Text) : Option Kind :=
  let code := (grammar {}).code text
  if code.blank then none else (rules.find? fun rule => rule.pattern.matchesIn code).map (·.kind)

theorem kindAt_eq (windows : Windows) (doc : Document) (line : Int) :
    (grammar windows).kindAt doc line = (doc.line line).map kindOf := by
  have plain : ∀ rule ∈ rules, ∀ doc line text, rule.surroundings doc line text = .ok true := by
    simp [rules]
  have decided := Grammar.firstKind?_eq_find? plain
  cases read : doc.line line with
  | error error => simp [Grammar.kindAt, Grammar.declarationText, read, bind, Except.bind, Except.map]
  | ok text =>
    have found : (grammar windows).kindAt doc line =
        if ((grammar windows).code text).blank then .ok none
        else Grammar.firstKind? doc line ((grammar windows).code text) rules := by
      unfold Grammar.kindAt Grammar.declarationText
      rw [read]
      rfl
    rw [found, decided]
    simp only [Except.map, kindOf]
    split <;> simp_all [Grammar.code, grammar]

open Pattern in
/-- No rule matches a text that opens with an asterisk, a slash or an annotation. -/
theorem rules_open {rule : Rule} (member : rule ∈ rules) {text : Text}
    (matched : rule.pattern.matchesIn text = true) :
    ∃ c, text.opening? = some c ∧ c ≠ '*' ∧ c ≠ '/' ∧ c ≠ '@' := by
  -- All rules are tied to the start and pass over blanks first; what comes then is looked up.
  have shaped : ∃ rest, rule.pattern.flat = start :: blanks :: rest ∧ (row rest).nullable = false ∧
      (('*' :: '/' :: '@' :: blankChars).all fun c => !(row rest).firsts c) = true := by
    simp only [rules, List.mem_cons, List.not_mem_nil, or_false] at member
    rcases member with rfl | rfl | rfl | rfl | rfl | rfl | rfl | rfl <;>
      exact ⟨_, rfl, rfl, by decide +kernel⟩
  obtain ⟨rest, shape, takes, refused⟩ := shaped
  have refused : ∀ c ∈ '*' :: '/' :: '@' :: blankChars, (row rest).firsts c = false := by
    simpa using refused
  have no_blank (c : Char) (blank : isBlank c = true) : (row rest).firsts c = false :=
    refused c (by simp [mem_blankChars blank])
  obtain ⟨c, opens, accepted⟩ := opening?_of_matchesIn shape takes no_blank matched
  have other (d : Char) (member : d ∈ '*' :: '/' :: '@' :: blankChars) : c ≠ d := by
    intro same
    simp [same, refused d member] at accepted
  exact ⟨c, opens, other '*' (by simp), other '/' (by simp), other '@' (by simp)⟩

theorem kindOf_eq_none {text : Text} (inert : ∀ c, text.opening? = some c → c = '*' ∨ c = '/') :
    kindOf text = none := by
  have code_eq : (grammar {}).code text = Comment.stripLine text :=
    Grammar.code_of_opening? fun opens => by simpa using inert '@' opens
  have unmatched : rules.find? (fun rule => rule.pattern.matchesIn (Comment.stripLine text)) = none := by
    apply List.find?_eq_none.mpr
    intro rule member matched
    obtain ⟨c, opens, no_star, no_slash, _⟩ := rules_open member matched
    exact (inert c (Comment.opening?_of_stripLine opens)).elim no_star no_slash
  simp [kindOf, code_eq, unmatched]

theorem declarations_eq (windows : Windows) (doc : Document) :
    doc.declarations (grammar windows) =
      doc.lines.filterMap fun text => (kindOf text).map fun kind => (text, kind) := by
  rw [← filterMap_range_length, Document.declarations, Document.count]
  congr 1
  funext i
  rw [kindAt_eq]
  cases found : doc.lines[i]? with
  | none =>
    have unread : doc.line i = .error ⟨i, doc.count⟩ := by simp [Document.line, found]
    simp [unread]
  | some text =>
    have read : doc.line i = .ok text := Document.line_eq_ok_iff.mpr ⟨by omega, by simpa using found⟩
    cases decided : kindOf text <;> simp [read, Except.map, decided]

end JavaScript

end Docblock
