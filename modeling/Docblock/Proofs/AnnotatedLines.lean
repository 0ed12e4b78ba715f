import Docblock.Proofs.Rewording
import Docblock.Proofs.SignatureLines
import Docblock.Proofs.VariableTypes

/-! Annotations in front of a declaration on its own line. The arguments of an annotation end at the first parenthesis
that closes, so that the declaration is reached exactly if no annotation has parentheses in its arguments. Annotations
without them leave what the line declares as it is. In Apex they must not speak of a class, an interface or an enum,
as the walks for the class and the enum around a line do not pass over annotations. -/

set_option autoImplicit false

namespace Docblock

open scoped Text

/-! ## Parentheses that close -/

def Text.surplus (text : Text) : Int := text.count ')' - text.count '('

namespace Text
variable {text : Text}

theorem surplus_append (front tail : Text) : surplus (front ++ tail) = surplus front + surplus tail := by
  simp only [surplus, List.count_append]
  omega

theorem surplus_cons (c : Char) (rest : Text) : surplus (c :: rest) = surplus [c] + surplus rest :=
  surplus_append [c] rest

theorem surplus_of_parenFree (free : Signature.ParenFree text) : surplus text = 0 := by
  simp [surplus, free.balanced.1]

theorem surplus_dropWhile {accepts : Char → Bool} (plain : accepts '(' = false ∧ accepts ')' = false) (text : Text) :
    surplus (text.dropWhile accepts) = surplus text := by
  have taken_free : Signature.ParenFree (text.takeWhile accepts) := by
    intro c within
    have accepted := List.mem_takeWhile_imp within
    constructor <;> rintro rfl <;> simp [plain] at accepted
  conv_rhs => rw [← List.takeWhile_append_dropWhile (p := accepts) (l := text)]
  rw [surplus_append, surplus_of_parenFree taken_free, Int.zero_add]

theorem surplus_trimLeft (text : Text) : text.trimLeft.surplus = text.surplus :=
  surplus_dropWhile (by decide) text

end Text

namespace AnnotationName
variable {names : AnnotationName} {text rest : Text}

/-- The names are made of characters of names. -/
def Plain (names : AnnotationName) : Prop :=
  ∀ c, names.first c = true ∨ names.other c = true → JavaScript.nameChar c = true

theorem Plain.refuses (plain : names.Plain) {c : Char} (other : JavaScript.nameChar c = false) :
    names.first c = false ∧ names.other c = false := by
  constructor <;> rw [← Bool.not_eq_true] <;> intro accepted
  · simp [plain c (.inl accepted)] at other
  · simp [plain c (.inr accepted)] at other

theorem surplus_afterArguments (text : Text) : text.surplus ≤ (afterArguments text).surplus := by
  unfold afterArguments
  split
  · next inner opened =>
    split
    · next rest closed =>
      have inner_eq : inner = inner.takeWhile (· != ')') ++ ')' :: rest := by
        rw [← closed, List.takeWhile_append_dropWhile]
      have none_closes : (inner.takeWhile (· != ')')).count ')' = 0 :=
        List.count_eq_zero.mpr fun within => by simpa using List.mem_takeWhile_imp within
      have none_opens : Text.surplus (inner.takeWhile (· != ')')) ≤ 0 := by
        rw [Text.surplus, none_closes]
        omega
      have marks : Text.surplus ['('] = -1 ∧ Text.surplus [')'] = 1 := by decide
      rw [← Text.surplus_trimLeft, opened, inner_eq, Text.surplus_cons '(', Text.surplus_append, Text.surplus_cons ')']
      omega
    · exact Int.le_refl _
  · exact Int.le_refl _

theorem surplus_afterOne? (plain : names.Plain) (after : names.afterOne? text = some rest) :
    text.surplus ≤ rest.surplus := by
  unfold afterOne? at after
  split at after
  · next c behind =>
    split at after
    · next starts =>
      obtain rfl := Option.some.inj after
      have no_paren : c ≠ '(' ∧ c ≠ ')' := by
        have named := plain c (.inl starts)
        constructor <;> rintro rfl <;> exact absurd named (by decide)
      have opening_free : Signature.ParenFree ['@', c] := by simpa [Signature.ParenFree] using no_paren
      have name_plain : names.other '(' = false ∧ names.other ')' = false :=
        ⟨(plain.refuses (by decide)).2, (plain.refuses (by decide)).2⟩
      calc Text.surplus ('@' :: c :: behind) = Text.surplus ['@', c] + Text.surplus behind :=
          Text.surplus_append ['@', c] behind
        _ = Text.surplus (behind.dropWhile names.other) := by
          rw [Text.surplus_of_parenFree opening_free, Int.zero_add, Text.surplus_dropWhile name_plain]
        _ ≤ (afterArguments (behind.dropWhile names.other)).surplus := surplus_afterArguments _
        _ = _ := (Text.surplus_trimLeft _).symm
    · simp at after
  · simp at after

theorem surplus_afterSome (plain : names.Plain) (count : Nat) (text : Text) :
    text.surplus ≤ (names.afterSome count text).surplus := by
  induction count generalizing text with
  | zero => exact Int.le_refl _
  | succ count ih =>
    rw [afterSome]
    split
    · next rest after => exact Int.le_trans (surplus_afterOne? plain after) (ih rest)
    · exact Int.le_refl _

theorem afterSome_ne (plain : names.Plain) (more : text.surplus < rest.surplus) (count : Nat) :
    names.afterSome count rest ≠ text := by
  rintro rfl
  exact Int.not_lt.mpr (surplus_afterSome plain count rest) more

end AnnotationName

/-- An annotation with arguments in parentheses. -/
structure AnnotationCall where
  name : Text
  arguments : Text

namespace AnnotationCall

def text (call : AnnotationCall) : Text :=
  '@' :: (call.name ++ '(' :: (call.arguments ++ [')', ' ']))

/-- The annotations as they stand in front of a declaration. -/
def written (run : List AnnotationCall) : Text := run.flatMap text

/-- An annotation with a name as the dialect reads it, with arguments in which all parentheses are closed and no line
comment starts. -/
structure WellFormed (names : AnnotationName) (call : AnnotationCall) : Prop where
  opens : call.name.head?.any names.first = true
  goesOn : ∀ c ∈ call.name.tail, names.other c = true
  balanced : Signature.Balanced call.arguments
  free : Comment.Free call.arguments

variable {names : AnnotationName} {call : AnnotationCall} {run : List AnnotationCall} {tail near far : Text}

theorem WellFormed.named (formed : WellFormed names call) :
    ∃ c rest, call.name = c :: rest ∧ names.first c = true ∧ ∀ d ∈ rest, names.other d = true := by
  have opens := formed.opens
  have others := formed.goesOn
  cases cut : call.name with
  | nil => simp [cut] at opens
  | cons c rest =>
    rw [cut] at opens others
    exact ⟨c, rest, rfl, opens, others⟩

theorem WellFormed.nameChar (formed : WellFormed names call) (plain : names.Plain) :
    ∀ c ∈ call.name, JavaScript.nameChar c = true := by
  obtain ⟨c, rest, name_eq, starts, each⟩ := formed.named
  rw [name_eq]
  exact List.forall_mem_cons.mpr ⟨plain c (.inl starts), fun d within => plain d (.inr (each d within))⟩

theorem WellFormed.surplus_text (formed : WellFormed names call) (plain : names.Plain) :
    call.text.surplus = 0 := by
  have name_free : Signature.ParenFree call.name := by
    intro c within
    have named := formed.nameChar plain c within
    constructor <;> rintro rfl <;> exact absurd named (by decide)
  have text_eq : call.text = ['@'] ++ call.name ++ ['('] ++ call.arguments ++ [')', ' '] := by
    simp [text]
  simp only [text_eq, Text.surplus_append, Text.surplus_of_parenFree name_free]
  simp [Text.surplus, formed.balanced.1]

theorem WellFormed.afterOne?_text (formed : WellFormed names call) (plain : names.Plain)
    (cut : call.arguments ++ [')', ' '] ++ tail = near ++ ')' :: far) (first : ')' ∉ near) :
    names.afterOne? (call.text ++ tail) = some far.trimLeft := by
  obtain ⟨c, rest, name_eq, starts, each⟩ := formed.named
  have text_eq : call.text ++ tail = '@' :: c :: (rest ++ '(' :: (near ++ ')' :: far)) := by
    rw [← cut]
    simp [text, name_eq]
  have paren_refused : names.other '(' = false := (plain.refuses (by decide)).2
  have no_close : ∀ d ∈ near, (d != ')') = true := by
    intro d within
    simpa using fun same : d = ')' => first (same ▸ within)
  have name_read : (rest ++ '(' :: (near ++ ')' :: far)).dropWhile names.other = '(' :: (near ++ ')' :: far) := by
    rw [List.dropWhile_append_of_pos each, List.dropWhile_cons_of_neg (by simp [paren_refused])]
  have arguments_read : AnnotationName.afterArguments ('(' :: (near ++ ')' :: far)) = far := by
    have opened : Text.trimLeft ('(' :: (near ++ ')' :: far)) = '(' :: (near ++ ')' :: far) :=
      List.dropWhile_cons_of_neg (by decide)
    have closed : (near ++ ')' :: far).dropWhile (· != ')') = ')' :: far := by
      rw [List.dropWhile_append_of_pos no_close, List.dropWhile_cons_of_neg (by simp)]
    simp only [AnnotationName.afterArguments, opened, closed]
  rw [text_eq, AnnotationName.afterOne?, if_pos starts, name_read, arguments_read]

theorem WellFormed.afterOne?_of_parenFree (formed : WellFormed names call) (plain : names.Plain)
    (free : Signature.ParenFree call.arguments) (filled : tail.trimLeft = tail) :
    names.afterOne? (call.text ++ tail) = some tail := by
  have cut : call.arguments ++ [')', ' '] ++ tail = call.arguments ++ ')' :: ' ' :: tail := by simp
  have first : ')' ∉ call.arguments := fun within => (free _ within).2 rfl
  rw [formed.afterOne?_text plain cut first, Text.trimLeft, List.dropWhile_cons_of_pos (by decide)]
  exact congrArg some filled

/-- Behind the first parenthesis that closes inside the arguments more parentheses close than behind the
annotation. -/
theorem WellFormed.afterOne?_of_parens (formed : WellFormed names call) (plain : names.Plain)
    (parens : ¬ Signature.ParenFree call.arguments) (tail : Text) :
    ∃ rest, names.afterOne? (call.text ++ tail) = some rest ∧ tail.surplus < rest.surplus := by
  have same_count := formed.balanced.1
  have closes : ')' ∈ call.arguments := by
    by_contra none_closes
    refine parens fun c within => ⟨?_, fun same => none_closes (same ▸ within)⟩
    rintro rfl
    have opened : 0 < call.arguments.count '(' := List.count_pos_iff.mpr within
    rw [same_count, List.count_eq_zero.mpr none_closes] at opened
    exact Nat.lt_irrefl 0 opened
  obtain ⟨near, far, arguments_eq, first⟩ := List.eq_append_cons_of_mem closes
  have near_opens : 1 ≤ near.count '(' := by
    have bound := formed.balanced.2 (near ++ [')']) (by simp [arguments_eq])
    simp only [List.count_append, List.count_eq_zero.mpr first] at bound
    simpa using bound
  have cut : call.arguments ++ [')', ' '] ++ tail = near ++ ')' :: (far ++ [')', ' '] ++ tail) := by
    simp [arguments_eq]
  have near_surplus : Text.surplus near < 0 := by
    rw [Text.surplus, List.count_eq_zero.mpr first]
    omega
  have arguments_surplus : Text.surplus near + (Text.surplus [')'] + Text.surplus far) = 0 := by
    rw [← Text.surplus_cons, ← Text.surplus_append, ← arguments_eq, Text.surplus, same_count, Int.sub_self]
  have closing : Text.surplus [')'] = 1 ∧ Text.surplus [')', ' '] = 1 := by decide
  refine ⟨_, formed.afterOne?_text plain cut first, ?_⟩
  rw [Text.surplus_trimLeft, Text.surplus_append, Text.surplus_append]
  omega

/-! ## The declaration behind them -/

/-- A word starts at the very start of the text. -/
def StartsWord (text : Text) : Prop := text.head?.any isWord = true

variable {text : Text}

theorem trimLeft_written (starts : StartsWord text) (run : List AnnotationCall) :
    (written run ++ text).trimLeft = written run ++ text := by
  have unblank : ∀ c, isWord c = true → isBlank c = false := fun c word =>
    JavaScript.isBlank_of_nameChar (by simp [JavaScript.nameChar, word])
  cases run with
  | nil =>
    cases text with
    | nil => simp [StartsWord] at starts
    | cons c rest => exact List.dropWhile_cons_of_neg (by simp [unblank c (by simpa [StartsWord] using starts)])
  | cons call run => exact List.dropWhile_cons_of_neg (by decide)

theorem afterOne?_of_startsWord (starts : StartsWord text) : names.afterOne? text = none := by
  cases text with
  | nil => simp [StartsWord] at starts
  | cons c rest =>
    have no_at : c ≠ '@' := by
      rintro rfl
      simp [StartsWord, (by decide : isWord '@' = false)] at starts
    unfold AnnotationName.afterOne?
    split
    · next same => exact absurd (List.cons_eq_cons.mp same).1 no_at
    · rfl

theorem written_cons : written (call :: run) ++ text = call.text ++ (written run ++ text) :=
  List.append_assoc _ _ _

theorem surplus_written (plain : names.Plain) (formed : ∀ call ∈ run, WellFormed names call) :
    (written run ++ text).surplus = text.surplus := by
  induction run with
  | nil => rfl
  | cons call run ih =>
    obtain ⟨here, below⟩ := List.forall_mem_cons.mp formed
    rw [written_cons, Text.surplus_append, here.surplus_text plain, Int.zero_add, ih below]

theorem afterSome_written (plain : names.Plain) (formed : ∀ call ∈ run, WellFormed names call)
    (starts : StartsWord text) {count : Nat} (enough : run.length ≤ count) :
    names.afterSome count (written run ++ text) = text ↔
      ∀ call ∈ run, Signature.ParenFree call.arguments := by
  induction run generalizing count with
  | nil =>
    have kept : names.afterSome count text = text := by
      cases count <;> simp [AnnotationName.afterSome, afterOne?_of_startsWord starts]
    simp [written, kept]
  | cons call run ih =>
    obtain ⟨here, below⟩ := List.forall_mem_cons.mp formed
    obtain ⟨count, rfl⟩ : ∃ fewer, count = fewer + 1 := ⟨count - 1, by simp at enough; omega⟩
    have enough_below : run.length ≤ count := by simpa using enough
    rw [written_cons, AnnotationName.afterSome, List.forall_mem_cons]
    by_cases free : Signature.ParenFree call.arguments
    · simp only [here.afterOne?_of_parenFree plain free (trimLeft_written starts run), ih below enough_below, free,
        true_and]
    · obtain ⟨rest, after, more⟩ := here.afterOne?_of_parens plain free (written run ++ text)
      rw [surplus_written plain below] at more
      simpa only [after, free, false_and, iff_false] using AnnotationName.afterSome_ne plain more count

theorem length_le_written (run : List AnnotationCall) (text : Text) : run.length ≤ (written run ++ text).length := by
  induction run with
  | nil => exact Nat.zero_le _
  | cons call run ih =>
    simp only [written, List.flatMap_cons, List.length_append, List.length_cons, AnnotationCall.text] at ih ⊢
    omega

theorem strip_written (plain : names.Plain) (formed : ∀ call ∈ run, WellFormed names call)
    (starts : StartsWord text) :
    names.strip (written run ++ text) = text ↔ ∀ call ∈ run, Signature.ParenFree call.arguments := by
  rw [AnnotationName.strip, trimLeft_written starts run]
  cases run with
  | nil => simp [written, afterOne?_of_startsWord starts]
  | cons call run =>
    obtain ⟨here, below⟩ := List.forall_mem_cons.mp formed
    rw [written_cons, List.forall_mem_cons]
    by_cases free : Signature.ParenFree call.arguments
    · simp only [here.afterOne?_of_parenFree plain free (trimLeft_written starts run), free, true_and]
      exact afterSome_written plain below starts (length_le_written run text)
    · obtain ⟨rest, after, more⟩ := here.afterOne?_of_parens plain free (written run ++ text)
      rw [surplus_written plain below] at more
      simpa only [after, free, false_and, iff_false] using AnnotationName.afterSome_ne plain more rest.length

/-! ## Code -/

theorem free_written (plain : names.Plain) (formed : ∀ call ∈ run, WellFormed names call) :
    Comment.Free (written run) := by
  induction run with
  | nil => exact .nil
  | cons call run ih =>
    obtain ⟨here, below⟩ := List.forall_mem_cons.mp formed
    have no_slash : '/' ∉ ['@'] ++ call.name ++ ['('] := by
      simpa using fun within => absurd (here.nameChar plain _ within) (by decide)
    have opened : Comment.Free (['@'] ++ call.name ++ ['('] ++ call.arguments) :=
      (Comment.free_of_no_slash no_slash).append here.free (.inl (by rw [List.getLast?_concat]; decide))
    have closed : Comment.Free ([')', ' '] ++ written run) :=
      (Comment.free_of_no_slash (by decide)).append (ih below) (.inl (by decide))
    have whole := opened.append closed (.inr (by simp))
    simpa [written, AnnotationCall.text] using whole

theorem written_ends (run : List AnnotationCall) : run = [] ∨ ∃ body, written run = body ++ [')', ' '] := by
  rcases List.eq_nil_or_concat run with rfl | ⟨front, last, rfl⟩
  · exact .inl rfl
  · exact .inr ⟨written front ++ '@' :: (last.name ++ '(' :: last.arguments), by simp [written, AnnotationCall.text]⟩

theorem stripLine_written (plain : names.Plain) (formed : ∀ call ∈ run, WellFormed names call) :
    Comment.stripLine (written run ++ text) = written run ++ Comment.stripLine text := by
  refine Comment.stripLine_append (free_written plain formed) (.inl ?_)
  rcases written_ends run with rfl | ⟨body, ends⟩
  · simp [written]
  · simp [ends]

theorem StartsWord.stripLine (starts : StartsWord text) : StartsWord (Comment.stripLine text) := by
  cases text with
  | nil => exact starts
  | cons c rest =>
    have no_slash : c ≠ '/' := by
      rintro rfl
      simp [StartsWord, (by decide : isWord '/' = false)] at starts
    have free : Comment.Free [c] := Comment.free_of_no_slash (by simpa using no_slash.symm)
    have code_eq : Comment.stripLine ([c] ++ rest) = [c] ++ Comment.stripLine rest :=
      Comment.stripLine_append free (.inl (by simpa using no_slash))
    rw [List.singleton_append] at code_eq
    rw [code_eq]
    exact starts

theorem code_written {grammar : Grammar} (plain : grammar.annotationName.Plain)
    (formed : ∀ call ∈ run, WellFormed grammar.annotationName call)
    (free : ∀ call ∈ run, Signature.ParenFree call.arguments) (starts : StartsWord text) :
    grammar.code (written run ++ text) = grammar.code text := by
  have alone : grammar.annotationName.strip (written [] ++ Comment.stripLine text) = Comment.stripLine text :=
    (strip_written plain (by simp) starts.stripLine).mpr (by simp)
  rw [Grammar.code, Grammar.code, stripLine_written plain formed,
    (strip_written plain formed starts.stripLine).mpr free]
  exact alone.symm

end AnnotationCall

theorem Dialect.plain_annotationName (dialect : Dialect) (windows : Windows) :
    (dialect.grammar windows).annotationName.Plain := by
  rintro c accepted
  cases dialect with
  | apex =>
    have word : isWord c = true := accepted.elim id id
    simp [JavaScript.nameChar, word]
  | javaScript => exact accepted.elim JavaScript.nameChar_of_nameStart id

namespace Apex
open AnnotationCall Pattern

variable {names : AnnotationName} {run : List AnnotationCall} {body tail text : Text}

theorem className?_drop (unnamed : className? (body ++ [')', ' ']) = none) :
    className? (body ++ [')', ' '] ++ tail) = className? tail :=
  capture_drop (by decide) (by decide) (by decide) (by decide)
    (fun _ => run_edge_of_blank (word "class" ++ space) (by decide)) unnamed

theorem classOrInterface_drop (unmatched : classOrInterface.matchesIn (body ++ [')', ' ']) = false) :
    classOrInterface.matchesIn (body ++ [')', ' '] ++ tail) = classOrInterface.matchesIn tail :=
  matchesIn_drop (by decide) (by decide) (by decide) (by decide)
    (run_edge_of_blank (oneOf [word "class", word "interface"] ++ edge) (by decide)) unmatched

theorem enumHeader_drop (unmatched : enumHeader.matchesIn (body ++ [')', ' ']) = false) :
    enumHeader.matchesIn (body ++ [')', ' '] ++ tail) = enumHeader.matchesIn tail :=
  matchesIn_drop (by decide) (by decide) (by decide) (by decide)
    (run_edge_of_blank (word "enum" ++ space ++ name) (by decide)) unmatched

/-- Neither the walk for a class nor the one for an enum stops at the annotations. -/
def Unnoticed (run : List AnnotationCall) : Prop := className? (written run) = none ∧ header? (written run) = none

instance (run : List AnnotationCall) : Decidable (Unnoticed run) := inferInstanceAs (Decidable (_ ∧ _))

theorem header?_eq_none_iff : header? text = none ↔ classOrInterface.matchesIn (Comment.stripLine text) = false ∧
    enumHeader.matchesIn (Comment.stripLine text) = false := by
  unfold header?
  dsimp only
  split
  · next found => simp [found]
  · next unfound =>
    rw [Bool.not_eq_true] at unfound
    simp [unfound]

theorem Unnoticed.walks_alike (unnoticed : Unnoticed run) (plain : names.Plain)
    (formed : ∀ call ∈ run, WellFormed names call) (text : Text) :
    className? (Comment.stripLine (written run ++ text)) = className? (Comment.stripLine text) ∧
      header? (written run ++ text) = header? text := by
  have run_code : Comment.stripLine (written run) = written run :=
    Comment.stripLine_eq_self (free_written plain formed)
  obtain ⟨unnamed, no_header⟩ := unnoticed
  obtain ⟨no_class, no_enum⟩ := header?_eq_none_iff.mp no_header
  rw [run_code] at no_class no_enum
  rw [header?, header?, stripLine_written plain formed]
  rcases written_ends run with rfl | ⟨body, ends⟩
  · exact ⟨rfl, rfl⟩
  · rw [ends] at unnamed no_class no_enum ⊢
    exact ⟨className?_drop unnamed, by rw [classOrInterface_drop no_class, enumHeader_drop no_enum]⟩

end Apex

/-! ## Lines with annotations -/

section
variable {doc : Document} {place : Nat} {old new : Text}

theorem Document.bind_line_reword {α : Type} {next : Text → Except OutOfRange α}
    (stands : doc.lines[place]? = some old) (same : next old = next new) (line : Int) :
    ((doc.reword place new).line line >>= next) = (doc.line line >>= next) := by
  by_cases here : line = place
  · subst here
    rw [line_reword stands, line_of_getElem? stands]
    exact same.symm
  · rw [line_reword_of_ne here]

theorem Grammar.declarationText_reword {grammar : Grammar} (stands : doc.lines[place]? = some old)
    (same : grammar.code old = grammar.code new) (line : Int) :
    grammar.declarationText (doc.reword place new) line = grammar.declarationText doc line := by
  refine Document.bind_line_reword stands ?_ line
  exact congrArg Except.ok same

theorem Signature.collect_congr {grammar : Grammar} {other : Document}
    (texts : ∀ line, grammar.declarationText other line = grammar.declarationText doc line) (count : Nat) (line : Int)
    (opened : Bool) : collect grammar other count line opened = collect grammar doc count line opened := by
  induction count generalizing line opened with
  | zero => rfl
  | succ count ih => simp only [collect, texts, ih]

theorem Signature.parameters_congr {grammar : Grammar} {other : Document} (counts : other.count = doc.count)
    (texts : ∀ line, grammar.declarationText other line = grammar.declarationText doc line) {line : Int} {kind : Kind}
    (starts : grammar.signatureStart other line kind = grammar.signatureStart doc line kind) :
    parameters grammar other line kind = parameters grammar doc line kind := by
  simp only [parameters, counts, starts, texts, reassemble, collect_congr texts]

theorem Apex.nearestLike_reword (stands : doc.lines[place]? = some old)
    (same : (grammar {}).code old = (grammar {}).code new) (shape : Pattern) (window line : Int) :
    nearestLike shape window (doc.reword place new) line = nearestLike shape window doc line := by
  have hits (i : Int) : (do
      let text := annotationName.strip (Comment.stripLine (← (doc.reword place new).line i))
      return if shape.matchesIn text then some i else none) = (do
      let text := annotationName.strip (Comment.stripLine (← doc.line i))
      return if shape.matchesIn text then some i else none) :=
    Document.bind_line_reword stands
      (congrArg (fun code => pure (if shape.matchesIn code then some i else none)) same) i
  simp only [nearestLike, Document.count_reword, hits]

theorem Apex.signatureStart_reword {windows : Windows} (stands : doc.lines[place]? = some old)
    (same : (grammar {}).code old = (grammar {}).code new) {line : Int} {kind : Kind}
    (classes : enclosingName? windows (doc.reword place new) line = enclosingName? windows doc line) :
    signatureStart windows (doc.reword place new) line kind = signatureStart windows doc line kind := by
  simp only [signatureStart, classes, nearestLike_reword stands same]

end

namespace AnnotationCall
variable {dialect : Dialect} {windows : Windows} {doc : Document} {place : Nat} {run : List AnnotationCall}
  {text : Text}

theorem reads_alike (formed : ∀ call ∈ run, WellFormed (dialect.grammar windows).annotationName call)
    (free : ∀ call ∈ run, Signature.ParenFree call.arguments) (starts : StartsWord text)
    (unnoticed : dialect = .javaScript ∨ Apex.Unnoticed run) (stands : doc.lines[place]? = some (written run ++ text))
    (line : Int) :
    (dialect.grammar windows).kindAt (doc.reword place text) line = (dialect.grammar windows).kindAt doc line ∧
      ∀ kind, Signature.parameters (dialect.grammar windows) (doc.reword place text) line kind =
        Signature.parameters (dialect.grammar windows) doc line kind := by
  have plain := dialect.plain_annotationName windows
  have same : (dialect.grammar windows).code (written run ++ text) = (dialect.grammar windows).code text :=
    code_written plain formed free starts
  have texts := Grammar.declarationText_reword stands same
  cases dialect with
  | apex =>
    obtain ⟨class_alike, header_alike⟩ := (unnoticed.resolve_left (by simp)).walks_alike plain formed text
    have classes : Apex.enclosingName? windows (doc.reword place text) line = Apex.enclosingName? windows doc line :=
      Grammar.enclosingType?_reword (Apex.grammar windows) stands (.inr (.inr (.inr class_alike)))
    have enums : Apex.insideEnum windows (doc.reword place text) line = Apex.insideEnum windows doc line :=
      Apex.insideEnum_reword windows stands (.inr (.inr (.inr header_alike)))
    refine ⟨Apex.kindAt_congr (texts line) classes enums, fun kind => ?_⟩
    exact Signature.parameters_congr Document.count_reword texts (Apex.signatureStart_reword stands same classes)
  | javaScript =>
    have kinds : JavaScript.kindOf (written run ++ text) = JavaScript.kindOf text := by
      have same : (JavaScript.grammar {}).code (written run ++ text) = (JavaScript.grammar {}).code text := same
      simp only [JavaScript.kindOf, same]
    refine ⟨?_, fun kind => Signature.parameters_congr Document.count_reword texts rfl⟩
    refine (JavaScript.kindAt_eq windows _ line).trans (.trans ?_ (JavaScript.kindAt_eq windows doc line).symm)
    exact (Document.map_line_reword stands kinds line).symm

end AnnotationCall

/-- Annotations in front of a declaration are stripped exactly if none of them has parentheses in its arguments. Then
each line declares what it would without them, with the same parameters, in Apex as long as the walks for a class and
for an enum do not stop at the annotations. -/
theorem Dialect.annotated_line (dialect : Dialect) (windows : Windows) (run : List AnnotationCall) (text : Text)
    (formed : ∀ call ∈ run, call.WellFormed (dialect.grammar windows).annotationName)
    (starts : AnnotationCall.StartsWord text) :
    ((dialect.grammar windows).annotationName.strip (AnnotationCall.written run ++ text) = text ↔
      ∀ call ∈ run, Signature.ParenFree call.arguments) ∧
    ((∀ call ∈ run, Signature.ParenFree call.arguments) →
      dialect = .javaScript ∨ Apex.Unnoticed run →
      ∀ (doc : Document) (place : Nat), doc.lines[place]? = some (AnnotationCall.written run ++ text) → ∀ line : Int,
        (dialect.grammar windows).kindAt (doc.reword place text) line = (dialect.grammar windows).kindAt doc line ∧
        ∀ kind, Signature.parameters (dialect.grammar windows) (doc.reword place text) line kind =
          Signature.parameters (dialect.grammar windows) doc line kind) := by
  refine ⟨AnnotationCall.strip_written (dialect.plain_annotationName windows) formed starts, ?_⟩
  intro free unnoticed doc place stands line
  exact AnnotationCall.reads_alike formed free starts unnoticed stands line

-- Two annotations of Apex, one of them with an argument, and a method of a class.
theorem Dialect.annotated_line_of_method :
    let run : List AnnotationCall := [⟨"AuraEnabled".toList, "cacheable=true".toList⟩, ⟨"TestVisible".toList, []⟩]
    let method : Text := "public void run(String a) \x7b".toList
    let doc : Document := ⟨["class Box \x7b".toList, AnnotationCall.written run ++ method]⟩
    (Apex.grammar {}).annotationName.strip (AnnotationCall.written run ++ method) = method ∧
      (Apex.grammar {}).kindAt doc 1 = .ok (some .method) ∧
      Signature.parameters (Apex.grammar {}) doc 1 .method = .ok ["a".toList] := by
  intro run method doc
  have formed : ∀ call ∈ run, call.WellFormed (Apex.grammar {}).annotationName := by
    refine List.forall_mem_cons.mpr ⟨⟨by decide, by decide, by decide, by decide⟩, List.forall_mem_singleton.mpr ?_⟩
    exact ⟨by decide, by decide, by decide, by decide⟩
  have free : ∀ call ∈ run, Signature.ParenFree call.arguments := by decide
  have starts : AnnotationCall.StartsWord method := by
    unfold AnnotationCall.StartsWord
    decide
  obtain ⟨stripped, alike⟩ := Dialect.annotated_line .apex {} run method formed starts
  obtain ⟨kind_eq, parameters_eq⟩ := alike free (.inr (by decide)) doc 1 rfl 1
  refine ⟨stripped.mpr free, kind_eq.symm.trans ?_, (parameters_eq .method).symm.trans ?_⟩ <;> decide

/-- A call in the arguments of an annotation is left in front of the declaration, which is then lost, in both dialects;
and so is the value of an enum behind an annotation that speaks of a class. -/
theorem Dialect.annotated_line_lost :
    let input : AnnotationCall := ⟨"Input".toList, "load(x)".toList⟩
    let shown : AnnotationCall := ⟨"Shown".toList, "in=class".toList⟩
    let script : Document := ⟨[input.text ++ "name;".toList]⟩
    let enum (row : Text) : Document := ⟨["enum Color \x7b".toList, row]⟩
    Signature.Balanced input.arguments ∧ Signature.ParenFree shown.arguments ∧
      (JavaScript.grammar {}).annotationName.strip (input.text ++ "name;".toList) = ") name;".toList ∧
      (Apex.grammar {}).annotationName.strip (input.text ++ "name;".toList) = ") name;".toList ∧
      (JavaScript.grammar {}).kindAt script 0 = .ok none ∧
      (JavaScript.grammar {}).kindAt (script.reword 0 "name;".toList) 0 = .ok (some .property) ∧
      (Apex.grammar {}).kindAt (enum (shown.text ++ "RED,".toList)) 1 = .ok none ∧
      (Apex.grammar {}).kindAt (enum "RED,".toList) 1 = .ok (some .enumValue) := by
  decide

end Docblock
