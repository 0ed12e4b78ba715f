import Docblock.Http.Service
import Docblock.Proofs.JsonLimits

/-! Faults of templates. A template file that can be read as JSON gives its lines, or an error that callers are told
about. One whose bytes are not UTF-8, or that goes beyond a limit of the JSON reader, makes an error that they are
not told about, and so does a place where the system refuses to look. -/

set_option autoImplicit false

namespace Docblock

namespace Template

/-! ## Snippet files -/

/-- The lines of a body: one string that is cut into lines, or an array of strings. -/
inductive Lines : Json Points → List Points → Prop where
  | text (value : Points) : Lines (.text value) value.proseLines
  | array (rows : List Points) : Lines (.array (rows.map .text)) rows

/-- A snippet file is an object with a body, or else one whose first entry is an object with a body. A body that is
null counts as missing. -/
inductive Snippets : Json Points → List Points → Prop where
  | bare {fields : List (Points × Json Points)} {body : Json Points} {lines : List Points} :
      (Json.object fields).lookup bodyName = some body → Lines body lines → Snippets (.object fields) lines
  | entry {name : Points} {first body : Json Points} {rest : List (Points × Json Points)} {lines : List Points} :
      (∀ other, (Json.object ((name, first) :: rest)).lookup bodyName = some other → other = .null) →
      first.lookup bodyName = some body → Lines body lines → Snippets (.object ((name, first) :: rest)) lines

section
variable {value body : Json Points} {lines : List Points}

theorem textOf?_eq_some_iff {text : Points} : textOf? value = some text ↔ value = .text text := by
  cases value <;> simp [textOf?]

theorem mapM_textOf?_eq_some_iff {items : List (Json Points)} {rows : List Points} :
    items.mapM textOf? = some rows ↔ items = rows.map .text := by
  induction items generalizing rows with
  | nil => cases rows <;> simp
  | cons item rest ih =>
    simp only [List.mapM_cons, Option.bind_eq_bind, Option.bind_eq_some_iff, textOf?_eq_some_iff, ih]
    constructor
    · rintro ⟨text, rfl, more, rfl, same⟩
      obtain rfl := Option.some.inj same
      rfl
    · intro same
      obtain ⟨text, more, rfl, text_eq, rest_eq⟩ := List.map_eq_cons_iff.mp same.symm
      exact ⟨text, text_eq.symm, more, rest_eq.symm, rfl⟩

theorem bodyLines?_eq_some_iff :
    bodyLines? value = some lines ↔ Lines value lines := by
  constructor
  · intro given
    cases value with
    | text value => exact Option.some.inj given ▸ .text value
    | array items => exact mapM_textOf?_eq_some_iff.mp given ▸ .array lines
    | _ => simp [bodyLines?] at given
  · intro given
    cases given with
    | text value => rfl
    | array rows => exact mapM_textOf?_eq_some_iff.mpr rfl

theorem bodyField?_eq_some_iff :
    bodyField? value = some body ↔ value.lookup bodyName = some body ∧ body ≠ .null := by
  unfold bodyField?
  cases value.lookup bodyName with
  | none => simp
  | some other =>
    cases other with
    | null => simp only [Option.some.injEq, reduceCtorEq, false_iff]; rintro ⟨rfl, not_null⟩; exact not_null rfl
    | _ => simp only [Option.some.injEq]; exact ⟨fun same => ⟨same, by simp [← same]⟩, And.left⟩

theorem eq_null_of_bodyField? {other : Json Points} (missing : bodyField? value = none)
    (found : value.lookup bodyName = some other) : other = .null := by
  refine Classical.byContradiction fun not_null => ?_
  simp [bodyField?_eq_some_iff.mpr ⟨found, not_null⟩] at missing

theorem Lines.ne_null (given : Lines value lines) : value ≠ .null := by
  cases given <;> simp

theorem bodyField?_of_lines (found : value.lookup bodyName = some body)
    (given : Lines body lines) : bodyField? value = some body :=
  bodyField?_eq_some_iff.mpr ⟨found, given.ne_null⟩

theorem body?_sound (read : body? value = some lines) : Snippets value lines := by
  cases value with
  | object fields =>
    cases found : bodyField? (.object fields) with
    | some body =>
      have given : bodyLines? body = some lines := by simpa [body?, found] using read
      exact .bare (bodyField?_eq_some_iff.mp found).1 (bodyLines?_eq_some_iff.mp given)
    | none =>
      cases fields with
      | nil => simp [body?, found] at read
      | cons entry rest =>
        obtain ⟨body, field, given⟩ : ∃ body, bodyField? entry.2 = some body ∧ bodyLines? body = some lines := by
          simpa [body?, found, Option.bind_eq_some_iff] using read
        exact .entry (fun _ => eq_null_of_bodyField? found) (bodyField?_eq_some_iff.mp field).1
          (bodyLines?_eq_some_iff.mp given)
  | _ => simp [body?] at read

theorem body?_complete (snippets : Snippets value lines) :
    body? value = some lines := by
  cases snippets with
  | bare found given => simp [body?, bodyField?_of_lines found given, bodyLines?_eq_some_iff.mpr given]
  | @entry name first body rest lines null_only found given =>
    have missing : bodyField? (.object ((name, first) :: rest)) = none := by
      cases other_found : bodyField? (.object ((name, first) :: rest)) with
      | none => rfl
      | some other =>
        obtain ⟨other_found, not_null⟩ := bodyField?_eq_some_iff.mp other_found
        exact absurd (null_only other other_found) not_null
    simp [body?, missing, bodyField?_of_lines found given, bodyLines?_eq_some_iff.mpr given]

theorem body?_eq_some_iff : body? value = some lines ↔ Snippets value lines :=
  ⟨body?_sound, body?_complete⟩

end

/-! ## Loading -/

section
variable {depth : Nat} {content : ByteArray} {text : String}

end

namespace Store
variable {store : Store} {dialect : Dialect} {name : Text}

/-- The file of a template holds the rows, as a body that comes with the library or as a snippet file. -/
inductive Holds (store : Store) (dialect : Dialect) (name : Text) : List Points → Prop where
  | body {lines : List Text} : store.find dialect name = .file (.body lines) →
      Holds store dialect name (lines.map Points.ofText)
  | snippets {content : ByteArray} {text : String} {value : Json Points} {rows : List Points} :
      store.find dialect name = .file (.bytes content) → String.fromUTF8? content = some text →
      Json.read store.limits.depth text.toList = .ok value → Snippets value rows → Holds store dialect name rows

/-- What is wrong with the file of a template: it is no JSON, or no snippet file, or the system keeps it. -/
inductive Faulty (store : Store) (dialect : Dialect) (name : Text) : Defect → Prop where
  | notJson {content : ByteArray} {text : String} {complaint : Json.Complaint} {rest : Text} :
      store.find dialect name = .file (.bytes content) → String.fromUTF8? content = some text →
      Json.read store.limits.depth text.toList = .error (.malformed complaint rest) →
      Faulty store dialect name (.notJson (complaint.wordsAt text.toList rest))
  | noBody {content : ByteArray} {text : String} {value : Json Points} :
      store.find dialect name = .file (.bytes content) → String.fromUTF8? content = some text →
      Json.read store.limits.depth text.toList = .ok value → (∀ rows, ¬ Snippets value rows) →
      Faulty store dialect name .noBody
  | locked {reason : String} : store.find dialect name = .file (.locked reason) →
      Faulty store dialect name (.locked reason)

/-- The errors that a caller is not told about. -/
inductive Untold (store : Store) (dialect : Dialect) (name : Text) : Error → Prop where
  | refused {refusal : Refusal} : store.find dialect name = .refused refusal →
      Untold store dialect name (.refused dialect name refusal)
  | notText {content : ByteArray} : store.find dialect name = .file (.bytes content) →
      String.fromUTF8? content = none → Untold store dialect name .notText
  | tooLong {content : ByteArray} {text : String} {limit : DigitLimit} :
      store.find dialect name = .file (.bytes content) → String.fromUTF8? content = some text →
      Json.read store.limits.depth text.toList = .error (.tooLong limit) → Untold store dialect name (.tooLong limit)
  | tooDeep {content : ByteArray} {text : String} {innermost : Json.Container} :
      store.find dialect name = .file (.bytes content) → String.fromUTF8? content = some text →
      Json.read store.limits.depth text.toList = .error (.tooDeep innermost) →
      Untold store dialect name (.tooDeep innermost)

/-- All that loading a template can come to. -/
inductive Loads (store : Store) (dialect : Dialect) (name : Text) : Except Error (List Points) → Prop where
  | lines {rows : List Points} : store.Holds dialect name rows → Loads store dialect name (.ok rows)
  | missing : store.find dialect name = .nothing → Loads store dialect name (.error (.notFound dialect name))
  | faulty {defect : Defect} : store.Faulty dialect name defect →
      Loads store dialect name (.error (.invalid dialect name defect))
  | untold {error : Error} : store.Untold dialect name error → Loads store dialect name (.error error)

theorem find_of_file? {file : File} (found : store.file? dialect name = some file) :
    store.find dialect name = .file file := by
  unfold file? at found
  split at found
  · next other same => rw [same, Option.some.inj found]
  · simp at found
  · simp at found

theorem loads_bytes {content : ByteArray} (found : store.find dialect name = .file (.bytes content)) :
    store.Loads dialect name (readBytes store.limits dialect name content) := by
  unfold readBytes
  split
  · next undecoded => exact .untold (.notText found undecoded)
  · next text decoded =>
    unfold readText
    split
    · next failed => exact .faulty (.notJson found decoded failed)
    · next failed => exact .untold (.tooLong found decoded failed)
    · next failed => exact .untold (.tooDeep found decoded failed)
    · next value read =>
      split
      · next rows given => exact .lines (.snippets found decoded read (body?_eq_some_iff.mp given))
      · next missing =>
        refine .faulty (.noBody found decoded read fun rows snippets => ?_)
        simp [body?_complete snippets] at missing

theorem loads (store : Store) (dialect : Dialect) (name : Text) :
    store.Loads dialect name (store.load dialect name) := by
  unfold load
  split
  · next found => exact .missing found
  · next found => exact .untold (.refused found)
  · next content found => exact loads_bytes found
  · next lines found => exact .lines (.body found)
  · next reason found => exact .faulty (.locked found)

theorem load_of_bytes {content : ByteArray} {text : String} (found : store.find dialect name = .file (.bytes content))
    (decoded : String.fromUTF8? content = some text) :
    store.load dialect name = readText store.limits dialect name text.toList := by
  simp only [load, found, readBytes, decoded]

theorem Holds.load_eq {rows : List Points} (holds : store.Holds dialect name rows) :
    store.load dialect name = .ok rows := by
  cases holds with
  | body found => simp only [load, found]
  | snippets found decoded read snippets =>
    simp only [load_of_bytes found decoded, readText, read, body?_complete snippets]

theorem Faulty.load_eq {defect : Defect} (faulty : store.Faulty dialect name defect) :
    store.load dialect name = .error (.invalid dialect name defect) := by
  cases faulty with
  | notJson found decoded failed => simp only [load_of_bytes found decoded, readText, failed]
  | @noBody _ _ value found decoded read none_given =>
    have missing : body? value = none :=
      Option.eq_none_iff_forall_ne_some.mpr fun rows given => none_given rows (body?_sound given)
    simp only [load_of_bytes found decoded, readText, read, missing]
  | locked found => simp only [load, found]

theorem Untold.load_eq {error : Error} (untold : store.Untold dialect name error) :
    store.load dialect name = .error error := by
  cases untold with
  | refused found => simp only [load, found]
  | notText found undecoded => simp only [load, found, readBytes, undecoded]
  | tooLong found decoded failed | tooDeep found decoded failed =>
    simp only [load_of_bytes found decoded, readText, failed]

theorem load_eq_ok_iff {rows : List Points} :
    store.load dialect name = .ok rows ↔ store.Holds dialect name rows := by
  refine ⟨fun loaded => ?_, Holds.load_eq⟩
  have loads := store.loads dialect name
  rw [loaded] at loads
  cases loads with
  | lines holds => exact holds

/-- No name along the route to a template is too long, nor is its whole path. -/
def Fits (store : Store) (dialect : Dialect) (name : Text) : Prop :=
  (∀ part ∈ (store.route dialect name).path, part.utf8Bytes ≤ store.limits.partBytes) ∧
    (store.route dialect name).bytes ≤ store.limits.pathBytes

/-- What can make the system refuse to look along a path. -/
def Bars (store : Store) (path : Path) : Refusal → Prop
  | .tooLong => ∃ part ∈ path, store.limits.partBytes < part.utf8Bytes
  | .closed => store.closed ≠ []

theorem Bars.cons {path : Path} {refusal : Refusal} (bars : store.Bars path refusal) (part : Text) :
    store.Bars (part :: path) refusal := by
  cases refusal with
  | tooLong => exact bars.imp fun other => And.imp_left (List.mem_cons_of_mem part)
  | closed => exact bars

end Store

theorem Cache.get_of_failed {cache : Cache} {store : Store} {dialect : Dialect} {name : Text} {error : Error}
    (fresh : cache.lookup (dialect, name) = none) (failed : store.load dialect name = .error error) :
    cache.get store dialect name = .error error := by
  unfold get
  rw [fresh, failed]
  rfl

end Template

/-! ## Answers to a fault -/

namespace Planner

variable {store : Template.Store} {cache : Template.Cache} {grammar : Grammar} {doc : Document} {name : Text}
  {error : Template.Error}

end Planner

namespace Http

end Http

end Docblock
