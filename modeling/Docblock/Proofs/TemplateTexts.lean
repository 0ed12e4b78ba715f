import Docblock.Proofs.JsonTexts
import Docblock.Proofs.Lines
import Docblock.Proofs.Rows
import Docblock.Proofs.TemplateFaults

/-! Texts of templates. Whichever way a file spells the lines of a template, those lines are loaded; and the bodies that
come with the library are those that its files spell. -/

set_option autoImplicit false

namespace Docblock.Template

open scoped Text

/-- A body that gives the lines: an array of them, or one string that they are joined in. The string does not tell where
one of two lines ends if they hold such ends themselves, nor an empty last line from none. -/
inductive Body (lines : List Text) : Json Points → Prop where
  | array : Body lines (.array (lines.map fun line => .text (.ofText line)))
  | joined : (∀ line ∈ lines, ∀ c ∈ line, Text.endsProseLine c = false) → lines.getLast? ≠ some [] →
      Body lines (.text (.ofText (Text.join ['\n'] lines)))

/-- A field beside the body, such as a prefix or a description. -/
def Remark (field : Points × Json Points) : Prop :=
  field.1 ≠ bodyName ∧ ∃ remark : Text, field.2 = .text (.ofText remark)

/-- An object with a body that gives the lines. -/
inductive HasBody (lines : List Text) : Json Points → Prop where
  | fields {before after : List (Points × Json Points)} {body : Json Points} : (∀ field ∈ before, Remark field) → Body lines body →
      (∀ field ∈ after, Remark field) → HasBody lines (.object (before ++ (bodyName, body) :: after))

/-- A snippet file that gives the lines by the body of its object, or by that of its first entry. -/
inductive Describes (lines : List Text) : Json Points → Prop where
  | bare {snippet : Json Points} : HasBody lines snippet → Describes lines snippet
  | entry {name : Text} {snippet : Json Points} {rest : List (Points × Json Points)} : name ≠ "body".toList →
      HasBody lines snippet → (∀ field ∈ rest, Remark field) →
      Describes lines (.object ((.ofText name, snippet) :: rest))

section
variable {lines : List Text} {body snippet value : Json Points} {fields : List (Points × Json Points)}

theorem Body.gives (given : Body lines body) : Lines body (lines.map Points.ofText) := by
  cases given with
  | array =>
    have rows := Lines.array (lines.map Points.ofText)
    rwa [List.map_map] at rows
  | joined whole last_filled =>
    have cut := Lines.text (.ofText (Text.join ['\n'] lines))
    rwa [Points.proseLines_ofText, Text.proseLines_join last_filled whole] at cut

theorem lookup_body_of_remarks (remarks : ∀ field ∈ fields, Remark field) : fields.lookup bodyName = none :=
  List.lookup_eq_none_iff.mpr fun field member => by simpa using Ne.symm (remarks field member).1

theorem HasBody.gives (given : HasBody lines snippet) :
    ∃ body, snippet.lookup bodyName = some body ∧ Lines body (lines.map Points.ofText) := by
  cases given with
  | @fields before after body before_remarks holds after_remarks =>
    refine ⟨body, ?_, holds.gives⟩
    rw [Json.lookup, List.lookup_append, lookup_body_of_remarks before_remarks, List.lookup_cons_self]
    rfl

theorem Describes.snippets (describes : Describes lines value) : Snippets value (lines.map Points.ofText) := by
  cases describes with
  | bare snippet =>
    obtain ⟨body, found, given⟩ := snippet.gives
    cases snippet with
    | fields => exact .bare found given
  | @entry name snippet rest apart given remarks =>
    obtain ⟨body, found, given⟩ := given.gives
    have missing : (Json.object ((.ofText name, snippet) :: rest)).lookup bodyName = none := by
      have passed : (bodyName == .ofText name) = false := by simpa [bodyName] using Ne.symm apart
      simp only [Json.lookup, List.lookup_cons, passed, lookup_body_of_remarks remarks]
    exact .entry (fun other present => by simp [missing] at present) found given

theorem Body.depth_le (given : Body lines body) : body.depth ≤ 1 := by
  cases given with
  | array =>
    refine Nat.succ_le_succ (Json.deepestItem_le_iff.mpr fun item member => ?_)
    obtain ⟨line, _, rfl⟩ := List.mem_map.mp member
    exact Nat.le_refl 0
  | joined => exact Nat.zero_le 1

theorem depth_of_remark {field : Points × Json Points} (remark : Remark field) : field.2.depth = 0 := by
  obtain ⟨_, text, same⟩ := remark
  rw [same]
  rfl

theorem HasBody.depth_le (given : HasBody lines snippet) : snippet.depth ≤ 2 := by
  cases given with
  | fields before_remarks body after_remarks =>
    refine Nat.succ_le_succ (Json.deepestField_le_iff.mpr fun field member => ?_)
    rcases List.mem_append.mp member with member | member
    · simp [depth_of_remark (before_remarks field member)]
    · rcases List.mem_cons.mp member with rfl | member
      · exact body.depth_le
      · simp [depth_of_remark (after_remarks field member)]

theorem Describes.depth_le (describes : Describes lines value) : value.depth ≤ 3 := by
  cases describes with
  | bare given => exact Nat.le_succ_of_le given.depth_le
  | entry apart given remarks =>
    refine Nat.succ_le_succ (Json.deepestField_le_iff.mpr fun field member => ?_)
    rcases List.mem_cons.mp member with rfl | member
    · exact given.depth_le
    · simp [depth_of_remark (remarks field member)]

end

theorem fromUTF8?_toUTF8 (text : String) : String.fromUTF8? text.toUTF8 = some text :=
  dif_pos text.isValidUTF8

namespace Store

/-- A file whose text encodes a snippet file gives the lines of its body, however the text spells them. -/
theorem load_of_encodes {store : Store} {dialect : Dialect} {name : Text} {lines : List Text} {value : Json Points}
    {text : String} (file : store.file? dialect name = some (.bytes text.toUTF8))
    (encodes : Json.Encodes value text.toList) (describes : Describes lines value) :
    store.load dialect name = .ok (lines.map Points.ofText) := by
  have shallow : value.depth ≤ store.limits.depth := Nat.le_trans describes.depth_le store.limits.depth_suffices
  have read : Json.read store.limits.depth text.toList = .ok value := Json.read_of_encodes encodes shallow
  exact load_eq_ok_iff.mpr (.snippets (find_of_file? file) (fromUTF8?_toUTF8 text) read describes.snippets)

-- The first entry gives its two lines in one string, with the slash, the line feed, the letter and the face escaped; of
-- the face there are two surrogates.
def escaped : String :=
  "\x7b\"N\" :\t\x7b\"body\":\r\n\"\\/**\\n\\u00E9\\ud83D\\ude00\"\x7d \x7d\n"

theorem load_of_encodes_escaped :
    (write .empty ["ApexDoc".toList, "note.json".toList] escaped.toUTF8).load .apex "note".toList =
      .ok [.ofText "/**".toList, .ofText "é😀".toList] := by
  have slash : Json.Spells '/' ['\\', '/'] := .short (by decide)
  have star : Json.Spells '*' ['*'] := .itself (by decide) (by decide) (by decide)
  have feed : Json.Spells '\n' ['\\', 'n'] := .short (by decide)
  have letter : Json.Spells 'é' ['\\', 'u', '0', '0', 'E', '9'] :=
    .code (@Json.FourDigits.digits 0 0 14 9 _ _ _ _ (.inl rfl) (.inl rfl) (.inr rfl) (.inl rfl))
  have face : Json.Spells '😀' ['\\', 'u', 'd', '8', '3', 'D', '\\', 'u', 'd', 'e', '0', '0'] :=
    @Json.Spells.pair '😀' 0x3D 0x200 _ _ (by decide) (by decide) rfl
      (@Json.FourDigits.digits 13 8 3 13 _ _ _ _ (.inl rfl) (.inl rfl) (.inl rfl) (.inr rfl))
      (@Json.FourDigits.digits 13 14 0 0 _ _ _ _ (.inl rfl) (.inl rfl) (.inl rfl) (.inl rfl))
  have content := Json.Quotes.quoted
    (.cons slash (.cons star (.cons star (.cons feed (.cons letter (.cons face .nil))))))
  have key : Json.Quotes "body".toList "\"body\"".toList := .quoted (.itself (by decide))
  have title : Json.Quotes "N".toList "\"N\"".toList := .quoted (.itself (by decide))
  have none : Json.Space [] := by decide
  have body := Json.WritesField.field none key none
    (.item (show Json.Space ['\r', '\n'] by decide) (.text content) none)
  have snippet := Json.WritesItem.item (show Json.Space ['\t'] by decide) (.object (by decide) (.last body))
    (show Json.Space [' '] by decide)
  have entry := Json.WritesField.field none title (show Json.Space [' '] by decide) snippet
  have encodes := Json.WritesItem.item none (.object (by decide) (.last entry)) (show Json.Space ['\n'] by decide)
  have two_lines : Body ["/**".toList, "é😀".toList] (.text (.ofText ['/', '*', '*', '\n', 'é', '😀'])) :=
    .joined (by decide) (by decide)
  have describes := @Describes.entry _ "N".toList _ [] (by decide) (@HasBody.fields _ [] [] _ nofun two_lines nofun)
    nofun
  exact @load_of_encodes _ _ _ _ _ escaped rfl encodes describes

end Store

/-! ## The files of the library -/

/-- What a file tells about its snippet besides the body. -/
structure Heading where
  title : String
  shortcut : String
  description : String

/-- The headings in the files of the library, in the order of their bodies. A body without one stands alone in its
file. -/
def bundledHeadings : Dialect → List (Option Heading)
  | .apex =>
    [some ⟨"ApexDoc Class", "apexdoc-class", "ApexDoc comment for a class, interface or enum"⟩,
     some ⟨"ApexDoc Method", "apexdoc-method", "ApexDoc comment for a method or constructor"⟩, none, none]
  | .javaScript =>
    [some ⟨"JSDoc File Header", "jsdoc-file", "JSDoc header for an Aura helper or controller file"⟩,
     some ⟨"JSDoc Function", "jsdoc-function", "JSDoc comment for a function"⟩,
     some ⟨"JSDoc Method", "jsdoc-method", "JSDoc comment for a method, class or property"⟩, none]

def quotedRow (indent : Nat) (line : Text) : Text := List.replicate indent ' ' ++ '"' :: line ++ ['"']

def bodyRows (indent : Nat) (lines : List Text) : List Text :=
  [quotedRow indent "body".toList ++ ": [".toList,
   Text.join ",\n".toList (lines.map (quotedRow (indent + 4))),
   List.replicate indent ' ' ++ [']']]

def headingRows (heading : Heading) (lines : List Text) : List Text :=
  let field (name content : Text) := quotedRow 8 name ++ ": ".toList ++ quotedRow 0 content ++ [',']
  [quotedRow 4 heading.title.toList ++ ": \x7b".toList, field "prefix".toList heading.shortcut.toList,
   field "description".toList heading.description.toList] ++ bodyRows 8 lines ++ ["    \x7d".toList]

/-- The text of a file of the library. -/
def fileText (heading? : Option Heading) (lines : List Text) : Text :=
  let rows := (heading?.map (headingRows · lines)).getD (bodyRows 4 lines)
  Text.join ['\n'] (["\x7b".toList] ++ rows ++ ["\x7d".toList, []])

theorem Store.readBytes_toUTF8 (limits : Limits) (dialect : Dialect) (name text : Text) :
    readBytes limits dialect name (String.ofList text).toUTF8 = readText limits dialect name text := by
  rw [readBytes, fromUTF8?_toUTF8]
  exact congrArg (readText limits dialect name) String.toList_ofList

theorem Store.readBytes_bundled (dialect : Dialect) :
    List.Forall₂ (fun heading? template =>
      readBytes bundled.limits dialect template.1.toList
          (String.ofList (fileText heading? (template.2.map String.toList))).toUTF8 =
        .ok ((template.2.map String.toList).map Points.ofText)) (bundledHeadings dialect) (Template.bundled dialect) := by
  simp only [readBytes_toUTF8]
  cases dialect <;> decide +kernel

end Docblock.Template
