import Docblock.Proofs.Fitting
import Docblock.Proofs.Names
import Docblock.Proofs.Planning
import Docblock.Proofs.Rendering

/-! The rows of planned comments. With the templates that come with the library, a comment for a declaration
is enclosed by the lines that open and end it, and each row between them is one of a template, one that tells
a parameter or the return value, or the one that tells the type of a variable. -/

set_option autoImplicit false

namespace Docblock

namespace Text

theorem replace_of_holds_eq_false {text old : Text} (absent : text.holds old = false) (new : Text) :
    text.replace old new = text := by
  induction text with
  | nil => rfl
  | cons c rest ih =>
    rw [holds, Bool.or_eq_false_iff] at absent
    rw [replace, substitute_of_none (by simp [absent.1])]
    exact congrArg (c :: ·) (ih absent.2)

theorem replace_append {front : Text} {c : Char} {more : Text} (other : c ∉ front) (new rest : Text) :
    (front ++ (c :: more) ++ rest).replace (c :: more) new = front ++ new ++ rest.replace (c :: more) new := by
  induction front with
  | nil =>
    have found : (if (c :: more).isPrefixOf (c :: more ++ rest) then some (new, (c :: more).length)
        else none) = some (new, (c :: more).length) := by simp
    exact substitute_of_some (by simp) found
  | cons d front ih =>
    obtain ⟨no_first, other_below⟩ : c ≠ d ∧ c ∉ front := by simpa using other
    rw [replace, List.cons_append, List.cons_append, substitute_of_none (by simp [no_first])]
    exact congrArg (d :: ·) (ih other_below)

end Text

theorem Comment.Enclosed.mono {Inner Other : Text → Prop} {lines : List Text}
    (enclosed : Enclosed Inner lines) (weaker : ∀ row, Inner row → Other row) : Enclosed Other lines := by
  obtain ⟨rows, lines_eq, inner⟩ := enclosed
  exact ⟨rows, lines_eq, fun row member => weaker row (inner row member)⟩

namespace Template
variable {cache : Cache} {dialect : Dialect} {entry : String × List String} {fetched : Fetched}

theorem load_bundled (member : entry ∈ bundled dialect) :
    Store.bundled.load dialect entry.1.toList = .ok ((entry.2.map String.toList).map Points.ofText) := by
  have all_loaded : ∀ entry ∈ bundled dialect,
      Store.bundled.load dialect entry.1.toList = .ok ((entry.2.map String.toList).map Points.ofText) := by
    cases dialect <;> decide +kernel
  exact all_loaded entry member

theorem Cache.Faithful.bundled_lines (faithful : cache.Faithful .bundled) (member : entry ∈ bundled dialect)
    (got : cache.get .bundled dialect entry.1.toList = .ok fetched) : fetched.lines = entry.2.map String.toList := by
  have loaded := (faithful.get got).1
  rw [load_bundled member] at loaded
  rw [Fetched.lines, ← Except.ok.inj loaded, Points.map_toText_ofText]

end Template

namespace Planner
open Comment (Enclosed opener ending)

/-- The rows that are put into a template for a declaration with the given parameters. -/
inductive Added (grammar : Grammar) (names : List Text) : Text → Prop where
  | apexParam {name : Text} : grammar.dialect = .apex → name ∈ names →
      Added grammar names (apexParamLine name)
  | scriptParam {name : Text} : grammar.dialect = .javaScript → name ∈ names →
      Added grammar names (scriptParamLine "description".toList name)
  | stopParam {name stop : Text} {number : Nat} : grammar.dialect = .javaScript → name ∈ names →
      writeNumber number = .ok stop →
      Added grammar names (scriptParamLine ("$\x7b".toList ++ stop ++ ":description\x7d".toList) name)
  | returns {stop : Text} {number : Nat} : writeNumber number = .ok stop →
      Added grammar names (grammar.markers.returnLine stop)

def typeLine (type : Text) : Text := " * @type ".toList ++ ('\x7b' :: type ++ ['\x7d'])

section
variable {grammar : Grammar} {doc : Document} {site : Site} {template names lines : List Text}

theorem scriptParamLines_cons {markers : Markers} {first : Text} {rest block : List Text}
    (written : scriptParamLines markers template (first :: rest) = .ok block) :
    ∃ (number : Nat) (stop : Text), writeNumber number = .ok stop ∧
      block = scriptParamLine ("$\x7b".toList ++ stop ++ ":description\x7d".toList) first ::
        rest.map (scriptParamLine "description".toList) := by
  obtain ⟨number, _, written⟩ := bind_eq_ok_iff.mp written
  obtain ⟨stop, stop_written, written⟩ := bind_eq_ok_iff.mp written
  exact ⟨number, stop, stop_written, (pure_eq_ok_iff.mp written).symm⟩

theorem scriptParamLines_added {block : List Text} (script : grammar.dialect = .javaScript)
    (written : scriptParamLines grammar.markers template names = .ok block) :
    ∀ row ∈ block, Added grammar names row := by
  cases names with
  | nil =>
    obtain rfl := pure_eq_ok_iff.mp written
    simp
  | cons first rest =>
    obtain ⟨number, stop, stop_written, rfl⟩ := scriptParamLines_cons written
    refine List.forall_mem_cons.mpr ⟨.stopParam script List.mem_cons_self stop_written, ?_⟩
    intro row member
    obtain ⟨name, name_member, rfl⟩ := List.mem_map.mp member
    exact .scriptParam script (List.mem_cons_of_mem first name_member)

variable {Inner : Text → Prop} (ends : Template.PlainEnds grammar.markers)
  (added_inner : ∀ row, Added grammar names row → Inner row) (enclosed : Enclosed Inner template)
include ends added_inner enclosed

theorem apexLines_enclosed {kind : Kind} (apex : grammar.dialect = .apex)
    (fitted : apexLines grammar.markers template kind names = .ok lines) : Enclosed Inner lines := by
  have block_inner : ∀ row ∈ names.map apexParamLine, Inner row := by
    intro row member
    obtain ⟨name, name_member, rfl⟩ := List.mem_map.mp member
    exact added_inner _ (.apexParam apex name_member)
  have injected : Enclosed Inner (if names.isEmpty then template
      else Template.injectParameters grammar.markers template (names.map apexParamLine)) := by
    split
    · exact enclosed
    · exact Template.injectParameters_enclosed ends enclosed block_inner
  unfold apexLines at fitted
  dsimp only at fitted
  split at fitted
  · exact Template.ensureReturn_enclosed ends injected (fun _ _ written => added_inner _ (.returns written))
      fitted
  · exact pure_eq_ok_iff.mp fitted ▸ injected

theorem scriptLines_enclosed (script : grammar.dialect = .javaScript)
    (fitted : scriptLines grammar.markers template names = .ok lines) : Enclosed Inner lines := by
  have return_inner (number : Nat) (stop : Text) (written : writeNumber number = .ok stop) :
      Inner (grammar.markers.returnLine stop) :=
    added_inner _ (.returns written)
  unfold scriptLines at fitted
  split at fitted
  · exact Template.ensureReturn_enclosed ends enclosed return_inner fitted
  · obtain ⟨block, written, fitted⟩ := bind_eq_ok_iff.mp fitted
    have block_inner := fun row member => added_inner row (scriptParamLines_added script written row member)
    exact Template.ensureReturn_enclosed ends
      (Template.injectParameters_enclosed ends enclosed block_inner) return_inner fitted

theorem siteLines_enclosed (no_type : grammar.dialect = .javaScript → site.kind ≠ .var)
    (fitted : siteLines grammar doc site template names = .ok lines) : Enclosed Inner lines := by
  obtain ⟨kind, line⟩ := site
  unfold siteLines at fitted
  cases dialect : grammar.dialect with
  | apex =>
    simp only [dialect] at fitted
    exact apexLines_enclosed ends added_inner enclosed dialect (lift_eq_ok_iff.mp fitted)
  | javaScript =>
    simp only [dialect] at fitted
    cases kind with
    | var => exact absurd rfl (no_type dialect)
    | method | function =>
      exact scriptLines_enclosed ends added_inner enclosed dialect (lift_eq_ok_iff.mp fitted)
    | type | constructor | property | enumValue => exact Except.ok.inj fitted ▸ enclosed

end

section
variable {cache later : Template.Cache} {dialect : Dialect} {windows : Windows} {doc : Document}
  {plan : Plan}

theorem plainEnds (dialect : Dialect) (windows : Windows) :
    Template.PlainEnds (dialect.grammar windows).markers := by
  cases dialect with
  | apex => exact (by decide +kernel : Template.PlainEnds Apex.markers)
  | javaScript => exact (by decide +kernel : Template.PlainEnds JavaScript.markers)

theorem templateName?_bundled {kind : Kind} {name : String} (named : templateName? dialect kind = some name) :
    ∃ lines, (name, lines) ∈ Template.bundled dialect := by
  have all_known : ∀ kind ∈ Kind.all, (templateName? dialect kind).all fun name =>
      (Template.bundled dialect).any (·.1 == name) := by
    cases dialect <;> decide
  have known := all_known kind kind.mem_all
  rw [named, Option.all_some, List.any_eq_true] at known
  obtain ⟨⟨_, lines⟩, member, same⟩ := known
  exact ⟨lines, eq_of_beq same ▸ member⟩

-- A row without either form of the place for a type stays, and the place is filled in a row that has it.
theorem withType_cons {row : Text} (no_stop : row.holds "\x7b$\x7b1:any\x7d\x7d".toList = false)
    (no_any : row.holds "\x7bany\x7d".toList = false) (type : Text) (rows : List Text) :
    withType type (row :: rows) = row :: withType type rows := by
  simp only [withType, List.map_cons, Text.replace_of_holds_eq_false no_stop,
    Text.replace_of_holds_eq_false no_any]

theorem withType_place_cons {front : Text} (type : Text) (rows : List Text)
    (no_stop : Text.holds (front ++ "\x7bany\x7d".toList) "\x7b$\x7b1:any\x7d\x7d".toList = false)
    (plain : '\x7b' ∉ front) :
    withType type ((front ++ "\x7bany\x7d".toList) :: rows) =
      (front ++ ('\x7b' :: type ++ ['\x7d'])) :: withType type rows := by
  have filled (braced : Text) : Text.replace (front ++ "\x7bany\x7d".toList) "\x7bany\x7d".toList braced =
      front ++ braced := by
    have passed := @Text.replace_append front '\x7b' "any\x7d".toList plain braced []
    rw [List.append_nil] at passed
    exact passed.trans (List.append_nil _)
  simp only [withType, List.map_cons, Text.replace_of_holds_eq_false no_stop, filled]

def variableRow : Text := " * @description $\x7b1:What this variable holds\x7d".toList

theorem variableTemplate_mem :
    ("variable", ["/**", " * @description $\x7b1:What this variable holds\x7d", " * @type \x7bany\x7d", " */"]) ∈
      Template.bundled .javaScript := by
  decide

theorem withType_variable (type : Text) :
    withType type (["/**", " * @description $\x7b1:What this variable holds\x7d", " * @type \x7bany\x7d",
      " */"].map String.toList) = [opener, variableRow, typeLine type, ending] := by
  have type_row : " * @type \x7bany\x7d".toList = " * @type ".toList ++ "\x7bany\x7d".toList := by decide +kernel
  simp only [List.map_cons, List.map_nil]
  rw [withType_cons (by decide +kernel) (by decide +kernel),
    withType_cons (by decide +kernel) (by decide +kernel), type_row,
    withType_place_cons type _ (by decide +kernel) (by decide +kernel),
    withType_cons (by decide +kernel) (by decide +kernel)]
  rfl

theorem exists_type {line : Nat} {template names lines : List Text}
    (fitted : siteLines (JavaScript.grammar windows) doc ⟨.var, line⟩ template names = .ok lines) :
    ∃ type, variableType doc line = .ok type ∧ withType type template = lines := by
  have mapped := lift_eq_ok_iff.mp fitted
  cases read : variableType doc line with
  | error error => simp [read, Except.map] at mapped
  | ok type => exact ⟨type, rfl, by simpa [read, Except.map] using mapped⟩

theorem Planned.variable_lines (planned : Planned .bundled cache (dialect.grammar windows) doc plan later)
    (faithful : cache.Faithful .bundled) (no_header : plan.isFileHeader = false)
    (is_var : plan.kind = some .var) :
    ∃ line type, dialect = .javaScript ∧ plan.declarationLine = some line ∧ variableType doc line = .ok type ∧
      plan.lines = [opener, variableRow, typeLine type, ending] := by
  cases planned with
  | header _ got => simp [headerPlan] at no_header
  | @site site name fetched plan _ named got filled =>
    obtain ⟨names, lines, insertLine, _, fitted, _, rfl⟩ := fill_eq_ok_iff.mp filled
    obtain ⟨kind, line⟩ := site
    obtain rfl : kind = .var := Option.some.inj is_var
    rw [Dialect.dialect_grammar] at named got
    cases dialect with
    | apex => simp [templateName?] at named
    | javaScript =>
      obtain rfl : "variable" = name := Option.some.inj named
      obtain ⟨type, type_read, rfl⟩ := exists_type fitted
      refine ⟨line, type, rfl, rfl, type_read, ?_⟩
      dsimp only
      rw [faithful.bundled_lines variableTemplate_mem got]
      exact withType_variable type

theorem Planned.exists_entry (planned : Planned .bundled cache (dialect.grammar windows) doc plan later)
    (faithful : cache.Faithful .bundled) (no_header : plan.isFileHeader = false) :
    ∃ (site : Site) (name : String) (rows : List String), (name, rows) ∈ Template.bundled dialect ∧
      templateName? dialect site.kind = some name ∧ plan.kind = some site.kind ∧
      siteLines (dialect.grammar windows) doc site (rows.map String.toList) plan.parameters = .ok plan.lines := by
  cases planned with
  | header _ _ => simp [headerPlan] at no_header
  | @site site name fetched plan _ named got filled =>
    obtain ⟨names, lines, insertLine, _, fitted, _, rfl⟩ := fill_eq_ok_iff.mp filled
    rw [Dialect.dialect_grammar] at named got
    obtain ⟨rows, member⟩ := templateName?_bundled named
    exact ⟨site, name, rows, member, named, rfl, faithful.bundled_lines member got ▸ fitted⟩

/-- What the rows of the templates have, and the rows that are put in, all rows of a comment for a
declaration have. -/
theorem Planned.enclosed {Inner : Text → Prop}
    (planned : Planned .bundled cache (dialect.grammar windows) doc plan later)
    (faithful : cache.Faithful .bundled) (no_header : plan.isFileHeader = false)
    (templates : ∀ entry ∈ Template.bundled dialect, Enclosed Inner (entry.2.map String.toList))
    (added_inner : ∀ row, Added (dialect.grammar windows) plan.parameters row → Inner row)
    (type_inner : ∀ line type, plan.kind = some .var → plan.declarationLine = some line →
      variableType doc line = .ok type → Inner (typeLine type)) : Enclosed Inner plan.lines := by
  by_cases is_var : plan.kind = some .var
  · obtain ⟨line, type, rfl, line_eq, type_read, lines_eq⟩ :=
      planned.variable_lines faithful no_header is_var
    obtain ⟨rows, rows_eq, inner⟩ := templates _ variableTemplate_mem
    have cut : [variableRow, " * @type \x7bany\x7d".toList] ++ [ending] = rows ++ [ending] :=
      (List.cons.inj rows_eq).2
    obtain rfl := (List.append_inj' cut rfl).1
    refine ⟨[variableRow, typeLine type], lines_eq, ?_⟩
    exact List.forall_mem_cons.mpr ⟨inner _ List.mem_cons_self,
      List.forall_mem_singleton.mpr (type_inner line type is_var line_eq type_read)⟩
  · obtain ⟨site, name, rows, member, _, kind_eq, fitted⟩ := planned.exists_entry faithful no_header
    exact siteLines_enclosed (plainEnds dialect windows) added_inner (templates _ member)
      (fun _ same => is_var (kind_eq.trans (congrArg some same))) fitted

theorem Planned.nameChar (planned : Planned .bundled cache (dialect.grammar windows) doc plan later) :
    ∀ name ∈ plan.parameters, ∀ c ∈ name, JavaScript.nameChar c = true := by
  cases planned with
  | header _ _ => simp [headerPlan]
  | site _ _ _ filled =>
    obtain ⟨names, _, _, read, _, _, rfl⟩ := fill_eq_ok_iff.mp filled
    exact nameChar_of_mem_parameters read

end

end Planner

end Docblock
