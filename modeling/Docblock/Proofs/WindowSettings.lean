import Docblock.Proofs.Location
import Docblock.Proofs.SignatureLines
import Docblock.Settings

/-! Settings of the scan windows. Integers that are given for them are taken exactly if each window has a line at least
and the windows that lie in each other grow. What was given then stands in the window that it was given for, and the
grammars that work with these windows find each declaration from its own line. -/

set_option autoImplicit false

namespace Docblock

/-- Each window has a line at least. -/
structure Windows.Wide (windows : Windows) : Prop where
  commentLookback : 1 ≤ windows.commentLookback
  annotationRun : 1 ≤ windows.annotationRun
  signature : 1 ≤ windows.signature
  declaration : 1 ≤ windows.declaration
  enumBlock : 1 ≤ windows.enumBlock
  enclosingType : 1 ≤ windows.enclosingType

/-- What scans can rely on: no window is empty, and a search or a signature that is asked for at a declaration starts
there. -/
structure Grammar.Dependable (grammar : Grammar) : Prop where
  wide : grammar.windows.Wide
  located : ∀ (doc : Document) (site : Site), site.Declares grammar doc →
    locate grammar doc site.line = .ok (some site)
  started : ∀ (doc : Document) (site : Site), site.Declares grammar doc → site.kind ∈ grammar.signatureKinds →
    grammar.signatureStart doc site.line site.kind = .ok (some (site.line : Int))

theorem Windows.Wide.dependable {windows : Windows} (wide : windows.Wide) (dialect : Dialect) :
    (dialect.grammar windows).Dependable where
  wide := by rwa [Dialect.windows_grammar]
  located doc site declares := by
    have declaration := wide.declaration
    exact Search.locate_declaring declares (by rw [Dialect.windows_grammar]; omega)
  started doc site declares signed := by
    have signature := wide.signature
    exact Dialect.signatureStart_of_kindAt declares signed (by omega)

/-! ## Sizes and their sources -/

def Setting.windows : List Setting :=
  [.commentLookback, .annotationRun, .signature, .declaration, .enumBlock, .enclosingType]

/-- What arguments, the environment and the settings file give for settings, if they give anything. -/
structure Layers (α : Type) where
  arguments : Setting → Option α
  environment : Setting → Option α
  file : Setting → Option α

namespace Layers

/-- An argument goes before the environment, and the environment before the settings file. -/
def first? {α : Type} (layers : Layers α) (setting : Setting) : Option α :=
  layers.arguments setting <|> layers.environment setting <|> layers.file setting

/-- The windows that come of the sizes; what nothing is given for has its default. -/
def windows (sizes : Layers Int) : Windows where
  commentLookback := (sizes.first? .commentLookback).getD 100
  annotationRun := (sizes.first? .annotationRun).getD 10
  signature := (sizes.first? .signature).getD 50
  declaration := (sizes.first? .declaration).getD 200
  enumBlock := (sizes.first? .enumBlock).getD 200
  enclosingType := (sizes.first? .enclosingType).getD 400

end Layers

namespace Supply

/-- The value of each window is the first that is given for it. -/
def Resolves (supply : Supply) (layers : Layers Json) : Prop :=
  ∀ setting ∈ Setting.windows, supply.value? setting = layers.first? setting

/-- Each layer gives these integers for the windows, or nothing: there is a value exactly if there is a size, and the
value is converted to it. -/
structure Reads (supply : Supply) (layers : Layers Json) (sizes : Layers Int) : Prop where
  arguments : ∀ setting ∈ Setting.windows,
    (layers.arguments setting).map supply.int = (sizes.arguments setting).map .ok
  environment : ∀ setting ∈ Setting.windows,
    (layers.environment setting).map supply.int = (sizes.environment setting).map .ok
  file : ∀ setting ∈ Setting.windows, (layers.file setting).map supply.int = (sizes.file setting).map .ok

/-- What is given for a setting, if anything is, can be converted. -/
def Fits {α : Type} (supply : Supply) (setting : Setting) (convert : Json → Except Fault α) : Prop :=
  ∀ given, supply.value? setting = some given → ∃ value, convert given = .ok value

/-- Nothing but the windows can be bad. -/
structure GoodButWindows (supply : Supply) : Prop where
  appName : supply.Fits .appName supply.text
  debug : supply.Fits .debug supply.bool
  level : supply.Fits .level (Settings.readLevel supply)
  host : supply.Fits .host supply.text
  tcpPort : supply.Fits .tcpPort supply.int
  templateFolder : supply.Fits .templateFolder supply.folder
  known : supply.unknown = []

theorem Reads.first? {supply : Supply} {layers : Layers Json} {sizes : Layers Int} (reads : supply.Reads layers sizes)
    {setting : Setting} (member : setting ∈ Setting.windows) :
    (layers.first? setting).map supply.int = (sizes.first? setting).map .ok := by
  have later {given other : Option Json} {size next : Option Int} (read : given.map supply.int = size.map .ok)
      (read_next : other.map supply.int = next.map .ok) :
      (given <|> other).map supply.int = (size <|> next).map .ok := by
    cases given <;> cases size <;> simp_all
  exact later (reads.arguments setting member)
    (later (reads.environment setting member) (reads.file setting member))

end Supply

namespace Sources

def layers (sources : Sources) : Layers Json where
  arguments := sources.argument?
  environment setting := ((lowerNames sources.environment).lookup setting.name.toList).map .text
  file setting := (sources.fileValues.lookup setting.name.toList).map .text

theorem supply_resolves (sources : Sources) : sources.supply.Resolves sources.layers := by
  intro setting _
  have texts (first second : Option Text) :
      (first <|> second).map Json.text = (first.map .text <|> second.map .text) := by
    cases first <;> rfl
  exact congrArg (sources.argument? setting <|> ·) (texts _ _)

end Sources

namespace Settings
variable {supply : Supply}

/-! ## What is read -/

theorem field_eq_good_iff {α : Type} {setting : Setting} {convert : Json → Except Fault α} {default result : α} :
    field supply setting convert default = .good result ↔
      (supply.value? setting).elim (result = default) fun given => convert given = .ok result := by
  unfold field
  cases supply.value? setting with
  | none => simp [eq_comm]
  | some given => exact Checked.value_eq_good_iff

theorem exists_field_iff {α : Type} {setting : Setting} {convert : Json → Except Fault α} {default : α} :
    (∃ result, field supply setting convert default = .good result) ↔ supply.Fits setting convert := by
  simp only [field_eq_good_iff, Supply.Fits]
  cases supply.value? setting with
  | none => simp
  | some given => simp

theorem readWindow_eq_ok_iff {given : Json} {size : Int} :
    readWindow supply given = .ok size ↔ supply.int given = .ok size ∧ 1 ≤ size := by
  unfold readWindow
  rw [bind_eq_ok_iff]
  constructor
  · rintro ⟨number, read, checked⟩
    split at checked
    · cases checked
    · obtain rfl := pure_eq_ok_iff.mp checked
      exact ⟨read, by omega⟩
  · rintro ⟨read, wide⟩
    exact ⟨size, read, if_neg (by omega)⟩

theorem field_readWindow_iff {setting : Setting} {given : Option Int}
    (reads : (supply.value? setting).map supply.int = given.map .ok) {default size : Int} (standard : 1 ≤ default) :
    field supply setting (readWindow supply) default = .good size ↔ given.getD default = size ∧ 1 ≤ size := by
  rw [field_eq_good_iff]
  cases found : supply.value? setting with
  | none =>
    obtain rfl : given = none := by simpa [found] using reads.symm
    exact ⟨fun same => ⟨same.symm, same ▸ standard⟩, fun same => same.1.symm⟩
  | some value =>
    obtain ⟨number, rfl, read⟩ : ∃ number, given = some number ∧ supply.int value = .ok number := by
      cases given with
      | none => simp [found] at reads
      | some number => exact ⟨number, rfl, by simpa [found] using reads⟩
    simp [readWindow_eq_ok_iff, read]

section
variable {layers : Layers Json} {sizes : Layers Int} (resolves : supply.Resolves layers)
  (reads : supply.Reads layers sizes)
include resolves reads

theorem readWindows_eq_good_iff {windows : Windows} :
    readWindows supply = .good windows ↔ sizes.windows = windows ∧ windows.Wide := by
  have size_iff (setting : Setting) (member : setting ∈ Setting.windows) {default size : Int} (standard : 1 ≤ default) :
      field supply setting (readWindow supply) default = .good size ↔
        (sizes.first? setting).getD default = size ∧ 1 ≤ size :=
    field_readWindow_iff (by rw [resolves setting member, reads.first? member]) standard
  simp only [readWindows, Checked.seq_eq_good_iff, Checked.map_eq_good_iff]
  constructor
  · rintro ⟨_, _, ⟨_, _, ⟨_, _, ⟨_, _, ⟨_, _, ⟨_, lookback, rfl⟩, run, rfl⟩, signature, rfl⟩, declaration, rfl⟩, enum, rfl⟩,
      enclosing, rfl⟩
    obtain ⟨rfl, lookback_wide⟩ := (size_iff _ (by decide) (by decide)).mp lookback
    obtain ⟨rfl, run_wide⟩ := (size_iff _ (by decide) (by decide)).mp run
    obtain ⟨rfl, signature_wide⟩ := (size_iff _ (by decide) (by decide)).mp signature
    obtain ⟨rfl, declaration_wide⟩ := (size_iff _ (by decide) (by decide)).mp declaration
    obtain ⟨rfl, enum_wide⟩ := (size_iff _ (by decide) (by decide)).mp enum
    obtain ⟨rfl, enclosing_wide⟩ := (size_iff _ (by decide) (by decide)).mp enclosing
    exact ⟨rfl, lookback_wide, run_wide, signature_wide, declaration_wide, enum_wide, enclosing_wide⟩
  · rintro ⟨rfl, wide⟩
    have lookback := (size_iff .commentLookback (by decide) (by decide)).mpr ⟨rfl, wide.commentLookback⟩
    have run := (size_iff .annotationRun (by decide) (by decide)).mpr ⟨rfl, wide.annotationRun⟩
    have signature := (size_iff .signature (by decide) (by decide)).mpr ⟨rfl, wide.signature⟩
    have declaration := (size_iff .declaration (by decide) (by decide)).mpr ⟨rfl, wide.declaration⟩
    have enum := (size_iff .enumBlock (by decide) (by decide)).mpr ⟨rfl, wide.enumBlock⟩
    have enclosing := (size_iff .enclosingType (by decide) (by decide)).mpr ⟨rfl, wide.enclosingType⟩
    exact ⟨_, _, ⟨_, _, ⟨_, _, ⟨_, _, ⟨_, _, ⟨_, lookback, rfl⟩, run, rfl⟩, signature, rfl⟩, declaration, rfl⟩, enum, rfl⟩,
      enclosing, rfl⟩

end

theorem readFields_eq_good_iff {settings : Settings} :
    readFields supply = .good settings ↔
      field supply .appName supply.text "doc-generator".toList = .good settings.appName ∧
      field supply .debug supply.bool false = .good settings.debug ∧
      field supply .level (readLevel supply) .info = .good settings.level ∧
      field supply .host supply.text "127.0.0.1".toList = .good settings.host ∧
      field supply .tcpPort supply.int 8000 = .good settings.tcpPort ∧
      field supply .templateFolder supply.folder none = .good settings.templateFolder ∧
      readWindows supply = .good settings.windows := by
  simp only [readFields, Checked.seq_eq_good_iff, Checked.map_eq_good_iff]
  constructor
  · rintro ⟨_, _, ⟨_, _, ⟨_, _, ⟨_, _, ⟨_, _, ⟨_, _, ⟨_, appName, rfl⟩, debug, rfl⟩, level, rfl⟩, host, rfl⟩, tcpPort, rfl⟩,
      folder, rfl⟩, windows, rfl⟩
    exact ⟨appName, debug, level, host, tcpPort, folder, windows⟩
  · rintro ⟨appName, debug, level, host, tcpPort, folder, windows⟩
    exact ⟨_, _, ⟨_, _, ⟨_, _, ⟨_, _, ⟨_, _, ⟨_, _, ⟨_, appName, rfl⟩, debug, rfl⟩, level, rfl⟩, host, rfl⟩, tcpPort, rfl⟩,
      folder, rfl⟩, windows, rfl⟩

theorem read_eq_good_iff {settings : Settings} :
    read supply = .good settings ↔
      readFields supply = .good settings ∧ supply.unknown = [] ∧ orderly settings.windows = true := by
  simp only [read, Checked.ensure_eq_good_iff, Checked.alsoBad_eq_good_iff, List.map_eq_nil_iff, and_assoc]

theorem exists_readFields_iff {windows : Windows} :
    (∃ settings, readFields supply = .good settings ∧ settings.windows = windows) ∧ supply.unknown = [] ↔
      supply.GoodButWindows ∧ readWindows supply = .good windows := by
  constructor
  · rintro ⟨⟨settings, good, rfl⟩, known⟩
    obtain ⟨appName, debug, level, host, tcpPort, folder, windows⟩ := readFields_eq_good_iff.mp good
    exact ⟨⟨exists_field_iff.mp ⟨_, appName⟩, exists_field_iff.mp ⟨_, debug⟩, exists_field_iff.mp ⟨_, level⟩,
      exists_field_iff.mp ⟨_, host⟩, exists_field_iff.mp ⟨_, tcpPort⟩, exists_field_iff.mp ⟨_, folder⟩, known⟩, windows⟩
  · rintro ⟨rest, good⟩
    obtain ⟨appName, appName_good⟩ := exists_field_iff.mpr rest.appName
    obtain ⟨debug, debug_good⟩ := exists_field_iff.mpr rest.debug
    obtain ⟨level, level_good⟩ := exists_field_iff.mpr rest.level
    obtain ⟨host, host_good⟩ := exists_field_iff.mpr rest.host
    obtain ⟨tcpPort, tcpPort_good⟩ := exists_field_iff.mpr rest.tcpPort
    obtain ⟨folder, folder_good⟩ := exists_field_iff.mpr rest.templateFolder
    refine ⟨⟨⟨appName, debug, level, host, tcpPort, folder, windows⟩, ?_, rfl⟩, rest.known⟩
    exact readFields_eq_good_iff.mpr
      ⟨appName_good, debug_good, level_good, host_good, tcpPort_good, folder_good, good⟩

/-- Where integers are given for the windows, or nothing, and the first counts for each, the settings are taken exactly
if nothing else is bad, each window has a line at least, and annotation runs are shorter than signatures, and these than
the search for a declaration. Each window then has the size that was given for it, in the settings and in the grammars
that are registered with them, and those grammars are dependable. -/
theorem read_windows {layers : Layers Json} {sizes : Layers Int} (resolves : supply.Resolves layers)
    (reads : supply.Reads layers sizes) :
    ((∃ settings, read supply = .good settings) ↔
      supply.GoodButWindows ∧ sizes.windows.Wide ∧ sizes.windows.annotationRun < sizes.windows.signature ∧
        sizes.windows.signature < sizes.windows.declaration) ∧
    ∀ settings, read supply = .good settings →
      settings.windows = sizes.windows ∧
      ∀ dialect, ∃ grammar, (Registry.full settings.windows).ofDialect? dialect = some grammar ∧
        grammar.windows = sizes.windows ∧ grammar.Dependable := by
  have read_iff (settings : Settings) : read supply = .good settings ↔
      (readFields supply = .good settings ∧ settings.windows = sizes.windows) ∧ supply.unknown = [] ∧
        orderly sizes.windows = true := by
    rw [read_eq_good_iff]
    constructor
    · rintro ⟨good, known, ordered⟩
      obtain ⟨same, _⟩ := (readWindows_eq_good_iff resolves reads).mp (readFields_eq_good_iff.mp good).2.2.2.2.2.2
      exact ⟨⟨good, same.symm⟩, known, same ▸ ordered⟩
    · rintro ⟨⟨good, same⟩, known, ordered⟩
      exact ⟨good, known, same ▸ ordered⟩
  constructor
  · simp only [read_iff, exists_and_right, ← and_assoc, exists_readFields_iff, readWindows_eq_good_iff resolves reads]
    simp [orderly, and_assoc]
  · intro settings good
    obtain ⟨⟨fields, same⟩, _⟩ := (read_iff settings).mp good
    obtain ⟨_, wide⟩ := (readWindows_eq_good_iff resolves reads).mp (readFields_eq_good_iff.mp fields).2.2.2.2.2.2
    refine ⟨same, fun dialect => ⟨dialect.grammar settings.windows, ?_, ?_, wide.dependable dialect⟩⟩
    · cases dialect <;> rfl
    · rw [Dialect.windows_grammar, same]

/-! ## Sources that go before each other -/

def overlapping : Sources where
  arguments := [("signature_window_lines".toList, .int 60)]
  environment := [("Annotation_Run_Lines".toList, "12".toList), ("SIGNATURE_WINDOW_LINES".toList, "5".toList)]
  file := "declaration_window_lines = 0_300 # far\nannotation_run_lines=70\nsignature_window_lines\n".toList

def overlappingSizes : Layers Int where
  arguments
    | .signature => some 60
    | _ => none
  environment
    | .annotationRun => some 12
    | .signature => some 5
    | _ => none
  file
    | .declaration => some 300
    | .annotationRun => some 70
    | _ => none

-- Neither the environment nor the settings file has its windows in order, only what comes of all sources together has.
theorem read_windows_of_overlapping :
    overlapping.supply.Resolves overlapping.layers ∧ overlapping.supply.Reads overlapping.layers overlappingSizes ∧
    ∃ settings, read overlapping.supply = .good settings ∧
      settings.windows = { annotationRun := 12, signature := 60, declaration := 300 } := by
  have in_file : overlapping.fileValues =
      [("declaration_window_lines".toList, "0_300".toList), ("annotation_run_lines".toList, "70".toList)] := by
    decide +kernel
  have reads : overlapping.supply.Reads overlapping.layers overlappingSizes := by
    refine ⟨by decide, by decide, ?_⟩
    simp only [Sources.layers, in_file]
    decide
  have silent (setting : Setting) (other : setting ∉ Setting.windows) : overlapping.supply.value? setting = none := by
    change overlapping.value? setting = none
    unfold Sources.value?
    rw [in_file]
    revert other
    cases setting <;> decide
  have rest : overlapping.supply.GoodButWindows := by
    have fits {α : Type} (setting : Setting) (other : setting ∉ Setting.windows) (convert : Json → Except Fault α) :
        overlapping.supply.Fits setting convert := fun given found => by simp [silent setting other] at found
    refine ⟨fits _ (by decide) _, fits _ (by decide) _, fits _ (by decide) _, fits _ (by decide) _, fits _ (by decide) _,
      fits _ (by decide) _, ?_⟩
    change overlapping.unknown = []
    unfold Sources.unknown
    rw [in_file]
    decide
  have read := read_windows overlapping.supply_resolves reads
  obtain ⟨settings, good⟩ := read.1.mpr ⟨rest, ⟨by decide, by decide, by decide, by decide, by decide, by decide⟩,
    by decide, by decide⟩
  exact ⟨overlapping.supply_resolves, reads, settings, good, (read.2 settings good).1⟩

end Settings

end Docblock
