import Docblock.Proofs.Rendering
import Docblock.Registry
import Mathlib.Data.List.Induction

/-! Registrations. What a registry answers depends on the grammar that was registered last for each dialect, and on
nothing else of its history. A file belongs to the dialect that owns the suffix of its name. -/

set_option autoImplicit false

namespace Docblock

open scoped Text

/-! ## The suffix of a path -/

def Slash (c : Char) : Prop := c = '/' ∨ c = '\\'

instance : DecidablePred Slash := fun _ => inferInstanceAs (Decidable (_ ∨ _))

def LastPart (path name : Text) : Prop :=
  ∃ folder : Text, path = folder ++ name ∧ (∀ c ∈ name, ¬ Slash c) ∧ ∀ c, folder.getLast? = some c → Slash c

/-- The name ends in its last dot and the suffix. -/
def HasSuffix (path suffix : Text) : Prop :=
  ∃ stem : Text, LastPart path (stem ++ '.' :: suffix) ∧ '.' ∉ suffix

namespace Registry

section
variable {path name suffix : Text}

theorem lastPart_iff :
    LastPart path name ↔ path.reverse.takeWhile (fun c => c != '/' && c != '\\') = name.reverse := by
  have passes (c : Char) : (c != '/' && c != '\\') = true ↔ ¬ Slash c := by simp [Slash]
  have stops (c : Char) : (c != '/' && c != '\\') = false ↔ Slash c := by
    rw [← Bool.not_eq_true, passes, not_not]
  constructor
  · rintro ⟨folder, rfl, plain, ends⟩
    refine (Text.takeWhile_dropWhile_iff.mpr ⟨List.reverse_append, fun c within => ?_, fun c first => ?_⟩).1
    · exact (passes c).mpr (plain c (List.mem_reverse.mp within))
    · rw [List.head?_reverse] at first
      exact (stops c).mpr (ends c first)
  · intro taken
    obtain ⟨cut, plain, ends⟩ := Text.takeWhile_dropWhile_iff.mp ⟨taken, rfl⟩
    refine ⟨(path.reverse.dropWhile fun c => c != '/' && c != '\\').reverse, ?_, fun c within => ?_, fun c last => ?_⟩
    · rw [← List.reverse_inj, List.reverse_append, List.reverse_reverse]
      exact cut
    · exact (passes c).mp (plain c (List.mem_reverse.mpr within))
    · rw [List.getLast?_reverse] at last
      exact (stops c).mp (ends c last)

theorem exists_lastPart (path : Text) : ∃ name, LastPart path name :=
  ⟨_, lastPart_iff.mpr (List.reverse_reverse _).symm⟩

theorem extension_of_lastPart (last : LastPart path name) :
    extension path =
      if '.' ∈ name then '.' :: Text.lower (name.reverse.takeWhile (· != '.')).reverse else [] := by
  unfold extension
  rw [lastPart_iff.mp last]
  simp

theorem extension_of_suffix (has : HasSuffix path suffix) : extension path = '.' :: suffix.lower := by
  obtain ⟨stem, last, no_dot⟩ := has
  have taken : (stem ++ '.' :: suffix).reverse.takeWhile (· != '.') = suffix.reverse := by
    have reversed : (stem ++ '.' :: suffix).reverse = suffix.reverse ++ '.' :: stem.reverse := by simp
    refine (Text.takeWhile_dropWhile_iff.mpr ⟨reversed, fun c within => ?_, by simp⟩).1
    have apart : c ≠ '.' := fun same => no_dot (same ▸ List.mem_reverse.mp within)
    simpa using apart
  rw [extension_of_lastPart last, if_pos (by simp), taken, List.reverse_reverse]

theorem exists_suffix (some_extension : extension path ≠ []) : ∃ suffix, HasSuffix path suffix := by
  obtain ⟨name, last⟩ := exists_lastPart path
  have has_dot : '.' ∈ name := by
    by_contra no_dot
    exact some_extension (by rw [extension_of_lastPart last, if_neg no_dot])
  -- Read from its end, the name has the suffix in front of its first dot.
  obtain ⟨suffix, stem, cut, no_dot⟩ := List.eq_append_cons_of_mem (List.mem_reverse.mpr has_dot)
  have name_eq : name = stem.reverse ++ '.' :: suffix.reverse := by
    rw [← List.reverse_inj, cut]
    simp
  exact ⟨suffix.reverse, stem.reverse, name_eq ▸ last, by simpa using no_dot⟩

end

/-! ## What was registered last -/

/-- The grammar that was registered last for a dialect. -/
def latest? (grammars : List Grammar) (dialect : Dialect) : Option Grammar :=
  grammars.reverse.find? fun grammar => grammar.dialect == dialect

def ofGrammars (grammars : List Grammar) : Registry := grammars.foldl register empty

section
variable {grammars : List Grammar} {grammar : Grammar} {dialect : Dialect} {extension : Text}

theorem ofGrammars_concat (grammars : List Grammar) (grammar : Grammar) :
    ofGrammars (grammars ++ [grammar]) = (ofGrammars grammars).register grammar := by
  simp [ofGrammars]

theorem lookup_owners_register (registry : Registry) (grammar : Grammar) (extension : Text) :
    (registry.register grammar).owners.lookup extension =
      if extension ∈ grammar.extensions.map String.toList then some grammar.dialect
      else registry.owners.lookup extension := by
  unfold register
  dsimp only
  generalize registry.owners = owners
  induction grammar.extensions generalizing owners with
  | nil => simp
  | cons first rest ih =>
    rw [List.foldl_cons, ih]
    simp only [List.map_cons, List.mem_cons]
    by_cases below : extension ∈ rest.map String.toList
    · rw [if_pos below, if_pos (.inr below)]
    · rw [if_neg below]
      by_cases here : extension = first.toList
      · rw [if_pos (.inl here), here, Entries.lookup_set_self]
      · rw [if_neg (not_or.mpr ⟨here, below⟩), Entries.lookup_set_of_ne here]

theorem ofDialect?_ofGrammars (grammars : List Grammar) (dialect : Dialect) :
    (ofGrammars grammars).ofDialect? dialect = latest? grammars dialect := by
  induction grammars using List.reverseRecOn with
  | nil => rfl
  | append_singleton grammars grammar ih =>
    rw [ofGrammars_concat, latest?, List.reverse_concat, ofDialect?, register]
    by_cases same : grammar.dialect = dialect
    · rw [List.find?_cons_of_pos (by simpa using same), same, Entries.lookup_set_self]
    · rw [List.find?_cons_of_neg (by simpa using same), Entries.lookup_set_of_ne (Ne.symm same)]
      exact ih

theorem lookup_owners_ofGrammars (grammars : List Grammar) (extension : Text) :
    (ofGrammars grammars).owners.lookup extension =
      (grammars.reverse.find? fun grammar => extension ∈ grammar.extensions.map String.toList).map (·.dialect) := by
  induction grammars using List.reverseRecOn with
  | nil => rfl
  | append_singleton grammars grammar ih =>
    rw [ofGrammars_concat, lookup_owners_register, ih, List.reverse_concat]
    by_cases has : extension ∈ grammar.extensions.map String.toList
    · rw [if_pos has, List.find?_cons_of_pos (by simpa using has), Option.map_some]
    · rw [if_neg has, List.find?_cons_of_neg (by simpa using has)]

theorem exists_latest? (member : grammar ∈ grammars) : ∃ last, latest? grammars grammar.dialect = some last :=
  Option.isSome_iff_exists.mp
    (List.find?_isSome.mpr ⟨grammar, List.mem_reverse.mpr member, beq_self_eq_true grammar.dialect⟩)

theorem latest?_spec {last : Grammar} (found : latest? grammars dialect = some last) :
    last ∈ grammars ∧ last.dialect = dialect := by
  have told := List.find?_some found
  exact ⟨List.mem_reverse.mp (List.mem_of_find?_eq_some found), eq_of_beq told⟩

theorem mem_dialects_iff : dialect ∈ (ofGrammars grammars).dialects ↔ ∃ grammar ∈ grammars, grammar.dialect = dialect := by
  rw [dialects, Entries.mem_keys_iff]
  constructor
  · rintro ⟨last, found⟩
    have latest := (ofDialect?_ofGrammars grammars dialect).symm.trans found
    exact ⟨last, latest?_spec latest⟩
  · rintro ⟨grammar, member, rfl⟩
    obtain ⟨last, latest⟩ := exists_latest? member
    exact ⟨last, (ofDialect?_ofGrammars grammars grammar.dialect).trans latest⟩

theorem owner_registered (owned : (ofGrammars grammars).owners.lookup extension = some dialect) :
    dialect ∈ (ofGrammars grammars).dialects := by
  rw [lookup_owners_ofGrammars, Option.map_eq_some_iff] at owned
  obtain ⟨grammar, found, rfl⟩ := owned
  exact mem_dialects_iff.mpr ⟨grammar, List.mem_reverse.mp (List.mem_of_find?_eq_some found), rfl⟩

end

/-! ## The dialects of the library -/

/-- The grammars of the dialects, each with the windows it was registered with. -/
def registered (calls : List (Dialect × Windows)) : List Grammar :=
  calls.map fun (dialect, windows) => dialect.grammar windows

def Owns (dialect : Dialect) (extension : Text) : Prop :=
  extension ∈ (dialect.grammar {}).extensions.map String.toList

theorem owns_apart : ∀ dialect ∈ Dialect.all, ∀ extension ∈ (dialect.grammar {}).extensions,
    extension.toList ≠ [] ∧ ∀ other ∈ Dialect.all, extension ∈ (other.grammar {}).extensions → other = dialect := by
  decide

section
variable {calls : List (Dialect × Windows)} {dialect : Dialect} {extension path : Text} {grammar : Grammar}

theorem Owns.unique {other : Dialect} (owns : Owns dialect extension) (owns_too : Owns other extension) :
    other = dialect := by
  obtain ⟨name, member, rfl⟩ := List.mem_map.mp owns
  obtain ⟨name_too, member_too, same⟩ := List.mem_map.mp owns_too
  obtain rfl := String.toList_inj.mp same
  exact (owns_apart dialect dialect.mem_all _ member).2 other other.mem_all member_too

theorem Owns.ne_nil (owns : Owns dialect extension) : extension ≠ [] := by
  obtain ⟨name, member, rfl⟩ := List.mem_map.mp owns
  exact (owns_apart dialect dialect.mem_all name member).1

theorem lookup_owners_registered :
    (ofGrammars (registered calls)).owners.lookup extension = some dialect ↔
      Owns dialect extension ∧ ∃ grammar, latest? (registered calls) dialect = some grammar := by
  have of_registered {grammar : Grammar} (member : grammar ∈ registered calls) :
      extension ∈ grammar.extensions.map String.toList ↔ Owns grammar.dialect extension := by
    obtain ⟨call, _, rfl⟩ := List.mem_map.mp member
    rw [Owns, Dialect.extensions_grammar, Dialect.dialect_grammar]
  rw [lookup_owners_ofGrammars, Option.map_eq_some_iff]
  constructor
  · rintro ⟨grammar, found, rfl⟩
    have member := List.mem_reverse.mp (List.mem_of_find?_eq_some found)
    have told := List.find?_some found
    exact ⟨(of_registered member).mp (of_decide_eq_true told), exists_latest? member⟩
  · rintro ⟨owns, grammar, latest⟩
    obtain ⟨member, rfl⟩ := latest?_spec latest
    obtain ⟨last, found⟩ : ∃ last, (registered calls).reverse.find?
        (fun grammar => extension ∈ grammar.extensions.map String.toList) = some last :=
      Option.isSome_iff_exists.mp (List.find?_isSome.mpr
        ⟨grammar, List.mem_reverse.mpr member, decide_eq_true ((of_registered member).mpr owns)⟩)
    have told := List.find?_some found
    have last_owns := (of_registered (List.mem_reverse.mp (List.mem_of_find?_eq_some found))).mp (of_decide_eq_true told)
    exact ⟨last, found, owns.unique last_owns⟩

theorem ofFile?_registered :
    (ofGrammars (registered calls)).ofFile? path = some grammar ↔
      ∃ suffix dialect, HasSuffix path suffix ∧ Owns dialect ('.' :: suffix.lower) ∧
        latest? (registered calls) dialect = some grammar := by
  rw [ofFile?, Option.bind_eq_some_iff]
  simp only [lookup_owners_registered, ofDialect?_ofGrammars]
  constructor
  · rintro ⟨dialect, ⟨owns, _⟩, latest⟩
    obtain ⟨suffix, has⟩ := exists_suffix owns.ne_nil
    exact ⟨suffix, dialect, has, extension_of_suffix has ▸ owns, latest⟩
  · rintro ⟨suffix, dialect, has, owns, latest⟩
    exact ⟨dialect, ⟨(extension_of_suffix has).symm ▸ owns, grammar, latest⟩, latest⟩

theorem latest?_swap (before after : List Grammar) {first second : Grammar} (apart : first.dialect ≠ second.dialect)
    (dialect : Dialect) :
    latest? (before ++ second :: first :: after) dialect = latest? (before ++ first :: second :: after) dialect := by
  have pair : [first, second].find? (·.dialect == dialect) = [second, first].find? (·.dialect == dialect) := by
    by_cases same : first.dialect = dialect
    · have other : ¬ second.dialect = dialect := fun same_too => apart (same.trans same_too.symm)
      simp [same, other]
    · simp [List.find?_cons, same]
  have cut (one two : Grammar) : (before ++ one :: two :: after).reverse = after.reverse ++ [two, one] ++ before.reverse := by
    simp
  rw [latest?, latest?, cut, cut, List.find?_append, List.find?_append, pair, ← List.find?_append, ← List.find?_append]

end

/-- Two registries give the same answers. -/
structure SameLookups (registry other : Registry) : Prop where
  ofDialect?_eq : ∀ dialect, registry.ofDialect? dialect = other.ofDialect? dialect
  ofLanguage?_eq : ∀ id, registry.ofLanguage? id = other.ofLanguage? id
  ofFile?_eq : ∀ path, registry.ofFile? path = other.ofFile? path
  supports_eq : ∀ path, registry.supports path = other.supports path

theorem sameLookups_of_latest? {calls others : List (Dialect × Windows)}
    (same : ∀ dialect, latest? (registered calls) dialect = latest? (registered others) dialect) :
    SameLookups (ofGrammars (registered calls)) (ofGrammars (registered others)) := by
  have dialects (dialect : Dialect) : (ofGrammars (registered calls)).ofDialect? dialect =
      (ofGrammars (registered others)).ofDialect? dialect := by
    rw [ofDialect?_ofGrammars, ofDialect?_ofGrammars, same]
  have files (path : Text) : (ofGrammars (registered calls)).ofFile? path =
      (ofGrammars (registered others)).ofFile? path := by
    refine Option.ext fun grammar => ?_
    rw [ofFile?_registered, ofFile?_registered]
    simp only [same]
  refine ⟨dialects, fun id => ?_, files, fun path => ?_⟩
  · rw [ofLanguage?, ofLanguage?]
    exact congrArg _ (funext dialects)
  · rw [supports, supports, files]

/-- After any row of registrations every extension leads to a dialect that is registered, and every lookup to the
grammar that was registered last for its dialect: that of a file to the dialect that owns the suffix of its name.
Neighbours of different dialects might as well have been registered the other way round. -/
theorem lookups_after (calls : List (Dialect × Windows)) :
    let grammars := registered calls
    let registry := ofGrammars grammars
    (∀ extension ∈ registry.extensions, ∃ dialect ∈ registry.dialects,
      registry.owners.lookup extension.toList = some dialect) ∧
    (∀ path grammar, registry.ofFile? path = some grammar ↔
      ∃ suffix dialect, HasSuffix path suffix ∧ Owns dialect ('.' :: suffix.lower) ∧
        latest? grammars dialect = some grammar) ∧
    (∀ dialect, registry.ofDialect? dialect = latest? grammars dialect) ∧
    (∀ id, registry.ofLanguage? id = (Dialect.ofLanguage? id).bind (latest? grammars)) ∧
    (∀ path, registry.supports path = true ↔ ∃ grammar, registry.ofFile? path = some grammar) ∧
    ∀ before first second after, calls = before ++ first :: second :: after → first.1 ≠ second.1 →
      SameLookups (ofGrammars (registered (before ++ second :: first :: after))) registry := by
  intro grammars registry
  refine ⟨fun extension member => ?_, fun path grammar => ofFile?_registered, ofDialect?_ofGrammars grammars,
    fun id => congrArg _ (funext (ofDialect?_ofGrammars grammars)), fun path => Option.isSome_iff_exists, ?_⟩
  · obtain ⟨entry, entry_member, rfl⟩ := List.mem_map.mp member
    obtain ⟨dialect, owned⟩ := Entries.mem_keys_iff.mp (List.mem_map_of_mem entry_member)
    exact ⟨dialect, owner_registered owned, by rw [String.toList_ofList, owned]⟩
  · rintro before first second after rfl apart
    refine sameLookups_of_latest? fun dialect => ?_
    have grammars_apart : (first.1.grammar first.2).dialect ≠ (second.1.grammar second.2).dialect := by
      rwa [Dialect.dialect_grammar, Dialect.dialect_grammar]
    have moved := latest?_swap (registered before) (registered after) grammars_apart dialect
    simpa [registered] using moved

-- A dialect that is registered again, and a file in a folder whose name has a dot.
theorem lookups_after_again :
    let calls : List (Dialect × Windows) := [(.apex, {}), (.javaScript, {}), (.apex, { declaration := 7 })]
    let swapped : List (Dialect × Windows) := [(.javaScript, {}), (.apex, {}), (.apex, { declaration := 7 })]
    let registry := ofGrammars (registered calls)
    registry.ofFile? "force.app\\Card.CLS".toList = some (Dialect.apex.grammar { declaration := 7 }) ∧
    registry.ofLanguage? " Apex".toList = some (Dialect.apex.grammar { declaration := 7 }) ∧
    registry.supports "force.app\\Card.CLS".toList = true ∧ Dialect.apex ≠ Dialect.javaScript ∧
    SameLookups (ofGrammars (registered swapped)) registry := by
  intro calls swapped registry
  have has : HasSuffix "force.app\\Card.CLS".toList "CLS".toList :=
    ⟨"Card".toList, ⟨"force.app\\".toList, by decide, by decide, fun c last => .inr (Option.some.inj last).symm⟩,
      by decide⟩
  have owns : Owns .apex ('.' :: Text.lower "CLS".toList) := by
    unfold Owns
    decide +kernel
  obtain ⟨_, files, _, languages, supported, neighbours⟩ := lookups_after calls
  have found := (files "force.app\\Card.CLS".toList (Dialect.apex.grammar { declaration := 7 })).mpr
    ⟨_, .apex, has, owns, rfl⟩
  have language : Dialect.ofLanguage? " Apex".toList = some .apex := by decide +kernel
  refine ⟨found, ?_, (supported _).mpr ⟨_, found⟩, by decide, ?_⟩
  · rw [languages, language]
    rfl
  · exact neighbours [] (.apex, {}) (.javaScript, {}) [(.apex, { declaration := 7 })] rfl (by decide)

end Registry

end Docblock
