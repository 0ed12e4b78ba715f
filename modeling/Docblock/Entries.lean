/-! Values under keys, kept in the order in which the keys came first. -/

set_option autoImplicit false

namespace Docblock

abbrev Entries (κ α : Type) := List (κ × α)

namespace Entries

variable {κ α : Type} [BEq κ]

/-- Sets the value of a key: one that is already there keeps its place, a new one comes last. -/
def set (key : κ) (value : α) : Entries κ α → Entries κ α
  | [] => [(key, value)]
  | entry :: rest => if entry.1 == key then (key, value) :: rest else entry :: set key value rest

/-- The entries of a list in which keys may repeat: each with its first place and its last value. -/
def gather (entries : List (κ × α)) : Entries κ α :=
  entries.foldl (fun gathered (key, value) => set key value gathered) []

variable [LawfulBEq κ]

theorem lookup_set_self (key : κ) (value : α) (entries : Entries κ α) :
    (set key value entries).lookup key = some value := by
  induction entries with
  | nil => simp [set]
  | cons entry rest ih =>
    obtain ⟨first, old⟩ := entry
    by_cases h : first = key
    · simp [set, h]
    · have apart : (key == first) = false := by simpa using Ne.symm h
      simp [set, h, List.lookup_cons, apart, ih]

theorem lookup_set_of_ne {key other : κ} (h : other ≠ key) (value : α) (entries : Entries κ α) :
    (set key value entries).lookup other = entries.lookup other := by
  induction entries with
  | nil =>
    have apart : (other == key) = false := by simpa using h
    simp [set, List.lookup_cons, apart]
  | cons entry rest ih =>
    obtain ⟨first, old⟩ := entry
    by_cases same : first = key
    · subst same
      have apart : (other == first) = false := by simpa using h
      simp [set, List.lookup_cons, apart]
    · simp [set, same, List.lookup_cons, ih]

theorem set_of_not_mem {key : κ} {entries : Entries κ α} (fresh : key ∉ entries.map (·.1)) (value : α) :
    set key value entries = entries ++ [(key, value)] := by
  induction entries with
  | nil => rfl
  | cons entry rest ih =>
    obtain ⟨apart, fresh_below⟩ := not_or.mp (mt List.mem_cons.mpr fresh)
    have passed : (entry.1 == key) = false := by simpa using Ne.symm apart
    simp [set, passed, ih fresh_below]

theorem mem_keys_iff {entries : Entries κ α} {key : κ} :
    key ∈ entries.map (·.1) ↔ ∃ value, entries.lookup key = some value := by
  constructor
  · intro member
    obtain ⟨entry, entry_member, rfl⟩ := List.mem_map.mp member
    refine Option.ne_none_iff_exists'.mp fun absent => ?_
    simpa using List.lookup_eq_none_iff.mp absent entry entry_member
  · rintro ⟨value, held⟩
    refine Classical.byContradiction fun absent => ?_
    have missed : entries.lookup key = none := by
      refine List.lookup_eq_none_iff.mpr fun entry member => ?_
      simpa using fun same : key = entry.1 => absent (List.mem_map.mpr ⟨entry, member, same.symm⟩)
    simp [missed] at held

end Entries

end Docblock
