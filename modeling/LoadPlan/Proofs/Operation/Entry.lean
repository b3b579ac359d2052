import LoadPlan.Proofs.Operation.Listing

/-!
# Entries of operations

Which entries of a path are operations, and what it means that a document has none.

* `IsOperationEntry`, `HasOperation` — an entry that is an operation, and paths that have one.
* **`operations_eq_nil_iff`** — a specification has no operations exactly if its paths have none.
-/

namespace LoadPlan

/-- **The entry of an operation**: its key names a method, and its value is a mapping. -/
def IsOperationEntry (entry : Value × Value) : Prop :=
  (∃ method, entry.1.NamesMethod method) ∧ ∃ raw, entry.2 = .map raw

/-- **Whether a path has an operation.** -/
def HasOperation (paths : Entries) : Prop :=
  ∃ path ∈ paths, ∃ entries, path.2 = .map entries ∧ ∃ entry ∈ entries, IsOperationEntry entry

/-- An entry of an operation declares one. -/
lemma isOperation_iff {path : Value} {item : Entries} {key value : Value} :
    PathEntry.IsOperation ⟨path, item, key, value⟩ ↔ IsOperationEntry (key, value) := by
  constructor
  · rintro ⟨method, raw, ⟨shown, hshown, hkey⟩, hvalue⟩
    exact ⟨⟨method, (ofKey?_lower_shown hshown method).mp (Method.ofKey?_eq_some_iff.mpr hkey)⟩, raw, hvalue⟩
  · rintro ⟨⟨method, name, hname, hkey⟩, raw, hvalue⟩
    obtain rfl : key = .text name := hname
    refine ⟨method, raw, ⟨name, rfl, ?_⟩, hvalue⟩
    exact (Text.lower_eq_iff method.ascii_key).mpr hkey

/-- Paths have an operation if one of their entries declares one. -/
lemma hasOperation_iff {paths : Entries} :
    HasOperation paths ↔ ∃ entry ∈ Operation.entriesOf paths, entry.IsOperation := by
  constructor
  · rintro ⟨⟨path, item⟩, hpath, entries, rfl, ⟨key, value⟩, hentry, hoperation⟩
    exact ⟨⟨path, entries, key, value⟩,
      List.mem_flatMap.mpr ⟨_, hpath, List.mem_map_of_mem hentry⟩, isOperation_iff.mpr hoperation⟩
  · rintro ⟨entry, hentry, hoperation⟩
    obtain ⟨⟨path, item⟩, hpath, hentry⟩ := List.mem_flatMap.mp hentry
    unfold Operation.entriesAt at hentry
    split at hentry
    · rename_i entries hentries
      obtain ⟨⟨key, value⟩, hmem, rfl⟩ := List.mem_map.mp hentry
      exact ⟨_, hpath, entries, Value.entries?_eq_some_iff.mp hentries, _, hmem,
        isOperation_iff.mp hoperation⟩
    · cases hentry

/-- **A specification has no operations exactly if its paths have none.** -/
lemma operations_eq_nil_iff {spec : Specification} {operations : List Operation}
    (h : spec.operations = .ok operations) : operations = [] ↔ ¬ HasOperation spec.paths := by
  rw [(selects_operations h).eq_nil_iff, hasOperation_iff]
  simp only [not_exists, not_and]
  rfl

end LoadPlan
