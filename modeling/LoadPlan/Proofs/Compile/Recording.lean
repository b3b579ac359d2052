import LoadPlan.Proofs.Compile.Remarks
import LoadPlan.Proofs.Distinct
import Mathlib.Data.List.Induction

/-!
# Recording

All stages of a compilation record their remarks in one log.

* `Report.recordedIn` — a run that begins with a log, in which something may be recorded already.
* **`Report.recordedIn_bind`** — one stage after another: the second begins with the log of the first.
* **`Log.ofNotes_eq_eraseDups`** — a log holds the remarks that were made, each of them where it was made
  first.
* `Log.filter_addAll`, `Log.addAll_of_mem`, `Log.addAll_of_nodup` — the part of a log that a test picks out,
  and what becomes of remarks that are there already, and of those that are new.
-/

namespace LoadPlan

namespace Report

variable {α β : Type}

/-- **A run that begins with a log**: its outcome, and the log in which its remarks have been recorded. -/
def recordedIn (report : Report α) (log : Log) : Except Fault α × Log :=
  (report.outcome, log.addAll report.notes)

/-- **One stage after another**: the second begins with the log of the first, unless that stopped. -/
theorem recordedIn_bind (report : Report α) (next : α → Report β) (log : Log) :
    (report >>= next).recordedIn log =
      match report.recordedIn log with
      | (.ok a, later) => (next a).recordedIn later
      | (.error fault, later) => (.error fault, later) := by
  unfold recordedIn
  cases h : report.outcome with
  | error fault => rw [bind_of_error h]
  | ok a =>
      rw [bind_of_ok h]
      exact congrArg (Prod.mk _) List.foldl_append

lemma recordedIn_of_outcome {report : Report α} {outcome : Except Fault α} (h : report.outcome = outcome)
    (log : Log) : report.recordedIn log = (outcome, log.addAll report.notes) :=
  congrArg (Prod.mk · _) h

/-- What is in the log after a run was there before, or has been remarked in it. -/
lemma mem_of_recordedIn {report : Report α} {outcome : Except Fault α} {log later : Log}
    (h : report.recordedIn log = (outcome, later)) :
    report.outcome = outcome ∧ ∀ d, d ∈ later.items ↔ d ∈ log.items ∨ d ∈ report.notes := by
  obtain ⟨rfl, rfl⟩ := Prod.mk.inj h
  exact ⟨rfl, fun d => Log.mem_addAll⟩

end Report

namespace Log

variable {log : Log} {notes : List Diagnostic}

lemma addAll_cons (note : Diagnostic) (notes : List Diagnostic) :
    log.addAll (note :: notes) = (log.add note).addAll notes := rfl

lemma addAll_append (notes more : List Diagnostic) :
    log.addAll (notes ++ more) = (log.addAll notes).addAll more := List.foldl_append

/-- Remarks that are there already are not recorded again. -/
lemma addAll_of_mem : ∀ {notes : List Diagnostic}, (∀ d ∈ notes, d ∈ log.items) → log.addAll notes = log
  | [], _ => rfl
  | note :: notes, h => by
      rw [List.forall_mem_cons] at h
      rw [addAll_cons, add, if_pos h.1]
      exact addAll_of_mem h.2

/-- Remarks that are new and distinct are all recorded, in their order. -/
lemma addAll_of_nodup : ∀ {notes : List Diagnostic} {log : Log}, (log.items ++ notes).Nodup →
    (log.addAll notes).items = log.items ++ notes
  | [], log, _ => (List.append_nil _).symm
  | note :: notes, log, h => by
      have hnew : note ∉ log.items := fun hmem =>
        (List.nodup_append.mp h).2.2 note hmem note List.mem_cons_self rfl
      rw [addAll_cons, add, if_neg hnew, addAll_of_nodup (by simpa using h)]
      exact List.append_assoc _ _ _

/-- **A log holds the remarks that were made**, each of them where it was made first. -/
lemma ofNotes_eq_eraseDups (notes : List Diagnostic) : (ofNotes notes).items = notes.eraseDups := by
  induction notes using List.reverseRecOn with
  | nil => rfl
  | append_singleton notes note ih =>
      have hadd : ofNotes (notes ++ [note]) = (ofNotes notes).add note := addAll_append notes [note]
      rw [hadd, eraseDups_concat, add, apply_ite items, ih]
      simp only [List.mem_eraseDups]

/-- **The part of a log that a test picks out** is the log of the remarks that it picks out. -/
lemma filter_addAll (test : Diagnostic → Bool) : ∀ (notes : List Diagnostic) (log : Log),
    (log.addAll notes).items.filter test =
      (addAll ⟨log.items.filter test⟩ (notes.filter test)).items
  | [], _ => rfl
  | note :: notes, log => by
      rw [addAll_cons, filter_addAll test notes, List.filter_cons]
      cases htest : test note with
      | true =>
          have hmem : note ∈ log.items.filter test ↔ note ∈ log.items := by
            rw [List.mem_filter, htest]
            exact and_iff_left rfl
          have hadd : (log.add note).items.filter test = (add ⟨log.items.filter test⟩ note).items := by
            unfold add
            simp only [hmem]
            split_ifs
            · rfl
            · rw [List.filter_append, List.filter_singleton, htest]
              rfl
          rw [if_pos rfl, addAll_cons, hadd]
      | false =>
          have hadd : (log.add note).items.filter test = log.items.filter test := by
            unfold add
            split_ifs
            · rfl
            · rw [List.filter_append, List.filter_singleton, htest]
              exact List.append_nil _
          rw [if_neg Bool.false_ne_true, hadd]

end Log

end LoadPlan
