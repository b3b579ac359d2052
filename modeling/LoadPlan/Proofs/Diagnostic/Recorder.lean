import LoadPlan.Diagnostic.Recorder
import LoadPlan.Proofs.Compile.Recording
import Mathlib.Data.Finset.Card
import Std.Data.HashSet.Lemmas

/-!
# What a recorder holds

A recorder keeps a log and, beside it, the set in which remarks are looked up.  Nothing but the way in which
it is written keeps the two in step.

* `Recorder.IsInStep` — what is looked up is what is recorded.  `IsInStep.submit` is one step of a run, and
  `IsInStep.submitAll` a run of any length.
* `IsInStep.log_submitAll` — while that holds, a recorder records what a log does that looks among its
  remarks themselves.
* `Recorder.Holds` — what a recorder holds after some submissions.
* **`Recorder.holds_ofSubmissions`** — every run leads to that.
-/

namespace LoadPlan

/-! ## Remarks by their texts

The severity of a remark is a word with two readings that matter.  No two words have the same reading, so
remarks differ exactly if one of their texts does.
-/

namespace Severity

@[simp] lemma name_ofName (name : Text) : (ofName name).name = name := by
  unfold ofName
  split_ifs with hwarning herror
  · exact hwarning.symm
  · exact herror.symm
  · rfl

lemma ofName_eq_error_iff {name : Text} : ofName name = error ↔ name = "error" := by
  constructor
  · intro h
    rw [← name_ofName name, h]
    rfl
  · rintro rfl
    rfl

end Severity

namespace Diagnostic

@[simp] lemma texts_ofTexts (texts : Text × Text × Text × Text) : (ofTexts texts).texts = texts := by
  simp [Diagnostic.texts, ofTexts]

lemma ofTexts_injective : Function.Injective ofTexts :=
  Function.LeftInverse.injective texts_ofTexts

end Diagnostic

namespace Submission

lemma diagnostic_eq (submission : Submission) : submission.diagnostic = .ofTexts submission.texts := by
  cases submission with
  | warn code message context => rfl
  | add severity code message context => rfl

lemma severity_diagnostic (submission : Submission) :
    submission.diagnostic.severity = .ofName submission.severity := by
  rw [diagnostic_eq]
  rfl

end Submission

namespace Recorder

variable {recorder : Recorder} {diagnostic : Diagnostic}

/-! ## One step -/

/-- **The log and the set are in step.** -/
def IsInStep (recorder : Recorder) : Prop := ∀ d, d ∈ recorder.seen ↔ d ∈ recorder.log.items

/-- Both ways of making a remark come to the same. -/
lemma submit_eq (recorder : Recorder) (submission : Submission) :
    recorder.submit submission = recorder.add submission.diagnostic := by
  cases submission with
  | warn code message context => rfl
  | add severity code message context => rfl

lemma isInStep_fresh : fresh.IsInStep := by
  intro d
  simp [fresh, Log.empty]

/-- A remark that is there already changes nothing. -/
lemma IsInStep.add_of_mem (h : recorder.IsInStep) (hmem : diagnostic ∈ recorder.log.items) :
    recorder.add diagnostic = recorder := if_pos ((h diagnostic).mpr hmem)

/-- A new remark is put at the end of the log, and into the set. -/
lemma IsInStep.add_of_notMem (h : recorder.IsInStep) (hnew : diagnostic ∉ recorder.log.items) :
    recorder.add diagnostic =
      ⟨⟨recorder.log.items ++ [diagnostic]⟩, recorder.seen.insert diagnostic⟩ :=
  if_neg fun hseen => hnew ((h diagnostic).mp hseen)

lemma IsInStep.submit (h : recorder.IsInStep) (submission : Submission) :
    (recorder.submit submission).IsInStep := by
  rw [submit_eq]
  by_cases hmem : submission.diagnostic ∈ recorder.log.items
  · rwa [h.add_of_mem hmem]
  · intro d
    rw [h.add_of_notMem hmem, Std.HashSet.mem_insert, h d, List.mem_append, List.mem_singleton, beq_iff_eq,
      or_comm, eq_comm]

/-- In step, a recorder records what a log does. -/
lemma IsInStep.log_submit (h : recorder.IsInStep) (submission : Submission) :
    (recorder.submit submission).log = recorder.log.add submission.diagnostic := by
  rw [submit_eq, Log.add]
  split_ifs with hmem
  · rw [h.add_of_mem hmem]
  · rw [h.add_of_notMem hmem]

/-- In step or not, what is recorded stays where it is. -/
lemma items_prefix_submit (recorder : Recorder) (submission : Submission) :
    recorder.log.items <+: (recorder.submit submission).log.items := by
  rw [submit_eq, add]
  split_ifs
  · exact List.prefix_rfl
  · exact List.prefix_append _ _

/-! ## Whole runs -/

@[simp] lemma submitAll_cons (recorder : Recorder) (submission : Submission) (later : List Submission) :
    recorder.submitAll (submission :: later) = (recorder.submit submission).submitAll later := rfl

lemma IsInStep.submitAll (h : recorder.IsInStep) (submissions : List Submission) :
    (recorder.submitAll submissions).IsInStep := by
  induction submissions generalizing recorder with
  | nil => exact h
  | cons submission later ih => exact ih (h.submit submission)

lemma items_prefix_submitAll (recorder : Recorder) (submissions : List Submission) :
    recorder.log.items <+: (recorder.submitAll submissions).log.items := by
  induction submissions generalizing recorder with
  | nil => exact List.prefix_rfl
  | cons submission later ih => exact (items_prefix_submit recorder submission).trans (ih _)

/-- **In step, a recorder records what a log does**, over a run of any length. -/
lemma IsInStep.log_submitAll (h : recorder.IsInStep) (submissions : List Submission) :
    (recorder.submitAll submissions).log =
      recorder.log.addAll (submissions.map Submission.diagnostic) := by
  induction submissions generalizing recorder with
  | nil => rfl
  | cons submission later ih =>
      rw [submitAll_cons, ih (h.submit submission), h.log_submit, List.map_cons, Log.addAll_cons]

/-- **A recorder of submissions has written their log.** -/
lemma log_ofSubmissions (submissions : List Submission) :
    (ofSubmissions submissions).log = Log.ofNotes (submissions.map Submission.diagnostic) :=
  isInStep_fresh.log_submitAll submissions

/-! ## What is held -/

/-- **What a recorder holds** after some submissions. -/
structure Holds (submissions : List Submission) (recorder : Recorder) : Prop where
  /-- The set in which remarks are looked up is the set of those that are recorded. -/
  seen_iff : ∀ d, d ∈ recorder.seen ↔ d ∈ recorder.log.items
  /-- The log is that of the remarks that have been submitted. -/
  log_eq : recorder.log = Log.ofNotes (submissions.map Submission.diagnostic)
  /-- Each of them is where it was submitted first, and nowhere else. -/
  items_eq : recorder.log.items = (submissions.map Submission.diagnostic).eraseDups
  /-- Their texts are the texts that have been submitted. -/
  texts_eq : recorder.log.items.map Diagnostic.texts = (submissions.map Submission.texts).eraseDups
  /-- There are as many as there are different submissions. -/
  size_eq : recorder.log.size = (submissions.map Submission.texts).toFinset.card
  /-- What is submitted again changes nothing. -/
  again : ∀ submission ∈ submissions, recorder.submit submission = recorder
  /-- Whatever is submitted later, the remarks stay where they are. -/
  stays : ∀ later, recorder.log.items <+: (recorder.submitAll later).log.items
  /-- An error has been recorded exactly if something has been submitted as an error. -/
  hasErrors_iff : recorder.log.hasErrors = true ↔ ∃ submission ∈ submissions, submission.severity = "error"

section

variable (submissions : List Submission)

lemma items_ofSubmissions :
    (ofSubmissions submissions).log.items = (submissions.map Submission.diagnostic).eraseDups := by
  rw [log_ofSubmissions, Log.ofNotes_eq_eraseDups]

lemma mem_items_ofSubmissions {d : Diagnostic} : d ∈ (ofSubmissions submissions).log.items ↔
    ∃ submission ∈ submissions, submission.diagnostic = d := by
  rw [items_ofSubmissions, List.mem_eraseDups, List.mem_map]

/-- The texts of the remarks are the texts that have been submitted, each of them once. -/
lemma texts_items_ofSubmissions : (ofSubmissions submissions).log.items.map Diagnostic.texts =
    (submissions.map Submission.texts).eraseDups := by
  have hremarks : submissions.map Submission.diagnostic =
      (submissions.map Submission.texts).map Diagnostic.ofTexts := by
    simp [Submission.diagnostic_eq]
  rw [items_ofSubmissions, hremarks, eraseDups_map Diagnostic.ofTexts_injective, List.map_map]
  simp [Function.comp_def]

lemma size_ofSubmissions :
    (ofSubmissions submissions).log.size = (submissions.map Submission.texts).toFinset.card := by
  have hsame : (submissions.map Submission.texts).eraseDups.toFinset =
      (submissions.map Submission.texts).toFinset := by
    ext texts
    simp
  calc (ofSubmissions submissions).log.size
      = ((ofSubmissions submissions).log.items.map Diagnostic.texts).length := by
        rw [List.length_map, Log.size]
    _ = (submissions.map Submission.texts).eraseDups.length := by rw [texts_items_ofSubmissions]
    _ = (submissions.map Submission.texts).eraseDups.toFinset.card :=
        (List.toFinset_card_of_nodup (nodup_eraseDups _)).symm
    _ = (submissions.map Submission.texts).toFinset.card := by rw [hsame]

lemma hasErrors_ofSubmissions : (ofSubmissions submissions).log.hasErrors = true ↔
    ∃ submission ∈ submissions, submission.severity = "error" := by
  simp only [Log.hasErrors, List.any_eq_true, decide_eq_true_eq, mem_items_ofSubmissions]
  constructor
  · rintro ⟨d, ⟨submission, hsubmitted, rfl⟩, herror⟩
    rw [Submission.severity_diagnostic, Severity.ofName_eq_error_iff] at herror
    exact ⟨submission, hsubmitted, herror⟩
  · rintro ⟨submission, hsubmitted, herror⟩
    refine ⟨submission.diagnostic, ⟨submission, hsubmitted, rfl⟩, ?_⟩
    rw [Submission.severity_diagnostic, Severity.ofName_eq_error_iff, herror]

/-- **What every run leads to.** -/
theorem holds_ofSubmissions : Holds submissions (ofSubmissions submissions) where
  seen_iff := isInStep_fresh.submitAll submissions
  log_eq := log_ofSubmissions submissions
  items_eq := items_ofSubmissions submissions
  texts_eq := texts_items_ofSubmissions submissions
  size_eq := size_ofSubmissions submissions
  again := by
    intro submission hsubmitted
    rw [submit_eq]
    refine (isInStep_fresh.submitAll submissions).add_of_mem ?_
    exact (mem_items_ofSubmissions submissions).mpr ⟨submission, hsubmitted, rfl⟩
  stays := items_prefix_submitAll _
  hasErrors_iff := hasErrors_ofSubmissions submissions

end

end Recorder

end LoadPlan
