import LoadPlan.Diagnostic
import Std.Data.HashSet.Basic

/-!
# Recorders

A log that is being written.  Whether a remark is new is not looked up among the remarks, of which
there may be many, but in a set that is kept beside them.

* `Recorder` — a log so far, and the set of its remarks.
* `Recorder.add`, `Recorder.warn` — recording one remark.
* `Submission` — a remark by its texts, in one of the two ways in which it can be made.
* `Recorder.submit`, `Recorder.submitAll`, `Recorder.ofSubmissions` — recording what is submitted.
-/

namespace LoadPlan

/-! ## Remarks by their texts -/

instance : Hashable Rune := ⟨fun r => hash r.code⟩

namespace Diagnostic

/-- The four texts of a remark. -/
def texts (diagnostic : Diagnostic) : Text × Text × Text × Text :=
  (diagnostic.severity.name, diagnostic.code, diagnostic.message, diagnostic.context)

/-- The remark of four texts. -/
def ofTexts : Text × Text × Text × Text → Diagnostic
  | (severity, code, message, context) => ⟨.ofName severity, code, message, context⟩

/-- Remarks of the same texts have the same place in a set. -/
instance : Hashable Diagnostic := ⟨fun diagnostic => hash diagnostic.texts⟩

end Diagnostic

/-- **A remark that is submitted.** -/
inductive Submission where
  /-- As a warning. -/
  | warn (code message context : Text)
  /-- With a word for how grave it is. -/
  | add (severity code message context : Text)

namespace Submission

/-- The four texts of what is submitted; a warning is called one. -/
def texts : Submission → Text × Text × Text × Text
  | warn code message context => ("warning", code, message, context)
  | add severity code message context => (severity, code, message, context)

/-- The word for how grave it is. -/
def severity (submission : Submission) : Text := submission.texts.1

/-- The remark that is submitted. -/
def diagnostic : Submission → Diagnostic
  | warn code message context => ⟨.warning, code, message, context⟩
  | add severity code message context => ⟨.ofName severity, code, message, context⟩

end Submission

/-! ## Recording -/

/-- **A log that is being written.** -/
structure Recorder where
  /-- What has been written. -/
  log : Log
  /-- The remarks that have been made. -/
  seen : Std.HashSet Diagnostic

namespace Recorder

/-- The recorder of a run that begins. -/
def fresh : Recorder := ⟨.empty, ∅⟩

/-- Records a remark, unless it has been seen. -/
def add (recorder : Recorder) (diagnostic : Diagnostic) : Recorder :=
  if diagnostic ∈ recorder.seen then recorder
  else ⟨⟨recorder.log.items ++ [diagnostic]⟩, recorder.seen.insert diagnostic⟩

/-- Records a warning. -/
def warn (recorder : Recorder) (code message context : Text) : Recorder :=
  recorder.add ⟨.warning, code, message, context⟩

/-- Records what is submitted. -/
def submit (recorder : Recorder) : Submission → Recorder
  | .warn code message context => recorder.warn code message context
  | .add severity code message context => recorder.add ⟨.ofName severity, code, message, context⟩

/-- Records what is submitted one after another. -/
def submitAll (recorder : Recorder) (submissions : List Submission) : Recorder :=
  submissions.foldl submit recorder

/-- **The recorder after some submissions.** -/
def ofSubmissions (submissions : List Submission) : Recorder := fresh.submitAll submissions

end Recorder

end LoadPlan
