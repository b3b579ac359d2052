import LoadPlan.Text

/-!
# Diagnostics

What is worth telling about a document that can be compiled nevertheless, or why it cannot.

* `Diagnostic` — one remark.
* `Log` — the remarks of one run, in the order in which they were first made.  A remark that is made
  again is not repeated, so a schema that is met many times is reported once.
* `Log.add`, `Log.addAll`, `Log.ofNotes` — recording.
-/

namespace LoadPlan

/-- **How grave a remark is.** -/
inductive Severity where
  /-- The document is compiled, but not in all respects as written. -/
  | warning
  /-- The document is not compiled. -/
  | error
  /-- Any other word. -/
  | other (name : Text)
deriving DecidableEq

namespace Severity

def ofName (name : Text) : Severity :=
  if name = "warning" then warning else if name = "error" then error else other name

def name : Severity → Text
  | warning => "warning"
  | error => "error"
  | other name => name

end Severity

/-- **A remark** about a document. -/
structure Diagnostic where
  /-- How grave it is. -/
  severity : Severity
  /-- Its kind. -/
  code : Text
  /-- What it says. -/
  message : Text
  /-- The place that it is about. -/
  context : Text
deriving DecidableEq

/-- **The remarks of one run**, each one once. -/
structure Log where
  /-- The remarks, in the order in which they were first made. -/
  items : List Diagnostic

namespace Log

/-- The log in which nothing is recorded. -/
def empty : Log := ⟨[]⟩

/-- Records a remark, unless it is there already. -/
def add (log : Log) (diagnostic : Diagnostic) : Log :=
  if diagnostic ∈ log.items then log else ⟨log.items ++ [diagnostic]⟩

/-- Records remarks one after another. -/
def addAll (log : Log) (notes : List Diagnostic) : Log := notes.foldl add log

/-- **The log of a sequence of remarks.** -/
def ofNotes (notes : List Diagnostic) : Log := empty.addAll notes

/-- Whether an error has been recorded. -/
def hasErrors (log : Log) : Bool := log.items.any (·.severity = .error)

/-- The number of remarks that have been recorded. -/
def size (log : Log) : Nat := log.items.length

/-- What has been recorded since an earlier state of the log. -/
def since (log earlier : Log) : List Diagnostic := log.items.drop earlier.size

end Log

end LoadPlan
