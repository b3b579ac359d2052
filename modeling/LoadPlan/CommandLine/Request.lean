import LoadPlan.CommandLine.Call
import LoadPlan.Folder
import LoadPlan.Number.Numeral
import LoadPlan.Operation.Group

/-!
# Requests

What a call asks for, once its values have been looked at.

* `Overrides` — the options of a plan that are given on the command line.
* `Request` — a request.
* `Request.ofCall` — the request of a call in a folder.  What is read has to be a file, and where
  something is written no directory may stand.
-/

namespace LoadPlan.CommandLine

/-- **The options of a plan that are given on the command line.** -/
structure Overrides where
  /-- The number of virtual users of a group. -/
  threadCount? : Option Nat := none
  /-- The seconds in which they are started. -/
  rampUpTime? : Option Nat := none
  /-- How often each of them repeats the requests. -/
  loopCount? : Option Nat := none
  /-- The seconds after which a test ends. -/
  duration? : Option Nat := none
  /-- The address that requests go to. -/
  baseUrl? : Option Text := none
  /-- The name of the plan. -/
  testPlanName? : Option Text := none
  /-- The way to group operations. -/
  groupingStrategy? : Option Strategy := none
  /-- Whether responses are checked. -/
  addAssertions? : Option Bool := none
  /-- Whether fields of responses are kept. -/
  addCorrelation? : Option Bool := none
  /-- Whether groups read test data from a file. -/
  generateCsvConfig? : Option Bool := none
  /-- Whether groups have listeners. -/
  enableReporting? : Option Bool := none

namespace Overrides

/-- The options as entries of a configuration, without those that are not given. -/
def toEntries (overrides : Overrides) : Entries :=
  let entry (name : Text) (value? : Option Value) : Entries :=
    (value?.map fun value => (Value.text name, value)).toList
  let count (n : Nat) : Value := .int n
  entry "thread_count" (overrides.threadCount?.map count)
    ++ entry "ramp_up_time" (overrides.rampUpTime?.map count)
    ++ entry "loop_count" (overrides.loopCount?.map count)
    ++ entry "duration" (overrides.duration?.map count)
    ++ entry "base_url" (overrides.baseUrl?.map Value.text)
    ++ entry "test_plan_name" (overrides.testPlanName?.map Value.text)
    ++ entry "grouping_strategy" (overrides.groupingStrategy?.map fun s => .text s.name)
    ++ entry "add_assertions" (overrides.addAssertions?.map Value.bool)
    ++ entry "add_correlation" (overrides.addCorrelation?.map Value.bool)
    ++ entry "generate_csv_config" (overrides.generateCsvConfig?.map Value.bool)
    ++ entry "enable_reporting" (overrides.enableReporting?.map Value.bool)

end Overrides

/-- **A request.** -/
inductive Request where
  /-- To generate a plan from the document in a file. -/
  | generate (document : Text) (output? options? : Option Text) (overrides : Overrides)
  /-- To list the operations of the document in a file. -/
  | list (document : Text) (strategy : Strategy) (asJson : Bool)

namespace Request

/-- A value that has to be an integer of at least one. -/
def count (value : Text) : Except Refusal Nat :=
  match readInteger? 10 value.toChars with
  | some number => if 1 ≤ number then .ok number.toNat else .error .misuse
  | none => .error .misuse

/-- A value that has to be the name of a way to group operations. -/
def strategy (value : Text) : Except Refusal Strategy :=
  match Strategy.ofName? value with
  | some strategy => .ok strategy
  | none => .error .misuse

/-- A value that has to be a path as far as it can be looked at. -/
def usablePath (value : Text) : Except Refusal Text :=
  if pathEnd ∈ value then .error (.broken .unusablePath) else .ok value

def existingFile (folder : Folder) (value : Text) : Except Refusal Text := do
  let path ← usablePath value
  if folder.hasFile path then return path else throw .misuse

/-- A value that has to lead to a place where a file can be written; no directory may be there. -/
def writablePlace (folder : Folder) (value : Text) : Except Refusal Text := do
  let path ← usablePath value
  if folder.hasDirectory path then throw .misuse else return path

/-- The value of an option that need not be given, by any of its names. -/
def optional {α : Type} (words : Words) (names : List Text) (read : Text → Except Refusal α) :
    Except Refusal (Option α) :=
  match words.last? names with
  | none => .ok none
  | some value => (read value).map some

/-- The names of the options that are integers. -/
def countNames : List Text := ["--threads", "--rampup", "--loops", "--duration"]

/-- Whether the value that counts for an option is accepted. -/
def checkOption (folder : Folder) (words : Words) (name : Text) : Except Refusal Unit :=
  let check {α : Type} (names : List Text) (read : Text → Except Refusal α) :
      Except Refusal Unit :=
    (optional words names read).map fun _ => ()
  if outputNames.contains name then check outputNames (writablePlace folder)
  else if name = "--config" then check [name] (existingFile folder)
  else if name = "--group-by" then check [name] strategy
  else if countNames.contains name then check [name] count
  else .ok ()

/-- **Whether the values of all options are accepted.**  They are looked at in the order in which
the options are mentioned first. -/
def checkOptions (folder : Folder) (words : Words) : Except Refusal Unit :=
  words.options.forM fun (name, _) => checkOption folder words name

/-- The one operand of a command, which has to lead to a file. -/
def operand (folder : Folder) (words : Words) : Except Refusal Text :=
  match words.operands with
  | [] => .error .misuse
  | document :: more => do
    let path ← existingFile folder document
    if more.isEmpty then return path else throw .misuse

def ofGenerate (folder : Folder) (words : Words) : Except Refusal Request := do
  checkOptions folder words
  let document ← operand folder words
  let threadCount? ← optional words ["--threads"] count
  let rampUpTime? ← optional words ["--rampup"] count
  let loopCount? ← optional words ["--loops"] count
  let duration? ← optional words ["--duration"] count
  let groupingStrategy? ← optional words ["--group-by"] strategy
  let overrides : Overrides :=
    { threadCount?, rampUpTime?, loopCount?, duration?, groupingStrategy?
      baseUrl? := words.last? ["--base-url"]
      testPlanName? := words.last? ["--name"]
      addAssertions? := words.choice? "--assertions" "--no-assertions"
      addCorrelation? := words.choice? "--correlation" "--no-correlation"
      generateCsvConfig? := words.choice? "--csv-config" "--no-csv-config"
      enableReporting? := words.choice? "--reporting" "--no-reporting" }
  return .generate document (words.last? outputNames) (words.last? ["--config"]) overrides

def ofList (folder : Folder) (words : Words) : Except Refusal Request := do
  checkOptions folder words
  let document ← operand folder words
  let strategy? ← optional words ["--group-by"] strategy
  return .list document (strategy?.getD .byTag) (words.has "--json")

/-- **The request of a call** in a folder. -/
def ofCall (folder : Folder) (call : Call) : Except Refusal Request :=
  match call.command with
  | .generate => ofGenerate folder call.words
  | .list => ofList folder call.words

end Request

end LoadPlan.CommandLine
