import LoadPlan.CommandLine.Console
import LoadPlan.CommandLine.Request
import LoadPlan.CommandLine.Source
import LoadPlan.Compile
import LoadPlan.Json.Writer
import LoadPlan.Text.LetterCase
import LoadPlan.Text.Word

/-!
# Sessions

One run of the program, from its arguments to what it leaves behind.

* `Session` — the exit code, what is shown, and the file that is written.
* `outputName` — the file name that is derived from the name of a plan: its words in lower case,
  with hyphens between them.
* `effectiveConfig` — the options of a file with those of the command line put over them.
* `generate`, `listOperations` — the two commands.
* `run` — the run of a command line in a folder.
-/

namespace LoadPlan.CommandLine

/-- **What a run leaves behind.** -/
structure Session where
  /-- Zero for success, one for failure, two for a command line that is not understood. -/
  exitCode : Nat
  /-- What is printed as it is. -/
  output : Text := []
  /-- What is shown. -/
  items : List Item := []
  /-- The fault that has broken the run off. -/
  fault? : Option Fault := none
  /-- The file that is written, with its text. -/
  written? : Option (Place × Text) := none

namespace Session

/-- A run that fails after it has said why. -/
def failed (items : List Item) : Session := { exitCode := 1, items }

/-- A run that a fault breaks off. -/
def broken (items : List Item) (fault : Fault) : Session :=
  { exitCode := 1, items, fault? := some fault }

/-- A run that does not begin. -/
def refused : Refusal → Session
  | .misuse => { exitCode := 2 }
  | .help => { exitCode := 0 }
  | .version => { exitCode := 0, output := "swagger-jmx, version 1.0.0\n" }
  | .broken fault => broken [] fault

end Session

/-- The line that says that a file is not in UTF-8. -/
def unreadableLine (name : Text) (flaw : Utf8.Flaw) : Item :=
  failureLine "Error:" ("Cannot read " ++ name ++ " as UTF-8: " ++ flaw.message)

/-! ## Output names -/

def separatesWords (r : Rune) : Bool := r.isBlank || r = '_' || r = '-'

/-- Whether a character may occur in the name of a plan as far as the file name is concerned; all
others are passed over. -/
def isNamed (r : Rune) : Bool := r.isWord || separatesWords r

/-- The pieces of a text between the characters that a predicate accepts. -/
def pieces (separates : Rune → Bool) : Text → List Text
  | [] => [[]]
  | r :: rest =>
    if separates r then [] :: pieces separates rest
    else
      match pieces separates rest with
      | [] => [[r]]
      | piece :: more => (r :: piece) :: more

def words (t : Text) : List Text := (pieces separatesWords t).filter (!List.isEmpty ·)

/-- **The file name for a plan.** -/
def outputName (planName : Text) : Text :=
  let stem := Text.join "-" (words (planName.lower.filter isNamed))
  (stem.orElse "test-plan") ++ ".jmx"

/-! ## Generating a plan -/

def fileOptions (reader : YamlReader) (folder : Folder) : Option Text → Except Fault Entries
  | none => .ok []
  | some name => folder.readOptions reader name

/-- Options with others put over them. -/
def overlay (options overrides : Entries) : Entries :=
  overrides.foldl (fun entries (key, value) => Entries.insert key value entries) options

/-- **The configuration** of a file with the options of the command line put over it. -/
def effectiveConfig (reader : YamlReader) (folder : Folder) (options? : Option Text)
    (overrides : Overrides) : Except Fault Config := do
  Config.ofEntries (overlay (← fileOptions reader folder options?) overrides.toEntries)

/-- The path that the plan is written to: the given one, or else one made from its name. -/
def outputPath (output? : Option Text) (config : Config) : Except Fault Path :=
  match output?, config.testPlanName with
  | some (letter :: letters), _ => .ok (Path.ofText (letter :: letters))
  | _, .text planName => .ok (Path.ofText (outputName planName))
  | _, _ => .error .notText

/-- How hard the plan works the server, in words. -/
def loadProfile (config : Config) : Except Fault Text := do
  let users := (← integerText config.threadCount) ++ " threads, "
    ++ (← integerText config.rampUpTime) ++ "s ramp-up, "
  match config.duration? with
  | some seconds => return users ++ (← integerText seconds) ++ "s duration"
  | none => return users ++ (← integerText config.loopCount) ++ " iteration(s)"

/-- The panel that sums up a plan. -/
def summary (file profile : Text) (result : Compilation) : Item :=
  .panel "Generation Complete"
    [ styled "bold green" "JMX file generated successfully!", plainly "\n\n",
      styled "cyan" "File:", plainly (" " ++ file ++ "\n"),
      styled "cyan" "Operations:", plainly (" " ++ Text.ofNat result.operationCount ++ "\n"),
      styled "cyan" "Thread groups:", plainly (" " ++ Text.ofNat result.groupCount ++ "\n"),
      styled "cyan" "Load profile:", plainly (" " ++ profile ++ "\n"),
      styled "cyan" "Warnings:", plainly (" " ++ Text.ofNat result.warnings.length ++ "\n\n"),
      styled "dim" "Next step: Open in JMeter GUI or run headless" ]

/-- The end of a run after its plan has been written. -/
def sumUp (directory : Text) (opening : List Item) (config : Config) (result : Compilation)
    (path : Path) : Session :=
  match loadProfile config with
  | .error fault => .broken opening fault
  | .ok profile =>
    { exitCode := 0
      items := opening ++ [summary (path.tidy.shown directory) profile result]
        ++ diagnosticItems result.diagnostics }

/-- Writes a plan and sums it up. -/
def deliver (folder : Folder) (directory : Text) (opening : List Item) (output? : Option Text)
    (config : Config) (result : Compilation) (xml : Text) : Session :=
  let delivery : Except Fault (Path × Place) := do
    let path ← outputPath output? config
    let (_, place) ← folder.write path []
    return (path, place)
  match delivery with
  | .error fault => .broken opening fault
  | .ok (path, place) =>
    { sumUp directory opening config result path with written? := some (place, xml) }

def compileFile (reader : YamlReader) (folder : Folder) (directory : Text) (document : Text)
    (output? : Option Text) (config : Config) : Session :=
  let opening : List Item :=
    [.line [styled "bold" "Compiling OpenAPI specification:", plainly (" " ++ document)]]
  match folder.readSource document with
  | .error (.notUtf8 flaw) => .failed (opening ++ [unreadableLine document flaw])
  | .error fault => .broken opening fault
  | .ok (source, suffix?) =>
    match compile reader Presets.usual config source suffix? with
    | .error fault => .broken opening fault
    | .ok (.failed fault) =>
      .failed (opening ++ diagnosticItems [fault.diagnostic]
        ++ [failureLine "Error:" fault.message])
    | .ok (.compiled xml operations groups log) =>
      deliver folder directory opening output? config (.compiled xml operations groups log) xml

/-- **The command that generates a plan.** -/
def generate (reader : YamlReader) (folder : Folder) (directory : Text) (document : Text)
    (output? options? : Option Text) (overrides : Overrides) : Session :=
  match effectiveConfig reader folder options? overrides with
  | .error (.config fault) => .failed [failureLine "Configuration error:" fault.message]
  | .error fault => .broken [] fault
  | .ok config => compileFile reader folder directory document output? config

/-! ## Listing operations -/

/-- An operation as a document value. -/
def operationEntries (operation : Operation) : Entries :=
  let orNull (t? : Option Text) : Value := (t?.map Value.text).getD .null
  let parameter (p : Parameter) : Value :=
    .map
      [ (.text "name", .text p.name), (.text "in", .text p.location),
        (.text "required", .bool p.required) ]
  [ (.text "path", .text operation.path), (.text "method", .text operation.method.name),
    (.text "operationId", orNull operation.identifier?),
    (.text "summary", orNull operation.summary?),
    (.text "tags", .list (operation.tags.map Value.text)),
    (.text "parameters", .list (operation.parameters.map parameter)),
    (.text "content_type", operation.contentType) ]

def groupsValue (groups : Operation.Groups) : Value :=
  .map (groups.map fun (name, operations) =>
    (.text name, .list (operations.map fun operation => .map (operationEntries operation))))

/-- The row of an operation in the table of a group. -/
def operationRow (group : Text) (operation : Operation) : List Styled :=
  [ [plainly (group ++ " Tests")], [plainly operation.method.name], [plainly operation.path],
    [plainly (operation.summary?.getD [])] ]

def overview (spec : Specification) (strategy : Strategy) (groups : Operation.Groups) : List Item :=
  let total := (groups.flatMap fun (_, operations) => operations).length
  [ .line
      [ styled "green" "✓",
        plainly (" Parsed " ++ spec.title ++ " v" ++ spec.apiVersion ++ " (" ++ spec.version
          ++ ")") ],
    .table ("Operations (" ++ strategy.name ++ ")") ["Thread Group", "Method", "Path", "Summary"]
      (groups.flatMap fun (name, operations) => operations.map (operationRow name)),
    .line
      [ plainly "\n",
        styled "dim" (Text.ofNat total ++ " operation(s) in " ++ Text.ofNat groups.length
          ++ " thread group(s)") ] ]

/-- **The command that lists operations.** -/
def listOperations (reader : YamlReader) (folder : Folder) (document : Text) (strategy : Strategy)
    (asJson : Bool) : Session :=
  match Specification.load reader folder document (.text []) with
  | .error (.spec fault) => .failed [failureLine "Error:" fault.message]
  | .error (.notUtf8 flaw) => .failed [unreadableLine document flaw]
  | .error fault => .broken [] fault
  | .ok spec =>
    match spec.operations with
    | .error fault => .broken [] fault
    | .ok operations =>
      let groups := Operation.group strategy operations
      if asJson then
        match Json.indented 0 (groupsValue groups) with
        | .error fault => .broken [] fault
        | .ok json => { exitCode := 0, output := json ++ "\n" }
      else { exitCode := 0, items := overview spec strategy groups }

/-! ## Whole runs -/

def carryOut (reader : YamlReader) (folder : Folder) (directory : Text) : Request → Session
  | .generate document output? options? overrides =>
    generate reader folder directory document output? options? overrides
  | .list document strategy asJson => listOperations reader folder document strategy asJson

/-- **The run of a command line** in a folder.  `directory` is the path of the working directory. -/
def run (reader : YamlReader) (folder : Folder) (directory : Text) (arguments : List Text) : Session :=
  match (Call.ofArguments arguments).bind (Request.ofCall folder) with
  | .error refusal => .refused refusal
  | .ok request => carryOut reader folder directory request

end LoadPlan.CommandLine
