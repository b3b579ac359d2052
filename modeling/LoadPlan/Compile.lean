import LoadPlan.Plan.Assembly
import LoadPlan.Plan.Emission

/-!
# Compilation

From the text of a document to the text of a plan.

* `Compilation` — what comes of it: a plan with remarks, or the one reason why there is none.
* `compile` — compiling with a configuration: the document is read, and what it specifies is compiled
  by `compileSpec`.
* `Options` — the forms in which a caller can give a configuration: none at all, one that has been
  checked, or a mapping.
* `compileWith` — compiling with options, which are checked before the document is read.
-/

namespace LoadPlan

/-- **What comes of compiling a document.** -/
inductive Compilation where
  /-- The document cannot be compiled. -/
  | failed (fault : SpecFault)
  /-- The plan, what went into it, and what is to be remarked. -/
  | compiled (xml : Text) (operationCount groupCount : Nat) (log : Log)

/-- The remark of a document that cannot be compiled. -/
def SpecFault.diagnostic (fault : SpecFault) : Diagnostic :=
  ⟨.error, fault.code, fault.message, fault.context⟩

namespace Compilation

def xml? : Compilation → Option Text
  | failed _ => none
  | compiled xml _ _ _ => some xml

def success (result : Compilation) : Bool := result.xml?.isSome

/-- The number of operations in the plan. -/
def operationCount : Compilation → Nat
  | failed _ => 0
  | compiled _ operations _ _ => operations

/-- The number of groups in the plan. -/
def groupCount : Compilation → Nat
  | failed _ => 0
  | compiled _ _ groups _ => groups

def diagnostics : Compilation → List Diagnostic
  | failed fault => [fault.diagnostic]
  | compiled _ _ _ log => log.items

def warnings (result : Compilation) : List Diagnostic :=
  result.diagnostics.filter (·.severity = .warning)

def errors (result : Compilation) : List Diagnostic :=
  result.diagnostics.filter (·.severity = .error)

/-- The result of a report on a plan. -/
def ofReport (operations groups : Nat) (report : Report Text) : Except Fault Compilation :=
  report.outcome.map fun xml => compiled xml operations groups (Log.ofNotes report.notes)

end Compilation

/-- The specification in a text, or the result when there is none. -/
def readOrFail (reader : YamlReader) (config : Config) (source : List Char) (declared : Option Text) :
    Except Fault (Except Compilation Specification) :=
  match Specification.read reader source declared config.baseUrl with
  | .ok spec => .ok (.ok spec)
  | .error (.spec fault) => .ok (.error (.failed fault))
  | .error fault => .error fault

/-- The text of the plan of some groups of operations. -/
def planText (presets : Presets) (config : Config) (spec : Specification)
    (groups : Operation.Groups) : Report Text :=
  Plan.assemble config presets spec groups >>= Plan.render

def compileSpec (presets : Presets) (config : Config) (spec : Specification) :
    Except Fault Compilation := do
  let operations ← spec.operations
  if operations.isEmpty then return .failed .noOperations
  else
    let groups := Operation.group config.groupingStrategy operations
    Compilation.ofReport operations.length groups.length (planText presets config spec groups)

/-- **Compiles a document.**  `declared` is its media type or the suffix of its file name. -/
def compile (reader : YamlReader) (presets : Presets) (config : Config) (source : List Char)
    (declared : Option Text) : Except Fault Compilation := do
  match ← readOrFail reader config source declared with
  | .error result => return result
  | .ok spec => compileSpec presets config spec

/-! ## Options -/

/-- **The options of a compilation**, as a caller gives them. -/
inductive Options where
  /-- None: everything is as usual. -/
  | usual
  /-- A configuration that has been checked. -/
  | checked (config : Config)
  /-- A mapping, which is yet to be checked. -/
  | mapping (entries : Entries)

instance : Coe Entries Options := ⟨Options.mapping⟩

def Options.config : Options → Except Fault Config
  | usual => .ok Config.usual
  | checked config => .ok config
  | mapping entries => Config.ofEntries entries

/-- The characters of a document; one that is missing has none. -/
def sourceText (source? : Option (List Char)) : List Char := source?.getD []

/-- **Compiles a document with options**, which are checked first. -/
def compileWith (reader : YamlReader) (presets : Presets) (options : Options)
    (source? : Option (List Char)) (declared : Option Text) : Except Fault Compilation := do
  compile reader presets (← options.config) (sourceText source?) declared

end LoadPlan
