import LoadPlan.CommandLine.Words

/-!
# Calls

What command a command line names, and the words that belong to it.

* `Command` — the commands.
* `Call` — a command with its words.  Their values have not been looked at yet.
* `Call.ofArguments` — the call of a command line.
* `Call.paths` — the paths that a call can lead to.
-/

namespace LoadPlan.CommandLine

/-- **A command.** -/
inductive Command where
  /-- To generate a plan. -/
  | generate
  /-- To list operations. -/
  | list

/-- **A command with its words.** -/
structure Call where
  /-- The command. -/
  command : Command
  /-- The words after the name of the command. -/
  words : Words

/-- The names of the option for an output file. -/
def outputNames : List Text := ["--output", "-o"]

namespace Command

def ofName? (name : Text) : Option Command :=
  if name = "generate" then some generate else if name = "operations" then some list else none

/-- The options of the command that generates a plan. -/
def generateSpellings : List Spelling :=
  [ ⟨"--output", true⟩, ⟨"-o", true⟩, ⟨"--config", true⟩, ⟨"--threads", true⟩, ⟨"--rampup", true⟩,
    ⟨"--loops", true⟩, ⟨"--duration", true⟩, ⟨"--base-url", true⟩, ⟨"--name", true⟩,
    ⟨"--group-by", true⟩, ⟨"--assertions", false⟩, ⟨"--no-assertions", false⟩,
    ⟨"--correlation", false⟩, ⟨"--no-correlation", false⟩, ⟨"--csv-config", false⟩,
    ⟨"--no-csv-config", false⟩, ⟨"--reporting", false⟩, ⟨"--no-reporting", false⟩,
    ⟨"--verbose", false⟩, ⟨"-v", false⟩, ⟨"--help", false⟩ ]

def spellings : Command → List Spelling
  | generate => generateSpellings
  | list => [⟨"--group-by", true⟩, ⟨"--json", false⟩, ⟨"--help", false⟩]

end Command

namespace Call

/-- The options before the name of a command. -/
def topSpellings : List Spelling := [⟨"--version", false⟩, ⟨"--help", false⟩]

/-- Refuses when the first option before a command asks for the version or an explanation. -/
def checkTop (words : Words) : Except Refusal Unit :=
  match words.options with
  | [] => .ok ()
  | (name, _) :: _ => .error (if name = "--version" then .version else .help)

/-- The call of a command, unless its explanation is asked for. -/
def ofCommand (command : Command) (arguments : List Text) : Except Refusal Call := do
  let words ← Words.ofList command.spellings true arguments
  if words.has "--help" then throw .help
  return ⟨command, words⟩

/-- **The call of a command line.**  A word that is no command is looked at once more as an
option. -/
def ofArguments (arguments : List Text) : Except Refusal Call := do
  let top ← Words.ofList topSpellings false arguments
  checkTop top
  match top.operands with
  | [] => throw .misuse
  | name :: rest =>
    match Command.ofName? name with
    | some command => ofCommand command rest
    | none =>
      checkTop (← Words.ofList topSpellings false top.operands)
      throw .misuse

/-- The paths that a call can lead to. -/
def paths (call : Call) : List Text :=
  call.words.operands ++ (call.words.options.filter fun (name, _) =>
    name = "--config" || outputNames.contains name).map Prod.snd

end Call

end LoadPlan.CommandLine
