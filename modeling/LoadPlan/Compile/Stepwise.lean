import LoadPlan.Compile

/-!
# Compilation in steps

A compilation that others can be given time in between.

* `Stepwise` — a computation that has come to its end, or that can be taken up again.
* `Stepwise.drive` — its outcome, and how often it had to be taken up.
* `compileStepwise` — a compilation that pauses when the document has been read, and after every
  group of the plan.
* `compileStepwiseWith` — the same with options, which are checked before the first pause.
-/

namespace LoadPlan

/-- **A computation in steps.** -/
inductive Stepwise (α : Type) where
  /-- It has come to its end. -/
  | finished (outcome : Except Fault α)
  /-- It can be taken up again. -/
  | suspended (rest : Unit → Stepwise α)

namespace Stepwise

variable {α : Type}

/-- **The outcome of a computation**, and how often it has to be taken up. -/
def drive : Stepwise α → Except Fault α × Nat
  | finished outcome => (outcome, 0)
  | suspended rest =>
    let (outcome, pauses) := (rest ()).drive
    (outcome, pauses + 1)

@[simp] theorem drive_finished (outcome : Except Fault α) :
    (finished outcome).drive = (outcome, 0) := rfl

@[simp] theorem drive_suspended (rest : Unit → Stepwise α) :
    (suspended rest).drive = ((rest ()).drive.1, (rest ()).drive.2 + 1) := rfl

/-- A computation that goes on after a part, unless that stopped. -/
def afterwards {β : Type} (part : Report β) (next : Unit → Stepwise α) : Stepwise α :=
  match part.outcome with
  | .ok _ => next ()
  | .error fault => finished (.error fault)

theorem afterwards_ok {β : Type} {part : Report β} {b : β} (h : part.outcome = .ok b)
    (next : Unit → Stepwise α) : afterwards part next = next () := by
  simp [afterwards, h]

theorem afterwards_error {β : Type} {part : Report β} {fault : Fault}
    (h : part.outcome = .error fault) (next : Unit → Stepwise α) :
    afterwards part next = finished (.error fault) := by
  simp [afterwards, h]

end Stepwise

open Plan in
/-- The groups of a plan, with a pause after each; `built` is what there is so far. -/
def threadGroupsStepwise {α : Type} (config : Config) (presets : Presets) (spec : Specification)
    (built : Report (List Element)) (next : Report (List Element) → Stepwise α) :
    Operation.Groups → Stepwise α
  | [] => next built
  | (name, operations) :: rest =>
    let longer := do
      let elements ← built
      let element ← threadGroup config presets spec name operations
      return elements ++ [element]
    Stepwise.afterwards longer fun _ =>
      .suspended fun _ => threadGroupsStepwise config presets spec longer next rest

open Plan in
def planStepwise (presets : Presets) (config : Config) (spec : Specification) (operations : Nat)
    (groups : Operation.Groups) : Stepwise Compilation :=
  let root := testPlan config spec
  Stepwise.afterwards root fun _ =>
    let finish (built : Report (List Element)) : Stepwise Compilation :=
      .finished (Compilation.ofReport operations groups.length do
        let root ← root
        render (root.withGroups (← built)))
    threadGroupsStepwise config presets spec (pure []) finish groups

/-- What follows when a document has been read. -/
def compileSpecStepwise (presets : Presets) (config : Config) (spec : Specification) :
    Stepwise Compilation :=
  match spec.operations with
  | .error fault => .finished (.error fault)
  | .ok operations =>
    if operations.isEmpty then .finished (.ok (.failed .noOperations))
    else
      planStepwise presets config spec operations.length
        (Operation.group config.groupingStrategy operations)

/-- **Compiles a document in steps.** -/
def compileStepwise (reader : YamlReader) (presets : Presets) (config : Config) (source : List Char)
    (declared : Option Text) : Stepwise Compilation :=
  match readOrFail reader config source declared with
  | .error fault => .finished (.error fault)
  | .ok (.error result) => .finished (.ok result)
  | .ok (.ok spec) => .suspended fun _ => compileSpecStepwise presets config spec

/-- **Compiles a document in steps with options**, which are checked first. -/
def compileStepwiseWith (reader : YamlReader) (presets : Presets) (options : Options)
    (source? : Option (List Char)) (declared : Option Text) : Stepwise Compilation :=
  match options.config with
  | .error fault => .finished (.error fault)
  | .ok config => compileStepwise reader presets config (sourceText source?) declared

end LoadPlan
