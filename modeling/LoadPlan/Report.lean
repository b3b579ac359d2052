import LoadPlan.Diagnostic
import LoadPlan.Fault

/-!
# Reports

A stage of the compilation has an outcome and makes remarks on the way.

* `Report` — both together.  The remarks are those that were submitted, with repetitions; what a
  reader sees of them is `Log.ofNotes`.  A stage therefore cannot depend on what others have
  remarked.
* `Report.warn`, `Report.fail` — making a remark, and stopping.

Remarks are kept when a stage stops.
-/

namespace LoadPlan

/-- **An outcome and the remarks made on the way to it.** -/
structure Report (α : Type) where
  /-- What came out. -/
  outcome : Except Fault α
  /-- The remarks, in the order in which they were made. -/
  notes : List Diagnostic

namespace Report

variable {α β γ : Type}

/-- An outcome without remarks. -/
protected def pure (a : α) : Report α := ⟨.ok a, []⟩

/-- One stage after another: the remarks of the second follow those of the first. -/
protected def bind (report : Report α) (next : α → Report β) : Report β :=
  match report.outcome with
  | .error fault => ⟨.error fault, report.notes⟩
  | .ok a => ⟨(next a).outcome, report.notes ++ (next a).notes⟩

instance : Monad Report where
  pure := Report.pure
  bind := Report.bind

def fail (fault : Fault) : Report α := ⟨.error fault, []⟩

/-- An outcome that no remarks belong to. -/
def ofExcept (outcome : Except Fault α) : Report α := ⟨outcome, []⟩

/-- Makes a remark. -/
def note (diagnostic : Diagnostic) : Report Unit := ⟨.ok (), [diagnostic]⟩

/-- Makes a remark that something was not compiled as written. -/
def warn (code message context : Text) : Report Unit :=
  note ⟨.warning, code, message, context⟩

/-! ## Laws -/

@[simp] theorem pure_outcome (a : α) : (pure a : Report α).outcome = .ok a := rfl

@[simp] theorem pure_notes (a : α) : (pure a : Report α).notes = [] := rfl

@[simp] theorem ofExcept_outcome (outcome : Except Fault α) :
    (ofExcept outcome).outcome = outcome := rfl

@[simp] theorem ofExcept_notes (outcome : Except Fault α) : (ofExcept outcome).notes = [] := rfl

/-- The outcome of a report does not depend on its remarks: outcomes follow each other as in
`Except`. -/
theorem bind_outcome (report : Report α) (next : α → Report β) :
    (report >>= next).outcome = report.outcome >>= fun a => (next a).outcome := by
  show (Report.bind report next).outcome = _
  cases h : report.outcome <;> simp [Report.bind, h, bind, Except.bind]

/-- A stage that comes to an end goes through what comes before it. -/
theorem exists_of_bind {report : Report α} {next : α → Report β} {b : β}
    (h : (report >>= next).outcome = .ok b) :
    ∃ a, report.outcome = .ok a ∧ (next a).outcome = .ok b := by
  rw [bind_outcome] at h
  cases ha : report.outcome with
  | error fault => rw [ha] at h; exact nomatch h
  | ok a => rw [ha] at h; exact ⟨a, rfl, h⟩

/-- A stage after one that succeeded. -/
theorem bind_of_ok {report : Report α} {a : α} (h : report.outcome = .ok a)
    (next : α → Report β) :
    report >>= next = ⟨(next a).outcome, report.notes ++ (next a).notes⟩ := by
  show Report.bind report next = _
  simp [Report.bind, h]

/-- A stage after one that stopped. -/
theorem bind_of_error {report : Report α} {fault : Fault} (h : report.outcome = .error fault)
    (next : α → Report β) : report >>= next = ⟨.error fault, report.notes⟩ := by
  show Report.bind report next = _
  simp [Report.bind, h]

theorem bind_pure_id (report : Report α) : id <$> report = report := by
  obtain ⟨outcome, notes⟩ := report
  cases outcome <;> simp [Functor.map, Report.bind, Report.pure]

theorem pure_then (a : α) (next : α → Report β) : (pure a : Report α) >>= next = next a := by
  simp [bind, pure, Report.bind, Report.pure]

theorem bind_assoc (report : Report α) (f : α → Report β) (g : β → Report γ) :
    report >>= f >>= g = report >>= fun a => f a >>= g := by
  obtain ⟨outcome, notes⟩ := report
  cases outcome with
  | error fault => simp [bind, Report.bind]
  | ok a => cases h : (f a).outcome <;> simp [bind, Report.bind, h]

/-- The monad laws hold, since concatenation is associative. -/
instance : LawfulMonad Report := LawfulMonad.mk' Report bind_pure_id pure_then bind_assoc

end Report

end LoadPlan
