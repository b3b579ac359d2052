import LoadPlan.Report
import Mathlib.Tactic.Lemma

/-!
# Outcomes with a property

That a stage comes to an end is proved together with what it then has found, since the next stage may
need that to come to an end itself.

* `Yields` — an outcome that is there and has a property.
* `Yields.ok_none`, `Yields.ok_some` — outcomes of searches, where what is found has the property.
* `exists_except_bind_iff` — stages one after another come to an end exactly if each of them does.
* `forM_eq_ok_iff`, `forM_eq_error_iff` — checks succeed if each of them does, and stop where the first one stops.
* `Report.Yields` — a stage whose outcome is there and has a property, whatever it remarks.
* `Report.Returns` — a stage that comes to an end.
* `Report.Ensures` — a stage whose outcome has a property if it is there.
* `Report.SameEnd` — two outcomes with related results, or with one fault.

Stages one after another yield what the last of them yields.
-/

namespace LoadPlan

section

variable {α β : Type} {motive : α → Prop} {target : β → Prop} {outcome : Except Fault α}

lemma exists_except_bind_iff {next : α → Except Fault β} :
    (∃ b, outcome >>= next = .ok b) ↔ ∃ a, outcome = .ok a ∧ ∃ b, next a = .ok b := by
  constructor
  · rintro ⟨b, hb⟩
    obtain ⟨a, ha, hnext⟩ := exists_of_except_bind hb
    exact ⟨a, ha, b, hnext⟩
  · rintro ⟨a, rfl, hnext⟩
    exact hnext

lemma exists_except_pure (a : α) : ∃ b, (pure a : Except Fault α) = .ok b := ⟨a, rfl⟩

/-- **An outcome that is there and has a property.** -/
def Yields (motive : α → Prop) (outcome : Except Fault α) : Prop := ∃ a, outcome = .ok a ∧ motive a

namespace Yields

lemma ok {a : α} (h : motive a) : Yields motive (.ok a) := ⟨a, rfl, h⟩

/-- Nothing is found, so nothing has to have the property. -/
lemma ok_none : Yields (fun found : Option α => ∀ a, found = some a → motive a) (.ok none) := by
  refine ok ?_
  rintro a ⟨⟩

lemma ok_some {a : α} (h : motive a) :
    Yields (fun found : Option α => ∀ a, found = some a → motive a) (.ok (some a)) := by
  refine ok ?_
  rintro b ⟨⟩
  exact h

lemma of_exists (h : ∃ a, outcome = .ok a) : Yields (fun _ => True) outcome := by
  obtain ⟨a, ha⟩ := h
  exact ⟨a, ha, trivial⟩

lemma imp {other : α → Prop} (h : Yields motive outcome) (himp : ∀ a, motive a → other a) :
    Yields other outcome := by
  obtain ⟨a, ha, hmotive⟩ := h
  exact ⟨a, ha, himp a hmotive⟩

/-- What follows an outcome that is there. -/
lemma bind {next : α → Except Fault β} (h : Yields motive outcome)
    (hnext : ∀ a, motive a → Yields target (next a)) : Yields target (outcome >>= next) := by
  obtain ⟨a, rfl, hmotive⟩ := h
  exact hnext a hmotive

lemma map {f : α → β} (h : Yields motive outcome) (hf : ∀ a, motive a → target (f a)) :
    Yields target (outcome.map f) := by
  obtain ⟨a, rfl, hmotive⟩ := h
  exact ok (hf a hmotive)

lemma mapM {f : α → Except Fault β} : ∀ {xs : List α}, (∀ x ∈ xs, Yields target (f x)) →
    Yields (fun ys => ∀ y ∈ ys, target y) (xs.mapM f)
  | [], _ => ok (List.forall_mem_nil _)
  | x :: xs, h => by
      rw [List.mapM_cons]
      refine (h x List.mem_cons_self).bind fun y hy => ?_
      refine (mapM fun other hother => h other (List.mem_cons_of_mem x hother)).bind fun ys hys => ?_
      exact ok (List.forall_mem_cons.mpr ⟨hy, hys⟩)

end Yields

end

/-! ## Checks -/

section

variable {α β : Type} {made : Except Fault α} {fault : Fault}

lemma discard_except_pure (a : α) : discard (pure a : Except Fault α) = .ok () := rfl

/-- Of stages one after another, only the last has to forget what it was given. -/
lemma discard_except_bind {next : α → Except Fault β} {rest : Except Fault Unit}
    (h : ∀ a, discard (next a) = rest) : discard (made >>= next) = discard made >>= fun _ => rest := by
  cases made with
  | error fault => rfl
  | ok a => exact h a

lemma discard_except_eq_ok_iff : discard made = .ok () ↔ ∃ a, made = .ok a := by
  cases made with
  | error fault => exact iff_of_false (by rintro ⟨⟩) (by rintro ⟨a, ⟨⟩⟩)
  | ok a => exact iff_of_true rfl ⟨a, rfl⟩

lemma discard_except_eq_error_iff : discard made = .error fault ↔ made = .error fault := by
  cases made with
  | error other => exact ⟨fun h => congrArg _ (Except.error.inj h), fun h => congrArg _ (Except.error.inj h)⟩
  | ok a => exact iff_of_false (by rintro ⟨⟩) (by rintro ⟨⟩)

variable {check : α → Except Fault Unit}

/-- **Checks succeed** exactly if each of them does. -/
lemma forM_eq_ok_iff {xs : List α} : forM xs check = .ok () ↔ ∀ x ∈ xs, check x = .ok () := by
  induction xs with
  | nil => exact iff_of_true rfl (List.forall_mem_nil _)
  | cons x xs ih =>
      rw [List.forM_cons, List.forall_mem_cons, ← ih]
      cases hx : check x with
      | error fault => exact iff_of_false (by rintro ⟨⟩) (by rintro ⟨⟨⟩, -⟩)
      | ok a => exact (and_iff_right rfl).symm

/-- **Checks stop** where the first of them stops. -/
lemma forM_eq_error_iff {xs : List α} : forM xs check = .error fault ↔ ∃ before x after,
    xs = before ++ x :: after ∧ (∀ b ∈ before, check b = .ok ()) ∧ check x = .error fault := by
  constructor
  · intro h
    induction xs with
    | nil => cases h
    | cons x xs ih =>
        rw [List.forM_cons] at h
        cases hx : check x with
        | error other =>
            rw [hx, error_bind] at h
            exact ⟨[], x, xs, rfl, List.forall_mem_nil _, hx.trans h⟩
        | ok a =>
            rw [hx, ok_bind] at h
            obtain ⟨before, y, after, rfl, hbefore, hy⟩ := ih h
            exact ⟨x :: before, y, after, rfl, List.forall_mem_cons.mpr ⟨hx, hbefore⟩, hy⟩
  · rintro ⟨before, x, after, rfl, hbefore, hx⟩
    rw [List.forM_append, forM_eq_ok_iff.mpr hbefore, ok_bind, List.forM_cons, hx, error_bind]

end

namespace Report

variable {α β : Type} {motive : α → Prop} {target : β → Prop} {report : Report α}

/-- **A stage whose outcome is there and has a property.** -/
def Yields (motive : α → Prop) (report : Report α) : Prop := LoadPlan.Yields motive report.outcome

namespace Yields

lemma pure {a : α} (h : motive a) : Report.Yields motive (Pure.pure a) := LoadPlan.Yields.ok h

lemma ofExcept {outcome : Except Fault α} (h : LoadPlan.Yields motive outcome) :
    Report.Yields motive (Report.ofExcept outcome) := h

lemma imp {other : α → Prop} (h : report.Yields motive) (himp : ∀ a, motive a → other a) :
    report.Yields other :=
  LoadPlan.Yields.imp h himp

lemma bind {next : α → Report β} (h : report.Yields motive)
    (hnext : ∀ a, motive a → (next a).Yields target) : (report >>= next).Yields target := by
  unfold Report.Yields
  rw [bind_outcome]
  exact LoadPlan.Yields.bind h hnext

/-- What follows a stage whose outcome is known. -/
lemma of_ok {next : α → Report β} {a : α} (h : report.outcome = .ok a)
    (hnext : (next a).Yields target) : (report >>= next).Yields target := by
  rw [bind_of_ok h]
  exact hnext

end Yields

/-- **A stage that comes to an end.** -/
def Returns (report : Report α) : Prop := ∃ a, report.outcome = .ok a

lemma returns_pure (a : α) : (pure a : Report α).Returns := ⟨a, rfl⟩

lemma not_returns_of_error {fault : Fault} (h : report.outcome = .error fault) : ¬ report.Returns := by
  rintro ⟨a, ha⟩
  rw [h] at ha
  cases ha

lemma returns_bind_iff {next : α → Report β} :
    (report >>= next).Returns ↔ ∃ a, report.outcome = .ok a ∧ (next a).Returns := by
  constructor
  · rintro ⟨b, hb⟩
    obtain ⟨a, ha, hnext⟩ := exists_of_bind hb
    exact ⟨a, ha, b, hnext⟩
  · rintro ⟨a, ha, b, hb⟩
    exact ⟨b, by rw [bind_of_ok ha, hb]⟩

/-- A stage that is only made something of. -/
lemma returns_bind_pure (f : α → β) :
    (report >>= fun a => pure (f a)).Returns ↔ report.Returns := by
  rw [returns_bind_iff]
  exact exists_congr fun a => and_iff_left (returns_pure (f a))

lemma notes_bind_pure (f : α → β) : (report >>= fun a => pure (f a)).notes = report.notes := by
  cases h : report.outcome with
  | error fault => rw [bind_of_error h]
  | ok a =>
      rw [bind_of_ok h]
      exact List.append_nil report.notes

/-- **A stage whose outcome has a property** if it is there. -/
def Ensures (motive : α → Prop) (report : Report α) : Prop :=
  ∀ a, report.outcome = .ok a → motive a

namespace Ensures

lemma pure {a : α} (h : motive a) : Report.Ensures motive (Pure.pure a) := by
  rintro b ⟨⟩
  exact h

lemma bind {next : α → Report β} (h : report.Ensures motive)
    (hnext : ∀ a, report.outcome = .ok a → motive a → (next a).Ensures target) :
    (report >>= next).Ensures target := by
  intro b hb
  obtain ⟨a, ha, hlast⟩ := exists_of_bind hb
  exact hnext a ha (h a ha) b hlast

end Ensures

/-! ## Two outcomes -/

section

variable {γ δ : Type}

/-- Two outcomes are related, or they are one and the same fault. -/
def SameEnd (related : α → β → Prop) : Except Fault α → Except Fault β → Prop
  | .ok a, .ok b => related a b
  | .error fault, .error other => fault = other
  | _, _ => False

namespace SameEnd

variable {related : α → β → Prop}

lemma bind (outcome : Except Fault γ)
    {next : γ → Except Fault α} {other : γ → Except Fault β}
    (h : ∀ c, SameEnd related (next c) (other c)) :
    SameEnd related (outcome >>= next) (outcome >>= other) := by
  cases outcome with
  | error fault => exact rfl
  | ok c => exact h c

/-- What follows outcomes that are related is related, if it is for all related results. -/
lemma follow {follows : γ → δ → Prop} {first : Except Fault α} {second : Except Fault β}
    {next : α → Except Fault γ} {other : β → Except Fault δ} (h : SameEnd related first second)
    (hnext : ∀ a b, related a b → SameEnd follows (next a) (other b)) :
    SameEnd follows (first >>= next) (second >>= other) := by
  cases first with
  | error fault =>
      cases second with
      | error fault' => exact h
      | ok b => exact h.elim
  | ok a =>
      cases second with
      | error fault => exact h.elim
      | ok b => exact hnext a b h

lemma refl {same : α → α → Prop} (h : ∀ a, same a a) (outcome : Except Fault α) :
    SameEnd same outcome outcome := by
  cases outcome with
  | error fault => exact rfl
  | ok a => exact h a

/-- Outcomes with the same results are the same. -/
lemma eq {first second : Except Fault α} (h : SameEnd Eq first second) : first = second := by
  cases first with
  | error fault =>
      cases second with
      | error fault' => exact congrArg Except.error h
      | ok b => exact h.elim
  | ok a =>
      cases second with
      | error fault => exact h.elim
      | ok b => exact congrArg Except.ok h

end SameEnd

end

end Report

end LoadPlan
