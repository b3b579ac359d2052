import LoadPlan.Proofs.Outcome
import LoadPlan.Proofs.Plan.Typed
import LoadPlan.Proofs.Value.Spelling

/-!
# What can happen while a plan is written

Writing an element can only lead to one remark, on characters that are left out, and can only stop for a few
causes.  A plan is written in the order of a walk: what stops it is what stops the first of its elements that
cannot be written.

* `Report.Within` — a run whose remarks and whose fault, if there is one, have a property each.
* `strippingRemark`, `Fault.IsUnwritable` — the remark on an element, and the causes that can stop its properties.
* **`within_emitOwn`** — there is no other remark and no other cause.
* **`discard_emit`** — apart from what is written, writing a plan is a walk through its elements.
* `mem_notes_render` — so all remarks are on elements from which characters are left out.
-/

namespace LoadPlan

namespace Report

variable {α β : Type} {motive : Diagnostic → Prop} {stops : Fault → Prop}

/-- A run the result of which is not needed. -/
lemma discard_eq (report : Report α) : discard report = report >>= fun _ => pure () := by
  rw [← map_eq_pure_bind]
  rfl

lemma notes_discard (report : Report α) : (discard report).notes = report.notes := by
  rw [discard_eq, notes_bind_pure]

lemma returns_discard_iff {report : Report α} : (discard report).Returns ↔ report.Returns := by
  rw [discard_eq, returns_bind_pure]

lemma discard_eq_error_iff {report : Report α} {fault : Fault} :
    (discard report).outcome = .error fault ↔ report.outcome = .error fault := by
  rw [discard_eq, bind_outcome]
  cases report.outcome with
  | error other => simp [error_bind]
  | ok a => exact iff_of_false nofun nofun

/-- **A run whose remarks and whose fault have properties.** -/
structure Within (motive : Diagnostic → Prop) (stops : Fault → Prop) (report : Report α) : Prop where
  /-- All remarks have the property of remarks. -/
  notes : ∀ d ∈ report.notes, motive d
  /-- The fault, if there is one, has the property of faults. -/
  fault : ∀ fault, report.outcome = .error fault → stops fault

namespace Within

lemma pure (a : α) : (Pure.pure a : Report α).Within motive stops := ⟨nofun, nofun⟩

lemma fail {fault : Fault} (h : stops fault) : (Report.fail fault : Report α).Within motive stops := by
  refine ⟨nofun, ?_⟩
  rintro _ ⟨⟩
  exact h

lemma ofExcept {outcome : Except Fault α} (h : ∀ fault, outcome = .error fault → stops fault) :
    (Report.ofExcept outcome).Within motive stops := ⟨nofun, h⟩

lemma warn {code message context : Text} (h : motive ⟨.warning, code, message, context⟩) :
    (Report.warn code message context).Within motive stops := by
  refine ⟨fun d hd => ?_, nofun⟩
  obtain rfl := List.mem_singleton.mp hd
  exact h

lemma bind {report : Report α} {next : α → Report β} (h : report.Within motive stops)
    (hnext : ∀ a, (next a).Within motive stops) : (report >>= next).Within motive stops := by
  cases houtcome : report.outcome with
  | error fault =>
      rw [bind_of_error houtcome]
      refine ⟨h.notes, ?_⟩
      rintro _ ⟨⟩
      exact h.fault fault houtcome
  | ok a =>
      rw [bind_of_ok houtcome]
      exact ⟨List.forall_mem_append.mpr ⟨h.notes, (hnext a).notes⟩, (hnext a).fault⟩

lemma mapM {f : α → Report β} (h : ∀ a, (f a).Within motive stops) (xs : List α) :
    (xs.mapM f).Within motive stops := by
  induction xs with
  | nil => exact .pure []
  | cons x xs ih =>
      rw [List.mapM_cons]
      exact (h x).bind fun y => ih.bind fun ys => .pure (y :: ys)

lemma imp {other : Fault → Prop} {report : Report α} (h : report.Within motive stops)
    (himp : ∀ fault, stops fault → other fault) : report.Within motive other :=
  ⟨h.notes, fun fault hfault => himp fault (h.fault fault hfault)⟩

end Within

end Report

/-- **The causes that can stop the properties of an element**: a value that is not a text, and an integer of too
many digits. -/
def Fault.IsUnwritable : Fault → Prop
  | notText | tooManyDigits => True
  | _ => False

lemma Value.isUnwritable_of_shown {v : Value} {fault : Fault} (h : v.shown = .error fault) :
    fault.IsUnwritable := by
  rw [(Value.spelled_shown v).eq_of_error h]
  trivial

namespace Plan

open Report

/-- **The remark on an element** from which characters have been left out. -/
def strippingRemark (element : Text) : Diagnostic :=
  ⟨.warning, "InvalidXmlCharacterWarning", "Removed characters not allowed in XML", element⟩

/-! ## Properties -/

section

variable (element : Text)

/-- What can happen while something is written for an element. -/
abbrev Writes {α : Type} (report : Report α) : Prop :=
  report.Within (fun d => d = strippingRemark element) Fault.IsUnwritable

@[simp] lemma writes_legalText (value : Value) : Writes element (legalText element value) := by
  unfold legalText
  split
  · split_ifs
    · exact .bind (.warn rfl) fun _ => .pure _
    · exact .pure _
  · exact .fail trivial

@[simp] lemma writes_textProperty (name : Text) (value : Value) :
    Writes element (textProperty element name value) :=
  .bind (writes_legalText element value) fun _ => .pure _

@[simp] lemma writes_testString (value : Value) : Writes element (testString element value) := by
  unfold testString
  split
  · exact writes_textProperty ..
  · exact .fail trivial

@[simp] lemma writes_shown (value : Value) : Writes element (Report.ofExcept value.shown) :=
  .ofExcept fun _ => Value.isUnwritable_of_shown

@[simp] lemma writes_variableProperty (pair : Pair) : Writes element (variableProperty element pair) :=
  .bind (by simp) fun _ => .bind (by simp) fun _ => .bind (by simp) fun _ => .pure _

@[simp] lemma writes_argumentProperty (pair : Pair) : Writes element (argumentProperty element pair) :=
  .bind (by simp) fun _ => .bind (by simp) fun _ => .bind (by simp) fun _ => .pure _

@[simp] lemma writes_headerProperty (pair : Pair) : Writes element (headerProperty element pair) :=
  .bind (by simp) fun _ => .bind (by simp) fun _ => .pure _

@[simp] lemma writes_mapM {α β : Type} {f : α → Report β} (h : ∀ a, Writes element (f a)) (xs : List α) :
    Writes element (xs.mapM f) := .mapM h xs

@[simp] lemma writes_requestArguments (arguments : List Pair) :
    Writes element (requestArguments element arguments) :=
  .bind (by simp) fun _ => .pure _

@[simp] lemma writes_content (sampler : HttpSampler) : Writes element (sampler.content element) := by
  unfold HttpSampler.content
  split
  · exact .bind (by simp) fun _ => .pure _
  · exact .bind (by simp) fun _ => .pure _

lemma writes_properties (settings : Settings) : Writes element (settings.properties element) := by
  cases settings
  -- every kind of element is written text by text and collection by collection
  all_goals
    repeat refine Within.bind (by simp) fun _ => ?_
    exact .pure _

end

/-! ## Elements -/

/-- **What can happen while an element is written**: its kind may have no written form, besides what can happen
to its properties. -/
lemma within_emitOwn (name enabled : Value) (settings : Settings) :
    (emitOwn name enabled settings).Within (fun d => d = strippingRemark name.asText) fun fault =>
      fault.IsUnwritable ∨
        ∃ kind, settings = .bare kind ∧ fault = .render (.unsupportedElement kind) := by
  unfold emitOwn
  split
  · exact .fail (.inr ⟨_, rfl, rfl⟩)
  · refine Within.imp ?_ fun _ => .inl
    refine Within.bind (writes_legalText _ _) fun title => ?_
    exact Within.bind (writes_properties _ _) fun parts => .pure _
  · exact .fail (.inl trivial)

/-- What it takes to write an element, apart from what is written. -/
def emitStep (element : Element) : Report Unit :=
  discard (emitOwn element.name element.enabled element.settings)

/-- **Apart from what is written, writing elements is a walk through them.** -/
theorem discard_emitAll (elements : List Element) :
    discard (emitAll elements) = forM (Element.walkAll elements) emitStep := by
  induction elements using Element.list_induction with
  | nil => rfl
  | cons name enabled settings children rest ihchildren ihrest =>
      rw [Element.walkAll, Element.walk, List.cons_append, List.forM_cons, List.forM_append, ← ihchildren,
        ← ihrest]
      simp only [emitAll, emit, emitStep, Report.discard_eq, Element.name, Element.enabled, Element.settings,
        bind_assoc, pure_bind]

/-- What is remarked on a walk is remarked on one of its steps. -/
lemma exists_of_mem_notes_forM {α : Type} {f : α → Report Unit} {d : Diagnostic} : ∀ {xs : List α},
    d ∈ (forM xs f).notes → ∃ x ∈ xs, d ∈ (f x).notes
  | [], h => by cases h
  | x :: xs, h => by
      rw [List.forM_cons] at h
      cases hx : (f x).outcome with
      | error fault =>
          rw [bind_of_error hx] at h
          exact ⟨x, List.mem_cons_self, h⟩
      | ok a =>
          rw [bind_of_ok hx] at h
          rcases List.mem_append.mp h with h | h
          · exact ⟨x, List.mem_cons_self, h⟩
          · obtain ⟨y, hy, hd⟩ := exists_of_mem_notes_forM h
            exact ⟨y, List.mem_cons_of_mem x hy, hd⟩

/-- A walk comes to the end that the ends of its steps lead to. -/
lemma outcome_forM {α : Type} (f : α → Report Unit) : ∀ xs : List α,
    (forM xs f).outcome = forM xs fun x => (f x).outcome
  | [] => rfl
  | x :: xs => by
      rw [List.forM_cons, List.forM_cons, bind_outcome]
      exact bind_congr fun _ => outcome_forM f xs

/-- **So is writing a plan.** -/
theorem discard_emit (plan : Element) : discard (emit plan) = forM plan.walk emitStep := by
  have hwalk : Element.walkAll [plan] = plan.walk := List.append_nil _
  have hall : emitAll [plan] = emit plan := by simp [emitAll]
  rw [← hwalk, ← hall, discard_emitAll]

/-- Nothing is remarked on after the elements have been written. -/
lemma notes_render (plan : Element) : (render plan).notes = (forM plan.walk emitStep).notes := by
  have hquiet : ∀ content, (Report.ofExcept (checkDisplays plan) >>= fun _ =>
      Report.ofExcept ((documentText (planDocument content)).mapError Fault.render)).notes = [] := by
    intro content
    cases hdisplays : checkDisplays plan <;> rfl
  rw [← discard_emit, notes_discard, render]
  cases hemit : (emit plan).outcome with
  | error fault => rw [bind_of_error hemit]
  | ok content =>
      rw [bind_of_ok hemit, hquiet]
      exact List.append_nil _

/-- **All that is remarked while a plan is written** is that characters have been left out of an element. -/
lemma mem_notes_render {plan : Element} {d : Diagnostic} (h : d ∈ (render plan).notes) :
    ∃ e ∈ plan.walk, d = strippingRemark e.name.asText := by
  rw [notes_render] at h
  obtain ⟨e, he, hd⟩ := exists_of_mem_notes_forM h
  rw [emitStep, notes_discard] at hd
  exact ⟨e, he, (within_emitOwn _ _ _).notes d hd⟩

end Plan

end LoadPlan
