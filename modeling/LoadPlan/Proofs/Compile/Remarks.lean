import LoadPlan.Compile
import LoadPlan.Proofs.Plan.Emitting
import LoadPlan.Proofs.Schema.Course
import Mathlib.Data.List.Nodup
import Mathlib.Tactic.Lemma
import Mathlib.Tactic.SplitIfs

/-!
# Remarks are warnings

The stages after the reading of a document never report an error: what they cannot compile as
written they remark on, and go on.  Stopping is not a remark.

* `Report.Remarks` — a run all of whose remarks have a property.  Runs one after another are such a run if
  each of them is, so a stage has the property if its parts have it.
* `Report.OnlyWarns` — a run all of whose remarks are warnings.
* `IsSchemaRemark` — the remarks that are made for a request: they are on references in schemas.
* **`onlyWarns_planText`** — making the text of a plan is such a run.
* `Log.ofNotes_items` — a log holds the remarks of a run, each of them once.
-/

namespace LoadPlan

namespace Report

variable {α β : Type} {motive : Diagnostic → Prop}

/-- **A run all of whose remarks have a property.** -/
def Remarks (motive : Diagnostic → Prop) (report : Report α) : Prop :=
  ∀ d ∈ report.notes, motive d

namespace Remarks

lemma pure (a : α) : (Pure.pure a : Report α).Remarks motive := by
  intro d hd
  cases hd

lemma ofExcept (outcome : Except Fault α) : (Report.ofExcept outcome).Remarks motive := by
  intro d hd
  cases hd

lemma warn {code message context : Text} (h : motive ⟨.warning, code, message, context⟩) :
    (Report.warn code message context).Remarks motive := by
  intro d hd
  obtain rfl := List.mem_singleton.mp hd
  exact h

lemma bind {report : Report α} {next : α → Report β} (h : report.Remarks motive)
    (hnext : ∀ a, (next a).Remarks motive) : (report >>= next).Remarks motive := by
  intro d hd
  cases houtcome : report.outcome with
  | error fault =>
      rw [bind_of_error houtcome] at hd
      exact h d hd
  | ok a =>
      rw [bind_of_ok houtcome] at hd
      rcases List.mem_append.mp hd with hd | hd
      · exact h d hd
      · exact hnext a d hd

lemma imp {target : Diagnostic → Prop} {report : Report α} (h : report.Remarks motive)
    (himp : ∀ d, motive d → target d) : report.Remarks target :=
  fun d hd => himp d (h d hd)

end Remarks

/-- **A run all of whose remarks are warnings.** -/
def OnlyWarns (report : Report α) : Prop := ∀ d ∈ report.notes, d.severity = .warning

@[simp] lemma onlyWarns_pure (a : α) : (pure a : Report α).OnlyWarns := Remarks.pure a

@[simp] lemma onlyWarns_ofExcept (outcome : Except Fault α) : (ofExcept outcome).OnlyWarns :=
  Remarks.ofExcept outcome

@[simp] lemma onlyWarns_warn (code message context : Text) :
    (warn code message context).OnlyWarns :=
  Remarks.warn rfl

@[simp] lemma OnlyWarns.bind {report : Report α} {next : α → Report β} (h : report.OnlyWarns)
    (hnext : ∀ a, (next a).OnlyWarns) : (report >>= next).OnlyWarns :=
  Remarks.bind h hnext

end Report

open Report

/-! ## Specifications -/

/-- **All that is remarked on schemes** is that one is not supported. -/
lemma remarks_schemesOf {motive : Diagnostic → Prop}
    (h : ∀ message context, motive ⟨.warning, "UnsupportedSecuritySchemeWarning", message, context⟩) :
    ∀ entries : Entries, (schemesOf entries).Remarks motive
  | [] => .pure []
  | (name, value) :: rest => by
      have ih := remarks_schemesOf h rest
      rw [schemesOf]
      split
      · exact ih
      · refine Remarks.bind (.ofExcept _) fun type => ?_
        refine Remarks.bind (.ofExcept _) fun http => ?_
        dsimp only
        split
        · exact ih.bind fun others => .pure _
        · refine Remarks.bind ?_ fun _ => ih
          refine Remarks.bind (.ofExcept _) fun detail => ?_
          exact Remarks.bind (.ofExcept _) fun shown => .warn (h _ shown)

lemma onlyWarns_schemesOf (entries : Entries) : (schemesOf entries).OnlyWarns :=
  remarks_schemesOf (fun _ _ => rfl) entries

lemma onlyWarns_server (address : Text) : (Plan.Server.ofBaseUrl address).OnlyWarns := by
  simp only [Plan.Server.ofBaseUrl]
  split
  · exact onlyWarns_pure _
  · exact OnlyWarns.bind (onlyWarns_warn _ _ _) fun _ => onlyWarns_pure _

/-- **A remark on a schema**: a reference in it leads nowhere, or is one too many. -/
def IsSchemaRemark (d : Diagnostic) : Prop :=
  d.severity = .warning ∧
    (d.code = "SchemaDepthExceededWarning" ∨ d.code = "UnresolvedRefWarning")

namespace Resolver

/-- All that is remarked in a resolution is on references. -/
lemma remarks_resolve (r : Resolver) (depth : Int) (raw : Value) :
    (r.resolve depth raw).Remarks IsSchemaRemark := by
  intro d hd
  have hmem : d ∈ (r.run ⟨depth, raw⟩).notes := hd
  rw [notes_eq, List.mem_filterMap] at hmem
  obtain ⟨c, -, hc⟩ := hmem
  rcases remark_cases hc with hremark | ⟨limit, -, hremark⟩
  · rw [hremark]
    exact ⟨rfl, .inr rfl⟩
  · rw [hremark]
    exact ⟨rfl, .inl rfl⟩

end Resolver

/-! ## Plans -/

namespace Plan

lemma remarks_sampledPayload (operation : Operation) (resolver : Resolver) :
    (sampledPayload operation resolver).Remarks IsSchemaRemark := by
  unfold sampledPayload
  split
  · exact .pure _
  · refine Remarks.bind (resolver.remarks_resolve _ _) fun schema => ?_
    refine Remarks.bind (.ofExcept _) fun sample => ?_
    split
    · exact Remarks.bind (.ofExcept _) fun fields => .pure _
    · exact Remarks.bind (.ofExcept _) fun body => .pure _

lemma remarks_payload (operation : Operation) (resolver : Resolver) :
    (payload operation resolver).Remarks IsSchemaRemark := by
  unfold payload
  split_ifs
  · refine Remarks.bind (remarks_sampledPayload operation resolver) fun sampled => ?_
    split_ifs
    · exact Remarks.bind (.ofExcept _) fun fields => .pure _
    · exact .pure _
  · exact .pure _

section

variable (config : Config) (presets : Presets) (spec : Specification)

/-- **All that is remarked for a request is on schemas.** -/
lemma remarks_sampler (operation : Operation) (resolver : Resolver) :
    (sampler config presets operation resolver).Remarks IsSchemaRemark := by
  refine Remarks.bind (.ofExcept _) fun query => ?_
  refine Remarks.bind (remarks_payload operation resolver) fun sent => ?_
  refine Remarks.bind (.ofExcept _) fun headers => ?_
  exact .pure _

lemma onlyWarns_sampler (operation : Operation) (resolver : Resolver) :
    (sampler config presets operation resolver).OnlyWarns :=
  (remarks_sampler config presets operation resolver).imp fun _ h => h.1

lemma onlyWarns_samplers (resolver : Resolver) (operations : List Operation) :
    (samplers config presets resolver operations).OnlyWarns := by
  induction operations with
  | nil => exact onlyWarns_pure []
  | cons operation rest ih =>
      refine OnlyWarns.bind (onlyWarns_sampler config presets operation resolver) fun element => ?_
      exact ih.bind fun elements => onlyWarns_pure _

lemma onlyWarns_threadGroup (name : Text) (operations : List Operation) :
    (threadGroup config presets spec name operations).OnlyWarns := by
  refine OnlyWarns.bind (onlyWarns_ofExcept _) fun settings => ?_
  refine OnlyWarns.bind (onlyWarns_schemesOf _) fun schemes => ?_
  refine OnlyWarns.bind (onlyWarns_ofExcept _) fun managers => ?_
  refine OnlyWarns.bind (onlyWarns_samplers config presets _ operations) fun requests => ?_
  exact onlyWarns_pure _

lemma onlyWarns_threadGroups (groups : Operation.Groups) :
    (threadGroups config presets spec groups).OnlyWarns := by
  induction groups with
  | nil => exact onlyWarns_pure []
  | cons group rest ih =>
      obtain ⟨name, operations⟩ := group
      refine OnlyWarns.bind (onlyWarns_threadGroup config presets spec name operations) ?_
      intro element
      exact ih.bind fun elements => onlyWarns_pure _

lemma onlyWarns_testPlan : (testPlan config spec).OnlyWarns := by
  refine OnlyWarns.bind (onlyWarns_ofExcept _) fun address => ?_
  refine OnlyWarns.bind (onlyWarns_server address) fun server => ?_
  refine OnlyWarns.bind (onlyWarns_ofExcept _) fun serverParts => ?_
  refine OnlyWarns.bind (onlyWarns_schemesOf _) fun schemes => ?_
  refine OnlyWarns.bind (onlyWarns_ofExcept _) fun credentials => ?_
  refine OnlyWarns.bind (onlyWarns_ofExcept _) fun description => ?_
  exact onlyWarns_pure _

end

/-! ## Documents -/

lemma onlyWarns_render (plan : Element) : (render plan).OnlyWarns := by
  intro d hd
  obtain ⟨e, -, rfl⟩ := mem_notes_render hd
  rfl

end Plan

/-- **Making the text of a plan, all remarks are warnings.** -/
theorem onlyWarns_planText (presets : Presets) (config : Config) (spec : Specification)
    (groups : Operation.Groups) : (planText presets config spec groups).OnlyWarns := by
  refine OnlyWarns.bind ?_ Plan.onlyWarns_render
  refine OnlyWarns.bind (Plan.onlyWarns_testPlan config spec) fun root => ?_
  refine OnlyWarns.bind (Plan.onlyWarns_threadGroups config presets spec groups) fun elements => ?_
  exact onlyWarns_pure _

/-! ## Logs -/

namespace Log

lemma mem_add {log : Log} {diagnostic d : Diagnostic} :
    d ∈ (log.add diagnostic).items ↔ d ∈ log.items ∨ d = diagnostic := by
  unfold add
  split_ifs with h
  · refine ⟨Or.inl, ?_⟩
    rintro (hd | rfl)
    · exact hd
    · exact h
  · simp

lemma nodup_add {log : Log} (h : log.items.Nodup) (diagnostic : Diagnostic) :
    (log.add diagnostic).items.Nodup := by
  unfold add
  split_ifs with hmem
  · exact h
  · exact List.nodup_append.mpr ⟨h, List.nodup_singleton diagnostic, by
      intro d hd other hother
      obtain rfl := List.mem_singleton.mp hother
      rintro rfl
      exact hmem hd⟩

lemma mem_addAll {d : Diagnostic} : ∀ {notes : List Diagnostic} {log : Log},
    d ∈ (log.addAll notes).items ↔ d ∈ log.items ∨ d ∈ notes
  | [], log => by simp [addAll]
  | note :: notes, log => by
      have hstep : log.addAll (note :: notes) = (log.add note).addAll notes := rfl
      rw [hstep, mem_addAll, mem_add, List.mem_cons, or_assoc]

lemma nodup_addAll : ∀ (notes : List Diagnostic) {log : Log}, log.items.Nodup →
    (log.addAll notes).items.Nodup
  | [], _, h => h
  | note :: notes, _, h => nodup_addAll notes (nodup_add h note)

/-- **A log holds the remarks of a run, each of them once.** -/
lemma ofNotes_items (notes : List Diagnostic) :
    (ofNotes notes).items.Nodup ∧ ∀ d, d ∈ (ofNotes notes).items ↔ d ∈ notes := by
  refine ⟨nodup_addAll notes List.nodup_nil, fun d => ?_⟩
  rw [ofNotes, mem_addAll]
  simp [empty]

end Log

end LoadPlan
