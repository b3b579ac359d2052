import LoadPlan.Compile
import LoadPlan.Proofs.Plan.Rendering
import LoadPlan.Yaml.Document

/-!
# When a compilation succeeds

A plan that has been assembled can still fail to be written, but not if all of its elements are
well-typed.

* `IsWritable` — a plan that can be written.
* **`compileSpec_of_isWritable`** — a specification is compiled if its plan can be written.
* `twoPaths`, `groupedByPath` — a document whose two operations are in groups of their own.
-/

namespace LoadPlan

open Plan

/-- **A plan that can be written**: its elements are well-typed, its integers have decimal texts, and
its displays can stand in a document. -/
def IsWritable (plan : Element) : Prop :=
  ∀ e ∈ plan.walk, e.IsTyped ∧ e.HasDecimals ∧ e.HasLegalDisplay

instance (plan : Element) : Decidable (IsWritable plan) :=
  inferInstanceAs (Decidable (∀ e ∈ plan.walk, e.IsTyped ∧ e.HasDecimals ∧ e.HasLegalDisplay))

/-- **A specification is compiled if its plan can be written.** -/
theorem compileSpec_of_isWritable {presets : Presets} {config : Config} {spec : Specification}
    {operations : List Operation} {plan : Element} (hoperations : spec.operations = .ok operations)
    (hne : operations ≠ [])
    (hplan : (assemble config presets spec
      (Operation.group config.groupingStrategy operations)).outcome = .ok plan)
    (hwritable : IsWritable plan) : ∃ result, compileSpec presets config spec = .ok result ∧
      result.success = true ∧ result.operationCount = operations.length ∧
      result.groupCount = (Operation.group config.groupingStrategy operations).length := by
  obtain ⟨first, others, rfl⟩ := List.exists_cons_of_ne_nil hne
  have htext := render_outcome (fun e he => (hwritable e he).1) (fun e he => (hwritable e he).2.1)
    fun e he => (hwritable e he).2.2
  have hplanText : (planText presets config spec
      (Operation.group config.groupingStrategy (first :: others))).outcome =
        .ok (planDocument plan.outline).withLineFeeds.document := by
    rw [planText, Report.bind_outcome, hplan, ok_bind, htext]
  refine ⟨.compiled (planDocument plan.outline).withLineFeeds.document (first :: others).length
    (Operation.group config.groupingStrategy (first :: others)).length
    (Log.ofNotes (planText presets config spec
      (Operation.group config.groupingStrategy (first :: others))).notes), ?_, rfl, rfl, rfl⟩
  simp only [compileSpec, hoperations]
  show Compilation.ofReport _ _ _ = _
  rw [Compilation.ofReport, hplanText]
  rfl

/-! ## An example -/

/-- A document with one operation on each of two paths. -/
def twoPaths : List Char :=
  "\x7b\"paths\":\x7b\"/a\":\x7b\"get\":\x7b\x7d\x7d,\"/b\":\x7b\"get\":\x7b\x7d\x7d\x7d\x7d".toList

/-- Options by which each path has a group of its own. -/
def groupedByPath : Options := .mapping [(.text "groupingStrategy", .text "by-path")]

/-- The document has a plan with two groups, which can be written. -/
lemma compileWith_twoPaths : ∃ result,
    compileWith Yaml.reader .usual groupedByPath (some twoPaths) none = .ok result ∧
      result.success = true ∧ result.operationCount = 2 ∧ result.groupCount = 2 := by
  have hchecked : (do
      let config ← groupedByPath.config
      let spec ← Specification.read Yaml.reader twoPaths none config.baseUrl
      let operations ← spec.operations
      let groups := Operation.group config.groupingStrategy operations
      let plan ← (assemble config .usual spec groups).outcome
      return decide (operations.length = 2 ∧ groups.length = 2 ∧ IsWritable plan)).toOption =
        some true := by decide +kernel
  have hrun := eq_ok_of_toOption hchecked
  obtain ⟨config, hconfig, hrun⟩ := exists_of_except_bind hrun
  obtain ⟨spec, hspec, hrun⟩ := exists_of_except_bind hrun
  obtain ⟨operations, hoperations, hrun⟩ := exists_of_except_bind hrun
  obtain ⟨plan, hplan, hrun⟩ := exists_of_except_bind hrun
  obtain ⟨hcount, hgroups, hwritable⟩ := of_decide_eq_true (Except.ok.inj hrun)
  have hne : operations ≠ [] := by
    rintro rfl
    exact nomatch hcount
  obtain ⟨result, hresult, hsuccess, hoperationCount, hgroupCount⟩ :=
    compileSpec_of_isWritable hoperations hne hplan hwritable
  have hread : readOrFail Yaml.reader config twoPaths none = .ok (.ok spec) := by
    rw [readOrFail, hspec]
  refine ⟨result, ?_, hsuccess, hoperationCount.trans hcount, hgroupCount.trans hgroups⟩
  rw [compileWith, hconfig, ok_bind]
  show compile Yaml.reader .usual config twoPaths none = _
  rw [compile, hread, ok_bind]
  exact hresult

end LoadPlan
