import LoadPlan.Compile.Stepwise
import LoadPlan.Proofs.Compile.Success
import Mathlib.Tactic.Lemma
import Mathlib.Tactic.Set

/-!
# Compilation in steps comes to the same end

`compile` builds all groups of a plan in one go.  `compileStepwise` lists the same stages a second
time and gives others a turn in between, so that a fault, a remark or a group could be lost or
doubled in one of the two and not in the other.  Here they are shown to agree.

* `drive_threadGroupsStepwise` — groups that are built with pauses are the groups that are built
  without, and there is one pause for each of them.
* `drive_planStepwise`, `drive_compileSpecStepwise` — the same for a plan and for a specification.
* `Ending` — how often a compilation has paused, by where it ended.
* **`drive_compileStepwiseWith`** — driven to its end, a compilation in steps has the outcome of the
  direct one, fault or result, and has paused as often as `Ending` says.
-/

namespace LoadPlan

open Plan

variable {α : Type} {config : Config} {presets : Presets} {spec : Specification}

/-! ## Groups

What has been built before the pause is carried along as a report, remarks included.  The invariant
of the recursion is that this report, followed by the groups that are still to come, is one and the
same report at every pause.
-/

/-- Groups that follow others which have been built already. -/
def threadGroupsAfter (config : Config) (presets : Presets) (spec : Specification)
    (built : Report (List Element)) (groups : Operation.Groups) : Report (List Element) := do
  let elements ← built
  return elements ++ (← threadGroups config presets spec groups)

lemma threadGroupsAfter_nil (built : Report (List Element)) :
    threadGroupsAfter config presets spec built [] = built := by
  simp [threadGroupsAfter, threadGroups]

/-- Building one group more does not change what is built in the end. -/
lemma threadGroupsAfter_cons (built : Report (List Element)) (name : Text)
    (operations : List Operation) (rest : Operation.Groups) :
    threadGroupsAfter config presets spec built ((name, operations) :: rest) =
      threadGroupsAfter config presets spec
        (do
          let elements ← built
          let element ← threadGroup config presets spec name operations
          return elements ++ [element]) rest := by
  simp only [threadGroupsAfter, threadGroups, bind_assoc, pure_bind, List.append_assoc,
    List.singleton_append]

lemma threadGroupsAfter_pure_nil (groups : Operation.Groups) :
    threadGroupsAfter config presets spec (pure []) groups =
      threadGroups config presets spec groups := by
  simp [threadGroupsAfter]

/-- **Groups with pauses.**  If all can be built, what follows is given all of them, after one pause
for each; and if one cannot be built, the computation stops with its fault. -/
lemma drive_threadGroupsStepwise (config : Config) (presets : Presets) (spec : Specification)
    (next : Report (List Element) → Stepwise α) (groups : Operation.Groups) :
    ∀ (built : Report (List Element)) {elements : List Element}, built.outcome = .ok elements →
      match (threadGroupsAfter config presets spec built groups).outcome with
      | .ok _ =>
        (threadGroupsStepwise config presets spec built next groups).drive =
          ((next (threadGroupsAfter config presets spec built groups)).drive.1,
            (next (threadGroupsAfter config presets spec built groups)).drive.2 + groups.length)
      | .error fault =>
        (threadGroupsStepwise config presets spec built next groups).drive.1 = .error fault := by
  induction groups with
  | nil =>
      intro built elements h
      simp [threadGroupsAfter_nil, h, threadGroupsStepwise]
  | cons group rest ih =>
      intro built elements h
      obtain ⟨name, operations⟩ := group
      rw [threadGroupsAfter_cons, threadGroupsStepwise]
      set longer : Report (List Element) := do
        let elements ← built
        let element ← threadGroup config presets spec name operations
        return elements ++ [element] with hlonger
      cases hl : longer.outcome with
      | error fault =>
          have hall : (threadGroupsAfter config presets spec longer rest).outcome =
              .error fault := by
            rw [threadGroupsAfter, Report.bind_of_error hl]
          simp only [hall, Stepwise.afterwards_error hl, Stepwise.drive_finished]
      | ok more =>
          have hrest := ih longer hl
          simp only [Stepwise.afterwards_ok hl, Stepwise.drive_suspended]
          cases hall : (threadGroupsAfter config presets spec longer rest).outcome with
          | error fault =>
              simp only [hall] at hrest ⊢
              exact hrest
          | ok elements =>
              simp only [hall] at hrest ⊢
              rw [hrest, List.length_cons, Nat.add_assoc]

/-! ## Plans -/

lemma ofReport_of_error {operations groups : Nat} {report : Report Text} {fault : Fault}
    (h : report.outcome = .error fault) :
    Compilation.ofReport operations groups report = .error fault := by
  rw [Compilation.ofReport, h]
  rfl

/-- Root and groups can be built apart. -/
lemma planText_eq (groups : Operation.Groups) :
    planText presets config spec groups = (do
      let root ← testPlan config spec
      render (root.withGroups (← threadGroups config presets spec groups))) := by
  simp only [planText, assemble, bind_assoc, pure_bind]

/-- **A plan with pauses** has the outcome of the plan that is written in one go.  If there is one,
the pauses are as many as the groups. -/
lemma drive_planStepwise (presets : Presets) (config : Config) (spec : Specification)
    (operations : Nat) (groups : Operation.Groups) :
    (planStepwise presets config spec operations groups).drive.1 =
        Compilation.ofReport operations groups.length (planText presets config spec groups) ∧
      ∀ text, (planText presets config spec groups).outcome = .ok text →
        (planStepwise presets config spec operations groups).drive.2 = groups.length := by
  rw [planText_eq]
  cases hroot : (testPlan config spec).outcome with
  | error fault =>
      simp only [planStepwise, Stepwise.afterwards_error hroot, Stepwise.drive_finished,
        Report.bind_of_error hroot]
      refine ⟨(ofReport_of_error rfl).symm, fun text htext => ?_⟩
      cases htext
  | ok root =>
      have hgroups := drive_threadGroupsStepwise config presets spec
        (fun built => .finished (Compilation.ofReport operations groups.length do
          let root ← testPlan config spec
          render (root.withGroups (← built))))
        groups (pure []) rfl
      simp only [planStepwise, Stepwise.afterwards_ok hroot]
      rw [threadGroupsAfter_pure_nil] at hgroups
      cases hall : (threadGroups config presets spec groups).outcome with
      | error fault =>
          simp only [hall] at hgroups
          have hstop : (do
              let root ← testPlan config spec
              render (root.withGroups (← threadGroups config presets spec groups))).outcome =
              .error fault := by
            rw [Report.bind_of_ok hroot, Report.bind_of_error hall]
          refine ⟨by rw [hgroups, ofReport_of_error hstop], fun text htext => ?_⟩
          rw [hstop] at htext
          cases htext
      | ok elements =>
          simp only [hall, Stepwise.drive_finished, Nat.zero_add] at hgroups
          rw [hgroups]
          exact ⟨rfl, fun _ _ => rfl⟩

/-! ## Documents -/

/-- **Where a compilation ends**, and how often it has paused by then: never when there is no
specification to be had from the document, once when that has no operations, and otherwise once for
the specification and once for each group. -/
inductive Ending (config : Config) (read : Except Fault Specification) : Compilation → Nat → Prop
  | unread {fault : SpecFault} (h : read = .error (.spec fault)) :
      Ending config read (.failed fault) 0
  | empty {spec : Specification} (h : read = .ok spec) (none : spec.operations = .ok []) :
      Ending config read (.failed .noOperations) 1
  | written {spec : Specification} {operations : List Operation} {xml : Text} {log : Log}
      (h : read = .ok spec) (some : spec.operations = .ok operations) (ne : operations ≠ []) :
      Ending config read
        (.compiled xml operations.length
          (Operation.group config.groupingStrategy operations).length log)
        (1 + (Operation.group config.groupingStrategy operations).length)

/-- **A specification with pauses.** -/
lemma drive_compileSpecStepwise {read : Except Fault Specification} (hread : read = .ok spec) :
    (compileSpecStepwise presets config spec).drive.1 = compileSpec presets config spec ∧
      ∀ result, compileSpec presets config spec = .ok result →
        Ending config read result ((compileSpecStepwise presets config spec).drive.2 + 1) := by
  cases hops : spec.operations with
  | error fault =>
      simp only [compileSpecStepwise, compileSpec, hops]
      refine ⟨rfl, fun result hresult => ?_⟩
      cases hresult
  | ok operations =>
      cases operations with
      | nil =>
          simp only [compileSpecStepwise, compileSpec, hops]
          refine ⟨rfl, fun result hresult => ?_⟩
          obtain rfl : Compilation.failed .noOperations = result := Except.ok.inj hresult
          exact .empty hread hops
      | cons first others =>
          obtain ⟨hsame, hpauses⟩ := drive_planStepwise presets config spec
            (first :: others).length (Operation.group config.groupingStrategy (first :: others))
          have hdirect : compileSpec presets config spec =
              Compilation.ofReport (first :: others).length
                (Operation.group config.groupingStrategy (first :: others)).length
                (planText presets config spec
                  (Operation.group config.groupingStrategy (first :: others))) := by
            simp only [compileSpec, hops]
            rfl
          have hsteps : compileSpecStepwise presets config spec =
              planStepwise presets config spec (first :: others).length
                (Operation.group config.groupingStrategy (first :: others)) := by
            simp [compileSpecStepwise, hops]
          rw [hsteps, hdirect]
          refine ⟨hsame, fun result hresult => ?_⟩
          cases htext : (planText presets config spec
              (Operation.group config.groupingStrategy (first :: others))).outcome with
          | error fault =>
              rw [ofReport_of_error htext] at hresult
              cases hresult
          | ok text =>
              rw [Compilation.ofReport, htext] at hresult
              obtain rfl := Except.ok.inj hresult
              rw [hpauses text htext, Nat.add_comm]
              exact .written hread hops (List.cons_ne_nil _ _)

/-- **A document with pauses.** -/
lemma drive_compileStepwise (reader : YamlReader) (presets : Presets) (config : Config)
    (source : List Char) (declared : Option Text) :
    (compileStepwise reader presets config source declared).drive.1 =
        compile reader presets config source declared ∧
      ∀ result, compile reader presets config source declared = .ok result →
        Ending config (Specification.read reader source declared config.baseUrl) result
          (compileStepwise reader presets config source declared).drive.2 := by
  cases hread : Specification.read reader source declared config.baseUrl with
  | ok spec =>
      have hfirst : readOrFail reader config source declared = .ok (.ok spec) := by
        simp only [readOrFail, hread]
      have hdirect :
          compile reader presets config source declared = compileSpec presets config spec := by
        rw [compile, hfirst]
        rfl
      simp only [compileStepwise, hfirst, Stepwise.drive_suspended, hdirect]
      exact drive_compileSpecStepwise rfl
  | error fault =>
      by_cases hspec : ∃ cause, fault = .spec cause
      · obtain ⟨cause, rfl⟩ := hspec
        have hfirst : readOrFail reader config source declared = .ok (.error (.failed cause)) := by
          simp only [readOrFail, hread]
        have hdirect : compile reader presets config source declared = .ok (.failed cause) := by
          rw [compile, hfirst]
          rfl
        simp only [compileStepwise, hfirst, Stepwise.drive_finished, hdirect]
        refine ⟨trivial, fun result hresult => ?_⟩
        obtain rfl := Except.ok.inj hresult
        exact .unread rfl
      · have hfirst : readOrFail reader config source declared = .error fault := by
          unfold readOrFail
          rw [hread]
          split
          · contradiction
          · rename_i cause hcause
            exact absurd ⟨cause, Except.error.inj hcause⟩ hspec
          · simp_all
        have hdirect : compile reader presets config source declared = .error fault := by
          rw [compile, hfirst]
          rfl
        simp only [compileStepwise, hfirst, Stepwise.drive_finished, hdirect]
        refine ⟨trivial, fun result hresult => ?_⟩
        cases hresult

/-- **A compilation in steps comes to the same end as the direct one**, with the same fault or the
same result, and if there is a result, has paused as often as its ending says.  This holds for every
document, also a missing one, for options given in any form, and whatever reads YAML. -/
theorem drive_compileStepwiseWith (reader : YamlReader) (presets : Presets) (options : Options)
    (source? : Option (List Char)) (declared : Option Text) :
    (compileStepwiseWith reader presets options source? declared).drive.1 =
        compileWith reader presets options source? declared ∧
      ∀ result, compileWith reader presets options source? declared = .ok result →
        ∃ config, options.config = .ok config ∧
          Ending config (Specification.read reader (sourceText source?) declared config.baseUrl) result
            (compileStepwiseWith reader presets options source? declared).drive.2 := by
  unfold compileStepwiseWith compileWith
  cases hconfig : options.config with
  | error fault =>
      refine ⟨rfl, fun result hresult => ?_⟩
      cases hresult
  | ok config =>
      obtain ⟨hsame, hending⟩ :=
        drive_compileStepwise reader presets config (sourceText source?) declared
      exact ⟨hsame, fun result hresult => ⟨config, rfl, hending result hresult⟩⟩

/-- The document with two groups is compiled with three pauses. -/
theorem drive_compileStepwiseWith_twoPaths : ∃ result,
    compileWith Yaml.reader .usual groupedByPath (some twoPaths) none = .ok result ∧
      result.groupCount = 2 ∧
        (compileStepwiseWith Yaml.reader .usual groupedByPath (some twoPaths) none).drive =
          (.ok result, 3) := by
  obtain ⟨result, hresult, -, -, hgroups⟩ := compileWith_twoPaths
  obtain ⟨hsame, hending⟩ :=
    drive_compileStepwiseWith Yaml.reader .usual groupedByPath (some twoPaths) none
  obtain ⟨config, -, hpauses⟩ := hending result hresult
  refine ⟨result, hresult, hgroups, Prod.ext (hsame.trans hresult) ?_⟩
  generalize
    (compileStepwiseWith Yaml.reader .usual groupedByPath (some twoPaths) none).drive.2 = pauses
    at hpauses ⊢
  cases hpauses with
  | unread => exact nomatch hgroups
  | empty => exact nomatch hgroups
  | written => exact congrArg (1 + ·) hgroups

end LoadPlan
