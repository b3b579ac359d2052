import LoadPlan.Proofs.Compile.Remarks
import LoadPlan.Proofs.Plan.Census
import LoadPlan.Proofs.Specification.Outline

/-!
# The verdict on a document

A compilation that comes to an end has either failed, and then for one of the reasons for which texts
are refused, or it has a plan.

* `Compilation.IsFailure`, `Compilation.IsPlan` — what a caller sees in either case.
* **`compileWith_verdict`** — a compilation fails exactly for the reasons for which texts are refused,
  what it returns has the one form or the other, and the reasons show on the first levels of a document.
-/

namespace LoadPlan

/-! ## Results -/

/-- **A failed compilation**: nothing but one error. -/
structure Compilation.IsFailure (code : Text) (result : Compilation) : Prop where
  /-- There is no plan. -/
  xml : result.xml? = none
  /-- There are no operations. -/
  operationCount : result.operationCount = 0
  /-- There are no groups. -/
  groupCount : result.groupCount = 0
  /-- The one remark is an error of the code. -/
  diagnostics : ∃ message context, result.diagnostics = [⟨.error, code, message, context⟩]

/-- **A compilation with a plan**, and with warnings only. -/
structure Compilation.IsPlan (result : Compilation) : Prop where
  /-- There is a plan. -/
  xml : ∃ xml, result.xml? = some xml
  /-- There is a group. -/
  groupCount_pos : 1 ≤ result.groupCount
  /-- There are no more groups than operations. -/
  groupCount_le : result.groupCount ≤ result.operationCount
  /-- No remark is repeated. -/
  nodup : result.diagnostics.Nodup
  /-- All remarks are warnings. -/
  warnings : ∀ d ∈ result.diagnostics, d.severity = .warning

lemma Compilation.isFailure_failed (fault : SpecFault) :
    IsFailure fault.code (.failed fault) :=
  ⟨rfl, rfl, rfl, fault.message, fault.context, rfl⟩

/-! ## Groups -/

lemma length_le_flatMap : ∀ {groups : Operation.Groups}, (∀ pair ∈ groups, pair.2 ≠ []) →
    groups.length ≤ (groups.flatMap Prod.snd).length
  | [], _ => Nat.le_refl 0
  | group :: groups, h => by
      have hrest := length_le_flatMap fun pair hpair => h pair (List.mem_cons_of_mem group hpair)
      have hfirst := List.length_pos_of_ne_nil (h group List.mem_cons_self)
      rw [List.flatMap_cons, List.length_append, List.length_cons]
      omega

/-- Operations that there are have groups, and no more groups than there are operations. -/
lemma length_group (strategy : Strategy) {operations : List Operation} (h : operations ≠ []) :
    1 ≤ (Operation.group strategy operations).length ∧
      (Operation.group strategy operations).length ≤ operations.length := by
  have hlength := Operation.length_flatMap_group strategy operations
  constructor
  · rw [Nat.one_le_iff_ne_zero]
    intro hnone
    rw [List.length_eq_zero_iff] at hnone
    rw [hnone] at hlength
    exact h (List.length_eq_zero_iff.mp hlength.symm)
  · rw [← hlength]
    exact length_le_flatMap (Operation.isGrouping_group strategy operations).nonempty

/-! ## Compilation -/

section

variable {presets : Presets} {config : Config}

/-- A specification either has no operations or is compiled to a plan. -/
lemma compileSpec_cases {spec : Specification} {result : Compilation}
    (h : compileSpec presets config spec = .ok result) :
    (¬ HasOperation spec.paths ∧ result = .failed .noOperations) ∨
      (HasOperation spec.paths ∧ result.IsPlan) := by
  obtain ⟨operations, hoperations, h⟩ := exists_of_except_bind h
  have hnone := operations_eq_nil_iff hoperations
  split at h
  · rename_i hempty
    obtain rfl := Except.ok.inj h
    exact .inl ⟨hnone.mp (List.isEmpty_iff.mp hempty), rfl⟩
  · rename_i hsome
    have hne : operations ≠ [] := fun heq => hsome (List.isEmpty_iff.mpr heq)
    refine .inr ⟨Classical.not_not.mp fun hno => hne (hnone.mpr hno), ?_⟩
    obtain ⟨hpos, hle⟩ := length_group config.groupingStrategy hne
    have hwarns := onlyWarns_planText presets config spec
      (Operation.group config.groupingStrategy operations)
    simp only [Compilation.ofReport] at h
    cases htext : (planText presets config spec
        (Operation.group config.groupingStrategy operations)).outcome with
    | error fault =>
        rw [htext] at h
        cases h
    | ok xml =>
        rw [htext] at h
        obtain rfl := Except.ok.inj h
        obtain ⟨hnodup, hmem⟩ := Log.ofNotes_items (planText presets config spec
          (Operation.group config.groupingStrategy operations)).notes
        exact ⟨⟨xml, rfl⟩, hpos, hle, hnodup, fun d hd => hwarns d ((hmem d).mp hd)⟩

variable {reader : YamlReader} {source : List Char} {declared : Option Text} {result : Compilation}

/-- What is compiled has a specification; otherwise it is refused. -/
lemma compile_cases (h : compile reader presets config source declared = .ok result) :
    (∃ fault, Specification.read reader source declared config.baseUrl = .error (.spec fault) ∧
        result = .failed fault) ∨
      ∃ spec, Specification.read reader source declared config.baseUrl = .ok spec ∧
        compileSpec presets config spec = .ok result := by
  obtain ⟨read, hread, h⟩ := exists_of_except_bind h
  unfold readOrFail at hread
  split at hread
  · rename_i spec hspec
    obtain rfl := Except.ok.inj hread
    exact .inr ⟨spec, hspec, h⟩
  · rename_i fault hfault
    obtain rfl := Except.ok.inj hread
    obtain rfl := Except.ok.inj h
    exact .inl ⟨fault, hfault, rfl⟩
  · cases hread

/-- **What a compilation returns**: a failure for a reason, or a plan. -/
lemma isFailure_or_isPlan (h : compile reader presets config source declared = .ok result) :
    (∃ code, Refusal reader source declared code ∧ result.IsFailure code) ∨ result.IsPlan := by
  rcases compile_cases h with ⟨fault, hfault, rfl⟩ | ⟨spec, hspec, hcompile⟩
  · exact .inl ⟨_, Specification.refusal_of_read hfault, Compilation.isFailure_failed fault⟩
  · rcases compileSpec_cases hcompile with ⟨hno, rfl⟩ | ⟨-, hplan⟩
    · obtain ⟨entries, paths, hdecodes, hpaths, -, hsame, -⟩ := Specification.exists_of_read hspec
      rw [hsame] at hno
      exact .inl ⟨_, .noOperations hdecodes hpaths hno, Compilation.isFailure_failed .noOperations⟩
    · exact .inr hplan

/-- What is refused fails, with the code of the reason. -/
lemma isFailure_of_refusal (h : compile reader presets config source declared = .ok result) {code : Text}
    (hrefusal : Refusal reader source declared code) : result.IsFailure code := by
  rcases compile_cases h with ⟨fault, hfault, rfl⟩ | ⟨spec, hspec, hcompile⟩
  · rcases Specification.read_of_refusal hrefusal with ⟨reason, hreason, rfl⟩ | ⟨-, hread, -⟩
    · rw [hreason] at hfault
      obtain rfl := Fault.spec.inj (Except.error.inj hfault)
      exact Compilation.isFailure_failed reason
    · exact absurd hfault (hread fault)
  · rcases Specification.read_of_refusal hrefusal with ⟨reason, hreason, rfl⟩ | ⟨rfl, -, hno⟩
    · rw [hreason] at hspec
      cases hspec
    · rcases compileSpec_cases hcompile with ⟨-, rfl⟩ | ⟨hyes, -⟩
      · exact Compilation.isFailure_failed .noOperations
      · exact absurd hyes (hno spec hspec)

end

lemma Compilation.IsFailure.success_eq {result : Compilation} {code : Text}
    (h : result.IsFailure code) : result.success = false := by
  rw [success, h.xml]
  rfl

lemma Compilation.IsPlan.success_eq {result : Compilation} (h : result.IsPlan) :
    result.success = true := by
  obtain ⟨xml, hxml⟩ := h.xml
  rw [success, hxml]
  rfl

/-- **The verdict on a document.**  A compilation that comes to an end has failed exactly if the text
is refused: because there is none or nothing in it, because it is of neither format, because its
document is no mapping or has no mapping of paths, because there are no paths, or because no path has
an operation.  It has then nothing to show but one error, of the code of the reason.  Otherwise it has
a plan, at least one group and no more groups than operations, and warnings that do not repeat.  The
reasons show on the first four levels of the document: every reader that sees the same there refuses the
text for the same reasons. -/
theorem compileWith_verdict {reader : YamlReader} {presets : Presets} {options : Options}
    {source? : Option (List Char)} {declared : Option Text} {result : Compilation}
    (h : compileWith reader presets options source? declared = .ok result) :
    (result.success = false ↔ ∃ code, Refusal reader (sourceText source?) declared code) ∧
      (∀ code, Refusal reader (sourceText source?) declared code → result.IsFailure code) ∧
      (result.success = true → result.IsPlan) ∧
      ∀ other : YamlReader, (reader.ofText (sourceText source?)).map (Value.outline 4) =
          (other.ofText (sourceText source?)).map (Value.outline 4) → ∀ code,
        Refusal reader (sourceText source?) declared code ↔
          Refusal other (sourceText source?) declared code := by
  obtain ⟨config, -, hcompile⟩ := exists_of_except_bind h
  refine ⟨⟨fun hfailed => ?_, ?_⟩, fun code => isFailure_of_refusal hcompile, fun hsuccess => ?_,
    fun other hsame => refusal_iff_of_outline hsame⟩
  · rcases isFailure_or_isPlan hcompile with ⟨code, hrefusal, -⟩ | hplan
    · exact ⟨code, hrefusal⟩
    · rw [hplan.success_eq] at hfailed
      cases hfailed
  · rintro ⟨code, hrefusal⟩
    exact (isFailure_of_refusal hcompile hrefusal).success_eq
  · rcases isFailure_or_isPlan hcompile with ⟨code, -, hfailure⟩ | hplan
    · rw [hfailure.success_eq] at hsuccess
      cases hsuccess
    · exact hplan

/-- The document with two groups has a plan, and nothing for which it is refused. -/
theorem compileWith_verdict_twoPaths : ∃ result,
    compileWith Yaml.reader .usual groupedByPath (some twoPaths) none = .ok result ∧ result.IsPlan ∧
      ∀ code, ¬ Refusal Yaml.reader twoPaths none code := by
  obtain ⟨result, hresult, hsuccess, -, -⟩ := compileWith_twoPaths
  obtain ⟨hfailure, -, hplan, -⟩ := compileWith_verdict hresult
  refine ⟨result, hresult, hplan hsuccess, fun code hrefusal => ?_⟩
  rw [hfailure.mpr ⟨code, hrefusal⟩] at hsuccess
  cases hsuccess

end LoadPlan
