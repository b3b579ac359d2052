import LoadPlan.Proofs.Compile.Recording
import LoadPlan.Proofs.Schema.Addressing
import LoadPlan.Proofs.Schema.Course

/-!
# What a resolution reports

A reference that cannot be followed becomes an empty object and is remarked on: once for each text that
refers to nothing, and once for each that is met at the limit.

* `Resolver.remark_unique` — two remarks of one kind are on different texts.
* `Resolver.Reported` — a resolution that reports all of its references that it does not follow, and nothing
  else.
* **`Resolver.resolve_reported`** — every resolution does.
* `Resolver.resolve_superscript` — a reference that leads nowhere can stop the resolution.
-/

namespace LoadPlan.Resolver

open Pointer

section

variable {r : Resolver} {call : Call} {pointer : Text}

/-- Two remarks of one kind are on different texts. -/
lemma remark_unique {c : Call} {d e : Diagnostic} (hd : r.remark? call = some d)
    (he : r.remark? c = some e) (hcode : d.code = e.code) (hcontext : d.context = e.context) :
    d = e := by
  have hkinds : ("SchemaDepthExceededWarning" : Text) ≠ "UnresolvedRefWarning" := by decide
  rcases remark_cases hd with hd | ⟨limit, hlimit, hd⟩ <;>
    rcases remark_cases he with he | ⟨other, hother, he⟩
  · rw [hd, he, hcontext]
  · rw [hd, he] at hcode
    exact absurd hcode.symm hkinds
  · rw [hd, he] at hcode
    exact absurd hcode hkinds
  · obtain rfl := Except.ok.inj (hlimit.symm.trans hother)
    rw [hd, he, hcontext]

lemma passes_iff_hasPositions (h : r.LooksUp call pointer) :
    r.Passes call ↔ HasPositions r.document pointer := by
  rw [passes_iff_of_looksUp h, exists_target_iff]

end

/-- **A resolution that reports what it does not follow**, and nothing else. -/
structure Reported (r : Resolver) (call : Call) : Prop where
  /-- It comes to an end exactly if none of its calls stops. -/
  returns_iff : (r.run call).Returns ↔ ∀ c ∈ r.calls call, r.Passes c
  /-- A lookup does not stop if the positions of the reference have values. -/
  passes_iff : ∀ c pointer, r.LooksUp c pointer → (r.Passes c ↔ HasPositions r.document pointer)
  /-- What is recorded is what its calls remark, in the order in which they are made. -/
  log_eq : (Log.ofNotes (r.run call).notes).items = ((r.calls call).filterMap r.remark?).eraseDups
  /-- No text is remarked on twice in the same way. -/
  once : ∀ d ∈ (Log.ofNotes (r.run call).notes).items,
    ∀ e ∈ (Log.ofNotes (r.run call).notes).items, d.code = e.code → d.context = e.context → d = e
  /-- A reference at the limit is remarked on and becomes an empty object. -/
  at_limit : ∀ c pointer, r.IsLimited c pointer → r.Passes c →
    ∃ limit, integerText r.maxDepth = .ok limit ∧
      r.remark? c = some (limitRemark limit pointer) ∧ (r.run c).outcome = .ok .emptyObject
  /-- So does a reference that leads to no mapping. -/
  nowhere : ∀ c pointer, r.LooksUp c pointer → r.Passes c →
    (∀ entries, ¬ LeadsTo r.document pointer entries) →
      r.remark? c = some (unresolvedRemark pointer) ∧ (r.run c).outcome = .ok .emptyObject
  /-- Any other reference is not remarked on, and it becomes what it leads to. -/
  followed : ∀ c pointer entries, r.LooksUp c pointer → LeadsTo r.document pointer entries →
    r.remark? c = none ∧ r.run c = r.run ⟨c.depth + 1, .map entries⟩
  /-- Nor is anything remarked that is no reference. -/
  silent : ∀ c, (∀ pointer, c.raw.form ≠ .reference pointer) → r.remark? c = none

/-- **Every resolution reports what it does not follow**, and nothing else. -/
theorem resolve_reported (r : Resolver) (depth : Int) (raw : Value) : r.Reported ⟨depth, raw⟩ where
  returns_iff := returns_iff r ⟨depth, raw⟩
  passes_iff _ _ := passes_iff_hasPositions
  log_eq := by rw [Log.ofNotes_eq_eraseDups, notes_eq]
  once := by
    have hremark : ∀ d ∈ (Log.ofNotes (r.run ⟨depth, raw⟩).notes).items,
        ∃ c, r.remark? c = some d := by
      intro d hd
      rw [Log.ofNotes_eq_eraseDups, List.mem_eraseDups, notes_eq, List.mem_filterMap] at hd
      obtain ⟨c, -, hc⟩ := hd
      exact ⟨c, hc⟩
    intro d hd e he
    obtain ⟨c, hc⟩ := hremark d hd
    obtain ⟨other, hother⟩ := hremark e he
    exact remark_unique hc hother
  at_limit c pointer h hpasses := by
    obtain ⟨limit, hlimit⟩ := (passes_iff_of_limited h).mp hpasses
    refine ⟨limit, hlimit, remark_of_limited h hlimit, ?_⟩
    rw [run_of_limited h hlimit]
  nowhere c pointer h hpasses hnowhere := by
    have htarget := target_eq_none_iff.mpr ⟨(passes_iff_hasPositions h).mp hpasses, hnowhere⟩
    refine ⟨remark_of_missing h htarget, ?_⟩
    rw [run_of_missing h htarget]
  followed c pointer entries h hleads := by
    have htarget := target_eq_some_iff.mpr hleads
    exact ⟨remark_of_found h htarget, run_of_found h htarget⟩
  silent _ := remark_of_direct

/-- A document with a sequence. -/
def listDocument : Value := .map [(.text "x", .list [.map []])]

/-- **A reference that leads nowhere can stop the resolution**: a superscript is a digit that has no
value. -/
theorem resolve_superscript :
    (∀ entries, ¬ LeadsTo listDocument "#/x/²" entries) ∧
      ((Resolver.mk listDocument usualDepth).resolve 0 (referring "#/x/²")).outcome =
        .error .badIndex := by
  have htarget : target listDocument "#/x/²" = .error .badIndex := by
    rfl
  refine ⟨fun entries hleads => ?_, ?_⟩
  · rw [target_eq_some_iff.mpr hleads] at htarget
    cases htarget
  · have hlook : (Resolver.mk listDocument usualDepth).LooksUp ⟨0, referring "#/x/²"⟩ "#/x/²" :=
      ⟨rfl, by decide⟩
    exact congrArg Report.outcome (run_of_failed hlook htarget)

end LoadPlan.Resolver
