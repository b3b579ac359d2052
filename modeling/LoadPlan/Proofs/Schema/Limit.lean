import LoadPlan.Proofs.Compile.Remarks
import LoadPlan.Proofs.Schema.Course
import LoadPlan.Proofs.Value.Spelling

/-!
# The limit cannot be seen

How deep references are followed makes no difference as long as the limit is not remarked on.

* `Report.RepeatedBy` — a run that another one repeats, as long as what is remarked in it is of some kind.
* `Resolver.repeatedBy_run` — a value that is no reference is resolved again in the same way, if the values
  are that are resolved in it.
* **`Resolver.resolve_of_quiet`** — a resolution in which no reference is at the limit is the same with
  every higher limit.
-/

namespace LoadPlan

/-! ## Runs that are repeated -/

namespace Report

variable {α β : Type} {silent : Diagnostic → Prop} {excused : Fault → Prop}

/-- **A run that another one repeats**, as long as all its remarks are silent.  For some faults it is
excused. -/
def RepeatedBy (silent : Diagnostic → Prop) (excused : Fault → Prop) (report other : Report α) : Prop :=
  report.Remarks silent → other = report ∨ ∃ fault, report.outcome = .error fault ∧ excused fault

namespace RepeatedBy

lemma refl (report : Report α) : report.RepeatedBy silent excused report := fun _ => .inl rfl

lemma bind {report other : Report α} {next otherNext : α → Report β}
    (h : report.RepeatedBy silent excused other)
    (hnext : ∀ a, report.outcome = .ok a → (next a).RepeatedBy silent excused (otherNext a)) :
    (report >>= next).RepeatedBy silent excused (other >>= otherNext) := by
  intro hsilent
  cases houtcome : report.outcome with
  | error fault =>
      rw [bind_of_error houtcome] at hsilent ⊢
      rcases h hsilent with rfl | ⟨other, hother, hexcused⟩
      · exact .inl (bind_of_error houtcome otherNext)
      · obtain rfl := Except.error.inj (houtcome.symm.trans hother)
        exact .inr ⟨fault, rfl, hexcused⟩
  | ok a =>
      rw [bind_of_ok houtcome] at hsilent ⊢
      have hfirst : report.Remarks silent := fun d hd => hsilent d (List.mem_append_left _ hd)
      have hsecond : (next a).Remarks silent := fun d hd => hsilent d (List.mem_append_right _ hd)
      rcases h hfirst with rfl | ⟨fault, hfault, -⟩
      · rw [bind_of_ok houtcome]
        exact (hnext a houtcome hsecond).imp (fun hsame => by rw [hsame]) id
      · rw [houtcome] at hfault
        cases hfault

/-- A run that is only made something of. -/
lemma bind_pure {report other : Report α} (h : report.RepeatedBy silent excused other) (f : α → β) :
    (report >>= fun a => pure (f a)).RepeatedBy silent excused (other >>= fun a => pure (f a)) :=
  h.bind fun a _ => refl (pure (f a))

end RepeatedBy

end Report

/-! ## Calls that are repeated -/

namespace Resolver

section

variable {r other : Resolver} {silent : Diagnostic → Prop} {excused : Fault → Prop} {depth : Int}

/-- A row is repeated if its calls are. -/
lemma repeatedBy_row {row : Row}
    (h : ∀ c ∈ r.reached depth row, (r.run c).RepeatedBy silent excused (other.run c)) :
    (r.row depth row).RepeatedBy silent excused (other.row depth row) := by
  induction row with
  | nil => exact .refl _
  | cons entry rest ih =>
      obtain ⟨fault | name, raw⟩ := entry
      · exact .refl _
      · rw [forall_mem_reached_cons] at h
        rw [row_cons_ok, row_cons_ok]
        exact h.1.bind fun schema hschema => (ih (h.2 ⟨schema, hschema⟩)).bind_pure _

lemma repeatedBy_ownAt {raw : Entries}
    (h : ∀ c ∈ r.reached (depth + 1) (.ofProperties raw),
      (r.run c).RepeatedBy silent excused (other.run c)) :
    (r.ownAt depth raw).RepeatedBy silent excused (other.ownAt depth raw) :=
  (repeatedBy_row h).bind_pure _

lemma repeatedBy_conjunction {raw : Entries} {members : List Value}
    (hmembers : ∀ c ∈ r.reached depth (.ofMembers members),
      (r.run c).RepeatedBy silent excused (other.run c))
    (hown : ∀ c ∈ r.reached (depth + 1) (r.ownRow depth (.conjunction raw members)),
      (r.run c).RepeatedBy silent excused (other.run c)) :
    (r.resolveForm depth (.conjunction raw members)).RepeatedBy silent excused
      (other.resolveForm depth (.conjunction raw members)) := by
  have hrow : (r.membersAt depth members).RepeatedBy silent excused (other.membersAt depth members) :=
    (repeatedBy_row hmembers).bind_pure _
  refine hrow.bind fun schemas hschemas => ?_
  cases hlone : lone? schemas with
  | some member =>
      rw [conjoinedAt_of_lone hlone, conjoinedAt_of_lone hlone]
      exact .refl _
  | none =>
      rw [ownRow_of_merged hschemas hlone] at hown
      rw [conjoinedAt_of_merged hlone, conjoinedAt_of_merged hlone]
      exact (repeatedBy_ownAt hown).bind_pure _

/-- **A call that is no reference is repeated** if the calls are that it makes. -/
lemma repeatedBy_run {call : Call} (hform : ∀ pointer, call.raw.form ≠ .reference pointer)
    (h : ∀ c ∈ r.nested call, (r.run c).RepeatedBy silent excused (other.run c)) :
    (r.run call).RepeatedBy silent excused (other.run call) := by
  rw [run, run, resolve_eq, resolve_eq]
  unfold nested at h
  generalize call.raw.form = form at hform h ⊢
  rw [List.forall_mem_append] at h
  obtain ⟨hinner, hown⟩ := h
  cases form with
  | unknown => exact .refl _
  | reference pointer => exact (hform pointer rfl).elim
  | conjunction raw members => exact repeatedBy_conjunction hinner hown
  | choice raw alternative => exact (hinner _ (List.mem_singleton_self _)).bind_pure _
  | object raw => exact (repeatedBy_ownAt hown).bind_pure _
  | array raw items =>
      cases items with
      | none => exact .refl _
      | some items => exact (hinner _ (List.mem_singleton_self _)).bind_pure _
  | plain raw => exact .refl _

end

/-! ## Higher limits -/

/-- Only a number that is too long has no text. -/
lemma fault_of_integerText {i : Int} {fault : Fault} (h : integerText i = .error fault) :
    fault = .tooManyDigits :=
  (Value.spelled_integerText i).eq_of_error h

/-- A call with a limit and with a higher one, which differ where a reference is at the lower one. -/
lemma repeatedBy_deeper {document : Value} {limit more : Int} (hle : limit ≤ more) (call : Call) :
    ((Resolver.mk document limit).run call).RepeatedBy (·.code ≠ "SchemaDepthExceededWarning")
      (fun fault => fault = .tooManyDigits ∧ integerText limit = .error .tooManyDigits)
      ((Resolver.mk document more).run call) := by
  induction call using call_induction (r := Resolver.mk document limit) with
  | step call ih =>
    cases (Resolver.mk document limit).course call with
    | found h htarget =>
        have hmore : (Resolver.mk document more).LooksUp call _ := ⟨h.1, Int.lt_of_lt_of_le h.2 hle⟩
        rw [nested_of_found h htarget, List.forall_mem_singleton] at ih
        rw [run_of_found h htarget, run_of_found hmore htarget]
        exact ih
    | missing h htarget =>
        have hmore : (Resolver.mk document more).LooksUp call _ := ⟨h.1, Int.lt_of_lt_of_le h.2 hle⟩
        rw [run_of_missing h htarget, run_of_missing hmore htarget]
        exact .refl _
    | failed h htarget =>
        have hmore : (Resolver.mk document more).LooksUp call _ := ⟨h.1, Int.lt_of_lt_of_le h.2 hle⟩
        rw [run_of_failed h htarget, run_of_failed hmore htarget]
        exact .refl _
    | limited h hlimit =>
        rw [run_of_limited h hlimit]
        exact fun hsilent => absurd rfl (hsilent _ (List.mem_singleton_self _))
    | unnamed h hlimit =>
        obtain rfl := fault_of_integerText hlimit
        rw [run_of_unnamed h hlimit]
        exact fun _ => .inr ⟨.tooManyDigits, rfl, rfl, hlimit⟩
    | direct hform => exact repeatedBy_run hform ih

/-- **A resolution in which no reference is at the limit** is the same with every higher limit.  A limit
without text cannot be remarked on: there the resolution may have stopped. -/
theorem resolve_of_quiet {document : Value} {limit more : Int} (hle : limit ≤ more) (depth : Int)
    (raw : Value)
    (hquiet : ∀ d ∈ (Log.ofNotes ((Resolver.mk document limit).resolve depth raw).notes).items,
      d.code ≠ "SchemaDepthExceededWarning") :
    (Resolver.mk document more).resolve depth raw = (Resolver.mk document limit).resolve depth raw ∨
      ((Resolver.mk document limit).resolve depth raw).outcome = .error .tooManyDigits ∧
        integerText limit = .error .tooManyDigits := by
  have hsilent : ((Resolver.mk document limit).resolve depth raw).Remarks
      (·.code ≠ "SchemaDepthExceededWarning") :=
    fun d hd => hquiet d (((Log.ofNotes_items _).2 d).mpr hd)
  rcases repeatedBy_deeper hle ⟨depth, raw⟩ hsilent with hsame | ⟨fault, hfault, rfl, hlimit⟩
  · exact .inl hsame
  · exact .inr ⟨hfault, hlimit⟩

/-! ### A chain of references -/

/-- A document with a schema that refers to another one, which refers to nothing that is there. -/
def chainedDocument : Value := .map [(.text "a", referring "#/b"), (.text "b", referring "#/c")]

/-- Three levels are enough for a chain of two references and one that leads nowhere. -/
lemma resolve_chained :
    (Resolver.mk chainedDocument 3).resolve 0 (referring "#/a") =
      ⟨.ok .emptyObject, [unresolvedRemark "#/c"]⟩ :=
  calc (Resolver.mk chainedDocument 3).run ⟨0, referring "#/a"⟩
      = (Resolver.mk chainedDocument 3).run ⟨1, referring "#/b"⟩ :=
        run_of_found ⟨rfl, by decide⟩ rfl
    _ = (Resolver.mk chainedDocument 3).run ⟨2, referring "#/c"⟩ :=
        run_of_found ⟨rfl, by decide⟩ rfl
    _ = ⟨.ok .emptyObject, [unresolvedRemark "#/c"]⟩ := run_of_missing ⟨rfl, by decide⟩ rfl

/-- More levels than that make no difference. -/
theorem resolve_of_quiet_chained :
    (3 : Int) ≤ 7 ∧
      (∀ d ∈ (Log.ofNotes
        ((Resolver.mk chainedDocument 3).resolve 0 (referring "#/a")).notes).items,
          d.code ≠ "SchemaDepthExceededWarning") ∧
        (Resolver.mk chainedDocument 7).resolve 0 (referring "#/a") =
          (Resolver.mk chainedDocument 3).resolve 0 (referring "#/a") := by
  have hle : (3 : Int) ≤ 7 := by decide
  have hquiet : ∀ d ∈ (Log.ofNotes
      ((Resolver.mk chainedDocument 3).resolve 0 (referring "#/a")).notes).items,
        d.code ≠ "SchemaDepthExceededWarning" := by
    rw [resolve_chained]
    decide
  refine ⟨hle, hquiet, ?_⟩
  rcases resolve_of_quiet hle 0 (referring "#/a") hquiet with hsame | ⟨hfault, -⟩
  · exact hsame
  · rw [resolve_chained] at hfault
    cases hfault

end Resolver

end LoadPlan
