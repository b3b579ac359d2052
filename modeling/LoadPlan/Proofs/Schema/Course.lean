import LoadPlan.Proofs.Schema.Calls
import Mathlib.Data.List.Basic

/-!
# The course of a call

What a call does itself, and what a whole resolution comes to by that.

* `Resolver.Course` — what can happen in a call: a reference is found, leads nowhere or is at the limit, or
  the value is no reference.
* `Resolver.remark?`, `Resolver.Passes` — what a call remarks itself, and a call that does not stop by
  itself.
* `Resolver.ensures_of_forms` — what every form hands on holds of every schema that is resolved.
* **`Resolver.notes_eq`** — what is remarked in a resolution is what its calls remark, in their order.
* **`Resolver.returns_iff`** — a resolution comes to an end exactly if all its calls pass.
-/

namespace LoadPlan.Resolver

/-! ## Remarks and stops -/

/-- The remark on a reference at the limit. -/
def limitRemark (limit pointer : Text) : Diagnostic :=
  ⟨.warning, "SchemaDepthExceededWarning",
    "Schema depth limit " ++ limit ++ " reached, using empty object", pointer⟩

/-- The remark on a reference that leads nowhere. -/
def unresolvedRemark (pointer : Text) : Diagnostic :=
  ⟨.warning, "UnresolvedRefWarning", "Cannot resolve $ref, using empty object", pointer⟩

section

variable (r : Resolver)

/-- What is remarked on a form itself. -/
def remarkAt (depth : Int) : Form → Option Diagnostic
  | .reference pointer =>
    if depth < r.maxDepth then
      match Pointer.target r.document pointer with
      | .ok none => some (unresolvedRemark pointer)
      | _ => none
    else
      match integerText r.maxDepth with
      | .ok limit => some (limitRemark limit pointer)
      | .error _ => none
  | _ => none

/-- **What a call remarks itself.** -/
def remark? (call : Call) : Option Diagnostic := r.remarkAt call.depth call.raw.form

/-- **A call that does not stop by itself.** -/
structure Passes (call : Call) : Prop where
  /-- A reference that it looks up can be looked up, whether it is found or not. -/
  looked_up : ∀ pointer, r.LooksUp call pointer →
    ∃ found, Pointer.target r.document pointer = .ok found
  /-- At the limit the limit has a text. -/
  limit_shown : ∀ pointer, r.IsLimited call pointer → ∃ text, integerText r.maxDepth = .ok text
  /-- The names of the properties that it resolves have texts. -/
  names_shown : ∀ entry ∈ r.ownRow call.depth call.raw.form, ∃ name, entry.1 = .ok name

variable {r} {depth : Int}

/-! ### The course of a call -/

/-- **What can happen in a call.** -/
inductive Course (r : Resolver) (call : Call) : Prop where
  /-- A reference is found. -/
  | found {pointer : Text} {target : Entries} (h : r.LooksUp call pointer)
    (htarget : Pointer.target r.document pointer = .ok (some target))
  /-- A reference leads nowhere. -/
  | missing {pointer : Text} (h : r.LooksUp call pointer)
    (htarget : Pointer.target r.document pointer = .ok none)
  /-- A reference cannot be looked up. -/
  | failed {pointer : Text} {fault : Fault} (h : r.LooksUp call pointer)
    (htarget : Pointer.target r.document pointer = .error fault)
  /-- A reference is at the limit. -/
  | limited {pointer limit : Text} (h : r.IsLimited call pointer)
    (hlimit : integerText r.maxDepth = .ok limit)
  /-- A reference is at a limit that has no text. -/
  | unnamed {pointer : Text} {fault : Fault} (h : r.IsLimited call pointer)
    (hlimit : integerText r.maxDepth = .error fault)
  /-- The value is no reference. -/
  | direct (h : ∀ pointer, call.raw.form ≠ .reference pointer)

lemma course (r : Resolver) (call : Call) : r.Course call := by
  by_cases h : ∃ pointer, call.raw.form = .reference pointer
  · obtain ⟨pointer, hform⟩ := h
    by_cases hdepth : call.depth < r.maxDepth
    · cases htarget : Pointer.target r.document pointer with
      | error fault => exact .failed ⟨hform, hdepth⟩ htarget
      | ok found =>
          cases found with
          | none => exact .missing ⟨hform, hdepth⟩ htarget
          | some target => exact .found ⟨hform, hdepth⟩ htarget
    · cases hlimit : integerText r.maxDepth with
      | error fault => exact .unnamed ⟨hform, Int.not_lt.mp hdepth⟩ hlimit
      | ok limit => exact .limited ⟨hform, Int.not_lt.mp hdepth⟩ hlimit
  · exact .direct fun pointer hform => h ⟨pointer, hform⟩

section

variable {call : Call} {pointer limit : Text} {target : Entries} {fault : Fault}

lemma run_of_found (h : r.LooksUp call pointer)
    (htarget : Pointer.target r.document pointer = .ok (some target)) :
    r.run call = r.run ⟨call.depth + 1, .map target⟩ := by
  rw [run, resolve_eq, h.1, resolveForm, if_pos h.2, htarget]
  rfl

lemma run_of_missing (h : r.LooksUp call pointer)
    (htarget : Pointer.target r.document pointer = .ok none) :
    r.run call = ⟨.ok .emptyObject, [unresolvedRemark pointer]⟩ := by
  rw [run, resolve_eq, h.1, resolveForm, if_pos h.2, htarget]
  rfl

lemma run_of_failed (h : r.LooksUp call pointer)
    (htarget : Pointer.target r.document pointer = .error fault) : r.run call = .fail fault := by
  rw [run, resolve_eq, h.1, resolveForm, if_pos h.2, htarget]
  rfl

lemma run_of_limited (h : r.IsLimited call pointer) (hlimit : integerText r.maxDepth = .ok limit) :
    r.run call = ⟨.ok .emptyObject, [limitRemark limit pointer]⟩ := by
  rw [run, resolve_eq, h.1, resolveForm, if_neg (Int.not_lt.mpr h.2), depthExceeded, hlimit]
  rfl

lemma run_of_unnamed (h : r.IsLimited call pointer)
    (hlimit : integerText r.maxDepth = .error fault) : r.run call = .fail fault := by
  rw [run, resolve_eq, h.1, resolveForm, if_neg (Int.not_lt.mpr h.2), depthExceeded, hlimit]
  rfl

lemma nested_of_reference (h : call.raw.form = .reference pointer) :
    r.nested call = r.inner call.depth (.reference pointer) := by
  rw [nested, h]
  exact List.append_nil _

lemma nested_of_found (h : r.LooksUp call pointer)
    (htarget : Pointer.target r.document pointer = .ok (some target)) :
    r.nested call = [⟨call.depth + 1, .map target⟩] := by
  rw [nested_of_reference h.1, inner, if_pos h.2, htarget]

lemma nested_of_missing (h : r.LooksUp call pointer)
    (htarget : Pointer.target r.document pointer = .ok none) : r.nested call = [] := by
  rw [nested_of_reference h.1, inner, if_pos h.2, htarget]

lemma nested_of_failed (h : r.LooksUp call pointer)
    (htarget : Pointer.target r.document pointer = .error fault) : r.nested call = [] := by
  rw [nested_of_reference h.1, inner, if_pos h.2, htarget]

lemma nested_of_limited (h : r.IsLimited call pointer) : r.nested call = [] := by
  rw [nested_of_reference h.1, inner, if_neg (Int.not_lt.mpr h.2)]

lemma remark_of_found (h : r.LooksUp call pointer)
    (htarget : Pointer.target r.document pointer = .ok (some target)) : r.remark? call = none := by
  rw [remark?, h.1, remarkAt, if_pos h.2, htarget]

lemma remark_of_missing (h : r.LooksUp call pointer)
    (htarget : Pointer.target r.document pointer = .ok none) :
    r.remark? call = some (unresolvedRemark pointer) := by
  rw [remark?, h.1, remarkAt, if_pos h.2, htarget]

lemma remark_of_failed (h : r.LooksUp call pointer)
    (htarget : Pointer.target r.document pointer = .error fault) : r.remark? call = none := by
  rw [remark?, h.1, remarkAt, if_pos h.2, htarget]

lemma remark_of_limited (h : r.IsLimited call pointer)
    (hlimit : integerText r.maxDepth = .ok limit) :
    r.remark? call = some (limitRemark limit pointer) := by
  rw [remark?, h.1, remarkAt, if_neg (Int.not_lt.mpr h.2), hlimit]

lemma remark_of_unnamed (h : r.IsLimited call pointer)
    (hlimit : integerText r.maxDepth = .error fault) : r.remark? call = none := by
  rw [remark?, h.1, remarkAt, if_neg (Int.not_lt.mpr h.2), hlimit]

lemma remark_of_direct (h : ∀ pointer, call.raw.form ≠ .reference pointer) :
    r.remark? call = none := by
  unfold remark? remarkAt
  split
  · exact (h _ ‹_›).elim
  · rfl

/-- **The remarks there are**, each for a text that refers to something. -/
lemma remark_cases {d : Diagnostic} (h : r.remark? call = some d) :
    d = unresolvedRemark d.context ∨
      ∃ limit, integerText r.maxDepth = .ok limit ∧ d = limitRemark limit d.context := by
  cases r.course call with
  | found hlook htarget => rw [remark_of_found hlook htarget] at h; cases h
  | missing hlook htarget =>
      rw [remark_of_missing hlook htarget] at h
      obtain rfl := Option.some.inj h
      exact .inl rfl
  | failed hlook htarget => rw [remark_of_failed hlook htarget] at h; cases h
  | limited hlimit hshown =>
      rw [remark_of_limited hlimit hshown] at h
      obtain rfl := Option.some.inj h
      exact .inr ⟨_, hshown, rfl⟩
  | unnamed hlimit hshown => rw [remark_of_unnamed hlimit hshown] at h; cases h
  | direct hform => rw [remark_of_direct hform] at h; cases h

/-! ### Calls that pass -/

lemma names_of_reference (h : call.raw.form = .reference pointer) :
    ∀ entry ∈ r.ownRow call.depth call.raw.form, ∃ name, entry.1 = .ok name := by
  rw [h]
  exact List.forall_mem_nil _

lemma passes_iff_of_looksUp (h : r.LooksUp call pointer) :
    r.Passes call ↔ ∃ found, Pointer.target r.document pointer = .ok found := by
  refine ⟨fun hpasses => hpasses.looked_up pointer h, fun hfound => ⟨?_, ?_, names_of_reference h.1⟩⟩
  · intro other hother
    obtain rfl := Form.reference.inj (h.1.symm.trans hother.1)
    exact hfound
  · exact fun other hother => (Int.not_lt.mpr hother.2 h.2).elim

lemma passes_iff_of_limited (h : r.IsLimited call pointer) :
    r.Passes call ↔ ∃ text, integerText r.maxDepth = .ok text :=
  ⟨fun hpasses => hpasses.limit_shown pointer h, fun hshown =>
    ⟨fun _ hother => (Int.not_lt.mpr h.2 hother.2).elim, fun _ _ => hshown, names_of_reference h.1⟩⟩

lemma passes_iff_of_direct (h : ∀ pointer, call.raw.form ≠ .reference pointer) :
    r.Passes call ↔ ∀ entry ∈ r.ownRow call.depth call.raw.form, ∃ name, entry.1 = .ok name :=
  ⟨Passes.names_shown, fun hnames =>
    ⟨fun pointer hlook => (h pointer hlook.1).elim, fun pointer hlimit => (h pointer hlimit.1).elim,
      hnames⟩⟩

end

/-! ### Properties of a conjunction -/

section

variable {raw : Entries} {members : List Value} {schemas : List Schema}

lemma ownRow_of_error {fault : Fault} (h : (r.membersAt depth members).outcome = .error fault) :
    r.ownRow depth (.conjunction raw members) = [] := by
  rw [ownRow, h]

lemma ownRow_of_lone (h : (r.membersAt depth members).outcome = .ok schemas) {member : Schema}
    (hlone : lone? schemas = some member) : r.ownRow depth (.conjunction raw members) = [] := by
  rw [ownRow, h]
  exact if_pos (congrArg Option.isSome hlone)

lemma ownRow_of_merged (h : (r.membersAt depth members).outcome = .ok schemas)
    (hlone : lone? schemas = none) :
    r.ownRow depth (.conjunction raw members) = .ofProperties raw := by
  rw [ownRow, h]
  exact if_neg (by rw [hlone]; exact Bool.false_ne_true)

end

/-! ### What is remarked -/

lemma notes_membersAt (members : List Value) :
    (r.membersAt depth members).notes =
      (r.reached depth (.ofMembers members)).flatMap fun c => (r.run c).notes := by
  rw [membersAt, Report.notes_bind_pure, notes_row]

lemma notes_ownAt (raw : Entries) :
    (r.ownAt depth raw).notes =
      (r.reached (depth + 1) (.ofProperties raw)).flatMap fun c => (r.run c).notes := by
  rw [ownAt, Report.notes_bind_pure, notes_row]

lemma notes_conjunction (raw : Entries) (members : List Value) :
    (r.resolveForm depth (.conjunction raw members)).notes =
      ((r.reached depth (.ofMembers members)).flatMap fun c => (r.run c).notes) ++
        (r.reached (depth + 1) (r.ownRow depth (.conjunction raw members))).flatMap
          fun c => (r.run c).notes := by
  rw [resolveForm, ← notes_membersAt]
  cases hmembers : (r.membersAt depth members).outcome with
  | error fault =>
      rw [Report.bind_of_error hmembers, ownRow_of_error hmembers]
      exact (List.append_nil _).symm
  | ok schemas =>
      rw [Report.bind_of_ok hmembers]
      cases hlone : lone? schemas with
      | some member =>
          rw [conjoinedAt_of_lone hlone, ownRow_of_lone hmembers hlone]
          rfl
      | none =>
          rw [conjoinedAt_of_merged hlone, ownRow_of_merged hmembers hlone, Report.notes_bind_pure,
            notes_ownAt]

/-- What is remarked on a form that is no reference is what the calls remark that are made for it. -/
lemma notes_resolveForm {form : Form} (h : ∀ pointer, form ≠ .reference pointer) :
    (r.resolveForm depth form).notes =
      ((r.inner depth form).flatMap fun c => (r.run c).notes) ++
        (r.reached (depth + 1) (r.ownRow depth form)).flatMap fun c => (r.run c).notes := by
  cases form with
  | unknown => rfl
  | reference pointer => exact (h pointer rfl).elim
  | conjunction raw members => exact notes_conjunction raw members
  | choice raw alternative =>
      rw [resolveForm, Report.notes_bind_pure, inner, List.flatMap_singleton]
      exact (List.append_nil _).symm
  | object raw =>
      rw [resolveForm, Report.notes_bind_pure, notes_ownAt]
      rfl
  | array raw items =>
      cases items with
      | none => rfl
      | some items =>
          rw [resolveForm, Report.notes_bind_pure, inner, List.flatMap_singleton]
          exact (List.append_nil _).symm
  | plain raw => rfl

/-- What is remarked in a call: its own remark, and then what the calls remark that it makes. -/
lemma notes_run (r : Resolver) (call : Call) :
    (r.run call).notes =
      (r.remark? call).toList ++ (r.nested call).flatMap fun c => (r.run c).notes := by
  cases r.course call with
  | found h htarget =>
      rw [run_of_found h htarget, nested_of_found h htarget, remark_of_found h htarget,
        List.flatMap_singleton]
      rfl
  | missing h htarget =>
      rw [run_of_missing h htarget, nested_of_missing h htarget, remark_of_missing h htarget]
      rfl
  | failed h htarget =>
      rw [run_of_failed h htarget, nested_of_failed h htarget, remark_of_failed h htarget]
      rfl
  | limited h hlimit =>
      rw [run_of_limited h hlimit, nested_of_limited h, remark_of_limited h hlimit]
      rfl
  | unnamed h hlimit =>
      rw [run_of_unnamed h hlimit, nested_of_limited h, remark_of_unnamed h hlimit]
      rfl
  | direct h =>
      rw [run, resolve_eq, notes_resolveForm h, remark_of_direct h, nested, List.flatMap_append]
      rfl

/-! ### What comes to an end -/

lemma returns_membersAt_iff (members : List Value) :
    (r.membersAt depth members).Returns ↔
      ∀ c ∈ r.reached depth (.ofMembers members), (r.run c).Returns := by
  rw [membersAt, Report.returns_bind_pure, returns_row_iff]
  refine and_iff_right fun entry hentry => ?_
  obtain ⟨raw, -, rfl⟩ := List.mem_map.mp hentry
  exact ⟨[], rfl⟩

lemma returns_ownAt_iff (raw : Entries) :
    (r.ownAt depth raw).Returns ↔ (r.row (depth + 1) (.ofProperties raw)).Returns := by
  rw [ownAt, Report.returns_bind_pure]

lemma returns_row_nil : (r.row depth []).Returns := Report.returns_pure []

/-- A conjunction comes to an end if its members do and then its own properties, unless one member is all
of it. -/
lemma returns_conjunction_iff (raw : Entries) (members : List Value) :
    (r.resolveForm depth (.conjunction raw members)).Returns ↔
      (∀ c ∈ r.reached depth (.ofMembers members), (r.run c).Returns) ∧
        (r.row (depth + 1) (r.ownRow depth (.conjunction raw members))).Returns := by
  rw [resolveForm, ← returns_membersAt_iff, Report.returns_bind_iff]
  cases hmembers : (r.membersAt depth members).outcome with
  | error fault =>
      refine iff_of_false ?_ fun h => Report.not_returns_of_error hmembers h.1
      rintro ⟨schemas, hschemas, -⟩
      cases hschemas
  | ok schemas =>
      have hreturns : (r.membersAt depth members).Returns := ⟨schemas, hmembers⟩
      simp only [Except.ok.injEq, exists_eq_left', hreturns, true_and]
      cases hlone : lone? schemas with
      | some member =>
          rw [conjoinedAt_of_lone hlone, ownRow_of_lone hmembers hlone]
          exact iff_of_true (Report.returns_pure _) returns_row_nil
      | none =>
          rw [conjoinedAt_of_merged hlone, ownRow_of_merged hmembers hlone, Report.returns_bind_pure,
            returns_ownAt_iff]

/-- A form that is no reference comes to an end exactly if the calls do that are made for it, and its
properties. -/
lemma returns_resolveForm_iff {form : Form} (h : ∀ pointer, form ≠ .reference pointer) :
    (r.resolveForm depth form).Returns ↔
      (∀ c ∈ r.inner depth form, (r.run c).Returns) ∧
        (r.row (depth + 1) (r.ownRow depth form)).Returns := by
  cases form with
  | unknown => exact iff_of_true (Report.returns_pure _) ⟨List.forall_mem_nil _, returns_row_nil⟩
  | reference pointer => exact (h pointer rfl).elim
  | conjunction raw members => exact returns_conjunction_iff raw members
  | choice raw alternative =>
      rw [resolveForm, Report.returns_bind_pure, inner, List.forall_mem_singleton]
      exact (and_iff_left returns_row_nil).symm
  | object raw =>
      rw [resolveForm, Report.returns_bind_pure, returns_ownAt_iff]
      exact (and_iff_right (List.forall_mem_nil _)).symm
  | array raw items =>
      cases items with
      | none => exact iff_of_true (Report.returns_pure _) ⟨List.forall_mem_nil _, returns_row_nil⟩
      | some items =>
          rw [resolveForm, Report.returns_bind_pure, inner, List.forall_mem_singleton]
          exact (and_iff_left returns_row_nil).symm
  | plain raw => exact iff_of_true (Report.returns_pure _) ⟨List.forall_mem_nil _, returns_row_nil⟩

/-- A call comes to an end exactly if it does not stop by itself and the calls that it makes come to an
end. -/
lemma returns_run_iff (r : Resolver) (call : Call) :
    (r.run call).Returns ↔ r.Passes call ∧ ∀ c ∈ r.nested call, (r.run c).Returns := by
  cases r.course call with
  | found h htarget =>
      rw [passes_iff_of_looksUp h, run_of_found h htarget, nested_of_found h htarget,
        List.forall_mem_singleton]
      exact (and_iff_right ⟨_, htarget⟩).symm
  | missing h htarget =>
      rw [passes_iff_of_looksUp h, run_of_missing h htarget, nested_of_missing h htarget]
      exact iff_of_true ⟨.emptyObject, rfl⟩ ⟨⟨none, htarget⟩, List.forall_mem_nil _⟩
  | failed h htarget =>
      rw [passes_iff_of_looksUp h, run_of_failed h htarget, htarget]
      refine iff_of_false (Report.not_returns_of_error rfl) ?_
      rintro ⟨⟨found, hfound⟩, -⟩
      cases hfound
  | limited h hlimit =>
      rw [passes_iff_of_limited h, run_of_limited h hlimit, nested_of_limited h]
      exact iff_of_true ⟨.emptyObject, rfl⟩ ⟨⟨_, hlimit⟩, List.forall_mem_nil _⟩
  | unnamed h hlimit =>
      rw [passes_iff_of_limited h, run_of_unnamed h hlimit, hlimit]
      refine iff_of_false (Report.not_returns_of_error rfl) ?_
      rintro ⟨⟨text, htext⟩, -⟩
      cases htext
  | direct h =>
      rw [nested, List.forall_mem_append, run, resolve_eq, returns_resolveForm_iff h,
        returns_row_iff, passes_iff_of_direct h, and_left_comm]

end

/-! ## Whole resolutions -/

/-- **What is handed on by every form holds of every schema that is resolved**, if it holds of the empty object
that stands in for a reference that is not followed. -/
lemma ensures_of_forms {r : Resolver} {motive : Schema → Prop} (hempty : motive .emptyObject)
    (hforms : ∀ depth form, (∀ pointer, form ≠ .reference pointer) →
      (∀ c ∈ r.inner depth form, (r.run c).Ensures motive) →
      (∀ c ∈ r.reached (depth + 1) (r.ownRow depth form), (r.run c).Ensures motive) →
        (r.resolveForm depth form).Ensures motive) (call : Call) : (r.run call).Ensures motive := by
  induction call using call_induction (r := r) with
  | step call ih =>
    cases r.course call with
    | found h htarget =>
        rw [nested_of_found h htarget, List.forall_mem_singleton] at ih
        rw [run_of_found h htarget]
        exact ih
    | missing h htarget =>
        rw [run_of_missing h htarget]
        exact .pure hempty
    | failed h htarget =>
        rw [run_of_failed h htarget]
        rintro schema ⟨⟩
    | limited h hlimit =>
        rw [run_of_limited h hlimit]
        exact .pure hempty
    | unnamed h hlimit =>
        rw [run_of_unnamed h hlimit]
        rintro schema ⟨⟩
    | direct hform =>
        rw [nested, List.forall_mem_append] at ih
        rw [run, resolve_eq]
        exact hforms call.depth call.raw.form hform ih.1 ih.2

/-- **What is remarked in a resolution** is what its calls remark, in the order in which they are made. -/
theorem notes_eq (r : Resolver) (call : Call) :
    (r.run call).notes = (r.calls call).filterMap r.remark? := by
  induction call using call_induction (r := r) with
  | step call ih =>
      have hnested : ((r.nested call).flatMap fun c => (r.run c).notes) =
          ((r.nested call).flatMap r.calls).filterMap r.remark? := by
        rw [List.filterMap_flatMap]
        exact List.flatMap_congr ih
      rw [notes_run, hnested, calls_eq, List.filterMap_cons]
      cases r.remark? call <;> rfl

/-- **A resolution comes to an end exactly if all its calls pass.** -/
theorem returns_iff (r : Resolver) (call : Call) :
    (r.run call).Returns ↔ ∀ c ∈ r.calls call, r.Passes c := by
  induction call using call_induction (r := r) with
  | step call ih =>
      have hnested : (∀ c ∈ r.nested call, (r.run c).Returns) ↔
          ∀ c ∈ (r.nested call).flatMap r.calls, r.Passes c := by
        rw [List.forall_mem_flatMap]
        exact forall₂_congr ih
      rw [returns_run_iff, hnested, calls_eq, List.forall_mem_cons]

end LoadPlan.Resolver
