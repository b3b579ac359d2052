import LoadPlan.Proofs.Schema.Course
import LoadPlan.Proofs.Schema.Merging
import LoadPlan.Proofs.Schema.Proposing

/-!
# Conjunctions of a single member

A schema as the only member of a conjunction stays what it is, unless it is an object: of this only the
properties are left.

* `Schema.IsMerged`, `Resolver.ensures_isMerged` — in what comes out of a resolution properties are put
  together already, so that to merge them once more changes nothing.
* `Schema.alone` — what is left of a schema as the only member.
* `Resolver.resolve_singleton` — that is what the conjunction is resolved to, with the same remarks.
* `Schema.Overrides` — an object that proposes something else than its properties give.
* **`Resolver.sample_kept_iff`** — the conjunction has the sample of its member exactly if the member is no
  such object.
-/

namespace LoadPlan

/-! ## Properties that are put together -/

namespace Schema

/-- **A schema whose properties are put together already.** -/
def IsMerged (schema : Schema) : Prop :=
  ∀ properties, schema.properties? = some properties → Properties.update [] properties = properties

variable {schema : Schema}

/-- What has no properties has none that could be put together. -/
lemma isMerged_of_none (h : schema.properties? = none) : schema.IsMerged := by
  intro properties hproperties
  rw [h] at hproperties
  cases hproperties

lemma isMerged_object (declared : Declared) (properties : Properties) :
    (object declared (Properties.update [] properties)).IsMerged := by
  rintro _ ⟨⟩
  exact Properties.update_update [] properties

lemma properties?_withExample (example? : Option Value) (schema : Schema) :
    (schema.withExample example?).properties? = schema.properties? := by
  cases example? with
  | none => rfl
  | some value => cases schema <;> rfl

lemma IsMerged.withExample (h : schema.IsMerged) (example? : Option Value) :
    (schema.withExample example?).IsMerged := by
  intro properties hproperties
  rw [properties?_withExample] at hproperties
  exact h properties hproperties

lemma isMerged_plainSchema (raw : Entries) : (plainSchema raw).IsMerged := by
  have hobject (declared : Declared) : (object declared []).IsMerged := isMerged_object declared []
  unfold plainSchema
  dsimp only
  split
  · exact hobject _
  · split_ifs
    any_goals exact isMerged_of_none rfl
    exact hobject _

end Schema

namespace Resolver

open Schema

section

variable {r : Resolver} {depth : Int}

lemma ensures_isMerged_conjunction (raw : Entries) (members : List Value) :
    (r.resolveForm depth (.conjunction raw members)).Ensures IsMerged := by
  intro schema h
  obtain ⟨schemas, -, h⟩ := Report.exists_of_bind h
  cases hlone : lone? schemas with
  | some member =>
      rw [conjoinedAt_of_lone hlone] at h
      obtain rfl := Except.ok.inj h
      exact (isMerged_of_none (lone?_eq_some_iff.mp hlone).2).withExample _
  | none =>
      rw [conjoinedAt_of_merged hlone] at h
      obtain ⟨own, -, h⟩ := Report.exists_of_bind h
      obtain rfl := Except.ok.inj h
      rw [mergeMembers_eq]
      exact isMerged_object _ _

/-- The properties of a form that is no reference are put together, those of a choice by its alternative. -/
lemma ensures_isMerged_form {form : Form} (h : ∀ pointer, form ≠ .reference pointer)
    (hinner : ∀ c ∈ r.inner depth form, (r.run c).Ensures IsMerged) :
    (r.resolveForm depth form).Ensures IsMerged := by
  cases form with
  | unknown => exact .pure (isMerged_object .none [])
  | reference pointer => exact (h pointer rfl).elim
  | conjunction raw members => exact ensures_isMerged_conjunction raw members
  | choice raw alternative =>
      refine (hinner _ (List.mem_singleton_self _)).bind fun schema _ hschema => ?_
      exact .pure (hschema.withExample _)
  | object raw =>
      intro schema hschema
      obtain ⟨own, hown, hschema⟩ := Report.exists_of_bind hschema
      obtain ⟨row, -, hown⟩ := Report.exists_of_bind hown
      obtain rfl := Except.ok.inj hown
      obtain rfl := Except.ok.inj hschema
      exact isMerged_object _ row
  | array raw items =>
      cases items with
      | none => exact .pure (isMerged_of_none rfl)
      | some items =>
          intro schema hschema
          obtain ⟨item, -, hschema⟩ := Report.exists_of_bind hschema
          obtain rfl := Except.ok.inj hschema
          exact isMerged_of_none rfl
  | plain raw => exact .pure (isMerged_plainSchema raw)

/-- **What comes out of a resolution has its properties put together.** -/
lemma ensures_isMerged (r : Resolver) (call : Call) : (r.run call).Ensures IsMerged := by
  have hempty : emptyObject.IsMerged := isMerged_object .none []
  exact ensures_of_forms hempty (fun _ _ hform hinner _ => ensures_isMerged_form hform hinner) call

end

end Resolver

/-! ## The only member -/

/-- **What is left of a schema as the only member of a conjunction**: of an object its properties, without
what it proposes, and everything of another schema. -/
def Schema.alone : Schema → Schema
  | object _ properties => object .none properties
  | schema => schema

namespace Resolver

open Schema

variable {r : Resolver} {depth : Int} {raw : Value} {schema : Schema}

lemma gather_singleton (h : schema.IsMerged) : gather [schema] = schema.alone := by
  cases hkind : schema.properties? with
  | none =>
      rw [gather, lone?_eq_some_iff.mpr ⟨rfl, hkind⟩, Option.getD_some]
      cases schema with
      | object declared properties => cases hkind
      | _ => rfl
  | some properties =>
      have hlone : lone? [schema] = none := if_neg (by rw [hkind]; exact Bool.false_ne_true)
      rw [gather, hlone, Option.getD_none, mergeMembers_eq, List.append_nil, allProperties_cons, hkind]
      cases schema with
      | object declared own =>
          obtain rfl := Option.some.inj hkind
          rw [Option.getD_some, allProperties, List.flatMap_nil, List.append_nil, h _ rfl]
          rfl
      | _ => cases hkind

/-- **A conjunction of a single member is resolved to what is left of this**, and nothing else is
remarked. -/
lemma resolve_singleton (h : (r.resolve depth raw).outcome = .ok schema) :
    r.resolve depth (conjunctionOf [raw]) = ⟨.ok schema.alone, (r.resolve depth raw).notes⟩ := by
  have hmerged : schema.IsMerged := r.ensures_isMerged ⟨depth, raw⟩ schema h
  have hnone : r.membersAt depth [] = pure [] := rfl
  rw [resolve_conjunctionOf (List.cons_ne_nil raw []), membersAt_cons, hnone]
  simp only [bind_assoc, pure_bind]
  rw [Report.bind_of_ok h, gather_singleton hmerged, Report.pure_notes, List.append_nil]
  rfl

end Resolver

/-! ## Samples -/

namespace Schema

open Sample

/-- **An object that proposes something else than its properties give**, when identifiers are numbered from
a start. -/
def Overrides (schema : Schema) (start : Int) : Prop :=
  ∃ properties value, schema.properties? = some properties ∧ schema.declared.value? = some value ∧
    (object .none properties).sampleFrom start [] ≠ .ok value.jsonSafe

variable {schema : Schema} {start : Int}

/-- An object that proposes nothing, and all that is no object, keeps its sample. -/
lemma sampleFrom_alone_of_silent
    (h : ∀ properties, schema.properties? = some properties → schema.declared.value? = none)
    (name : Text) : schema.alone.sampleFrom start name = schema.sampleFrom start name := by
  cases schema with
  | object declared properties =>
      have hnone : declared.value? = none := h properties rfl
      rw [alone, sampleFrom, sampleFrom, sample, sample, proposedOr, proposedOr, hnone]
      rfl
  | _ => rfl

/-- The name under which an object stands makes no difference to what its properties give. -/
lemma sampleFrom_alone_of_object {properties : Properties} (h : schema.properties? = some properties)
    (name : Text) : schema.alone.sampleFrom start name = (object .none properties).sampleFrom start [] := by
  cases schema with
  | object declared own =>
      obtain rfl := Option.some.inj h
      rw [alone, sampleFrom, sampleFrom, sample, sample]
  | _ => cases h

/-- What is left of a schema has its sample exactly if the schema does not override its properties. -/
lemma sampleFrom_alone_iff {name : Text} {value : Value}
    (h : schema.sampleFrom start name = .ok value) :
    schema.alone.sampleFrom start name = .ok value ↔ ¬ schema.Overrides start := by
  by_cases hproposes : ∃ properties proposal, schema.properties? = some properties ∧
    schema.declared.value? = some proposal
  · obtain ⟨properties, proposal, hobject, hproposal⟩ := hproposes
    have hvalue : value = proposal.jsonSafe := by
      rw [sampleFrom, sample_of_proposal hproposal, startedAt_pure] at h
      exact (Except.ok.inj h).symm
    rw [sampleFrom_alone_of_object hobject, hvalue, iff_not_comm]
    constructor
    · rintro ⟨others, other, hothers, hother, hne⟩
      obtain rfl := Option.some.inj (hobject.symm.trans hothers)
      obtain rfl := Option.some.inj (hproposal.symm.trans hother)
      exact hne
    · exact fun hne => ⟨properties, proposal, hobject, hproposal, hne⟩
  · refine iff_of_true ?_ fun ⟨properties, proposal, hobject, hproposal, _⟩ =>
      hproposes ⟨properties, proposal, hobject, hproposal⟩
    rw [sampleFrom_alone_of_silent, h]
    intro properties hobject
    exact Option.eq_none_iff_forall_ne_some.mpr fun proposal hproposal =>
      hproposes ⟨properties, proposal, hobject, hproposal⟩

end Schema

namespace Resolver

/-- **A conjunction of a single member has the sample of the member**, unless this is an object that proposes
something else than its properties give.  It is resolved to what is left of the member in any case, and
nothing else is remarked. -/
theorem sample_kept_iff (r : Resolver) (depth : Int) (raw : Value) {schema : Schema}
    (h : (r.resolve depth raw).outcome = .ok schema) (synthesizer : Synthesizer) (name : Text)
    {value : Value} (hvalue : (synthesizer.synthesize schema name).1 = .ok value) :
    r.resolve depth (conjunctionOf [raw]) = ⟨.ok schema.alone, (r.resolve depth raw).notes⟩ ∧
      ((synthesizer.synthesize schema.alone name).1 = .ok value ↔
        ¬ schema.Overrides synthesizer.start) :=
  ⟨resolve_singleton h, Schema.sampleFrom_alone_iff hvalue⟩

/-- The first value that a text admits is kept. -/
theorem sample_kept_text :
    let r : Resolver := ⟨.null, usualDepth⟩
    let raw : Value := .map [(.text "type", .text "string"),
      (.text "enum", .list [.text "open", .text "closed"])]
    let schema : Schema := .string ⟨none, none, some [.text "open", .text "closed"]⟩ none
    (r.resolve 0 raw).outcome = .ok schema ∧
      ((Synthesizer.fresh 1).synthesize schema "state").1 = .ok (.text "open") ∧
        r.resolve 0 (conjunctionOf [raw]) = ⟨.ok schema, []⟩ ∧
          ((Synthesizer.fresh 1).synthesize schema.alone "state").1 = .ok (.text "open") := by
  intro r raw schema
  have hresolve : r.resolve 0 raw = pure schema := by
    rw [resolve_eq]
    rfl
  have hschema : (r.resolve 0 raw).outcome = .ok schema := by
    rw [hresolve]
    rfl
  have hproposal : schema.declared.value? = some (.text "open") := rfl
  have hvalue : ((Synthesizer.fresh 1).synthesize schema "state").1 = .ok (.text "open") :=
    Synthesizer.synthesize_of_proposal hproposal (Synthesizer.fresh 1) "state"
  have hkept : ¬ schema.Overrides (Synthesizer.fresh 1).start := by
    rintro ⟨properties, value, hkind, -⟩
    cases hkind
  obtain ⟨halone, hiff⟩ := sample_kept_iff r 0 raw hschema (Synthesizer.fresh 1) "state" hvalue
  rw [hresolve] at halone
  exact ⟨hschema, hvalue, halone, hiff.mpr hkept⟩

/-- An object with a single number, and with an example of its own. -/
def numbered : Entries :=
  [(.text "type", .text "object"),
    (.text "properties", .map [(.text "id", .map [(.text "type", .text "integer")])]),
    (.text "example", .map [(.text "id", .int 7)])]

/-- What it is resolved to. -/
def numberedSchema : Schema :=
  .object (Declared.ofEntries numbered) [("id", .integer .none none none)]

lemma outcome_numbered (r : Resolver) (depth : Int) :
    (r.resolve depth (.map numbered)).outcome = .ok numberedSchema := by
  have hinteger : r.resolve (depth + 1) (.map [(.text "type", .text "integer")]) =
      pure (.integer .none none none) := by
    rw [resolve_eq]
    rfl
  have hform : (Value.map numbered).form = .object numbered := rfl
  have hrow : Row.ofProperties numbered = [(.ok "id", .map [(.text "type", .text "integer")])] := rfl
  rw [resolve_eq, hform, resolveForm, ownAt, hrow, row, row, hinteger]
  rfl

/-- **The example of an object is lost** when the object is the only member of a conjunction. -/
theorem example_not_kept :
    let r : Resolver := ⟨.null, usualDepth⟩
    (∃ schema, (r.resolve 0 (.map numbered)).outcome = .ok schema ∧
      ((Synthesizer.fresh 1).synthesize schema []).1 = .ok (.map [(.text "id", .int 7)])) ∧
      ∃ schema, (r.resolve 0 (conjunctionOf [.map numbered])).outcome = .ok schema ∧
        ((Synthesizer.fresh 1).synthesize schema []).1 = .ok (.map [(.text "id", .int 1)]) := by
  intro r
  have hschema := outcome_numbered r 0
  have halone : (r.resolve 0 (conjunctionOf [.map numbered])).outcome = .ok numberedSchema.alone := by
    rw [resolve_singleton hschema]
  have hproposal : numberedSchema.declared.value? = some (.map [(.text "id", .int 7)]) := rfl
  exact ⟨⟨_, hschema, Synthesizer.synthesize_of_proposal hproposal (Synthesizer.fresh 1) []⟩,
    _, halone, rfl⟩

end Resolver

end LoadPlan
