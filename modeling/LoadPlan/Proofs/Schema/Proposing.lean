import LoadPlan.Proofs.Schema.Forms
import LoadPlan.Schema.Sample

/-!
# Proposals

What a mapping proposes decides its sample, unless the mapping stands for a schema of another one.

* `Entries.Proposes` — the value that a mapping proposes itself, said by its keys.
* `Schema.sample_of_proposal` — what a schema proposes is its sample.
* `Resolver.StandsFor` — a mapping that stands for another schema: as the conjunction of a single member
  that is no object, or as a choice.
* `Resolver.declared_of_resolve` — every other mapping hands on what it proposes.
* **`Resolver.proposals_taken`** — which proposals are taken.
-/

namespace LoadPlan

/-! ## What is proposed -/

/-- **The value that a mapping proposes itself**: its example, else the first of its examples, else the
first value that it admits. -/
inductive Entries.Proposes (raw : Entries) : Value → Prop where
  /-- The example, which may be nothing. -/
  | example {value : Value} (h : raw.get? "example" = some value) : Proposes raw value
  /-- The first of the examples. -/
  | firstExample {value : Value} {rest : List Value} (hexample : raw.get? "example" = none)
    (h : raw.items? "examples" = some (value :: rest)) : Proposes raw value
  /-- The first admitted value. -/
  | firstAdmitted {value : Value} {rest : List Value} (hexample : raw.get? "example" = none)
    (hexamples : ∀ first more, raw.items? "examples" ≠ some (first :: more))
    (h : raw.items? "enum" = some (value :: rest)) : Proposes raw value

lemma Entries.Proposes.value?_ofEntries {raw : Entries} {value : Value} (h : raw.Proposes value) :
    (Declared.ofEntries raw).value? = some value := by
  cases h with
  | «example» h => rw [Declared.value?, Declared.ofEntries, h, Option.some_or]
  | firstExample hexample h =>
      rw [Declared.value?, Declared.ofEntries, hexample, h]
      rfl
  | firstAdmitted hexample hexamples h =>
      have hnone : (raw.items? "examples").bind List.head? = none := by
        rcases hitems : raw.items? "examples" with _ | _ | ⟨first, more⟩
        · rfl
        · rfl
        · exact (hexamples first more hitems).elim
      rw [Declared.value?, Declared.ofEntries, hexample, hnone, h]
      rfl

/-- An example is proposed before all else. -/
lemma Declared.value?_of_example {declared : Declared} {value : Value}
    (h : declared.example? = some value) : declared.value? = some value := by
  rw [value?, h, Option.some_or]

namespace Schema

variable {schema : Schema} {value : Value}

/-- **What a schema proposes is its sample**, under every name. -/
lemma sample_of_proposal (h : schema.declared.value? = some value) (name : Text) :
    schema.sample name = pure value.jsonSafe := by
  cases schema <;> rw [declared] at h <;> rw [sample, Sample.proposedOr, h]

lemma declared_withDeclared (proposals : Declared) (schema : Schema) :
    (schema.withDeclared proposals).declared = proposals := by
  cases schema <;> rfl

lemma example?_withExample (value : Value) (schema : Schema) :
    (schema.withExample (some value)).declared.example? = some value := by
  rw [withExample, declared_withDeclared]

end Schema

lemma Synthesizer.synthesize_of_proposal {schema : Schema} {value : Value}
    (h : schema.declared.value? = some value) (synthesizer : Synthesizer) (name : Text) :
    (synthesizer.synthesize schema name).1 = .ok value.jsonSafe := by
  rw [synthesize, Schema.sample_of_proposal h, Sample.startedAt_pure]

/-! ## What is handed on -/

lemma declared_plainSchema (raw : Entries) : (plainSchema raw).declared = Declared.ofEntries raw := by
  unfold plainSchema
  split
  · rfl
  · split_ifs <;> rfl

namespace Resolver

/-- **A mapping that stands for another schema.** -/
inductive StandsFor (r : Resolver) (depth : Int) (raw : Entries) (inner : Schema) : Prop where
  /-- It is the conjunction of a single member, which is no object. -/
  | member {value : Value} (hform : Form.ofSchema raw = .conjunction raw [value])
    (hvalue : (r.resolve depth value).outcome = .ok inner) (hkind : inner.properties? = none)
  /-- It is a choice, for which its first alternative is taken. -/
  | alternative {value : Value} (hform : Form.ofSchema raw = .choice raw value)
    (hvalue : (r.resolve depth value).outcome = .ok inner)

section

variable {r : Resolver} {depth : Int} {raw : Entries} {schema inner : Schema}

/-- Apart from an example, a mapping that stands for another schema is resolved to this. -/
lemma StandsFor.outcome_eq (hraw : ∀ pointer, raw.get? "$ref" ≠ some (.text pointer))
    (h : r.StandsFor depth raw inner) :
    (r.resolve depth (.map raw)).outcome = .ok (inner.withExample (raw.get? "example")) := by
  rw [resolve_eq, Value.form_of_no_reference hraw]
  cases h with
  | @member value hform hvalue hkind =>
      have hmembers : (r.membersAt depth [value]).outcome = .ok [inner] := by
        rw [membersAt_cons, Report.bind_of_ok hvalue]
        rfl
      rw [hform, resolveForm, Report.bind_of_ok hmembers,
        conjoinedAt_of_lone (lone?_eq_some_iff.mpr ⟨rfl, hkind⟩)]
      rfl
  | alternative hform hvalue =>
      rw [hform, resolveForm, Report.bind_of_ok hvalue]
      rfl

lemma declared_of_conjoinedAt {schemas : List Schema} (hlone : lone? schemas = none)
    (h : (r.conjoinedAt depth raw schemas).outcome = .ok schema) :
    schema.declared = Declared.ofEntries raw := by
  rw [conjoinedAt_of_merged hlone] at h
  obtain ⟨own, -, h⟩ := Report.exists_of_bind h
  obtain rfl := Except.ok.inj h
  rfl

/-- **Every mapping that stands for no other schema hands on what it proposes.** -/
lemma declared_of_resolve (hraw : ∀ pointer, raw.get? "$ref" ≠ some (.text pointer))
    (hstands : ∀ inner, ¬ r.StandsFor depth raw inner)
    (h : (r.resolve depth (.map raw)).outcome = .ok schema) :
    schema.declared = Declared.ofEntries raw := by
  rw [resolve_eq, Value.form_of_no_reference hraw] at h
  rcases Form.ofSchema_cases raw with ⟨members, hform⟩ | ⟨value, hform⟩ | hform | ⟨items, hform⟩ | hform
    <;> rw [hform] at h
  · obtain ⟨schemas, hschemas, h⟩ := Report.exists_of_bind h
    cases hlone : lone? schemas with
    | none => exact declared_of_conjoinedAt hlone h
    | some member =>
        obtain ⟨value, rfl, hvalue, hkind⟩ := exists_of_lone hschemas hlone
        exact (hstands member (.member hform hvalue hkind)).elim
  · obtain ⟨inner, hvalue, -⟩ := Report.exists_of_bind h
    exact (hstands inner (.alternative hform hvalue)).elim
  · obtain ⟨own, -, h⟩ := Report.exists_of_bind h
    obtain rfl := Except.ok.inj h
    rfl
  · cases items with
    | none =>
        obtain rfl := Except.ok.inj h
        rfl
    | some items =>
        obtain ⟨inner, -, h⟩ := Report.exists_of_bind h
        obtain rfl := Except.ok.inj h
        rfl
  · obtain rfl := Except.ok.inj h
    exact declared_plainSchema raw

/-- **A proposal is the sample of a mapping**, unless the mapping stands for a schema of another one and
proposes no example.  This is then all that there is, and its own proposals decide. -/
theorem proposals_taken (r : Resolver) (depth : Int) {raw : Entries}
    (hraw : ∀ pointer, raw.get? "$ref" ≠ some (.text pointer)) {schema : Schema}
    (h : (r.resolve depth (.map raw)).outcome = .ok schema) :
    (∀ value, raw.Proposes value →
      raw.get? "example" = some value ∨ (∀ inner, ¬ r.StandsFor depth raw inner) →
        ∀ (synthesizer : Synthesizer) (name : Text),
          (synthesizer.synthesize schema name).1 = .ok value.jsonSafe) ∧
      ∀ inner, r.StandsFor depth raw inner → raw.get? "example" = none → schema = inner := by
  have hschema {inner : Schema} (hstands : r.StandsFor depth raw inner) :
      schema = inner.withExample (raw.get? "example") :=
    Except.ok.inj (h.symm.trans (hstands.outcome_eq hraw))
  refine ⟨fun value hvalue hcase => Synthesizer.synthesize_of_proposal ?_, fun inner hstands hnone => ?_⟩
  · by_cases hstands : ∃ inner, r.StandsFor depth raw inner
    · obtain ⟨inner, hstands⟩ := hstands
      rcases hcase with hexample | hnot
      · rw [hschema hstands, hexample]
        exact Declared.value?_of_example (Schema.example?_withExample value inner)
      · exact (hnot inner hstands).elim
    · rw [declared_of_resolve hraw (fun inner hinner => hstands ⟨inner, hinner⟩) h]
      exact hvalue.value?_ofEntries
  · rw [hschema hstands, hnone]
    rfl

/-- The first of the dates that a conjunction of two admits. -/
theorem proposals_taken_conjunction :
    let r : Resolver := ⟨.null, usualDepth⟩
    let raw : Entries := [(.text "enum", .list [.date ⟨2024, 1, 2⟩, .null]),
      (.text "allOf", .list [.map [(.text "type", .text "string")], .null])]
    (∀ pointer, raw.get? "$ref" ≠ some (.text pointer)) ∧ raw.Proposes (.date ⟨2024, 1, 2⟩) ∧
      (∀ inner, ¬ r.StandsFor 0 raw inner) ∧
        ∃ schema, (r.resolve 0 (.map raw)).outcome = .ok schema ∧
          ((Synthesizer.fresh 1).synthesize schema "id").1 = .ok (.text "2024-01-02") := by
  intro r raw
  have hraw : ∀ pointer, raw.get? "$ref" ≠ some (.text pointer) := by rintro _ ⟨⟩
  have hproposes : raw.Proposes (.date ⟨2024, 1, 2⟩) := .firstAdmitted rfl (by rintro _ _ ⟨⟩) rfl
  have hstands : ∀ inner, ¬ r.StandsFor 0 raw inner := by
    rintro inner (⟨hform, -, -⟩ | ⟨hform, -⟩) <;> cases hform
  have hresolve : (r.resolve 0 (.map raw)).outcome = .ok (.object (Declared.ofEntries raw) []) := by
    have hmember : r.resolve 0 (.map [(.text "type", .text "string")]) = pure (.string .none none) := by
      rw [resolve_eq]
      rfl
    have hnull : r.resolve 0 .null = pure .emptyObject := by
      rw [resolve_eq]
      rfl
    have hform : Form.ofSchema raw = .conjunction raw [.map [(.text "type", .text "string")], .null] :=
      rfl
    rw [resolve_eq, Value.form_of_no_reference hraw, hform, resolveForm, membersAt_cons, membersAt_cons,
      hmember, hnull]
    rfl
  exact ⟨hraw, hproposes, hstands, _, hresolve,
    (proposals_taken r 0 hraw hresolve).1 _ hproposes (.inr hstands) (Synthesizer.fresh 1) "id"⟩

/-- A choice of a text that admits two values. -/
def admitting : Entries :=
  [(.text "enum", .list [.text "a", .text "b"]),
    (.text "oneOf", .list [.map [(.text "type", .text "string")]])]

/-- **The values that a choice admits are lost**: its alternative does not know of them. -/
theorem proposals_not_taken :
    (∀ pointer, admitting.get? "$ref" ≠ some (.text pointer)) ∧ admitting.Proposes (.text "a") ∧
      ∃ schema, ((Resolver.mk .null usualDepth).resolve 0 (.map admitting)).outcome = .ok schema ∧
        ((Synthesizer.fresh 1).synthesize schema []).1 = .ok (.text "sample") := by
  have hraw : ∀ pointer, admitting.get? "$ref" ≠ some (.text pointer) := by rintro _ ⟨⟩
  have hstands : (Resolver.mk .null usualDepth).StandsFor 0 admitting (.string .none none) := by
    have hvalue : ((Resolver.mk .null usualDepth).resolve 0 (.map [(.text "type", .text "string")])).outcome =
        .ok (.string .none none) := by
      rw [resolve_eq]
      rfl
    exact .alternative rfl hvalue
  exact ⟨hraw, .firstAdmitted rfl (by rintro _ _ ⟨⟩) rfl, _, hstands.outcome_eq hraw, rfl⟩

end

end Resolver

end LoadPlan
