import LoadPlan.Operation.Extraction
import LoadPlan.Proofs.Schema.Resolving

/-!
# Sound documents have sound operations

Extracting the operations of a sound document comes to an end, and what their requests are made of is
sound again.

* `Operation.IsSound` — an operation whose examples can be sent, and whose body has a sound schema.
* **`yields_operations`** — a specification in a sound document has operations, all of them sound.
-/

namespace LoadPlan

open Value

variable {limit : Nat} {document : Value}

/-- **A sound operation**: the examples of its parameters can be sent, and the schema of its body is
sound. -/
structure Operation.IsSound (limit : Nat) (operation : Operation) : Prop where
  /-- Examples can be sent. -/
  samples : ∀ parameter ∈ operation.parameters, parameter.sample.IsSendable
  /-- The schema of the body is sound. -/
  body : ∀ raw, operation.requestBody? = some raw → (Value.map raw).IsSound limit

/-! ## References -/

lemma isSendable_getD {entries : Entries} (h : (Value.map entries).IsSound limit) {key : Text}
    (hkey : key ∈ proposalKeys) : (entries.getD key).IsSendable := by
  unfold Entries.getD
  cases hfound : entries.get? key with
  | none => exact ⟨rfl, rfl⟩
  | some value => exact h.proposal hkey hfound

/-- A mapping, or what it refers to. -/
lemma yields_dereference (hdocument : document.IsSound limit) {raw : Value} (h : raw.IsSound limit) :
    Yields (fun found => ∀ entries, found = some entries → (Value.map entries).IsSound limit)
      (dereference document raw) := by
  unfold dereference
  split
  · split
    · rename_i pointer hpointer
      exact Pointer.yields_target (h.get? hpointer).2 hdocument
    · exact .ok_some h
  · exact .ok_none

lemma yields_shownAt {entries : Entries} (h : (Value.map entries).IsSound limit) (key : Text) :
    Yields (fun _ => True) (entries.shownAt key) := by
  unfold Entries.shownAt
  split
  · exact (h.get? ‹_›).1.yields_shown
  · exact .ok trivial

/-! ## Parameters -/

namespace ParameterDefinition

/-- **A sound definition**: all that is said about the parameter is sound. -/
def IsSound (limit : Nat) (definition : ParameterDefinition) : Prop :=
  (Value.map definition.raw).IsSound limit

lemma yields_ofEntries {raw : Entries} (h : (Value.map raw).IsSound limit) :
    Yields (IsSound limit) (ofEntries raw) :=
  (yields_shownAt h "name").bind fun _ _ => (yields_shownAt h "in").bind fun _ _ => .ok h

lemma mem_addTo {definition other : ParameterDefinition} : ∀ {merged : List ParameterDefinition},
    other ∈ definition.addTo merged → other = definition ∨ other ∈ merged
  | [], h => .inl (List.mem_singleton.mp h)
  | old :: rest, h => by
      rw [addTo] at h
      split at h
      · rcases List.mem_cons.mp h with h | h
        · exact .inl h
        · exact .inr (List.mem_cons_of_mem old h)
      · rcases List.mem_cons.mp h with h | h
        · exact .inr (h ▸ List.mem_cons_self)
        · exact (mem_addTo h).imp_right (List.mem_cons_of_mem old)

lemma isSound_foldl_addTo {found : List ParameterDefinition} :
    ∀ {merged : List ParameterDefinition}, (∀ d ∈ found, d.IsSound limit) →
      (∀ d ∈ merged, d.IsSound limit) →
        ∀ d ∈ found.foldl (fun merged definition => definition.addTo merged) merged,
          d.IsSound limit := by
  induction found with
  | nil => exact fun _ h => h
  | cons first rest ih =>
      intro merged hfound hmerged
      rw [List.forall_mem_cons] at hfound
      refine ih hfound.2 fun d hd => ?_
      rcases mem_addTo hd with rfl | hd
      · exact hfound.1
      · exact hmerged d hd

/-- The example of a sound definition can be sent. -/
lemma IsSound.sample {definition : ParameterDefinition} (h : definition.IsSound limit) :
    definition.sample.IsSendable := by
  unfold ParameterDefinition.sample
  split
  · split
    · rename_i schema hschema
      have hsound := (h.getD "schema").entries? hschema
      cases hexample : schema.get? "example" with
      | none => exact isSendable_getD hsound (by decide)
      | some value => exact hsound.proposal (by decide) hexample
    · exact isSendable_getD h (by decide)
  · exact isSendable_getD h (by decide)

end ParameterDefinition

namespace Operation

lemma yields_definitions (hdocument : document.IsSound limit) : ∀ {raws : List Value},
    (∀ raw ∈ raws, raw.IsSound limit) →
      Yields (fun found => ∀ d ∈ found, d.IsSound limit) (definitions document raws)
  | [], _ => .ok (List.forall_mem_nil _)
  | raw :: rest, h => by
      rw [List.forall_mem_cons] at h
      refine (yields_dereference hdocument h.1).bind fun found hfound => ?_
      cases found with
      | none => exact yields_definitions hdocument h.2
      | some entries =>
          refine (ParameterDefinition.yields_ofEntries (hfound entries rfl)).bind fun first hfirst => ?_
          refine (yields_definitions hdocument h.2).bind fun others hothers => .ok ?_
          exact List.forall_mem_cons.mpr ⟨hfirst, hothers⟩

lemma yields_merge (hdocument : document.IsSound limit) {ofPath ofOperation : List Value}
    (hpath : ∀ raw ∈ ofPath, raw.IsSound limit) (hoperation : ∀ raw ∈ ofOperation, raw.IsSound limit) :
    Yields (fun found => ∀ d ∈ found, d.IsSound limit) (merge document ofPath ofOperation) := by
  refine (yields_definitions hdocument (List.forall_mem_append.mpr ⟨hpath, hoperation⟩)).map ?_
  intro found hfound
  exact ParameterDefinition.isSound_foldl_addTo hfound (List.forall_mem_nil _)

lemma isSound_items {v : Value} (h : v.IsSound limit) : ∀ item ∈ items v, item.IsSound limit := by
  cases v with
  | list found => exact h.of_mem
  | _ => exact List.forall_mem_nil _

/-! ## Bodies -/

lemma yields_jsonKind? : ∀ {content : List (Value × Value)}, (Value.map content).IsSound limit →
    Yields (fun found => ∀ entry, found = some entry → entry ∈ content) (jsonKind? content)
  | [], _ => .ok_none
  | (mediaType, media) :: rest, h => by
      obtain ⟨hkey, -, hrest⟩ := h.of_cons_entries
      have hshown := (spelled_shown mediaType).exists_of_true hkey
      have hkind : Yields (fun _ => True) (isJsonKind mediaType) :=
        (Yields.of_exists hshown).bind fun _ _ => .ok trivial
      refine hkind.bind fun isJson _ => ?_
      split_ifs
      · exact .ok_some List.mem_cons_self
      · exact (yields_jsonKind? hrest).imp fun found hfound entry hentry =>
          List.mem_cons_of_mem _ (hfound entry hentry)

/-- What is declared for the media type that is taken is sound. -/
lemma yields_preferred? {content : Entries} (h : (Value.map content).IsSound limit) :
    Yields (fun found => ∀ entry : Value × Value, found = some entry → entry.2.IsSound limit)
      (preferred? content) := by
  unfold preferred?
  split
  · rename_i media hmedia
    exact .ok_some (h.get? hmedia).1
  · refine (yields_jsonKind? h).bind fun found hfound => .ok fun entry hentry => ?_
    refine (h.of_mem_entries entry ?_).2
    rcases Option.or_eq_some_iff.mp hentry with hfirst | ⟨-, hhead⟩
    · exact hfound entry hfirst
    · exact List.mem_of_head? hhead

lemma isSound_bodyOfParameters {parameters : List ParameterDefinition}
    (h : ∀ d ∈ parameters, d.IsSound limit) :
    ∀ raw, (bodyOfParameters parameters).1 = some raw → (Value.map raw).IsSound limit := by
  intro raw hraw
  unfold bodyOfParameters at hraw
  split at hraw
  · rename_i parameter hparameter
    have hsound := h parameter (List.mem_of_find?_eq_some hparameter)
    exact (IsSound.getD hsound "schema").entries? hraw
  · split_ifs at hraw

lemma yields_body (hdocument : document.IsSound limit) {raw : Entries}
    (h : (Value.map raw).IsSound limit) {parameters : List ParameterDefinition}
    (hparameters : ∀ d ∈ parameters, d.IsSound limit) :
    Yields (fun found => ∀ schema, found.1 = some schema → (Value.map schema).IsSound limit)
      (body document raw parameters) := by
  refine (yields_dereference hdocument (h.getD "requestBody")).bind fun request hrequest => ?_
  have hcontent : (Value.map ((request.bind fun entries : Entries =>
      (entries.getD "content").entries?).getD [])).IsSound limit := by
    cases hfound : request.bind fun entries : Entries => (entries.getD "content").entries? with
    | none => exact hdocument.empty
    | some content =>
        obtain ⟨entries, rfl, hcontent⟩ := Option.bind_eq_some_iff.mp hfound
        exact ((hrequest entries rfl).getD "content").entries? hcontent
  refine (yields_preferred? hcontent).bind fun found hfound => ?_
  cases found with
  | none => exact .ok (isSound_bodyOfParameters hparameters)
  | some entry =>
      refine .ok fun schema hschema => ?_
      obtain ⟨entries, hentries, hschema⟩ := Option.bind_eq_some_iff.mp hschema
      exact (((hfound entry rfl).entries? hentries).getD "schema").entries? hschema

/-! ## Operations -/

lemma yields_shown? {v : Value} (h : v.IsSound limit) : Yields (fun _ => True) (shown? v) := by
  unfold shown?
  split
  · exact .ok trivial
  · exact h.yields_shown.map fun _ _ => trivial

variable {path : Value} {ofPath : List Value}

lemma yields_ofMapping (hdocument : document.IsSound limit) (hpath : path.isSpellable = true)
    (hofPath : ∀ raw ∈ ofPath, raw.IsSound limit) (method : Method) {raw : Entries}
    (h : (Value.map raw).IsSound limit) :
    Yields (IsSound limit) (ofMapping document path ofPath method raw) := by
  have hitems := fun key => isSound_items (h.getD key)
  refine (yields_merge hdocument hofPath (hitems "parameters")).bind fun parameters hparameters => ?_
  refine (yields_body hdocument h hparameters).bind fun found hfound => ?_
  refine (Yields.mapM fun tag htag => (hitems "tags" tag htag).yields_shown).bind fun tags _ => ?_
  refine (Yields.of_exists ((spelled_shown path).exists_of_true hpath)).bind fun shown _ => ?_
  refine (yields_shown? (h.getD "operationId")).bind fun identifier _ => ?_
  refine (yields_shown? (h.getD "summary")).bind fun summary _ => .ok ⟨?_, hfound⟩
  rw [List.forall_mem_map]
  exact fun definition hdefinition => (hparameters definition hdefinition).sample

lemma yields_ofEntry (hdocument : document.IsSound limit) (hpath : path.isSpellable = true)
    (hofPath : ∀ raw ∈ ofPath, raw.IsSound limit) {key value : Value}
    (hkey : key.isSpellable = true) (hvalue : value.IsSound limit) :
    Yields (fun found => ∀ operation, found = some operation → operation.IsSound limit)
      (ofEntry document path ofPath key value) := by
  refine (Yields.of_exists ((spelled_shown key).exists_of_true hkey)).bind fun shown _ => ?_
  split
  · rename_i method raw _ hraw
    have hsound := hvalue.entries? hraw
    exact (yields_ofMapping hdocument hpath hofPath method hsound).bind fun _ => .ok_some
  · exact .ok_none

lemma yields_ofEntries (hdocument : document.IsSound limit) (hpath : path.isSpellable = true)
    (hofPath : ∀ raw ∈ ofPath, raw.IsSound limit) : ∀ {entries : List (Value × Value)},
      (Value.map entries).IsSound limit →
        Yields (fun found => ∀ operation ∈ found, operation.IsSound limit)
          (ofEntries document path ofPath entries)
  | [], _ => .ok (List.forall_mem_nil _)
  | (key, value) :: rest, h => by
      obtain ⟨hkey, hvalue, hrest⟩ := h.of_cons_entries
      refine (yields_ofEntry hdocument hpath hofPath hkey hvalue).bind fun found hfound => ?_
      refine (yields_ofEntries hdocument hpath hofPath hrest).bind fun others hothers => .ok ?_
      rw [List.forall_mem_append]
      exact ⟨fun operation hmem => hfound operation (Option.mem_toList.mp hmem), hothers⟩

lemma yields_ofPaths (hdocument : document.IsSound limit) : ∀ {paths : List (Value × Value)},
    (Value.map paths).IsSound limit →
      Yields (fun found => ∀ operation ∈ found, operation.IsSound limit) (ofPaths document paths)
  | [], _ => .ok (List.forall_mem_nil _)
  | (path, item) :: rest, h => by
      obtain ⟨hpath, hitem, hrest⟩ := h.of_cons_entries
      have hfollow : ∀ {outcome : Except Fault (List Operation)},
          Yields (fun found => ∀ operation ∈ found, operation.IsSound limit) outcome →
            Yields (fun found => ∀ operation ∈ found, operation.IsSound limit) (do
              let operations ← outcome
              return operations ++ (← ofPaths document rest)) := by
        intro outcome houtcome
        refine houtcome.bind fun found hfound => ?_
        refine (yields_ofPaths hdocument hrest).bind fun others hothers => .ok ?_
        exact List.forall_mem_append.mpr ⟨hfound, hothers⟩
      rw [ofPaths]
      split
      · rename_i entries hentries
        have hentries := hitem.entries? hentries
        exact hfollow (yields_ofEntries hdocument hpath
          (isSound_items (hentries.getD "parameters")) hentries)
      · exact hfollow (.ok (List.forall_mem_nil _))

end Operation

/-- **A specification in a sound document has operations**, all of them sound. -/
theorem yields_operations {spec : Specification} (hdocument : spec.document.IsSound limit)
    (hpaths : (Value.map spec.paths).IsSound limit) :
    Yields (fun operations => ∀ operation ∈ operations, operation.IsSound limit) spec.operations :=
  Operation.yields_ofPaths hdocument hpaths

end LoadPlan
