import LoadPlan.Proofs.Operation.Parameters

/-!
# When operations can be read

Two things can keep a document from having operations: a reference that cannot be looked up, and a number
that is too long to be written.  Of references, those of parameters and of bodies are looked up, and of these
only the ones of operations.

* `Operation.CanLookUpFor`, `Operation.AllCanLookUp` — what is looked up for one operation, and for all of
  them.
* `StandsFor.isSpellable` — what an entry stands for has texts if the document has.
* `Operation.shownIf_ofMapping` — an operation can be read unless a number is too long.
* **`shownIf_operations`** — and so can all operations of a specification.
-/

namespace LoadPlan

open Value

/-! ## Parts of documents -/

lemma Pointer.isSpellable_of_lead : ∀ {path : List Pointer.Step} {value last : Value},
    Pointer.lead path value = some last → value.isSpellable = true → last.isSpellable = true
  | [], value, last, h, hvalue => by
      obtain rfl := Option.some.inj h
      exact hvalue
  | step :: path, value, last, h, hvalue => by
      obtain ⟨next, hnext, hlast⟩ := Option.bind_eq_some_iff.mp h
      refine isSpellable_of_lead hlast ?_
      cases step with
      | key k =>
          cases value with
          | map entries => exact (isSpellable_of_mem_entries hvalue _ (Entries.mem_of_get? hnext)).2
          | _ => cases hnext
      | index n =>
          cases value with
          | list items => exact isSpellable_of_mem hvalue next (List.mem_of_getElem? hnext)
          | _ => cases hnext

/-- What a value stands for has texts. -/
lemma StandsFor.isSpellable {document raw : Value} {entries : Entries} (h : StandsFor document raw entries)
    (hdocument : document.isSpellable = true) (hraw : raw.isSpellable = true) :
    entriesSpellable entries = true := by
  cases h with
  | own => exact hraw
  | referred _ hleads =>
      obtain ⟨tokens, -, path, -, hlead⟩ := hleads
      exact Pointer.isSpellable_of_lead hlead hdocument

lemma Entries.hasKeyTexts_of_spellable {entries : Entries} (h : entriesSpellable entries = true) :
    entries.hasKeyTexts = true :=
  Bool.and_eq_true_iff.mpr ⟨Entries.isSpellable_getD h "name", Entries.isSpellable_getD h "in"⟩

namespace Operation

lemma isSpellable_items {value : Value} (h : value.isSpellable = true) :
    ∀ item ∈ items value, item.isSpellable = true := by
  cases value with
  | list found => exact isSpellable_of_mem h
  | _ => exact List.forall_mem_nil _

section

variable {P : Prop} {document path : Value} {ofPath ofOperation : List Value} {raw : Entries}

lemma shownIf_merge (hlookups : ∀ raw ∈ ofPath ++ ofOperation, CanLookUp document raw)
    (hdocument : P → document.isSpellable = true)
    (hraws : P → ∀ raw ∈ ofPath ++ ofOperation, raw.isSpellable = true) :
    ShownIf P (merge document ofPath ofOperation) := by
  rcases merge_cases hlookups with ⟨-, hmerged⟩ | ⟨htexts, hfault⟩
  · exact .inl hmerged
  · refine .inr ⟨fun hP => htexts fun raw hraw entries hstands => ?_, hfault⟩
    exact Entries.hasKeyTexts_of_spellable (hstands.isSpellable (hdocument hP) (hraws hP raw hraw))

lemma shownIf_jsonKind? : ∀ {content : Entries}, (P → entriesSpellable content = true) →
    ShownIf P (jsonKind? content)
  | [], _ => .ok none
  | (mediaType, media) :: rest, h => by
      have hparts : P → mediaType.isSpellable = true ∧ entriesSpellable rest = true := by
        intro hP
        have hall := h hP
        rw [entriesSpellable, Bool.and_eq_true, Bool.and_eq_true] at hall
        exact ⟨hall.1, hall.2.2⟩
      have hkind : ShownIf P (isJsonKind mediaType) :=
        (Value.shownIf fun hP => (hparts hP).1).bind fun shown => .ok _
      refine hkind.bind fun isJson => ?_
      split_ifs
      · exact .ok _
      · exact shownIf_jsonKind? fun hP => (hparts hP).2

lemma shownIf_preferred? {content : Entries} (h : P → entriesSpellable content = true) :
    ShownIf P (preferred? content) := by
  unfold preferred?
  split
  · exact .ok _
  · exact (shownIf_jsonKind? h).bind fun found => .ok _

lemma shownIf_body (hlookup : CanLookUp document (raw.getD "requestBody"))
    (hdocument : P → document.isSpellable = true) (hraw : P → entriesSpellable raw = true)
    (parameters : List ParameterDefinition) : ShownIf P (body document raw parameters) := by
  obtain ⟨found, hfound⟩ := exists_dereference_iff.mpr hlookup
  have hcontent : P → entriesSpellable
      ((found.bind fun entries : Entries => (entries.getD "content").entries?).getD []) = true := by
    intro hP
    cases hsome : found.bind fun entries : Entries => (entries.getD "content").entries? with
    | none => rfl
    | some content =>
        obtain ⟨entries, rfl, hentries⟩ := Option.bind_eq_some_iff.mp hsome
        have hstands := dereference_eq_some_iff.mp hfound
        have hall := hstands.isSpellable (hdocument hP) (Entries.isSpellable_getD (hraw hP) _)
        have hmap := Entries.isSpellable_getD hall "content"
        rw [Value.entries?_eq_some_iff.mp hentries] at hmap
        exact hmap
  rw [body, hfound, ok_bind]
  refine (shownIf_preferred? hcontent).bind fun media => ?_
  split <;> exact .ok _

lemma shownIf_shown? {value : Value} (h : P → value.isSpellable = true) : ShownIf P (shown? value) := by
  unfold shown?
  split
  · exact .ok none
  · exact (Value.shownIf h).map _

/-- What is looked up for an operation can be looked up. -/
structure CanLookUpFor (document : Value) (ofPath : List Value) (raw : Entries) : Prop where
  /-- The parameters of the path and of the operation. -/
  parameters : ∀ parameter ∈ ofPath ++ items (raw.getD "parameters"), CanLookUp document parameter
  /-- The body. -/
  body : CanLookUp document (raw.getD "requestBody")

lemma shownIf_ofMapping (hlookups : CanLookUpFor document ofPath raw)
    (hdocument : P → document.isSpellable = true) (hpath : P → path.isSpellable = true)
    (hofPath : P → ∀ parameter ∈ ofPath, parameter.isSpellable = true)
    (hraw : P → entriesSpellable raw = true) (method : Method) :
    ShownIf P (ofMapping document path ofPath method raw) := by
  have hitems : ∀ key, P → ∀ item ∈ items (raw.getD key), item.isSpellable = true :=
    fun key hP => isSpellable_items (Entries.isSpellable_getD (hraw hP) key)
  have hall : P → ∀ parameter ∈ ofPath ++ items (raw.getD "parameters"), parameter.isSpellable = true :=
    fun hP => List.forall_mem_append.mpr ⟨hofPath hP, hitems "parameters" hP⟩
  refine (shownIf_merge hlookups.parameters hdocument hall).bind fun parameters => ?_
  refine (shownIf_body hlookups.body hdocument hraw parameters).bind fun found => ?_
  refine (ShownIf.mapM fun tag htag => Value.shownIf fun hP => hitems "tags" hP tag htag).bind fun tags => ?_
  refine (Value.shownIf hpath).bind fun shown => ?_
  refine (shownIf_shown? fun hP => Entries.isSpellable_getD (hraw hP) "operationId").bind fun identifier => ?_
  exact (shownIf_shown? fun hP => Entries.isSpellable_getD (hraw hP) "summary").bind fun summary => .ok _

/-- Everything that is looked up for the operations among some entries can be looked up. -/
def AllCanLookUp (document : Value) (entries : List PathEntry) : Prop :=
  ∀ entry ∈ entries, ∀ method raw, entry.Declares method raw → CanLookUpFor document entry.shared raw

instance decidableCanLookUpFor (document : Value) (ofPath : List Value) (raw : Entries) :
    Decidable (CanLookUpFor document ofPath raw) :=
  decidable_of_iff ((∀ parameter ∈ ofPath ++ items (raw.getD "parameters"), CanLookUp document parameter) ∧
    CanLookUp document (raw.getD "requestBody")) ⟨fun h => ⟨h.1, h.2⟩, fun h => ⟨h.parameters, h.body⟩⟩

/-- It is enough to look at all mappings, whatever they stand under. -/
lemma allCanLookUp_of_mappings {entries : List PathEntry}
    (h : ∀ entry ∈ entries, ∀ raw ∈ entry.value.entries?, CanLookUpFor document entry.shared raw) :
    AllCanLookUp document entries :=
  fun entry hentry _ raw hdeclares => h entry hentry raw (Value.entries?_eq_some_iff.mpr hdeclares.2)

lemma shownIf_ofEntry {item : Entries} {key value : Value}
    (hlookups : AllCanLookUp document [⟨path, item, key, value⟩])
    (hdocument : P → document.isSpellable = true) (hpath : P → path.isSpellable = true)
    (hitem : P → entriesSpellable item = true)
    (hentry : P → key.isSpellable = true ∧ value.isSpellable = true) :
    ShownIf P (ofEntry document path (items (item.getD "parameters")) key value) := by
  rw [AllCanLookUp, List.forall_mem_singleton] at hlookups
  rw [ofEntry]
  rcases Value.shownIf (P := P) (v := key) fun hP => (hentry hP).1 with ⟨shown, hshown⟩ | ⟨hno, hfault⟩
  · rw [hshown, ok_bind]
    split
    · rename_i method raw hkey hraw
      obtain rfl := Value.entries?_eq_some_iff.mp hraw
      have hdeclares : PathEntry.Declares ⟨path, item, key, .map raw⟩ method raw :=
        ⟨⟨shown, hshown, Method.ofKey?_eq_some_iff.mp hkey⟩, rfl⟩
      refine ShownIf.bind ?_ fun operation => .ok _
      exact shownIf_ofMapping (hlookups method raw hdeclares) hdocument hpath
        (fun hP => isSpellable_items (Entries.isSpellable_getD (hitem hP) _)) (fun hP => (hentry hP).2) method
    · exact .ok none
  · rw [hfault]
    exact .inr ⟨hno, rfl⟩

lemma shownIf_ofEntries {item : Entries} (hdocument : P → document.isSpellable = true)
    (hpath : P → path.isSpellable = true) (hitem : P → entriesSpellable item = true) :
    ∀ {entries : Entries},
      AllCanLookUp document (entries.map fun entry => ⟨path, item, entry.1, entry.2⟩) →
        (P → ∀ entry ∈ entries, entry.1.isSpellable = true ∧ entry.2.isSpellable = true) →
          ShownIf P (ofEntries document path (items (item.getD "parameters")) entries)
  | [], _, _ => .ok []
  | (key, value) :: rest, hlookups, hentries => by
      rw [AllCanLookUp, List.map_cons, List.forall_mem_cons] at hlookups
      have hfirst : AllCanLookUp document [⟨path, item, key, value⟩] :=
        List.forall_mem_singleton.mpr hlookups.1
      refine (shownIf_ofEntry hfirst hdocument hpath hitem
        fun hP => hentries hP _ List.mem_cons_self).bind fun operation => ?_
      exact (shownIf_ofEntries hdocument hpath hitem hlookups.2
        fun hP entry hentry => hentries hP entry (List.mem_cons_of_mem _ hentry)).bind fun others => .ok _

lemma shownIf_ofItem {item : Value} (hlookups : AllCanLookUp document (entriesAt path item))
    (hdocument : P → document.isSpellable = true) (hpath : P → path.isSpellable = true)
    (hitem : P → item.isSpellable = true) : ShownIf P (ofItem document path item) := by
  unfold ofItem
  unfold entriesAt at hlookups
  split at hlookups
  · rename_i entries hentries
    obtain rfl := Value.entries?_eq_some_iff.mp hentries
    exact shownIf_ofEntries hdocument hpath hitem hlookups fun hP => isSpellable_of_mem_entries (hitem hP)
  · exact .ok []

lemma shownIf_ofPaths (hdocument : P → document.isSpellable = true) : ∀ {paths : Entries},
    AllCanLookUp document (entriesOf paths) →
      (P → ∀ entry ∈ paths, entry.1.isSpellable = true ∧ entry.2.isSpellable = true) →
        ShownIf P (ofPaths document paths)
  | [], _, _ => .ok []
  | (path, item) :: rest, hlookups, hpaths => by
      rw [AllCanLookUp, entriesOf, List.flatMap_cons, List.forall_mem_append] at hlookups
      rw [ofPaths_cons]
      refine (shownIf_ofItem hlookups.1 hdocument (fun hP => (hpaths hP _ List.mem_cons_self).1)
        fun hP => (hpaths hP _ List.mem_cons_self).2).bind fun operations => ?_
      exact (shownIf_ofPaths hdocument hlookups.2
        fun hP entry hentry => hpaths hP entry (List.mem_cons_of_mem _ hentry)).bind fun others => .ok _

end

end Operation

/-- **A specification in which no number is too long.** -/
def Specification.IsSpellable (spec : Specification) : Prop :=
  spec.document.isSpellable = true ∧ entriesSpellable spec.paths = true

/-- **A specification has operations unless a number is too long**, if everything that is looked up for them
can be looked up. -/
theorem shownIf_operations {spec : Specification} (h : Operation.AllCanLookUp spec.document spec.entries) :
    ShownIf spec.IsSpellable spec.operations :=
  Operation.shownIf_ofPaths And.left h fun hspec => isSpellable_of_mem_entries hspec.2

end LoadPlan
