import LoadPlan.Proofs.Operation.Verb

/-!
# The operations of a document

A document says about each of its paths what stands under some keys.  Where the key is a method and a mapping
stands there, this is an operation; everything else is passed over.

* `Selects` — what is made of those elements of a list that are taken, in their order.
* `PathEntry`, `Specification.entries` — what stands under the keys of a path, path by path.
* `PathEntry.Declares`, `PathEntry.Gives` — the method and the mapping of an operation, and the operation.
* **`selects_operations`** — the operations are those of the entries that declare one, and no others.
-/

namespace LoadPlan

/-! ## Choosing from a list -/

/-- **What is made of the elements of a list that are taken**, one thing of each, in their order. -/
inductive Selects {α β : Type} (takes : α → Prop) (makes : α → β → Prop) : List α → List β → Prop where
  /-- Nothing is made of nothing. -/
  | nil : Selects takes makes [] []
  /-- One thing is made of an element that is taken. -/
  | keep {x : α} {y : β} {xs : List α} {ys : List β} (htakes : takes x) (hmakes : makes x y)
    (hrest : Selects takes makes xs ys) : Selects takes makes (x :: xs) (y :: ys)
  /-- Nothing is made of any other element. -/
  | drop {x : α} {xs : List α} {ys : List β} (hno : ¬ takes x) (hrest : Selects takes makes xs ys) :
    Selects takes makes (x :: xs) ys

namespace Selects

variable {α β : Type} {takes : α → Prop} {makes : α → β → Prop} {xs more : List α} {ys others : List β}

lemma append (h : Selects takes makes xs ys) (hmore : Selects takes makes more others) :
    Selects takes makes (xs ++ more) (ys ++ others) := by
  induction h with
  | nil => exact hmore
  | keep htakes hmakes _ ih => exact .keep htakes hmakes ih
  | drop hno _ ih => exact .drop hno ih

/-- What is made of two lists one after another is made of each of them. -/
lemma exists_of_append : ∀ {xs : List α} {ys : List β}, Selects takes makes (xs ++ more) ys →
    ∃ front back, ys = front ++ back ∧ Selects takes makes xs front ∧ Selects takes makes more back
  | [], ys, h => ⟨[], ys, rfl, .nil, h⟩
  | _ :: _, _, .keep htakes hmakes hrest => by
      obtain ⟨front, back, rfl, hfront, hback⟩ := exists_of_append hrest
      exact ⟨_ :: front, back, rfl, .keep htakes hmakes hfront, hback⟩
  | _ :: _, _, .drop hno hrest => by
      obtain ⟨front, back, rfl, hfront, hback⟩ := exists_of_append hrest
      exact ⟨front, back, rfl, .drop hno hfront, hback⟩

/-- Whatever is made is made of an element that is taken. -/
lemma exists_of_mem (h : Selects takes makes xs ys) : ∀ y ∈ ys, ∃ x ∈ xs, takes x ∧ makes x y := by
  induction h with
  | nil => exact List.forall_mem_nil _
  | @keep x y xs ys htakes hmakes _ ih =>
      rw [List.forall_mem_cons]
      refine ⟨⟨x, List.mem_cons_self, htakes, hmakes⟩, fun other hother => ?_⟩
      obtain ⟨source, hmem, hmade⟩ := ih other hother
      exact ⟨source, List.mem_cons_of_mem x hmem, hmade⟩
  | @drop x xs ys _ _ ih =>
      intro other hother
      obtain ⟨source, hmem, hmade⟩ := ih other hother
      exact ⟨source, List.mem_cons_of_mem x hmem, hmade⟩

/-- Nothing is made only if no element is taken. -/
lemma eq_nil_iff (h : Selects takes makes xs ys) : ys = [] ↔ ∀ x ∈ xs, ¬ takes x := by
  induction h with
  | nil => exact iff_of_true rfl (List.forall_mem_nil _)
  | keep htakes _ _ _ =>
      exact iff_of_false (List.cons_ne_nil _ _) fun hnone => hnone _ List.mem_cons_self htakes
  | drop hno _ ih => rw [ih, List.forall_mem_cons, and_iff_right hno]

/-- What is made of the same elements in two ways. -/
lemma exists_both {γ : Type} {also : α → γ → Prop} {both : α → β × γ → Prop} {zs : List γ}
    (hboth : ∀ x y z, makes x y → also x z → both x (y, z)) (h : Selects takes makes xs ys)
    (hmore : Selects takes also xs zs) :
    ∃ pairs, ys = pairs.map Prod.fst ∧ zs = pairs.map Prod.snd ∧ Selects takes both xs pairs := by
  induction h generalizing zs with
  | nil =>
      cases hmore
      exact ⟨[], rfl, rfl, .nil⟩
  | @keep x y _ _ htakes hmakes _ ih =>
      cases hmore with
      | @keep _ z _ _ _ halso hrest =>
          obtain ⟨pairs, rfl, rfl, hpairs⟩ := ih hrest
          exact ⟨(y, z) :: pairs, rfl, rfl, .keep htakes (hboth x y z hmakes halso) hpairs⟩
      | drop hno => exact absurd htakes hno
  | drop hno _ ih =>
      cases hmore with
      | keep htakes => exact absurd htakes hno
      | drop _ hrest =>
          obtain ⟨pairs, rfl, rfl, hpairs⟩ := ih hrest
          exact ⟨pairs, rfl, rfl, .drop hno hpairs⟩

end Selects

/-! ## What stands under the keys of paths -/

lemma Value.entries?_eq_some_iff {value : Value} {entries : Entries} :
    value.entries? = some entries ↔ value = .map entries := by
  cases value with
  | map found => rw [Value.entries?, Option.some.injEq, Value.map.injEq]
  | _ => exact iff_of_false (by rintro ⟨⟩) Value.noConfusion

/-- **What stands under a key of a path.** -/
structure PathEntry where
  /-- The path. -/
  path : Value
  /-- All that is said about the path. -/
  item : Entries
  /-- The key. -/
  key : Value
  /-- What stands there. -/
  value : Value

namespace PathEntry

/-- The parameters that are declared for all operations on the path. -/
def shared (entry : PathEntry) : List Value := Operation.items (entry.item.getD "parameters")

/-- **The operation that an entry declares**: its key is a method in letters of any case, and a mapping stands
there. -/
def Declares (entry : PathEntry) (method : Method) (raw : Entries) : Prop :=
  (∃ shown, entry.key.shown = .ok shown ∧ shown.lower = method.key) ∧ entry.value = .map raw

/-- **Whether an entry declares an operation.** -/
def IsOperation (entry : PathEntry) : Prop := ∃ method raw, entry.Declares method raw

/-- **The operation of an entry** that declares one. -/
structure Gives (document : Value) (entry : PathEntry) (operation : Operation) : Prop where
  /-- It is what the mapping says. -/
  made : ∃ raw, entry.Declares operation.method raw ∧
    Operation.ofMapping document entry.path entry.shared operation.method raw = .ok operation
  /-- It is on the path. -/
  path : entry.path.shown = .ok operation.path

/-- An entry declares one operation at most. -/
lemma Declares.unique {entry : PathEntry} {method other : Method} {raw more : Entries}
    (h : entry.Declares method raw) (hother : entry.Declares other more) : method = other ∧ raw = more := by
  obtain ⟨⟨shown, hshown, hmethod⟩, hraw⟩ := h
  obtain ⟨⟨spelled, hspelled, hsame⟩, hmore⟩ := hother
  obtain rfl := Except.ok.inj (hshown.symm.trans hspelled)
  refine ⟨Option.some.inj ?_, Value.map.inj (hraw.symm.trans hmore)⟩
  rw [← Method.ofKey?_eq_some_iff.mpr hmethod, Method.ofKey?_eq_some_iff.mpr hsame]

end PathEntry

/-- What stands under the keys of a path. -/
def Operation.entriesAt (path item : Value) : List PathEntry :=
  match item.entries? with
  | some entries => entries.map fun entry => ⟨path, entries, entry.1, entry.2⟩
  | none => []

/-- **What stands under the keys of some paths**, path by path. -/
def Operation.entriesOf (paths : Entries) : List PathEntry :=
  paths.flatMap fun path => entriesAt path.1 path.2

/-- **What stands under the keys of the paths** of a specification, in the order of the document. -/
def Specification.entries (spec : Specification) : List PathEntry := Operation.entriesOf spec.paths

namespace Operation

variable {document path : Value} {ofPath : List Value}

/-- What is said about an operation does not change its path and its method. -/
lemma of_ofMapping {method : Method} {raw : Entries} {operation : Operation}
    (h : ofMapping document path ofPath method raw = .ok operation) :
    operation.method = method ∧ path.shown = .ok operation.path ∧
      ∃ merged, merge document ofPath (items (raw.getD "parameters")) = .ok merged ∧
        operation.parameters = merged.map ParameterDefinition.parameter := by
  obtain ⟨merged, hmerged, h⟩ := exists_of_except_bind h
  obtain ⟨⟨requestBody?, contentType⟩, -, h⟩ := exists_of_except_bind h
  obtain ⟨tags, -, h⟩ := exists_of_except_bind h
  obtain ⟨shown, hshown, h⟩ := exists_of_except_bind h
  obtain ⟨identifier?, -, h⟩ := exists_of_except_bind h
  obtain ⟨summary?, -, h⟩ := exists_of_except_bind h
  obtain rfl := Except.ok.inj h
  exact ⟨rfl, hshown, merged, hmerged, rfl⟩

lemma selects_ofEntries {item : Entries} : ∀ {entries : Entries} {operations : List Operation},
    ofEntries document path (items (item.getD "parameters")) entries = .ok operations →
      Selects PathEntry.IsOperation (PathEntry.Gives document)
        (entries.map fun entry => ⟨path, item, entry.1, entry.2⟩) operations
  | [], operations, h => by
      obtain rfl := Except.ok.inj h
      exact .nil
  | (key, value) :: rest, operations, h => by
      obtain ⟨found, hfound, h⟩ := exists_of_except_bind h
      obtain ⟨others, hothers, h⟩ := exists_of_except_bind h
      obtain rfl := Except.ok.inj h
      have hrest := selects_ofEntries hothers
      obtain ⟨shown, hshown, hfound⟩ := exists_of_except_bind hfound
      rw [List.map_cons]
      split at hfound
      · rename_i method raw hkey hraw
        obtain ⟨operation, hoperation, hfound⟩ := exists_of_except_bind hfound
        obtain rfl := Except.ok.inj hfound
        obtain ⟨rfl, hpath, -⟩ := of_ofMapping hoperation
        have hdeclares : PathEntry.Declares ⟨path, item, key, value⟩ operation.method raw :=
          ⟨⟨shown, hshown, Method.ofKey?_eq_some_iff.mp hkey⟩, Value.entries?_eq_some_iff.mp hraw⟩
        exact .keep ⟨_, _, hdeclares⟩ ⟨⟨raw, hdeclares, hoperation⟩, hpath⟩ hrest
      · rename_i hno
        obtain rfl := Except.ok.inj hfound
        refine .drop ?_ hrest
        rintro ⟨method, raw, ⟨other, hother, hmethod⟩, hvalue⟩
        obtain rfl := Except.ok.inj (hshown.symm.trans hother)
        obtain rfl : value = .map raw := hvalue
        exact hno method raw (Method.ofKey?_eq_some_iff.mpr hmethod) rfl

/-- The operations on a path. -/
def ofItem (document path item : Value) : Except Fault (List Operation) :=
  match item.entries? with
  | some entries => ofEntries document path (items (entries.getD "parameters")) entries
  | none => .ok []

lemma ofPaths_cons (document path item : Value) (rest : Entries) :
    ofPaths document ((path, item) :: rest) =
      ofItem document path item >>= fun operations =>
        ofPaths document rest >>= fun others => pure (operations ++ others) := by
  rw [ofPaths, ofItem]
  cases item.entries? <;> rfl

lemma selects_ofItem {item : Value} {operations : List Operation}
    (h : ofItem document path item = .ok operations) :
    Selects PathEntry.IsOperation (PathEntry.Gives document) (entriesAt path item) operations := by
  unfold ofItem at h
  unfold entriesAt
  split at h
  · rename_i entries hentries
    exact selects_ofEntries h
  · obtain rfl := Except.ok.inj h
    exact .nil

lemma selects_ofPaths : ∀ {paths : Entries} {operations : List Operation},
    ofPaths document paths = .ok operations →
      Selects PathEntry.IsOperation (PathEntry.Gives document) (entriesOf paths) operations
  | [], operations, h => by
      obtain rfl := Except.ok.inj h
      exact .nil
  | (path, item) :: rest, operations, h => by
      rw [ofPaths_cons] at h
      obtain ⟨found, hfound, h⟩ := exists_of_except_bind h
      obtain ⟨others, hothers, h⟩ := exists_of_except_bind h
      obtain rfl := Except.ok.inj h
      exact (selects_ofItem hfound).append (selects_ofPaths hothers)

end Operation

/-- **The operations of a specification are those of the entries that declare one**, one for each of them in
the order of the document. -/
theorem selects_operations {spec : Specification} {operations : List Operation}
    (h : spec.operations = .ok operations) :
    Selects PathEntry.IsOperation (PathEntry.Gives spec.document) spec.entries operations :=
  Operation.selects_ofPaths h

end LoadPlan
