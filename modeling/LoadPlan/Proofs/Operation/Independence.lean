import LoadPlan.Proofs.Operation.Agreement
import LoadPlan.Proofs.Specification.Reading

/-!
# An operation does not depend on other paths

When an entry of the paths is taken out or changed, the operations on other paths stay as they are, unless
one of their references leads into that entry.  There is one more way for them to meet it: a reference to the
paths as a whole is looked up as any other, and then the keys of the paths are read as those of a parameter.

* `PathsEdit`, `PathsEdit.Turns` — a place in the paths with what stands there before and after an edit, and
  the specifications before and after.
* **`PathsEdit.turns_of_ofDocument`** — those of a document before and after an edit of its paths.
* `Meets`, `PathEntry.Meets` — a reference, or an operation, that an edit can make a difference to.
* `PathsEdit.sameEnd_dereference` — what a reference leads to is read alike unless the edit meets it.
* **`operations_extracted`** — the operations of a specification, and what becomes of them in an edit.
* **`operations_of_paths`** — a reference to the paths as a whole meets an edit without pointing to the entry.
-/

namespace LoadPlan

open Report (SameEnd)
open Entries (AgreeAt)

/-! ## Edits of paths -/

namespace Entries

lemma get?_append (key : Text) : ∀ entries more : Entries,
    get? key (entries ++ more) = (get? key entries).or (get? key more)
  | [], more => rfl
  | (found, value) :: rest, more => by
      by_cases hfound : found = .text key
      · rw [hfound, List.cons_append, get?, get?, if_pos rfl, if_pos rfl]
        rfl
      · rw [List.cons_append, get?_cons_of_ne hfound, get?_cons_of_ne hfound, get?_append key rest more]

/-- Nothing is found among entries for another key. -/
lemma get?_eq_none {key : Text} : ∀ {entries : Entries}, (∀ entry ∈ entries, entry.1 ≠ .text key) →
    get? key entries = none
  | [], _ => rfl
  | (found, value) :: rest, h => by
      rw [List.forall_mem_cons] at h
      rw [get?_cons_of_ne h.1, get?_eq_none h.2]

end Entries

/-- **An edit of what stands under one key of the paths.** -/
structure PathsEdit where
  /-- The entries in front of it. -/
  before : Entries
  /-- What stands there. -/
  old : Entries
  /-- What is put in its place. -/
  new : Entries
  /-- The entries behind it. -/
  after : Entries
  /-- The key. -/
  key : Value
  /-- What stands there stands under the key. -/
  old_key : ∀ entry ∈ old, entry.1 = key
  /-- So does what is put in its place. -/
  new_key : ∀ entry ∈ new, entry.1 = key

namespace PathsEdit

/-- An entry is taken out. -/
def delete (before : Entries) (key item : Value) (after : Entries) : PathsEdit where
  before := before
  old := [(key, item)]
  new := []
  after := after
  key := key
  old_key := List.forall_mem_singleton.mpr rfl
  new_key := List.forall_mem_nil _

/-- The paths before the edit. -/
def source (edit : PathsEdit) : Entries := edit.before ++ edit.old ++ edit.after

/-- The paths after the edit. -/
def result (edit : PathsEdit) : Entries := edit.before ++ edit.new ++ edit.after

/-- **The specifications before and after an edit.**  The document that references are looked up in is edited
in the same way, or not at all. -/
structure Turns (edit : PathsEdit) (spec other : Specification) : Prop where
  /-- The paths before the edit. -/
  source : spec.paths = edit.source
  /-- The paths after the edit. -/
  result : other.paths = edit.result
  /-- The documents. -/
  document : other.document = spec.document ∨ ∃ entries : Entries, spec.document = .map entries ∧
    entries.get? "paths" = some (.map edit.source) ∧
      other.document = .map (entries.insert (.text "paths") (.map edit.result))

section

variable {edit : PathsEdit} {spec other : Specification}

/-- **Documents before and after an edit of their paths** have specifications before and after it. -/
theorem turns_of_ofDocument {entries : Entries} {configured : Value}
    (hpaths : entries.get? "paths" = some (.map edit.source))
    (h : Specification.ofDocument (.map entries) configured = .ok spec)
    (hother : Specification.ofDocument (.map (entries.insert (.text "paths") (.map edit.result))) configured =
      .ok other) : edit.Turns spec other := by
  obtain ⟨_, paths, hentries, hget, -, hspec, hdocument⟩ := Specification.exists_of_ofDocument h
  obtain rfl := Value.map.inj hentries
  obtain ⟨_, more, hedited, hgot, -, hresult, hchanged⟩ := Specification.exists_of_ofDocument hother
  rw [← Value.map.inj hedited] at hgot hchanged
  rw [Entries.get?_insert_self] at hgot
  refine ⟨?_, ?_, .inr ⟨entries, hdocument, hpaths, hchanged⟩⟩
  · rw [hspec, ← Value.map.inj (Option.some.inj (hpaths.symm.trans hget))]
  · rw [hresult, ← Value.map.inj (Option.some.inj hgot)]

/-- Under other keys the paths stay as they are. -/
lemma get?_source (edit : PathsEdit) {name : Text} (h : edit.key ≠ .text name) :
    Entries.get? name edit.source = Entries.get? name edit.result := by
  have hold : Entries.get? name edit.old = none :=
    Entries.get?_eq_none fun entry hentry => edit.old_key entry hentry ▸ h
  have hnew : Entries.get? name edit.new = none :=
    Entries.get?_eq_none fun entry hentry => edit.new_key entry hentry ▸ h
  rw [source, result, Entries.get?_append, Entries.get?_append, Entries.get?_append, Entries.get?_append,
    hold, hnew]

end

end PathsEdit

/-! ## References that meet an edit -/

/-- A reference into what stands under a key of the paths. -/
def PointsInto (key : Value) (pointer : Text) : Prop :=
  ∃ name rest, key = .text name ∧ Pointer.tokens? pointer = some (("paths" : Text) :: name :: rest)

/-- A reference to the paths as a whole. -/
def PointsToPaths (pointer : Text) : Prop := Pointer.tokens? pointer = some [("paths" : Text)]

/-- **A value that an edit under a key of the paths can make a difference to**: it refers to what stands
there, or to the paths as a whole, and the key is one of those that are read of it. -/
def Meets (keys : List Text) (key raw : Value) : Prop :=
  ∃ pointer, raw.pointer? = some pointer ∧
    (PointsInto key pointer ∨ (PointsToPaths pointer ∧ ∃ name ∈ keys, key = .text name))

namespace PathsEdit

variable {edit : PathsEdit} {spec other : Specification} {keys : List Text}

lemma sameEnd_target (h : edit.Turns spec other) {pointer : Text} (hinto : ¬ PointsInto edit.key pointer)
    (hpaths : PointsToPaths pointer → ∀ name ∈ keys, edit.key ≠ .text name) :
    SameEnd (Option.Rel (AgreeAt keys)) (Pointer.target spec.document pointer)
      (Pointer.target other.document pointer) := by
  rcases h.document with hsame | ⟨entries, hdocument, hget, hchanged⟩
  · rw [hsame]
    exact sameEnd_agreeAt keys _
  · rw [hdocument, hchanged, Pointer.target, Pointer.target]
    cases htokens : Pointer.tokens? pointer with
    | none => exact sameEnd_agreeAt keys _
    | some tokens =>
        dsimp only
        -- The first step is into the document, the second one into the paths.
        cases tokens with
        | nil => exact absurd rfl (Pointer.ne_nil_of_tokens? htokens)
        | cons first rest =>
            by_cases hfirst : first = "paths"
            · subst hfirst
              rw [Pointer.walk_map, Pointer.walk_map, hget, Entries.get?_insert_self]
              cases rest with
              | nil => exact .some fun name hname => edit.get?_source (hpaths htokens name hname)
              | cons name rest =>
                  have hother : edit.key ≠ .text name := fun hkey => hinto ⟨name, rest, hkey, htokens⟩
                  dsimp only
                  rw [Pointer.walk_map, Pointer.walk_map, edit.get?_source hother]
                  exact sameEnd_agreeAt keys _
            · rw [Pointer.walk_map, Pointer.walk_map, Entries.get?_insert_of_ne (Ne.symm hfirst)]
              exact sameEnd_agreeAt keys _

/-- **What a value stands for is read alike** before and after an edit that does not meet it. -/
lemma sameEnd_dereference (h : edit.Turns spec other) {raw : Value} (hno : ¬ Meets keys edit.key raw) :
    SameEnd (Option.Rel (AgreeAt keys)) (dereference spec.document raw) (dereference other.document raw) := by
  rw [dereference_eq, dereference_eq]
  cases hpointer : raw.pointer? with
  | none => exact sameEnd_agreeAt keys _
  | some pointer =>
      refine sameEnd_target h (fun hinto => hno ⟨pointer, hpointer, .inl hinto⟩) ?_
      exact fun hpaths name hname hkey => hno ⟨pointer, hpointer, .inr ⟨hpaths, name, hname, hkey⟩⟩

end PathsEdit

/-! ## Operations that meet an edit -/

namespace PathEntry

/-- **An operation that an edit can make a difference to**: one of its parameters, or of those of its path, or
its body refers to what is edited. -/
def Meets (key : Value) (entry : PathEntry) : Prop :=
  ∃ method raw, entry.Declares method raw ∧
    ((∃ parameter ∈ entry.shared ++ Operation.items (raw.getD "parameters"),
        LoadPlan.Meets parameterKeys key parameter) ∨
      LoadPlan.Meets bodyKeys key (raw.getD "requestBody"))

/-- **The operation of an entry before and after an edit**, one and the same unless the edit meets it. -/
structure Keeps (document other key : Value) (entry : PathEntry) (pair : Operation × Operation) : Prop where
  /-- The operation before. -/
  before : entry.Gives document pair.1
  /-- The operation after. -/
  after : entry.Gives other pair.2
  /-- They are the same. -/
  same : ¬ entry.Meets key → pair.1 = pair.2

lemma keeps_of_gives {edit : PathsEdit} {spec other : Specification} (h : edit.Turns spec other)
    (entry : PathEntry) (first second : Operation) (hfirst : entry.Gives spec.document first)
    (hsecond : entry.Gives other.document second) :
    entry.Keeps spec.document other.document edit.key (first, second) where
  before := hfirst
  after := hsecond
  same hno := by
    obtain ⟨raw, hdeclares, hmade⟩ := hfirst.made
    obtain ⟨more, hagain, hchanged⟩ := hsecond.made
    obtain ⟨hmethod, rfl⟩ := hdeclares.unique hagain
    rw [← hmethod] at hchanged
    refine Except.ok.inj (hmade.symm.trans (Eq.trans ?_ hchanged))
    refine Operation.ofMapping_eq (fun parameter hparameter => ?_) ?_
    · refine edit.sameEnd_dereference h fun hmeets => hno ⟨first.method, raw, hdeclares, .inl ?_⟩
      exact ⟨parameter, hparameter, hmeets⟩
    · exact edit.sameEnd_dereference h fun hmeets => hno ⟨first.method, raw, hdeclares, .inr hmeets⟩

end PathEntry

/-- **The operations before and after an edit**: those of the entries in front of it and behind it, of which
those that it does not meet stay the same, around those of what is edited. -/
def PathsEdit.Keeps (edit : PathsEdit) (document other : Value) (operations others : List Operation) : Prop :=
  ∃ (front back : List (Operation × Operation)) (own changed : List Operation),
    operations = front.map Prod.fst ++ own ++ back.map Prod.fst ∧
      others = front.map Prod.snd ++ changed ++ back.map Prod.snd ∧
        Selects PathEntry.IsOperation (PathEntry.Keeps document other edit.key)
          (Operation.entriesOf edit.before) front ∧
        Selects PathEntry.IsOperation (PathEntry.Gives document) (Operation.entriesOf edit.old) own ∧
        Selects PathEntry.IsOperation (PathEntry.Gives other) (Operation.entriesOf edit.new) changed ∧
        Selects PathEntry.IsOperation (PathEntry.Keeps document other edit.key)
          (Operation.entriesOf edit.after) back

lemma Operation.entriesOf_append (paths more : Entries) :
    entriesOf (paths ++ more) = entriesOf paths ++ entriesOf more :=
  List.flatMap_append

lemma PathsEdit.keeps_operations {edit : PathsEdit} {spec other : Specification}
    {operations others : List Operation} (h : edit.Turns spec other)
    (hspec : spec.operations = .ok operations) (hother : other.operations = .ok others) :
    edit.Keeps spec.document other.document operations others := by
  have hold := selects_operations hspec
  have hnew := selects_operations hother
  rw [Specification.entries, h.source, source, Operation.entriesOf_append, Operation.entriesOf_append] at hold
  rw [Specification.entries, h.result, result, Operation.entriesOf_append, Operation.entriesOf_append] at hnew
  obtain ⟨start, behind, rfl, hstart, hbehind⟩ := hold.exists_of_append
  obtain ⟨before, own, rfl, hbefore, hown⟩ := hstart.exists_of_append
  obtain ⟨start, after, rfl, hstart, hafter⟩ := hnew.exists_of_append
  obtain ⟨first, changed, rfl, hfirst, hchanged⟩ := hstart.exists_of_append
  obtain ⟨front, rfl, rfl, hfront⟩ := hbefore.exists_both (PathEntry.keeps_of_gives h) hfirst
  obtain ⟨back, rfl, rfl, hback⟩ := hbehind.exists_both (PathEntry.keeps_of_gives h) hafter
  exact ⟨front, back, own, changed, rfl, rfl, hfront, hown, hchanged, hback⟩

/-- **The operations of a specification**, if all references of operations can be looked up and no number is
too long.  They are those of the entries whose key is a method and whose value a mapping, one for each in the
order of the document.  An edit of what stands under one key of the paths changes those of that entry, and
others only if one of their references meets it. -/
theorem operations_extracted {spec : Specification}
    (h : Operation.AllCanLookUp spec.document spec.entries) (hspec : spec.IsSpellable) :
    ∃ operations, spec.operations = .ok operations ∧
      Selects PathEntry.IsOperation (PathEntry.Gives spec.document) spec.entries operations ∧
        ∀ (edit : PathsEdit) (other : Specification) (others : List Operation), edit.Turns spec other →
          other.operations = .ok others → edit.Keeps spec.document other.document operations others := by
  rcases shownIf_operations h with ⟨operations, hoperations⟩ | ⟨hno, -⟩
  · refine ⟨operations, hoperations, selects_operations hoperations, ?_⟩
    exact fun edit other others hturns hothers => edit.keeps_operations hturns hoperations hothers
  · exact absurd hspec hno

/-! ## Examples -/

/-- A specification with some paths, and with a parameter that they can refer to. -/
def specificationOf (paths : Entries) : Specification :=
  { Specification.ofBaseUrl .null with
    paths
    document := .map [(.text "paths", .map paths), (.text "limit", parameterNamed (.text "limit") "query")] }

lemma turns_specificationOf (edit : PathsEdit) :
    edit.Turns (specificationOf edit.source) (specificationOf edit.result) where
  source := rfl
  result := rfl
  document := .inr ⟨_, rfl, rfl, rfl⟩

/-- A path with a parameter, an operation, and something that is none. -/
def petsItem : Value :=
  .map [(.text "parameters", .list [Resolver.referring "#/limit"]), (.text "Get", .map []),
    (.text "trace", .map [])]

/-- Of two paths the second is taken out. -/
def closingShops : PathsEdit :=
  .delete [(.text "/pets", petsItem)] (.text "/shops") (.map [(.text "post", .map [])]) []

/-- There are two operations before and one after. -/
theorem operations_extracted_pets :
    Operation.AllCanLookUp (specificationOf closingShops.source).document
        (specificationOf closingShops.source).entries ∧
      (specificationOf closingShops.source).IsSpellable ∧
      closingShops.Turns (specificationOf closingShops.source) (specificationOf closingShops.result) ∧
      ∃ operations others, (specificationOf closingShops.source).operations = .ok operations ∧
        (specificationOf closingShops.result).operations = .ok others ∧
        operations.map Operation.label = ["GET /pets", "POST /shops"] ∧
        others.map Operation.label = ["GET /pets"] ∧
        closingShops.Keeps (specificationOf closingShops.source).document
          (specificationOf closingShops.result).document operations others := by
  have hlookups : Operation.AllCanLookUp (specificationOf closingShops.source).document
      (specificationOf closingShops.source).entries :=
    Operation.allCanLookUp_of_mappings (by decide +kernel)
  have hspec : (specificationOf closingShops.source).IsSpellable := by constructor <;> decide +kernel
  have hlabels : (specificationOf closingShops.source).operations.toOption.map (·.map Operation.label) =
      some [("GET /pets" : Text), "POST /shops"] := by decide +kernel
  have hless : (specificationOf closingShops.result).operations.toOption.map (·.map Operation.label) =
      some [("GET /pets" : Text)] := by decide +kernel
  obtain ⟨others, hothers, hless⟩ := Option.map_eq_some_iff.mp hless
  obtain ⟨operations, hoperations, -, hedits⟩ := operations_extracted hlookups hspec
  rw [hoperations] at hlabels
  have hturns := turns_specificationOf closingShops
  exact ⟨hlookups, hspec, hturns, operations, others, hoperations, eq_ok_of_toOption hothers,
    Option.some.inj hlabels, hless, hedits _ _ _ hturns (eq_ok_of_toOption hothers)⟩

/-- **A reference of an operation**: of one of its parameters or of those of its path, or of its body. -/
def PathEntry.RefersTo (entry : PathEntry) (pointer : Text) : Prop :=
  ∃ method raw, entry.Declares method raw ∧
    ((∃ parameter ∈ entry.shared ++ Operation.items (raw.getD "parameters"),
        parameter.pointer? = some pointer) ∨
      (raw.getD "requestBody").pointer? = some pointer)

/-- An entry of the paths that reads as the name of a parameter is taken out. -/
def unnaming : PathsEdit :=
  .delete [(.text "/a", .map [(.text "get",
    .map [(.text "parameters", .list [Resolver.referring "#/paths"])])])] (.text "name") (.text "x") []

/-- **An operation can change although none of its references points into the entry that is taken out**: its
parameter is the mapping of all paths, and loses its name. -/
theorem operations_of_paths :
    unnaming.Turns (specificationOf unnaming.source) (specificationOf unnaming.result) ∧
      (∀ entry ∈ (specificationOf unnaming.source).entries, ∀ pointer, entry.RefersTo pointer →
        ¬ PointsInto unnaming.key pointer) ∧
      ∃ operation other, (specificationOf unnaming.source).operations = .ok [operation] ∧
        (specificationOf unnaming.result).operations = .ok [other] ∧ operation ≠ other := by
  have honly : ∀ entry ∈ (specificationOf unnaming.source).entries, ∀ raw ∈ entry.value.entries?,
      (∀ parameter ∈ entry.shared ++ Operation.items (raw.getD "parameters"),
        ∀ pointer ∈ parameter.pointer?, pointer = "#/paths") ∧
      ∀ pointer ∈ (raw.getD "requestBody").pointer?, pointer = "#/paths" := by decide +kernel
  have htokens : Pointer.tokens? "#/paths" = some [("paths" : Text)] := by decide
  refine ⟨turns_specificationOf unnaming, ?_, ?_⟩
  · rintro entry hentry pointer ⟨method, raw, ⟨-, hvalue⟩, hrefers⟩ ⟨name, rest, -, hinto⟩
    obtain ⟨hparameters, hbody⟩ := honly entry hentry raw (Value.entries?_eq_some_iff.mpr hvalue)
    obtain rfl : pointer = "#/paths" := by
      rcases hrefers with ⟨parameter, hparameter, hpointer⟩ | hpointer
      · exact hparameters parameter hparameter pointer hpointer
      · exact hbody pointer hpointer
    cases Option.some.inj (htokens.symm.trans hinto)
  · have hnamed : (specificationOf unnaming.source).operations.toOption.map
        (·.map fun operation => operation.parameters.map (·.name)) = some [[("x" : Text)]] := by
      decide +kernel
    have hunnamed : (specificationOf unnaming.result).operations.toOption.map
        (·.map fun operation => operation.parameters.map (·.name)) = some [[([] : Text)]] := by
      decide +kernel
    obtain ⟨operations, hoperations, hnames⟩ := Option.map_eq_some_iff.mp hnamed
    obtain ⟨others, hothers, hless⟩ := Option.map_eq_some_iff.mp hunnamed
    obtain ⟨operation, rfl, hname⟩ := List.map_eq_singleton_iff.mp hnames
    obtain ⟨other, rfl, hnone⟩ := List.map_eq_singleton_iff.mp hless
    refine ⟨operation, other, eq_ok_of_toOption hoperations, eq_ok_of_toOption hothers, ?_⟩
    rintro rfl
    rw [hname] at hnone
    cases hnone

end LoadPlan
