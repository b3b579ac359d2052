import LoadPlan.Proofs.Distinct
import LoadPlan.Proofs.Operation.Listing
import LoadPlan.Proofs.Schema.Addressing
import LoadPlan.Proofs.Schema.Calls
import LoadPlan.Proofs.Value.Spelling
import Mathlib.Data.List.Induction

/-!
# Parameters are merged by name and place

An operation has the parameters of its path and its own.  Each entry of the two lists stands for a mapping, if
it is one or refers to one, and of several mappings with the same name and place the last one counts, where
the first one stood.

* `Value.pointer?`, `StandsFor`, `dereference_eq_some_iff` — the mapping that an entry stands for.
* `CanLookUp`, `exists_dereference_iff` — entries whose references can be looked up.
* `Defines`, `definitions_cases` — the definitions in a list of entries, and when there are any.
* `ParameterDefinition.key`, `IsMergeOf` — what tells definitions apart, and definitions put together.
* **`parameters_merged`** — what the parameters of an operation are.
* **`merge_longName`** — there is no list when the name of a parameter has no text.
-/

namespace LoadPlan

/-! ## References -/

/-- The reference of a mapping that refers to another place. -/
def Value.pointer? : Value → Option Text
  | .map entries =>
    match Entries.get? "$ref" entries with
    | some (.text pointer) => some pointer
    | _ => none
  | _ => none

/-- **The mapping that a value stands for**: itself, or the one that it refers to. -/
inductive StandsFor (document : Value) : Value → Entries → Prop where
  /-- A mapping that does not refer to another place. -/
  | own {entries : Entries} (h : (Value.map entries).pointer? = none) :
    StandsFor document (.map entries) entries
  /-- What a reference leads to. -/
  | referred {raw : Value} {pointer : Text} {entries : Entries} (h : raw.pointer? = some pointer)
    (hleads : Pointer.LeadsTo document pointer entries) : StandsFor document raw entries

/-- A value whose reference, if it has one, can be looked up. -/
def CanLookUp (document raw : Value) : Prop :=
  ∀ pointer, raw.pointer? = some pointer → Pointer.HasPositions document pointer

section

variable {document raw : Value}

/-- A reference is looked up, and everything else stays what it is. -/
lemma dereference_eq (document raw : Value) :
    dereference document raw =
      match raw.pointer? with
      | some pointer => Pointer.target document pointer
      | none => .ok raw.entries? := by
  cases raw with
  | map entries =>
      rw [dereference, Value.pointer?]
      cases Entries.get? "$ref" entries with
      | none => rfl
      | some value => cases value <;> rfl
  | _ => rfl

/-- **What a value is found to stand for.** -/
lemma dereference_eq_some_iff {entries : Entries} :
    dereference document raw = .ok (some entries) ↔ StandsFor document raw entries := by
  rw [dereference_eq]
  cases hpointer : raw.pointer? with
  | none =>
      dsimp only
      rw [Except.ok.injEq, Value.entries?_eq_some_iff]
      constructor
      · rintro rfl
        exact .own hpointer
      · rintro (_ | ⟨hsome, -⟩)
        · rfl
        · rw [hpointer] at hsome
          cases hsome
  | some pointer =>
      dsimp only
      rw [Pointer.target_eq_some_iff]
      constructor
      · exact .referred hpointer
      · rintro (hnone | ⟨hsome, hleads⟩)
        · rw [hpointer] at hnone
          cases hnone
        · obtain rfl := Option.some.inj (hpointer.symm.trans hsome)
          exact hleads

lemma exists_dereference_iff : (∃ found, dereference document raw = .ok found) ↔ CanLookUp document raw := by
  rw [dereference_eq, CanLookUp]
  cases hpointer : raw.pointer? with
  | none => exact iff_of_true ⟨_, rfl⟩ (by rintro pointer ⟨⟩)
  | some pointer =>
      dsimp only
      rw [Pointer.exists_target_iff]
      constructor
      · rintro h _ ⟨⟩
        exact h
      · exact fun h => h pointer rfl

instance decidableCanLookUp (document raw : Value) : Decidable (CanLookUp document raw) :=
  decidable_of_iff ((dereference document raw).toOption.isSome = true) (by
    rw [← exists_dereference_iff]
    cases dereference document raw <;> simp [Except.toOption])

end

/-! ## Definitions -/

/-- Whether what a mapping says of the name and the place of a parameter has a text. -/
def Entries.hasKeyTexts (entries : Entries) : Bool :=
  (entries.getD "name").isSpellable && (entries.getD "in").isSpellable

lemma spelled_shownAt (entries : Entries) (key : Text) :
    Spelled (entries.getD key).isSpellable (entries.shownAt key) := by
  unfold Entries.getD Entries.shownAt
  cases entries.get? key with
  | none => exact .ok []
  | some value => exact Value.spelled_shown value

namespace ParameterDefinition

/-- **What tells a parameter from others**: its name and its place. -/
def key (definition : ParameterDefinition) : Text × Text := (definition.name, definition.location)

lemma spelled_ofEntries (raw : Entries) : Spelled raw.hasKeyTexts (ofEntries raw) :=
  (spelled_shownAt raw "name").bind fun _ => (spelled_shownAt raw "in").map

/-- **The definition in an entry** of a list of parameters. -/
structure IsOf (document raw : Value) (definition : ParameterDefinition) : Prop where
  /-- The entry stands for all that the definition says. -/
  stands : StandsFor document raw definition.raw
  /-- The name is the text of what stands there under that key; without it, it is empty. -/
  name : definition.raw.shownAt "name" = .ok definition.name
  /-- So is the place. -/
  location : definition.raw.shownAt "in" = .ok definition.location

lemma isOf_of_ofEntries {document raw : Value} {entries : Entries} {definition : ParameterDefinition}
    (hstands : StandsFor document raw entries) (h : ofEntries entries = .ok definition) :
    IsOf document raw definition := by
  obtain ⟨name, hname, h⟩ := exists_of_except_bind h
  obtain ⟨location, hlocation, h⟩ := exists_of_except_bind h
  obtain rfl := Except.ok.inj h
  exact ⟨hstands, hname, hlocation⟩

end ParameterDefinition

namespace Operation

/-- **The definitions in a list of entries**: one in each entry that stands for a mapping. -/
def Defines (document : Value) : List Value → List ParameterDefinition → Prop :=
  Selects (fun raw => ∃ entries, StandsFor document raw entries) (ParameterDefinition.IsOf document)

/-- In all mappings that entries stand for, what is said of names and places has a text. -/
def HaveKeyTexts (document : Value) (raws : List Value) : Prop :=
  ∀ raw ∈ raws, ∀ entries, StandsFor document raw entries → entries.hasKeyTexts = true

section

variable {document : Value}

lemma defines_of_definitions : ∀ {raws : List Value} {found : List ParameterDefinition},
    definitions document raws = .ok found → Defines document raws found
  | [], found, h => by
      obtain rfl := Except.ok.inj h
      exact .nil
  | raw :: rest, found, h => by
      obtain ⟨entries?, hentries, h⟩ := exists_of_except_bind h
      cases entries? with
      | none =>
          refine .drop ?_ (defines_of_definitions h)
          rintro ⟨entries, hstands⟩
          rw [dereference_eq_some_iff.mpr hstands] at hentries
          cases hentries
      | some entries =>
          obtain ⟨definition, hdefinition, h⟩ := exists_of_except_bind h
          obtain ⟨others, hothers, h⟩ := exists_of_except_bind h
          obtain rfl := Except.ok.inj h
          have hstands := dereference_eq_some_iff.mp hentries
          exact .keep ⟨entries, hstands⟩ (ParameterDefinition.isOf_of_ofEntries hstands hdefinition)
            (defines_of_definitions hothers)

/-- **There are definitions exactly if names and places have texts**, provided that references can be looked
up. -/
lemma definitions_cases : ∀ {raws : List Value}, (∀ raw ∈ raws, CanLookUp document raw) →
    (HaveKeyTexts document raws ∧ ∃ found, definitions document raws = .ok found) ∨
      (¬ HaveKeyTexts document raws ∧ definitions document raws = .error .tooManyDigits)
  | [], _ => .inl ⟨List.forall_mem_nil _, [], rfl⟩
  | raw :: rest, h => by
      rw [List.forall_mem_cons] at h
      obtain ⟨entries?, hentries⟩ := exists_dereference_iff.mpr h.1
      have hrest := definitions_cases h.2
      rw [definitions, hentries, HaveKeyTexts, List.forall_mem_cons]
      cases entries? with
      | none =>
          have hnone : ∀ entries, StandsFor document raw entries → entries.hasKeyTexts = true := by
            intro entries hstands
            rw [dereference_eq_some_iff.mpr hstands] at hentries
            cases hentries
          rw [and_iff_right hnone]
          exact hrest
      | some entries =>
          have hfirst : (∀ entries, StandsFor document raw entries → entries.hasKeyTexts = true) ↔
              entries.hasKeyTexts = true := by
            refine ⟨fun hall => hall entries (dereference_eq_some_iff.mp hentries), ?_⟩
            intro htexts other hother
            rw [dereference_eq_some_iff.mpr hother] at hentries
            obtain rfl := Option.some.inj (Except.ok.inj hentries)
            exact htexts
          rw [hfirst]
          show (_ ∧ ∃ found, (ParameterDefinition.ofEntries entries >>= fun definition =>
              definitions document rest >>= fun others => pure (definition :: others)) = .ok found) ∨
            (_ ∧ (ParameterDefinition.ofEntries entries >>= fun definition =>
              definitions document rest >>= fun others => pure (definition :: others)) = _)
          rcases ParameterDefinition.spelled_ofEntries entries with ⟨htexts, definition, hdefinition⟩ |
            ⟨htexts, hfault⟩
          · rw [hdefinition, ok_bind]
            rcases hrest with ⟨hothers, found, hfound⟩ | ⟨hothers, hfault⟩
            · rw [hfound]
              exact .inl ⟨⟨htexts, hothers⟩, _, rfl⟩
            · rw [hfault]
              exact .inr ⟨fun hall => hothers hall.2, rfl⟩
          · rw [hfault, htexts]
            exact .inr ⟨fun hall => Bool.false_ne_true hall.1, rfl⟩

end

end Operation

/-! ## Merging -/

namespace ParameterDefinition

section

variable {definition other : ParameterDefinition}

lemma isSame_iff : other.isSame definition = true ↔ other.key = definition.key := by
  rw [isSame, Bool.and_eq_true, decide_eq_true_eq, decide_eq_true_eq, key, key, Prod.mk.injEq]

/-- A definition is added at the end unless there is one for the parameter. -/
lemma map_key_addTo (definition : ParameterDefinition) : ∀ merged : List ParameterDefinition,
    (definition.addTo merged).map key =
      if definition.key ∈ merged.map key then merged.map key else merged.map key ++ [definition.key]
  | [] => rfl
  | old :: rest => by
      rw [addTo]
      by_cases hsame : old.key = definition.key
      · rw [if_pos (isSame_iff.mpr hsame), List.map_cons, List.map_cons, hsame, if_pos List.mem_cons_self]
      · rw [if_neg (mt isSame_iff.mp hsame), List.map_cons, List.map_cons, map_key_addTo definition rest]
        by_cases hmem : definition.key ∈ rest.map key
        · rw [if_pos hmem, if_pos (List.mem_cons_of_mem _ hmem)]
        · rw [if_neg hmem, if_neg (List.not_mem_cons_of_ne_of_not_mem (Ne.symm hsame) hmem)]
          rfl

/-- Whether a definition is for a parameter. -/
def isFor (k : Text × Text) (definition : ParameterDefinition) : Bool := definition.key = k

lemma find?_isFor_cons (k : Text × Text) (definition : ParameterDefinition)
    (rest : List ParameterDefinition) : (definition :: rest).find? (isFor k) =
      if definition.key = k then some definition else rest.find? (isFor k) := by
  rw [List.find?_cons, isFor]
  split_ifs with hkey <;> simp [hkey]

/-- A definition that is added is the one for its parameter. -/
lemma find?_addTo (definition : ParameterDefinition) (k : Text × Text) :
    ∀ merged : List ParameterDefinition, (definition.addTo merged).find? (isFor k) =
      if definition.key = k then some definition else merged.find? (isFor k)
  | [] => by rw [addTo, find?_isFor_cons]
  | old :: rest => by
      rw [addTo, find?_isFor_cons k old rest]
      by_cases hsame : old.key = definition.key
      · rw [if_pos (isSame_iff.mpr hsame), find?_isFor_cons, hsame]
        split_ifs <;> rfl
      · rw [if_neg (mt isSame_iff.mp hsame), find?_isFor_cons, find?_addTo definition k rest]
        by_cases hkey : definition.key = k
        · rw [if_pos hkey, if_pos hkey, if_neg (hkey ▸ hsame)]
        · rw [if_neg hkey, if_neg hkey]

end

/-- Some definitions put together, one after another. -/
def mergeAll (found : List ParameterDefinition) : List ParameterDefinition :=
  found.foldl (fun merged definition => definition.addTo merged) []

lemma mergeAll_concat (found : List ParameterDefinition) (definition : ParameterDefinition) :
    mergeAll (found ++ [definition]) = definition.addTo (mergeAll found) :=
  List.foldl_concat _ [] definition found

lemma map_key_mergeAll (found : List ParameterDefinition) :
    (mergeAll found).map key = (found.map key).eraseDups := by
  induction found using List.reverseRecOn with
  | nil => rfl
  | append_singleton found definition ih =>
      rw [mergeAll_concat, map_key_addTo, ih, List.map_append, List.map_singleton, eraseDups_concat]
      simp only [List.mem_eraseDups]

/-- The last definition for a parameter counts. -/
lemma find?_mergeAll (k : Text × Text) (found : List ParameterDefinition) :
    (mergeAll found).find? (isFor k) = found.reverse.find? (isFor k) := by
  induction found using List.reverseRecOn with
  | nil => rfl
  | append_singleton found definition ih =>
      rw [mergeAll_concat, find?_addTo, ih, List.reverse_concat, find?_isFor_cons]

/-- **The definitions of a path and of an operation on it put together.** -/
structure IsMergeOf (shared own merged : List ParameterDefinition) : Prop where
  /-- No two are for the same parameter. -/
  distinct : (merged.map key).Nodup
  /-- They are for the parameters of both, in the order in which these come up first. -/
  keys_eq : merged.map key = ((shared ++ own).map key).eraseDups
  /-- Parameters of the path keep their places. -/
  kept : (shared.map key).eraseDups <+: merged.map key
  /-- The last definition of the operation counts, and without one the last definition of the path. -/
  find?_eq : ∀ k, merged.find? (isFor k) =
    (own.reverse.find? (isFor k)).or (shared.reverse.find? (isFor k))

lemma isMergeOf_mergeAll (shared own : List ParameterDefinition) :
    IsMergeOf shared own (mergeAll (shared ++ own)) where
  distinct := by
    rw [map_key_mergeAll]
    exact nodup_eraseDups _
  keys_eq := map_key_mergeAll _
  kept := by
    rw [map_key_mergeAll, List.map_append, List.eraseDups_append]
    exact List.prefix_append _ _
  find?_eq k := by rw [find?_mergeAll, List.reverse_append, List.find?_append]

end ParameterDefinition

namespace Operation

section

variable {document : Value} {ofPath ofOperation : List Value} {merged : List ParameterDefinition}

lemma isMergeOf_of_merge (h : merge document ofPath ofOperation = .ok merged) :
    ∃ shared own, Defines document ofPath shared ∧ Defines document ofOperation own ∧
      ParameterDefinition.IsMergeOf shared own merged := by
  rw [merge] at h
  cases hfound : definitions document (ofPath ++ ofOperation) with
  | error fault =>
      rw [hfound] at h
      cases h
  | ok found =>
      rw [hfound] at h
      obtain rfl := Except.ok.inj h
      obtain ⟨shared, own, rfl, hshared, hown⟩ := (defines_of_definitions hfound).exists_of_append
      exact ⟨shared, own, hshared, hown, ParameterDefinition.isMergeOf_mergeAll shared own⟩

/-- The definitions are put together exactly if names and places have texts. -/
lemma merge_cases (h : ∀ raw ∈ ofPath ++ ofOperation, CanLookUp document raw) :
    (HaveKeyTexts document (ofPath ++ ofOperation) ∧
      ∃ merged, merge document ofPath ofOperation = .ok merged) ∨
    (¬ HaveKeyTexts document (ofPath ++ ofOperation) ∧
      merge document ofPath ofOperation = .error .tooManyDigits) := by
  rw [merge]
  rcases definitions_cases h with ⟨htexts, found, hfound⟩ | ⟨htexts, hfault⟩
  · rw [hfound]
    exact .inl ⟨htexts, _, rfl⟩
  · rw [hfault]
    exact .inr ⟨htexts, rfl⟩

/-- The parameters of an extracted operation are told apart by their names and places. -/
lemma nodup_parameters {spec : Specification} {operations : List Operation}
    (h : spec.operations = .ok operations) {operation : Operation} (hmem : operation ∈ operations) :
    (operation.parameters.map fun parameter => (parameter.name, parameter.location)).Nodup := by
  obtain ⟨entry, -, -, ⟨⟨raw, -, hmade⟩, -⟩⟩ := (selects_operations h).exists_of_mem operation hmem
  obtain ⟨-, -, merged, hmerged, hparameters⟩ := of_ofMapping hmade
  obtain ⟨shared, own, -, -, hmerge⟩ := isMergeOf_of_merge hmerged
  rw [hparameters, List.map_map]
  exact hmerge.distinct

end

end Operation

open Operation

/-- **The parameters of a path and of an operation on it**, if all references in the two lists can be looked
up.  There is a list of them exactly if names and places have texts; it holds the definitions of both lists,
put together by name and place.  Whatever operations a specification has, no two parameters of one of them
have the same name and place. -/
theorem parameters_merged {document : Value} {ofPath ofOperation : List Value}
    (h : ∀ raw ∈ ofPath ++ ofOperation, CanLookUp document raw) :
    ((HaveKeyTexts document (ofPath ++ ofOperation) ∧
        ∃ shared own merged, merge document ofPath ofOperation = .ok merged ∧
          Defines document ofPath shared ∧ Defines document ofOperation own ∧
          ParameterDefinition.IsMergeOf shared own merged) ∨
      (¬ HaveKeyTexts document (ofPath ++ ofOperation) ∧
        merge document ofPath ofOperation = .error .tooManyDigits)) ∧
    ∀ (spec : Specification) (operations : List Operation), spec.operations = .ok operations →
      ∀ operation ∈ operations,
        (operation.parameters.map fun parameter => (parameter.name, parameter.location)).Nodup := by
  refine ⟨?_, fun spec operations hspec operation hmem => nodup_parameters hspec hmem⟩
  rcases merge_cases h with ⟨htexts, merged, hmerged⟩ | hfault
  · obtain ⟨shared, own, hshared, hown, hmerge⟩ := isMergeOf_of_merge hmerged
    exact .inl ⟨htexts, shared, own, merged, hmerged, hshared, hown, hmerge⟩
  · exact .inr hfault

/-! ## Examples -/

/-- A document with a parameter that others refer to. -/
def pagedDocument : Value :=
  .map [(.text "page", .map [(.text "name", .text "page"), (.text "in", .text "query")])]

/-- A parameter with a name and a place. -/
def parameterNamed (name : Value) (place : Text) : Value :=
  .map [(.text "name", name), (.text "in", .text place)]

/-- The parameters of a path. -/
def pathParameters : List Value := [parameterNamed (.text "id") "path", Resolver.referring "#/page"]

/-- The parameters of an operation on it: one of the path again, a reference to nothing, and no mapping. -/
def ownParameters : List Value :=
  [Resolver.referring "#/none", parameterNamed (.text "id") "path", .null,
    parameterNamed (.text "id") "query"]

/-- The operation has three parameters. -/
theorem parameters_merged_paged :
    (∀ raw ∈ pathParameters ++ ownParameters, CanLookUp pagedDocument raw) ∧
      ∃ shared own merged, merge pagedDocument pathParameters ownParameters = .ok merged ∧
        Defines pagedDocument pathParameters shared ∧ Defines pagedDocument ownParameters own ∧
        ParameterDefinition.IsMergeOf shared own merged ∧ merged.length = 3 := by
  have hends : ∀ raw ∈ pathParameters ++ ownParameters, CanLookUp pagedDocument raw := by decide +kernel
  have hcount : (merge pagedDocument pathParameters ownParameters).toOption.map List.length = some 3 := by
    decide +kernel
  obtain ⟨⟨-, shared, own, merged, hmerged, hshared, hown, hmerge⟩ | ⟨-, hfault⟩, -⟩ :=
    parameters_merged hends
  · rw [hmerged] at hcount
    exact ⟨hends, shared, own, merged, hmerged, hshared, hown, hmerge, Option.some.inj hcount⟩
  · rw [hfault] at hcount
    cases hcount

lemma not_haveKeyTexts_named {document name : Value} {place : Text} (h : name.isSpellable = false) :
    ¬ HaveKeyTexts document [parameterNamed name place] := by
  intro htexts
  have hstands : StandsFor document (parameterNamed name place)
      [(.text "name", name), (.text "in", .text place)] := .own rfl
  have hfirst : (name.isSpellable && _) = true := htexts _ (List.mem_singleton_self _) _ hstands
  rw [h, Bool.false_and] at hfirst
  cases hfirst

/-- The least number without a text. -/
def nameWithoutText : Value := .int (Nat.pow 10 maxDigits : Nat)

/-- **There can be no list of parameters although there is nothing to look up**, when a name is a number that
is too long. -/
theorem merge_longName :
    (∃ entries, parameterNamed nameWithoutText "query" = .map entries) ∧
      (parameterNamed nameWithoutText "query").pointer? = none ∧
        ∀ document, merge document [] [parameterNamed nameWithoutText "query"] = .error .tooManyDigits := by
  refine ⟨⟨_, rfl⟩, rfl, fun document => ?_⟩
  have hname : nameWithoutText.isSpellable = false := by
    rw [nameWithoutText, Value.isSpellable, decide_eq_false_iff_not, Int.natAbs_natCast]
    exact Nat.lt_irrefl _
  have hends : ∀ raw ∈ [] ++ [parameterNamed nameWithoutText "query"], CanLookUp document raw :=
    List.forall_mem_singleton.mpr (by rintro pointer ⟨⟩)
  rcases merge_cases hends with ⟨htexts, -⟩ | ⟨-, hfault⟩
  · exact absurd htexts (not_haveKeyTexts_named hname)
  · exact hfault

end LoadPlan
