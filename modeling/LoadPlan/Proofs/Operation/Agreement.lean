import LoadPlan.Proofs.Operation.Reading

/-!
# What is read of the mappings that an operation refers to

An operation refers to mappings elsewhere in the document, those of its parameters and of its body.  Of each
of them only a few keys are read, so two documents that agree there have the same to say about the operation.

* `Entries.AgreeAt` — mappings with the same under some keys.
* `parameterKeys`, `bodyKeys` — the keys that are read of a parameter and of a body.
* `ParameterDefinition.ReadsAs` — definitions that are read alike.
* `Operation.sameEnd_merge`, `Operation.sameEnd_body` — what is made of mappings that agree is read alike.
* **`Operation.ofMapping_eq`** — an operation stays the same if all that is read of what it refers to does.
-/

namespace LoadPlan

open Report (SameEnd)

/-! ## Mappings that agree -/

namespace Entries

/-- **Mappings with the same under some keys.** -/
def AgreeAt (keys : List Text) (entries other : Entries) : Prop :=
  ∀ key ∈ keys, Entries.get? key entries = Entries.get? key other

section

variable {keys : List Text} {entries other : Entries} {key : Text}

lemma agreeAt_refl (keys : List Text) (entries : Entries) : AgreeAt keys entries entries := fun _ _ => rfl

lemma AgreeAt.getD (h : AgreeAt keys entries other) (key : Text) (hkey : key ∈ keys) :
    Entries.getD entries key = Entries.getD other key := by
  rw [Entries.getD, Entries.getD, h key hkey]

lemma AgreeAt.shownAt (h : AgreeAt keys entries other) (hkey : key ∈ keys) :
    Entries.shownAt entries key = Entries.shownAt other key := by
  rw [Entries.shownAt, Entries.shownAt, h key hkey]

lemma AgreeAt.isText (h : AgreeAt keys entries other) (hkey : key ∈ keys) (text : Text) :
    Entries.isText entries key text = Entries.isText other key text := by
  rw [Entries.isText, Entries.isText, h key hkey]

end

end Entries

open Entries (AgreeAt agreeAt_refl)

/-- A mapping that may be missing is read like itself. -/
lemma sameEnd_agreeAt (keys : List Text) (outcome : Except Fault (Option Entries)) :
    SameEnd (Option.Rel (AgreeAt keys)) outcome outcome := by
  refine SameEnd.refl (fun found => ?_) outcome
  cases found with
  | none => exact .none
  | some entries => exact .some (agreeAt_refl keys entries)

/-! ## What is read of parameters and bodies -/

/-- The keys that are read of a parameter. -/
def parameterKeys : List Text := ["name", "in", "required", "example", "schema", "default"]

/-- The key that is read of a body. -/
def bodyKeys : List Text := ["content"]

namespace ParameterDefinition

/-- **Definitions that are read alike.** -/
structure ReadsAs (definition other : ParameterDefinition) : Prop where
  /-- The names are the same. -/
  name : definition.name = other.name
  /-- The places are the same. -/
  location : definition.location = other.location
  /-- So is what stands under the keys that are read. -/
  raw : AgreeAt parameterKeys definition.raw other.raw

section

variable {definition other : ParameterDefinition} {found others : List ParameterDefinition}

lemma sameEnd_ofEntries {entries more : Entries} (h : AgreeAt parameterKeys entries more) :
    SameEnd ReadsAs (ofEntries entries) (ofEntries more) := by
  rw [ofEntries, ofEntries, h.shownAt (by decide), h.shownAt (by decide)]
  exact SameEnd.bind _ fun name => SameEnd.bind _ fun location => ⟨rfl, rfl, h⟩

/-- Definitions that are read alike are of the same parameter. -/
lemma ReadsAs.parameter_eq (h : ReadsAs definition other) : definition.parameter = other.parameter := by
  have hsample : definition.sample = other.sample := by
    rw [sample, sample, h.raw.getD "example" (by decide), h.raw.getD "schema" (by decide),
      h.raw.getD "default" (by decide)]
  rw [parameter, parameter, h.name, h.location, h.raw.getD "required" (by decide), hsample]

lemma forall₂_addTo (h : ReadsAs definition other) {merged more : List ParameterDefinition}
    (hmerged : List.Forall₂ ReadsAs merged more) :
    List.Forall₂ ReadsAs (definition.addTo merged) (other.addTo more) := by
  induction hmerged with
  | nil => exact .cons h .nil
  | @cons old young _ _ hold hrest ih =>
      have hsame : old.isSame definition = young.isSame other := by
        rw [isSame, isSame, hold.name, hold.location, h.name, h.location]
      rw [addTo, addTo, hsame]
      split_ifs
      · exact .cons h hrest
      · exact .cons hold ih

lemma forall₂_mergeAll (h : List.Forall₂ ReadsAs found others) :
    List.Forall₂ ReadsAs (mergeAll found) (mergeAll others) := by
  have hfold : ∀ {found others merged more : List ParameterDefinition}, List.Forall₂ ReadsAs found others →
      List.Forall₂ ReadsAs merged more →
        List.Forall₂ ReadsAs (found.foldl (fun merged definition => definition.addTo merged) merged)
          (others.foldl (fun merged definition => definition.addTo merged) more) := by
    intro found others merged more hfound
    induction hfound generalizing merged more with
    | nil => exact id
    | cons hfirst _ ih => exact fun hmerged => ih (forall₂_addTo hfirst hmerged)
  exact hfold h .nil

lemma isSome_eq_of_rel {first second : Option ParameterDefinition} (h : Option.Rel ReadsAs first second) :
    first.isSome = second.isSome := by
  cases h <;> rfl

/-- The same parameter is found by what is read. -/
lemma rel_find? {test : ParameterDefinition → Bool} (htest : ∀ d e, ReadsAs d e → test d = test e)
    (h : List.Forall₂ ReadsAs found others) : Option.Rel ReadsAs (found.find? test) (others.find? test) := by
  induction h with
  | nil => exact .none
  | @cons d e _ _ hfirst _ ih =>
      rw [List.find?_cons, List.find?_cons, htest d e hfirst]
      cases test e with
      | true => exact .some hfirst
      | false => exact ih

end

end ParameterDefinition

open ParameterDefinition (ReadsAs)

namespace Operation

section

variable {document other : Value}

lemma sameEnd_definitions : ∀ {raws : List Value},
    (∀ raw ∈ raws, SameEnd (Option.Rel (AgreeAt parameterKeys)) (dereference document raw)
      (dereference other raw)) →
      SameEnd (List.Forall₂ ReadsAs) (definitions document raws) (definitions other raws)
  | [], _ => .nil
  | raw :: rest, h => by
      rw [List.forall_mem_cons] at h
      refine SameEnd.follow h.1 fun found more hfound => ?_
      cases hfound with
      | none => exact sameEnd_definitions h.2
      | some hagree =>
          refine SameEnd.follow (ParameterDefinition.sameEnd_ofEntries hagree) fun first second hfirst => ?_
          exact SameEnd.follow (sameEnd_definitions h.2) fun _ _ hothers => .cons hfirst hothers

lemma merge_eq (document : Value) (ofPath ofOperation : List Value) :
    merge document ofPath ofOperation =
      definitions document (ofPath ++ ofOperation) >>= fun found =>
        pure (ParameterDefinition.mergeAll found) := by
  rw [merge]
  cases definitions document (ofPath ++ ofOperation) <;> rfl

lemma sameEnd_merge {ofPath ofOperation : List Value}
    (h : ∀ raw ∈ ofPath ++ ofOperation, SameEnd (Option.Rel (AgreeAt parameterKeys))
      (dereference document raw) (dereference other raw)) :
    SameEnd (List.Forall₂ ReadsAs) (merge document ofPath ofOperation) (merge other ofPath ofOperation) := by
  rw [merge_eq, merge_eq]
  exact SameEnd.follow (sameEnd_definitions h) fun _ _ => ParameterDefinition.forall₂_mergeAll

lemma bodyOfParameters_eq {parameters more : List ParameterDefinition}
    (h : List.Forall₂ ReadsAs parameters more) : bodyOfParameters parameters = bodyOfParameters more := by
  have hfind : ∀ text, Option.Rel ReadsAs (parameters.find? (·.raw.isText "in" text))
      (more.find? (·.raw.isText "in" text)) := fun text =>
    ParameterDefinition.rel_find? (fun d e hread => hread.raw.isText (by decide) text) h
  have hany : parameters.any (·.raw.isText "in" "formData") = more.any (·.raw.isText "in" "formData") := by
    rw [← List.isSome_find?, ← List.isSome_find?]
    exact ParameterDefinition.isSome_eq_of_rel (hfind "formData")
  have hbody := hfind "body"
  rw [bodyOfParameters, bodyOfParameters, hany]
  generalize parameters.find? _ = first at hbody ⊢
  generalize more.find? _ = second at hbody ⊢
  cases hbody with
  | none => rfl
  | some hread =>
      dsimp only
      rw [hread.raw.getD "schema" (by decide)]

lemma sameEnd_body {raw : Entries} {parameters more : List ParameterDefinition}
    (h : SameEnd (Option.Rel (AgreeAt bodyKeys)) (dereference document (raw.getD "requestBody"))
      (dereference other (raw.getD "requestBody")))
    (hparameters : List.Forall₂ ReadsAs parameters more) :
    SameEnd Eq (body document raw parameters) (body other raw more) := by
  refine SameEnd.follow h fun found second hfound => ?_
  have hcontent : (found.bind fun entries : Entries => (entries.getD "content").entries?) =
      second.bind fun entries : Entries => (entries.getD "content").entries? := by
    cases hfound with
    | none => rfl
    | some hagree =>
        rw [Option.bind_some, Option.bind_some, hagree.getD "content" (by decide)]
  rw [hcontent, bodyOfParameters_eq hparameters]
  exact SameEnd.refl (fun _ => rfl) _

/-- **An operation stays the same** when all that is read of what it refers to does. -/
lemma ofMapping_eq {path : Value} {ofPath : List Value} {method : Method} {raw : Entries}
    (hparameters : ∀ parameter ∈ ofPath ++ items (raw.getD "parameters"),
      SameEnd (Option.Rel (AgreeAt parameterKeys)) (dereference document parameter)
        (dereference other parameter))
    (hbody : SameEnd (Option.Rel (AgreeAt bodyKeys)) (dereference document (raw.getD "requestBody"))
      (dereference other (raw.getD "requestBody"))) :
    ofMapping document path ofPath method raw = ofMapping other path ofPath method raw := by
  refine SameEnd.eq (SameEnd.follow (sameEnd_merge hparameters) fun merged more hmerged => ?_)
  refine SameEnd.follow (sameEnd_body hbody hmerged) ?_
  rintro ⟨requestBody?, contentType⟩ _ rfl
  have hsame : merged.map ParameterDefinition.parameter = more.map ParameterDefinition.parameter := by
    induction hmerged with
    | nil => rfl
    | cons hfirst _ ih => rw [List.map_cons, List.map_cons, hfirst.parameter_eq, ih]
  rw [hsame]
  exact SameEnd.refl (fun _ => rfl) _

end

end Operation

end LoadPlan
