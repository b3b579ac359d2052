import LoadPlan.Proofs.Plan.Recovery
import LoadPlan.Proofs.Plan.Written
import LoadPlan.Proofs.Text.Hash
import Mathlib.Data.List.Forall2

/-!
# Names of the texts to be found in a response

Each text that is to be found in a response is a property of its own, which is named by the hash of the text.
The program that runs a plan names it by the hash over the units of the text.

* `IsHash` — what is true of the hash of a text.
* **`testStrings_named`** — every text has such a hash, and every text to be found is named by it.
* `face_named` — a text of one code point beyond the first plane has another name than its units ask for.
-/

namespace LoadPlan

/-- **The hash of a text**: a number of 32 bits, which is the polynomial of the code points.  That is the hash
over units exactly if that polynomial and the one of the units are the same in 32 bits.  So it is if there is one
unit for each code point, and it is not if there are two for the first of them only. -/
structure Text.IsHash (t : Text) (h : Int) : Prop where
  /-- The polynomial of the code points is wrapped once. -/
  wrapped : h = wrap32 (polynomial (t.map Rune.code))
  /-- The hash is not below the smallest number of 32 bits. -/
  lower : -2 ^ 31 ≤ h
  /-- The hash is not above the largest number of 32 bits. -/
  upper : h < 2 ^ 31
  /-- The hash is that over units exactly if the two polynomials differ by a multiple of the wrap. -/
  eq_iff : h = t.unitHash ↔
    (2 ^ 32 : Int) ∣ (polynomial (t.map Rune.code) : Int) - (polynomial t.units : Int)
  /-- The hash of a text of the first plane is that over its units. -/
  units : (∀ r ∈ t, r.code < 0x10000) → h = t.unitHash
  /-- Where only the first code point can be beyond that plane, it decides. -/
  units_iff : ∀ r rest, t = r :: rest → (∀ s ∈ rest, s.code < 0x10000) →
    (h = t.unitHash ↔ r.code < 0x10000)

lemma Text.isHash_hash (t : Text) : t.IsHash t.hash where
  wrapped := hash_eq t
  lower := hash_eq t ▸ (wrap32_range _).1
  upper := hash_eq t ▸ (wrap32_range _).2
  eq_iff := by rw [hash_eq, unitHash, wrap32_eq_iff]
  units := hash_eq_unitHash
  units_iff := by
    rintro r rest rfl hrest
    refine ⟨fun heq => ?_, fun hr => hash_eq_unitHash (List.forall_mem_cons.mpr ⟨hr, hrest⟩)⟩
    by_contra hr
    exact hash_ne_unitHash (Nat.not_lt.mp hr) hrest heq

namespace Plan

/-- **A text to be found is a property with its hash for a name.**  The text itself is written without what XML
cannot carry. -/
structure NamesTestString (value : Value) (part : Markup) : Prop where
  /-- The name is a hash of the text. -/
  name : ∃ t h, value = .text t ∧ t.IsHash h ∧ part.attribute? "name" = some (Text.ofInt h)
  /-- The text is that of the property. -/
  text : part.inner? = some value.asText.legal

lemma namesTestString_testStringOutline : ∀ {value : Value}, value.isText = true →
    NamesTestString value (testStringOutline value)
  | .text t, _ => ⟨⟨t, t.hash, rfl, t.isHash_hash, attribute?_textLeaf _ _⟩, inner?_textLeaf _ _⟩

/-- **Hashes of texts.**  Every text has a hash, and whatever is written for a check of a response names each
text that is to be found by its hash. -/
theorem testStrings_named (t : Text) (assertion : ResponseAssertion) :
    t.IsHash t.hash ∧ ∀ (element : Text) (parts : List Markup),
      (assertion.properties element).outcome = .ok parts →
        ∃ strings, partsAt? "Asserion.test_strings" parts = some strings ∧
          List.Forall₂ NamesTestString assertion.testStrings strings := by
  refine ⟨t.isHash_hash, fun element parts hparts => ?_⟩
  have hwritten : ((Settings.responseAssertion assertion).properties element).outcome = .ok parts := hparts
  obtain ⟨⟨htexts, -⟩, rfl⟩ := Settings.properties_eq_ok_iff.mp hwritten
  refine ⟨assertion.testStrings.map testStringOutline, ?_, ?_⟩
  · simp [Settings.written, partsAt?, Markup.property?_cons]
  · rw [List.forall₂_map_right_iff, List.forall₂_same]
    intro value hvalue
    have hemitted : value ∈ (Settings.responseAssertion assertion).emittedTexts :=
      List.mem_append_left _ hvalue
    exact namesTestString_testStringOutline (htexts value hemitted)

/-- A check for a text that is to be found twice, and for a blank. -/
def codes : ResponseAssertion := { testStrings := [.text "200", .text "200", .text " "] }

/-- The code has a hash, and both of its occurrences are named by one. -/
theorem codes_named : Text.IsHash "200" (Text.hash "200") ∧
    ∃ strings, partsAt? "Asserion.test_strings" codes.outline = some strings ∧
      List.Forall₂ NamesTestString codes.testStrings strings := by
  have hmem : .of "Codes" (.responseAssertion codes) [] ∈ specimen.walk := by
    simp [specimen, Element.of, Element.walk, Element.walkAll, codes]
  have hwritten : ((Settings.responseAssertion codes).properties "Codes").outcome =
      .ok (Settings.responseAssertion codes).outline :=
    Settings.properties_outcome "Codes" (specimen_isTyped _ hmem).settings (specimen_hasDecimals _ hmem)
  obtain ⟨hhash, hnamed⟩ := testStrings_named "200" codes
  exact ⟨hhash, hnamed "Codes" codes.outline hwritten⟩

/-- A face, which is one code point and two units. -/
def face : Text := [Rune.ofCode 0x1F600]

/-- **A face is not named by the hash over its units.** -/
theorem face_named : (∀ r ∈ face, r.isSurrogate = false) ∧ face.hash = 128512 ∧
    face.unitHash = 1772899 ∧ (testString "Codes" (.text face)).outcome =
      .ok (.leaf "stringProp" [("name", "128512")] face) := by
  have hhash : face.hash = 128512 := by decide
  have hunits : face.units = [0xD83D, 0xDE00] := by decide
  have hname : Text.ofInt 128512 = "128512" := by decide
  refine ⟨by decide, hhash, ?_, ?_⟩
  · rw [Text.unitHash, hunits, polynomial_cons, polynomial_cons]
    simp [polynomial, wrap32]
  · rw [testString_outcome "Codes" rfl, testStringOutline, Value.asText, hhash, hname]
    rfl

end Plan

end LoadPlan
