import LoadPlan.Proofs.Operation.Verb
import LoadPlan.Proofs.Schema.Proposing
import Mathlib.Data.List.Infix

/-!
# What the name of a text property says

A text that proposes nothing gets its sample by the name of its property, and without a word in the name that
says anything by its format.

* `Text.contains_iff` — a text that occurs in another is a part of it.
* `NameHint`, `nameHints` — what words in a name say, in the order of their priority.
* `IsFirstHint` — the first of some hints of which a word occurs in a name.
* `Prescribes` — the sample that the hints prescribe, and `prescribed`, the same as a function.
* `Outranked` — a name with an address of mail in it that is taken for a name.
* **`string_prescribed_iff`** — the sample of a text is the prescribed one exactly if its name is not outranked.
-/

namespace LoadPlan

/-- A text that occurs in another is a part of it. -/
lemma Text.contains_iff {needle : Text} : ∀ {t : Text}, t.contains needle = true ↔ needle <:+: t
  | [] => by rw [contains, List.isEmpty_iff, List.infix_nil]
  | c :: rest => by
      rw [contains, Bool.or_eq_true, List.isPrefixOf_iff_prefix, contains_iff, List.infix_cons_iff]

namespace Sample

/-! ## Hints -/

lemma mentions_iff {name : Text} {words : List Text} :
    mentions name words = true ↔ ∃ word ∈ words, word <:+: name := by
  simp only [mentions, List.any_eq_true, Text.contains_iff]

lemma mentions_singleton (name word : Text) : mentions name [word] = name.contains word :=
  Bool.or_false _

/-- **The first of some hints of which a word occurs in a name**: none of a hint in front of it does. -/
def IsFirstHint {α : Type} (name : Text) (hints : List (List Text × α)) (hint : α) : Prop :=
  ∃ front words back, hints = front ++ (words, hint) :: back ∧
    (∃ word ∈ words, word <:+: name) ∧ ∀ other ∈ front, ∀ word ∈ other.1, ¬ word <:+: name

section

variable {α β : Type} {name : Text} {hints : List (List Text × α)} {hint : α}

lemma hinted?_eq_some_iff : hinted? name hints = some hint ↔ IsFirstHint name hints hint := by
  have hnone (words : List Text) :
      mentions name words = false ↔ ∀ word ∈ words, ¬ word <:+: name := by
    rw [← Bool.not_eq_true, mentions_iff]
    simp only [not_exists, not_and]
  constructor
  · intro h
    obtain ⟨⟨words, _⟩, hfind, rfl⟩ := Option.map_eq_some_iff.mp h
    obtain ⟨hwords, front, back, rfl, hfront⟩ := List.find?_eq_some_iff_append.mp hfind
    refine ⟨front, words, back, rfl, mentions_iff.mp hwords, fun other hother => (hnone other.1).mp ?_⟩
    exact Bool.not_eq_true' _ ▸ hfront other hother
  · rintro ⟨front, words, back, rfl, hwords, hfront⟩
    refine Option.map_eq_some_iff.mpr ⟨(words, hint), ?_, rfl⟩
    refine List.find?_eq_some_iff_append.mpr ⟨mentions_iff.mpr hwords, front, back, rfl, ?_⟩
    intro other hother
    exact (Bool.not_eq_true' _).mpr ((hnone other.1).mpr (hfront other hother))

lemma hinted?_eq_none_iff :
    hinted? name hints = none ↔ ∀ entry ∈ hints, ∀ word ∈ entry.1, ¬ word <:+: name := by
  simp only [hinted?, Option.map_eq_none_iff, List.find?_eq_none, mentions_iff, not_exists, not_and]

lemma hinted?_cons (words : List Text) (hint : α) (rest : List (List Text × α)) :
    hinted? name ((words, hint) :: rest) =
      if mentions name words then some hint else hinted? name rest := by
  rw [hinted?, List.find?_cons]
  cases h : mentions name words with
  | true => simp [h]
  | false => simp [h, hinted?]

lemma hinted?_map (f : α → β) (hints : List (List Text × α)) :
    hinted? name (hints.map fun (words, hint) => (words, f hint)) = (hinted? name hints).map f := by
  induction hints with
  | nil => rfl
  | cons entry rest ih =>
      obtain ⟨words, hint⟩ := entry
      rw [List.map_cons, hinted?_cons, hinted?_cons, ih]
      split_ifs <;> rfl

end

/-! ## What the name of a text says -/

/-- **What words in the name of a text property say of its sample.** -/
inductive NameHint where
  /-- It is the number of the next identifier. -/
  | number
  /-- It is made from the name. -/
  | named
  /-- It is a text of its own. -/
  | fixed (t : Text)

/-- **The words in the names of text properties, in the order of their priority**, each with what it says. -/
def nameHints : List (List Text × NameHint) :=
  [ (["id"], .number), (["email"], .fixed "sample@example.com"), (["name"], .named),
    (["url", "link"], .fixed "https://example.com"), (["phone"], .fixed "+1234567890"),
    (["address"], .fixed "123 Sample St"), (["city"], .fixed "Sample City"),
    (["country"], .fixed "Sample Country"), (["description", "comment"], .fixed "Sample description"),
    (["status"], .fixed "active"), (["type", "category"], .fixed "sample") ]

/-- **The sample that is prescribed** for a text under a name, when the next identifier gets a number.  The
case of letters in the name does not count. -/
inductive Prescribes (number : Int) (name : Text) (format : Option Text) : Except Fault Value → Prop where
  /-- The number, as far as it has a text. -/
  | number (h : IsFirstHint name.lower nameHints .number) :
    Prescribes number name format ((integerText number).map .text)
  /-- A placeholder with the name. -/
  | named (h : IsFirstHint name.lower nameHints .named) :
    Prescribes number name format (.ok (.text ("sample" ++ capitalized name)))
  /-- What a word says. -/
  | fixed {t : Text} (h : IsFirstHint name.lower nameHints (.fixed t)) :
    Prescribes number name format (.ok (.text t))
  /-- What the format says, if no word says anything. -/
  | format {f t : Text} (hnone : ∀ hint ∈ nameHints, ∀ word ∈ hint.1, ¬ word <:+: name.lower)
    (hformat : format = some f) (ht : formatHints.lookup f = some t) :
    Prescribes number name format (.ok (.text t))
  /-- A placeholder, if neither says anything. -/
  | placeholder (hnone : ∀ hint ∈ nameHints, ∀ word ∈ hint.1, ¬ word <:+: name.lower)
    (hformat : ∀ f, format = some f → formatHints.lookup f = none) :
    Prescribes number name format (.ok (.text "sample"))

/-- What a hint says, for a number and a name. -/
def NameHint.outcome (number : Int) (name : Text) : NameHint → Except Fault Value
  | .number => (integerText number).map .text
  | .named => .ok (.text ("sample" ++ capitalized name))
  | .fixed t => .ok (.text t)

/-- The prescribed sample. -/
def prescribed (number : Int) (name : Text) (format : Option Text) : Except Fault Value :=
  match hinted? name.lower nameHints with
  | some hint => hint.outcome number name
  | none => .ok (.text (formatSample format))

section

variable {number : Int} {name : Text} {format : Option Text} {outcome : Except Fault Value}

lemma prescribed_of_first {hint : NameHint} (h : IsFirstHint name.lower nameHints hint) :
    prescribed number name format = hint.outcome number name := by
  rw [prescribed, hinted?_eq_some_iff.mpr h]

lemma prescribed_of_none (h : ∀ hint ∈ nameHints, ∀ word ∈ hint.1, ¬ word <:+: name.lower) :
    prescribed number name format = .ok (.text (formatSample format)) := by
  rw [prescribed, hinted?_eq_none_iff.mpr h]

/-- **One sample is prescribed**, whatever the name and the format are. -/
lemma prescribes_iff : Prescribes number name format outcome ↔ outcome = prescribed number name format := by
  constructor
  · intro h
    cases h with
    | number h => rw [prescribed_of_first h, NameHint.outcome]
    | named h => rw [prescribed_of_first h, NameHint.outcome]
    | fixed h => rw [prescribed_of_first h, NameHint.outcome]
    | format hnone hformat ht =>
        rw [prescribed_of_none hnone, hformat, formatSample, Option.bind_some, ht, Option.getD_some]
    | placeholder hnone hformat =>
        rw [prescribed_of_none hnone, formatSample]
        cases format with
        | none => rfl
        | some f => rw [Option.bind_some, hformat f rfl, Option.getD_none]
  · rintro rfl
    cases hhint : hinted? name.lower nameHints with
    | some hint =>
        have hfirst := hinted?_eq_some_iff.mp hhint
        rw [prescribed_of_first hfirst]
        cases hint with
        | number => exact .number hfirst
        | named => exact .named hfirst
        | fixed t => exact .fixed hfirst
    | none =>
        have hnone := hinted?_eq_none_iff.mp hhint
        rw [prescribed_of_none hnone, formatSample]
        cases hformat : format.bind fun f => formatHints.lookup f with
        | none => exact .placeholder hnone fun f hf => by rwa [hf] at hformat
        | some t =>
            obtain ⟨f, hf, ht⟩ := Option.bind_eq_some_iff.mp hformat
            exact .format hnone hf ht

/-! ### The hints one after another -/

lemma hinted?_nameHints : hinted? name nameHints =
    if name.contains "id" then some .number
    else if name.contains "email" then some (.fixed "sample@example.com")
    else if name.contains "name" then some .named
    else (hinted? name textHints.tail).map .fixed := by
  rw [nameHints, hinted?_cons, hinted?_cons, hinted?_cons, mentions_singleton, mentions_singleton,
    mentions_singleton, ← hinted?_map]
  rfl

lemma hinted?_textHints : hinted? name textHints =
    if name.contains "email" then some ("sample@example.com" : Text)
    else hinted? name textHints.tail := by
  rw [textHints, hinted?_cons, mentions_singleton, List.tail_cons]

/-- What is made of a text, by the words in its name. -/
lemma startedAt_text :
    (startedAt number (do return Value.text (← Sample.text name format))).1 =
      if name.lower.contains "id" then (integerText number).map Value.text
      else if name.lower.contains "name" then .ok (.text ("sample" ++ capitalized name))
      else .ok (.text ((hinted? name.lower textHints).getD (formatSample format))) := by
  rw [Sample.text]
  split_ifs
  · rw [bind_assoc, startedAt_bind_of_ok (startedAt_nextNumber number)]
    cases integerText number with
    | error fault => rfl
    | ok t => rfl
  · rfl
  · rfl

end

/-! ## Names that are outranked -/

/-- **A name with an address of mail in it that is taken for a name.** -/
structure Outranked (name : Text) : Prop where
  /-- It has the word for an address. -/
  address : "email" <:+: name.lower
  /-- It has the word for a name. -/
  named : "name" <:+: name.lower
  /-- It has no word that comes before both. -/
  free : ¬ "id" <:+: name.lower

/-- A placeholder made from a name is no address of mail, if the name has a word for both. -/
lemma capitalized_ne_address {name : Text} (h : Outranked name) :
    (("sample" : Text) ++ capitalized name) ≠ ("sample@example.com" : Text) := by
  have hsample : ("sample@example.com" : Text) = "sample" ++ "@example.com" := rfl
  rw [hsample]
  intro heq
  replace heq : capitalized name = "@example.com" := List.append_cancel_left heq
  have hn : ('n' : Rune) ∈ name.lower := h.named.subset (by decide)
  have hi : ('i' : Rune) ∈ name.lower := h.address.subset (by decide)
  cases name with
  | nil => cases hn
  | cons first rest =>
      -- both letters would have to come from the first code point, which has only one of them
      have hletters : ∀ r ∈ ("@example.com" : Text),
          r.code < 0x80 ∧ r.asciiLower ≠ 'n' ∧ r.asciiLower ≠ 'i' := by decide
      have hrest : rest ⊆ ("@example.com" : Text) := by
        rw [capitalized] at heq
        exact heq ▸ List.subset_append_right _ _
      rw [Text.lower, Text.lowerFrom, List.mem_append] at hn hi
      rw [Text.lowerFrom_of_ascii _ fun r hr => (hletters r (hrest hr)).1, List.mem_map] at hn hi
      have hnot (letter : Rune) (h : ∀ r ∈ ("@example.com" : Text), r.asciiLower ≠ letter) :
          ¬ ∃ r ∈ rest, r.asciiLower = letter := by
        rintro ⟨r, hr, hlower⟩
        exact h r (hrest hr) hlower
      replace hn := hn.resolve_right (hnot 'n' fun r hr => (hletters r hr).2.1)
      replace hi := hi.resolve_right (hnot 'i' fun r hr => (hletters r hr).2.2)
      unfold Text.lowerAt at hn hi
      split_ifs at hn hi
      · exact absurd ((List.mem_singleton.mp hn).trans (List.mem_singleton.mp hi).symm) (by decide)
      · exact absurd ((List.mem_singleton.mp hn).trans (List.mem_singleton.mp hi).symm) (by decide)
      · exact absurd hn (by decide)
      · exact absurd ((List.mem_singleton.mp hn).trans (List.mem_singleton.mp hi).symm) (by decide)

/-! ## Samples of texts -/

section

variable {declared : Declared}

/-- The sample of a text that proposes nothing. -/
lemma synthesize_string (hdeclared : declared.value? = none) (synthesizer : Synthesizer)
    (format : Option Text) (name : Text) :
    (synthesizer.synthesize (.string declared format) name).1 =
      if name.lower.contains "id" then (integerText synthesizer.start).map .text
      else if name.lower.contains "name" then .ok (.text ("sample" ++ capitalized name))
      else .ok (.text ((hinted? name.lower textHints).getD (formatSample format))) := by
  rw [Synthesizer.synthesize, Schema.sample, proposedOr, hdeclared]
  exact startedAt_text

/-- The sample under a name that is outranked. -/
lemma synthesize_of_outranked (hdeclared : declared.value? = none) (synthesizer : Synthesizer)
    (format : Option Text) {name : Text} (h : Outranked name) :
    (synthesizer.synthesize (.string declared format) name).1 =
      .ok (.text ("sample" ++ capitalized name)) := by
  rw [synthesize_string hdeclared, if_neg (mt Text.contains_iff.mp h.free),
    if_pos (Text.contains_iff.mpr h.named)]

/-- Under every other name the sample is the prescribed one. -/
lemma synthesize_eq_prescribed_iff (hdeclared : declared.value? = none) (synthesizer : Synthesizer)
    (format : Option Text) (name : Text) :
    (synthesizer.synthesize (.string declared format) name).1 = prescribed synthesizer.start name format ↔
      ¬ Outranked name := by
  rw [synthesize_string hdeclared, prescribed, hinted?_nameHints, hinted?_textHints]
  by_cases hid : name.lower.contains "id" = true
  · have hnot : ¬ Outranked name := fun h => h.free (Text.contains_iff.mp hid)
    simp [hid, hnot, NameHint.outcome]
  by_cases hname : name.lower.contains "name" = true
  · by_cases hmail : name.lower.contains "email" = true
    · have houtranked : Outranked name :=
        ⟨Text.contains_iff.mp hmail, Text.contains_iff.mp hname, mt Text.contains_iff.mpr hid⟩
      simp [hid, hname, hmail, houtranked, capitalized_ne_address houtranked, NameHint.outcome]
    · have hnot : ¬ Outranked name := fun h => hmail (Text.contains_iff.mpr h.address)
      simp [hid, hname, hmail, hnot, NameHint.outcome]
  · have hnot : ¬ Outranked name := fun h => hname (Text.contains_iff.mpr h.named)
    by_cases hmail : name.lower.contains "email" = true
    · simp [hid, hname, hmail, hnot, NameHint.outcome]
    · cases hinted? name.lower textHints.tail with
      | none => simp [hid, hname, hmail, hnot]
      | some t => simp [hid, hname, hmail, hnot, NameHint.outcome]

/-- **The sample of a text is the prescribed one exactly if its name is not outranked.**  If it is, the sample
is a placeholder with the name. -/
theorem string_prescribed_iff (hdeclared : declared.value? = none) (synthesizer : Synthesizer)
    (format : Option Text) (name : Text) :
    (Prescribes synthesizer.start name format
        (synthesizer.synthesize (.string declared format) name).1 ↔ ¬ Outranked name) ∧
      (Outranked name → (synthesizer.synthesize (.string declared format) name).1 =
        .ok (.text ("sample" ++ capitalized name))) :=
  ⟨prescribes_iff.trans (synthesize_eq_prescribed_iff hdeclared synthesizer format name),
    synthesize_of_outranked hdeclared synthesizer format⟩

end

/-- An address comes before a link and before the format. -/
theorem string_prescribed_iff_contact : Declared.none.value? = none ∧
    Prescribes 1 "emailLink" (some "uuid")
      ((Synthesizer.fresh 1).synthesize (.string .none (some "uuid")) "emailLink").1 := by
  have hnot : ¬ Outranked "emailLink" := by
    intro h
    have hname := Text.contains_iff.mpr h.named
    rw [Text.lower, Text.lowerFrom_of_ascii false (by decide)] at hname
    exact absurd hname (by decide)
  exact ⟨rfl, (string_prescribed_iff rfl (.fresh 1) (some "uuid") "emailLink").1.mpr hnot⟩

/-- **An address of mail is taken for a name** if there is a word for both. -/
theorem address_outranked :
    ¬ Prescribes 1 "usernameOrEmail" none
        ((Synthesizer.fresh 1).synthesize (.string .none none) "usernameOrEmail").1 ∧
      Prescribes 1 "usernameOrEmail" none (.ok (.text "sample@example.com")) ∧
        ((Synthesizer.fresh 1).synthesize (.string .none none) "usernameOrEmail").1 =
          .ok (.text "sampleUsernameOrEmail") := by
  have hlower : Text.lower "usernameOrEmail" = ("usernameoremail" : Text) := by
    rw [Text.lower, Text.lowerFrom_of_ascii false (by decide)]
    decide
  have houtranked : Outranked "usernameOrEmail" := by
    refine ⟨?_, ?_, ?_⟩
    · rw [hlower, ← Text.contains_iff]
      decide
    · rw [hlower, ← Text.contains_iff]
      decide
    · rw [hlower, ← Text.contains_iff]
      decide
  refine ⟨?_, ?_, ?_⟩
  · rw [prescribes_iff]
    exact fun h => (synthesize_eq_prescribed_iff rfl (.fresh 1) none _).mp h houtranked
  · rw [prescribes_iff, prescribed, hlower]
    rfl
  · rw [synthesize_of_outranked rfl _ _ houtranked]
    rfl

end Sample

end LoadPlan
