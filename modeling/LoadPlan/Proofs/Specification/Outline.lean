import LoadPlan.Proofs.Specification.Reading
import LoadPlan.Yaml.Document

/-!
# Outlines of documents

The reasons for which a text is refused look at a document from above: at the document, at its paths, at
what stands under a path, and at what stands under a method.  What lies further down does not matter, and
neither does whether it comes to an end.  So every finite piece that has these levels of a document with
itself as a part is refused for the same reasons.

* `Value.outline` — the mappings of the first levels of a value, with their keys.
* `hasOperation_outline` — whether a path has an operation can be seen two levels below the paths.
* **`refusal_iff_of_outline`** — readers that see the same four levels of a text refuse it for the same
  reasons.
* **`Yaml.refusal_unrolling_iff`** — however far a document is written out that has itself as a part, it
  is refused for the same reasons.
-/

namespace LoadPlan

/-! ## Outlines -/

namespace Value

/-- **The outline of a value**: its mappings with their keys, on so many levels.  Everything else is left
blank. -/
def outline : Nat → Value → Value
  | levels + 1, map entries => map (entries.map fun entry => (entry.1, outline levels entry.2))
  | _, _ => null

end Value

/-- The outlines of the values of a mapping. -/
def Entries.outline (levels : Nat) (entries : Entries) : Entries :=
  entries.map fun entry => (entry.1, entry.2.outline levels)

section

variable {levels : Nat} {value : Value} {entries : Entries}

lemma Value.outline_zero : value.outline 0 = .null := by
  cases value <;> rfl

lemma Value.outline_map : (Value.map entries).outline (levels + 1) = .map (entries.outline levels) :=
  rfl

/-- A sequence that has itself as an item, written out one way or the other. -/
example (piece other : Value) : (Value.map [(.text "x", .list [piece])]).outline 4 =
    (Value.map [(.text "x", .list [other])]).outline 4 := rfl

/-- Only a mapping has the outline of one. -/
lemma Value.outline_eq_map_iff {shown : Entries} : value.outline (levels + 1) = .map shown ↔
    ∃ entries : Entries, value = .map entries ∧ entries.outline levels = shown := by
  constructor
  · intro h
    cases value with
    | map entries => exact ⟨entries, rfl, Value.map.inj h⟩
    | _ => cases h
  · rintro ⟨entries, rfl, rfl⟩
    exact Value.outline_map

lemma Entries.get?_outline (key : Text) : ∀ entries : Entries,
    (entries.outline levels).get? key = (entries.get? key).map (Value.outline levels)
  | [] => rfl
  | (name, value) :: rest => by
      have hrest := get?_outline key rest
      cases name with
      | text t =>
          show (if t = key then _ else _) = Option.map _ (if t = key then _ else _)
          split
          · rfl
          · exact hrest
      | _ => exact hrest

/-- Mappings with the same outline have mappings under the same keys, with the same outline again. -/
lemma Entries.exists_of_outline_eq {others : Entries}
    (h : entries.outline (levels + 1) = others.outline (levels + 1)) {key : Text} {more : Entries}
    (hmore : entries.get? key = some (.map more)) :
    ∃ found : Entries, others.get? key = some (.map found) ∧
      found.outline levels = more.outline levels := by
  have hshown : (others.outline (levels + 1)).get? key = some (.map (more.outline levels)) := by
    rw [← h, Entries.get?_outline, hmore]
    rfl
  rw [Entries.get?_outline, Option.map_eq_some_iff] at hshown
  obtain ⟨value, hvalue, hvalueOutline⟩ := hshown
  obtain ⟨found, rfl, hfound⟩ := Value.outline_eq_map_iff.mp hvalueOutline
  exact ⟨found, hvalue, hfound⟩

/-! ## Operations -/

/-- Whether an entry is that of an operation can be seen on the first level of its value. -/
lemma isOperationEntry_outline {entry : Value × Value} :
    IsOperationEntry (entry.1, entry.2.outline (levels + 1)) ↔ IsOperationEntry entry := by
  refine and_congr_right fun _ => ?_
  constructor
  · rintro ⟨shown, hshown⟩
    obtain ⟨raw, hraw, -⟩ := Value.outline_eq_map_iff.mp hshown
    exact ⟨raw, hraw⟩
  · rintro ⟨raw, hraw⟩
    exact ⟨Entries.outline levels raw, Value.outline_eq_map_iff.mpr ⟨raw, hraw, rfl⟩⟩

/-- Whether a path has an operation can be seen on the first two levels below the paths. -/
lemma hasOperation_outline {paths : Entries} :
    HasOperation (paths.outline (levels + 2)) ↔ HasOperation paths := by
  constructor
  · rintro ⟨path, hpath, shown, hshown, entry, hentry, hoperation⟩
    obtain ⟨path, hmem, rfl⟩ := List.mem_map.mp hpath
    obtain ⟨item, hitem, rfl⟩ := Value.outline_eq_map_iff.mp hshown
    obtain ⟨entry, hmem', rfl⟩ := List.mem_map.mp hentry
    exact ⟨path, hmem, item, hitem, entry, hmem', isOperationEntry_outline.mp hoperation⟩
  · rintro ⟨path, hpath, item, hitem, entry, hentry, hoperation⟩
    exact ⟨_, List.mem_map_of_mem hpath, _, Value.outline_eq_map_iff.mpr ⟨item, hitem, rfl⟩, _,
      List.mem_map_of_mem hentry, isOperationEntry_outline.mpr hoperation⟩

end

/-! ## Refusals -/

section

variable {reader other : YamlReader} {source : List Char} {declared : Option Text}

/-- A text that is taken for YAML, when only a part of its value is looked at. -/
lemma decodeYaml_map (look : Value → Value)
    (hsame : (reader.ofText source).map look = (other.ofText source).map look) :
    (Format.decodeYaml reader source).map look = (Format.decodeYaml other source).map look := by
  have hlook (given : YamlReader) : (Format.decodeYaml given source).map look =
      Format.decodeYaml ⟨fun text => (given.ofText text).map look, given.ofFile⟩ source := by
    unfold Format.decodeYaml
    dsimp only
    cases given.ofText source with
    | ok value => rfl
    | error fault => cases fault <;> rfl
  rw [hlook, hlook]
  unfold Format.decodeYaml
  dsimp only
  rw [hsame]

lemma decode_map (format : Format) (look : Value → Value)
    (hsame : (reader.ofText source).map look = (other.ofText source).map look) :
    (format.decode reader source).map look = (format.decode other source).map look := by
  have hyaml := decodeYaml_map look hsame
  unfold Format.decode
  split
  · split
    · exact hyaml
    · rfl
  · exact hyaml

variable (hsame : (reader.ofText source).map (Value.outline 4) =
  (other.ofText source).map (Value.outline 4))

include hsame

/-- Where one reader gives a document, the other gives one with the same outline. -/
lemma Decodes.exists_outline {document : Value} (h : Decodes reader source declared document) :
    ∃ piece, Decodes other source declared piece ∧ piece.outline 4 = document.outline 4 := by
  have hmap := decode_map (Format.detect source declared) (Value.outline 4) hsame
  rw [h.decoded] at hmap
  cases hother : (Format.detect source declared).decode other source with
  | ok piece =>
      rw [hother] at hmap
      exact ⟨piece, ⟨h.notBlank, hother⟩, (Except.ok.inj hmap).symm⟩
  | error fault =>
      rw [hother] at hmap
      cases hmap

lemma Decodes.exists_entries {entries : Entries}
    (h : Decodes reader source declared (.map entries)) : ∃ others : Entries,
      Decodes other source declared (.map others) ∧ others.outline 3 = entries.outline 3 := by
  obtain ⟨piece, hpiece, houtline⟩ := h.exists_outline hsame
  obtain ⟨others, rfl, hothers⟩ := Value.outline_eq_map_iff.mp houtline
  exact ⟨others, hpiece, hothers⟩

lemma IsUndecodable.of_outline (h : IsUndecodable reader source declared) :
    IsUndecodable other source declared := by
  obtain ⟨reason, hreason⟩ := h.notYaml
  rw [hreason] at hsame
  refine ⟨h.notBlank, h.notJson, reason, ?_⟩
  cases hother : other.ofText source with
  | ok value =>
      rw [hother] at hsame
      cases hsame
  | error fault =>
      rw [hother] at hsame
      exact hsame.symm

/-- A reason for which a text is refused is one for every reader that sees the same four levels. -/
lemma Refusal.of_outline {code : Text} (h : Refusal reader source declared code) :
    Refusal other source declared code := by
  cases h with
  | blank h => exact .blank h
  | undecodable h => exact .undecodable (h.of_outline hsame)
  | notMapping h hno =>
      obtain ⟨piece, hpiece, houtline⟩ := h.exists_outline hsame
      refine .notMapping hpiece fun entries hentries => ?_
      rw [hentries] at houtline
      obtain ⟨found, hfound, -⟩ := Value.outline_eq_map_iff.mp houtline.symm
      exact hno found hfound
  | noPaths h hno =>
      obtain ⟨others, hothers, houtline⟩ := h.exists_entries hsame
      refine .noPaths hothers fun paths hpaths => ?_
      obtain ⟨found, hfound, -⟩ := Entries.exists_of_outline_eq houtline hpaths
      exact hno found hfound
  | emptyPaths h hempty =>
      obtain ⟨others, hothers, houtline⟩ := h.exists_entries hsame
      obtain ⟨found, hfound, hnone⟩ := Entries.exists_of_outline_eq houtline.symm hempty
      rw [List.map_eq_nil_iff.mp hnone] at hfound
      exact .emptyPaths hothers hfound
  | noOperations h hpaths hno =>
      obtain ⟨others, hothers, houtline⟩ := h.exists_entries hsame
      obtain ⟨found, hfound, hmore⟩ := Entries.exists_of_outline_eq houtline.symm hpaths
      refine .noOperations hothers hfound ?_
      rw [← hasOperation_outline, hmore, hasOperation_outline]
      exact hno

/-- **Four levels decide.**  Readers that see the same four levels of a text refuse it for the same
reasons. -/
theorem refusal_iff_of_outline (code : Text) :
    Refusal reader source declared code ↔ Refusal other source declared code :=
  ⟨Refusal.of_outline hsame, Refusal.of_outline hsame.symm⟩

end

/-! ## Documents that have themselves as a part -/

namespace Yaml

/-- The outlines of the values under keys. -/
def outlines (levels : Nat) (found : List (Key × Value)) : List (Key × Value) :=
  found.map fun pair => (pair.1, pair.2.outline levels)

lemma Key.outlines_put (levels : Nat) (key : Key) (value : Value) : ∀ found : List (Key × Value),
    outlines levels (key.put value found) = key.put (value.outline levels) (outlines levels found)
  | [] => rfl
  | (other, old) :: rest => by
      have hrest := outlines_put levels key value rest
      unfold outlines at hrest ⊢
      rw [Key.put, List.map_cons, Key.put]
      split
      · rfl
      · rw [List.map_cons, hrest]

namespace Survey

variable (survey : Survey)

lemma outlines_foldl (levels : Nat) (valueOf : Node → Value) :
    ∀ (entries : List Entry) (found : List (Key × Value)),
      outlines levels (entries.foldl (fun found entry =>
        (survey.keyOf entry.1).put (valueOf entry.2) found) found) =
      entries.foldl (fun found entry =>
        (survey.keyOf entry.1).put ((valueOf entry.2).outline levels) found) (outlines levels found)
  | [], _ => rfl
  | entry :: rest, found => by
      rw [List.foldl_cons, List.foldl_cons, outlines_foldl levels valueOf rest, Key.outlines_put]

/-- The outline of a mapping is that of the values of its nodes. -/
lemma outline_entriesOf (levels : Nat) (valueOf : Node → Value) (entries : List Entry) :
    (survey.entriesOf valueOf entries).outline levels =
      survey.entriesOf (fun node => (valueOf node).outline levels) entries := by
  have hfound := survey.outlines_foldl levels valueOf entries []
  show ((entries.foldl _ []).map _).map _ = (entries.foldl _ (outlines levels [])).map _
  rw [← hfound, outlines, List.map_map, List.map_map]
  rfl

/-- The first levels of a value do not depend on how far it is written out below them. -/
lemma outline_value : ∀ (shown : Nat) {levels more : Nat}, shown ≤ levels → shown ≤ more →
    ∀ node, (survey.value levels node).outline shown = (survey.value more node).outline shown
  | 0, _, _, _, _, _ => by rw [Value.outline_zero, Value.outline_zero]
  | shown + 1, levels + 1, more + 1, hlevels, hmore, node => by
      have hbelow := outline_value shown (Nat.le_of_succ_le_succ hlevels)
        (Nat.le_of_succ_le_succ hmore)
      unfold value
      split
      · rfl
      · rfl
      · rfl
      · rw [Value.outline_map, Value.outline_map, outline_entriesOf, outline_entriesOf, funext hbelow]
      · rfl
      · rfl

end Survey

/-- However far a document that has itself as a part is written out, its first levels are the same. -/
lemma outline_unrolling (source : List Char) {shown levels more : Nat} (hlevels : shown ≤ levels)
    (hmore : shown ≤ more) : ((unrolling levels).ofText source).map (Value.outline shown) =
      ((unrolling more).ofText source).map (Value.outline shown) := by
  simp only [unrolling, decode, readDocument, bind, Except.bind]
  cases Node.ofTokens (tokens (.ofChars source)) with
  | error fault => rfl
  | ok root? =>
      cases root? with
      | none => rfl
      | some root =>
          dsimp only
          cases Survey.ofRoot ((tokens (.ofChars source)).length + 2) root with
          | error fault => rfl
          | ok survey =>
              dsimp only
              cases survey.endless with
              | false => rfl
              | true => exact congrArg Except.ok (survey.outline_value shown hlevels hmore root)

/-- **A document that has itself as a part has a verdict.**  It is refused for the same reasons however
far it is written out, from four levels on. -/
theorem refusal_unrolling_iff {source : List Char} {declared : Option Text} {levels more : Nat}
    (hlevels : 4 ≤ levels) (hmore : 4 ≤ more) (code : Text) :
    Refusal (unrolling levels) source declared code ↔ Refusal (unrolling more) source declared code :=
  refusal_iff_of_outline (outline_unrolling source hlevels hmore) code

end Yaml

end LoadPlan
