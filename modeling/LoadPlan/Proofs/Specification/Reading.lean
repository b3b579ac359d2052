import LoadPlan.Proofs.Operation.Entry
import LoadPlan.Proofs.Value.Spelling

/-!
# Reading specifications

What reading the specification in a text comes to, said without the order in which things are tried, and
whatever the reader of YAML makes of a text.

* `IsBlankSource`, `IsUndecodable`, `Decodes` — a text without anything in it, a text that is of
  neither format, and a text that decodes to a document.
* `Refusal` — the reasons why a text is not compiled, each with the code of its error.
* **`shownIf_ofEntries`** — a document with paths has a specification, unless something in it cannot
  be shown.
* **`refusal_of_read`**, **`read_of_refusal`** — a text without a specification is refused for one of
  the reasons, and a text that is refused has no specification, or one without operations.
-/

namespace LoadPlan

/-! ## Texts -/

/-- A text without anything but white space. -/
def IsBlankSource (source : List Char) : Prop := ∀ c ∈ source, (Rune.ofChar c).isBlank = true

/-- **A text that is of neither format.**  JSON is tried where it is declared or suggested, and YAML
always. -/
structure IsUndecodable (reader : YamlReader) (source : List Char) (declared : Option Text) : Prop where
  /-- There is something in the text. -/
  notBlank : ¬ IsBlankSource source
  /-- It is not JSON, if it is taken for that. -/
  notJson : Format.detect source declared = .json → Json.decode source = .error .malformed
  /-- It is not YAML. -/
  notYaml : ∃ reason, reader.ofText source = .error (.refused reason)

/-- **A text that decodes to a document.** -/
structure Decodes (reader : YamlReader) (source : List Char) (declared : Option Text)
    (document : Value) : Prop where
  /-- There is something in the text. -/
  notBlank : ¬ IsBlankSource source
  /-- It has a value. -/
  decoded : (Format.detect source declared).decode reader source = .ok document

lemma isBlank_iff {source : List Char} :
    (Text.ofChars source).isBlank = true ↔ IsBlankSource source := by
  rw [Text.isBlank, Text.ofChars, List.all_map, List.all_eq_true]
  rfl

/-- Faults of texts are no faults of documents. -/
lemma mapError_ne_spec {α : Type} (outcome : Except TextFault α) (fault : SpecFault) :
    outcome.mapError TextFault.fault ≠ .error (.spec fault) := by
  cases outcome with
  | ok a => exact fun h => nomatch h
  | error reason => exact fun h => reason.fault_ne_spec fault (Except.error.inj h)

section

variable {reader : YamlReader} {source : List Char} {declared : Option Text}

/-- A text that is taken for YAML is refused exactly if the reader refuses it. -/
lemma decodeYaml_eq_error_iff {fault : SpecFault} :
    Format.decodeYaml reader source = .error (.spec fault) ↔
      ∃ reason, reader.ofText source = .error (.refused reason) ∧ fault = .undecodable reason := by
  unfold Format.decodeYaml
  cases reader.ofText source with
  | ok value => exact iff_of_false (by rintro ⟨⟩) (by rintro ⟨reason, ⟨⟩, -⟩)
  | error obstacle =>
      cases obstacle with
      | refused reason =>
          constructor
          · intro h
            exact ⟨reason, rfl, (Fault.spec.inj (Except.error.inj h)).symm⟩
          · rintro ⟨other, hother, rfl⟩
            rw [YamlFault.refused.inj (Except.error.inj hother)]
      | broken inner =>
          refine iff_of_false (fun h => ?_) (by rintro ⟨reason, ⟨⟩, -⟩)
          exact inner.fault_ne_spec fault (Except.error.inj h)

/-- A text with something in it is refused as such if it is of neither format. -/
lemma decode_eq_error {fault : SpecFault} (hblank : ¬ IsBlankSource source)
    (h : (Format.detect source declared).decode reader source = .error (.spec fault)) :
    IsUndecodable reader source declared ∧ ∃ reason, fault = .undecodable reason := by
  unfold Format.decode at h
  split at h
  · split at h
    · rename_i hjson
      obtain ⟨reason, hreason, rfl⟩ := decodeYaml_eq_error_iff.mp h
      exact ⟨⟨hblank, fun _ => hjson, reason, hreason⟩, reason, rfl⟩
    · exact absurd h (mapError_ne_spec _ fault)
  · rename_i hformat
    obtain ⟨reason, hreason, rfl⟩ := decodeYaml_eq_error_iff.mp h
    refine ⟨⟨hblank, fun hjson => ?_, reason, hreason⟩, reason, rfl⟩
    rw [hformat] at hjson
    cases hjson

lemma IsUndecodable.decode_eq (h : IsUndecodable reader source declared) :
    ∃ reason, (Format.detect source declared).decode reader source =
      .error (.spec (.undecodable reason)) := by
  obtain ⟨reason, hreason⟩ := h.notYaml
  have hyaml : Format.decodeYaml reader source = .error (.spec (.undecodable reason)) :=
    decodeYaml_eq_error_iff.mpr ⟨reason, hreason, rfl⟩
  refine ⟨reason, ?_⟩
  cases hformat : Format.detect source declared with
  | json =>
      have hno := h.notJson hformat
      unfold Format.decode
      dsimp only
      generalize Json.decode source = outcome at hno ⊢
      rw [hno]
      exact hyaml
  | yaml => exact hyaml

end

/-! ## Refusals -/

/-- **Why a text is not compiled**, with the code of the error. -/
inductive Refusal (reader : YamlReader) (source : List Char) (declared : Option Text) : Text → Prop where
  /-- There is nothing in the text. -/
  | blank (h : IsBlankSource source) : Refusal reader source declared "ParseError"
  /-- The text is of neither format. -/
  | undecodable (h : IsUndecodable reader source declared) : Refusal reader source declared "ParseError"
  /-- The document is no mapping. -/
  | notMapping {document : Value} (h : Decodes reader source declared document)
      (hno : ∀ entries, document ≠ .map entries) : Refusal reader source declared "ParseError"
  /-- The document has no mapping of paths. -/
  | noPaths {entries : Entries} (h : Decodes reader source declared (.map entries))
      (hno : ∀ paths, entries.get? "paths" ≠ some (.map paths)) : Refusal reader source declared "ParseError"
  /-- There are no paths. -/
  | emptyPaths {entries : Entries} (h : Decodes reader source declared (.map entries))
      (hempty : entries.get? "paths" = some (.map [])) : Refusal reader source declared "EmptySpecError"
  /-- No path has an operation. -/
  | noOperations {entries paths : Entries} (h : Decodes reader source declared (.map entries))
      (hpaths : entries.get? "paths" = some (.map paths)) (hno : ¬ HasOperation paths) :
      Refusal reader source declared "EmptySpecError"

/-! ## Specifications in documents -/

namespace Specification

section

variable {P : Prop} {entries : Entries}

lemma isSpellable_section (h : Value.entriesSpellable entries = true) (key : Text) :
    Value.entriesSpellable (section? entries key) = true := by
  have hvalue := Entries.isSpellable_getD h key
  unfold section?
  cases hfound : entries.getD key with
  | map more =>
      rw [hfound] at hvalue
      exact hvalue
  | _ => rfl

lemma shownIf_shownOr (h : P → Value.entriesSpellable entries = true) (key usual : Text) :
    ShownIf P (shownOr entries key usual) := by
  unfold shownOr
  dsimp only
  split_ifs
  · exact Value.shownIf fun hP => Entries.isSpellable_getD (h hP) key
  · exact .ok usual

lemma shownIf_versionOf (h : P → Value.entriesSpellable entries = true) :
    ShownIf P (versionOf entries) := by
  have hget : ∀ {key : Text} {value : Value}, entries.get? key = some value → ShownIf P value.shown :=
    fun hfound => Value.shownIf fun hP =>
      (Value.isSpellable_of_mem_entries (h hP) _ (Entries.mem_of_get? hfound)).2
  unfold versionOf
  split
  · exact hget ‹_›
  · exact hget ‹_›
  · exact .ok _

lemma shownIf_serverUrl? {server : Value} (h : P → server.isSpellable = true) :
    ShownIf P (serverUrl? server) := by
  unfold serverUrl?
  split
  · exact .ok none
  · rename_i more hmore
    dsimp only
    split_ifs
    · refine (Value.shownIf fun hP => ?_).map some
      have hserver := h hP
      cases server with
      | map entries =>
          obtain rfl := Option.some.inj hmore
          exact Entries.isSpellable_getD hserver "url"
      | _ => cases hmore
    · exact .ok none

lemma shownIf_serverUrls (h : P → Value.entriesSpellable entries = true) :
    ShownIf P (serverUrls entries) := by
  unfold serverUrls
  split
  · rename_i servers hservers
    refine ShownIf.bind (ShownIf.mapM fun server hserver => ?_) fun urls => .ok _
    refine shownIf_serverUrl? fun hP => ?_
    have hlist := Entries.isSpellable_getD (h hP) "servers"
    rw [hservers] at hlist
    exact Value.isSpellable_of_mem hlist server hserver
  · exact .ok []

lemma shownIf_hostUrl? (h : P → Value.entriesSpellable entries = true) :
    ShownIf P (hostUrl? entries) := by
  have hscheme : ShownIf P (schemeOf entries) := by
    unfold schemeOf
    split
    · rename_i scheme others hschemes
      refine Value.shownIf fun hP => ?_
      have hlist := Entries.isSpellable_getD (h hP) "schemes"
      rw [hschemes] at hlist
      exact Value.isSpellable_of_mem hlist scheme List.mem_cons_self
    · exact .ok _
  unfold hostUrl?
  split
  · exact .ok none
  · exact hscheme.bind fun scheme => .ok _
  · exact .ok none

/-- **A document has a specification**, unless there is an integer in it that cannot be shown. -/
lemma shownIf_ofEntries (paths : Entries) (configured : Value) :
    ShownIf (Value.entriesSpellable entries = true) (ofEntries entries paths configured) := by
  refine (shownIf_versionOf id).bind fun version => ?_
  refine (shownIf_serverUrls id).bind fun servers => ?_
  have hbase : ShownIf (Value.entriesSpellable entries = true)
      (baseUrlOf entries servers configured) := by
    unfold baseUrlOf
    split
    · exact .ok _
    · exact (shownIf_hostUrl? id).bind fun url => .ok _
  refine hbase.bind fun defaultBaseUrl => ?_
  refine (shownIf_shownOr (fun hP => isSpellable_section hP "info") _ _).bind fun title => ?_
  refine (shownIf_shownOr (fun hP => isSpellable_section hP "info") _ _).bind fun apiVersion => ?_
  exact .ok _

end

/-- What a specification takes over from its document as it is. -/
lemma of_ofEntries {entries paths : Entries} {configured : Value} {spec : Specification}
    (h : ofEntries entries paths configured = .ok spec) :
    spec.paths = paths ∧ spec.document = .map entries := by
  obtain ⟨version, -, h⟩ := exists_of_except_bind h
  obtain ⟨servers, -, h⟩ := exists_of_except_bind h
  obtain ⟨defaultBaseUrl, -, h⟩ := exists_of_except_bind h
  obtain ⟨title, -, h⟩ := exists_of_except_bind h
  obtain ⟨apiVersion, -, h⟩ := exists_of_except_bind h
  obtain rfl := Except.ok.inj h
  exact ⟨rfl, rfl⟩

/-- The mapping of paths of a document, as it is looked up. -/
lemma entries?_paths {entries : Entries} {paths : Entries} :
    (entries.getD "paths").entries? = some paths ↔ entries.get? "paths" = some (.map paths) := by
  rw [Value.entries?_eq_some_iff, Entries.getD]
  cases entries.get? "paths" with
  | none => exact iff_of_false (by rintro ⟨⟩) (by rintro ⟨⟩)
  | some value => rw [Option.getD_some, Option.some.injEq]

section

variable {reader : YamlReader} {source : List Char} {declared : Option Text} {configured : Value}

lemma ofDocument_map (entries : Entries) : ofDocument (.map entries) configured =
    match (entries.getD "paths").entries? with
    | none => .error (.spec .noPaths)
    | some [] => .error (.spec .emptyPaths)
    | some paths => ofEntries entries paths configured :=
  rfl

lemma read_of_blank (h : IsBlankSource source) :
    read reader source declared configured = .error (.spec .emptyText) := by
  unfold read
  rw [if_pos (isBlank_iff.mpr h)]
  rfl

lemma read_of_not_blank (h : ¬ IsBlankSource source) :
    read reader source declared configured =
      (Format.detect source declared).decode reader source >>= fun document =>
        ofDocument document configured := by
  unfold read
  rw [if_neg fun hblank => h (isBlank_iff.mp hblank)]

/-- **A text without a specification is refused for one of the reasons.** -/
lemma refusal_of_read {fault : SpecFault}
    (h : read reader source declared configured = .error (.spec fault)) :
    Refusal reader source declared fault.code := by
  by_cases hblank : IsBlankSource source
  · rw [read_of_blank hblank] at h
    cases h
    exact .blank hblank
  · rw [read_of_not_blank hblank] at h
    cases hdecode : (Format.detect source declared).decode reader source with
    | error reason =>
        rw [hdecode] at h
        obtain rfl := Except.error.inj h
        obtain ⟨hno, message, rfl⟩ := decode_eq_error hblank hdecode
        exact .undecodable hno
    | ok document =>
        rw [hdecode] at h
        have hdecodes : Decodes reader source declared document := ⟨hblank, hdecode⟩
        change ofDocument document configured = _ at h
        unfold ofDocument at h
        split at h
        · rename_i hno
          cases h
          refine .notMapping hdecodes ?_
          rintro entries rfl
          cases hno
        · rename_i entries hentries
          obtain rfl := Value.entries?_eq_some_iff.mp hentries
          split at h
          · rename_i hno
            cases h
            refine .noPaths hdecodes fun paths hpaths => ?_
            rw [entries?_paths.mpr hpaths] at hno
            cases hno
          · rename_i hempty
            cases h
            exact .emptyPaths hdecodes (entries?_paths.mp hempty)
          · rename_i paths hne hpaths
            have hfault := (shownIf_ofEntries paths configured).eq_of_error h
            cases hfault

lemma read_of_decodes {document : Value} (h : Decodes reader source declared document) :
    read reader source declared configured = ofDocument document configured := by
  rw [read_of_not_blank h.notBlank, h.decoded]
  rfl

/-- The specification of a decoded document. -/
lemma exists_of_ofDocument {document : Value} {spec : Specification}
    (h : ofDocument document configured = .ok spec) :
    ∃ entries paths : Entries, document = .map entries ∧ entries.get? "paths" = some (.map paths) ∧
      paths ≠ [] ∧ spec.paths = paths ∧ spec.document = .map entries := by
  unfold ofDocument at h
  split at h
  · cases h
  · rename_i entries hentries
    split at h
    · cases h
    · cases h
    · rename_i paths hne hpaths
      obtain ⟨hspec, hdocument⟩ := of_ofEntries h
      refine ⟨entries, paths, Value.entries?_eq_some_iff.mp hentries, entries?_paths.mp hpaths, ?_, hspec,
        hdocument⟩
      rintro rfl
      exact hne rfl

/-- The specification of a document with paths. -/
lemma exists_of_read {spec : Specification} (h : read reader source declared configured = .ok spec) :
    ∃ entries paths : Entries, Decodes reader source declared (.map entries) ∧
      entries.get? "paths" = some (.map paths) ∧ paths ≠ [] ∧ spec.paths = paths ∧
        spec.document = .map entries := by
  by_cases hblank : IsBlankSource source
  · rw [read_of_blank hblank] at h
    cases h
  · rw [read_of_not_blank hblank] at h
    obtain ⟨document, hdecode, h⟩ := exists_of_except_bind h
    obtain ⟨entries, paths, rfl, hspec⟩ := exists_of_ofDocument h
    exact ⟨entries, paths, ⟨hblank, hdecode⟩, hspec⟩

/-- **A text that is refused has no specification**, or one without operations. -/
lemma read_of_refusal {code : Text} (h : Refusal reader source declared code) :
    (∃ fault, read reader source declared configured = .error (.spec fault) ∧ fault.code = code) ∨
      (code = SpecFault.noOperations.code ∧
        (∀ fault, read reader source declared configured ≠ .error (.spec fault)) ∧
        ∀ spec, read reader source declared configured = .ok spec → ¬ HasOperation spec.paths) := by
  cases h with
  | blank h => exact .inl ⟨.emptyText, read_of_blank h, rfl⟩
  | undecodable h =>
      obtain ⟨reason, hreason⟩ := h.decode_eq
      refine .inl ⟨.undecodable reason, ?_, rfl⟩
      rw [read_of_not_blank h.notBlank, hreason]
      rfl
  | notMapping h hno =>
      rename_i document
      refine .inl ⟨.notMapping document.kind, ?_, rfl⟩
      rw [read_of_decodes h]
      cases document with
      | map entries => exact absurd rfl (hno entries)
      | _ => rfl
  | noPaths h hno =>
      rename_i entries
      refine .inl ⟨.noPaths, ?_, rfl⟩
      have hnone : (entries.getD "paths").entries? = none := by
        rw [Option.eq_none_iff_forall_ne_some]
        intro paths hpaths
        exact hno paths (entries?_paths.mp hpaths)
      rw [read_of_decodes h, ofDocument_map, hnone]
  | emptyPaths h hempty =>
      rename_i entries
      refine .inl ⟨.emptyPaths, ?_, rfl⟩
      rw [read_of_decodes h, ofDocument_map, entries?_paths.mpr hempty]
  | noOperations h hpaths hno =>
      rename_i entries paths
      cases paths with
      | nil =>
          refine .inl ⟨.emptyPaths, ?_, rfl⟩
          rw [read_of_decodes h, ofDocument_map, entries?_paths.mpr hpaths]
      | cons path rest =>
          refine .inr ⟨rfl, fun fault hfault => ?_, fun spec hspec => ?_⟩
          · rw [read_of_decodes h, ofDocument_map, entries?_paths.mpr hpaths] at hfault
            cases (shownIf_ofEntries (path :: rest) configured).eq_of_error hfault
          · rw [read_of_decodes h, ofDocument_map, entries?_paths.mpr hpaths] at hspec
            rw [(of_ofEntries hspec).1]
            exact hno

end

end Specification

end LoadPlan
