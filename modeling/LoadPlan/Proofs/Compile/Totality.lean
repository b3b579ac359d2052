import LoadPlan.Proofs.Compile.Verdict
import LoadPlan.Proofs.Plan.Assembling

/-!
# Sound documents are compiled

A compilation does not come to an end on every document.  It does on all that are sound: what cannot be
compiled as it is written is then remarked on, or the compilation fails with an error, but it always
returns.

* `IsSoundSource` — a text that is blank, of neither format, or the text of a sound document.
* `read_of_isSoundSource` — such a text is refused, or has a sound specification.
* **`compileWith_returns`** — the text is compiled: there is a failure for a reason, or a plan.
-/

namespace LoadPlan

open Value

/-! ## Specifications -/

namespace Specification

variable {limit : Nat} {entries : Entries}

lemma isSound_section? (h : (Value.map entries).IsSound limit) (key : Text) :
    (Value.map (section? entries key)).IsSound limit := by
  unfold section?
  cases hfound : (entries.getD key).entries? with
  | none => exact h.empty
  | some more => exact (h.getD key).entries? hfound

/-- Security schemes in a sound document have texts for names. -/
lemma hasTextKeys_section? (h : (Value.map entries).IsSound limit) {key : Text}
    (hkey : key ∈ schemeKeys) : (Value.map (section? entries key)).hasTextKeys = true := by
  unfold section? Entries.getD
  cases hfound : entries.get? key with
  | none => rfl
  | some value =>
      have hsuits := (h.get? hfound).2
      simp only [schemeKeys, List.mem_cons, List.not_mem_nil, or_false] at hkey
      cases value with
      | map more => rcases hkey with rfl | rfl <;> exact hsuits
      | _ => rfl

lemma isText_baseUrlOf {servers : List Text} {configured address : Value}
    (h : baseUrlOf entries servers configured = .ok address) (hconfigured : configured.isText = true) :
    address.isText = true := by
  unfold baseUrlOf at h
  split at h
  · obtain rfl := Except.ok.inj h
    rfl
  · obtain ⟨url, -, h⟩ := exists_of_except_bind h
    obtain rfl := Except.ok.inj h
    cases url with
    | none => exact hconfigured
    | some url => rfl

/-- **A sound document has a sound specification**, if the configured address is a text. -/
lemma yields_ofEntries {paths : Entries} {configured : Value}
    (h : (Value.map entries).IsSound maxNodes) (hpaths : entries.get? "paths" = some (.map paths))
    (hconfigured : configured.isText = true) :
    Yields IsSound (ofEntries entries paths configured) := by
  obtain ⟨spec, hspec⟩ := (shownIf_ofEntries paths configured).exists_of h.spellable
  refine ⟨spec, hspec, ?_⟩
  obtain ⟨version, -, hspec⟩ := exists_of_except_bind hspec
  obtain ⟨servers, -, hspec⟩ := exists_of_except_bind hspec
  obtain ⟨address, haddress, hspec⟩ := exists_of_except_bind hspec
  obtain ⟨title, -, hspec⟩ := exists_of_except_bind hspec
  obtain ⟨apiVersion, -, hspec⟩ := exists_of_except_bind hspec
  obtain rfl := Except.ok.inj hspec
  have hcomponents := isSound_section? h "components"
  refine ⟨h, (h.get? hpaths).1, ?_, ?_, isText_baseUrlOf haddress hconfigured⟩
  · dsimp only
    split
    · exact isSound_section? h "securityDefinitions"
    · exact isSound_section? hcomponents "securitySchemes"
  · dsimp only
    split
    · exact hasTextKeys_section? h (by decide)
    · exact hasTextKeys_section? hcomponents (by decide)

end Specification

/-! ## Texts -/

/-- **A text that can be compiled or refused**: it is blank, of neither format, or that of a sound
document. -/
inductive IsSoundSource (reader : YamlReader) (source : List Char) (declared : Option Text) :
    Prop where
  /-- There is nothing in the text. -/
  | blank (h : IsBlankSource source)
  /-- The text is of neither format. -/
  | undecodable (h : IsUndecodable reader source declared)
  /-- The text is that of a sound document. -/
  | decodes {document : Value} (h : Decodes reader source declared document)
      (hsound : document.IsSound maxNodes)

section

variable {reader : YamlReader} {source : List Char} {declared : Option Text} {configured : Value}

/-- **A sound text is refused, or has a sound specification.** -/
lemma read_of_isSoundSource (h : IsSoundSource reader source declared)
    (hconfigured : configured.isText = true) :
    (∃ fault, Specification.read reader source declared configured = .error (.spec fault)) ∨
      Yields Specification.IsSound (Specification.read reader source declared configured) := by
  cases h with
  | blank h => exact .inl ⟨_, Specification.read_of_blank h⟩
  | undecodable h =>
      obtain ⟨reason, hreason⟩ := h.decode_eq
      refine .inl ⟨.undecodable reason, ?_⟩
      rw [Specification.read_of_not_blank h.notBlank, hreason]
      rfl
  | decodes h hsound =>
      rename_i document
      rw [Specification.read_of_decodes h]
      cases hentries : document.entries? with
      | none => exact .inl ⟨_, by rw [Specification.ofDocument, hentries]⟩
      | some entries =>
          obtain rfl : document = .map entries := by
            cases document with
            | map more => rw [Option.some.inj hentries]
            | _ => cases hentries
          rw [Specification.ofDocument_map]
          cases hpaths : (entries.getD "paths").entries? with
          | none => exact .inl ⟨_, rfl⟩
          | some paths =>
              cases paths with
              | nil => exact .inl ⟨_, rfl⟩
              | cons path rest =>
                  have hfound := Specification.entries?_paths.mp hpaths
                  exact .inr (Specification.yields_ofEntries hsound hfound hconfigured)

end

/-! ## Compilation -/

section

variable {presets : Presets} {config : Config}

/-- **A sound specification is compiled.** -/
lemma yields_compileSpec (hconfig : config.IsSound) {spec : Specification} (h : spec.IsSound) :
    Yields (fun _ => True) (compileSpec presets config spec) := by
  refine (yields_operations h.document h.paths).bind fun operations hoperations => ?_
  split
  · exact .ok trivial
  · have hgrouping := Operation.isGrouping_group config.groupingStrategy operations
    have hgroups : ∀ group ∈ Operation.group config.groupingStrategy operations,
        ∀ operation ∈ group.2, operation.IsSound maxNodes := by
      intro group hgroup operation hoperation
      rw [hgrouping.members group hgroup] at hoperation
      exact hoperations operation (List.mem_of_mem_filter hoperation)
    have htext : (planText presets config spec
        (Operation.group config.groupingStrategy operations)).Yields fun _ => True :=
      (Plan.yields_assemble hconfig h hgroups).bind fun _ => Plan.yields_render
    exact htext.map fun _ _ => trivial

/-- A sound text is compiled, or refused. -/
lemma yields_compile {reader : YamlReader} (hconfig : config.IsSound) {source : List Char}
    {declared : Option Text} (h : IsSoundSource reader source declared) :
    Yields (fun _ => True) (compile reader presets config source declared) := by
  unfold compile readOrFail
  rcases read_of_isSoundSource h hconfig.address with ⟨fault, hfault⟩ | ⟨spec, hspec, hsound⟩
  · rw [hfault]
    exact .ok trivial
  · rw [hspec]
    exact yields_compileSpec hconfig hsound

end

/-! ## Documents -/

/-- A document with a reference to the first of two notes, which is written as a position, and with a
bound and an example in the note. -/
def noteAt (position : Char) : List Char :=
  "\x7b\"paths\":\x7b\"/a\":\x7b\"get\":\x7b\"parameters\":[\x7b\"$ref\":\"#/x/".toList ++ position ::
    "\"\x7d]\x7d\x7d\x7d,\"x\":[\x7b\"minimum\":2,\"example\":\"hi\"\x7d]\x7d".toList

lemma noteAt_decodes :
    ∃ document, Decodes Yaml.reader (noteAt '0') none document ∧ document.IsSound maxNodes := by
  have hblank : (Text.ofChars (noteAt '0')).isBlank = false := by decide +kernel
  have hchecked : (((Format.detect (noteAt '0') none).decode Yaml.reader (noteAt '0')).toOption.any
      fun document => decide (document.IsSound maxNodes)) = true := by decide +kernel
  obtain ⟨document, hdocument, hsound⟩ := (Option.any_eq_true _ _).mp hchecked
  refine ⟨document, ⟨fun hno => ?_, eq_ok_of_toOption hdocument⟩, of_decide_eq_true hsound⟩
  rw [isBlank_iff.mpr hno] at hblank
  cases hblank

/-- **Sound documents are compiled.**  With a sound configuration, a text that is blank, of neither
format, or that of a sound document is compiled without fail: what comes of it is a failure for one of the
reasons for which texts are refused, or a plan. -/
theorem compileWith_returns {reader : YamlReader} (presets : Presets) {options : Options}
    {config : Config} {source? : Option (List Char)} {declared : Option Text}
    (hoptions : options.config = .ok config) (hconfig : config.IsSound)
    (hsource : IsSoundSource reader (sourceText source?) declared) :
    ∃ result, compileWith reader presets options source? declared = .ok result ∧
      ((∃ code, Refusal reader (sourceText source?) declared code ∧ result.IsFailure code) ∨
        result.IsPlan) := by
  have hyields : Yields (fun _ => True) (compile reader presets config (sourceText source?) declared) :=
    yields_compile hconfig hsource
  obtain ⟨result, hresult, -⟩ := hyields
  refine ⟨result, ?_, isFailure_or_isPlan hresult⟩
  rw [compileWith, hoptions, ok_bind]
  exact hresult

/-- The document with a position that has a value is compiled. -/
theorem compileWith_returns_noteAt : ∃ document, Decodes Yaml.reader (noteAt '0') none document ∧
    document.IsSound maxNodes ∧ ∃ result,
      compileWith Yaml.reader .usual .usual (some (noteAt '0')) none = .ok result ∧
        ((∃ code, Refusal Yaml.reader (noteAt '0') none code ∧ result.IsFailure code) ∨
          result.IsPlan) := by
  obtain ⟨document, hdecodes, hsound⟩ := noteAt_decodes
  have hsource : IsSoundSource Yaml.reader (sourceText (some (noteAt '0'))) none :=
    .decodes hdecodes hsound
  exact ⟨document, hdecodes, hsound, compileWith_returns .usual rfl Config.isSound_usual hsource⟩

/-- Whether a computation stops at a position without a value. -/
def stopsAtPosition {α : Type} : Except Fault α → Bool
  | .error .badIndex => true
  | _ => false

lemma eq_error_of_stopsAtPosition {α : Type} {outcome : Except Fault α}
    (h : stopsAtPosition outcome = true) : outcome = .error .badIndex := by
  unfold stopsAtPosition at h
  split at h
  · rfl
  · cases h

/-- **Not every document is compiled.**  A superscript is a digit, but a position that is written with one
has no value, and the compilation stops at it without a result. -/
theorem compileWith_superscript :
    compileWith Yaml.reader .usual .usual (some (noteAt '²')) none = .error .badIndex := by
  have hstops : stopsAtPosition
      (compileWith Yaml.reader .usual .usual (some (noteAt '²')) none) = true := by
    decide +kernel
  exact eq_error_of_stopsAtPosition hstops

end LoadPlan
