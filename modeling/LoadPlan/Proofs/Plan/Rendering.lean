import LoadPlan.Proofs.Markup.Document
import LoadPlan.Proofs.Outcome
import LoadPlan.Proofs.Plan.Outline
import Mathlib.Data.List.TakeWhile

/-!
# The document of a plan is read back

* `isOrderly_ownOutline` — the outline of a well-typed element is orderly markup.
* `documentText_of_isOrderly` — orderly markup has a document.
* `render_outcome` — a well-typed plan has a document, which is that of its outline.
* **`render_reread`** — every character of it is one of the format, and a reader that passes over
  white space around elements finds the outline: the tags as they were written, and the texts with
  line feeds for line ends.
-/

namespace LoadPlan

open Markup

/-! ## Orderly properties -/

namespace Markup

lemma onlyText?_eq_none : ∀ {content : List Markup}, areAllOrderly content = true →
    content ≠ [] → onlyText? content = none
  | [], _, h => absurd rfl h
  | [element _ _ _], _, _ => rfl
  | element _ _ _ :: _ :: _, _, _ => rfl

lemma isOrderly_branch {tag : Text} {attributes : Attributes} {content : List Markup}
    (htag : isName tag = true) (hread : attributes.all isReadable = true)
    (hdistinct : (attributes.map Prod.fst).Nodup) (hcontent : areAllOrderly content = true) :
    isOrderly (element tag attributes content) = true := by
  rw [isOrderly, htag, hread, decide_eq_true hdistinct]
  cases content with
  | nil => rfl
  | cons first others =>
      rw [onlyText?_eq_none hcontent (List.cons_ne_nil first others)]
      exact hcontent

lemma isOrderly_leaf {tag : Text} {attributes : Attributes} {t : Text}
    (htag : isName tag = true) (hread : attributes.all isReadable = true)
    (hdistinct : (attributes.map Prod.fst).Nodup) (ht : isLegal t = true) :
    isOrderly (leaf tag attributes t) = true := by
  rw [isOrderly, htag, hread, decide_eq_true hdistinct]
  exact ht

lemma areAllOrderly_cons {part : Markup} {parts : List Markup} (h : part.isOrderly = true)
    (hparts : areAllOrderly parts = true) : areAllOrderly (part :: parts) = true := by
  rw [areAllOrderly, h, hparts]
  rfl

lemma areAllOrderly_singleton {part : Markup} (h : part.isOrderly = true) :
    areAllOrderly [part] = true :=
  areAllOrderly_cons h rfl

lemma areAllOrderly_append {xs ys : List Markup} (hxs : areAllOrderly xs = true)
    (hys : areAllOrderly ys = true) : areAllOrderly (xs ++ ys) = true := by
  induction xs with
  | nil => exact hys
  | cons x xs ih =>
      rw [areAllOrderly, Bool.and_eq_true] at hxs
      exact areAllOrderly_cons hxs.1 (ih hxs.2)

lemma areAllOrderly_map {α : Type} {write : α → Markup} (h : ∀ a, (write a).isOrderly = true)
    (xs : List α) : areAllOrderly (xs.map write) = true := by
  induction xs with
  | nil => rfl
  | cons x xs ih => exact areAllOrderly_cons (h x) ih

lemma isLegal_legal (t : Text) : isLegal t.legal = true := by
  simp [isLegal, Text.legal]

/-- A word other than the one that declares abbreviations declares none. -/
lemma declared?_of_isWord {name : Text} (hname : isWord name = true) (hother : name ≠ "xmlns") :
    declared? name = none := by
  have hcolon : (':' : Rune) ∉ name := fun hmem =>
    ne_delimiter (isNamePart_of_mem (isName_of_isWord hname) _ hmem) (by decide) rfl
  rw [declared?, if_neg hother, Text.before_of_notMem hcolon, if_neg hother]

/-- An attribute whose name is a word can be read. -/
lemma isReadable_word {cs : List Char} (hname : isWord (.ofChars cs) = true)
    (hother : String.ofList cs ≠ "xmlns") {t : Text} (ht : isLegal t = true) :
    isReadable (.ofString (String.ofList cs), .text t) = true := by
  have hword := isWord_literal hname
  have hdeclared := declared?_of_isWord hword fun heq => hother (Text.ofString_inj.mp heq)
  rw [isReadable, isName_of_isWord hword, hdeclared, ht]
  rfl

end Markup

namespace Plan

section

variable {name : Text} {parts : List Markup}

lemma isReadable_name (h : isLegal name = true) : isReadable ("name", .text name) = true :=
  isReadable_word (by decide) (by decide) h

lemma isOrderly_namedLeaf {cs : List Char} (htag : isWord (.ofChars cs) = true)
    (hname : isLegal name = true) {t : Text} (ht : isLegal t = true) :
    (Markup.leaf (.ofString (String.ofList cs)) [("name", name)] t).isOrderly = true :=
  isOrderly_leaf (isName_of_isWord (isWord_literal htag))
    (by rw [List.all_cons, isReadable_name hname]; rfl) (by simp) ht

lemma isOrderly_stringLeaf (hname : isLegal name = true) {t : Text} (ht : isLegal t = true) :
    (Markup.leaf "stringProp" [("name", name)] t).isOrderly = true :=
  isOrderly_namedLeaf (by decide) hname ht

lemma isOrderly_textLeaf (hname : isLegal name = true) (v : Value) :
    (textLeaf name v).isOrderly = true :=
  isOrderly_stringLeaf hname (isLegal_legal _)

lemma isOrderly_emptyProperty (hname : isLegal name = true) :
    (emptyProperty name).isOrderly = true :=
  isOrderly_stringLeaf hname rfl

lemma isLegal_truthText (v : Value) : isLegal (truthText v) = true := by
  unfold truthText
  split_ifs <;> exact isLegal_literal (by decide)

lemma isOrderly_truthProperty (hname : isLegal name = true) (v : Value) :
    (truthProperty name v).isOrderly = true :=
  isOrderly_namedLeaf (by decide) hname (isLegal_truthText v)

lemma isOrderly_collection (hname : isLegal name = true) (hparts : areAllOrderly parts = true) :
    (collection name parts).isOrderly = true :=
  isOrderly_branch (isName_of_isWord (isWord_literal (by decide)))
    (by rw [List.all_cons, isReadable_name hname]; rfl) (by simp) hparts

section

variable {type : Text}

lemma isOrderly_partsProperty (hname : isLegal name = true) (htype : isLegal type = true)
    (hparts : areAllOrderly parts = true) :
    (partsProperty name type [] parts).isOrderly = true := by
  have helementType : isReadable ("elementType", .text type) = true :=
    isReadable_word (by decide) (by decide) htype
  refine isOrderly_branch (isName_of_isWord (isWord_literal (by decide))) ?_ ?_ hparts
  · rw [List.all_cons, isReadable_name hname, List.all_cons, helementType]
    rfl
  · simp [Text.ofString_inj]

/-- The same for a property that is shown like an element. -/
lemma isOrderly_shownProperty {guiClass testClass title : Text} (hname : isLegal name = true)
    (htype : isLegal type = true) (hguiClass : isLegal guiClass = true)
    (htestClass : isLegal testClass = true) (htitle : isLegal title = true)
    (hparts : areAllOrderly parts = true) :
    (partsProperty name type (partAttributes guiClass testClass title) parts).isOrderly = true := by
  have hattributes : List.all (("name", .text name) :: ("elementType", .text type) ::
      partAttributes guiClass testClass title : Attributes) isReadable = true := by
    refine List.all_eq_true.mpr fun pair hpair => ?_
    simp only [partAttributes, List.mem_cons, List.not_mem_nil, or_false] at hpair
    rcases hpair with rfl | rfl | rfl | rfl | rfl | rfl
    · exact isReadable_name hname
    · exact isReadable_word (by decide) (by decide) htype
    · exact isReadable_word (by decide) (by decide) hguiClass
    · exact isReadable_word (by decide) (by decide) htestClass
    · exact isReadable_word (by decide) (by decide) htitle
    · exact isReadable_word (by decide) (by decide) (isLegal_literal (by decide))
  refine isOrderly_branch (isName_of_isWord (isWord_literal (by decide))) hattributes ?_ hparts
  simp [partAttributes, Text.ofString_inj]

end

lemma isOrderly_argumentsProperty {display : Text} (hname : isLegal name = true)
    (hdisplay : isLegal display = true) (hparts : areAllOrderly parts = true) :
    (argumentsProperty name display parts).isOrderly = true :=
  isOrderly_shownProperty hname (isLegal_literal (by decide)) hdisplay
    (isLegal_literal (by decide)) (isLegal_literal (by decide))
    (areAllOrderly_singleton (isOrderly_collection (isLegal_literal (by decide)) hparts))

end

section

variable (p : Pair)

lemma isOrderly_variableOutline : (variableOutline p).isOrderly = true :=
  isOrderly_partsProperty (isLegal_legal _) (isLegal_literal (by decide)) (by
    simp (disch := exact isLegal_literal (by decide)) only
      [areAllOrderly, isOrderly_textLeaf, isOrderly_stringLeaf, Bool.and_self])

lemma isOrderly_argumentOutline : (argumentOutline p).isOrderly = true :=
  isOrderly_partsProperty (isLegal_legal _) (isLegal_literal (by decide)) (by
    simp (disch := exact isLegal_literal (by decide)) only
      [areAllOrderly, isOrderly_textLeaf, isOrderly_stringLeaf, isOrderly_truthProperty,
       Bool.and_self])

lemma isOrderly_headerOutline : (headerOutline p).isOrderly = true :=
  isOrderly_partsProperty rfl (isLegal_literal (by decide)) (by
    simp (disch := exact isLegal_literal (by decide)) only
      [areAllOrderly, isOrderly_textLeaf, Bool.and_self])

end

lemma isLegal_ofInt (i : Int) : isLegal (Text.ofInt i) = true :=
  isLegal_iff.mpr fun _ => Text.isIllegal_of_mem_ofInt

lemma isLegal_decimal (v : Value) : isLegal v.decimal = true :=
  Value.legal_decimal v ▸ isLegal_legal v.decimal

lemma isOrderly_testStringOutline (v : Value) : (testStringOutline v).isOrderly = true :=
  isOrderly_textLeaf (isLegal_ofInt _) _

lemma isOrderly_argumentsOutline (arguments : List Pair) :
    (argumentsOutline arguments).isOrderly = true :=
  isOrderly_argumentsProperty (isLegal_literal (by decide)) (isLegal_literal (by decide))
    (areAllOrderly_map isOrderly_argumentOutline arguments)

lemma areAllOrderly_bodyOutline (body : Value) : areAllOrderly (bodyOutline body) = true := by
  have hargument : areAllOrderly
      [ truthProperty "HTTPArgument.always_encode" (.bool false),
        textLeaf "Argument.value" body,
        .leaf "stringProp" [("name", "Argument.metadata")] "=" ] = true := by
    simp (disch := exact isLegal_literal (by decide)) only
      [areAllOrderly, isOrderly_textLeaf, isOrderly_stringLeaf, isOrderly_truthProperty,
       Bool.and_self]
  have hcollection : (collection "Arguments.arguments"
      [ partsProperty [] "HTTPArgument" []
          [ truthProperty "HTTPArgument.always_encode" (.bool false),
            textLeaf "Argument.value" body,
            .leaf "stringProp" [("name", "Argument.metadata")] "=" ] ]).isOrderly = true :=
    isOrderly_collection (isLegal_literal (by decide)) (areAllOrderly_singleton
      (isOrderly_partsProperty rfl (isLegal_literal (by decide)) hargument))
  exact areAllOrderly_cons (isOrderly_truthProperty (isLegal_literal (by decide)) _)
    (areAllOrderly_singleton (isOrderly_partsProperty (isLegal_literal (by decide))
      (isLegal_literal (by decide)) (areAllOrderly_singleton hcollection)))

lemma isOrderly_saveConfig : saveConfig.isOrderly = true := by
  have hleaf : ∀ {tag t : Text}, isWord tag = true → isLegal t = true →
      (Markup.leaf tag [] t).isOrderly = true :=
    fun htag ht => isOrderly_leaf (isName_of_isWord htag) rfl List.nodup_nil ht
  have hfields : areAllOrderly (savedFields.map fun pair => .leaf pair.1 [] pair.2) = true := by
    simp
      (disch := first | exact isWord_literal (by decide) | exact isLegal_literal (by decide)) only
      [savedFields, List.map_cons, List.map_nil, areAllOrderly, hleaf, Bool.and_self]
  have hclass : isReadable ("class", .text "SampleSaveConfiguration") = true :=
    isReadable_word (by decide) (by decide) (isLegal_literal (by decide))
  have hvalue : (Markup.branch "value" [("class", "SampleSaveConfiguration")]
      (savedFields.map fun pair => .leaf pair.1 [] pair.2)).isOrderly = true :=
    isOrderly_branch (isName_of_isWord (isWord_literal (by decide)))
      (by rw [List.all_cons, hclass]; rfl) (by simp) hfields
  exact isOrderly_branch (isName_of_isWord (isWord_literal (by decide))) rfl List.nodup_nil
    (areAllOrderly_cons (hleaf (isWord_literal (by decide)) (isLegal_literal (by decide)))
      (areAllOrderly_singleton hvalue))

/-! ## Orderly elements -/

lemma HttpSampler.areAllOrderly_outline (sampler : HttpSampler) :
    areAllOrderly sampler.outline = true := by
  have hcontent : areAllOrderly sampler.contentOutline = true := by
    unfold HttpSampler.contentOutline
    split
    · exact areAllOrderly_singleton (isOrderly_argumentsOutline _)
    · exact areAllOrderly_bodyOutline _
  refine areAllOrderly_append hcontent ?_
  simp (disch := exact isLegal_literal (by decide)) only
    [areAllOrderly, isOrderly_textLeaf, isOrderly_stringLeaf, isOrderly_truthProperty,
     isOrderly_emptyProperty, Bool.and_self]

/-- **The properties of all settings are orderly**, whatever the settings are. -/
theorem Settings.areAllOrderly_outline (settings : Settings) :
    areAllOrderly settings.outline = true := by
  cases settings with
  | testPlan plan =>
      have hvariables : (argumentsProperty "TestPlan.user_defined_variables" "ArgumentsPanel"
          (plan.userVariables.map variableOutline)).isOrderly = true :=
        isOrderly_argumentsProperty (isLegal_literal (by decide)) (isLegal_literal (by decide))
          (areAllOrderly_map isOrderly_variableOutline _)
      simp (disch := exact isLegal_literal (by decide)) only
        [outline, TestPlan.outline, areAllOrderly, hvariables, isOrderly_textLeaf,
         isOrderly_truthProperty, isOrderly_emptyProperty, Bool.and_self]
  | httpDefaults defaults =>
      simp (disch := exact isLegal_literal (by decide)) only
        [outline, HttpDefaults.outline, areAllOrderly, isOrderly_argumentsOutline,
         isOrderly_textLeaf, isOrderly_emptyProperty, Bool.and_self]
  | threadGroup group =>
      have hloops : areAllOrderly [ truthProperty "LoopController.continue_forever" (.bool false),
          textLeaf "LoopController.loops" group.loops ] = true := by
        simp (disch := exact isLegal_literal (by decide)) only
          [areAllOrderly, isOrderly_textLeaf, isOrderly_truthProperty, Bool.and_self]
      have hcontroller : (partsProperty "ThreadGroup.main_controller" "LoopController"
          (partAttributes "LoopControlPanel" "LoopController" "Loop Controller")
          [ truthProperty "LoopController.continue_forever" (.bool false),
            textLeaf "LoopController.loops" group.loops ]).isOrderly = true :=
        isOrderly_shownProperty (isLegal_literal (by decide)) (isLegal_literal (by decide))
          (isLegal_literal (by decide)) (isLegal_literal (by decide))
          (isLegal_literal (by decide)) hloops
      simp (disch := exact isLegal_literal (by decide)) only
        [outline, ThreadGroup.outline, areAllOrderly, hcontroller, isOrderly_textLeaf,
         isOrderly_truthProperty, Bool.and_self]
  | httpSampler sampler => exact sampler.areAllOrderly_outline
  | responseAssertion assertion =>
      have hstrings : (collection "Asserion.test_strings"
          (assertion.testStrings.map testStringOutline)).isOrderly = true :=
        isOrderly_collection (isLegal_literal (by decide))
          (areAllOrderly_map isOrderly_testStringOutline _)
      have htype : (Markup.leaf "intProp" [("name", "Assertion.test_type")]
          assertion.testType.decimal).isOrderly = true :=
        isOrderly_namedLeaf (by decide) (isLegal_literal (by decide)) (isLegal_decimal _)
      simp (disch := exact isLegal_literal (by decide)) only
        [outline, ResponseAssertion.outline, areAllOrderly, hstrings, htype, isOrderly_textLeaf,
         isOrderly_truthProperty, Bool.and_self]
  | durationAssertion assertion =>
      exact areAllOrderly_singleton (isOrderly_textLeaf (isLegal_literal (by decide)) _)
  | jsonExtractor extractor =>
      simp (disch := exact isLegal_literal (by decide)) only
        [outline, JsonExtractor.outline, areAllOrderly, isOrderly_textLeaf, Bool.and_self]
  | headerManager manager =>
      exact areAllOrderly_singleton (isOrderly_collection (isLegal_literal (by decide))
        (areAllOrderly_map isOrderly_headerOutline _))
  | authManager manager =>
      have hentry : areAllOrderly
          [ textLeaf "Authorization.url" manager.url,
            textLeaf "Authorization.username" manager.username,
            textLeaf "Authorization.password" manager.password,
            textLeaf "Authorization.domain" manager.domain,
            textLeaf "Authorization.realm" manager.realm ] = true := by
        simp (disch := exact isLegal_literal (by decide)) only
          [areAllOrderly, isOrderly_textLeaf, Bool.and_self]
      exact areAllOrderly_singleton (isOrderly_collection (isLegal_literal (by decide))
        (areAllOrderly_singleton
          (isOrderly_partsProperty rfl (isLegal_literal (by decide)) hentry)))
  | csvDataSet data =>
      simp (disch := exact isLegal_literal (by decide)) only
        [outline, CsvDataSet.outline, areAllOrderly, isOrderly_textLeaf, isOrderly_truthProperty,
         Bool.and_self]
  | resultCollector collector =>
      simp (disch := exact isLegal_literal (by decide)) only
        [outline, ResultCollector.outline, areAllOrderly, isOrderly_textLeaf,
         isOrderly_truthProperty, isOrderly_saveConfig, Bool.and_self]
  | bare _ => rfl

lemma Settings.isName_tag : ∀ {settings : Settings}, settings.isSupported = true →
    isName settings.tag = true
  | testPlan _, _ | httpDefaults _, _ | threadGroup _, _ | httpSampler _, _
  | responseAssertion _, _ | durationAssertion _, _ | jsonExtractor _, _ | headerManager _, _
  | authManager _, _ | csvDataSet _, _ | resultCollector _, _ =>
      isName_of_isWord (isWord_literal (by decide))
  | bare _, h => by cases h

/-- The attributes of an element can be read, unless its display is one that XML cannot carry. -/
lemma isOrderly_ownElement {element : Element} (hsupported : element.settings.isSupported = true)
    (hdisplay : element.HasLegalDisplay) {parts : List Markup} (hparts : areAllOrderly parts = true) :
    (Markup.branch element.settings.tag
      [ ("guiclass", .text element.settings.guiClass.asText), ("testclass", element.settings.tag),
        ("testname", element.name.asText.legal), ("enabled", truthText element.enabled) ]
      parts).isOrderly = true := by
  have htag := Settings.isName_tag hsupported
  refine isOrderly_branch htag ?_ ?_ hparts
  · have hguiClass : isReadable ("guiclass", .text element.settings.guiClass.asText) = true :=
      isReadable_word (by decide) (by decide) (isLegal_iff.mpr hdisplay)
    have htestClass : isReadable ("testclass", .text element.settings.tag) = true :=
      isReadable_word (by decide) (by decide) (isLegal_of_isName htag)
    have htestName : isReadable ("testname", .text element.name.asText.legal) = true :=
      isReadable_word (by decide) (by decide) (isLegal_legal _)
    have henabled : isReadable ("enabled", .text (truthText element.enabled)) = true :=
      isReadable_word (by decide) (by decide) (isLegal_truthText _)
    rw [List.all_cons, List.all_cons, List.all_cons, List.all_cons, hguiClass, htestClass,
      htestName, henabled]
    rfl
  · simp [Text.ofString_inj]

/-- **A well-typed element is written as orderly markup**, unless its display is one that XML cannot
carry. -/
lemma isOrderly_ownOutline {element : Element} (h : element.IsTyped)
    (hdisplay : element.HasLegalDisplay) : element.ownOutline.isOrderly = true :=
  isOrderly_ownElement h.settings.supported hdisplay element.settings.areAllOrderly_outline

lemma isOrderly_container {content : List Markup} (h : areAllOrderly content = true) :
    (container content).isOrderly = true :=
  isOrderly_branch (isName_of_isWord (isWord_literal (by decide))) rfl List.nodup_nil h

mutual

/-- A well-typed plan is written as orderly markup. -/
theorem areAllOrderly_outline : ∀ element : Element, (∀ e ∈ element.walk, e.IsTyped) →
    (∀ e ∈ element.walk, e.HasLegalDisplay) → areAllOrderly element.outline = true
  | .mk name enabled settings children, h, hdisplay => by
      simp only [Element.walk, List.mem_cons, forall_eq_or_imp] at h hdisplay
      have hchildren := isOrderly_container
        (areAllOrderly_allOutlines children h.2 hdisplay.2)
      rw [Element.outline, areAllOrderly, isOrderly_ownOutline h.1 hdisplay.1]
      exact areAllOrderly_singleton hchildren

theorem areAllOrderly_allOutlines : ∀ elements : List Element,
    (∀ e ∈ Element.walkAll elements, e.IsTyped) →
    (∀ e ∈ Element.walkAll elements, e.HasLegalDisplay) →
    areAllOrderly (Element.allOutlines elements) = true
  | [], _, _ => rfl
  | first :: rest, h, hdisplay => by
      simp only [Element.walkAll, List.mem_append, or_imp, forall_and] at h hdisplay
      exact areAllOrderly_append (areAllOrderly_outline first h.1 hdisplay.1)
        (areAllOrderly_allOutlines rest h.2 hdisplay.2)

end

/-! ## Documents -/

lemma isOrderly_planDocument {content : List Markup} (h : areAllOrderly content = true) :
    (planDocument content).isOrderly = true :=
  isOrderly_branch (by decide) (by decide) (by decide)
    (areAllOrderly_singleton (isOrderly_container h))

/-- Texts that XML can carry have bytes. -/
lemma strayFrom?_of_isLegal : ∀ {t : Text} (position : Nat), isLegal t = true →
    Utf8.strayFrom? position t = none
  | [], _, _ => rfl
  | r :: rest, position, h => by
      rw [isLegal, List.all_cons, Bool.and_eq_true] at h
      have hsurrogate : r.isSurrogate = false := by
        have hlegal : r.isIllegal = false := by simpa using h.1
        simp only [Rune.isIllegal, Bool.or_eq_false_iff] at hlegal
        exact hlegal.1.1.2
      rw [Utf8.strayFrom?, hsurrogate]
      exact strayFrom?_of_isLegal (position + 1) h.2

/-- **Orderly markup has a document**, in the texts of which line ends have been read. -/
theorem documentText_of_isOrderly {root : Markup} (h : root.isOrderly = true) :
    documentText root = .ok root.withLineFeeds.document := by
  have hlegal := isLegal_compact root h
  have hstray : Utf8.stray? root.compact = none := strayFrom?_of_isLegal 0 hlegal
  have hnone : root.compact.findIdx? Rune.isIllegal = none := by
    rw [List.findIdx?_eq_none_iff]
    exact isLegal_iff.mp hlegal
  simp only [documentText, hstray, isPlain_of_isOrderly root h, Bool.not_true, Bool.false_eq_true,
    if_false, hnone]

/-- Texts can be written as displays. -/
lemma checkDisplays_of_isTyped {plan : Element} (h : ∀ e ∈ plan.walk, e.IsTyped) :
    checkDisplays plan = .ok () := by
  unfold checkDisplays
  refine forM_eq_ok_iff.mpr fun e he => ?_
  rw [Value.eq_text_of_isText (h e he).settings.display]
  rfl

/-- **A well-typed plan has a document.** -/
theorem render_outcome {plan : Element} (h : ∀ e ∈ plan.walk, e.IsTyped)
    (hd : ∀ e ∈ plan.walk, e.HasDecimals) (hdisplay : ∀ e ∈ plan.walk, e.HasLegalDisplay) :
    (render plan).outcome = .ok (planDocument plan.outline).withLineFeeds.document := by
  have horderly := isOrderly_planDocument (areAllOrderly_outline plan h hdisplay)
  rw [render, Report.bind_outcome, emit_outcome plan h hd, ok_bind, Report.bind_outcome,
    Report.ofExcept_outcome, checkDisplays_of_isTyped h, ok_bind, Report.ofExcept_outcome,
    documentText_of_isOrderly horderly]
  rfl

/-- **No text is lost in the document of a plan.**  All its characters are characters of the format,
and a reader that passes over white space around elements finds the elements that were written: the
same tags in the same order and nesting, and every text without what XML cannot carry and with line
feeds for line ends.  Only an integer that has no decimal text can keep a plan from having a
document. -/
theorem render_reread (plan : Element) (h : ∀ e ∈ plan.walk, e.IsTyped)
    (hdisplay : ∀ e ∈ plan.walk, e.HasLegalDisplay) :
    ((emit plan).outcome = .ok plan.outline ∧ ∃ document, (render plan).outcome = .ok document ∧
      (∀ r ∈ document, r.IsXmlCharacter) ∧
      (readDocument document).map withoutMargins = .ok (planDocument plan.outline).asRead) ∨
    ((∃ e ∈ plan.walk, ¬ e.HasDecimals) ∧ (render plan).outcome = .error .tooManyDigits) := by
  by_cases hd : ∀ e ∈ plan.walk, e.HasDecimals
  · have horderly := isOrderly_planDocument (areAllOrderly_outline plan h hdisplay)
    have hfeeds := isOrderly_withLineFeeds _ horderly
    refine .inl ⟨emit_outcome plan h hd, _, render_outcome h hd hdisplay,
      isXmlCharacter_of_mem_document hfeeds, ?_⟩
    rw [readDocument_document hfeeds]
    show Except.ok _ = _
    rw [withoutMargins_reread _ 0 hfeeds, asRead_withLineFeeds _ horderly]
  · refine .inr ⟨by simpa using hd, ?_⟩
    rw [render, Report.bind_outcome, emit_outcome_of_long plan h hd, error_bind]

/-- The document of the plan that is hard to write is read back. -/
theorem specimen_reread : (emit specimen).outcome = .ok specimen.outline ∧
    ∃ document, (render specimen).outcome = .ok document ∧ (∀ r ∈ document, r.IsXmlCharacter) ∧
      (readDocument document).map withoutMargins = .ok (planDocument specimen.outline).asRead :=
  (render_reread specimen specimen_isTyped (by decide)).resolve_right
    fun ⟨⟨e, he, hlong⟩, _⟩ => hlong (specimen_hasDecimals e he)

end Plan

end LoadPlan
