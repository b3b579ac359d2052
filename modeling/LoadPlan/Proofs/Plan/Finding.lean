import LoadPlan.Proofs.Plan.Recovery
import LoadPlan.Proofs.Plan.Rendering
import LoadPlan.Proofs.Plan.Written

/-!
# What a reader finds in the document of a plan

Whatever settings a plan has, its document is there only if all its characters can stand in it.  What is
written is then orderly markup, in which a reader finds what was written for each element.

* `documentElements` — the elements that a reader finds in a document.
* `Element.isOrderly_ownWritten` — what is written for an element is orderly, if it can stand in a document.
* **`documentElements_of_written`** — a reader finds the elements of a plan in its document, in the order of a
  walk, provided that all displays are texts.
-/

namespace LoadPlan

/-! ## What a document shows of markup -/

namespace Markup

lemma onlyText?_cons_cons (first second : Markup) (rest : List Markup) :
    onlyText? (first :: second :: rest) = none := by
  cases first <;> rfl

lemma isLegal_of_escape {r : Rune} (h : isLegal (escape r) = true) : r.isIllegal = false := by
  unfold escape at h
  split_ifs at h
  all_goals first
    | subst r
      decide
    | exact isLegal_iff.mp h r List.mem_cons_self

lemma isLegal_of_escapeText {r : Rune} (h : isLegal (escapeText r) = true) : r.isIllegal = false := by
  unfold escapeText at h
  split_ifs at h
  · exact isLegal_iff.mp h r List.mem_cons_self
  · exact isLegal_of_escape h

lemma isLegal_of_escapeAttribute {r : Rune} (h : isLegal (escapeAttribute r) = true) :
    r.isIllegal = false := by
  unfold escapeAttribute at h
  split_ifs at h
  all_goals first
    | subst r
      decide
    | exact isLegal_of_escape h

/-- Escapes do not hide a character that XML cannot carry. -/
lemma isLegal_of_flatMap {escaped : Rune → Text}
    (hescaped : ∀ r, isLegal (escaped r) = true → r.isIllegal = false)
    {t : Text} (h : isLegal (t.flatMap escaped) = true) : isLegal t = true := by
  refine isLegal_iff.mpr fun r hr => hescaped r (isLegal_iff.mpr fun s hs => ?_)
  exact isLegal_iff.mp h s (List.mem_flatMap.mpr ⟨r, hr, hs⟩)

section

variable {tag : Text} {attributes : Attributes} {content : List Markup}

/-- The texts of attributes stand in what is written for an element. -/
lemma isLegal_of_attribute (h : isLegal (element tag attributes content).compact = true) {name t : Text}
    (hmem : (name, .text t) ∈ attributes) : isLegal t = true := by
  rw [compact, openingTag, isLegal_append, isLegal_append] at h
  have hattribute : isLegal (attributeText escapeAttribute (name, .text t)) = true :=
    isLegal_iff.mpr fun r hr => isLegal_iff.mp h.1.2 r (List.mem_flatMap.mpr ⟨_, hmem, hr⟩)
  rw [attributeText, isLegal_append, isLegal_append] at hattribute
  exact isLegal_of_flatMap (fun _ => isLegal_of_escapeAttribute) hattribute.1.2

/-- What stands between the tags of an element is written unless it is nothing. -/
lemma isLegal_of_content (h : isLegal (element tag attributes content).compact = true) :
    isLegal (allCompact content) = true := by
  rw [compact, isLegal_append] at h
  have hinside := h.2
  split_ifs at hinside with hvoid
  · unfold isVoid at hvoid
    split at hvoid
    · rfl
    · rfl
    · cases hvoid
  · rw [isLegal_append, isLegal_append] at hinside
    exact hinside.1.2

lemma isLegal_of_leaf {t : Text} (h : isLegal (leaf tag attributes t).compact = true) :
    isLegal t = true := by
  have hcontent := isLegal_of_content h
  rw [allCompact, isLegal_append, compact] at hcontent
  exact isLegal_of_flatMap (fun _ => isLegal_of_escapeText) hcontent.1

end

end Markup

namespace Plan

open Markup

/-- There is no document of markup that holds a character that XML cannot carry. -/
lemma isLegal_of_documentText {root : Markup} (hplain : root.isPlain = true) {document : Text}
    (h : documentText root = .ok document) : isLegal root.compact = true := by
  simp only [documentText, hplain, Bool.not_true, Bool.false_eq_true, if_false] at h
  split at h
  · cases h
  · split at h
    · cases h
    · rename_i hnone
      exact isLegal_iff.mpr (List.findIdx?_eq_none_iff.mp hnone)

/-! ## Elements that are laid out -/

section

variable {own : Element → Markup}

lemma areAllPlain_allLaid (elements : List Element)
    (h : ∀ e ∈ Element.walkAll elements, (own e).isPlain = true) :
    areAllPlain (Element.allLaid own elements) = true := by
  induction elements using Element.list_induction with
  | nil => rfl
  | cons name enabled settings children rest ihchildren ihrest =>
      simp only [Element.walkAll, Element.walk, List.cons_append, List.forall_mem_cons,
        List.forall_mem_append] at h
      simp only [Element.allLaid, Element.laid, container, List.cons_append, List.nil_append, areAllPlain,
        isPlain, h.1, ihchildren h.2.1, ihrest h.2.2]
      rfl

lemma areAllOrderly_allLaid (elements : List Element)
    (h : ∀ e ∈ Element.walkAll elements, (own e).isOrderly = true) :
    areAllOrderly (Element.allLaid own elements) = true := by
  induction elements using Element.list_induction with
  | nil => rfl
  | cons name enabled settings children rest ihchildren ihrest =>
      simp only [Element.walkAll, Element.walk, List.cons_append, List.forall_mem_cons,
        List.forall_mem_append] at h
      exact areAllOrderly_cons h.1
        (areAllOrderly_cons (isOrderly_container (ihchildren h.2.1)) (ihrest h.2.2))

/-- What is written for an element stands in what is laid out. -/
lemma isLegal_of_allLaid (elements : List Element)
    (h : isLegal (allCompact (Element.allLaid own elements)) = true) :
    ∀ e ∈ Element.walkAll elements, isLegal (own e).compact = true := by
  induction elements using Element.list_induction with
  | nil => exact List.forall_mem_nil _
  | cons name enabled settings children rest ihchildren ihrest =>
      simp only [Element.allLaid, Element.laid, List.cons_append, List.nil_append, allCompact,
        isLegal_append] at h
      obtain ⟨hown, hbelow, hrest⟩ := h
      simp only [Element.walkAll, Element.walk, List.cons_append, List.forall_mem_cons,
        List.forall_mem_append]
      exact ⟨hown, ihchildren (isLegal_of_content hbelow), ihrest hrest⟩

lemma asRead_container : ∀ elements : List Element,
    (container (Element.allLaid own elements)).asRead =
      container (allAsRead (Element.allLaid own elements))
  | [] => rfl
  | .mk name enabled settings children :: rest => by
      rw [Element.allLaid, Element.laid, List.cons_append, List.cons_append, List.nil_append, container, asRead,
        onlyText?_cons_cons]
      rfl

/-- What stands in containers is what a walk meets, also when it is read. -/
lemma allTestElements_allLaid (elements : List Element)
    (h : ∀ e ∈ Element.walkAll elements, testElements (own e).asRead = [(own e).asRead]) :
    allTestElements (allAsRead (Element.allLaid own elements)) =
      (Element.walkAll elements).map fun e => (own e).asRead := by
  induction elements using Element.list_induction with
  | nil => rfl
  | cons name enabled settings children rest ihchildren ihrest =>
      simp only [Element.walkAll, Element.walk, List.cons_append, List.forall_mem_cons,
        List.forall_mem_append] at h
      have hbelow : testElements (container (Element.allLaid own children)).asRead =
          allTestElements (allAsRead (Element.allLaid own children)) := by
        rw [asRead_container, container_eq, testElements, if_pos rfl]
      simp only [Element.allLaid, Element.laid, List.cons_append, List.nil_append, allAsRead, allTestElements,
        h.1, hbelow, ihchildren h.2.1, ihrest h.2.2, Element.walkAll, Element.walk, List.map_cons,
        List.map_append]

end

/-! ## What is written for an element -/

namespace Settings

lemma areAllPlain_written (settings : Settings) : areAllPlain settings.written = true := by
  have houtline := areAllPlain_of_areAllOrderly _ settings.areAllOrderly_outline
  cases settings with
  | responseAssertion assertion =>
      simp only [outline, ResponseAssertion.outline, areAllPlain, Bool.and_eq_true] at houtline
      obtain ⟨hstrings, hmessage, hfield, hsuccess, -⟩ := houtline
      simp only [written, areAllPlain, hstrings, hmessage, hfield, hsuccess]
      rfl
  | durationAssertion assertion => rfl
  | _ => exact houtline

/-- Properties are orderly, if they can stand in a document. -/
lemma areAllOrderly_written {settings : Settings} (h : isLegal (allCompact settings.written) = true) :
    areAllOrderly settings.written = true := by
  have houtline := settings.areAllOrderly_outline
  cases settings with
  | responseAssertion assertion =>
      simp only [outline, ResponseAssertion.outline, areAllOrderly, Bool.and_eq_true] at houtline
      obtain ⟨hstrings, hmessage, hfield, hsuccess, -⟩ := houtline
      simp only [written, allCompact, isLegal_append] at h
      obtain ⟨-, -, -, -, htype, -⟩ := h
      have hlast : (Markup.leaf "intProp" [("name", "Assertion.test_type")]
          assertion.testType.shownText).isOrderly = true :=
        isOrderly_namedLeaf (by decide) (isLegal_literal (by decide)) (isLegal_of_leaf htype)
      simp only [written, areAllOrderly, hstrings, hmessage, hfield, hsuccess, hlast]
      rfl
  | durationAssertion assertion =>
      exact areAllOrderly_singleton (isOrderly_textLeaf (isLegal_literal (by decide)) _)
  | _ => exact houtline

end Settings

namespace Element

variable {element : Element}

lemma isPlain_ownWritten (hdisplay : element.settings.guiClass.isText = true) :
    element.ownWritten.isPlain = true := by
  rw [ownWritten, Settings.display_of_isText hdisplay, isPlain, element.settings.areAllPlain_written]
  rfl

/-- The display of an element stands in what is written for it. -/
lemma hasLegalDisplay_of_compact (hdisplay : element.settings.guiClass.isText = true)
    (h : isLegal element.ownWritten.compact = true) : element.HasLegalDisplay := by
  rw [ownWritten, Settings.display_of_isText hdisplay] at h
  exact isLegal_iff.mp (isLegal_of_attribute h List.mem_cons_self)

/-- **What is written for an element is orderly**, if it can stand in a document. -/
lemma isOrderly_ownWritten (hprintable : element.IsPrintable)
    (hdisplay : element.settings.guiClass.isText = true)
    (h : isLegal element.ownWritten.compact = true) : element.ownWritten.isOrderly = true := by
  have hlegal := hasLegalDisplay_of_compact hdisplay h
  have hcontent := Settings.areAllOrderly_written (isLegal_of_content h)
  rw [ownWritten, Settings.display_of_isText hdisplay]
  exact isOrderly_ownElement hprintable.supported hlegal hcontent

lemma testElements_ownWritten (element : Element) :
    testElements element.ownWritten.asRead = [element.ownWritten.asRead] := by
  rw [ownWritten, asRead, testElements, if_neg element.settings.tag_ne_containerTag]

end Element

/-! ## Documents -/

/-- **The elements that a reader finds in a document**, in its order, when it passes over white space
around elements. -/
def documentElements (document : Text) : Except RenderFault (List Markup) :=
  (readDocument document).map fun root => allTestElements root.withoutMargins.content

section

variable {plan : Element} {document : Text}

/-- A document is that of what is written for the elements of its plan. -/
lemma documentText_of_render (h : (render plan).outcome = .ok document) :
    (∀ e ∈ plan.walk, e.IsPrintable) ∧
      documentText (planDocument (plan.laid Element.ownWritten)) = .ok document := by
  obtain ⟨content, hcontent, h⟩ := Report.exists_of_bind h
  obtain ⟨-, -, h⟩ := Report.exists_of_bind h
  obtain ⟨hprintable, rfl⟩ := (emit_eq_ok_iff plan).mp hcontent
  refine ⟨hprintable, ?_⟩
  cases htext : documentText (planDocument (plan.laid Element.ownWritten)) with
  | error fault =>
      rw [Report.ofExcept_outcome, htext] at h
      cases h
  | ok text =>
      rw [Report.ofExcept_outcome, htext] at h
      exact congrArg Except.ok (Except.ok.inj h)

lemma isPlain_planDocument {content : List Markup} (h : areAllPlain content = true) :
    (planDocument content).isPlain = true := by
  simp only [planDocument, container, isPlain, areAllPlain, h]
  rfl

/-- What is written for each element of a plan stands in its document. -/
lemma isLegal_of_render (hdisplay : ∀ e ∈ plan.walk, e.settings.guiClass.isText = true)
    (h : (render plan).outcome = .ok document) :
    ∀ e ∈ plan.walk, isLegal e.ownWritten.compact = true := by
  rw [Element.walk_eq_walkAll] at hdisplay ⊢
  have hdocument := (documentText_of_render h).2
  rw [Element.laid_eq_allLaid] at hdocument
  have hplain : areAllPlain (Element.allLaid Element.ownWritten [plan]) = true :=
    areAllPlain_allLaid _ fun e he => Element.isPlain_ownWritten (hdisplay e he)
  have hlegal := isLegal_of_content (isLegal_of_documentText (isPlain_planDocument hplain) hdocument)
  rw [allCompact, isLegal_append] at hlegal
  exact isLegal_of_allLaid _ (isLegal_of_content hlegal.1)

lemma hasLegalDisplay_of_render (hdisplay : ∀ e ∈ plan.walk, e.settings.guiClass.isText = true)
    (h : (render plan).outcome = .ok document) : ∀ e ∈ plan.walk, e.HasLegalDisplay :=
  fun e he => Element.hasLegalDisplay_of_compact (hdisplay e he) (isLegal_of_render hdisplay h e he)

/-- **A reader finds the elements of a plan in its document**, whatever settings they have, provided that all
displays are texts. -/
theorem documentElements_of_written (hdisplay : ∀ e ∈ plan.walk, e.settings.guiClass.isText = true)
    (h : (render plan).outcome = .ok document) :
    documentElements document = .ok (plan.walk.map fun e => e.ownWritten.asRead) := by
  obtain ⟨hprintable, hdocument⟩ := documentText_of_render h
  have hlegal := isLegal_of_render hdisplay h
  rw [Element.laid_eq_allLaid] at hdocument
  rw [Element.walk_eq_walkAll] at hdisplay hprintable hlegal ⊢
  have horderly := isOrderly_planDocument (areAllOrderly_allLaid _ fun e he =>
    Element.isOrderly_ownWritten (hprintable e he) (hdisplay e he) (hlegal e he))
  have hfeeds := isOrderly_withLineFeeds _ horderly
  obtain rfl := Except.ok.inj ((documentText_of_isOrderly horderly).symm.trans hdocument)
  have hread : (planDocument (Element.allLaid Element.ownWritten [plan])).asRead.content =
      [container (allAsRead (Element.allLaid Element.ownWritten [plan]))] := by
    rw [← asRead_container]
    rfl
  rw [documentElements, readDocument_document hfeeds]
  show Except.ok (allTestElements (withoutMargins _).content) = _
  rw [withoutMargins_reread _ 0 hfeeds, asRead_withLineFeeds _ horderly, hread, allTestElements, container_eq,
    testElements, if_pos rfl, allTestElements_allLaid _ fun e _ => e.testElements_ownWritten]
  exact congrArg Except.ok (List.append_nil _)

end

end Plan

end LoadPlan
