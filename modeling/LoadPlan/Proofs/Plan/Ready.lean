import LoadPlan.Proofs.Compile.Success
import LoadPlan.Proofs.Plan.Census
import LoadPlan.Proofs.Plan.Settled
import LoadPlan.Proofs.Schema.Sampling

/-!
# Elements that can be written

A plan can be written if each of its elements can be, whatever its switches are.

* `Settings.IsReady` — settings of a supported kind with texts, integers and a display that can be
  written.
* `Element.IsReady` — an element that can be written with all that is below it.
* `isReady_mk` — an element is ready if it is so itself and its children are.
* **`yields_render`** — a plan that is ready has a document.
-/

namespace LoadPlan.Plan

/-! ## Settings -/

/-- **Settings that can be written.** -/
structure Settings.IsReady (settings : Settings) : Prop where
  /-- The kind is one of the eleven. -/
  supported : settings.isSupported = true
  /-- The display is a text that can stand in a document. -/
  display : ∃ t, settings.guiClass = .text t ∧ ∀ r ∈ t, r.isIllegal = false
  /-- Texts are texts. -/
  texts : ∀ v ∈ settings.texts, v.isText = true
  /-- Numbers are integers that are not too long. -/
  integers : ∀ v ∈ settings.integers, ∃ i, v = .int i ∧ IsShort i

/-- A pair of texts. -/
def IsTextPair (pair : Pair) : Prop := pair.1.isText = true ∧ pair.2.isText = true

lemma isTextPair_textPair (pair : Text × Text) : IsTextPair (textPair pair) := ⟨rfl, rfl⟩

lemma isText_pairTexts {pairs : List Pair} (h : ∀ pair ∈ pairs, IsTextPair pair) :
    ∀ v ∈ pairTexts pairs, v.isText = true :=
  forall_pairTexts_iff.mpr h

namespace Settings

lemma isBool_switches_settled (settings : Settings) :
    ∀ v ∈ settings.settled.switches, v.isBool = true := by
  rw [← List.all_eq_true]
  cases settings <;> rfl

lemma texts_settled (settings : Settings) : settings.settled.texts = settings.texts := by
  cases settings <;> rfl

lemma integers_settled (settings : Settings) : settings.settled.integers = settings.integers := by
  cases settings <;> rfl

lemma isSupported_settled (settings : Settings) :
    settings.settled.isSupported = settings.isSupported := by
  cases settings <;> rfl

/-- The displays of all kinds but one are fixed. -/
lemma exists_display {settings : Settings} (hsupported : settings.isSupported = true)
    (hlistener : ∀ collector, settings ≠ .resultCollector collector) :
    ∃ t, settings.guiClass = .text t ∧ ∀ r ∈ t, r.isIllegal = false := by
  cases settings with
  | bare _ => cases hsupported
  | resultCollector collector => exact absurd rfl (hlistener collector)
  | _ => exact ⟨_, rfl, by decide⟩

end Settings

/-! ## Elements -/

/-- **An element that can be written**, with all that is below it. -/
def Element.IsReady (element : Element) : Prop := IsWritable element.settled

lemma isWritable_own {name enabled : Value} {settings : Settings} {children : List Element}
    (hname : name.isText = true) (h : settings.IsReady) :
    let element := (Element.mk name enabled settings children).settled
    element.IsTyped ∧ element.HasDecimals ∧ element.HasLegalDisplay := by
  intro element
  have hsettings : element.settings = settings.settled := Element.settings_settled _
  obtain ⟨display, hdisplay, hlegal⟩ := h.display
  rw [← Settings.guiClass_settled] at hdisplay
  refine ⟨⟨?_, ?_, ?_⟩, ?_, ?_⟩
  · show (Element.mk name enabled settings children).settled.name.isText = true
    rw [Element.settled, Element.name, hname]
  · show (Element.mk name enabled settings children).settled.enabled.isBool = true
    rw [Element.settled]
    rfl
  · rw [hsettings]
    refine ⟨(Settings.isSupported_settled _).trans h.supported, by rw [hdisplay]; rfl, ?_,
      Settings.isBool_switches_settled settings, ?_⟩
    · rw [Settings.texts_settled]
      exact h.texts
    · rw [Settings.integers_settled]
      intro v hv
      obtain ⟨i, rfl, -⟩ := h.integers v hv
      rfl
  · rw [Element.HasDecimals, hsettings, Settings.integers_settled]
    intro v hv
    obtain ⟨i, rfl, hi⟩ := h.integers v hv
    obtain ⟨t, ht⟩ := (Value.spelled_shown (.int i)).exists_of_true hi
    rw [Value.hasDecimal, ht]
    rfl
  · rw [Element.HasLegalDisplay, hsettings, hdisplay]
    exact hlegal

/-- **An element is ready if it is so itself and its children are.** -/
lemma isReady_mk {name enabled : Value} {settings : Settings} {children : List Element}
    (hname : name.isText = true) (h : settings.IsReady) (hchildren : ∀ c ∈ children, c.IsReady) :
    (Element.mk name enabled settings children).IsReady := by
  intro e he
  rw [Element.walk_settled, List.mem_map] at he
  obtain ⟨e, he, rfl⟩ := he
  rw [Element.walk, List.mem_cons, Element.walkAll_eq_flatMap, List.mem_flatMap] at he
  rcases he with rfl | ⟨child, hchild, he⟩
  · exact isWritable_own hname h
  · refine hchildren child hchild e.settled ?_
    rw [Element.walk_settled]
    exact List.mem_map_of_mem he

/-- **A plan that is ready has a document.** -/
theorem yields_render {plan : Element} (h : plan.IsReady) : (render plan).Yields fun _ => True := by
  rw [← render_settled]
  exact .of_exists ⟨_, render_outcome (fun e he => (h e he).1) (fun e he => (h e he).2.1)
    fun e he => (h e he).2.2⟩

/-- What is ready is well-typed, apart from its switches. -/
lemma Element.IsReady.isTyped {element : Element} (h : element.IsReady) :
    ∀ e ∈ element.walk, e.settled.IsTyped := by
  intro e he
  refine (h e.settled ?_).1
  rw [walk_settled]
  exact List.mem_map_of_mem he

/-! ## Kinds of elements -/

section

variable {name : Text}

/-- An element without children, of a kind whose display is fixed and that has no integers. -/
lemma isReady_of_texts {settings : Settings} (hsupported : settings.isSupported = true)
    (hlistener : ∀ collector, settings ≠ .resultCollector collector)
    (htexts : settings.texts.all Value.isText = true) (hintegers : settings.integers = []) :
    (Element.of name settings []).IsReady := by
  have hnone : ∀ v ∈ settings.integers, ∃ i, v = .int i ∧ IsShort i := by
    rw [hintegers]
    exact List.forall_mem_nil _
  have hdisplay := Settings.exists_display hsupported hlistener
  exact isReady_mk rfl ⟨hsupported, hdisplay, List.all_eq_true.mp htexts, hnone⟩
    (List.forall_mem_nil _)

lemma isReady_headerManager {headers : List Pair} (h : ∀ pair ∈ headers, IsTextPair pair) :
    (Element.of name (.headerManager { headers }) []).IsReady :=
  isReady_of_texts rfl (by rintro collector ⟨⟩)
    (List.all_eq_true.mpr (isText_pairTexts h)) rfl

end

end LoadPlan.Plan
