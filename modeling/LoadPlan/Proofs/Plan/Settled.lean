import LoadPlan.Proofs.Plan.Finding

/-!
# Plans that have a document

Switches of a plan come from configurations as they are, and are written by whether they count as
true.  A plan is therefore written like the one that has truth values in their place.

* `Element.settled` — an element with truth values for switches.
* `render_settled` — both are written in the same way.
* `Settings.written_eq_outline` — well-typed settings are written as their outline.
* **`documentElements_of_render`** — whatever document a plan with well-typed texts and integers has, a reader
  finds the elements of the plan in it, in the order of a walk.
-/

namespace LoadPlan

/-- Whether a value counts as true, as a value. -/
def Value.truth (v : Value) : Value := .bool v.isTruthy

namespace Plan

open Markup

/-! ## Switches -/

/-- Settings with truth values for switches. -/
def Settings.settled : Settings → Settings
  | threadGroup s => threadGroup { s with scheduler := s.scheduler.truth }
  | httpSampler s =>
    httpSampler
      { s with followRedirects := s.followRedirects.truth, useKeepalive := s.useKeepalive.truth }
  | responseAssertion s => responseAssertion { s with assumeSuccess := s.assumeSuccess.truth }
  | csvDataSet s =>
    csvDataSet
      { s with
        ignoreFirstLine := s.ignoreFirstLine.truth
        quotedData := s.quotedData.truth
        recycle := s.recycle.truth
        stopThread := s.stopThread.truth }
  | s => s

namespace Element

mutual

/-- **An element with truth values for switches.** -/
def settled : Element → Element
  | mk name enabled settings children => mk name enabled.truth settings.settled (allSettled children)

def allSettled : List Element → List Element
  | [] => []
  | first :: rest => first.settled :: allSettled rest

end

mutual

lemma walk_settled : ∀ element : Element, element.settled.walk = element.walk.map settled
  | mk name enabled settings children => by
      rw [settled, walk, walk, List.map_cons, walkAll_allSettled children, settled]

lemma walkAll_allSettled : ∀ elements : List Element,
    walkAll (allSettled elements) = (walkAll elements).map settled
  | [] => rfl
  | first :: rest => by
      rw [allSettled, walkAll, walkAll, List.map_append, walk_settled first,
        walkAll_allSettled rest]

end

lemma settings_settled : ∀ element : Element, element.settled.settings = element.settings.settled
  | mk _ _ _ _ => by rw [settled, settings, settings]

end Element

lemma Settings.guiClass_settled (settings : Settings) :
    settings.settled.guiClass = settings.guiClass := by
  cases settings <;> rfl

lemma emitOwn_settled (name enabled : Value) (settings : Settings) :
    emitOwn name enabled.truth settings.settled = emitOwn name enabled settings := by
  cases settings with
  | bare _ => rfl
  | _ => cases name <;> rfl

mutual

/-- **Switches are written by whether they count as true.** -/
lemma emit_settled : ∀ element : Element, emit element.settled = emit element
  | .mk name enabled settings children => by
      rw [Element.settled, emit, emit, emitOwn_settled, emitAll_settled children]

lemma emitAll_settled : ∀ elements : List Element,
    emitAll (Element.allSettled elements) = emitAll elements
  | [] => rfl
  | first :: rest => by
      rw [Element.allSettled, emitAll, emitAll, emit_settled first, emitAll_settled rest]

end

lemma checkDisplays_settled (plan : Element) : checkDisplays plan.settled = checkDisplays plan := by
  rw [checkDisplays, checkDisplays, Element.walk_settled]
  generalize plan.walk = elements
  induction elements with
  | nil => rfl
  | cons first rest ih =>
      show (discard (attributeValue first.settled.settings.guiClass) >>= fun _ =>
        (rest.map Element.settled).forM _) =
          (discard (attributeValue first.settings.guiClass) >>= fun _ => rest.forM _)
      rw [Element.settings_settled, Settings.guiClass_settled]
      exact bind_congr fun _ => ih

lemma render_settled (plan : Element) : render plan.settled = render plan := by
  rw [render, render, emit_settled, checkDisplays_settled]

/-! ## What a reader finds in a document -/

/-- Well-typed settings are written as their outline. -/
lemma Settings.written_eq_outline {settings : Settings} (h : settings.IsTyped)
    (hd : ∀ v ∈ settings.integers, v.hasDecimal = true) : settings.written = settings.outline := by
  have hproperties := Settings.properties_outcome [] h hd
  exact (Settings.properties_eq_ok_iff.mp hproperties).2.symm

lemma Element.ownWritten_eq_ownOutline {element : Element} (h : element.IsTyped)
    (hd : element.HasDecimals) : element.ownWritten = element.ownOutline := by
  rw [ownWritten, ownOutline, Settings.written_eq_outline h.settings hd,
    Settings.display_of_isText h.settings.display]

/-- **The elements of a plan are found in its document**, whatever its document is. -/
theorem documentElements_of_render {plan : Element} {document : Text}
    (h : ∀ e ∈ plan.walk, e.settled.IsTyped) (hdocument : (render plan).outcome = .ok document) :
    documentElements document = .ok (plan.walk.map fun e => e.settled.ownOutline.asRead) := by
  have hsettled : ∀ e ∈ plan.settled.walk, e.IsTyped := by
    rw [Element.walk_settled]
    exact List.forall_mem_map.mpr h
  rw [← render_settled] at hdocument
  have hprintable := (documentText_of_render hdocument).1
  have hsame : ∀ e ∈ plan.settled.walk, e.ownWritten.asRead = e.ownOutline.asRead := fun e he =>
    congrArg asRead (Element.ownWritten_eq_ownOutline (hsettled e he) (hprintable e he).integers)
  rw [documentElements_of_written (fun e he => (hsettled e he).settings.display) hdocument,
    List.map_congr_left hsame, Element.walk_settled, List.map_map]
  rfl

end Plan

end LoadPlan
