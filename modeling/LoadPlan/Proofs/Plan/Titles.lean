import LoadPlan.Proofs.Plan.Finding
import Mathlib.Data.List.Forall2

/-!
# Names that a reader finds

The name of an element is an attribute of it, and so is the name of an argument.  Marks are escaped there, but
tabulators and line ends are not, and a reader takes these for blanks.

* `Markup.argumentParts` — the arguments in some markup; `Settings.argumentNames` — the names of arguments.
* `ReadsName` — how a name is read, and when that is the name.
* **`titles_read`** — the names of elements and arguments that a reader finds in a document.
* `tabbed_read` — a tabulator in the name of a plan is read as a blank.
-/

namespace LoadPlan

/-! ## Arguments in markup -/

namespace Markup

/-- The kinds of arguments. -/
def argumentTypes : List Text := ["Argument", "HTTPArgument"]

/-- Whether an element is an argument. -/
def isArgument (part : Markup) : Bool :=
  match part with
  | element tag _ _ =>
    tag = "elementProp" && argumentTypes.any fun type => part.attribute? "elementType" = some type
  | _ => false

mutual

/-- **The arguments in some markup**, at any depth. -/
def argumentParts : Markup → List Markup
  | element tag attributes content =>
    (if (element tag attributes content).isArgument then [element tag attributes content] else [])
      ++ allArgumentParts content
  | _ => []

def allArgumentParts : List Markup → List Markup
  | [] => []
  | part :: parts => argumentParts part ++ allArgumentParts parts

end

lemma allArgumentParts_append (xs ys : List Markup) :
    allArgumentParts (xs ++ ys) = allArgumentParts xs ++ allArgumentParts ys := by
  induction xs with
  | nil => rfl
  | cons x xs ih => rw [List.cons_append, allArgumentParts, allArgumentParts, ih, List.append_assoc]

lemma allArgumentParts_map {α : Type} {write : α → Markup} (h : ∀ a, argumentParts (write a) = [write a])
    (xs : List α) : allArgumentParts (xs.map write) = xs.map write := by
  induction xs with
  | nil => rfl
  | cons x xs ih => rw [List.map_cons, allArgumentParts, h, ih, List.singleton_append]

lemma allArgumentParts_eq_nil {parts : List Markup} (h : ∀ part ∈ parts, argumentParts part = []) :
    allArgumentParts parts = [] := by
  induction parts with
  | nil => rfl
  | cons part parts ih =>
      rw [allArgumentParts, h part List.mem_cons_self, ih fun p hp => h p (List.mem_cons_of_mem part hp)]
      rfl

lemma argumentParts_element {tag : Text} (htag : tag ≠ "elementProp") (attributes : Attributes)
    (content : List Markup) : argumentParts (element tag attributes content) = allArgumentParts content := by
  simp [argumentParts, isArgument, htag]

lemma argumentParts_leaf {tag : Text} (htag : tag ≠ "elementProp") (attributes : Attributes) (t : Text) :
    argumentParts (leaf tag attributes t) = [] :=
  argumentParts_element htag attributes [text t]

/-! ## Arguments that are read -/

/-- Attributes are read one by one. -/
lemma lookup_rereadAttributes (name : Text) (attributes : Attributes) :
    (rereadAttributes attributes).lookup name =
      (attributes.lookup name).map fun value => .text (said (name, value)).2 := by
  induction attributes with
  | nil => rfl
  | cons pair rest ih =>
      obtain ⟨key, value⟩ := pair
      rw [rereadAttributes, List.map_cons, List.lookup_cons, List.lookup_cons, said_fst]
      cases hkey : name == key with
      | false => exact ih
      | true =>
          rw [eq_of_beq hkey]
          rfl

lemma attribute?_asRead_of_eq : ∀ {part : Markup} {name t : Text}, part.attribute? name = some t →
    part.asRead.attribute? name = some t.asValue
  | element tag attributes content, name, t, h => by
      rw [attribute?] at h
      split at h
      · rename_i s hlookup
        obtain rfl := Option.some.inj h
        rw [asRead, attribute?, lookup_rereadAttributes, hlookup]
        rfl
      · cases h

lemma attribute?_asRead_of_none : ∀ {part : Markup} {name : Text}, part.isPlain = true →
    part.attribute? name = none → part.asRead.attribute? name = none
  | element tag attributes content, name, hplain, h => by
      rw [isPlain, Bool.and_eq_true] at hplain
      rw [asRead, attribute?, lookup_rereadAttributes]
      cases hlookup : attributes.lookup name with
      | none => rfl
      | some value =>
          cases value with
          | text t =>
              rw [attribute?, hlookup] at h
              cases h
          | raw t =>
              obtain ⟨before, after, rfl, -⟩ := List.lookup_eq_some_iff.mp hlookup
              simp [AttributeValue.isText] at hplain
  | text _, _, _, _ | literal _, _, _, _ | comment _, _, _, _ | instruction _ _, _, _, _ => rfl

/-- Reading leaves arguments what they are. -/
lemma isArgument_asRead {part : Markup} (h : part.isPlain = true) : part.asRead.isArgument = part.isArgument := by
  cases part with
  | element tag attributes content =>
      have htype : ∀ type ∈ argumentTypes,
          ((element tag attributes content).asRead.attribute? "elementType" = some type ↔
            (element tag attributes content).attribute? "elementType" = some type) := by
        intro type htype
        have hspace : ∀ r ∈ type, isSpace r = false := by
          revert type
          decide
        cases hattribute : (element tag attributes content).attribute? "elementType" with
        | none => rw [attribute?_asRead_of_none h hattribute]
        | some t => rw [attribute?_asRead_of_eq hattribute, Option.some_inj, Option.some_inj,
            Text.asValue_eq_iff hspace]
      refine congrArg (decide (tag = "elementProp") && ·) (Bool.eq_iff_iff.mpr ?_)
      simp only [List.any_eq_true, decide_eq_true_eq]
      exact exists_congr fun type => and_congr_right (htype type)
  | _ => rfl

mutual

/-- **The arguments that a reader finds** are those that are written. -/
lemma argumentParts_asRead : ∀ part : Markup, part.isPlain = true →
    argumentParts part.asRead = (argumentParts part).map asRead
  | element tag attributes content, h => by
      have hself := isArgument_asRead h
      rw [isPlain, Bool.and_eq_true] at h
      have hinside : allArgumentParts (element tag attributes content).asRead.content =
          (allArgumentParts content).map asRead := by
        rw [asRead, Markup.content]
        split
        · rename_i t ht
          have hnone : allArgumentParts (textPart t.lineFeeds) = [] := by
            unfold textPart
            split_ifs <;> rfl
          rcases eq_of_onlyText? ht with rfl | rfl <;> exact hnone
        · exact allArgumentParts_allAsRead content h.2
      obtain ⟨inside, hread⟩ : ∃ inside, (element tag attributes content).asRead =
          element tag (rereadAttributes attributes) inside := ⟨_, rfl⟩
      rw [hread, Markup.content] at hinside
      rw [hread] at hself
      rw [hread, argumentParts, argumentParts, hself, hinside, List.map_append]
      split_ifs
      · rw [List.map_singleton, hread]
      · rfl
  | text _, _ | literal _, _ | comment _, _ | instruction _ _, _ => rfl

lemma allArgumentParts_allAsRead : ∀ parts : List Markup, areAllPlain parts = true →
    allArgumentParts (allAsRead parts) = (allArgumentParts parts).map asRead
  | [], _ => rfl
  | part :: parts, h => by
      rw [areAllPlain, Bool.and_eq_true] at h
      rw [allAsRead, allArgumentParts, allArgumentParts, argumentParts_asRead part h.1,
        allArgumentParts_allAsRead parts h.2, List.map_append]

end

end Markup

namespace Plan

open Markup

/-! ## Names of arguments -/

/-- **The names of the arguments of settings.**  A body is sent as an argument without a name. -/
def Settings.argumentNames : Settings → List Text
  | testPlan plan => plan.userVariables.map (·.1.asText)
  | httpSampler sampler =>
    match sampler.body with
    | .null => sampler.arguments.map (·.1.asText)
    | _ => [[]]
  | _ => []

section

variable (name : Text) (parts : List Markup)

@[simp] lemma argumentParts_textLeaf (v : Value) : argumentParts (textLeaf name v) = [] :=
  argumentParts_leaf (by simp [Text.ofString_inj]) ..

@[simp] lemma argumentParts_stringLeaf (t : Text) :
    argumentParts (.leaf "stringProp" [("name", name)] t) = [] :=
  argumentParts_leaf (by simp [Text.ofString_inj]) ..

@[simp] lemma argumentParts_truthProperty (v : Value) : argumentParts (truthProperty name v) = [] :=
  argumentParts_leaf (by simp [Text.ofString_inj]) ..

@[simp] lemma argumentParts_emptyProperty : argumentParts (emptyProperty name) = [] :=
  argumentParts_leaf (by simp [Text.ofString_inj]) ..

@[simp] lemma argumentParts_collection :
    argumentParts (collection name parts) = allArgumentParts parts :=
  argumentParts_element (by simp [Text.ofString_inj]) ..

section

variable {type : Text} (more : Attributes)

lemma isArgument_partsProperty :
    (partsProperty name type more parts).isArgument = true ↔ type ∈ argumentTypes := by
  have htype : (partsProperty name type more parts).attribute? "elementType" = some type := by
    rw [partsProperty, branch, attribute?_cons_of_ne _ (by simp [Text.ofString_inj]), attribute?_cons_self]
  have htag : (partsProperty name type more parts).isArgument =
      argumentTypes.any fun other => (partsProperty name type more parts).attribute? "elementType" = some other := by
    rw [partsProperty, isArgument, decide_eq_true rfl, Bool.true_and]
  rw [htag, htype]
  simp

lemma argumentParts_partsProperty (htype : type ∉ argumentTypes) :
    argumentParts (partsProperty name type more parts) = allArgumentParts parts := by
  have hself := mt (isArgument_partsProperty name parts more).mp htype
  rw [partsProperty] at hself ⊢
  rw [argumentParts, if_neg hself, List.nil_append]

lemma argumentParts_argument (htype : type ∈ argumentTypes) (hparts : allArgumentParts parts = []) :
    argumentParts (partsProperty name type more parts) = [partsProperty name type more parts] := by
  have hself := (isArgument_partsProperty name parts more).mpr htype
  rw [partsProperty] at hself ⊢
  rw [argumentParts, if_pos hself, hparts, List.append_nil]

end

end

section

variable (pair : Pair)

lemma argumentParts_variableOutline : argumentParts (variableOutline pair) = [variableOutline pair] :=
  argumentParts_argument _ _ _ (by simp [argumentTypes]) (by simp [allArgumentParts])

lemma argumentParts_argumentOutline : argumentParts (argumentOutline pair) = [argumentOutline pair] :=
  argumentParts_argument _ _ _ (by simp [argumentTypes]) (by simp [allArgumentParts])

lemma argumentParts_headerOutline : argumentParts (headerOutline pair) = [] := by
  rw [headerOutline, argumentParts_partsProperty _ _ _ (by simp [argumentTypes, Text.ofString_inj])]
  simp [allArgumentParts]

end

lemma argumentParts_argumentsProperty (name display : Text) (parts : List Markup) :
    argumentParts (argumentsProperty name display parts) = allArgumentParts parts := by
  rw [argumentsProperty, argumentParts_partsProperty _ _ _ (by simp [argumentTypes, Text.ofString_inj])]
  simp [allArgumentParts]

lemma argumentParts_argumentsOutline (arguments : List Pair) :
    argumentParts (argumentsOutline arguments) = arguments.map argumentOutline := by
  rw [argumentsOutline, argumentParts_argumentsProperty, allArgumentParts_map argumentParts_argumentOutline]

@[simp] lemma argumentParts_saveConfig : argumentParts saveConfig = [] := by
  have hfields : allArgumentParts (savedFields.map fun pair => .leaf pair.1 [] pair.2) = [] := by
    refine allArgumentParts_eq_nil fun part hpart => ?_
    obtain ⟨pair, -, rfl⟩ := List.mem_map.mp hpart
    simp [argumentParts, isArgument, attribute?, allArgumentParts]
  rw [saveConfig, argumentParts_element (by simp [Text.ofString_inj]), allArgumentParts, allArgumentParts,
    argumentParts_leaf (by simp [Text.ofString_inj]), argumentParts_element (by simp [Text.ofString_inj]),
    hfields]
  rfl

/-- A body stands in one argument, which has no name. -/
lemma forall₂_bodyArgument (body : Value) :
    List.Forall₂ (fun name part => part.attribute? "name" = some (Text.legal name)) [[]]
      (allArgumentParts (bodyOutline body)) := by
  rw [bodyOutline, allArgumentParts, argumentParts_truthProperty, allArgumentParts,
    argumentParts_partsProperty _ _ _ (by simp [argumentTypes, Text.ofString_inj])]
  simp only [allArgumentParts, argumentParts_collection, List.append_nil, List.nil_append]
  rw [argumentParts_argument _ _ _ (by simp [argumentTypes]) (by simp [allArgumentParts])]
  exact .cons (attribute?_partsProperty ..) .nil

/-- An argument has the name that it is written with. -/
lemma forall₂_argumentParts {write : Pair → Markup}
    (h : ∀ pair : Pair, (write pair).attribute? "name" = some pair.1.asText.legal) (pairs : List Pair) :
    List.Forall₂ (fun name part => part.attribute? "name" = some name.legal) (pairs.map (·.1.asText))
      (pairs.map write) := by
  rw [List.forall₂_map_left_iff, List.forall₂_map_right_iff, List.forall₂_same]
  exact fun pair _ => h pair

/-- **The arguments that are written for settings** have the names of their arguments. -/
lemma forall₂_argumentNames (settings : Settings) :
    List.Forall₂ (fun name part => part.attribute? "name" = some name.legal) settings.argumentNames
      (allArgumentParts settings.written) := by
  cases settings with
  | testPlan plan =>
      have hparts : allArgumentParts (Settings.testPlan plan).written =
          plan.userVariables.map variableOutline := by
        simp [Settings.written, Settings.outline, TestPlan.outline, allArgumentParts,
          argumentParts_argumentsProperty, allArgumentParts_map argumentParts_variableOutline]
      rw [hparts]
      exact forall₂_argumentParts (fun pair => attribute?_partsProperty ..) _
  | httpSampler sampler =>
      have hparts : allArgumentParts (Settings.httpSampler sampler).written =
          allArgumentParts sampler.contentOutline := by
        simp [Settings.written, Settings.outline, HttpSampler.outline, allArgumentParts, allArgumentParts_append]
      rw [hparts, HttpSampler.contentOutline, Settings.argumentNames]
      cases sampler.body with
      | null =>
          simp only [allArgumentParts, argumentParts_argumentsOutline, List.append_nil]
          exact forall₂_argumentParts (fun pair => attribute?_partsProperty ..) _
      | _ => exact forall₂_bodyArgument _
  | threadGroup group =>
      simp (disch := simp [argumentTypes, Text.ofString_inj]) [Settings.argumentNames, Settings.written,
        Settings.outline, ThreadGroup.outline, allArgumentParts, argumentParts_partsProperty]
  | httpDefaults defaults =>
      simp [Settings.argumentNames, Settings.written, Settings.outline, HttpDefaults.outline, allArgumentParts,
        argumentParts_argumentsOutline]
  | responseAssertion assertion =>
      have hstrings : allArgumentParts (assertion.testStrings.map testStringOutline) = [] := by
        refine allArgumentParts_eq_nil fun part hpart => ?_
        obtain ⟨value, -, rfl⟩ := List.mem_map.mp hpart
        exact argumentParts_textLeaf _ _
      have htype : ∀ t : Text, argumentParts (.leaf "intProp" [("name", "Assertion.test_type")] t) = [] :=
        argumentParts_leaf (by simp [Text.ofString_inj]) _
      simp [Settings.argumentNames, Settings.written, allArgumentParts, hstrings, htype]
  | headerManager manager =>
      have hheaders : allArgumentParts (manager.headers.map headerOutline) = [] := by
        refine allArgumentParts_eq_nil fun part hpart => ?_
        obtain ⟨pair, -, rfl⟩ := List.mem_map.mp hpart
        exact argumentParts_headerOutline pair
      simp [Settings.argumentNames, Settings.written, Settings.outline, HeaderManager.outline, allArgumentParts,
        hheaders]
  | authManager manager =>
      simp (disch := simp [argumentTypes, Text.ofString_inj]) [Settings.argumentNames, Settings.written,
        Settings.outline, AuthManager.outline, allArgumentParts, argumentParts_partsProperty]
  | durationAssertion assertion => simp [Settings.argumentNames, Settings.written, allArgumentParts]
  | jsonExtractor extractor =>
      simp [Settings.argumentNames, Settings.written, Settings.outline, JsonExtractor.outline, allArgumentParts]
  | csvDataSet data =>
      simp [Settings.argumentNames, Settings.written, Settings.outline, CsvDataSet.outline, allArgumentParts]
  | resultCollector collector =>
      simp [Settings.argumentNames, Settings.written, Settings.outline, ResultCollector.outline, allArgumentParts]
  | bare _ => exact .nil

/-! ## Names -/

/-- **How a name is read in an attribute**: without the characters that XML cannot carry, and with blanks for
tabulators and line ends.  That is the name exactly if it has none of these. -/
structure ReadsName (name : Text) (read : Option Text) : Prop where
  /-- What is read. -/
  read_eq : read = some name.legal.asValue
  /-- A name is kept apart from characters that XML cannot carry, unless it has other white space than blanks. -/
  kept_iff : read = some name.legal ↔ ∀ r ∈ name, ¬ r.IsBreak

/-- XML can carry the white space that an attribute does not keep. -/
lemma isBreak_legal_iff {t : Text} : (∀ r ∈ t.legal, ¬ r.IsBreak) ↔ ∀ r ∈ t, ¬ r.IsBreak := by
  refine ⟨fun h r hr hbreak => h r (List.mem_filter.mpr ⟨hr, ?_⟩) hbreak, fun h r hr => ?_⟩
  · rcases hbreak with rfl | rfl | rfl <;> decide
  · exact h r (List.mem_filter.mp hr).1

lemma ReadsName.of_eq {name : Text} {read : Option Text} (h : read = some name.legal.asValue) :
    ReadsName name read where
  read_eq := h
  kept_iff := by rw [h, Option.some_inj, Text.asValue_eq_self_iff, isBreak_legal_iff]

/-- **The names that are read from an element**: its own, and those of its arguments. -/
structure NamesRead (element : Element) (part : Markup) : Prop where
  /-- The name of the element. -/
  title : ReadsName element.name.asText (part.attribute? "testname")
  /-- The names of its arguments, in their order. -/
  arguments : List.Forall₂ (fun name argument => ReadsName name (argument.attribute? "name"))
    element.settings.argumentNames (argumentParts part)

lemma attribute?_testname (element : Element) :
    element.ownWritten.attribute? "testname" = some element.name.asText.legal := by
  rw [Element.ownWritten, branch, attribute?_cons_of_ne _ (by simp [Text.ofString_inj]),
    attribute?_cons_of_ne _ (by simp [Text.ofString_inj]), attribute?_cons_self]

lemma argumentParts_ownWritten (element : Element) :
    argumentParts element.ownWritten = allArgumentParts element.settings.written := by
  have htag : element.settings.tag ≠ "elementProp" := by
    cases element.settings <;> simp only [Settings.tag, ne_eq, Text.ofString_inj] <;> decide
  exact argumentParts_element htag ..

lemma namesRead_ownWritten {element : Element} (hdisplay : element.settings.guiClass.isText = true) :
    NamesRead element element.ownWritten.asRead where
  title := .of_eq (attribute?_asRead_of_eq (attribute?_testname element))
  arguments := by
    rw [argumentParts_asRead _ (Element.isPlain_ownWritten hdisplay), argumentParts_ownWritten,
      List.forall₂_map_right_iff]
    exact (forall₂_argumentNames element.settings).imp fun name part hname =>
      .of_eq (attribute?_asRead_of_eq hname)

/-- **Names in attributes.**  Whatever document a plan has, a reader finds its elements and their arguments in it,
and each name is read as it is apart from characters that XML cannot carry and white space other than blanks. -/
theorem titles_read {plan : Element} {document : Text}
    (hdisplay : ∀ e ∈ plan.walk, e.settings.guiClass.isText = true) (h : (render plan).outcome = .ok document) :
    ∃ parts, documentElements document = .ok parts ∧ List.Forall₂ NamesRead plan.walk parts := by
  refine ⟨_, documentElements_of_written hdisplay h, ?_⟩
  rw [List.forall₂_map_right_iff, List.forall₂_same]
  exact fun e he => namesRead_ownWritten (hdisplay e he)

/-- The names in the plan that is hard to write are read, with the arguments of its root and its request. -/
theorem specimen_titles : ∃ document, (render specimen).outcome = .ok document ∧
    ∃ parts, documentElements document = .ok parts ∧ List.Forall₂ NamesRead specimen.walk parts :=
  ⟨_, render_outcome specimen_isTyped specimen_hasDecimals (by decide),
    titles_read (fun e he => (specimen_isTyped e he).settings.display)
      (render_outcome specimen_isTyped specimen_hasDecimals (by decide))⟩

/-- A plan that has a tabulator in its name. -/
def tabbed : Element := .of "a\tb" (.testPlan {}) []

/-- **A tabulator is read as a blank.** -/
theorem tabbed_read : ∃ document part, (render tabbed).outcome = .ok document ∧
    documentElements document = .ok [part] ∧ part.attribute? "testname" = some "a b" ∧
      tabbed.name.asText.legal = "a\tb" := by
  have htyped : ∀ e ∈ tabbed.walk, e.IsTyped := by decide
  have hrender := render_outcome htyped (by decide) (by decide)
  refine ⟨_, tabbed.ownWritten.asRead, hrender, ?_, ?_, by decide⟩
  · exact documentElements_of_written (fun e he => (htyped e he).settings.display) hrender
  · exact (attribute?_asRead_of_eq (attribute?_testname tabbed)).trans (congrArg some (by decide))

end Plan

end LoadPlan
