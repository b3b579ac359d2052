import LoadPlan.Plan.Emission
import Mathlib.Tactic.Lemma
import Mathlib.Tactic.SplitIfs

/-!
# Well-typed plans

The settings of a plan are document values, and only some plans can be written.  A plan is
well-typed when each setting holds what its name promises: a text, a truth value, or an integer.

* `Settings.texts`, `Settings.switches`, `Settings.integers` — the settings of each kind of element,
  sorted by what they should hold.
* `Element.list_induction` — induction over elements and those below them.
* `Element.IsTyped` — an element of a supported kind with such settings.
* `Element.HasDecimals` — an element whose integers have decimal texts.  Integers of more than
  `maxDigits` digits have none.
* `Element.HasLegalDisplay` — an element whose display can stand in a document as it is.
* `specimen` — a plan with texts that hold marks, line ends and characters that XML cannot carry.
-/

namespace LoadPlan

/-! ## Values -/

namespace Value

def isText : Value → Bool
  | text _ => true
  | _ => false

/-- The characters of a text. -/
def asText : Value → Text
  | text t => t
  | _ => []

def isBool : Value → Bool
  | bool _ => true
  | _ => false

def isInteger : Value → Bool
  | int _ => true
  | _ => false

/-- The decimal text of an integer. -/
def decimal : Value → Text
  | int i => Text.ofInt i
  | _ => []

lemma eq_text_of_isText : ∀ {v : Value}, v.isText = true → v = .text v.asText
  | text _, _ => rfl

lemma isText_text (t : Text) : (text t).isText = true := rfl

/-- Whether an integer is short enough to have a decimal text. -/
def hasDecimal (v : Value) : Bool := v.shown.toOption.isSome

/-- Integers that have a decimal text are shown by it. -/
lemma shown_of_hasDecimal {v : Value} (h : v.isInteger = true) (hd : v.hasDecimal = true) :
    v.shown = .ok v.decimal := by
  cases v with
  | int i =>
      simp only [hasDecimal, shown, literal, decimal] at hd ⊢
      unfold integerText at hd ⊢
      split_ifs at hd ⊢
      · rfl
      · exact nomatch hd
  | _ => exact nomatch h

/-- Integers without a decimal text are too long. -/
lemma shown_of_not_hasDecimal {v : Value} (h : v.isInteger = true)
    (hd : ¬ v.hasDecimal = true) : v.shown = .error .tooManyDigits := by
  cases v with
  | int i =>
      simp only [hasDecimal, shown, literal] at hd ⊢
      unfold integerText at hd ⊢
      split_ifs at hd ⊢
      · exact absurd rfl hd
      · rfl
  | _ => exact nomatch h

end Value

namespace Plan

/-! ## Settings -/

def pairTexts (pairs : List Pair) : List Value := pairs.flatMap fun (name, value) => [name, value]

/-- The text of a body, if there is one. -/
def bodyTexts : Value → List Value
  | .null => []
  | body => [body]

namespace Settings

/-- Whether the kind is one of those that have a written form. -/
def isSupported : Settings → Bool
  | bare _ => false
  | _ => true

lemma exists_bare {settings : Settings} (h : ¬ settings.isSupported = true) :
    ∃ kind, settings = bare kind := by
  cases settings with
  | bare kind => exact ⟨kind, rfl⟩
  | _ => exact absurd rfl h

/-- The settings that should be texts, apart from the display. -/
def texts : Settings → List Value
  | testPlan s => s.comments :: pairTexts s.userVariables
  | httpDefaults s =>
    [s.domain, s.port, s.protocol, s.contentEncoding, s.connectTimeout, s.responseTimeout]
  | threadGroup s => [s.onSampleError, s.loops, s.numThreads, s.rampTime, s.duration, s.delay]
  | httpSampler s =>
    [s.path, s.method, s.connectTimeout, s.responseTimeout] ++ bodyTexts s.body
      ++ pairTexts s.arguments
  | responseAssertion s => [s.customMessage, s.testField] ++ s.testStrings
  | durationAssertion _ => []
  | jsonExtractor s => [s.referenceName, s.jsonPath, s.matchNumber, s.defaultValue]
  | headerManager s => pairTexts s.headers
  | authManager s => [s.url, s.username, s.password, s.domain, s.realm]
  | csvDataSet s => [s.delimiter, s.fileEncoding, s.filename, s.shareMode, s.variableNames]
  | resultCollector s => [s.filename]
  | bare _ => []

/-- The settings that should be truth values. -/
def switches : Settings → List Value
  | threadGroup s => [s.scheduler]
  | httpSampler s => [s.followRedirects, s.useKeepalive]
  | responseAssertion s => [s.assumeSuccess]
  | csvDataSet s => [s.ignoreFirstLine, s.quotedData, s.recycle, s.stopThread]
  | _ => []

/-- The settings that should be integers. -/
def integers : Settings → List Value
  | responseAssertion s => [s.testType]
  | durationAssertion s => [s.maxDuration]
  | _ => []

/-- **Settings of a supported kind, each holding what it should.** -/
structure IsTyped (settings : Settings) : Prop where
  /-- The kind is one of the eleven. -/
  supported : settings.isSupported = true
  /-- The display is a text. -/
  display : settings.guiClass.isText = true
  /-- Texts are texts. -/
  texts : ∀ v ∈ settings.texts, v.isText = true
  /-- Switches are truth values. -/
  switches : ∀ v ∈ settings.switches, v.isBool = true
  /-- Numbers are integers. -/
  integers : ∀ v ∈ settings.integers, v.isInteger = true

instance (settings : Settings) : Decidable settings.IsTyped :=
  decidable_of_iff (settings.isSupported = true ∧ settings.guiClass.isText = true ∧
      (∀ v ∈ settings.texts, v.isText = true) ∧ (∀ v ∈ settings.switches, v.isBool = true) ∧
      ∀ v ∈ settings.integers, v.isInteger = true)
    ⟨fun ⟨hs, hd, ht, hb, hi⟩ => ⟨hs, hd, ht, hb, hi⟩, fun h => ⟨h.1, h.2, h.3, h.4, h.5⟩⟩

end Settings

/-! ## Elements -/

namespace Element

/-- **Induction over elements**: those below the first one, and those behind it. -/
@[elab_as_elim]
theorem list_induction {motive : List Element → Prop} (nil : motive [])
    (cons : ∀ name enabled settings children rest, motive children → motive rest →
      motive (mk name enabled settings children :: rest)) : ∀ elements, motive elements
  | [] => nil
  | mk name enabled settings children :: rest =>
    cons name enabled settings children rest (list_induction nil cons children)
      (list_induction nil cons rest)

/-- **An element with well-typed settings**, a text for its name, and a truth value that says
whether it is in use. -/
structure IsTyped (element : Element) : Prop where
  /-- The name is a text. -/
  name : element.name.isText = true
  /-- Whether it is in use is a truth value. -/
  enabled : element.enabled.isBool = true
  /-- The settings are well-typed. -/
  settings : element.settings.IsTyped

instance (element : Element) : Decidable element.IsTyped :=
  decidable_of_iff (element.name.isText = true ∧ element.enabled.isBool = true ∧
      element.settings.IsTyped)
    ⟨fun ⟨hn, he, hs⟩ => ⟨hn, he, hs⟩, fun h => ⟨h.1, h.2, h.3⟩⟩

/-- **An element whose integers have decimal texts.** -/
def HasDecimals (element : Element) : Prop :=
  ∀ v ∈ element.settings.integers, v.hasDecimal = true

instance (element : Element) : Decidable element.HasDecimals :=
  inferInstanceAs (Decidable (∀ v ∈ element.settings.integers, v.hasDecimal = true))

/-- **An element whose display can stand in a document as it is.**  The displays of all kinds but
one are fixed; that of a listener is written without being looked at. -/
def HasLegalDisplay (element : Element) : Prop :=
  ∀ r ∈ element.settings.guiClass.asText, r.isIllegal = false

instance (element : Element) : Decidable element.HasLegalDisplay :=
  inferInstanceAs (Decidable (∀ r ∈ element.settings.guiClass.asText, r.isIllegal = false))

end Element

/-- **A plan that is hard to write**: its texts hold marks of the format, line ends of all kinds,
blanks at both ends, and characters that XML cannot carry; a request has both a body and arguments;
and one text is to be found twice. -/
def specimen : Element :=
  .of "Plan <1> & \"2\""
    (.testPlan
      { comments := .text "one\r\ntwo\rthree\n\n  four  "
        userVariables := [(.text "BASE_PATH", .text "/v1"), (.text "BASE_PATH", .text [])] })
    [ .of "Users" (.threadGroup { loops := .text "\u0000\uFFFF5" })
        [ .of "Send"
            (.httpSampler
              { method := .text "POST", body := .text "]]>&amp;'\u0008"
                arguments := [(.text "q", .text "1")] })
            [ .of "Codes"
                (.responseAssertion { testStrings := [.text "200", .text "200", .text " "] }) [],
              .of "Time" (.durationAssertion { maxDuration := .int (-5) }) [] ] ],
      .mk (.text "Results") (.bool false) (.resultCollector { guiClass := .text "a\n\"b\"" }) [] ]

lemma specimen_isTyped : ∀ e ∈ specimen.walk, e.IsTyped := by decide +kernel

lemma specimen_hasDecimals : ∀ e ∈ specimen.walk, e.HasDecimals := by decide +kernel

end Plan

end LoadPlan
