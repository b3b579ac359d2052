import LoadPlan.Number.Numeral
import LoadPlan.Schema.Node
import LoadPlan.Text.LetterCase

/-!
# Sample values

A value that a schema admits, for the body of a request.

A value that the schema proposes is taken as it is.  Otherwise the name of the property decides,
then the format, then the kind of the schema.  Nothing is random, so a schema always has the
same sample.

* `Value.jsonSafe` — a value with its dates and times as texts.
* `Numbering` — the state of making a sample: the number that the next identifier gets.
* `Sample.startedAt` — what a stage of it comes to, from a number on.
* `Schema.sample` — the sample of a schema under a name.
* `Schema.sampleFrom` — the same with the identifiers numbered from a start.
* `Synthesizer` — samples made one after another, each with its identifiers numbered from the same
  start.
-/

namespace LoadPlan

/-! ## Values for JSON -/

mutual

/-- **A value with its dates and times as texts**, and with lists in place of tuples. -/
def Value.jsonSafe : Value → Value
  | .date d => .text d.iso
  | .moment m => .text m.iso
  | .clock c => .text c.iso
  | .map entries => .map (entriesJsonSafe entries)
  | .list items => .list (itemsJsonSafe items)
  | .tuple items => .list (itemsJsonSafe items)
  | value => value

def itemsJsonSafe : List Value → List Value
  | [] => []
  | item :: items => item.jsonSafe :: itemsJsonSafe items

/-- The entries of a mapping; keys stay as they are. -/
def entriesJsonSafe : List (Value × Value) → List (Value × Value)
  | [] => []
  | (key, value) :: entries => (key, value.jsonSafe) :: entriesJsonSafe entries

end

namespace Sample

/-! ## Hints -/

def mentions (name : Text) (words : List Text) : Bool := words.any name.contains

/-- The value of the first hint of which a word occurs in a name. -/
def hinted? {α : Type} (name : Text) (hints : List (List Text × α)) : Option α :=
  (hints.find? fun (words, _) => mentions name words).map Prod.snd

/-- The texts for properties whose name says what they hold. -/
def textHints : List (List Text × Text) :=
  [ (["email"], "sample@example.com"), (["url", "link"], "https://example.com"),
    (["phone"], "+1234567890"), (["address"], "123 Sample St"), (["city"], "Sample City"),
    (["country"], "Sample Country"), (["description", "comment"], "Sample description"),
    (["status"], "active"), (["type", "category"], "sample") ]

def formatHints : List (Text × Text) :=
  [ ("email", "sample@example.com"), ("uri", "https://example.com"), ("url", "https://example.com"),
    ("date", "2024-01-01"), ("date-time", "2024-01-01T00:00:00Z"),
    ("uuid", "123e4567-e89b-12d3-a456-426614174000") ]

/-- The integers for properties whose name says what they count. -/
def integerHints : List (List Text × Int) :=
  [ (["count", "quantity"], 5), (["age"], 25), (["year"], 2024), (["month", "day"], 1),
    (["price", "amount"], 100) ]

/-- The numbers for properties whose name says what they measure. -/
def numberHints : List (List Text × Double) :=
  [ (["price", "amount", "cost"], .ofRatio false 9999 100),
    (["rate", "percentage"], .ofRatio false 15 100), (["weight"], .ofRatio false 15 10),
    (["height"], .ofRatio false 175 100) ]

/-- The words that speak for true. -/
def trueHints : List Text := ["active", "enabled", "available"]

/-- The words that speak for false, unless one speaks for true. -/
def falseHints : List Text := ["deleted", "disabled", "hidden"]

/-! ## Bounds -/

/-- A number moved up to a lower and then down to an upper bound. -/
def clamp (value : Numeric) (lower upper : Option Numeric) : Numeric :=
  let raised :=
    match lower with
    | some bound => if value.lt bound then bound else value
    | none => value
  match upper with
  | some bound => if bound.lt raised then bound else raised
  | none => raised

/-- The same for integers. -/
def clampInt (value : Int) (lower upper : Option Int) : Int :=
  let raised :=
    match lower with
    | some bound => if value < bound then bound else value
    | none => value
  match upper with
  | some bound => if bound < raised then bound else raised
  | none => raised

/-- A bound as an integer, by a way of rounding; what is not finite has none. -/
def integerBound (round : Double → Option Int) : Numeric → Except Fault Int
  | .int i => .ok i
  | .float .nan => .error .unorderedBound
  | .float (.infinite _) => .error .numberTooLarge
  | .float x =>
    match round x with
    | some i => .ok i
    | none => .error .unorderedBound

/-- A number as a floating point number. -/
def toDouble : Numeric → Except Fault Double
  | .float x => .ok x
  | .int i =>
    match Double.ofInt? i with
    | some x => .ok x
    | none => .error .numberTooLarge

/-! ## Leaves -/

/-- **The state of making a sample**: the number that the next identifier gets.  It stays as it is where
the making stops. -/
abbrev Numbering := ExceptT Fault (StateM Int)

/-- What a stage comes to when the next identifier gets a number, and the number that the one after the
stage would get. -/
def startedAt {α : Type} (number : Int) (stage : Numbering α) : Except Fault α × Int :=
  (ExceptT.run stage).run number

def nextNumber : Numbering Int := do
  let number ← get
  set (number + 1)
  return number

section

variable {α β : Type} {number after : Int} {stage : Numbering α}

theorem startedAt_pure (number : Int) (a : α) : startedAt number (pure a) = (.ok a, number) := rfl

/-- An outcome takes no number. -/
theorem startedAt_lift (number : Int) (outcome : Except Fault α) :
    startedAt number (liftM outcome : Numbering α) = (outcome, number) := rfl

theorem startedAt_nextNumber (number : Int) :
    startedAt number nextNumber = (.ok number, number + 1) := rfl

/-- A stage after one that came to an end. -/
theorem startedAt_bind_of_ok {a : α} (h : startedAt number stage = (.ok a, after))
    (next : α → Numbering β) : startedAt number (stage >>= next) = startedAt after (next a) := by
  show (match startedAt number stage with
    | (outcome, after) => ExceptT.bindCont next outcome after) = _
  rw [h]
  rfl

/-- A stage after one that stopped. -/
theorem startedAt_bind_of_error {fault : Fault} (h : startedAt number stage = (.error fault, after))
    (next : α → Numbering β) : startedAt number (stage >>= next) = (.error fault, after) := by
  show (match startedAt number stage with
    | (outcome, after) => ExceptT.bindCont next outcome after) = _
  rw [h]
  rfl

end

/-- A text whose first letter is a capital. -/
def capitalized : Text → Text
  | [] => []
  | first :: rest => first.upper ++ rest

def formatSample (format : Option Text) : Text :=
  (format.bind fun f => formatHints.lookup f).getD "sample"

/-- The sample of a text.  Identifiers are numbered, as far as the number has a text, names are built
from the name of the property, and then the hints, the format and a placeholder follow. -/
def text (name : Text) (format : Option Text) : Numbering Text := do
  let lowered := name.lower
  if lowered.contains "id" then integerText (← nextNumber)
  else if lowered.contains "name" then return "sample" ++ capitalized name
  else return (hinted? lowered textHints).getD (formatSample format)

/-- The sample of an integer before it is moved between its bounds. -/
def plainInteger (name : Text) : Numbering Int := do
  let lowered := name.lower
  if lowered.contains "id" then nextNumber
  else return (hinted? lowered integerHints).getD 1

def integer (name : Text) (minimum maximum : Option Numeric) : Numbering Int := do
  let value ← plainInteger name
  let lower : Option Int ← (minimum.mapM (integerBound Double.ceil?) : Except Fault _)
  let upper : Option Int ← (maximum.mapM (integerBound Double.floor?) : Except Fault _)
  return clampInt value lower upper

def number (name : Text) (minimum maximum : Option Numeric) : Except Fault Double :=
  let value := (hinted? name.lower numberHints).getD (.ofInt 1)
  toDouble (clamp (.float value) minimum maximum)

/-- The sample of a truth value. -/
def truth (name : Text) : Bool :=
  let lowered := name.lower
  mentions lowered trueHints || !mentions lowered falseHints

def proposedOr (declared : Declared) (other : Numbering Value) : Numbering Value :=
  match declared.value? with
  | some value => return value.jsonSafe
  | none => other

end Sample

/-! ## Schemas -/

open Sample in
mutual

/-- **The sample of a schema** under the name of a property, which is empty where there is none. -/
def Schema.sample (name : Text) : Schema → Numbering Value
  | .object declared properties =>
    proposedOr declared do return .map (← propertySamples properties)
  | .array declared items => proposedOr declared do return .list (← itemSample items)
  | .string declared format => proposedOr declared do return .text (← Sample.text name format)
  | .integer declared minimum maximum =>
    proposedOr declared do return .int (← Sample.integer name minimum maximum)
  | .number declared minimum maximum =>
    proposedOr declared do return .float (← Sample.number name minimum maximum)
  | .boolean declared => proposedOr declared do return .bool (Sample.truth name)
  | .reference declared _ => proposedOr declared do return .map []
  | .bare declared => proposedOr declared (throw .unknownSchema)

/-- The samples of properties, each under its own name. -/
def propertySamples : List (Text × Schema) → Numbering (List (Value × Value))
  | [] => return []
  | (name, schema) :: rest => do
    let value ← schema.sample name
    return (.text name, value) :: (← propertySamples rest)

/-- The sample of the items of an array: one, or none without a schema for them. -/
def itemSample : Option Schema → Numbering (List Value)
  | none => return []
  | some schema => do return [← schema.sample []]

end

/-- The sample of a schema, with its identifiers numbered from a start. -/
def Schema.sampleFrom (schema : Schema) (start : Int) (name : Text) : Except Fault Value :=
  (Sample.startedAt start (schema.sample name)).1

/-! ## Samples one after another -/

/-- **A maker of samples**, which numbers the identifiers of each from the same start. -/
structure Synthesizer where
  /-- The number of the first identifier of a sample. -/
  start : Int
  /-- The number that the next identifier gets. -/
  next : Int

namespace Synthesizer

/-- A synthesizer that has made nothing yet. -/
def fresh (start : Int) : Synthesizer := ⟨start, start⟩

/-- **One sample.**  The numbering begins anew, and it is left where the sample ends or the making of it
stops. -/
def synthesize (synthesizer : Synthesizer) (schema : Schema) (name : Text) :
    Except Fault Value × Synthesizer :=
  let restarted := { synthesizer with next := synthesizer.start }
  let (outcome, next) := Sample.startedAt restarted.next (schema.sample name)
  (outcome, { restarted with next })

/-- The samples of schemas, each under a name, one after another. -/
def series (synthesizer : Synthesizer) : List (Schema × Text) → List (Except Fault Value)
  | [] => []
  | (schema, name) :: calls =>
    let (outcome, after) := synthesizer.synthesize schema name
    outcome :: after.series calls

end Synthesizer

end LoadPlan
