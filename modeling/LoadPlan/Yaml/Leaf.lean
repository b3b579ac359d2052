import LoadPlan.Text.Base64
import LoadPlan.Text.LetterCase
import LoadPlan.Value
import LoadPlan.Yaml.Tag

/-!
# Leaves

The value of a leaf of a YAML document, once its kind is known.

A kind can be read off the form of a leaf or be declared by a tag.  A declared kind may not fit the
text, so every reader here accepts any text and says what is wrong with it.

* `readTruth`, `readInteger`, `readFloat`, `readTimestamp`, `readBytes` — one reader per kind.
* `Tag.leafValue` — all of them.
-/

namespace LoadPlan.Yaml

/-- The truth values by their names in lower case. -/
def truths : List (Text × Bool) :=
  [ ("yes", true), ("no", false), ("true", true), ("false", false), ("on", true), ("off", false) ]

/-- A truth value, whatever the case of its letters. -/
def readTruth (t : Text) : Except TextFault Value :=
  match truths.lookup t.lower with
  | some b => .ok (.bool b)
  | none => .error .unknownTruthValue

/-- The text of a numeral without the low lines between its digits. -/
def ungrouped (t : Text) : List Char := t.toChars.filter (· != '_')

/-- The sign of a numeral and the rest of it; a numeral has at least one character. -/
def splitSignOrEmpty : List Char → Except TextFault (Bool × List Char)
  | [] => .error .emptyNumeral
  | cs => .ok (splitSign cs)

def integerIn (base : Nat) (cs : List Char) : Except TextFault Int :=
  match readInteger? base cs with
  | some i => .ok i
  | none => .error .badNumeral

/-- The pieces of a text between colons. -/
def colonParts : List Char → List (List Char)
  | [] => [[]]
  | c :: rest =>
    if c = ':' then [] :: colonParts rest
    else
      match colonParts rest with
      | [] => [[c]]
      | part :: parts => (c :: part) :: parts

/-- An integer without its sign: with a mark of its base, in base eight after a zero, in base sixty
with colons, and in base ten otherwise. -/
def readMagnitude : List Char → Except TextFault Int
  | [] => .error .emptyNumeral
  | ['0'] => .ok 0
  | '0' :: 'b' :: digits => integerIn 2 digits
  | '0' :: 'x' :: digits => integerIn 16 digits
  | '0' :: digits => integerIn 8 ('0' :: digits)
  | cs =>
    if cs.contains ':' then
      ((colonParts cs).mapM (integerIn 10)).map fun digits =>
        digits.foldl (fun value digit => value * 60 + digit) 0
    else integerIn 10 cs

/-- **An integer.** -/
def readInteger (t : Text) : Except TextFault Value := do
  let (negative, cs) ← splitSignOrEmpty (ungrouped t)
  let magnitude ← readMagnitude cs
  return .int (if negative then -magnitude else magnitude)

/-- A floating point number in base ten. -/
def floatIn (cs : List Char) : Except TextFault Double :=
  match readFloat? cs with
  | some x => .ok x
  | none => .error .badNumeral

/-- The sum of digits to the base sixty, the lowest first, each step rounded.  The weight is exact
and can become too large to be multiplied with. -/
def sumSixties : Double → Nat → List Double → Except TextFault Double
  | sum, _, [] => .ok sum
  | sum, weight, digit :: digits =>
    match Double.ofInt? weight with
    | none => .error .numberTooLarge
    | some factor => sumSixties (sum.add (digit.mul factor)) (weight * 60) digits

/-- Whether a text is the one way to write not-a-number, in any spelling. -/
def isNoNumber (t : Text) : Bool := (splitSign (ungrouped t.lower)).2 = ".nan".toList

/-- A floating point number without its sign. -/
def readFloatMagnitude (cs : List Char) : Except TextFault Double :=
  if cs = ".inf".toList then .ok (.infinite false)
  else if cs = ".nan".toList then .ok .nan
  else if cs.contains ':' then do
    let digits ← (colonParts cs).mapM floatIn
    sumSixties (.zero false) 1 digits.reverse
  else floatIn cs

/-- **A floating point number.** -/
def readFloat (t : Text) : Except TextFault Value := do
  let (negative, cs) ← splitSignOrEmpty (ungrouped t.lower)
  let magnitude ← readFloatMagnitude cs
  return .float (if negative then magnitude.neg else magnitude)

/-- The microseconds of the digits after the point: six of them count. -/
def microseconds (fraction : List Char) : Nat :=
  let digits := fraction.take 6
  digitsValue 10 digits * Nat.pow 10 (6 - digits.length)

/-- The day or the moment of the parts of a timestamp, if there is one. -/
def Tag.Stamp.value? (stamp : Tag.Stamp) : Option Value :=
  let number := digitsValue 10
  let (year, month, day) := stamp.day
  let date : Date := ⟨number year, number month, number day⟩
  match stamp.time with
  | none => if date.isValid then some (.date date) else none
  | some (hour, minute, second, fraction) =>
    let clock : Clock := ⟨number hour, number minute, number second, microseconds fraction⟩
    let offset : Option Int := stamp.zone.map fun (behind, hours, minutes) =>
      let seconds : Int := (number hours * 60 + number minutes) * 60
      if behind then -seconds else seconds
    if date.isValid && clock.isValid && offset.all validOffset then
      some (.moment ⟨date, clock, offset⟩)
    else none

/-- **A day or a moment.** -/
def readTimestamp (t : Text) : Except TextFault Value :=
  match Tag.readStamp (Tag.dropFinalBreak t.toChars) with
  | none => .error .notTimestamp
  | some stamp =>
    match stamp.value? with
    | some value => .ok value
    | none => .error .impossibleDate

/-- **Bytes.** -/
def readBytes (t : Text) : Except TextFault Value :=
  if t.all Rune.isAscii then
    match Base64.decode? t.toChars with
    | some octets => .ok (.bytes octets)
    | none => .error .malformed
  else .error .malformed

/-- **The value of a leaf of a kind.**  Sequences and mappings have no leaves. -/
def Tag.leafValue : Tag → Text → Except TextFault Value
  | .null, _ => .ok .null
  | .bool, t => readTruth t
  | .int, t => readInteger t
  | .float, t => readFloat t
  | .binary, t => readBytes t
  | .timestamp, t => readTimestamp t
  | .text, t => .ok (.text t)
  | _, _ => .error .malformed

end LoadPlan.Yaml
