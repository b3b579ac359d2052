import LoadPlan.Number.Numeral
import LoadPlan.Value

/-!
# Reading JSON

The JSON reader.  It is strict where the format is (no comments, no trailing commas, no control
characters inside texts) and knows three words beyond it, `NaN`, `Infinity` and `-Infinity`.

* `Json.decode` — the value of a whole text.
* `Json.readText`, `Json.readNumber`, `Json.readValue` — the readers of the parts.  Each returns
  the characters that it did not need.

The reader of values takes a bound on the number of steps; every step but the last uses up a
character, so the length of the text is bound enough.
-/

namespace LoadPlan.Json

/-- The white space of the format. -/
def isSpace (c : Char) : Bool := c = ' ' || c = '\t' || c = '\n' || c = '\r'

/-- The characters after white space. -/
def skipSpace (cs : List Char) : List Char := cs.dropWhile isSpace

/-! ## Texts -/

/-- The code point that a letter after a reverse solidus stands for. -/
def shortEscape? (c : Char) : Option Rune :=
  if c = '"' ∨ c = '\\' ∨ c = '/' then some c
  else if c = 'b' then some '\x08'
  else if c = 'f' then some '\x0c'
  else if c = 'n' then some '\n'
  else if c = 'r' then some '\r'
  else if c = 't' then some '\t'
  else none

/-- Four hexadecimal digits as a code point, which may be a surrogate. -/
def hexRune? (a b c d : Char) : Option Rune := do
  let p ← hexDigit? a
  let q ← hexDigit? b
  let r ← hexDigit? c
  let s ← hexDigit? d
  return Rune.ofCode (((p * 16 + q) * 16 + r) * 16 + s)

/-- The code points up to the closing mark, with every escape read on its own. -/
def readRunes : List Char → Except TextFault (Text × List Char)
  | [] => .error .malformed
  | '"' :: rest => .ok ([], rest)
  | '\\' :: 'u' :: a :: b :: c :: d :: rest =>
    match hexRune? a b c d with
    | none => .error .malformed
    | some r => (readRunes rest).map fun (t, left) => (r :: t, left)
  | '\\' :: c :: rest =>
    match shortEscape? c with
    | none => .error .malformed
    | some r => (readRunes rest).map fun (t, left) => (r :: t, left)
  | c :: rest =>
    if c ≤ '\x1f' ∨ c = '\\' then .error .malformed
    else (readRunes rest).map fun (t, left) => ((c : Rune) :: t, left)

/-- Joins each pair of surrogates.  Only escapes can name surrogates, so two that are neighbours
here were neighbouring escapes. -/
def joinPairs : Text → Text
  | [] => []
  | [r] => [r]
  | high :: low :: rest =>
    if high.isHighSurrogate && low.isLowSurrogate then Rune.ofPair high low :: joinPairs rest
    else high :: joinPairs (low :: rest)

/-- A text, of which the opening mark is already read. -/
def readText (cs : List Char) : Except TextFault (Text × List Char) :=
  (readRunes cs).map fun (t, rest) => (joinPairs t, rest)

/-! ## Numbers -/

/-- The digits after a point, when there are any. -/
def fractionPart : List Char → List Char × List Char
  | '.' :: rest =>
    let digits := rest.takeWhile isAsciiDigit
    if digits.isEmpty then ([], '.' :: rest) else (digits, rest.dropWhile isAsciiDigit)
  | cs => ([], cs)

/-- The exponent, when there is one with at least one digit. -/
def exponentPart : List Char → Option Int × List Char
  | [] => (none, [])
  | mark :: rest =>
    if mark = 'e' ∨ mark = 'E' then
      let (negative, unsigned) := splitSign rest
      let digits := unsigned.takeWhile isAsciiDigit
      if digits.isEmpty then (none, mark :: rest)
      else
        let magnitude : Int := digitsValue 10 digits
        (some (if negative then -magnitude else magnitude), unsigned.dropWhile isAsciiDigit)
    else (none, mark :: rest)

/-- The digits before the point: a zero alone, or a row that does not begin with a zero. -/
def wholePart : List Char → List Char × List Char
  | '0' :: rest => (['0'], rest)
  | cs => (cs.takeWhile isAsciiDigit, cs.dropWhile isAsciiDigit)

/-- A number without its sign: an integer unless it has a fraction or an exponent. -/
def readUnsigned (negative : Bool) (cs : List Char) : Except TextFault (Value × List Char) :=
  let (whole, afterWhole) := wholePart cs
  if whole.isEmpty then .error .malformed
  else
    let (fraction, afterFraction) := fractionPart afterWhole
    let (exponent, rest) := exponentPart afterFraction
    if fraction.isEmpty ∧ exponent.isNone then
      (readNatural whole).map fun magnitude =>
        (.int (if negative then -(magnitude : Int) else magnitude), rest)
    else .ok (.float (floatOfParts negative whole fraction (exponent.getD 0)), rest)

/-- A number, or one of the words for an infinity and for not-a-number. -/
def readNumber : List Char → Except TextFault (Value × List Char)
  | 'N' :: 'a' :: 'N' :: rest => .ok (.float .nan, rest)
  | 'I' :: 'n' :: 'f' :: 'i' :: 'n' :: 'i' :: 't' :: 'y' :: rest =>
    .ok (.float (.infinite false), rest)
  | '-' :: 'I' :: 'n' :: 'f' :: 'i' :: 'n' :: 'i' :: 't' :: 'y' :: rest =>
    .ok (.float (.infinite true), rest)
  | '-' :: rest => readUnsigned true rest
  | cs => readUnsigned false cs

/-! ## Values -/

mutual

def readValue : Nat → List Char → Except TextFault (Value × List Char)
  | 0, _ => .error .malformed
  | _ + 1, '"' :: rest => (readText rest).map fun (t, left) => (.text t, left)
  | _ + 1, 'n' :: 'u' :: 'l' :: 'l' :: rest => .ok (.null, rest)
  | _ + 1, 't' :: 'r' :: 'u' :: 'e' :: rest => .ok (.bool true, rest)
  | _ + 1, 'f' :: 'a' :: 'l' :: 's' :: 'e' :: rest => .ok (.bool false, rest)
  | steps + 1, '[' :: rest =>
    match skipSpace rest with
    | ']' :: left => .ok (.list [], left)
    | cs => (readItems steps cs).map fun (items, left) => (.list items, left)
  | steps + 1, '\x7b' :: rest =>
    match skipSpace rest with
    | '\x7d' :: left => .ok (.map [], left)
    | cs =>
      (readMembers steps cs).map fun (members, left) => (.map (Entries.ofPairs members), left)
  | _ + 1, cs => readNumber cs

/-- The items of a sequence, at the first character of the first, up to the closing bracket. -/
def readItems : Nat → List Char → Except TextFault (List Value × List Char)
  | 0, _ => .error .malformed
  | steps + 1, cs => do
    let (item, afterItem) ← readValue steps cs
    match skipSpace afterItem with
    | ']' :: rest => return ([item], rest)
    | ',' :: rest =>
      let (items, left) ← readItems steps (skipSpace rest)
      return (item :: items, left)
    | _ => throw .malformed

/-- The members of a mapping, at the first character of the first key, up to the closing brace. -/
def readMembers : Nat → List Char → Except TextFault (List (Value × Value) × List Char)
  | 0, _ => .error .malformed
  | steps + 1, '"' :: cs => do
    let (key, afterKey) ← readText cs
    match skipSpace afterKey with
    | ':' :: rest =>
      let (value, afterValue) ← readValue steps (skipSpace rest)
      match skipSpace afterValue with
      | '\x7d' :: left => return ([(.text key, value)], left)
      | ',' :: more =>
        let (members, left) ← readMembers steps (skipSpace more)
        return ((.text key, value) :: members, left)
      | _ => throw .malformed
    | _ => throw .malformed
  | _ + 1, _ => .error .malformed

end

/-- The value of a text, of which nothing but white space may be left. -/
def readDocument (source : List Char) : Except TextFault Value := do
  let (value, rest) ← readValue (source.length + 1) (skipSpace source)
  match skipSpace rest with
  | [] => return value
  | _ => throw .malformed

/-- **The value of a whole text.** -/
def decode (source : List Char) : Except Fault Value :=
  (readDocument source).mapError TextFault.fault

end LoadPlan.Json
