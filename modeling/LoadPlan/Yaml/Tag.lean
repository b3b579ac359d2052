import LoadPlan.Number.Numeral

/-!
# Tags

What kind of value a node of a YAML document is.

* `Tag` — the kinds this library can build, and one for all others.
* `Tag.ofName` — the kind that a full tag names.
* `Tag.ofForm` — the kind of a plain leaf, read off its form.  The first character decides which
  forms come into question, so that a leaf which is only a line feed is a text.
-/

namespace LoadPlan.Yaml

/-- **The kind of a node.** -/
inductive Tag where
  /-- Nothing. -/
  | null
  /-- A truth value. -/
  | bool
  /-- An integer. -/
  | int
  /-- A floating point number. -/
  | float
  /-- Bytes. -/
  | binary
  /-- A day or a moment. -/
  | timestamp
  /-- A sequence of pairs whose keys differ. -/
  | orderedMap
  /-- A sequence of pairs. -/
  | pairs
  /-- A set. -/
  | set
  /-- A text. -/
  | text
  /-- A sequence. -/
  | sequence
  /-- A mapping. -/
  | mapping
  /-- The key under which a mapping takes over the entries of others. -/
  | merge
  /-- The key under which a mapping keeps what it is as a leaf. -/
  | default
  /-- Any other. -/
  | unknown
deriving DecidableEq

namespace Tag

/-- The full tags of the kinds that can be built. -/
def names : List (String × Tag) :=
  [ ("tag:yaml.org,2002:null", null), ("tag:yaml.org,2002:bool", bool),
    ("tag:yaml.org,2002:int", int), ("tag:yaml.org,2002:float", float),
    ("tag:yaml.org,2002:binary", binary), ("tag:yaml.org,2002:timestamp", timestamp),
    ("tag:yaml.org,2002:omap", orderedMap), ("tag:yaml.org,2002:pairs", pairs),
    ("tag:yaml.org,2002:set", set), ("tag:yaml.org,2002:str", text),
    ("tag:yaml.org,2002:seq", sequence), ("tag:yaml.org,2002:map", mapping),
    ("tag:yaml.org,2002:merge", merge), ("tag:yaml.org,2002:value", default) ]

/-- The kind that a full tag names. -/
def ofName (name : String) : Tag := (names.lookup name).getD unknown

/-- Whether a kind makes a sequence or a mapping of its node. -/
def isBranch : Tag → Bool
  | sequence | mapping | set | orderedMap | pairs => true
  | _ => false

/-! ## Forms of plain leaves -/

/-- The spellings of the truth values. -/
def truthWords : List String :=
  [ "yes", "Yes", "YES", "no", "No", "NO", "true", "True", "TRUE", "false", "False", "FALSE",
    "on", "On", "ON", "off", "Off", "OFF" ]

/-- The spellings of nothing. -/
def nullWords : List String := ["~", "null", "Null", "NULL"]

/-- A decimal digit or a low line. -/
def isSpacedDigit (c : Char) : Bool := isAsciiDigit c || c = '_'

/-- An exponent with a sign, or nothing at all. -/
def isExponent : List Char → Bool
  | [] => true
  | mark :: sign :: digits =>
    (mark = 'e' || mark = 'E') && (sign = '+' || sign = '-') && !digits.isEmpty
      && digits.all isAsciiDigit
  | _ => false

/-- The parts of a base-sixty numeral after the first colon, and what follows them. -/
def afterSixties : List Char → Option (List Char)
  | a :: b :: ':' :: rest =>
    if '0' ≤ a ∧ a ≤ '5' ∧ isAsciiDigit b then afterSixties rest else none
  | a :: ':' :: rest => if isAsciiDigit a then afterSixties rest else none
  | a :: b :: rest =>
    if '0' ≤ a ∧ a ≤ '5' ∧ isAsciiDigit b then some rest
    else if isAsciiDigit a then some (b :: rest)
    else none
  | [a] => if isAsciiDigit a then some [] else none
  | [] => none

/-- A number without a sign that has a point. -/
def isUnsignedFloat (cs : List Char) : Bool :=
  match cs with
  | '.' :: _ => false
  | _ =>
    (cs.head?.any isAsciiDigit) &&
      match cs.dropWhile isSpacedDigit with
      | '.' :: rest => isExponent (rest.dropWhile isSpacedDigit)
      | ':' :: rest =>
        match afterSixties rest with
        | some ('.' :: fraction) => fraction.all isSpacedDigit
        | _ => false
      | _ => false

/-- Whether a leaf has the form of a floating point number. -/
def isFloatForm (cs : List Char) : Bool :=
  let unsigned := (splitSign cs).2
  isUnsignedFloat unsigned
    || (match cs with
      | '.' :: c :: rest => isAsciiDigit c && isExponent (rest.dropWhile isSpacedDigit)
      | _ => false)
    || [".inf".toList, ".Inf".toList, ".INF".toList].contains unsigned
    || [".nan".toList, ".NaN".toList, ".NAN".toList].contains cs

/-- Whether a leaf without its sign has the form of an integer. -/
def isUnsignedInteger : List Char → Bool
  | ['0'] => true
  | '0' :: 'b' :: rest => !rest.isEmpty && rest.all fun c => c = '0' || c = '1' || c = '_'
  | '0' :: 'x' :: rest => !rest.isEmpty && rest.all fun c => (hexDigit? c).isSome || c = '_'
  | '0' :: rest => rest.all fun c => ('0' ≤ c && c ≤ '7') || c = '_'
  | cs =>
    (cs.head?.any isAsciiDigit) &&
      match cs.dropWhile isSpacedDigit with
      | [] => true
      | ':' :: rest => afterSixties rest = some []
      | _ => false

def isIntegerForm (cs : List Char) : Bool := isUnsignedInteger (splitSign cs).2

/-- Some digits, at least as many as the first number and at most as many as the second, and what
follows them. -/
def takeDigits (least most : Nat) (cs : List Char) : Option (List Char × List Char) :=
  let digits := (cs.take most).takeWhile isAsciiDigit
  if digits.length < least then none else some (digits, cs.drop digits.length)

/-- A character that has to stand here, and what follows it. -/
def expect (c : Char) : List Char → Option (List Char)
  | d :: rest => if c = d then some rest else none
  | [] => none

/-- **The digits of a timestamp**, part by part. -/
structure Stamp where
  /-- Year, month and day. -/
  day : List Char × List Char × List Char
  /-- Hour, minute, second and fraction, when there is a time of day. -/
  time : Option (List Char × List Char × List Char × List Char)
  /-- The distance from universal time: whether it is behind, hours, and minutes. -/
  zone : Option (Bool × List Char × List Char)

/-- The distance from universal time, which has to be the end. -/
def readZone (cs : List Char) : Option (Option (Bool × List Char × List Char)) :=
  match cs.dropWhile (fun c => c = ' ' || c = '\t') with
  | [] => if cs.isEmpty then some none else none
  | ['Z'] => some (some (false, [], []))
  | sign :: rest =>
    if sign = '+' ∨ sign = '-' then do
      let (hours, rest) ← takeDigits 1 2 rest
      match rest with
      | [] => return some (sign = '-', hours, [])
      | _ =>
        let (minutes, rest) ← takeDigits 2 2 (← expect ':' rest)
        if rest.isEmpty then return some (sign = '-', hours, minutes) else none
    else none

/-- The separator between day and time of day: a letter, or blanks. -/
def afterDay : List Char → Option (List Char)
  | 'T' :: rest => some rest
  | 't' :: rest => some rest
  | c :: rest =>
    if c = ' ' ∨ c = '\t' then some (rest.dropWhile fun d => d = ' ' || d = '\t') else none
  | [] => none

/-- **The parts of a timestamp**, in which months, days and hours may have one digit. -/
def readStamp (cs : List Char) : Option Stamp := do
  let (year, rest) ← takeDigits 4 4 cs
  let (month, rest) ← takeDigits 1 2 (← expect '-' rest)
  let (day, rest) ← takeDigits 1 2 (← expect '-' rest)
  match rest with
  | [] => return ⟨(year, month, day), none, none⟩
  | _ =>
    let (hour, rest) ← takeDigits 1 2 (← afterDay rest)
    let (minute, rest) ← takeDigits 2 2 (← expect ':' rest)
    let (second, rest) ← takeDigits 2 2 (← expect ':' rest)
    let (fraction, rest) :=
      match rest with
      | '.' :: rest => (rest.takeWhile isAsciiDigit, rest.dropWhile isAsciiDigit)
      | _ => ([], rest)
    return ⟨(year, month, day), some (hour, minute, second, fraction), ← readZone rest⟩

/-- Whether a leaf has the form of a timestamp: without a time of day, month and day have two
digits. -/
def isTimestampForm (cs : List Char) : Bool :=
  match readStamp cs with
  | none => false
  | some stamp => stamp.time.isSome || cs.length == 10

/-- A text without one line feed at its end. -/
def dropFinalBreak (cs : List Char) : List Char :=
  if cs.getLast? = some '\n' then cs.dropLast else cs

/-- **The kind of a plain leaf**, read off its form.  A line feed at the end does not change it. -/
def ofForm (t : Text) : Tag :=
  let cs := dropFinalBreak t.toChars
  let word := String.ofList cs
  if t = "\n" then text
  else if cs.isEmpty then null
  else if truthWords.contains word then bool
  else if isFloatForm cs then float
  else if isIntegerForm cs then int
  else if word = "<<" then merge
  else if nullWords.contains word then null
  else if isTimestampForm cs then timestamp
  else if word = "=" then default
  else if word = "!" ∨ word = "&" ∨ word = "*" then unknown
  else text

end Tag

end LoadPlan.Yaml
