import LoadPlan.Fault
import LoadPlan.Number.Double
import LoadPlan.Text.Digit

/-!
# Numerals

Reading numbers from text, and writing integers.

* `integerText` — the decimal text of an integer, which has at most `maxDigits` digits.
* `digitsValue` — the value of a row of digits in a base.
* `readNatural` — a row of decimal digits, of which at most `maxDigits` are accepted.
* `floatOfParts` — the floating point number of the digits before and after the point and an
  exponent.
* `readInteger?` — an integer in a base with the liberties of free text: blank space around it, a
  sign, a base mark, single low lines between digits, and the decimal digits of every script.
* `readFloat?` — a floating point number with the same liberties, or the name of an infinity or of
  not-a-number.
-/

namespace LoadPlan

/-- The longest row of decimal digits that is turned into a number, or that a number is turned
into. -/
def maxDigits : Nat := 4300

/-- **The decimal text of an integer**, unless it would be too long.  Such an integer can be read in
the other bases, and it can be compared and kept. -/
def integerText (i : Int) : Except Fault Text :=
  if i.natAbs < Nat.pow 10 maxDigits then .ok (Text.ofInt i) else .error .tooManyDigits

/-- The value of an ASCII digit or letter as a digit of a base up to 36. -/
def charDigit? (c : Char) : Option Nat :=
  if '0' ≤ c ∧ c ≤ '9' then some (c.toNat - 48)
  else if 'a' ≤ c ∧ c ≤ 'z' then some (c.toNat - 87)
  else if 'A' ≤ c ∧ c ≤ 'Z' then some (c.toNat - 55)
  else none

/-- The value of a hexadecimal digit. -/
def hexDigit? (c : Char) : Option Nat := (charDigit? c).filter (· < 16)

/-- Whether a character is a decimal digit of ASCII. -/
def isAsciiDigit (c : Char) : Bool := '0' ≤ c && c ≤ '9'

/-- The value of a row of digits in a base; characters that are no digits count as zero. -/
def digitsValue (base : Nat) (cs : List Char) : Nat :=
  cs.foldl (fun value c => value * base + (charDigit? c).getD 0) 0

/-- The value of a row of decimal digits, unless it is too long. -/
def readNatural (cs : List Char) : Except TextFault Nat :=
  if maxDigits < cs.length then .error .badNumeral else .ok (digitsValue 10 cs)

/-- The number with the given digits before and after the point and the given exponent. -/
def floatOfParts (negative : Bool) (whole fraction : List Char) (exponent : Int) : Double :=
  Double.ofDecimal negative (digitsValue 10 (whole ++ fraction)) (exponent - fraction.length)

/-! ## Numerals in free text -/

/-- The white space of ASCII. -/
def isAsciiBlank (c : Char) : Bool := c = ' ' || ('\t' ≤ c && c ≤ '\r')

/-- A text with its non-ASCII digits and blanks replaced by those of ASCII; nothing when another
code point outside ASCII is left. -/
def asciiNumeral? (cs : List Char) : Option (List Char) :=
  cs.mapM fun c =>
    let r := Rune.ofChar c
    if r.isAscii then some c
    else if r.isBlank then some ' '
    else r.decimalValue?.map fun value => Char.ofNat (48 + value)

/-- A text without the blanks of ASCII at its ends. -/
def trimAsciiBlanks (cs : List Char) : List Char :=
  ((cs.dropWhile isAsciiBlank).reverse.dropWhile isAsciiBlank).reverse

/-- A sign in front of a text, as whether it is a minus, and what follows it. -/
def splitSign : List Char → Bool × List Char
  | '-' :: rest => (true, rest)
  | '+' :: rest => (false, rest)
  | cs => (false, cs)

/-- The letter that may follow a zero to mark a base. -/
def baseMark? (base : Nat) : Option Char :=
  if base = 2 then some 'b' else if base = 8 then some 'o' else if base = 16 then some 'x' else none

/-- The digits after a mark of the base, if there is one; one low line may follow the mark. -/
def dropBaseMark (base : Nat) : List Char → List Char
  | '0' :: mark :: rest =>
    if (baseMark? base).any fun letter => mark = letter ∨ mark = letter.toUpper then
      match rest with
      | '_' :: digits => digits
      | digits => digits
    else '0' :: mark :: rest
  | cs => cs

/-- The digits of a row in which single low lines may stand between digits. -/
def ungroup? (base : Nat) : List Char → Option (List Char)
  | [] => none
  | [c] => if (charDigit? c).any (· < base) then some [c] else none
  | c :: '_' :: rest =>
    if (charDigit? c).any (· < base) then (ungroup? base rest).map (c :: ·) else none
  | c :: d :: rest =>
    if (charDigit? c).any (· < base) then (ungroup? base (d :: rest)).map (c :: ·) else none

/-- **An integer in a base**, with the liberties of free text.  A decimal row is limited in length;
the other bases are powers of two and need no limit. -/
def readInteger? (base : Nat) (cs : List Char) : Option Int :=
  match asciiNumeral? cs with
  | none => none
  | some ascii =>
    let (negative, unsigned) := splitSign (trimAsciiBlanks ascii)
    match ungroup? base (dropBaseMark base unsigned) with
    | none => none
    | some digits =>
      if base = 10 ∧ maxDigits < digits.length then none
      else
        let magnitude : Int := digitsValue base digits
        some (if negative then -magnitude else magnitude)

/-- An exponent part, of which the text has to hold nothing else. -/
def readExponent? : List Char → Option Int
  | [] => some 0
  | mark :: rest =>
    if mark = 'e' ∨ mark = 'E' then
      let (negative, digits) := splitSign rest
      if digits.isEmpty ∨ ¬ digits.all isAsciiDigit then none
      else
        let magnitude : Int := digitsValue 10 digits
        some (if negative then -magnitude else magnitude)
    else none

/-- A decimal fraction without a sign. -/
def readUnsignedFloat? (negative : Bool) (cs : List Char) : Option Double :=
  let whole := cs.takeWhile isAsciiDigit
  let (fraction, rest) :=
    match cs.dropWhile isAsciiDigit with
    | '.' :: rest => (rest.takeWhile isAsciiDigit, rest.dropWhile isAsciiDigit)
    | rest => ([], rest)
  if whole.isEmpty ∧ fraction.isEmpty then none
  else (readExponent? rest).map (floatOfParts negative whole fraction)

/-- A text without its low lines, each of which has to stand between two digits. -/
def joinDigits? : List Char → Option (List Char)
  | [] => some []
  | '_' :: _ => none
  | c :: '_' :: d :: rest =>
    if isAsciiDigit c ∧ isAsciiDigit d then (joinDigits? (d :: rest)).map (c :: ·) else none
  | c :: rest => (joinDigits? rest).map (c :: ·)

/-- **A floating point number**, with the liberties of free text. -/
def readFloat? (cs : List Char) : Option Double :=
  match (asciiNumeral? cs).bind joinDigits? with
  | none => none
  | some ascii =>
    let (negative, unsigned) := splitSign (trimAsciiBlanks ascii)
    let word := unsigned.map Char.toLower
    if word = "inf".toList ∨ word = "infinity".toList then some (.infinite negative)
    else if word = "nan".toList then some .nan
    else readUnsignedFloat? negative unsigned

end LoadPlan
