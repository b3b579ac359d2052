import LoadPlan.Number.Double

/-!
# Shortest decimals

The text of a floating point number: the fewest digits that read back as the number.

* `shortestDecimal` — the digits.  A decimal reads back as a number exactly when it lies in the
  interval of reals that round to the number; the ends belong to it when the significand is even.
  For one digit, two digits and so on, the two decimals next to the number are tried; the first
  digit count with a hit wins, the nearer of two hits, and of two equally near ones the even one.
* `Double.text` — the layout: positional for decimal exponents from -4 to 15, with at least one
  digit after the point, and otherwise a mantissa with an exponent of at least two digits.
-/

namespace LoadPlan

/-- The number of the leading decimal digit: the largest `p` with `10 ^ p ≤ numerator /
denominator`, for a positive fraction. -/
def leadingPlace (numerator denominator : Nat) : Int :=
  let estimate := ((numerator.log2 : Int) - denominator.log2) * 30103 / 100000
  let reaches (p : Int) : Bool :=
    denominator * Nat.pow 10 p.toNat ≤ numerator * Nat.pow 10 (-p).toNat
  if reaches (estimate + 1) then estimate + 1
  else if reaches estimate then estimate
  else estimate - 1

/-- **The interval that rounds to a number**, with all members over one denominator. -/
structure RoundingInterval where
  /-- The lower end. -/
  low : Nat
  /-- The number itself. -/
  middle : Nat
  /-- The upper end. -/
  high : Nat
  /-- The common denominator. -/
  denominator : Nat
  /-- Whether the ends round to the number too. -/
  closed : Bool

namespace RoundingInterval

/-- The interval of the number `significand · 2 ^ exponent`.  Below a power of two the numbers lie
twice as dense. -/
def of (significand : Nat) (exponent : Int) : RoundingInterval :=
  let below := if significand = Nat.pow 2 52 ∧ -1074 < exponent then 1 else 2
  let factor := Nat.pow 2 (exponent - 2).toNat
  { low := (4 * significand - below) * factor
    middle := 4 * significand * factor
    high := (4 * significand + 2) * factor
    denominator := Nat.pow 2 (2 - exponent).toNat
    closed := significand % 2 = 0 }

/-- The same interval in units of a power of ten. -/
def inUnits (interval : RoundingInterval) (place : Int) : RoundingInterval :=
  let factor := Nat.pow 10 (-place).toNat
  { interval with
    low := interval.low * factor
    middle := interval.middle * factor
    high := interval.high * factor
    denominator := interval.denominator * Nat.pow 10 place.toNat }

/-- Whether a whole number of units lies in the interval. -/
def holds (interval : RoundingInterval) (units : Nat) : Bool :=
  let value := units * interval.denominator
  if interval.closed then interval.low ≤ value && value ≤ interval.high
  else interval.low < value && value < interval.high

/-- The whole number of units in the interval that is next to the number, when there is one. -/
def nearest? (interval : RoundingInterval) : Option Nat :=
  let down := interval.middle / interval.denominator
  let up := down + 1
  match interval.holds down, interval.holds up with
  | false, false => none
  | true, false => some down
  | false, true => some up
  | true, true =>
    let toDown := interval.middle - down * interval.denominator
    let toUp := up * interval.denominator - interval.middle
    if toDown < toUp then some down
    else if toUp < toDown then some up
    else some (down + down % 2)

end RoundingInterval

/-- The first hit among the digit counts that are left, as digits and the place of the last one. -/
def shortestFrom (interval : RoundingInterval) (place : Int) : Nat → Nat × Int
  | 0 => ((interval.inUnits place).middle / (interval.inUnits place).denominator, place)
  | left + 1 =>
    match (interval.inUnits place).nearest? with
    | some digits => (digits, place)
    | none => shortestFrom interval (place - 1) left

/-- **The shortest decimal of a positive number**: digits, and the place of the last one.  Seventeen
digits are always enough. -/
def shortestDecimal (significand : Nat) (exponent : Int) : Nat × Int :=
  let interval := RoundingInterval.of significand exponent
  shortestFrom interval (leadingPlace interval.middle interval.denominator) 17

/-- The digits of a decimal and its decimal exponent, without the zeros at its end. -/
def mantissa (digits : Nat) (place : Int) : Text × Int :=
  let all := Text.ofNat digits
  (all.trimEnd (· = '0'), all.length - 1 + place)

/-- A positive decimal: digits, and the exponent of the first one. -/
def decimalText (digits : Text) (exponent : Int) : Text :=
  if -4 ≤ exponent ∧ exponent < 16 then
    if exponent < 0 then
      "0." ++ List.replicate ((-exponent).toNat - 1) ('0' : Rune) ++ digits
    else
      let whole := exponent.toNat + 1
      if digits.length ≤ whole then
        digits ++ List.replicate (whole - digits.length) ('0' : Rune) ++ ".0"
      else digits.take whole ++ "." ++ digits.drop whole
  else
    let fraction : Text := if digits.length ≤ 1 then "" else "." ++ digits.drop 1
    let sign : Text := if exponent < 0 then "-" else "+"
    digits.take 1 ++ fraction ++ "e" ++ sign ++ Text.ofNatPadded 2 exponent.natAbs

/-- **The text of a floating point number.** -/
def Double.text : Double → Text
  | nan => "nan"
  | infinite negative => if negative then "-inf" else "inf"
  | finite negative significand exponent =>
    let magnitude : Text :=
      if significand = 0 then "0.0"
      else
        let shortest := shortestDecimal significand exponent
        let parts := mantissa shortest.1 shortest.2
        decimalText parts.1 parts.2
    if negative then "-" ++ magnitude else magnitude

end LoadPlan
