import LoadPlan.Text

/-!
# Binary floating point, exactly

The numbers of the 64-bit binary format as values that can be reasoned about: a number is a sign,
a significand and a power of two, and each operation is an exact computation on natural numbers
followed by one rounding.

* `Double` — the numbers, with the infinities and not-a-number.
* `Double.ofRatio` — the number nearest to a fraction; a fraction half way between two numbers goes
  to the one with the even significand.
* `Double.toFraction?` — the fraction that a finite number is.
* `Double.add`, `Double.mul`, `Double.floor?`, `Double.ceil?` — arithmetic through fractions.
* `Numeric.lt`, `Numeric.eq` — exact comparison of integers and floating point numbers with
  each other.
-/

namespace LoadPlan

/-- **A number of the 64-bit binary format.**  A finite number is `± significand · 2 ^ exponent`
with `significand < 2 ^ 53`, `-1074 ≤ exponent ≤ 971`, and the exponent as small as the
significand allows. -/
inductive Double where
  /-- Not a number. -/
  | nan
  /-- An infinity. -/
  | infinite (negative : Bool)
  /-- A finite number; zero has a sign too. -/
  | finite (negative : Bool) (significand : Nat) (exponent : Int)
deriving DecidableEq

/-- The quotient rounded to the nearest integer, and half way to the even one. -/
def roundHalfEven (numerator denominator : Nat) : Nat :=
  let quotient := numerator / denominator
  let twice := 2 * (numerator % denominator)
  if twice < denominator then quotient
  else if denominator < twice then quotient + 1
  else quotient + quotient % 2

/-- A fraction divided by a power of two. -/
def scaleDown (numerator denominator : Nat) (exponent : Int) : Nat × Nat :=
  if 0 ≤ exponent then (numerator, denominator * Nat.pow 2 exponent.toNat)
  else (numerator * Nat.pow 2 (-exponent).toNat, denominator)

namespace Double

def zero (negative : Bool) : Double := finite negative 0 (-1074)

/-- The exponent with which a positive fraction has a significand of 53 bits, as far as the
smallest exponent allows. -/
def exponentFor (numerator denominator : Nat) : Int :=
  let estimate := max (-1074) ((numerator.log2 : Int) - denominator.log2 - 53)
  let scaled := scaleDown numerator denominator estimate
  if scaled.1 / scaled.2 < Nat.pow 2 53 then estimate else estimate + 1

/-- **The number nearest to a fraction** with a positive denominator. -/
def ofRatio (negative : Bool) (numerator denominator : Nat) : Double :=
  if numerator = 0 then zero negative
  else
    let exponent := exponentFor numerator denominator
    let scaled := scaleDown numerator denominator exponent
    let significand := roundHalfEven scaled.1 scaled.2
    if significand < Nat.pow 2 53 then
      if exponent ≤ 971 then finite negative significand exponent else infinite negative
    else if exponent < 971 then finite negative (Nat.pow 2 52) (exponent + 1)
    else infinite negative

/-- The number nearest to an integer. -/
def ofInt (i : Int) : Double := ofRatio (i < 0) i.natAbs 1

/-- The number nearest to an integer, unless that lies beyond the largest one. -/
def ofInt? (i : Int) : Option Double :=
  match ofInt i with
  | infinite _ => none
  | number => some number

/-- The number nearest to `± digits · 10 ^ exponent`.  A value far outside the range of the format
is decided by its magnitude alone, so that no huge power of ten is ever formed. -/
def ofDecimal (negative : Bool) (digits : Nat) (exponent : Int) : Double :=
  if digits = 0 then zero negative
  else
    let magnitude := ((Nat.toDigits 10 digits).length : Int) + exponent
    if 310 < magnitude then infinite negative
    else if magnitude < -330 then zero negative
    else if 0 ≤ exponent then ofRatio negative (digits * Nat.pow 10 exponent.toNat) 1
    else ofRatio negative digits (Nat.pow 10 (-exponent).toNat)

/-- The fraction that a finite number is, as an integer over a positive natural number. -/
def toFraction? : Double → Option (Int × Nat)
  | nan => none
  | infinite _ => none
  | finite negative significand exponent =>
    let magnitude : Int := (significand * Nat.pow 2 exponent.toNat : Nat)
    some (if negative then -magnitude else magnitude, Nat.pow 2 (-exponent).toNat)

/-- Whether the sign of a number is a minus. -/
def isNegative : Double → Bool
  | nan => false
  | infinite negative => negative
  | finite negative _ _ => negative

/-- Whether a number is zero, of either sign. -/
def isZero : Double → Bool
  | finite _ 0 _ => true
  | _ => false

/-- The number with the opposite sign. -/
def neg : Double → Double
  | nan => nan
  | infinite negative => infinite !negative
  | finite negative significand exponent => finite (!negative) significand exponent

def add : Double → Double → Double
  | nan, _ => nan
  | _, nan => nan
  | infinite a, infinite b => if a = b then infinite a else nan
  | infinite a, finite _ _ _ => infinite a
  | finite _ _ _, infinite b => infinite b
  | x@(finite a _ _), y@(finite b _ _) =>
    match x.toFraction?, y.toFraction? with
    | some (n, d), some (m, e) =>
      let sum := n * e + m * d
      if sum = 0 then zero (a && b) else ofRatio (sum < 0) sum.natAbs (d * e)
    | _, _ => nan

def mul : Double → Double → Double
  | nan, _ => nan
  | _, nan => nan
  | infinite a, y => if y.isZero then nan else infinite (a != y.isNegative)
  | x, infinite b => if x.isZero then nan else infinite (x.isNegative != b)
  | x@(finite a _ _), y@(finite b _ _) =>
    match x.toFraction?, y.toFraction? with
    | some (n, d), some (m, e) => ofRatio (a != b) (n * m).natAbs (d * e)
    | _, _ => nan

/-- The largest integer that is not above a finite number. -/
def floor? (x : Double) : Option Int := x.toFraction?.map fun (n, d) => Int.fdiv n d

/-- The smallest integer that is not below a finite number. -/
def ceil? (x : Double) : Option Int := x.toFraction?.map fun (n, d) => -Int.fdiv (-n) d

end Double

/-! ## Numbers of both kinds -/

/-- **A number** as documents hold it: an integer of any size, or a floating point number. -/
inductive Numeric where
  /-- An integer. -/
  | int (i : Int)
  /-- A floating point number. -/
  | float (x : Double)
deriving DecidableEq

namespace Numeric

/-- The place of a number on the line: a fraction or an infinity, and nothing for not-a-number. -/
inductive Place where
  /-- Below every fraction. -/
  | bottom
  /-- A fraction with a positive denominator. -/
  | at (numerator : Int) (denominator : Nat)
  /-- Above every fraction. -/
  | top

/-- Where a number lies. -/
def place? : Numeric → Option Place
  | int i => some (.at i 1)
  | float .nan => none
  | float (.infinite true) => some .bottom
  | float (.infinite false) => some .top
  | float x => x.toFraction?.map fun (n, d) => .at n d

def Place.lt : Place → Place → Bool
  | .bottom, .bottom => false
  | .bottom, _ => true
  | _, .bottom => false
  | .at n d, .at m e => n * e < m * d
  | .at _ _, .top => true
  | .top, _ => false

/-- **Exact comparison.**  Not-a-number is below nothing and nothing is below it. -/
def lt (x y : Numeric) : Bool :=
  match x.place?, y.place? with
  | some p, some q => p.lt q
  | _, _ => false

/-- Exact equality: an integer equals the floating point number of the same value, the two zeros
are equal, and not-a-number equals nothing. -/
def eq (x y : Numeric) : Bool :=
  match x.place?, y.place? with
  | some p, some q => !p.lt q && !q.lt p
  | _, _ => false

end Numeric

end LoadPlan
