import LoadPlan.Number.Double

/-!
# The order of a set of numbers

A set has no order of its own, but its members have to be shown in one.  Numbers are shown by their
seats in a row that has about twice as many seats as there are numbers.  A number asks for the seat
that its code gives, and where that is taken it goes on to others.

* `Numeric.code?` — the code of a number: numbers that are equal have the same, whatever their kind.
* `seats` — the seat of each number of a list, in the order in which they come.
* `arranged` — something that belongs to the numbers, in the order of their seats.
-/

namespace LoadPlan

/-- Codes are remainders of division by this prime; modulo it, doubling 61 times changes nothing. -/
def codePrime : Nat := Nat.pow 2 61 - 1

/-- The code of a number of some magnitude: its remainder as a word of 64 bits, with the sign of the
number.  Minus one is no code. -/
def signedCode (negative : Bool) (remainder : Nat) : Nat :=
  if !negative || remainder = 0 then remainder
  else Nat.pow 2 64 - (if remainder = 1 then 2 else remainder)

/-- **The code of a number.**  What is not a number has none. -/
def Numeric.code? : Numeric → Option Nat
  | .int i => some (signedCode (i < 0) (i.natAbs % codePrime))
  | .float .nan => none
  | .float (.infinite negative) => some (signedCode negative 314159)
  | .float (.finite negative significand exponent) =>
    some (signedCode negative (significand * Nat.pow 2 (exponent % 61).toNat % codePrime))

/-- The number of seats for some numbers. -/
def seatCount (n : Nat) : Nat := if n ≤ 4 then 8 else Nat.pow 2 ((2 * n).log2 + 1)

/-- The seats that a number asks for, beginning with a given one: that and, as far as the row goes
on, the nine after it; then others that the rest of its code leads to. -/
def wishes (count : Nat) : Nat → (seat rest : Nat) → List Nat
  | 0, _, _ => []
  | rounds + 1, seat, rest =>
    (if seat + 9 < count then List.range' seat 10 else [seat])
      ++ wishes count rounds ((5 * seat + 1 + rest / 32) % count) (rest / 32)

/-- The seats of numbers with some codes, when others are taken.  The code is used up after a few
rounds, and from then on all seats are met in turn. -/
def seatsBeside (count : Nat) (taken : List Nat) : List Nat → List Nat
  | [] => []
  | code :: codes =>
    let seat := ((wishes count (count + 14) (code % count) code).find? (· ∉ taken)).getD 0
    seat :: seatsBeside count (seat :: taken) codes

/-- **The seats of numbers with some codes.** -/
def seats (codes : List Nat) : List Nat := seatsBeside (seatCount codes.length) [] codes

/-- **What belongs to some numbers, in the order of their seats**; where something is no number,
everything stays where it is. -/
def arranged {α : Type} (numbers : List (Option Numeric)) (belongings : List α) : List α :=
  match numbers.mapM (· >>= Numeric.code?) with
  | none => belongings
  | some codes => ((seats codes).zip belongings).mergeSort (·.1 ≤ ·.1) |>.map (·.2)

end LoadPlan
