import LoadPlan.Text

/-!
# Base64

Bytes written with 64 characters, six bits to a character.

* `Base64.decode?` — the lenient reading: characters outside the alphabet are passed over, and
  reading stops when the last group has been filled up with equals signs.
-/

namespace LoadPlan.Base64

/-- The six bits of a character of the alphabet. -/
def sextet? (c : Char) : Option Nat :=
  if 'A' ≤ c ∧ c ≤ 'Z' then some (c.toNat - 65)
  else if 'a' ≤ c ∧ c ≤ 'z' then some (c.toNat - 71)
  else if '0' ≤ c ∧ c ≤ '9' then some (c.toNat + 4)
  else if c = '+' then some 62
  else if c = '/' then some 63
  else none

/-- **The bytes of the rest of a text.**  `held` are the characters of the group that is being read,
at most three, as sextets in reverse; `pads` counts the equals signs since the last of them.  A
byte is complete as soon as its last character has been read. -/
def decodeFrom : List Nat → Nat → List Char → Option (List UInt8)
  | held, _, [] => if held.isEmpty then some [] else none
  | held, pads, c :: rest =>
    if c = '=' then
      if 2 ≤ held.length ∧ 4 ≤ held.length + pads + 1 then some []
      else decodeFrom held (if 2 ≤ held.length then pads + 1 else pads) rest
    else
      match sextet? c, held with
      | none, _ => decodeFrom held pads rest
      | some d, [] => decodeFrom [d] 0 rest
      | some d, [a] => emit (a * 4 + d / 16) (decodeFrom [d, a] 0 rest)
      | some d, [b, a] => emit (b % 16 * 16 + d / 4) (decodeFrom [d, b, a] 0 rest)
      | some d, b :: _ => emit (b % 4 * 64 + d) (decodeFrom [] 0 rest)
where
  /-- Puts a byte in front. -/
  emit (octet : Nat) (rest : Option (List UInt8)) : Option (List UInt8) :=
    rest.map (UInt8.ofNat octet :: ·)

/-- **The bytes of a text.** -/
def decode? (cs : List Char) : Option (List UInt8) := decodeFrom [] 0 cs

end LoadPlan.Base64
