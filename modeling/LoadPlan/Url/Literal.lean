import LoadPlan.Number.Numeral

/-!
# Literal addresses

What may stand between the brackets of an authority.

* `Text.isIpv6` — an address of eight groups of hexadecimal digits, in which two colons stand for
  the groups left out, the last two groups may be written as an IPv4 address, and a zone may follow.
* `Text.isFutureAddress` — an address of a version that is named in front of it.
* `Text.isLiteralAddress` — either of the two.
-/

namespace LoadPlan

/-- A hexadecimal digit of ASCII. -/
def Rune.isHexDigit (r : Rune) : Bool :=
  r.isAsciiDigit || (0x41 ≤ r.code && r.code ≤ 0x46) || (0x61 ≤ r.code && r.code ≤ 0x66)

namespace Text

/-- One number of an IPv4 address: up to 255, without leading zeros. -/
def isOctet (t : Text) : Bool :=
  !t.isEmpty && t.length ≤ 3 && t.all Rune.isAsciiDigit && (t = "0" || !t.startsWith "0")
    && digitsValue 10 t.toChars ≤ 255

/-- An IPv4 address: four numbers with points between them. -/
def isIpv4 (t : Text) : Bool :=
  let octets := t.splitOn '.'
  octets.length = 4 && octets.all isOctet

/-- A group of an IPv6 address: one to four hexadecimal digits. -/
def isAddressGroup (t : Text) : Bool := !t.isEmpty && t.length ≤ 4 && t.all Rune.isHexDigit

/-- How many groups a row of written groups stands for; an IPv4 address at its end is two.  There
is no number when one of them is ill-formed. -/
def groupCount? : List Text → Option Nat
  | [] => some 0
  | [last] => if isAddressGroup last then some 1 else if isIpv4 last then some 2 else none
  | group :: groups => if isAddressGroup group then (groupCount? groups).map (· + 1) else none

/-- The groups written in a part of an address; an empty part has none. -/
def addressGroups (t : Text) : List Text := if t.isEmpty then [] else t.splitOn ':'

/-- The parts before and after the first two colons in a row. -/
def splitElision? : Text → Option (Text × Text)
  | [] => none
  | [_] => none
  | c :: d :: rest =>
    if c = ':' && d = ':' then some ([], rest)
    else (splitElision? (d :: rest)).map fun (left, right) => (c :: left, right)

/-- Whether the groups of an address are eight, or fewer with two colons for the others. -/
def hasEightGroups (t : Text) : Bool :=
  match splitElision? t with
  | none => groupCount? (addressGroups t) = some 8
  | some (left, right) =>
    let leading := addressGroups left
    leading.all isAddressGroup
      && (groupCount? (addressGroups right)).any fun trailing => leading.length + trailing ≤ 7

/-- **An IPv6 address**, with or without a zone.  The name of a zone is not empty and has no percent
sign. -/
def isIpv6 (t : Text) : Bool :=
  hasEightGroups (t.before '%')
    && match t.after? '%' with
      | none => true
      | some zone => !zone.isEmpty && !List.contains zone ('%' : Rune)

/-- **An address of a later version**: a small letter for it, its hexadecimal number, a point, and
at least one more character. -/
def isFutureAddress : Text → Bool
  | [] => false
  | v :: rest =>
    let version := rest.takeWhile Rune.isHexDigit
    v = 'v' && !version.isEmpty
      && match rest.dropWhile Rune.isHexDigit with
        | point :: _ :: _ => point = '.'
        | _ => false

/-- **What may stand in brackets.** -/
def isLiteralAddress (t : Text) : Bool :=
  if t.startsWith "v" then isFutureAddress t else isIpv6 t

end Text

end LoadPlan
