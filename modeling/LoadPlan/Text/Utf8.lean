import LoadPlan.Text

/-!
# UTF-8

Reading bytes as characters, with an exact account of what is wrong when they are none, and of what
is wrong with a text that has no bytes.

* `Utf8.Flaw` — why a row of bytes is no text, and where.
* `Utf8.step` — the first character of a row of bytes.
* `Utf8.decode` — all of them.
* `Utf8.decodeBegun` — all of them, when more bytes may follow.
* `Utf8.Stray` — surrogates in a text, which have no bytes.
-/

namespace LoadPlan.Utf8

/-- **Why bytes are no text.** -/
inductive Reason where
  /-- A byte that no character begins with. -/
  | invalidStart
  /-- A byte that cannot stand where it does inside a character. -/
  | invalidContinuation
  /-- The bytes end inside a character. -/
  | unexpectedEnd
deriving DecidableEq

/-- **What is wrong with a row of bytes.** -/
structure Flaw where
  /-- The number of bytes before it. -/
  position : Nat
  /-- The bytes that are no character, of which there is at least one. -/
  octets : List Nat
  /-- Why. -/
  reason : Reason

/-- Whether a byte continues a character. -/
def isContinuation (b : Nat) : Bool := 0x80 ≤ b && b ≤ 0xBF

/-- Whether the second byte of a character may follow the first: the character must not have a
shorter form, must not be a surrogate, and must not lie beyond the last plane. -/
def mayFollow (first second : Nat) : Bool :=
  isContinuation second && (first != 0xE0 || 0xA0 ≤ second) && (first != 0xED || second < 0xA0)
    && (first != 0xF0 || 0x90 ≤ second) && (first != 0xF4 || second < 0x90)

/-- The number of bytes of a character, by its first byte. -/
def width? (first : Nat) : Option Nat :=
  if first < 0x80 then some 1
  else if 0xC2 ≤ first ∧ first ≤ 0xDF then some 2
  else if 0xE0 ≤ first ∧ first ≤ 0xEF then some 3
  else if 0xF0 ≤ first ∧ first ≤ 0xF4 then some 4
  else none

/-- The number of bytes after the first that are as they have to be. -/
def goodBytes (first : Nat) : List Nat → Nat
  | [] => 0
  | second :: rest =>
    if mayFollow first second then 1 + (rest.takeWhile isContinuation).length else 0

/-- The code point of the bytes of a character. -/
def codeOf (first : Nat) (rest : List Nat) : Nat :=
  let start :=
    if first < 0x80 then first
    else if first < 0xE0 then first - 0xC0
    else if first < 0xF0 then first - 0xE0
    else first - 0xF0
  rest.foldl (fun code b => code * 64 + (b - 0x80)) start

/-- **The first character** of a row of bytes that begins with a given one, and the number of bytes
after the first that belong to it; or what is wrong with it. -/
def step (first : Nat) (rest : List Nat) : Except (List Nat × Reason) (Char × Nat) :=
  match width? first with
  | none => .error ([first], .invalidStart)
  | some width =>
    let tail := rest.take (width - 1)
    let good := goodBytes first tail
    if good = width - 1 then .ok (Char.ofNat (codeOf first tail), width - 1)
    else if good = tail.length then .error (first :: rest, .unexpectedEnd)
    else .error (first :: rest.take good, .invalidContinuation)

/-- The characters of a row of bytes that others precede.  The first number says how many bytes
still belong to a character that has been read. -/
def decodeFrom : Nat → Nat → List Nat → Except Flaw (List Char)
  | _, _, [] => .ok []
  | position, passing + 1, _ :: rest => decodeFrom (position + 1) passing rest
  | position, 0, first :: rest =>
    match step first rest with
    | .error (octets, reason) => .error ⟨position, octets, reason⟩
    | .ok (c, more) => (decodeFrom (position + 1) more rest).map (c :: ·)

/-- **The characters of a row of bytes.** -/
def decode (octets : List Nat) : Except Flaw (List Char) := decodeFrom 0 0 octets

/-- Whether the bytes from a flaw on may be the beginning of a character, as far as that can be told
before more of them come.  Those of a surrogate are not refused before the last one. -/
def Flaw.isBeginning (flaw : Flaw) (rest : List Nat) : Bool :=
  match rest with
  | [0xED, second] => isContinuation second
  | _ => flaw.reason = .unexpectedEnd

/-- The characters of a row of bytes, and the bytes at its end that only begin a character. -/
def decodeBegun (octets : List Nat) : Except Flaw (List Char × List Nat) :=
  match decode octets with
  | .ok cs => .ok (cs, [])
  | .error flaw =>
    let rest := octets.drop flaw.position
    if flaw.isBeginning rest then
      (decode (octets.take flaw.position)).map fun cs => (cs, rest)
    else .error flaw

/-! ## Messages -/

def Reason.text : Reason → Text
  | invalidStart => "invalid start byte"
  | invalidContinuation => "invalid continuation byte"
  | unexpectedEnd => "unexpected end of data"

/-- The bytes that are no character, in words. -/
def Flaw.place (flaw : Flaw) : Text :=
  match flaw.octets with
  | [octet] =>
    "byte 0x" ++ Text.ofHexPadded 2 octet ++ " in position " ++ Text.ofNat flaw.position
  | octets =>
    "bytes in position " ++ Text.ofNat flaw.position ++ "-"
      ++ Text.ofNat (flaw.position + octets.length - 1)

/-- **The message of a flaw.** -/
def Flaw.message (flaw : Flaw) : Text :=
  "'utf-8' codec can't decode " ++ flaw.place ++ ": " ++ flaw.reason.text

/-! ## Texts that have no bytes -/

/-- **Surrogates in a text**: the number of code points before them, the first of them, and how many
follow it. -/
structure Stray where
  /-- The number of code points before them. -/
  position : Nat
  /-- The first of them. -/
  first : Rune
  /-- How many more there are in a row. -/
  more : Nat

/-- The first surrogates of a text, of which some code points have been passed. -/
def strayFrom? (position : Nat) : Text → Option Stray
  | [] => none
  | r :: rest =>
    if r.isSurrogate then some ⟨position, r, (rest.takeWhile Rune.isSurrogate).length⟩
    else strayFrom? (position + 1) rest

/-- **The first surrogates of a text.**  A text without any has bytes. -/
def stray? (t : Text) : Option Stray := strayFrom? 0 t

/-- The surrogates, in words. -/
def Stray.place (stray : Stray) : Text :=
  if stray.more = 0 then
    "character '\\u" ++ Text.ofHexPadded 4 stray.first.code ++ "' in position "
      ++ Text.ofNat stray.position
  else
    "characters in position " ++ Text.ofNat stray.position ++ "-"
      ++ Text.ofNat (stray.position + stray.more)

/-- **The message of surrogates.** -/
def Stray.message (stray : Stray) : Text :=
  "'utf-8' codec can't encode " ++ stray.place ++ ": surrogates not allowed"

end LoadPlan.Utf8
