import LoadPlan.Number.Numeral
import LoadPlan.Yaml.Cursor

/-!
# Quoted scalars

A leaf between quotation marks.

* `Quote` — single marks know one escape, the doubled mark; double marks know many.
* `readStretch` — the code points up to the next blank, line break or closing mark.
* `readGap` — blanks as they are, line breaks folded.
* `readQuoted` — the whole leaf.
-/

namespace LoadPlan.Yaml

/-- The kinds of quotation marks. -/
inductive Quote where
  /-- Single marks. -/
  | single
  /-- Double marks. -/
  | double
deriving DecidableEq

def Quote.char : Quote → Char
  | single => '\''
  | double => '"'

/-- The code point that a letter after a reverse solidus stands for. -/
def escapes : List (Char × Rune) :=
  [ ('0', '\x00'), ('a', '\x07'), ('b', '\x08'), ('t', '\t'), ('\t', '\t'), ('n', '\n'),
    ('v', '\x0b'), ('f', '\x0c'), ('r', '\r'), ('e', '\x1b'), (' ', ' '), ('"', '"'),
    ('\\', '\\'), ('/', '/'), ('N', '\x85'), ('_', '\xa0'), ('L', '\u2028'), ('P', '\u2029') ]

/-- The number of hexadecimal digits after a letter that announces some. -/
def escapeWidths : List (Char × Nat) := [('x', 2), ('u', 4), ('U', 8)]

/-- The code point of a number in an escape; a number may be too large for one. -/
def escapedRune (code : Nat) : Except TextFault Rune :=
  if h : code < 0x110000 then .ok ⟨code, h⟩
  else if code < 0x80000000 then .error .noSuchCodePoint
  else .error .numberTooLarge

/-- The line breaks after the first one of a gap, with the blanks around them left out.  A mark of
a document may not stand at the beginning of a line. -/
def quotedBreaks : Nat → Cursor → Except TextFault (List Char × Cursor)
  | 0, _ => .error .malformed
  | steps + 1, c => do
    if ← c.atDocumentMark then throw .malformed
    let c := c.skip isBlank
    if c.peek.any isBreak then
      let (lineBreak, c) := c.lineBreak
      let (breaks, stop) ← quotedBreaks steps c
      return (lineBreak ++ breaks, stop)
    else return ([], c)

/-- What follows a reverse solidus: the code points that it stands for, and the position after
it. -/
def readEscape (c : Cursor) : Except TextFault (Text × Cursor) :=
  match c.rest with
  | [] => .error c.fault
  | ch :: _ =>
    match escapes.lookup ch with
    | some r => .ok ([r], c.next)
    | none =>
      match escapeWidths.lookup ch with
      | some width =>
        let digits := (c.next.rest.take width).takeWhile (hexDigit? · |>.isSome)
        let after := c.next.advance digits.length
        if digits.length = width then
          (escapedRune (digitsValue 16 digits)).map fun r => ([r], after)
        else .error after.fault
      | none =>
        if isBreak ch then
          let after := c.lineBreak.2
          (quotedBreaks (after.size + 1) after).map fun (breaks, stop) =>
            (Text.ofChars breaks, stop)
        else .error .malformed

/-- **One stretch**: the code points up to the next blank, line break, closing mark or end. -/
def readStretch (quote : Quote) : Nat → Cursor → Except TextFault (Text × Cursor)
  | 0, _ => .error .malformed
  | steps + 1, c =>
    match c.rest with
    | [] => .ok ([], c)
    | ch :: rest =>
      if isBlankOrBreak ch then .ok ([], c)
      else if quote = .single ∧ ch = '\'' ∧ rest.head? = some '\'' then
        (readStretch quote steps (c.advance 2)).map fun (t, stop) => (Rune.ofChar '\'' :: t, stop)
      else if ch = quote.char then .ok ([], c)
      else if quote = .double ∧ ch = '\\' then do
        let (escaped, after) ← readEscape c.next
        let (t, stop) ← readStretch quote steps after
        return (escaped ++ t, stop)
      else (readStretch quote steps c.next).map fun (t, stop) => (Rune.ofChar ch :: t, stop)

/-- The gap after a stretch.  The leaf may not end with the text. -/
def readGap (c : Cursor) : Except TextFault (Text × Cursor) :=
  let (blanks, c) := c.span isBlank
  match c.peek with
  | none => .error c.fault
  | some ch =>
    if isBreak ch then
      let (lineBreak, c) := c.lineBreak
      (quotedBreaks (c.size + 1) c).map fun (breaks, stop) =>
        let folded :=
          if lineBreak != ['\n'] then lineBreak ++ breaks
          else if breaks.isEmpty then [' ']
          else breaks
        (Text.ofChars folded, stop)
    else .ok (Text.ofChars blanks, c)

/-- Stretches and gaps up to the closing mark. -/
def readQuotedRest (quote : Quote) : Nat → Cursor → Except TextFault (Text × Cursor)
  | 0, _ => .error .malformed
  | steps + 1, c => do
    let (stretch, afterStretch) ← readStretch quote (c.size + 1) c
    if afterStretch.peek = some quote.char then return (stretch, afterStretch.next)
    else
      let (gap, afterGap) ← readGap afterStretch
      let (more, stop) ← readQuotedRest quote steps afterGap
      return (stretch ++ gap ++ more, stop)

/-- **A quoted leaf**, at its opening mark. -/
def readQuoted (quote : Quote) (c : Cursor) : Except TextFault (Text × Cursor) :=
  readQuotedRest quote (c.size + 1) c.next

end LoadPlan.Yaml
