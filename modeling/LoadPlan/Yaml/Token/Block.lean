import LoadPlan.Fault
import LoadPlan.Yaml.Cursor

/-!
# Block scalars

A leaf of whole lines, marked by a vertical line (line breaks are kept) or by a greater-than sign
(line breaks between lines that begin with a character other than a blank are folded).

* `BlockHeader` — what the mark may be followed by: what becomes of the line breaks at the end, and
  the indentation.
* `readBlock` — the whole leaf.
-/

namespace LoadPlan.Yaml

/-- What becomes of the line breaks at the end of a leaf. -/
inductive Chomping where
  /-- All are dropped. -/
  | strip
  /-- One is kept. -/
  | clip
  /-- All are kept. -/
  | keep
deriving DecidableEq

/-- **The header of a leaf.** -/
structure BlockHeader where
  /-- What becomes of the line breaks at the end. -/
  chomping : Chomping
  /-- The indentation beyond the surrounding one, if it is given. -/
  increment : Option Nat

/-- A sign that says what becomes of the line breaks at the end. -/
def chompingOf? (c : Char) : Option Chomping :=
  if c = '+' then some .keep else if c = '-' then some .strip else none

/-- The digit of an indentation; zero is none. -/
def incrementOf? (c : Char) : Option (Except TextFault Nat) :=
  if c = '0' then some (.error .malformed)
  else if '1' ≤ c ∧ c ≤ '9' then some (.ok (c.toNat - 48))
  else none

/-- A sign, if one stands here. -/
def readChomping (c : Cursor) : Option Chomping × Cursor :=
  match c.peek.bind chompingOf? with
  | some chomping => (some chomping, c.next)
  | none => (none, c)

/-- A digit, if one stands here. -/
def readIncrement (c : Cursor) : Except TextFault (Option Nat × Cursor) :=
  match c.peek.bind incrementOf? with
  | some increment => increment.map fun n => (some n, c.next)
  | none => .ok (none, c)

/-- The rest of a line that may hold nothing but a comment. -/
def readIgnoredLine (c : Cursor) : Except TextFault Cursor :=
  let c := c.skipSpaces.skipComment
  if c.peek.all isBreak then .ok c.lineBreak.2 else .error .malformed

/-- A header: sign and digit in either order, and nothing else on the line. -/
def readHeader (c : Cursor) : Except TextFault (BlockHeader × Cursor) := do
  let (sign, c) := readChomping c
  let (increment, c) ← readIncrement c
  let (sign, c) := if sign.isNone ∧ increment.isSome then readChomping c else (sign, c)
  if c.peek.all isSpaceOrBreak then
    return (⟨sign.getD .clip, increment⟩, ← readIgnoredLine c)
  else throw .malformed

/-- The empty lines in front of the first line that is not empty, and the deepest column that spaces
reach in them. -/
def readLeadingBreaks : Nat → Nat → Cursor → List Char × Nat × Cursor
  | 0, deepest, c => ([], deepest, c)
  | steps + 1, deepest, c =>
    match c.peek with
    | some ' ' => readLeadingBreaks steps (max deepest c.next.column) c.next
    | some ch =>
      if isBreak ch then
        let (lineBreak, after) := c.lineBreak
        let (breaks, deepest, stop) := readLeadingBreaks steps deepest after
        (lineBreak ++ breaks, deepest, stop)
      else ([], deepest, c)
    | none => ([], deepest, c)

/-- The position after the spaces that stand before a column. -/
def skipIndent (indent : Nat) : Nat → Cursor → Cursor
  | 0, c => c
  | steps + 1, c =>
    if c.column < indent ∧ c.peek = some ' ' then skipIndent indent steps c.next else c

/-- Empty lines, and the position after the indentation of the line that follows. -/
def readBreaks (indent : Nat) : Nat → Cursor → List Char × Cursor
  | 0, c => ([], c)
  | steps + 1, c =>
    let c := skipIndent indent indent c
    if c.peek.any isBreak then
      let (lineBreak, after) := c.lineBreak
      let (breaks, stop) := readBreaks indent steps after
      (lineBreak ++ breaks, stop)
    else ([], c)

/-- The lines of a leaf, at the first character of one, after some empty lines. -/
def readLines (folded : Bool) (chomping : Chomping) (indent : Nat) :
    Nat → List Char → List Char → Cursor → List Char × Cursor
  | 0, _, _, c => ([], c)
  | steps + 1, lineBreak, breaks, c =>
    if c.column = indent ∧ c.peek.isSome then
      let opensPlain := !c.peek.any isBlank
      let (line, afterLine) := c.span (!isBreak ·)
      let (nextBreak, afterBreak) := afterLine.lineBreak
      let (nextBreaks, c) := readBreaks indent (afterBreak.size + 1) afterBreak
      if c.column = indent ∧ c.peek.isSome then
        let joint : List Char :=
          if folded && nextBreak == ['\n'] && opensPlain && !c.peek.any isBlank then
            if nextBreaks.isEmpty then [' '] else []
          else nextBreak
        let (more, stop) := readLines folded chomping indent steps nextBreak nextBreaks c
        (breaks ++ line ++ joint ++ more, stop)
      else (breaks ++ line ++ chomped nextBreak nextBreaks, c)
    else (chomped lineBreak breaks, c)
where
  /-- What is kept of the line breaks at the end. -/
  chomped (lineBreak breaks : List Char) : List Char :=
    match chomping with
    | .strip => []
    | .clip => lineBreak
    | .keep => lineBreak ++ breaks

/-- **A leaf of whole lines**, at its mark, inside an indentation. -/
def readBlock (folded : Bool) (surrounding : Int) (c : Cursor) :
    Except TextFault (List Char × Cursor) := do
  let (header, c) ← readHeader c.next
  let least := (max (surrounding + 1) 1).toNat
  let fuel := c.size + 1
  match header.increment with
  | none =>
    let (breaks, deepest, c) := readLeadingBreaks fuel 0 c
    return readLines folded header.chomping (max least deepest) fuel [] breaks c
  | some increment =>
    let indent := least + increment - 1
    let (breaks, c) := readBreaks indent fuel c
    return readLines folded header.chomping indent fuel [] breaks c

end LoadPlan.Yaml
