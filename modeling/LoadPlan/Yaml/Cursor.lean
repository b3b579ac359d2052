import LoadPlan.Yaml.Source

/-!
# Positions in a YAML text

* `Cursor` — the characters that are left, and where they stand.
* `Cursor.advance` — going on; a line break of any kind starts a new line, and a byte order mark has
  no width.
* `Cursor.require`, `Cursor.fault` — looking further than the characters that can be read: the fault
  is then whatever keeps the rest from being read.
* `Cursor.lineBreak` — reading one line break in its normalized form.
* `isBreak`, `isBlank`, `isBlankOrBreak` — the character classes of the format.  Where a rule also
  allows the end of the text it is written with `Option.all`, which holds of no character.
-/

namespace LoadPlan.Yaml

def isBreak (c : Char) : Bool :=
  c = '\n' || c = '\r' || c = '\x85' || c = '\u2028' || c = '\u2029'

/-- A space or a tabulator. -/
def isBlank (c : Char) : Bool := c = ' ' || c = '\t'

/-- A space, a tabulator or a line break. -/
def isBlankOrBreak (c : Char) : Bool := isBlank c || isBreak c

def isSpaceOrBreak (c : Char) : Bool := c = ' ' || isBreak c

/-- The characters of anchors, directives and tag handles. -/
def isNameChar (c : Char) : Bool :=
  ('0' ≤ c && c ≤ '9') || ('A' ≤ c && c ≤ 'Z') || ('a' ≤ c && c ≤ 'z') || c = '-' || c = '_'

/-- **A position**: the characters that are left, how many have been passed, and line and column,
all counted from zero.  The number of all characters is kept, because it bounds every way from here
on. -/
structure Cursor where
  /-- The number of characters that can be read. -/
  size : Nat
  /-- What keeps the characters behind them from being read; nothing if there are none. -/
  obstacle? : Option TextFault
  /-- The characters that are left. -/
  rest : List Char
  /-- The characters that have been passed. -/
  index : Nat
  /-- The line. -/
  line : Nat
  /-- The column. -/
  column : Nat

namespace Cursor

def start (source : Source) : Cursor :=
  ⟨source.chars.length, source.obstacle?, source.chars, 0, 0, 0⟩

/-- Looks at some characters from here on, as far as the text has so many. -/
def require (c : Cursor) (count : Nat) : Except TextFault Unit :=
  match c.obstacle? with
  | none => .ok ()
  | some obstacle => if (c.rest.take count).length < count then .error obstacle else .ok ()

/-- What is wrong with a text whose next character is not what it has to be. -/
def fault (c : Cursor) : TextFault :=
  if c.rest.isEmpty then c.obstacle?.getD .malformed else .malformed

def peek (c : Cursor) : Option Char := c.rest.head?

/-- The character some places further. -/
def peekAt (c : Cursor) (n : Nat) : Option Char := c.rest[n]?

/-- One character further. -/
def next (c : Cursor) : Cursor :=
  match c.rest with
  | [] => c
  | ch :: rest =>
    let passed : Cursor := { c with rest, index := c.index + 1 }
    if isBreak ch && !(ch = '\r' && rest.head? = some '\n') then
      { passed with line := c.line + 1, column := 0 }
    else { passed with column := if ch = '\uFEFF' then c.column else c.column + 1 }

/-- Some characters further. -/
def advance (c : Cursor) : Nat → Cursor
  | 0 => c
  | n + 1 => c.next.advance n

/-- The characters from here on that a predicate accepts, and the position after them. -/
def span (c : Cursor) (accept : Char → Bool) : List Char × Cursor :=
  let taken := c.rest.takeWhile accept
  (taken, c.advance taken.length)

/-- The position after the characters that a predicate accepts. -/
def skip (c : Cursor) (accept : Char → Bool) : Cursor := (c.span accept).2

/-- The position after spaces. -/
def skipSpaces (c : Cursor) : Cursor := c.skip (· = ' ')

/-- The position after a comment, if one begins here: the end of its line. -/
def skipComment (c : Cursor) : Cursor :=
  if c.peek = some '#' then c.skip (!isBreak ·) else c

/-- A line break at the position in normalized form, and the position after it.  The two separators
of Unicode stay what they are, every other break becomes a line feed. -/
def lineBreak (c : Cursor) : List Char × Cursor :=
  match c.rest with
  | [] => ([], c)
  | '\r' :: '\n' :: _ => (['\n'], c.advance 2)
  | ch :: _ =>
    if ch = '\u2028' ∨ ch = '\u2029' then ([ch], c.next)
    else if isBreak ch then (['\n'], c.next)
    else ([], c)

/-- Whether three equal characters stand here, with a blank, a line break or the end after them. -/
def marks (c : Cursor) (ch : Char) : Except TextFault Bool := do
  c.require 3
  if c.rest.take 3 == [ch, ch, ch] then
    c.require 4
    return (c.peekAt 3).all isBlankOrBreak
  else return false

/-- Whether a mark of the start or of the end of a document stands here. -/
def atDocumentMark (c : Cursor) : Except TextFault Bool := do
  if ← c.marks '-' then return true else c.marks '.'

end Cursor

end LoadPlan.Yaml
