import LoadPlan.Number.Numeral
import LoadPlan.Text.Utf8
import LoadPlan.Yaml.Cursor
import LoadPlan.Yaml.Token

/-!
# Anchors, tags and directives

The tokens that say something about the node or the document that follows.

* `readName` — the name of an anchor or of an alias.
* `readTag` — a tag: verbatim between angle brackets, the lone mark, or an abbreviation and a
  suffix, in which bytes can be written as hexadecimal escapes.
* `readDirective` — a directive and the rest of its line.
-/

namespace LoadPlan.Yaml

/-! ## Names -/

/-- Whether a character may follow the name of an anchor. -/
def endsName (c : Char) : Bool :=
  isBlankOrBreak c || c = '?' || c = ':' || c = ',' || c = ']' || c = '\x7d' || c = '%' || c = '@'
    || c = '\x60'

/-- The name after the mark of an anchor or of an alias, at the mark. -/
def readName (c : Cursor) : Except TextFault (String × Cursor) :=
  let (name, c) := c.next.span isNameChar
  if name.isEmpty then .error c.fault
  else if c.peek.all endsName then .ok (String.ofList name, c)
  else .error .malformed

/-! ## Tags -/

/-- The characters that a tag consists of, apart from escapes. -/
def isTagChar (c : Char) : Bool :=
  isNameChar c || ";/?:@&=+$,_.!~*'()[]".toList.contains c

/-- A row of escaped bytes, at the first percent sign. -/
def readByteEscapes : Nat → Cursor → Except TextFault (List Nat × Cursor)
  | 0, _ => .error .malformed
  | steps + 1, c =>
    if c.peek = some '%' then
      let digits := (c.next.rest.take 2).takeWhile (hexDigit? · |>.isSome)
      let after := c.next.advance digits.length
      if digits.length = 2 then
        (readByteEscapes steps after).map fun (bytes, stop) =>
          (digitsValue 16 digits :: bytes, stop)
      else .error after.fault
    else .ok ([], c)

/-- The characters of a tag, which may be none. -/
def readTagChars : Nat → Cursor → Except TextFault (List Char × Cursor)
  | 0, _ => .error .malformed
  | steps + 1, c => do
    let (plain, c) := c.span isTagChar
    if c.peek = some '%' then
      let (bytes, c) ← readByteEscapes (c.size + 1) c
      match Utf8.decode bytes with
      | .error _ => throw c.fault
      | .ok escaped =>
        let (more, stop) ← readTagChars steps c
        return (plain ++ escaped ++ more, stop)
    else return (plain, c)

/-- The characters of a tag, of which there is at least one. -/
def readTagUri (c : Cursor) : Except TextFault (String × Cursor) := do
  let (uri, stop) ← readTagChars (c.size + 1) c
  if stop.index = c.index then throw stop.fault else return (String.ofList uri, stop)

/-- An abbreviation: the mark alone in front of a space, or a name between two marks. -/
def readTagHandle (c : Cursor) : Except TextFault (String × Cursor) :=
  match c.rest with
  | '!' :: ' ' :: _ => .ok ("!", c.next)
  | '!' :: _ =>
    let (name, after) := c.next.span isNameChar
    if after.peek = some '!' then
      .ok (String.ofList ('!' :: name ++ ['!']), after.next)
    else .error after.fault
  | _ => .error c.fault

/-- **A tag**, at its mark. -/
def readTag (c : Cursor) : Except TextFault (Token × Cursor) := do
  let (token, stop) ←
    if c.peekAt 1 = some '<' then do
      let (uri, c) ← readTagUri (c.advance 2)
      if c.peek = some '>' then pure (Token.tag none uri, c.next) else throw c.fault
    else if (c.peekAt 1).all isBlankOrBreak then pure (Token.tag none "!", c.next)
    else
      let word := c.next.rest.takeWhile (!isSpaceOrBreak ·)
      if word.contains '!' then do
        let (handle, c) ← readTagHandle c
        let (uri, c) ← readTagUri c
        pure (Token.tag (some handle) uri, c)
      else do
        c.require (word.length + 2)
        let (uri, c) ← readTagUri c.next
        pure (Token.tag (some "!") uri, c)
  if stop.peek.all isSpaceOrBreak then return (token, stop) else throw .malformed

/-! ## Directives -/

def readVersionNumber (c : Cursor) : Except TextFault (Nat × Cursor) := do
  let (digits, c) := c.span isAsciiDigit
  c.require 1
  if digits.isEmpty then throw .malformed else return (← readNatural digits, c)

/-- The rest of a directive that gives the version of the format. -/
def readVersionDirective (c : Cursor) : Except TextFault (Token × Cursor) := do
  let (major, c) ← readVersionNumber c.skipSpaces
  if c.peek ≠ some '.' then throw c.fault
  let (_, c) ← readVersionNumber c.next
  if c.peek.all isSpaceOrBreak then return (.versionDirective major, c) else throw .malformed

/-- The rest of a directive that gives an abbreviation for the beginning of tags. -/
def readTagDirective (c : Cursor) : Except TextFault (Token × Cursor) := do
  let (handle, c) ← readTagHandle c.skipSpaces
  if c.peek ≠ some ' ' then throw c.fault
  let (uri, c) ← readTagUri c.skipSpaces
  if c.peek.all isSpaceOrBreak then return (.tagDirective handle uri, c) else throw .malformed

/-- **A directive**, at its mark, with the rest of its line. -/
def readDirective (c : Cursor) : Except TextFault (Token × Cursor) := do
  let (name, c) := c.next.span isNameChar
  if name.isEmpty then throw c.fault
  if ¬ c.peek.all isSpaceOrBreak then throw .malformed
  let (token, c) ←
    if name = "YAML".toList then readVersionDirective c
    else if name = "TAG".toList then readTagDirective c
    else pure (Token.otherDirective, c.skip (!isBreak ·))
  let c := c.skipSpaces.skipComment
  if c.peek.all isBreak then return (token, c.lineBreak.2) else throw .malformed

end LoadPlan.Yaml
