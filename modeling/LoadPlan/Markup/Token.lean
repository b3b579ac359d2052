import LoadPlan.Markup
import LoadPlan.Markup.NameCharacter
import LoadPlan.Number.Numeral

/-!
# Tokens of markup

The pieces that a document is cut into: tags, texts, references, comments, instructions.

* `Markup.Halt` — where reading stops, and why.
* `Markup.Scan` — a reader of characters.  It stops at a character that cannot stand where it
  stands, or because no characters are left.
* `Markup.Reference`, `Markup.Written`, `Markup.Token` — references, attributes and tokens as they
  are written, before it is known what they stand for.
* `Markup.token` — the next token between the tags of an element.

Loops take a bound on the number of rounds.  Every round uses up a character, so the number of
characters that are left, and one more, is bound enough.
-/

namespace LoadPlan.Markup

/-- **Where reading stops**, by the number of characters that are left there. -/
structure Halt where
  /-- Why it stops. -/
  flaw : Flaw
  /-- The number of characters from there on. -/
  left : Nat

/-- **A reader of characters.**  Its fault is nothing when the characters have run out. -/
abbrev Scan := StateT Text (Except (Option Halt))

/-- The white space of the format. -/
def isSpace (r : Rune) : Bool := r = ' ' || r = '\t' || r = '\r' || r = '\n'

namespace Scan

/-- The next character, which stays where it is. -/
def peek : Scan Rune := do
  match ← get with
  | [] => throw none
  | r :: _ => return r

/-- Passes over the next character. -/
def skip : Scan Unit := modify List.tail

/-- The number of characters that are left. -/
def left : Scan Nat := return (← get).length

/-- The next character cannot stand where it stands. -/
def refuse {α : Type} : Scan α := do throw (some ⟨.invalidToken, ← left⟩)

/-- Passes over a character that has to be the next. -/
def expect (r : Rune) : Scan Unit := do
  if (← peek) = r then skip else refuse

/-- The characters from here on that a predicate accepts. -/
def takeWhile (accept : Rune → Bool) : Scan Text := do
  let rest ← get
  set (rest.dropWhile accept)
  return rest.takeWhile accept

/-- Passes over white space. -/
def skipSpace : Scan Unit := do
  let _ ← takeWhile isSpace

/-! ## Names and references -/

def name : Scan Text := do
  if (← peek).isNameStart then takeWhile Rune.isNamePart else refuse

/-- A name that may have an abbreviation and a colon in front. -/
def longName : Scan Text := do
  let first ← name
  if (← peek) = ':' then
    skip
    let second ← name
    return first ++ ":" ++ second
  else return first

end Scan

/-- **A reference**, as it is written. -/
inductive Reference where
  /-- To what has a name. -/
  | named (name : Text)
  /-- To the character with a number. -/
  | numbered (number : Nat)

namespace Reference

def characters : List (Text × Rune) :=
  [("lt", '<'), ("gt", '>'), ("amp", '&'), ("quot", '"'), ("apos", '\'')]

def rune : Reference → Except Flaw Rune
  | named name =>
    match characters.lookup name with
    | some r => .ok r
    | none => .error .undefinedEntity
  | numbered number =>
    if 0x110000 ≤ number ∨ (Rune.ofCode number).isIllegal then .error .badCharacterNumber
    else .ok (Rune.ofCode number)

end Reference

namespace Scan

/-- Whether a character is a digit of a base, which is ten or sixteen. -/
def isDigit (base : Nat) (r : Rune) : Bool :=
  r.isAscii && (charDigit? r.toChar).any (· < base)

def digits (base : Nat) : Scan Reference := do
  if isDigit base (← peek) then
    let row ← takeWhile (isDigit base)
    expect ';'
    return .numbered (digitsValue base row.toChars)
  else refuse

/-- A reference, of which the ampersand has been read. -/
def reference : Scan Reference := do
  if (← peek) = '#' then
    skip
    if (← peek) = 'x' then
      skip
      digits 16
    else digits 10
  else
    let name ← name
    expect ';'
    return .named name

end Scan

/-! ## Tags -/

/-- **A piece of the value of an attribute**, as it is written. -/
inductive Piece where
  /-- Characters. -/
  | run (t : Text)
  /-- A reference, with the number of characters that are left at its beginning. -/
  | reference (reference : Reference) (left : Nat)

/-- **An attribute**, as it is written. -/
structure Written where
  /-- Its name. -/
  name : Text
  /-- The number of characters that are left at its beginning. -/
  left : Nat
  /-- Its value. -/
  pieces : List Piece

namespace Scan

/-- Whether a character can stand in a value between quotation marks of a kind. -/
def isPlainIn (mark r : Rune) : Bool := r ≠ mark && r ≠ '<' && r ≠ '&' && !r.isIllegal

/-- The pieces of a value, up to the quotation mark that closes it. -/
def pieces (mark : Rune) : Nat → Scan (List Piece)
  | 0 => throw none
  | rounds + 1 => do
    let run ← takeWhile (isPlainIn mark)
    let next ← peek
    if next = mark then
      skip
      return [.run run]
    else if next = '&' then
      let place ← left
      skip
      let reference ← reference
      return .run run :: .reference reference place :: (← pieces mark rounds)
    else refuse

def attributePart : Scan Written := do
  let place ← left
  let name ← longName
  skipSpace
  expect '='
  skipSpace
  let mark ← peek
  if mark = '"' ∨ mark = '\'' then
    skip
    return ⟨name, place, ← pieces mark ((← left) + 1)⟩
  else refuse

/-- What follows the name of an element in the tag that opens it, and whether the tag closes it,
too. -/
def attributeParts : Nat → Scan (List Written × Bool)
  | 0 => throw none
  | rounds + 1 => do
    let next ← peek
    if next = '>' then
      skip
      return ([], false)
    else if next = '/' then
      skip
      expect '>'
      return ([], true)
    else if isSpace next then
      skipSpace
      let next ← peek
      if next = '>' ∨ next = '/' then attributeParts rounds
      else
        let first ← attributePart
        let (more, closed) ← attributeParts rounds
        return (first :: more, closed)
    else refuse

end Scan

/-! ## Tokens -/

/-- **A token.** -/
inductive Token where
  /-- A tag that opens an element, and may close it, too. -/
  | opening (name : Text) (attributes : List Written) (closed : Bool)
  /-- A tag that closes an element, with the number of characters that are left at its name. -/
  | closing (name : Text) (left : Nat)
  /-- Text without references. -/
  | run (t : Text)
  /-- A reference. -/
  | reference (reference : Reference)
  /-- Text in a passage without escapes. -/
  | literal (t : Text)
  /-- A remark. -/
  | comment (t : Text)
  /-- A message to a reader. -/
  | instruction (target message : Text)

/-- The characters before a mark, and those after it. -/
def cutAt (mark : Text) : Text → Except (Option Halt) (Text × Text)
  | [] => .error none
  | r :: rest =>
    if mark.isPrefixOf (r :: rest) then .ok ([], (r :: rest).drop mark.length)
    else if r.isIllegal then .error (some ⟨.invalidToken, rest.length + 1⟩)
    else (cutAt mark rest).map fun (t, left) => (r :: t, left)

/-- The characters before a tag or a reference, and those from there on.  The end of a passage
without escapes cannot stand in a text. -/
def cutText : Text → Except (Option Halt) (Text × Text)
  | [] => .ok ([], [])
  | r :: rest =>
    if r = '<' ∨ r = '&' then .ok ([], r :: rest)
    else if r.isIllegal then .error (some ⟨.invalidToken, rest.length + 1⟩)
    else if r = ']' ∧ Text.startsWith rest "]>" then
      .error (some ⟨.invalidToken, rest.length - 1⟩)
    else (cutText rest).map fun (t, left) => (r :: t, left)

namespace Scan

def upTo (mark : Text) : Scan Text := cutAt mark

/-- A remark, of which the first hyphen has been read. -/
def comment : Scan Text := do
  expect '-'
  let t ← upTo "--"
  expect '>'
  return t.lineFeeds

/-- Whether a name is that of the declaration of the format, but not in lower case. -/
def isReserved (target : Text) : Bool :=
  match target with
  | [x, m, l] =>
    (x = 'x' || x = 'X') && (m = 'm' || m = 'M') && (l = 'l' || l = 'L') && target != "xml"
  | _ => false

/-- A message to a reader, of which the question mark has been read. -/
def instruction : Scan (Text × Text) := do
  let target ← name
  let next ← peek
  if isReserved target then refuse
  else if isSpace next then
    skipSpace
    return (target, (← upTo "?>").lineFeeds)
  else if next = '?' then
    skip
    expect '>'
    return (target, [])
  else refuse

/-- A passage without escapes, of which the first bracket has been read. -/
def literal : Scan Text := do
  let opening : Text := "CDATA["
  if ((← get).take opening.length).length < opening.length then throw none
  opening.forM expect
  match cutAt "]]>" (← get) with
  | .ok (t, rest) => set rest; return t.lineFeeds
  | .error none => throw (some ⟨.unclosedLiteral, 0⟩)
  | .error halt => throw halt

/-- The tag that closes an element, of which the solidus has been read. -/
def closing : Scan Token := do
  let place ← left
  if (← peek).isNameStart then
    let name ← takeWhile fun r => r.isNamePart || r = ':'
    skipSpace
    expect '>'
    return .closing name place
  else refuse

/-- A token that begins with an opening bracket, which has been read. -/
def bracketed : Scan Token := do
  let next ← peek
  if next = '/' then
    skip
    closing
  else if next = '?' then
    skip
    let (target, message) ← instruction
    return .instruction target message
  else if next = '!' then
    skip
    let next ← peek
    if next = '-' then
      skip
      return .comment (← comment)
    else if next = '[' then
      skip
      return .literal (← literal)
    else refuse
  else
    let name ← longName
    let (attributes, closed) ← attributeParts ((← left) + 1)
    return .opening name attributes closed

end Scan

/-- **The next token** between the tags of an element. -/
def token : Scan Token := do
  let next ← Scan.peek
  if next = '<' then
    Scan.skip
    Scan.bracketed
  else if next = '&' then
    Scan.skip
    return .reference (← Scan.reference)
  else return .run (Text.lineFeeds (← (cutText : Scan Text)))

end LoadPlan.Markup
