import LoadPlan.Yaml.Token.Block
import LoadPlan.Yaml.Token.Plain
import LoadPlan.Yaml.Token.Property
import LoadPlan.Yaml.Token.Quoted

/-!
# From text to tokens

Turning indentation into brackets, and finding out afterwards that something was a key.

* `Layout` — the state between two tokens: indentation, open brackets, and the places where a key
  may have begun.
* `Candidate` — such a place.  A key without a mark is recognised only when its colon is reached;
  the tokens before it are then put in at the place where it began.  A candidate lapses at the end
  of its line, and after 1024 characters.
* `Layout.fetch` — one more token.
* `tokens` — all tokens of a text.  When the text cannot be read further, they end with `broken`;
  what stands after the first candidate that has not been decided by then is not shown.
-/

namespace LoadPlan.Yaml

/-- **A place where a key may have begun.** -/
structure Candidate where
  /-- The number of open brackets. -/
  level : Nat
  /-- The number of tokens before it. -/
  position : Nat
  /-- Whether the text is wrong if it turns out not to be a key. -/
  required : Bool
  /-- The number of characters before it. -/
  index : Nat
  /-- Its line. -/
  line : Nat
  /-- Its column. -/
  column : Nat

/-- **The state between two tokens.** -/
structure Layout where
  /-- The position in the text. -/
  cursor : Cursor
  /-- The tokens so far, the last one first. -/
  tokens : List Token
  /-- The number of tokens so far. -/
  size : Nat
  /-- The number of open brackets. -/
  level : Nat
  /-- The column of the current indentation; -1 outside all of them. -/
  indent : Int
  /-- The columns of the surrounding indentations, the nearest first. -/
  indents : List Int
  /-- Whether a key may begin at the next token. -/
  keyAllowed : Bool
  /-- The places where a key may have begun. -/
  candidates : List Candidate
  /-- Whether the end of the text has been reached. -/
  done : Bool

namespace Layout

/-- The state at the start of a text. -/
def start (source : Source) : Layout where
  cursor := Cursor.start source
  tokens := []
  size := 0
  level := 0
  indent := -1
  indents := []
  keyAllowed := true
  candidates := []
  done := false

def push (s : Layout) (token : Token) : Layout :=
  { s with tokens := token :: s.tokens, size := s.size + 1 }

/-- Puts a token in at a place among those that are there. -/
def insertAt (s : Layout) (position : Nat) (token : Token) : Layout :=
  let later := s.size - position
  { s with
    tokens := s.tokens.take later ++ token :: s.tokens.drop later
    size := s.size + 1 }

/-! ## Candidates -/

def lapsed (s : Layout) (candidate : Candidate) : Bool :=
  candidate.line != s.cursor.line || 1024 < s.cursor.index - candidate.index

def dropLapsed (s : Layout) : Except TextFault Layout :=
  if s.candidates.any fun candidate => s.lapsed candidate && candidate.required then
    .error .malformed
  else .ok { s with candidates := s.candidates.filter (!s.lapsed ·) }

/-- The candidate at the current number of open brackets. -/
def candidate? (s : Layout) : Option Candidate := s.candidates.find? (·.level = s.level)

/-- The state without that candidate. -/
def forgetCandidate (s : Layout) : Layout :=
  { s with candidates := s.candidates.filter (·.level != s.level) }

def dropCandidate (s : Layout) : Except TextFault Layout :=
  if s.candidate?.any (·.required) then .error .malformed else .ok s.forgetCandidate

/-- Notes that a key may begin here. -/
def saveCandidate (s : Layout) : Except TextFault Layout :=
  if s.keyAllowed then
    s.dropCandidate.map fun s =>
      let candidate : Candidate :=
        { level := s.level
          position := s.size
          required := s.level = 0 && s.indent = s.cursor.column
          index := s.cursor.index
          line := s.cursor.line
          column := s.cursor.column }
      { s with candidates := candidate :: s.candidates }
  else .ok s

/-! ## Indentation -/

/-- Closes the indentations that are deeper than a column. -/
def unwindFrom (column : Int) : List Int → Layout → Layout
  | [], s => s
  | outer :: outers, s =>
    if column < s.indent then
      unwindFrom column outers ({ s with indent := outer, indents := outers }.push .blockEnd)
    else s

/-- Closes the indentations that are deeper than a column, outside brackets. -/
def unwind (s : Layout) (column : Int) : Layout :=
  if s.level = 0 then unwindFrom column s.indents s else s

/-- Opens an indentation at a column that is deeper than the current one. -/
def openIndent (s : Layout) (column : Nat) : Option Layout :=
  if s.indent < column then
    some { s with indent := column, indents := s.indent :: s.indents }
  else none

/-! ## Single tokens -/

/-- Adds a token that takes some characters. -/
def take (s : Layout) (token : Token) (width : Nat) : Layout :=
  { s with cursor := s.cursor.advance width }.push token

def fetchEnd (s : Layout) : Except TextFault Layout :=
  (s.unwind (-1)).dropCandidate.map fun s =>
    { s with keyAllowed := false, candidates := [], done := true }.push .streamEnd

def fetchDirective (s : Layout) : Except TextFault Layout := do
  let s ← (s.unwind (-1)).dropCandidate
  let (token, cursor) ← readDirective s.cursor
  return { s with keyAllowed := false, cursor }.push token

/-- A mark of the start or of the end of a document. -/
def fetchMark (s : Layout) (token : Token) : Except TextFault Layout :=
  (s.unwind (-1)).dropCandidate.map fun s => { s with keyAllowed := false }.take token 3

/-- An opening bracket or brace. -/
def fetchOpening (s : Layout) (token : Token) : Except TextFault Layout :=
  s.saveCandidate.map fun s => { s with level := s.level + 1, keyAllowed := true }.take token 1

/-- A closing bracket or brace. -/
def fetchClosing (s : Layout) (token : Token) : Except TextFault Layout := do
  let s ← s.dropCandidate
  if s.level = 0 then throw s.cursor.next.fault
  else return { s with level := s.level - 1, keyAllowed := false }.take token 1

def fetchComma (s : Layout) : Except TextFault Layout :=
  { s with keyAllowed := true }.dropCandidate.map fun (s : Layout) => s.take .flowEntry 1

def fetchItem (s : Layout) : Except TextFault Layout := do
  if s.level = 0 ∧ ¬ s.keyAllowed then throw .malformed
  let s :=
    if s.level = 0 then
      match s.openIndent s.cursor.column with
      | some deeper => deeper.push .blockSequenceStart
      | none => s
    else s
  let s ← { s with keyAllowed := true }.dropCandidate
  return s.take .blockEntry 1

/-- Opens a mapping at the current column if that is deeper than the indentation. -/
def openMapping (s : Layout) : Layout :=
  if s.level = 0 then
    match s.openIndent s.cursor.column with
    | some deeper => deeper.push .blockMappingStart
    | none => s
  else s

def fetchKey (s : Layout) : Except TextFault Layout := do
  if s.level = 0 ∧ ¬ s.keyAllowed then throw .malformed
  let s := s.openMapping
  let s ← { s with keyAllowed := s.level = 0 }.dropCandidate
  return s.take .key 1

/-- The colon in front of a value.  If a key may have begun, it has. -/
def fetchValue (s : Layout) : Except TextFault Layout := do
  match s.candidate? with
  | some candidate =>
    let s := s.forgetCandidate.insertAt candidate.position .key
    let s :=
      if s.level = 0 then
        match s.openIndent candidate.column with
        | some deeper => deeper.insertAt candidate.position .blockMappingStart
        | none => s
      else s
    return { s with keyAllowed := false }.take .value 1
  | none =>
    if s.level = 0 ∧ ¬ s.keyAllowed then throw .malformed
    let s := s.openMapping
    let s ← { s with keyAllowed := s.level = 0 }.dropCandidate
    return s.take .value 1

/-- A token that may be a key and after which none may begin. -/
def fetchLeaf (s : Layout) (read : Cursor → Except TextFault (Token × Cursor)) :
    Except TextFault Layout := do
  let s ← s.saveCandidate
  let (token, cursor) ← read s.cursor
  return { s with keyAllowed := false, cursor }.push token

/-- A leaf of whole lines. -/
def fetchBlock (s : Layout) (folded : Bool) : Except TextFault Layout := do
  let s ← { s with keyAllowed := true }.dropCandidate
  let (cs, cursor) ← readBlock folded s.indent s.cursor
  return { s with cursor }.push (.scalar ⟨Text.ofChars cs, false⟩)

def fetchPlain (s : Layout) : Except TextFault Layout := do
  let s ← s.saveCandidate
  let (cs, cursor, keyAllowed) ←
    readPlain (s.level != 0) (s.indent + 1) (s.cursor.size + 1) [] s.cursor false
  return { s with cursor, keyAllowed }.push (.scalar ⟨Text.ofChars cs, true⟩)

/-! ## The next token -/

/-- Passes over spaces, comments and line breaks.  Outside brackets a key may begin after a line
break. -/
def skipToToken : Nat → Layout → Layout
  | 0, s => s
  | steps + 1, s =>
    let cursor := s.cursor.skipSpaces.skipComment
    if cursor.peek.any isBreak then
      let keyAllowed := s.keyAllowed || s.level = 0
      skipToToken steps { s with cursor := cursor.lineBreak.2, keyAllowed }
    else { s with cursor }

/-- Passes over a byte order mark at the very start. -/
def skipByteOrderMark (s : Layout) : Layout :=
  if s.cursor.index = 0 ∧ s.cursor.peek = some '\uFEFF' then { s with cursor := s.cursor.next }
  else s

/-- Whether a plain leaf may begin here: with any character that has no other meaning, and with
`-`, and outside brackets with `?` and `:`, when no blank follows. -/
def startsPlain (s : Layout) (c : Char) : Bool :=
  if isBlankOrBreak c || "-?:,[]\x7b\x7d#&*!|>'\"%@\x60".toList.contains c then
    (s.cursor.peekAt 1).any (!isBlankOrBreak ·)
      && (c = '-' || (s.level = 0 && (c = '?' || c = ':')))
  else true

/-- The mark of the start or of the end of a document that stands here, at the beginning of a
line. -/
def mark? (s : Layout) (c : Char) : Except TextFault (Option Token) := do
  if s.cursor.column ≠ 0 then return none
  else if c = '-' then return if ← s.cursor.marks c then some .documentStart else none
  else if c = '.' then return if ← s.cursor.marks c then some .documentEnd else none
  else return none

/-- Whether a blank follows a character that is a mark of its own only in front of one. -/
def blankFollows (s : Layout) (c : Char) : Except TextFault Bool := do
  if c = '-' || (s.level = 0 && (c = '?' || c = ':')) then s.cursor.require 2
  return (s.cursor.peekAt 1).all isBlankOrBreak

/-- A plain leaf, or nothing that a text may hold here. -/
def fetchOther (s : Layout) (c : Char) : Except TextFault Layout :=
  if s.startsPlain c then s.fetchPlain else .error s.cursor.next.fault

/-- **One more token**, at its first character. -/
def fetchToken (s : Layout) : Except TextFault Layout := do
  match s.cursor.peek with
  | none => s.fetchEnd
  | some c =>
    let inFlow := s.level != 0
    if c = '%' ∧ s.cursor.column = 0 then s.fetchDirective
    else if let some token ← s.mark? c then s.fetchMark token
    else if c = '[' then s.fetchOpening .flowSequenceStart
    else if c = '\x7b' then s.fetchOpening .flowMappingStart
    else if c = ']' then s.fetchClosing .flowSequenceEnd
    else if c = '\x7d' then s.fetchClosing .flowMappingEnd
    else if c = ',' then s.fetchComma
    else
      let blankFollows ← s.blankFollows c
      if c = '-' ∧ blankFollows then s.fetchItem
      else if c = '?' ∧ (inFlow ∨ blankFollows) then s.fetchKey
      else if c = ':' ∧ (inFlow ∨ blankFollows) then s.fetchValue
      else if c = '*' then
        s.fetchLeaf fun cursor => (readName cursor).map fun (name, stop) => (.aliasOf name, stop)
      else if c = '&' then
        s.fetchLeaf fun cursor => (readName cursor).map fun (name, stop) => (.anchor name, stop)
      else if c = '!' then s.fetchLeaf readTag
      else if c = '|' ∧ ¬ inFlow then s.fetchBlock false
      else if c = '>' ∧ ¬ inFlow then s.fetchBlock true
      else if c = '\'' then
        s.fetchLeaf fun cursor =>
          (readQuoted .single cursor).map fun (t, stop) => (.scalar ⟨t, false⟩, stop)
      else if c = '"' then
        s.fetchLeaf fun cursor =>
          (readQuoted .double cursor).map fun (t, stop) => (.scalar ⟨t, false⟩, stop)
      else s.fetchOther c

/-- One more token, after what stands in front of it.  The character behind it is looked at too. -/
def fetch (s : Layout) : Except TextFault Layout := do
  let s := s.skipByteOrderMark
  let s := skipToToken (s.cursor.size + 1) s
  s.cursor.require 1
  let s ← s.dropLapsed
  let s ← (s.unwind s.cursor.column).fetchToken
  s.cursor.require 1
  return s

/-- The tokens that are decided: those before the first place where a key may still have begun. -/
def decided (s : Layout) : List Token :=
  let first := s.candidates.foldl (fun n candidate => min n candidate.position) s.size
  (s.tokens.drop (s.size - first)).reverse

/-- Fetches tokens up to the end of the text. -/
def run : Nat → Layout → List Token
  | 0, s => s.decided ++ [.broken .malformed]
  | steps + 1, s =>
    match s.dropLapsed with
    | .error fault => s.decided ++ [.broken fault]
    | .ok current =>
      match current.fetch with
      | .error fault => current.decided ++ [.broken fault]
      | .ok next => if next.done then next.tokens.reverse else run steps next

end Layout

/-- **The tokens of a text.** -/
def tokens (source : Source) : List Token :=
  Layout.run (source.chars.length + 2) (Layout.start source)

end LoadPlan.Yaml
