import LoadPlan.Fault
import LoadPlan.Value

/-!
# Writing JSON

Two layouts of JSON.

* `Json.quote` — a text between its marks.  Escaped are the mark, the reverse solidus and control
  characters; everything else stands for itself.
* `Json.quoteAscii` — the same with everything outside printable ASCII escaped, beyond the first
  plane as a pair of surrogates.
* `Json.compact` — a value without any blank.
* `Json.indented` — a value over many lines, two spaces per level, in ASCII.

Values without a JSON form are refused: bytes, sets and calendar values, and keys that are neither
texts nor numbers nor one of the three words.  Integers that are too long have no text at all.
-/

namespace LoadPlan.Json

/-! ## Texts -/

/-- The escape of a code point that may not stand for itself in any layout. -/
def shortForm? (r : Rune) : Option Text :=
  if r = '"' then some "\\\""
  else if r = '\\' then some "\\\\"
  else if r = '\n' then some "\\n"
  else if r = '\r' then some "\\r"
  else if r = '\t' then some "\\t"
  else if r = '\x08' then some "\\b"
  else if r = '\x0c' then some "\\f"
  else none

/-- A number of at most sixteen bits as an escape. -/
def unitEscape (unit : Nat) : Text := "\\u" ++ Text.ofHexPadded 4 unit

/-- One code point inside a text. -/
def quoteRune (r : Rune) : Text :=
  match shortForm? r with
  | some escape => escape
  | none => if r.code < 0x20 then unitEscape r.code else [r]

/-- **A text between its marks.** -/
def quote (t : Text) : Text := "\"" ++ t.flatMap quoteRune ++ "\""

/-- One code point inside a text in ASCII. -/
def quoteAsciiRune (r : Rune) : Text :=
  match shortForm? r with
  | some escape => escape
  | none =>
    if 0x20 ≤ r.code ∧ r.code < 0x7F then [r]
    else if r.code < 0x10000 then unitEscape r.code
    else
      let beyond := r.code - 0x10000
      unitEscape (0xD800 + beyond / 0x400) ++ unitEscape (0xDC00 + beyond % 0x400)

/-- A text between its marks, in ASCII. -/
def quoteAscii (t : Text) : Text := "\"" ++ t.flatMap quoteAsciiRune ++ "\""

/-! ## Scalars and keys -/

/-- The text of a floating point number; the three that are not finite have names of their own. -/
def floatText : Double → Text
  | .nan => "NaN"
  | .infinite negative => if negative then "-Infinity" else "Infinity"
  | x => x.text

/-- The text that a key is written with, before it is quoted. -/
def keyText : Value → Except Fault Text
  | .text t => .ok t
  | .null => .ok "null"
  | .bool b => .ok (if b then "true" else "false")
  | .int i => integerText i
  | .float x => .ok (floatText x)
  | _ => .error .notEncodable

/-! ## Layouts -/

mutual

/-- **A value without any blank.** -/
def compact : Value → Except Fault Text
  | .null => .ok "null"
  | .bool b => .ok (if b then "true" else "false")
  | .int i => integerText i
  | .float x => .ok (floatText x)
  | .text t => .ok (quote t)
  | .list items => do return "[" ++ Text.join "," (← compactItems items) ++ "]"
  | .tuple items => do return "[" ++ Text.join "," (← compactItems items) ++ "]"
  | .map entries => do
    return "\x7b" ++ Text.join "," (← compactEntries entries) ++ "\x7d"
  | .date _ | .moment _ | .clock _ | .bytes _ | .set _ => .error .notEncodable

def compactItems : List Value → Except Fault (List Text)
  | [] => .ok []
  | item :: items => do return (← compact item) :: (← compactItems items)

def compactEntries : List (Value × Value) → Except Fault (List Text)
  | [] => .ok []
  | (key, value) :: entries => do
    let entry := quote (← keyText key) ++ ":" ++ (← compact value)
    return entry :: (← compactEntries entries)

end

def lineStart (level : Nat) : Text := '\n' :: List.replicate (2 * level) (' ' : Rune)

/-- Written parts between brackets, each on a line of its own one level deeper. -/
def block (opening closing : Text) (level : Nat) (parts : List Text) : Text :=
  if parts.isEmpty then opening ++ closing
  else
    opening ++ lineStart (level + 1) ++ Text.join ("," ++ lineStart (level + 1)) parts
      ++ lineStart level ++ closing

mutual

/-- **A value over many lines**, as it stands at a level. -/
def indented (level : Nat) : Value → Except Fault Text
  | .null => .ok "null"
  | .bool b => .ok (if b then "true" else "false")
  | .int i => integerText i
  | .float x => .ok (floatText x)
  | .text t => .ok (quoteAscii t)
  | .list items => do return block "[" "]" level (← indentedItems (level + 1) items)
  | .tuple items => do return block "[" "]" level (← indentedItems (level + 1) items)
  | .map entries => do
    return block "\x7b" "\x7d" level (← indentedEntries (level + 1) entries)
  | .date _ | .moment _ | .clock _ | .bytes _ | .set _ => .error .notEncodable

def indentedItems (level : Nat) : List Value → Except Fault (List Text)
  | [] => .ok []
  | item :: items => do return (← indented level item) :: (← indentedItems level items)

def indentedEntries (level : Nat) : List (Value × Value) → Except Fault (List Text)
  | [] => .ok []
  | (key, value) :: entries => do
    let entry := quoteAscii (← keyText key) ++ ": " ++ (← indented level value)
    return entry :: (← indentedEntries level entries)

end

end LoadPlan.Json
