import LoadPlan.Text

/-!
# Markup

XML documents as trees, and two layouts of them.

* `Markup` — elements with what stands between their tags: text, other elements, comments.
* `AttributeValue` — a text, or markup that stands between quotation marks as it is.
* `Rune.isIllegal` — the characters that XML cannot carry.
* `Markup.document` — the layout of a file: one element to a line, two spaces per level.  The text
  of an element stands between its tags as it is, apart from escapes.
* `Markup.compact` — everything on one line.  It serves to say where a character stands that a
  reader would stumble over, and is what is read again when a document holds markup as it is.
* `Markup.withLineFeeds` — what reading does to the line ends in texts.
-/

namespace LoadPlan

/-- **The characters that XML cannot carry**: control characters other than tabulator and line ends,
surrogates, and the last two of the first plane. -/
def Rune.isIllegal (r : Rune) : Bool :=
  r.code ≤ 0x08 || r.code = 0x0B || r.code = 0x0C || (0x0E ≤ r.code && r.code ≤ 0x1F)
    || r.isSurrogate || r.code = 0xFFFE || r.code = 0xFFFF

/-- A text without the characters that XML cannot carry. -/
def Text.legal (t : Text) : Text := t.filter (!Rune.isIllegal ·)

/-- A text in which every line end is a line feed. -/
def Text.lineFeeds : Text → Text
  | [] => []
  | [r] => if r = '\r' then ['\n'] else [r]
  | r :: s :: rest =>
    if r = '\r' then (if s = '\n' then lineFeeds (s :: rest) else '\n' :: lineFeeds (s :: rest))
    else r :: lineFeeds (s :: rest)

/-- **The value of an attribute.** -/
inductive AttributeValue where
  /-- A text, which is written with escapes. -/
  | text (t : Text)
  /-- Markup, which is written as it is.  A reader may find another value in it, or even the end of
  the attribute. -/
  | raw (t : Text)

instance : Coe Text AttributeValue := ⟨AttributeValue.text⟩

namespace AttributeValue

/-- The characters of a value between its quotation marks. -/
def written (escaped : Rune → Text) : AttributeValue → Text
  | text t => t.flatMap escaped
  | raw t => t

def isText : AttributeValue → Bool
  | text _ => true
  | raw _ => false

end AttributeValue

/-- **A part of a document.** -/
inductive Markup where
  /-- An element, with what stands between its tags. -/
  | element (tag : Text) (attributes : List (Text × AttributeValue)) (content : List Markup)
  /-- Text, which is written with escapes. -/
  | text (t : Text)
  /-- Text in a passage without escapes. -/
  | literal (t : Text)
  /-- A remark. -/
  | comment (t : Text)
  /-- A message to a reader of a certain kind. -/
  | instruction (target message : Text)

namespace Markup

/-- The attributes of an element, in the order in which they are written. -/
abbrev Attributes := List (Text × AttributeValue)

/-- An element that holds a text, which may be empty. -/
abbrev leaf (tag : Text) (attributes : Attributes) (t : Text) : Markup :=
  element tag attributes [text t]

/-- An element that holds elements. -/
abbrev branch (tag : Text) (attributes : Attributes) (children : List Markup) : Markup :=
  element tag attributes children

/-! ## The layout of a file -/

/-- A character in a text or in an attribute. -/
def escape (r : Rune) : Text :=
  if r = '&' then "&amp;"
  else if r = '<' then "&lt;"
  else if r = '>' then "&gt;"
  else if r = '"' then "&quot;"
  else [r]

/-- An attribute, with a blank in front. -/
def attributeText (escaped : Rune → Text) (pair : Text × AttributeValue) : Text :=
  " " ++ pair.1 ++ "=\"" ++ pair.2.written escaped ++ "\""

/-- The tag that opens an element, without what closes it. -/
def openingTag (escaped : Rune → Text) (tag : Text) (attributes : Attributes) : Text :=
  "<" ++ tag ++ attributes.flatMap (attributeText escaped)

def closingTag (tag : Text) : Text := "</" ++ tag ++ ">"

/-- A passage without escapes. -/
def literalText (t : Text) : Text := "<![CDATA[" ++ t ++ "]]>"

def commentText (t : Text) : Text := "<!--" ++ t ++ "-->"

def instructionText (target message : Text) : Text := "<?" ++ target ++ " " ++ message ++ "?>"

/-- The text of an element that holds a single text or nothing, as it is written. -/
def inline? : List Markup → Option Text
  | [] => some []
  | [text t] => some (t.flatMap escape)
  | [literal t] => some (literalText t)
  | _ => none

/-- The blanks at the beginning of a line. -/
def margin (level : Nat) : Text := List.replicate (2 * level) (' ' : Rune)

mutual

/-- **A part at a level**, with the end of its last line.  A passage without escapes has neither
margin nor line of its own. -/
def lines (level : Nat) : Markup → Text
  | element tag attributes content =>
    margin level ++ openingTag escape tag attributes
      ++ (match inline? content with
        | some [] => Text.ofString "/>\n"
        | some t => ">" ++ t ++ closingTag tag ++ "\n"
        | none =>
          ">\n" ++ allLines (level + 1) content ++ margin level ++ closingTag tag ++ "\n")
  | text t => margin level ++ t.flatMap escape ++ "\n"
  | literal t => literalText t
  | comment t => margin level ++ commentText t ++ "\n"
  | instruction target message => margin level ++ instructionText target message ++ "\n"

def allLines (level : Nat) : List Markup → Text
  | [] => []
  | child :: children => child.lines level ++ allLines level children

end

/-- The first line of a document. -/
def declaration : Text := "<?xml version=\"1.0\" encoding=\"UTF-8\"?>\n"

/-- **The document of an element.** -/
def document (root : Markup) : Text := declaration ++ root.lines 0

/-! ## The layout on one line -/

def escapeText (r : Rune) : Text := if r = '"' then [r] else escape r

/-- A character in an attribute, where white space other than blanks is written by number. -/
def escapeAttribute (r : Rune) : Text :=
  if r = '\r' then "&#13;" else if r = '\n' then "&#10;" else if r = '\t' then "&#09;" else escape r

/-- Whether there is nothing to write between the tags of an element. -/
def isVoid : List Markup → Bool
  | [] | [text []] => true
  | _ => false

mutual

/-- A part on one line. -/
def compact : Markup → Text
  | element tag attributes content =>
    openingTag escapeAttribute tag attributes
      ++ (if isVoid content then Text.ofString " />"
        else ">" ++ allCompact content ++ closingTag tag)
  | text t => t.flatMap escapeText
  | literal t => literalText t
  | comment t => commentText t
  | instruction target message => instructionText target message

/-- Some parts on one line. -/
def allCompact : List Markup → Text
  | [] => []
  | child :: children => child.compact ++ allCompact children

end

/-! ## Reading again -/

mutual

/-- **A part as it is read**: the line ends of its texts are line feeds. -/
def withLineFeeds : Markup → Markup
  | element tag attributes content => element tag attributes (allWithLineFeeds content)
  | text t => text t.lineFeeds
  | literal t => literal t.lineFeeds
  | comment t => comment t.lineFeeds
  | instruction target message => instruction target message.lineFeeds

/-- Some parts as they are read. -/
def allWithLineFeeds : List Markup → List Markup
  | [] => []
  | child :: children => child.withLineFeeds :: allWithLineFeeds children

end

mutual

/-- **Whether a part holds no raw markup**, so that reading finds the same tree again. -/
def isPlain : Markup → Bool
  | element _ attributes content => attributes.all (·.2.isText) && areAllPlain content
  | text _ | literal _ | comment _ | instruction _ _ => true

/-- Whether no part of a sequence holds raw markup. -/
def areAllPlain : List Markup → Bool
  | [] => true
  | child :: children => child.isPlain && areAllPlain children

end

end Markup

/-- The line and the column after some characters of a text, from the line and the column of its
beginning. -/
def Text.placeAfter (line column : Nat) : Nat → Text → Nat × Nat
  | 0, _ | _, [] => (line, column)
  | n + 1, r :: rest =>
    if r = '\n' || (r = '\r' && rest.head? != some (Rune.ofChar '\n')) then
      placeAfter (line + 1) 0 n rest
    else placeAfter line (column + 1) n rest

end LoadPlan
