import LoadPlan.Text

/-!
# Flaws of a document

* `Markup.Flaw` — why a text is no document.
* `Markup.Flaw.message` — the words for it.
-/

namespace LoadPlan.Markup

/-- **Why a text is no document.** -/
inductive Flaw where
  /-- A character cannot stand where it stands. -/
  | invalidToken
  /-- The text ends inside a tag, a comment or an instruction. -/
  | unclosedToken
  /-- The text ends inside a passage without escapes. -/
  | unclosedLiteral
  /-- The text ends before its root is closed. -/
  | noElement
  /-- Something other than an element stands where the root should begin. -/
  | noRoot
  /-- Something stands after the root. -/
  | junk
  /-- A tag closes an element that is not the last to be opened. -/
  | mismatchedTag
  /-- A tag has two attributes of one name. -/
  | duplicateAttribute
  /-- A reference names nothing. -/
  | undefinedEntity
  /-- A reference has the number of no character that a document can hold. -/
  | badCharacterNumber
  /-- The declaration of the format stands inside a document. -/
  | misplacedDeclaration
  /-- A name begins with an abbreviation that has not been declared. -/
  | unboundName
  /-- An abbreviation is declared to stand for nothing. -/
  | boundToNothing
  /-- An abbreviation is declared to stand for a text with a blank in it. -/
  | boundToBlank
  /-- The abbreviation for the format itself is declared to stand for something else. -/
  | reboundFormat
  /-- The abbreviation for declarations is declared. -/
  | reboundDeclaration
  /-- An abbreviation is declared to stand for what another one is reserved for. -/
  | reservedMeaning
deriving DecidableEq

/-- **The message of a flaw.** -/
def Flaw.message : Flaw → Text
  | invalidToken => "not well-formed (invalid token)"
  | unclosedToken => "unclosed token"
  | unclosedLiteral => "unclosed CDATA section"
  | noElement => "no element found"
  | noRoot | boundToBlank => "syntax error"
  | junk => "junk after document element"
  | mismatchedTag => "mismatched tag"
  | duplicateAttribute => "duplicate attribute"
  | undefinedEntity => "undefined entity"
  | badCharacterNumber => "reference to invalid character number"
  | misplacedDeclaration => "XML or text declaration not at start of entity"
  | unboundName => "unbound prefix"
  | boundToNothing => "must not undeclare prefix"
  | reboundFormat =>
    "reserved prefix (xml) must not be undeclared or bound to another namespace name"
  | reboundDeclaration => "reserved prefix (xmlns) must not be declared or undeclared"
  | reservedMeaning => "prefix must not be bound to one of the reserved namespace names"

end LoadPlan.Markup
