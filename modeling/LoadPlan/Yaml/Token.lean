import LoadPlan.Fault

/-!
# YAML tokens

* `Token` — the vocabulary in which the structure of a YAML text is written once indentation has
  been turned into explicit brackets.
* `Scalar` — the text of a leaf, and whether it stood there without quotation marks.
-/

namespace LoadPlan.Yaml

/-- **The text of a leaf.** -/
structure Scalar where
  /-- The text. -/
  text : Text
  /-- Whether it stood there plain, so that its form decides what kind of value it is. -/
  plain : Bool

/-- **A token.** -/
inductive Token where
  /-- A directive that gives the version of the format, by its first number. -/
  | versionDirective (major : Nat)
  /-- A directive that gives an abbreviation for the beginning of tags. -/
  | tagDirective (handle start : String)
  /-- A directive of another name. -/
  | otherDirective
  /-- The mark of the start of a document. -/
  | documentStart
  /-- The mark of the end of a document. -/
  | documentEnd
  /-- The end of the text. -/
  | streamEnd
  /-- A deeper indentation that holds a sequence. -/
  | blockSequenceStart
  /-- A deeper indentation that holds a mapping. -/
  | blockMappingStart
  /-- The end of an indentation. -/
  | blockEnd
  /-- An opening bracket. -/
  | flowSequenceStart
  /-- A closing bracket. -/
  | flowSequenceEnd
  /-- An opening brace. -/
  | flowMappingStart
  /-- A closing brace. -/
  | flowMappingEnd
  /-- The hyphen of an item. -/
  | blockEntry
  /-- A comma. -/
  | flowEntry
  /-- The place before a key. -/
  | key
  /-- The place before a value. -/
  | value
  /-- A reference to an anchored node. -/
  | aliasOf (name : String)
  /-- The name of the node that follows. -/
  | anchor (name : String)
  /-- The tag of the node that follows, with its abbreviation if it has one. -/
  | tag (handle : Option String) (suffix : String)
  /-- A leaf. -/
  | scalar (s : Scalar)
  /-- The text has no tokens from here on. -/
  | broken (fault : TextFault)

end LoadPlan.Yaml
