import LoadPlan.Markup.Flaw
import LoadPlan.Text.Utf8

/-!
# Faults

Everything that can stop a computation of this library, by cause.

* `SpecFault` — a document that cannot be compiled at all; it has a code, a message and a place.
* `ConfigFault` — a configuration value that is not accepted.
* `RenderFault` — a plan that has no document.
* `TextFault` — a text that cannot be read, in whatever format.
* `YamlFault` — a text that a reader of YAML refuses, or that breaks the reader off.
* `Fault` — all of them, and the causes inside a document or a call that have no message of their
  own.
-/

namespace LoadPlan

/-- **A document that cannot be compiled.** -/
inductive SpecFault where
  /-- There is no text, or only white space. -/
  | emptyText
  /-- The text is neither JSON nor YAML; the reader of YAML says why. -/
  | undecodable (reason : Text)
  /-- The document is a value of the named kind instead of a mapping. -/
  | notMapping (kind : Text)
  /-- The document has no mapping under `paths`. -/
  | noPaths
  /-- The mapping under `paths` is empty. -/
  | emptyPaths
  /-- No path has an operation. -/
  | noOperations

namespace SpecFault

def message : SpecFault → Text
  | emptyText => "Specification text is empty"
  | undecodable reason => "Specification is neither valid JSON nor valid YAML: " ++ reason
  | notMapping kind => "Specification must decode to a mapping, got " ++ kind
  | noPaths => "Specification has no 'paths' mapping"
  | emptyPaths => "Specification 'paths' has no entries"
  | noOperations => "Specification declares no HTTP operations"

/-- The place in the document where a fault shows. -/
def context : SpecFault → Text
  | emptyText | undecodable _ | notMapping _ => "document"
  | noPaths | emptyPaths | noOperations => "paths"

/-- Whether the document could be read but holds nothing to compile. -/
def isEmptySpec : SpecFault → Bool
  | emptyPaths | noOperations => true
  | _ => false

def code (fault : SpecFault) : Text :=
  if fault.isEmptySpec then "EmptySpecError" else "ParseError"

end SpecFault

/-- **A configuration that is not accepted.**  The shown value is already in quoted form. -/
inductive ConfigFault where
  /-- The option needs a positive integer. -/
  | notPositive (option shown : Text)
  /-- The duration needs a positive integer or nothing. -/
  | badDuration (shown : Text)
  /-- The error rate needs a percentage. -/
  | notPercentage (shown : Text)
  /-- There is no such way to group operations. -/
  | unknownStrategy (shown : Text)
  /-- The file is not YAML; the reader of YAML says why. -/
  | unreadableFile (path reason : Text)
  /-- The file holds something other than a mapping. -/
  | fileNotMapping (path : Text)

namespace ConfigFault

def message : ConfigFault → Text
  | notPositive option shown =>
    "'" ++ option ++ "' must be a positive integer, got " ++ shown
  | badDuration shown => "'duration' must be a positive integer or None, got " ++ shown
  | notPercentage shown => "'error_rate_threshold' must be a percentage, got " ++ shown
  | unknownStrategy shown =>
    "Unknown grouping strategy '" ++ shown ++ "'. Valid options: by-tag, by-path"
  | unreadableFile path reason => "Cannot parse config file " ++ path ++ ": " ++ reason
  | fileNotMapping path => "Config file " ++ path ++ " must contain a mapping"

/-- The option a fault is about; a fault of the whole file is about none. -/
def option? : ConfigFault → Option Text
  | notPositive option _ => some option
  | badDuration _ => some "duration"
  | notPercentage _ => some "error_rate_threshold"
  | unknownStrategy _ => some "grouping_strategy"
  | unreadableFile _ _ | fileNotMapping _ => none

end ConfigFault

/-- **A plan that has no document.** -/
inductive RenderFault where
  /-- The plan holds an element of a kind that has no written form. -/
  | unsupportedElement (kind : Text)
  /-- An attribute is not a text; the shown value is in quoted form. -/
  | attributeNotText (shown kind : Text)
  /-- The document holds surrogates. -/
  | surrogates (stray : Utf8.Stray)
  /-- The document cannot be read again from a line and a column on. -/
  | notWellFormed (flaw : Markup.Flaw) (line column : Nat)

namespace RenderFault

/-- The message when a document cannot be written. -/
def failure (reason : Text) : Text := "Failed to render JMX document: " ++ reason

def message : RenderFault → Text
  | unsupportedElement kind => "No serializer for plan element type " ++ kind
  | attributeNotText shown kind =>
    failure ("cannot serialize " ++ shown ++ " (type " ++ kind ++ ")")
  | surrogates stray => failure stray.message
  | notWellFormed flaw line column =>
    failure (flaw.message ++ ": line " ++ Text.ofNat line ++ ", column " ++ Text.ofNat column)

end RenderFault

/-- **A text that cannot be read.** -/
inductive TextFault where
  /-- The text is not of the format. -/
  | malformed
  /-- A numeral cannot be read. -/
  | badNumeral
  /-- A numeral has no characters at all. -/
  | emptyNumeral
  /-- A word is declared to be a truth value and is none. -/
  | unknownTruthValue
  /-- A text is declared to be a timestamp and has not the form of one. -/
  | notTimestamp
  /-- The parts of a timestamp name no day or no time. -/
  | impossibleDate
  /-- An escape names a number beyond the last code point. -/
  | noSuchCodePoint
  /-- A number is too large for the format that has to hold it. -/
  | numberTooLarge
  /-- A text is needed and another value stands there. -/
  | notText
  /-- The value goes on without end, since a part of it is the whole again. -/
  | endless
  /-- The bytes are not a text in UTF-8. -/
  | notUtf8 (flaw : Utf8.Flaw)

/-- **Every cause that stops a computation.** -/
inductive Fault where
  /-- The document cannot be compiled. -/
  | spec (fault : SpecFault)
  /-- The configuration is not accepted. -/
  | config (fault : ConfigFault)
  /-- The plan has no document. -/
  | render (fault : RenderFault)
  /-- The text is not of the format. -/
  | malformed
  /-- A numeral cannot be read: no digits, stray characters, or too many digits. -/
  | badNumeral
  /-- A numeral has no characters at all. -/
  | emptyNumeral
  /-- An integer has too many digits to be written. -/
  | tooManyDigits
  /-- A word is declared to be a truth value and is none. -/
  | unknownTruthValue
  /-- A text is declared to be a timestamp and has not the form of one. -/
  | notTimestamp
  /-- The parts of a timestamp name no day or no time. -/
  | impossibleDate
  /-- An escape names a number beyond the last code point. -/
  | noSuchCodePoint
  /-- A number is too large for the format that has to hold it. -/
  | numberTooLarge
  /-- A bound is not a number, so nothing lies above or below it. -/
  | unorderedBound
  /-- A part of a pointer consists of digits that have no value. -/
  | badIndex
  /-- JSON has no form for the value, or for a key. -/
  | notEncodable
  /-- A text is needed and another value stands there. -/
  | notText
  /-- The value goes on without end, since a part of it is the whole again. -/
  | endless
  /-- The schema is of no known kind. -/
  | unknownSchema
  /-- The base URL is neither a text nor a sequence of bytes. -/
  | baseUrlNotText
  /-- There is no such way to group operations. -/
  | unknownStrategy
  /-- There is no such request method. -/
  | unknownMethod
  /-- The bytes are not a text in UTF-8. -/
  | notUtf8 (flaw : Utf8.Flaw)
  /-- There is no such file. -/
  | missingFile
  /-- The path leads to a directory. -/
  | isDirectory
  /-- A directory is needed where a file already is. -/
  | fileExists
  /-- A file stands where the path goes on. -/
  | notDirectory
  /-- A path or a name in it is longer than the file system allows. -/
  | nameTooLong
  /-- A path holds the character that ends paths. -/
  | unusablePath

/-- What stops a computation when a text cannot be read. -/
def TextFault.fault : TextFault → Fault
  | malformed => .malformed
  | badNumeral => .badNumeral
  | emptyNumeral => .emptyNumeral
  | unknownTruthValue => .unknownTruthValue
  | notTimestamp => .notTimestamp
  | impossibleDate => .impossibleDate
  | noSuchCodePoint => .noSuchCodePoint
  | numberTooLarge => .numberTooLarge
  | notText => .notText
  | endless => .endless
  | notUtf8 flaw => .notUtf8 flaw

/-- Reading a text is a computation that stops where the text cannot be read. -/
instance {α : Type} : Coe (Except TextFault α) (Except Fault α) :=
  ⟨Except.mapError TextFault.fault⟩

/-- What is wrong with a text is not what is wrong with a specification. -/
theorem TextFault.fault_ne_spec (fault : TextFault) (other : SpecFault) :
    fault.fault ≠ .spec other := by
  intro h
  cases fault <;> cases h

/-- **What keeps a text from being read as YAML.** -/
inductive YamlFault where
  /-- The text is not YAML, or there is no value for it; the reason says why. -/
  | refused (reason : Text)
  /-- The reader stops at something that it does not expect. -/
  | broken (fault : TextFault)

/-! ## Outcomes -/

section

variable {α β : Type}

/-- What follows an outcome that is there. -/
theorem ok_bind (a : α) (next : α → Except Fault β) : (Except.ok a >>= next) = next a := rfl

theorem error_bind (fault : Fault) (next : α → Except Fault β) :
    (Except.error fault >>= next) = .error fault := rfl

theorem eq_ok_of_toOption {outcome : Except Fault α} {a : α} (h : outcome.toOption = some a) :
    outcome = .ok a := by
  cases outcome with
  | error fault => exact nomatch h
  | ok b => exact congrArg Except.ok (Option.some.inj h)

/-- An outcome that is there goes through what comes before it. -/
theorem exists_of_except_bind {first : Except Fault α} {next : α → Except Fault β} {b : β}
    (h : (first >>= next) = .ok b) : ∃ a, first = .ok a ∧ next a = .ok b := by
  cases first with
  | error fault => exact nomatch h
  | ok a => exact ⟨a, rfl, h⟩

end

end LoadPlan
