import LoadPlan.Json.Reader
import LoadPlan.Text.LetterCase

/-!
# Document formats

* `YamlReader` — a reader of YAML.  It comes from outside: nothing here depends on what it makes of a
  text.
* `Format` — the two formats of documents.
* `Format.ofContentType?` — the format that a media type or the suffix of a file name declares.
* `Format.ofSource` — the format that the first character of a text suggests.
* `Format.decode` — the value of a text in a format.
-/

namespace LoadPlan

/-- **A reader of YAML.** -/
structure YamlReader where
  /-- The value of a text. -/
  ofText : List Char → Except YamlFault Value
  /-- The value of a file, which is looked at only as far as it is needed. -/
  ofFile : List Nat → Except YamlFault Value

/-- **A format of documents.** -/
inductive Format where
  /-- JSON. -/
  | json
  /-- YAML. -/
  | yaml
deriving DecidableEq

namespace Format

def jsonNames : List Text := ["json", ".json", "application/json", "text/json"]

def yamlNames : List Text :=
  [ "yaml", "yml", ".yaml", ".yml", "application/yaml", "application/x-yaml", "text/yaml",
    "text/x-yaml" ]

/-- The format that a media type or the suffix of a file name declares.  Parameters of a media type
and the case of letters do not count. -/
def ofContentType? (declared : Text) : Option Format :=
  let name := (declared.before ';').trim.lower
  if jsonNames.contains name || name.endsWith "+json" then some json
  else if yamlNames.contains name || name.endsWith "+yaml" then some yaml
  else none

/-- The format that the first character of a text suggests: JSON documents begin with a bracket or a
brace. -/
def ofSource (source : List Char) : Format :=
  match source.dropWhile fun (c : Char) => (Rune.ofChar c).isBlank with
  | '\x7b' :: _ => json
  | '[' :: _ => json
  | _ => yaml

/-- The format of a text for which something may be declared. -/
def detect (source : List Char) (declared : Option Text) : Format :=
  (declared.bind ofContentType?).getD (ofSource source)

/-- The value of a text that is taken for YAML. -/
def decodeYaml (reader : YamlReader) (source : List Char) : Except Fault Value :=
  match reader.ofText source with
  | .ok value => .ok value
  | .error (.refused reason) => .error (.spec (.undecodable reason))
  | .error (.broken fault) => .error fault.fault

/-- **The value of a text.**  A text that turns out not to be JSON may still be YAML. -/
def decode (reader : YamlReader) (format : Format) (source : List Char) : Except Fault Value :=
  match format with
  | json =>
    match Json.decode source with
    | .error .malformed => decodeYaml reader source
    | result => result
  | yaml => decodeYaml reader source

end Format

end LoadPlan
