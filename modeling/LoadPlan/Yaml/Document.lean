import LoadPlan.Format
import LoadPlan.Yaml.Survey
import LoadPlan.Yaml.Token.Layout

/-!
# YAML documents

From texts to values.

* `Key` — a key of a mapping, with the node it comes from: a key is the same as itself, even where
  its value differs from itself as a number.
* `Survey.value` — the value of a node of a document that has been looked through.
* `Yaml.decode` — the value of a text.  A text can be that of a document which has itself as a part; no
  finite value is its value, so it is told apart from a text that is refused.
* `Yaml.reader` — the reader that texts and files are read with where no other is given.
* `Yaml.unrolling` — the reader that goes on with a piece of a document which has itself as a part.
-/

namespace LoadPlan.Yaml

/-- **A key of a mapping.** -/
structure Key where
  /-- Its value. -/
  value : Value
  /-- The node it comes from. -/
  origin? : Option Nat

namespace Key

/-- Whether two keys are one: they have the same value, or they come from the same node. -/
def isSame (key other : Key) : Bool :=
  key.value.sameKey other.value || key.origin? = other.origin?

/-- Puts a value under a key.  A key that is already there keeps its place and its spelling. -/
def put (key : Key) (value : Value) : List (Key × Value) → List (Key × Value)
  | [] => [(key, value)]
  | (other, old) :: rest =>
    if other.isSame key then (other, value) :: rest else (other, old) :: key.put value rest

end Key

namespace Survey

def keyOf (survey : Survey) (node : Node) : Key :=
  match survey.contents[node.number]? with
  | some (.leaf value origin?) => ⟨value, origin?⟩
  | _ => ⟨.null, some node.number⟩

/-- The entries of a mapping, by a way to find the value of a node. -/
def entriesOf (survey : Survey) (valueOf : Node → Value) (entries : List Entry) : Entries :=
  let pairs := entries.foldl (fun found (key, value) =>
    (survey.keyOf key).put (valueOf value) found) []
  pairs.map fun (key, value) => (key.value, value)

/-- **The value of a node** at most so many levels deep. -/
def value (survey : Survey) : Nat → Node → Value
  | 0, _ => .null
  | levels + 1, node =>
    match survey.contents[node.number]? with
    | none => .null
    | some (.leaf value _) => value
    | some (.items items) => .list (items.map (survey.value levels))
    | some (.entries entries) => .map (survey.entriesOf (survey.value levels) entries)
    | some (.members entries) =>
      .set ((survey.entriesOf (survey.value levels) entries).map Prod.fst)
    | some (.pairs entries) =>
      .list (entries.map fun (key, value) =>
        .tuple [survey.value levels key, survey.value levels value])

end Survey

/-- The value of a text; a text without a document has none.  Every level of a document takes a
token.  A document that has itself as a part is written out to a number of levels, if one is given. -/
def readDocument (unrolled? : Option Nat) (source : Source) : Except TextFault Value := do
  let found := tokens source
  match ← Node.ofTokens found with
  | none => return .null
  | some root =>
    let levels := found.length + 2
    let survey ← Survey.ofRoot levels root
    match survey.endless, unrolled? with
    | false, _ => return survey.value levels root
    | true, some unrolled => return survey.value unrolled root
    | true, none => throw .endless

/-- The reason for which a text is refused; where it is wrong is not said. -/
def refusal : Text := "the text is not YAML"

/-- What keeps a text from being read: it is refused, or it breaks the reader off. -/
def faultOf : TextFault → YamlFault
  | .malformed => .refused refusal
  | fault => .broken fault

/-- **The value of a text.** -/
def decode (unrolled? : Option Nat) (source : Source) : Except YamlFault Value :=
  (readDocument unrolled? source).mapError faultOf

/-- **The reader of YAML.** -/
def reader : YamlReader where
  ofText source := decode none (.ofChars source)
  ofFile octets := decode none (.ofOctets octets)

/-- The reader that shows a document which has itself as a part by a finite piece of it. -/
def unrolling (levels : Nat) : YamlReader where
  ofText source := decode (some levels) (.ofChars source)
  ofFile octets := decode (some levels) (.ofOctets octets)

end LoadPlan.Yaml
