import LoadPlan.Fault
import LoadPlan.Text.Stream

/-!
# Sources of YAML texts

The characters that a document is read from.  A text is looked through for characters that the
format does not allow before anything else is done with it.  A file is read in portions instead,
and no portion is read before a character of it is asked for; so what is wrong at the beginning of
its text can be found before what is wrong with the rest of its characters.

* `isAllowed` — the characters that a text of the format may hold.
* `Source` — the characters that can be read, and what keeps those behind them from being read.
* `Source.ofChars` — the source that a text is.
* `Source.ofOctets` — the source that a file is.
-/

namespace LoadPlan.Yaml

/-- Whether a text of the format may hold a character. -/
def isAllowed (c : Char) : Bool :=
  c = '\t' || c = '\n' || c = '\r' || (' ' ≤ c && c ≤ '~') || c = '\x85'
    || ('\xa0' ≤ c && c ≤ '\uFFFD') || 0x10000 ≤ c.toNat

/-- **A text as far as it can be read.** -/
structure Source where
  /-- The characters that can be read. -/
  chars : List Char
  /-- What keeps the characters behind them from being read; nothing if there are none. -/
  obstacle? : Option TextFault

namespace Source

/-- The source that a text is: either all of it can be read or nothing. -/
def ofChars (chars : List Char) : Source :=
  if chars.all isAllowed then ⟨chars, none⟩ else ⟨[], some .malformed⟩

def ofPortion (portion : Except Utf8.Flaw (List Char × TextStream))
    (ofRest : TextStream → Source) : Source :=
  match portion with
  | .error flaw => ⟨[], some (.notUtf8 flaw)⟩
  | .ok (chars, stream) =>
    if chars.isEmpty then ⟨[], none⟩
    else if chars.all isAllowed then
      let rest := ofRest stream
      ⟨chars ++ rest.chars, rest.obstacle?⟩
    else ⟨[], some .malformed⟩

/-- The number of characters in a portion. -/
def portionSize : Nat := 4096

/-- The source that the rest of a file is, in at most so many portions. -/
def ofStream : Nat → TextStream → Source
  | 0, _ => ⟨[], none⟩
  | portions + 1, stream => ofPortion (stream.read portionSize) (ofStream portions)

/-- **The source that a file is.**  The first portion is a double one. -/
def ofOctets (octets : List Nat) : Source :=
  let first : Except Utf8.Flaw (List Char × TextStream) := do
    let (chars, stream) ← (TextStream.ofOctets octets).read portionSize
    let (more, stream) ← stream.read portionSize
    return (chars ++ more, stream)
  ofPortion first (ofStream (octets.length + 1))

end Source

end LoadPlan.Yaml
