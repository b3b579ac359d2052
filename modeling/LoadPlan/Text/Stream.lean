import LoadPlan.Number.Double
import LoadPlan.Text.Utf8

/-!
# Bytes read as text piece by piece

A file need not be read as a whole.  Its bytes come in chunks, and its characters are taken in
portions, so that what is wrong with a byte shows only when its chunk is read.

* `TextStream` — a file of which some bytes have been read.
* `TextStream.refill` — one more chunk.  It is the larger, the more bytes a character has taken in
  the chunk before.
* `TextStream.read` — a portion of the characters.  A portion is short only at the end of the file.
* `unifyLineEnds` — every line ends in the same way.
-/

namespace LoadPlan

/-- The characters of a text in which every line ends in the same way. -/
def unifyLineEnds : List Char → List Char
  | [] => []
  | '\r' :: '\n' :: rest => '\n' :: unifyLineEnds rest
  | '\r' :: rest => '\n' :: unifyLineEnds rest
  | c :: rest => c :: unifyLineEnds rest

/-- **A file of which some bytes have been read.** -/
structure TextStream where
  /-- The bytes that have not been read. -/
  octets : List Nat
  /-- The bytes that have been read of a character that is not complete. -/
  begun : List Nat
  /-- Whether a carriage return stands before them that may still be half of a line end. -/
  returned : Bool
  /-- The characters that have been read and not been taken. -/
  ready : List Char
  /-- How many bytes a character has taken in the last chunk. -/
  rate : Double

namespace TextStream

/-- A file that has not been read. -/
def ofOctets (octets : List Nat) : TextStream := ⟨octets, [], false, [], .zero false⟩

/-- The least number of bytes in a chunk, as long as there are so many. -/
def leastChunk : Nat := 8192

/-- The number of bytes in the next chunk, when some more characters are wanted. -/
def chunkSize (s : TextStream) (wanted : Nat) : Nat :=
  max leastChunk ((s.rate.mul (.ofInt wanted)).floor?.getD 0).toNat

/-- **One more chunk**, when all characters that were ready have been taken and some more are
wanted; nothing at the end of the file.  A file may not end inside a character. -/
def refill (s : TextStream) (wanted : Nat) : Except Utf8.Flaw (Option TextStream) := do
  let (chunk, octets) := s.octets.splitAt (s.chunkSize wanted)
  let atEnd := chunk.isEmpty
  let (decoded, begun) ←
    if atEnd then (Utf8.decode s.begun).map fun cs => (cs, [])
    else Utf8.decodeBegun (s.begun ++ chunk)
  let cs := if s.returned then '\r' :: decoded else decoded
  let returned := !atEnd && cs.getLast? = some '\r'
  let ready := unifyLineEnds (if returned then cs.dropLast else cs)
  if atEnd && ready.isEmpty then return none
  else
    let rate := if ready.isEmpty then .zero false else .ofRatio false chunk.length ready.length
    return some { octets, begun, returned, ready, rate }

/-- A portion of the characters, out of at most so many chunks. -/
def collect : Nat → TextStream → Nat → Except Utf8.Flaw (List Char × TextStream)
  | 0, s, _ => .ok ([], s)
  | chunks + 1, s, wanted => do
    let taken := s.ready.take wanted
    let s := { s with ready := s.ready.drop wanted }
    let missing := wanted - taken.length
    if missing = 0 then return (taken, s)
    else
      match ← s.refill missing with
      | none => return (taken, s)
      | some filled =>
        let (more, rest) ← collect chunks filled missing
        return (taken ++ more, rest)

/-- **A portion of the characters.**  Every chunk that is not among the last three of a file has a
character, so that many chunks and three more are enough. -/
def read (s : TextStream) (wanted : Nat) : Except Utf8.Flaw (List Char × TextStream) :=
  s.collect (wanted + 3) wanted

end TextStream

end LoadPlan
