import LoadPlan.Yaml.Tag
import LoadPlan.Yaml.Token

/-!
# Nodes

The tree that the tokens of a YAML document stand for.

* `Node` — leaves, sequences and mappings, each with its kind.  An alias is replaced by the node it
  refers to, so that a tree has no names in it; but nodes are numbered, so that a node which stands
  at several places is known to be one and the same.  Inside the node that it refers to, an alias is
  replaced by the number of that node.
* `Reading` — the tokens that are left, the anchors that have been met, and the number of nodes so
  far.  An anchor names its node as soon as the node begins.
* `Node.ofTokens` — the root of a document; there is none when the text holds no document.

Every call of a reader takes a token or is followed by one that does, so that a small multiple of
the number of tokens bounds the number of calls.
-/

namespace LoadPlan.Yaml

/-- **A node.** -/
inductive Node where
  /-- A leaf. -/
  | leaf (number : Nat) (tag : Tag) (text : Text)
  /-- A node that this place is a part of. -/
  | again (number : Nat) (tag : Tag)
  /-- A sequence. -/
  | sequence (number : Nat) (tag : Tag) (items : List Node)
  /-- A mapping, with its entries in the order of the text. -/
  | mapping (number : Nat) (tag : Tag) (entries : List (Node × Node))

namespace Node

/-- The leaf that stands where there is none.  Its number is shared by all of its kind, since
nothing tells them apart. -/
def absent : Node := leaf 0 .null []

instance : Inhabited Node := ⟨absent⟩

def number : Node → Nat
  | leaf number _ _ => number
  | again number _ => number
  | sequence number _ _ => number
  | mapping number _ _ => number

/-- The kind of a node, as it is declared or read off its form. -/
def tag : Node → Tag
  | leaf _ tag _ => tag
  | again _ tag => tag
  | sequence _ tag _ => tag
  | mapping _ tag _ => tag

end Node

/-- **The state of reading.** -/
structure Reading where
  /-- The tokens that are left. -/
  tokens : List Token
  /-- The abbreviations for the beginning of tags. -/
  handles : List (String × String)
  /-- The anchors so far, each with what an alias for it stands for. -/
  anchors : List (String × Node)
  /-- The number that has been given last. -/
  count : Nat

abbrev NodeReader := StateT Reading (Except TextFault)

namespace NodeReader

/-- The next token, which stays where it is. -/
def peek : NodeReader Token := do
  match (← get).tokens with
  | [] => throw .malformed
  | .broken fault :: _ => throw fault
  | token :: _ => return token

/-- Passes over the next token. -/
def skip : NodeReader Unit := modify fun s => { s with tokens := s.tokens.tail }

/-- What an alias stands for from now on, if there is a name for it. -/
def nameAnchor (anchor : Option String) (node : Node) : NodeReader Unit :=
  match anchor with
  | none => pure ()
  | some name => modify fun s => { s with anchors := (name, node) :: s.anchors }

/-- Gives a name to a node that is being read.  A name can be given once. -/
def openAnchor (anchor : Option String) (number : Nat) (tag : Tag) : NodeReader Unit := do
  let known := (← get).anchors
  if (anchor.bind fun name => known.lookup name).isSome then throw .malformed
  nameAnchor anchor (.again number tag)

/-- The node with that name is complete. -/
def closeAnchor (anchor : Option String) (node : Node) : NodeReader Node := do
  nameAnchor anchor node
  return node

/-- What an alias stands for. -/
def resolve (name : String) : NodeReader Node := do
  match (← get).anchors.lookup name with
  | some node => return node
  | none => throw .malformed

def nextNumber : NodeReader Nat := do
  let number := (← get).count + 1
  modify fun s => { s with count := number }
  return number

/-! ## Properties -/

/-- What stands in front of a node. -/
structure Properties where
  /-- Its name. -/
  anchor : Option String
  /-- Its tag in full; the lone mark asks for the kind that a plain leaf would have. -/
  tag : Option String

/-- The anchor that stands here, if there is one. -/
def readAnchor : NodeReader (Option String) := do
  match ← peek with
  | .anchor name => skip; return some name
  | _ => return none

/-- The tag that stands here, if there is one, still with its abbreviation. -/
def readTagToken : NodeReader (Option (Option String × String)) := do
  match ← peek with
  | .tag handle suffix => skip; return some (handle, suffix)
  | _ => return none

/-- A tag in full.  Its abbreviation has to be known. -/
def expandTag : Option (Option String × String) → NodeReader (Option String)
  | none => return none
  | some (none, suffix) => return some suffix
  | some (some handle, suffix) => do
    match (← get).handles.lookup handle with
    | some start => return some (start ++ suffix)
    | none => throw .malformed

/-- Anchor and tag, in either order. -/
def readProperties : NodeReader Properties := do
  match ← readAnchor with
  | some anchor => return ⟨some anchor, ← expandTag (← readTagToken)⟩
  | none =>
    match ← readTagToken with
    | none => return ⟨none, none⟩
    | some tag =>
      let anchor ← readAnchor
      return ⟨anchor, ← expandTag (some tag)⟩

def leafTag (tag : Option String) (scalar : Scalar) : Tag :=
  match tag with
  | none => if scalar.plain then Tag.ofForm scalar.text else .text
  | some name => if name = "!" then Tag.ofForm scalar.text else Tag.ofName name

/-- The kind of a node that is no leaf. -/
def branchTag (tag : Option String) (usual : Tag) : Tag :=
  match tag with
  | none => usual
  | some name => if name = "!" then usual else Tag.ofName name

/-! ## Nodes -/

/-- Whether a token shows that there is no node before the next key or the end of a block. -/
def endsBlockPart : Token → Bool
  | .key | .value | .blockEnd => true
  | _ => false

/-- Whether a token shows that there is no node before the next item or the end of a block. -/
def endsBlockItem : Token → Bool
  | .blockEntry | .blockEnd => true
  | _ => false

/-- Whether a token shows that there is no node before the next item, key or end of a block. -/
def endsLooseItem : Token → Bool
  | .blockEntry => true
  | token => endsBlockPart token

/-- Whether a token shows that there is no value before the next entry inside brackets. -/
def endsFlowValue (closing : Token → Bool) : Token → Bool
  | .flowEntry => true
  | token => closing token

/-- Whether a token shows that there is no key before the value or entry inside brackets. -/
def endsFlowKey (closing : Token → Bool) : Token → Bool
  | .value => true
  | token => endsFlowValue closing token

def closesSequence : Token → Bool
  | .flowSequenceEnd => true
  | _ => false

def closesMapping : Token → Bool
  | .flowMappingEnd => true
  | _ => false

/-- A reader, unless the next token shows that there is nothing to read. -/
def unlessAt (stop : Token → Bool) (read : NodeReader Node) : NodeReader Node := do
  if stop (← peek) then return .absent else read

/-- Between two entries inside brackets stands a comma. -/
def readComma (first : Bool) : NodeReader Unit := do
  unless first do
    match ← peek with
    | .flowEntry => skip
    | _ => throw .malformed

mutual

/-- **A node.**  `block` allows indentation, `loose` allows a sequence that is not indented. -/
def readNode (steps : Nat) (block loose : Bool) : NodeReader Node := do
  match steps with
  | 0 => throw .malformed
  | steps + 1 =>
    match ← peek with
    | .aliasOf name => skip; resolve name
    | _ =>
      let properties ← readProperties
      readContent steps block loose properties

/-- The node that follows its properties. -/
def readContent (steps : Nat) (block loose : Bool) (properties : Properties) :
    NodeReader Node := do
  match steps with
  | 0 => throw .malformed
  | steps + 1 =>
    let { anchor, tag } := properties
    let number ← nextNumber
    let sequenceTag := branchTag tag .sequence
    let mappingTag := branchTag tag .mapping
    match ← peek, block, loose with
    | .blockEntry, _, true =>
      openAnchor anchor number sequenceTag
      closeAnchor anchor (.sequence number sequenceTag (← readLooseItems steps))
    | .scalar scalar, _, _ =>
      skip
      openAnchor anchor number (leafTag tag scalar)
      closeAnchor anchor (.leaf number (leafTag tag scalar) scalar.text)
    | .flowSequenceStart, _, _ =>
      openAnchor anchor number sequenceTag
      skip
      closeAnchor anchor (.sequence number sequenceTag (← readFlowItems steps true))
    | .flowMappingStart, _, _ =>
      openAnchor anchor number mappingTag
      skip
      closeAnchor anchor (.mapping number mappingTag (← readFlowEntries steps true))
    | .blockSequenceStart, true, _ =>
      openAnchor anchor number sequenceTag
      skip
      closeAnchor anchor (.sequence number sequenceTag (← readBlockItems steps))
    | .blockMappingStart, true, _ =>
      openAnchor anchor number mappingTag
      skip
      closeAnchor anchor (.mapping number mappingTag (← readBlockEntries steps))
    | _, _, _ =>
      if anchor.isNone && tag.isNone then throw .malformed
      openAnchor anchor number (leafTag tag ⟨[], true⟩)
      closeAnchor anchor (.leaf number (leafTag tag ⟨[], true⟩) [])

/-- The items of an indented sequence. -/
def readBlockItems (steps : Nat) : NodeReader (List Node) := do
  match steps with
  | 0 => throw .malformed
  | steps + 1 =>
    match ← peek with
    | .blockEntry =>
      skip
      let item ← unlessAt endsBlockItem (readNode steps true false)
      return item :: (← readBlockItems steps)
    | .blockEnd => skip; return []
    | _ => throw .malformed

/-- The items of a sequence that is not indented; its end is where there is no further item. -/
def readLooseItems (steps : Nat) : NodeReader (List Node) := do
  match steps with
  | 0 => throw .malformed
  | steps + 1 =>
    match ← peek with
    | .blockEntry =>
      skip
      let item ← unlessAt endsLooseItem (readNode steps true false)
      return item :: (← readLooseItems steps)
    | _ => return []

/-- The entries of an indented mapping. -/
def readBlockEntries (steps : Nat) : NodeReader (List (Node × Node)) := do
  match steps with
  | 0 => throw .malformed
  | steps + 1 =>
    match ← peek with
    | .key =>
      skip
      let key ← unlessAt endsBlockPart (readNode steps true true)
      match ← peek with
      | .value =>
        skip
        let value ← unlessAt endsBlockPart (readNode steps true true)
        return (key, value) :: (← readBlockEntries steps)
      | _ => return (key, .absent) :: (← readBlockEntries steps)
    | .blockEnd => skip; return []
    | _ => throw .malformed

/-- The items between brackets, after the opening one.  A single entry of a mapping may stand in
the place of an item. -/
def readFlowItems (steps : Nat) (first : Bool) : NodeReader (List Node) := do
  match steps with
  | 0 => throw .malformed
  | steps + 1 =>
    match ← peek with
    | .flowSequenceEnd => skip; return []
    | _ =>
      readComma first
      match ← peek with
      | .key =>
        skip
        let key ← unlessAt (endsFlowKey closesSequence) (readNode steps false false)
        let value ← readFlowValue steps closesSequence
        let number ← nextNumber
        return .mapping number .mapping [(key, value)] :: (← readFlowItems steps false)
      | .flowSequenceEnd => skip; return []
      | _ =>
        let item ← readNode steps false false
        return item :: (← readFlowItems steps false)

/-- The entries between braces, after the opening one. -/
def readFlowEntries (steps : Nat) (first : Bool) : NodeReader (List (Node × Node)) := do
  match steps with
  | 0 => throw .malformed
  | steps + 1 =>
    match ← peek with
    | .flowMappingEnd => skip; return []
    | _ =>
      readComma first
      match ← peek with
      | .key =>
        skip
        let key ← unlessAt (endsFlowKey closesMapping) (readNode steps false false)
        let value ← readFlowValue steps closesMapping
        return (key, value) :: (← readFlowEntries steps false)
      | .flowMappingEnd => skip; return []
      | _ =>
        let key ← readNode steps false false
        return (key, .absent) :: (← readFlowEntries steps false)

/-- The value of an entry inside brackets, which may be missing. -/
def readFlowValue (steps : Nat) (closing : Token → Bool) : NodeReader Node := do
  match steps with
  | 0 => throw .malformed
  | steps + 1 =>
    match ← peek with
    | .value =>
      skip
      unlessAt (endsFlowValue closing) (readNode steps false false)
    | _ => return .absent

end

/-! ## Documents -/

/-- The abbreviations that need not be declared. -/
def usualHandles : List (String × String) := [("!", "!"), ("!!", "tag:yaml.org,2002:")]

/-- The directives in front of a document.  The version may be given once and has to begin with one;
an abbreviation may be declared once. -/
def readDirectives : List Token → Bool → List (String × String) →
    Except TextFault (List Token × List (String × String))
  | .versionDirective major :: rest, versioned, handles =>
    if versioned ∨ major ≠ 1 then .error .malformed else readDirectives rest true handles
  | .tagDirective handle start :: rest, versioned, handles =>
    if (handles.lookup handle).isSome then .error .malformed
    else readDirectives rest versioned ((handle, start) :: handles)
  | .otherDirective :: rest, versioned, handles => readDirectives rest versioned handles
  | rest, _, handles => .ok (rest, handles ++ usualHandles)

/-- The root of a document after its start has been marked, which may be missing. -/
def readRoot (steps : Nat) : NodeReader Node := do
  match ← peek with
  | .versionDirective _ | .tagDirective _ _ | .otherDirective | .documentStart | .documentEnd
  | .streamEnd => return .absent
  | _ => readNode steps true false

def isDocumentEnd : Token → Bool
  | .documentEnd => true
  | _ => false

/-- The tokens after the marks of the end of a document. -/
def skipDocumentEnds (tokens : List Token) : List Token := tokens.dropWhile isDocumentEnd

/-- What follows a document has to be the end of the text. -/
def expectEnd (tokens : List Token) : Except TextFault Unit :=
  match skipDocumentEnds tokens with
  | .streamEnd :: _ => .ok ()
  | rest => do
    match (← readDirectives rest false []).1 with
    | .broken fault :: _ => throw fault
    | _ => throw .malformed

/-- The root of a document that begins with a mark, possibly after directives. -/
def readMarked (tokens : List Token) : Except TextFault Node := do
  match ← readDirectives tokens false [] with
  | (.documentStart :: rest, handles) =>
    let (root, s) ← (readRoot (4 * tokens.length + 16)).run ⟨rest, handles, [], 0⟩
    expectEnd s.tokens
    return root
  | (.broken fault :: _, _) => throw fault
  | _ => throw .malformed

end NodeReader

/-- **The root of a document.** -/
def Node.ofTokens (tokens : List Token) : Except TextFault (Option Node) :=
  match tokens with
  | .streamEnd :: _ => .ok none
  | .broken fault :: _ => .error fault
  | .versionDirective _ :: _ | .tagDirective _ _ :: _ | .otherDirective :: _
  | .documentStart :: _ => (NodeReader.readMarked tokens).map some
  | _ => do
    let (root, s) ←
      (NodeReader.readNode (4 * tokens.length + 16) true false).run
        ⟨tokens, NodeReader.usualHandles, [], 0⟩
    NodeReader.expectEnd s.tokens
    return some root

end LoadPlan.Yaml
