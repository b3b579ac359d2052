import LoadPlan.Markup.Remainder

/-!
# Reading markup

From the text of a document to its tree.

* `Markup.Scope` — the abbreviations that are known inside an element.
* `Markup.opened` — what a tag opens: its attributes must differ, its references must name
  something, and its abbreviations must be known.
* `Markup.Frame` — an element whose closing tag has not been read yet.
* `Markup.read` — the root of a document.  What keeps a text from being a document is reported with
  its line and column.

A document begins with the tag of its root.
-/

namespace LoadPlan.Markup

/-! ## Attributes -/

/-- The characters that a piece of a value stands for.  White space counts as blanks unless it is
written as a reference. -/
def Piece.meaning (start : Nat) : Piece → Except Halt Text
  | .run t => .ok (t.lineFeeds.map fun r => if isSpace r then (' ' : Rune) else r)
  | .reference target left =>
    match target.rune with
    | .ok r => .ok [r]
    | .error .undefinedEntity => .error ⟨.undefinedEntity, start⟩
    | .error flaw => .error ⟨flaw, left⟩

/-- The value of an attribute in the tag that starts at a place. -/
def Written.value (start : Nat) (written : Written) : Except Halt Text :=
  return (← written.pieces.mapM (Piece.meaning start)).flatten

/-! ## Abbreviations -/

/-- **The abbreviations that are known**, each with what it stands for. -/
abbrev Scope := List (Text × Text)

/-- What a reserved abbreviation stands for: the parts of an address. -/
def reserved (parts : List Text) : Text := Text.join "/" ("http:" :: [] :: "www.w3.org" :: parts)

/-- What the abbreviation for the format itself stands for. -/
def formatMeaning : Text := reserved ["XML", "1998", "namespace"]

/-- What the abbreviation for declarations stands for. -/
def declarationMeaning : Text := reserved ["2000", "xmlns", []]

/-- The abbreviations that are known everywhere. -/
def Scope.start : Scope := [("xml", formatMeaning)]

def abbreviation? (name : Text) : Option Text :=
  if (Text.after? ':' name).isSome then some (name.before ':') else none

/-- What is declared by an attribute of a name: an abbreviation, or the meaning of all names without
one. -/
def declared? (name : Text) : Option (Option Text) :=
  if name = "xmlns" then some none
  else if name.before ':' = "xmlns" then some (Text.after? ':' name)
  else none

def bindingFlaw? (declared : Option Text) (meaning : Text) : Option Flaw :=
  if declared.isSome ∧ meaning.isEmpty then some .boundToNothing
  else if declared = some "xmlns" then some .reboundDeclaration
  else if (' ' : Rune) ∈ meaning then some .boundToBlank
  else if declared = some "xml" then
    if meaning = formatMeaning then none else some .reboundFormat
  else if meaning = formatMeaning ∨ meaning = declarationMeaning then some .reservedMeaning
  else none

/-- What the abbreviation of a name stands for, if it has one. -/
def meaningOf (scope : Scope) (start : Nat) (name : Text) : Except Halt (Option Text) :=
  match abbreviation? name with
  | none => .ok none
  | some short =>
    match scope.lookup short with
    | some meaning => .ok (some meaning)
    | none => .error ⟨.unboundName, start⟩

/-! ## Tags -/

/-- The attributes of the tag that starts at a place, with their values, in the order in which they
are written. -/
def readAttributes (start : Nat) (seen : List Text) :
    List Written → Except Halt (List (Text × Text))
  | [] => .ok []
  | written :: rest => do
    if written.name ∈ seen then throw ⟨.duplicateAttribute, written.left⟩
    let value ← written.value start
    if let some declared := declared? written.name then
      if let some flaw := bindingFlaw? declared value then throw ⟨flaw, start⟩
    return (written.name, value) :: (← readAttributes start (written.name :: seen) rest)

/-- The abbreviations that the attributes of a tag declare. -/
def declarations (attributes : List (Text × Text)) : Scope :=
  attributes.filterMap fun (name, value) => (declared? name).join.map fun short => (short, value)

/-- No two attributes may have the same name when abbreviations are written out. -/
def checkLongNames (scope : Scope) (start : Nat) (seen : List (Text × Option Text)) :
    List Text → Except Halt Unit
  | [] => .ok ()
  | name :: rest => do
    match ← meaningOf scope start name with
    | none => checkLongNames scope start seen rest
    | some meaning =>
      let full := (meaning, Text.after? ':' name)
      if full ∈ seen then throw ⟨.duplicateAttribute, start⟩
      checkLongNames scope start (full :: seen) rest

/-- **What a tag opens**: the attributes of the element, declarations first, and the abbreviations
that are known inside it. -/
def opened (scope : Scope) (start : Nat) (name : Text) (attributes : List Written) :
    Except Halt (Attributes × Scope) := do
  let values ← readAttributes start [] attributes
  let inner := declarations values ++ scope
  let (first, others) := values.partition fun (title, _) => (declared? title).isSome
  checkLongNames inner start [] (others.map (·.1))
  let _ ← meaningOf inner start name
  return ((first ++ others).map fun (title, value) => (title, .text value), inner)

/-! ## The tree -/

/-- **An element whose closing tag has not been read yet.** -/
structure Frame where
  /-- Its name. -/
  tag : Text
  /-- Its attributes. -/
  attributes : Attributes
  /-- The abbreviations that are known inside it. -/
  scope : Scope
  /-- What has been read of its content, the last part first. -/
  content : List Markup

namespace Frame

/-- One part more.  Texts that follow each other are one. -/
def add (frame : Frame) (part : Markup) : Frame :=
  match part, frame.content with
  | .text t, .text s :: before => { frame with content := Markup.text (s ++ t) :: before }
  | part, before => { frame with content := part :: before }

/-- The element, when nothing more belongs to it. -/
def closed (frame : Frame) : Markup := .element frame.tag frame.attributes frame.content.reverse

end Frame

/-- The part that a token without tags stands for; a passage without characters stands for none. -/
def partOf? (start : Nat) : Token → Except Halt (Option Markup)
  | .run t => .ok (some (.text t))
  | .reference reference =>
    match reference.rune with
    | .ok r => .ok (some (.text [r]))
    | .error flaw => .error ⟨flaw, start⟩
  | .literal t => .ok (if t.isEmpty then none else some (.literal t))
  | .comment t => .ok (some (.comment t))
  | .instruction target message =>
    if target = "xml" then .error ⟨.misplacedDeclaration, start⟩
    else .ok (some (.instruction target message))
  | .opening _ _ _ | .closing _ _ => .ok none

/-- The next token, and the characters after it. -/
def nextToken (source : Text) : Except Halt (Token × Text) :=
  match token source with
  | .ok result => .ok result
  | .error none => .error ⟨.unclosedToken, source.length⟩
  | .error (some halt) => .error halt

/-- An element that is complete is put into the one around it; the root is the outcome. -/
def completed (element : Markup) : List Frame → Markup ⊕ List Frame
  | [] => .inl element
  | frame :: outer => .inr (frame.add element :: outer)

/-- One token in the innermost of the elements that are open. -/
def step (frame : Frame) (outer : List Frame) (start : Nat) :
    Token → Except Halt (Markup ⊕ List Frame)
  | .opening name attributes closed => do
    let (attributes, scope) ← opened frame.scope start name attributes
    let inner : Frame := ⟨name, attributes, scope, []⟩
    return .inr (if closed then frame.add inner.closed :: outer else inner :: frame :: outer)
  | .closing name left =>
    if name = frame.tag then .ok (completed frame.closed outer)
    else .error ⟨.mismatchedTag, left⟩
  | token => do
    match ← partOf? start token with
    | some part => return .inr (frame.add part :: outer)
    | none => return .inr (frame :: outer)

/-- The root, from inside some elements on, and the characters after it. -/
def readInside : Nat → List Frame → Text → Except Halt (Markup × Text)
  | 0, _, _ | _, [], _ => .error ⟨.noElement, 0⟩
  | rounds + 1, frame :: outer, source => do
    if source.isEmpty then throw ⟨.noElement, 0⟩
    let (token, rest) ← nextToken source
    match ← step frame outer source.length token with
    | .inl root => return (root, rest)
    | .inr frames => readInside rounds frames rest

/-- The root of a document, and the characters after it. -/
def readRoot (source : Text) : Except Halt (Markup × Text) := do
  if source.isEmpty then throw ⟨.noElement, 0⟩
  let (token, rest) ← nextToken source
  match token with
  | .opening name attributes closed =>
    let (attributes, scope) ← opened Scope.start source.length name attributes
    let root : Frame := ⟨name, attributes, scope, []⟩
    if closed then return (root.closed, rest) else readInside (rest.length + 1) [root] rest
  | _ => throw ⟨.noRoot, source.length⟩

/-- The root of a document that nothing follows but what may follow it. -/
def readWhole (source : Text) : Except Halt Markup := do
  let (root, rest) ← readRoot source
  remainder (rest.length + 1) rest
  return root

/-- **The root of a document.** -/
def read (source : Text) : Except RenderFault Markup :=
  match readWhole source with
  | .ok root => .ok root
  | .error halt =>
    let (line, column) := source.placeAfter 1 0 (source.length - halt.left)
    .error (.notWellFormed halt.flaw line column)

end LoadPlan.Markup
