import LoadPlan.Yaml.Leaf
import LoadPlan.Yaml.Node
import Std.Data.HashMap.Basic
import Std.Data.HashSet.Basic

/-!
# Surveys

What the nodes of a YAML document are.

A document is looked through level by level, so of two faults the one nearer to the root is
reported, and of two at the same depth the one that comes first.  What a node is can depend on what
has been looked at before it.  A mapping that has been opened has the entries of its sources, and
its keys for the mapping as a leaf have become plain texts; a node stays what it was when it was
first met.  Where a document comes to itself again, that is kept in mind.

* `Content` — what a node has turned out to be.
* `Survey` — what is known of a document so far, and `Surveyor`, a step that makes it known.
* `Surveyor.unfold` — opening a mapping: the entries it takes over from its sources stand in front
  of its own, so that its own win.
* `Surveyor.meet`, `Surveyor.lookInto` — looking at a node, and at the parts of a node.
* `Survey.ofRoot` — the survey of a document.
-/

namespace LoadPlan.Yaml

abbrev Entry := Node × Node

/-- **What a node has turned out to be.** -/
inductive Content where
  /-- A value without parts, and the node it comes from.  The number that is written as no number
  comes from none, since all places where it is written share it. -/
  | leaf (value : Value) (origin? : Option Nat)
  /-- A sequence. -/
  | items (items : List Node)
  /-- A mapping. -/
  | entries (entries : List Entry)
  /-- A set, as the keys of a mapping. -/
  | members (entries : List Entry)
  /-- A sequence of pairs. -/
  | pairs (entries : List Entry)

/-- **What is known of a document.** -/
structure Survey where
  /-- What the nodes are, by their numbers.  One that has been met but not looked into counts as an
  empty sequence. -/
  contents : Std.HashMap Nat Content
  /-- The mappings that have been opened. -/
  opened : Std.HashSet Nat
  /-- The keys for the mapping as a leaf that have become texts. -/
  texts : Std.HashSet Nat
  /-- The nodes to be looked into, the last one first. -/
  waiting : List Node
  /-- Whether the document comes to itself again, so that there is no end to it. -/
  endless : Bool

namespace Survey

/-- Nothing is known. -/
def empty : Survey := ⟨{}, {}, {}, [], false⟩

/-- The kind of a node, as far as it is known. -/
def tagOf (survey : Survey) (node : Node) : Tag :=
  if survey.texts.contains node.number then .text else node.tag

mutual

/-- The text of a node as a leaf: of a mapping, what it keeps under the key for that. -/
def text (survey : Survey) : Node → Except TextFault Text
  | .leaf _ _ t => .ok t
  | .again _ _ => .error .endless
  | .sequence _ _ _ => .error .malformed
  | .mapping number _ entries =>
    if survey.opened.contains number then .error .malformed else survey.defaultText entries

/-- The text under the first key for the mapping as a leaf. -/
def defaultText (survey : Survey) : List Entry → Except TextFault Text
  | [] => .error .malformed
  | (key, value) :: rest =>
    if survey.tagOf key = .default then survey.text value else survey.defaultText rest

end

/-- What a node is whose kind is that of a leaf.  Only the form of a timestamp is not looked for
under the key for the mapping as a leaf. -/
def leafContent (survey : Survey) (node : Node) (tag : Tag) : Except TextFault Content := do
  let t ← survey.text node
  match tag, node with
  | .timestamp, .mapping _ _ _ => throw .notText
  | _, _ =>
    let origin? := if tag = .float && isNoNumber t then none else some node.number
    return .leaf (← tag.leafValue t) origin?

end Survey

abbrev Surveyor := StateT Survey (Except TextFault)

namespace Surveyor

def record (node : Node) (content : Content) : Surveyor Unit :=
  modify fun s => { s with contents := s.contents.insert node.number content }

def markEndless : Surveyor Unit := modify fun s => { s with endless := true }

/-- **Meets a node.**  A leaf is read at once, and anything else has to be looked into later. -/
def meet (node : Node) : Surveyor Unit := do
  if let .again _ _ := node then return ← markEndless
  let survey ← get
  unless survey.contents.contains node.number do
    let tag := survey.tagOf node
    if tag.isBranch then
      record node (.items [])
      modify fun s => { s with waiting := node :: s.waiting }
    else record node (← survey.leafContent node tag)

/-! ## Mappings -/

/-- A mapping has been opened. -/
def markOpened (number : Nat) : Surveyor Unit :=
  modify fun s => { s with opened := s.opened.insert number }

def markText (key : Node) : Surveyor Unit :=
  modify fun s => { s with texts := s.texts.insert key.number }

/-- Whether a node can be a source of entries by itself. -/
def isMapping : Node → Bool
  | .mapping _ _ _ | .again _ _ => true
  | _ => false

/-- The entries of a mapping other than those that name its sources. -/
def ownEntries (entries : List Entry) : List Entry :=
  entries.filter fun (key, _) => key.tag ≠ .merge

/-- The mappings that are being opened, each with the entries it has by then. -/
abbrev Opening := List (Nat × Surveyor (List Entry))

mutual

/-- The entries that a mapping takes over, by what is left of its entries.  A source can be the mapping
itself, with the entries that it has by then: its own, and those of the sources that are left.  Keys for
the mapping as a leaf become texts. -/
def takenOver (opening : Opening) (number : Nat) (own : List Entry) :
    List Entry → Surveyor (List Entry)
  | [] => return []
  | (key, source) :: rest =>
    let left := takenOver opening number own rest
    match key.tag with
    | .merge => do
      let taken ← takenFrom ((number, do return (← left) ++ own) :: opening) source
      return taken ++ (← left)
    | .default => do
      markText key
      left
    | _ => left

/-- The entries that are taken over from a source: a mapping, or a sequence of mappings of which the
first wins. -/
def takenFrom (opening : Opening) : Node → Surveyor (List Entry)
  | .mapping number _ entries => do
    markOpened number
    return (← takenOver opening number (ownEntries entries) entries) ++ ownEntries entries
  | .sequence _ _ items => takenFromAll opening items
  | .again number _ =>
    match opening.lookup number with
    | some entries => entries
    | none => do
      markEndless
      return []
  | .leaf _ _ _ => throw .malformed

/-- The entries of the mappings in a sequence, those of the last one first. -/
def takenFromAll (opening : Opening) : List Node → Surveyor (List Entry)
  | [] => return []
  | item :: items => do
    unless isMapping item do throw .malformed
    let taken ← takenFrom opening item
    return (← takenFromAll opening items) ++ taken

end

/-- **Opens a mapping**: all of its entries, with those it takes over in front. -/
def unfold (number : Nat) (entries : List Entry) : Surveyor (List Entry) := do
  markOpened number
  return (← takenOver [] number (ownEntries entries) entries) ++ ownEntries entries

/-- Meets key and value of an entry of a mapping.  What has parts cannot be a key. -/
def meetEntry (entry : Entry) : Surveyor Unit := do
  meet entry.1
  if ((← get).tagOf entry.1).isBranch then throw .malformed
  meet entry.2

/-- Opens a mapping and meets all of its entries. -/
def meetEntries (number : Nat) (entries : List Entry) : Surveyor (List Entry) := do
  let all ← unfold number entries
  all.forM meetEntry
  return all

/-! ## Pairs -/

/-- Meets a pair: the single entry of a mapping. -/
def meetPair : Node → Surveyor Entry
  | .mapping number _ entries => do
    let current ← if (← get).opened.contains number then unfold number entries else pure entries
    match current with
    | [(key, value)] =>
      meet key
      meet value
      return (key, value)
    | _ => throw .malformed
  | .again _ _ => throw .endless
  | _ => throw .malformed

/-! ## Levels -/

/-- **Looks into a node**, which has to be of the form that its kind asks for. -/
def lookInto (node : Node) : Surveyor Unit := do
  match node, node.tag with
  | .sequence _ _ items, .sequence =>
    items.forM meet
    record node (.items items)
  | .sequence _ _ items, .orderedMap | .sequence _ _ items, .pairs =>
    record node (.pairs (← items.mapM meetPair))
  | .mapping number _ entries, .mapping =>
    record node (.entries (← meetEntries number entries))
  | .mapping number _ entries, .set =>
    record node (.members (← meetEntries number entries))
  | _, _ => throw .malformed

/-- The nodes to be looked into, which then no longer wait. -/
def takeWaiting : Surveyor (List Node) := do
  let waiting := (← get).waiting.reverse
  modify fun s => { s with waiting := [] }
  return waiting

/-- Looks into all that waits, level by level.  There are fewer levels than nodes. -/
def lookThrough : Nat → Surveyor Unit
  | 0 => return ()
  | levels + 1 => do
    let level ← takeWaiting
    unless level.isEmpty do
      level.forM lookInto
      lookThrough levels

end Surveyor

/-- **The survey of a document** of at most a number of levels. -/
def Survey.ofRoot (levels : Nat) (root : Node) : Except TextFault Survey := do
  let ((), survey) ← (do
    Surveyor.meet root
    Surveyor.lookThrough levels : Surveyor Unit).run .empty
  return survey

end LoadPlan.Yaml
