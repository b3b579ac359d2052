import LoadPlan.Number.Numeral
import LoadPlan.Value

/-!
# Pointers

References into a document, such as `#/components/schemas/User`.

* `Pointer.tokens?` — the steps of a local reference.  In a step, a tilde with a one stands for a
  slash, and a tilde with a zero for a tilde.
* `Pointer.step` — one step: by key into a mapping, by position into a sequence.
* `Pointer.target` — the mapping that a reference leads to.

Positions are written with digits of any script.  There are digits that have no value, so looking a
reference up can fail.
-/

namespace LoadPlan.Pointer

/-- A step without its escapes. -/
def unescape (token : Text) : Text := (token.replace "~1" "/").replace "~0" "~"

/-- The steps of a local reference; any other reference has none. -/
def tokens? (reference : Text) : Option (List Text) :=
  if reference.startsWith "#/" then
    some ((Text.splitOn '/' (reference.drop 2)).map unescape)
  else none

/-- The position that a row of digits names. -/
def position (token : Text) : Except Fault Nat :=
  match readInteger? 10 token.toChars with
  | some i => .ok i.toNat
  | none => .error .badIndex

/-- **One step.** -/
def step (token : Text) : Value → Except Fault (Option Value)
  | .map entries => .ok (Entries.get? token entries)
  | .list items =>
    if token.isDigits then (position token).map fun n => items[n]? else .ok none
  | _ => .ok none

/-- Some steps one after another. -/
def walk : List Text → Value → Except Fault (Option Value)
  | [], value => .ok (some value)
  | token :: tokens, value => do
    match ← step token value with
    | some next => walk tokens next
    | none => return none

/-- **The mapping that a reference leads to**, if it is local and leads to one. -/
def target (document : Value) (reference : Text) : Except Fault (Option Entries) :=
  match tokens? reference with
  | none => .ok none
  | some tokens => (walk tokens document).map fun value => value.bind Value.entries?

end LoadPlan.Pointer
