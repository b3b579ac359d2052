import LoadPlan.Markup.Token

/-!
# What follows the root

After the root of a document there may be white space, comments and instructions.  Anything else is
junk; but it is read as a piece of a document type first, and may be ill-formed as such.

* `Markup.remainder` — reading all that follows the root.
-/

namespace LoadPlan.Markup

namespace Scan

def nextIs (accept : Rune → Bool) : Scan Bool := return accept (← peek)

/-- Passes over a name, which has to be followed by one of some characters. -/
def nameBefore (accept : Rune → Bool) : Scan Unit := do
  let _ ← name
  if !(← nextIs accept) then refuse

def isOneOf (characters : Text) (r : Rune) : Bool := characters.any (· = r)

/-- A quoted text, of which the first mark has been read. -/
def quotation (mark : Rune) : Scan Unit := do
  let _ ← takeWhile fun r => r ≠ mark && !r.isIllegal
  expect mark
  if !(← nextIs fun r => isSpace r || isOneOf ">%[" r) then refuse

/-- A declaration, of which the exclamation mark has been read; whether it is a comment. -/
def declarationPart : Scan Bool := do
  let next ← peek
  if next = '-' then
    skip
    let _ ← comment
    return true
  else if next = '[' then return false
  else if next.isAsciiLetter || next = '_' then
    let _ ← takeWhile fun r => r.isAsciiLetter || r = '_'
    let next ← peek
    if isSpace next then return false
    else if next = '%' then
      match (← get).drop 1 with
      | [] => throw none
      | r :: _ => if isSpace r || r = '%' then refuse else return false
    else refuse
  else refuse

/-- What begins with an opening bracket, which has been read; whether it may follow the root. -/
def bracketedPart : Scan Bool := do
  let next ← peek
  if next = '!' then
    skip
    declarationPart
  else if next = '?' then
    skip
    let (target, _) ← instruction
    return target != "xml"
  else if next.isAsciiLetter || next = '_' || !next.isAscii then return false
  else refuse

/-- A word of a document type.  A colon is allowed once after a name, and anywhere in a word that is
no name; a mark of repetition ends a name only. -/
def word : Nat → (isName colonSeen : Bool) → Scan Unit
  | 0, _, _ => throw none
  | rounds + 1, isName, colonSeen => do
    let _ ← takeWhile Rune.isNamePart
    let next ← peek
    if next = ':' then
      skip
      if isName && !colonSeen then
        word rounds (← peek).isNamePart true
      else word rounds false colonSeen
    else if isSpace next || isOneOf ">),|[%" next then return ()
    else if isOneOf "+*?" next && isName then return ()
    else refuse

/-- A reference to a parameter, or a lone percent sign, which has been read. -/
def parameter : Scan Unit := do
  if !(← nextIs fun r => isSpace r || r = '%') then nameBefore (· = ';')

/-- The next token after the root; whether it may stand there. -/
def stranger : Scan Bool := do
  let next ← peek
  if isSpace next then
    skipSpace
    return true
  else if next = '<' then
    skip
    bracketedPart
  else
    if next = '"' ∨ next = '\'' then
      skip
      quotation next
    else if next = '%' then
      skip
      parameter
    else if next = '#' then
      skip
      nameBefore fun r => isSpace r || isOneOf ")>%|" r
    else if next = ')' then
      skip
      if !(← nextIs fun r => isSpace r || isOneOf "*?+>,|)" r) then refuse
    else if next.isNamePart || next = ':' then
      skip
      word ((← left) + 1) next.isNameStart false
    else if !isOneOf ",[](|>" next then refuse
    return false

end Scan

/-- **All that follows the root.** -/
def remainder : Nat → Text → Except Halt Unit
  | _, [] | 0, _ => .ok ()
  | rounds + 1, rest =>
    match Scan.stranger rest with
    | .ok (true, after) => remainder rounds after
    | .ok (false, _) => .error ⟨.junk, rest.length⟩
    | .error none => .error ⟨.unclosedToken, rest.length⟩
    | .error (some halt) => .error halt

end LoadPlan.Markup
