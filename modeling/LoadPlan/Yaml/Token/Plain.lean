import LoadPlan.Text
import LoadPlan.Yaml.Cursor

/-!
# Plain scalars

A leaf without quotation marks.

* `plainRun` — the characters of one stretch without blanks: a colon ends it before a blank, and
  inside brackets so do the brackets' own marks.
* `plainGap` — what stands between two stretches: the blanks of a line, or line breaks folded into
  a space.
* `readPlain` — the stretches that make up a leaf.
-/

namespace LoadPlan.Yaml

/-- The marks that end a stretch inside brackets. -/
def isFlowMark (c : Char) : Bool :=
  c = ',' || c = '?' || c = '[' || c = ']' || c = '\x7b' || c = '\x7d'

/-- The marks that make a colon inside brackets end a stretch. -/
def isFlowBoundary (c : Char) : Bool :=
  c = ',' || c = '[' || c = ']' || c = '\x7b' || c = '\x7d'

def plainRun (inFlow : Bool) : List Char → List Char
  | [] => []
  | c :: rest =>
    if isBlankOrBreak c then []
    else if c = ':' && rest.head?.all (fun d => isBlankOrBreak d || (inFlow && isFlowBoundary d))
    then []
    else if inFlow && isFlowMark c then []
    else c :: plainRun inFlow rest

/-- The line breaks after the first one of a gap, with the spaces between them left out; nothing
when a mark of a document stands at the beginning of a line. -/
def plainBreaks : Nat → Cursor → Except TextFault (Option (List Char) × Cursor)
  | 0, c => .ok (some [], c)
  | steps + 1, c => do
    match c.peek with
    | some ' ' => plainBreaks steps c.next
    | some ch =>
      if isBreak ch then
        let (lineBreak, after) := c.lineBreak
        if ← after.atDocumentMark then return (none, after)
        else
          let (breaks, stop) ← plainBreaks steps after
          return (breaks.map (lineBreak ++ ·), stop)
      else return (some [], c)
    | none => return (some [], c)

/-- The gap after a stretch: its text, the position after it, and whether it holds a line break.  An
empty text says that the leaf ends here. -/
def plainGap (c : Cursor) : Except TextFault (List Char × Cursor × Bool) := do
  let (blanks, c) := c.span (· = ' ')
  if c.peek.any isBreak then
    let (lineBreak, c) := c.lineBreak
    if ← c.atDocumentMark then return ([], c, true)
    else
      match ← plainBreaks (c.size + 1) c with
      | (none, c) => return ([], c, true)
      | (some breaks, c) =>
        if lineBreak != ['\n'] then return (lineBreak ++ breaks, c, true)
        else if breaks.isEmpty then return ([' '], c, true)
        else return (breaks, c, true)
  else return (blanks, c, false)

/-- **A plain leaf**: its characters, the position after it and after the blanks that follow, and
whether those hold a line break.  Outside brackets the leaf ends where a line is indented less than
`indent`. -/
def readPlain (inFlow : Bool) (indent : Int) : Nat → List Char → Cursor → Bool →
    Except TextFault (List Char × Cursor × Bool)
  | 0, _, c, broken => .ok ([], c, broken)
  | steps + 1, gap, c, broken => do
    if c.peek = some '#' then return ([], c, broken)
    else
      let run := plainRun inFlow c.rest
      let afterRun := c.advance run.length
      if afterRun.peek = some ':' then afterRun.require 2
      if run.isEmpty then return ([], c, broken)
      else
        let (nextGap, after, broke) ← plainGap afterRun
        if nextGap.isEmpty || after.peek = some '#' || (!inFlow && after.column < indent) then
          return (gap ++ run, after, broke)
        else
          let (more, stop, broken) ← readPlain inFlow indent steps nextGap after broke
          return (gap ++ run ++ more, stop, broken)

end LoadPlan.Yaml
