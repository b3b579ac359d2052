import LoadPlan.Text.LetterCase.Table

/-!
# Letter case

Full case mapping of texts.

* `Text.lower` — lower case.  Two letters need more than a table: a capital I with a dot becomes an
  i and a combining dot, and a capital sigma becomes a final sigma at the end of a word.
* `Rune.upper` — upper case of one code point, which may take several.
-/

namespace LoadPlan

/-- The single code point that a list of runs maps another to. -/
def CaseRun.apply (runs : List CaseRun) (r : Rune) : Rune :=
  match runs.find? (·.covers r.code) with
  | some run => Rune.ofCode (Int.toNat (r.code + run.shift))
  | none => r

namespace Rune

/-- Whether a code point is a letter that has case. -/
def isCased (r : Rune) : Bool := r.within casedRanges

/-- Whether a code point is passed over when the neighbours of a sigma are looked at. -/
def isCaseIgnorable (r : Rune) : Bool := r.within caseIgnorableRanges

/-- The upper case of one code point. -/
def upper (r : Rune) : Text :=
  match upperSequences.lookup r.code with
  | some codes => codes.map Rune.ofCode
  | none => [CaseRun.apply upperRuns r]

end Rune

namespace Text

/-- Whether the next code point that is not passed over is a letter that has case. -/
def cased (t : Text) : Bool :=
  match t.dropWhile Rune.isCaseIgnorable with
  | [] => false
  | r :: _ => r.isCased

/-- The lower case of one code point in its surroundings: what precedes it, as a flag that says
whether the last code point not passed over is a letter that has case, and what follows it. -/
def lowerAt (afterCased : Bool) (r : Rune) (rest : Text) : Text :=
  if r.code = 0x3A3 then
    [if afterCased && !rest.cased then Rune.ofCode 0x3C2 else Rune.ofCode 0x3C3]
  else if r.code = 0x130 then [Rune.ofChar 'i', Rune.ofCode 0x307]
  else [CaseRun.apply lowerRuns r]

/-- The lower case of a text that follows another, of which `afterCased` says what `lowerAt` has to
know. -/
def lowerFrom (afterCased : Bool) : Text → Text
  | [] => []
  | r :: rest =>
    lowerAt afterCased r rest
      ++ lowerFrom (if r.isCaseIgnorable then afterCased else r.isCased) rest

/-- **The lower case of a text.** -/
def lower (t : Text) : Text := lowerFrom false t

end Text

end LoadPlan
