import LoadPlan.Fault

/-!
# Words

The words of a command line as options and operands.

* `Spelling` — an option as it can be written.
* `Words.ofList` — options and operands.  An option takes the word after it or what is attached to
  it; short options may share a word; after two hyphens there are no more options.
* `Refusal` — why the words are no request, or why they are none that needs to be carried out.
-/

namespace LoadPlan.CommandLine

/-- **An option** as it is written. -/
structure Spelling where
  /-- The hyphens and the name. -/
  text : Text
  /-- Whether a value belongs to it. -/
  takesValue : Bool

/-- **Why there is no request.** -/
inductive Refusal where
  /-- The arguments are not understood. -/
  | misuse
  /-- An explanation is asked for. -/
  | help
  /-- The version is asked for. -/
  | version
  /-- A value cannot be looked at. -/
  | broken (fault : Fault)

/-- **The words of a command line.** -/
structure Words where
  /-- The options with their values, in the order in which they are given; a switch has an empty
  value. -/
  options : List (Text × Text)
  /-- All other words. -/
  operands : List Text

namespace Words

/-- Puts options in front. -/
def addOptions (given : List (Text × Text)) (words : Words) : Words :=
  { words with options := given ++ words.options }

/-- Puts an operand in front. -/
def addOperand (operand : Text) (words : Words) : Words :=
  { words with operands := operand :: words.operands }

/-- **What one word is.** -/
inductive Reading where
  /-- Options, of which the last may still need its value. -/
  | options (given : List (Text × Text)) (waiting? : Option Text)
  /-- An operand. -/
  | operand
  /-- The end of the options. -/
  | divider
  /-- An option that does not exist, or that is given a value without taking one. -/
  | wrong

def spelling? (spellings : List Spelling) (text : Text) : Option Spelling :=
  spellings.find? (·.text = text)

/-- The short options that share a word. -/
def shortOptions (spellings : List Spelling) : List Rune → List (Text × Text) → Reading
  | [], given => .options given none
  | letter :: rest, given =>
    let name : Text := ['-', letter]
    match spelling? spellings name with
    | none => .wrong
    | some spelling =>
      if !spelling.takesValue then shortOptions spellings rest (given ++ [(name, [])])
      else if rest.isEmpty then .options given (some name)
      else .options (given ++ [(name, rest)]) none

/-- A long option, which may have its value after an equals sign. -/
def longOption (spellings : List Spelling) (word : Text) : Reading :=
  let name := word.before '='
  match spelling? spellings name, word.after? '=' with
  | none, _ => .wrong
  | some spelling, none =>
    if spelling.takesValue then .options [] (some name) else .options [(name, [])] none
  | some spelling, some value =>
    if spelling.takesValue then .options [(name, value)] none else .wrong

/-- **What a word is.**  A hyphen alone is an operand. -/
def reading (spellings : List Spelling) (word : Text) : Reading :=
  if word = "--" then .divider
  else if word.startsWith "--" then longOption spellings word
  else
    match word with
    | hyphen :: letter :: letters =>
      if hyphen = '-' then shortOptions spellings (letter :: letters) [] else .operand
    | _ => .operand

/-- The words after those that have been read.  `waiting?` is the option that the next word belongs
to, `mixed` says whether options may follow operands. -/
def after (spellings : List Spelling) (mixed : Bool) :
    Option Text → List Text → Except Refusal Words
  | none, [] => .ok ⟨[], []⟩
  | some _, [] => .error .misuse
  | some name, value :: rest =>
    (after spellings mixed none rest).map (addOptions [(name, value)])
  | none, word :: rest =>
    match reading spellings word with
    | .options given waiting? => (after spellings mixed waiting? rest).map (addOptions given)
    | .operand =>
      if mixed then (after spellings mixed none rest).map (addOperand word)
      else .ok ⟨[], word :: rest⟩
    | .divider => .ok ⟨[], rest⟩
    | .wrong => .error .misuse

/-- **Options and operands of a command line.** -/
def ofList (spellings : List Spelling) (mixed : Bool) (words : List Text) : Except Refusal Words :=
  after spellings mixed none words

/-- Whether a switch is given. -/
def has (words : Words) (name : Text) : Bool := words.options.any (·.1 = name)

/-- The last value given for an option under any of its names. -/
def last? (words : Words) (names : List Text) : Option Text :=
  (words.options.reverse.find? fun (name, _) => names.contains name).map Prod.snd

/-- Which of two opposite switches is given last, as whether it is the first one. -/
def choice? (words : Words) (on off : Text) : Option Bool :=
  (words.options.reverse.find? fun (name, _) => name = on || name = off).map fun (name, _) =>
    name = on

end Words

end LoadPlan.CommandLine
