import LoadPlan.Plan.Reference
import LoadPlan.Proofs.Text.Cutting

/-!
# Paths with parameters

A path is literals and parameters in turn, and what is made of it has a variable in the place of each
parameter.

* `closeBrace?_append` — a name ends at the first closing brace.
* `templatePath_append`, `templatePath_braced` — what a path begins with, a literal or a parameter, is passed
  by itself, whatever follows.
* `PathTemplate` — literals and parameters in turn.
* **`templatePath_spell`** — the parameters of a path become variables, and nothing else of it changes;
`templatePath_spell_neighbours` — so it is where they stand next to each other.
-/

namespace LoadPlan

/-! ## What a path begins with -/

/-- A name between braces. -/
def braced (name : Text) : Text := ('\x7b' : Rune) :: (name ++ [('\x7d' : Rune)])

lemma braced_append (name rest : Text) :
    braced name ++ rest = ('\x7b' : Rune) :: (name ++ ('\x7d' : Rune) :: rest) := by
  rw [braced, List.cons_append, List.append_assoc, List.singleton_append]

section

variable {literal name : Text}

/-- A name ends at the first closing brace. -/
lemma closeBrace?_append (hne : name ≠ []) (hbrace : ('\x7d' : Rune) ∉ name) (rest : Text) :
    closeBrace? (name ++ ('\x7d' : Rune) :: rest) = some (name, rest) := by
  obtain ⟨hbefore, hafter⟩ := Text.cut_append hbrace rest
  rw [closeBrace?, hbefore, hafter]
  cases name with
  | nil => exact absurd rfl hne
  | cons r name => rfl

/-- No parameter begins in a literal. -/
lemma templatePath_append (h : ('\x7b' : Rune) ∉ literal) (rest : Text) :
    templatePath (literal ++ rest) = literal ++ templatePath rest := by
  induction literal with
  | nil => rfl
  | cons r literal ih =>
      rw [List.mem_cons, not_or] at h
      rw [List.cons_append, templatePath, if_neg (Ne.symm h.1), ih h.2, List.cons_append]

/-- A parameter becomes a variable.  Its name may hold opening braces, since it goes on to the first
closing one. -/
lemma templatePath_braced (hne : name ≠ []) (hbrace : ('\x7d' : Rune) ∉ name) (rest : Text) :
    templatePath (braced name ++ rest) = variableRef name ++ templatePath rest := by
  rw [braced_append, templatePath, if_pos rfl]
  split
  · rename_i found after hclose
    rw [closeBrace?_append hne hbrace, Option.some.injEq, Prod.mk.injEq] at hclose
    obtain ⟨rfl, rfl⟩ := hclose
    rfl
  · rename_i hclose
    rw [closeBrace?_append hne hbrace] at hclose
    cases hclose

end

/-! ## Literals and parameters in turn -/

/-- A piece of a path in which no parameter begins.  It may hold closing braces and dollar signs. -/
structure PathLiteral where
  /-- What it is. -/
  text : Text
  /-- There is no opening brace in it. -/
  no_open : ('\x7b' : Rune) ∉ text

/-- The name of a parameter of a path.  It may hold opening braces. -/
structure PathParameter where
  /-- What it is. -/
  name : Text
  /-- There is something in it. -/
  ne_nil : name ≠ []
  /-- There is no closing brace in it. -/
  no_close : ('\x7d' : Rune) ∉ name

/-- **A path with parameters**: a literal, and then parameters each with the literal that follows it.
Literals may be empty, so parameters may be neighbours or stand at the ends. -/
structure PathTemplate where
  /-- The literal in front of the parameters. -/
  start : PathLiteral
  /-- The parameters, each with the literal that follows it. -/
  rest : List (PathParameter × PathLiteral)

namespace PathTemplate

/-- Parameters with the literals that follow them, by a way to write names. -/
def spellRest (write : Text → Text) : List (PathParameter × PathLiteral) → Text
  | [] => []
  | (parameter, literal) :: rest => write parameter.name ++ (literal.text ++ spellRest write rest)

/-- **The text of a path with parameters**, by a way to write the names of these. -/
def spell (write : Text → Text) (template : PathTemplate) : Text :=
  template.start.text ++ spellRest write template.rest

lemma templatePath_spellRest (rest : List (PathParameter × PathLiteral)) :
    templatePath (spellRest braced rest) = spellRest variableRef rest := by
  induction rest with
  | nil => rw [spellRest, spellRest, templatePath]
  | cons piece rest ih =>
      obtain ⟨parameter, literal⟩ := piece
      calc templatePath (braced parameter.name ++ (literal.text ++ spellRest braced rest))
          = variableRef parameter.name ++ templatePath (literal.text ++ spellRest braced rest) :=
            templatePath_braced parameter.ne_nil parameter.no_close _
        _ = variableRef parameter.name ++ (literal.text ++ spellRest variableRef rest) := by
            rw [templatePath_append literal.no_open, ih]

/-- **The parameters of a path become variables**, in their places, and nothing else of it changes. -/
theorem templatePath_spell (template : PathTemplate) :
    templatePath (template.spell braced) = template.spell variableRef := by
  rw [spell, spell, templatePath_append template.start.no_open, templatePath_spellRest]

/-- A path with two neighbouring parameters, the first of which has a brace in its name, and with a dollar sign
and a closing brace in the literal that follows them. -/
def neighbours : PathTemplate where
  start := ⟨"/a/", by decide⟩
  rest := [ (⟨"x\x7by", by decide, by decide⟩, ⟨[], by decide⟩),
    (⟨"z", by decide, by decide⟩, ⟨"/$\x7d", by decide⟩) ]

/-- Both parameters become variables, and the braces and the dollar sign that are not theirs stay. -/
theorem templatePath_spell_neighbours :
    neighbours.spell braced = "/a/\x7bx\x7by\x7d\x7bz\x7d/$\x7d" ∧
      templatePath (neighbours.spell braced) = "/a/$\x7bx\x7by\x7d$\x7bz\x7d/$\x7d" :=
  ⟨rfl, templatePath_spell neighbours⟩

end PathTemplate

end LoadPlan
