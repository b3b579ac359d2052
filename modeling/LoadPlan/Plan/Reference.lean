import LoadPlan.Json.Writer
import LoadPlan.Operation
import LoadPlan.Schema.Sample

/-!
# References to variables

Texts in a plan that are filled in when it runs.

* `variableRef` — the value of a variable.
* `propertyRef` — the value of a property that can be set from outside, with a default.
* `templatePath` — a path in which each parameter between braces becomes a variable.
* `Parameter.reference` — the value of a parameter.
* `Parameter.argumentText` — the text that a value is sent as.
-/

namespace LoadPlan

def variableRef (name : Text) : Text := "$\x7b" ++ name ++ "\x7d"

/-- **The value of a property**, with a default. -/
def propertyRef (name default : Text) : Text :=
  "$\x7b__P(" ++ name ++ "," ++ default ++ ")\x7d"

/-- Whether a text has a closing brace after at least one other character; then what stands before
it and what stands after it. -/
def closeBrace? (t : Text) : Option (Text × Text) :=
  match t.before '\x7d', t.after? '\x7d' with
  | [], _ => none
  | name, some rest => some (name, rest)
  | _, none => none

theorem Text.length_after? {separator : Rune} {t rest : Text} (h : t.after? separator = some rest) :
    rest.length < t.length := by
  induction t with
  | nil => simp [after?] at h
  | cons c more ih =>
    unfold after? at h
    split at h
    · simp only [Option.some.injEq] at h
      subst h
      simp
    · have := ih h
      simp
      omega

theorem length_closeBrace? {t name rest : Text} (h : closeBrace? t = some (name, rest)) :
    rest.length < t.length := by
  unfold closeBrace? at h
  split at h
  · simp at h
  · rename_i found _
    simp only [Option.some.injEq, Prod.mk.injEq] at h
    exact h.2 ▸ Text.length_after? found
  · simp at h

/-- **A path with variables in place of its parameters.**  A parameter begins at the first opening
brace that a closing one follows, with something between them. -/
def templatePath : Text → Text
  | [] => []
  | c :: rest =>
    if c = '\x7b' then
      match h : closeBrace? rest with
      | some (name, after) =>
        have := length_closeBrace? h
        variableRef name ++ templatePath after
      | none => c :: templatePath rest
    else c :: templatePath rest
termination_by t => t.length

/-- **The text that a value is sent as**: a text as it is, anything else as JSON. -/
def argumentText (value : Value) : Except Fault Text :=
  match value.jsonSafe with
  | .text t => .ok t
  | safe => Json.compact safe

/-- The value of a parameter: a variable, or a property whose default is the example.  In the
default a comma has to be escaped. -/
def Parameter.reference (parameter : Parameter) : Except Fault Text :=
  match parameter.sample with
  | .null => .ok (variableRef parameter.name)
  | value => (argumentText value).map fun t => propertyRef parameter.name (t.replace "," "\\,")

end LoadPlan
