import LoadPlan.Diagnostic

/-!
# The console

What a run tells the person at the terminal.

* `Styled` — a text of which some parts have a style.
* `Styled.marked`, `Styled.plain` — the same with its styles as marks in brackets, and without them.
* `Item` — what is shown at once: a line, a panel or a table.
* `Item.lines` — an item as lines of plain text.
-/

namespace LoadPlan.CommandLine

/-! ## Styled texts -/

/-- **A part of a text** that has a style or none. -/
structure Span where
  /-- The style. -/
  style? : Option Text
  /-- The text. -/
  text : Text

/-- **A text with styles.** -/
abbrev Styled := List Span

/-- A text without a style. -/
def plainly (text : Text) : Span := ⟨none, text⟩

def styled (style text : Text) : Span := ⟨some style, text⟩

/-- One part, with its style as marks around it. -/
def Span.marked (span : Span) : Text :=
  match span.style? with
  | none => span.text
  | some style => "[" ++ style ++ "]" ++ span.text ++ "[/" ++ style ++ "]"

namespace Styled

/-- **The text with its styles as marks.** -/
def marked (line : Styled) : Text := List.flatMap Span.marked line

def plain (line : Styled) : Text := List.flatMap Span.text line

end Styled

/-! ## Items -/

/-- **What is shown at once.** -/
inductive Item where
  /-- A text on lines of its own. -/
  | line (content : Styled)
  /-- A text in a frame with a title. -/
  | panel (title : Text) (content : Styled)
  /-- A table with a title. -/
  | table (title : Text) (columns : List Text) (rows : List (List Styled))

namespace Item

/-- A text filled up with blanks. -/
def padded (width : Nat) (t : Text) : Text :=
  t ++ List.replicate (width - t.length) (' ' : Rune)

/-- The width of every column of a table. -/
def widths (rows : List (List Text)) : List Nat :=
  rows.foldl (fun known row =>
    (List.range (max known.length row.length)).map fun i =>
      max (known.getD i 0) ((row.map List.length).getD i 0)) []

def rowText (columnWidths : List Nat) (row : List Text) : Text :=
  Text.join "  " (List.zipWith padded columnWidths row)

/-- **The lines of an item.** -/
def lines : Item → List Text
  | line content => [Styled.plain content]
  | panel title content => [title, Styled.plain content]
  | table title columns rows =>
    let all := columns :: rows.map fun row => row.map Styled.plain
    title :: all.map (rowText (widths all))

end Item

/-! ## Diagnostics -/

/-- The severity of a remark in its colour. -/
def severityCell (diagnostic : Diagnostic) : Styled :=
  if diagnostic.severity = .error then [styled "red" "error"] else [styled "yellow" "warning"]

def diagnosticRow (diagnostic : Diagnostic) : List Styled :=
  [ severityCell diagnostic, [plainly diagnostic.code], [plainly diagnostic.context],
    [plainly diagnostic.message] ]

/-- **The table of remarks**, after an empty line; nothing when there are none. -/
def diagnosticItems (diagnostics : List Diagnostic) : List Item :=
  if diagnostics.isEmpty then []
  else
    [ .line [],
      .table "Diagnostics" ["Severity", "Code", "Context", "Message"]
        (diagnostics.map diagnosticRow) ]

/-- The line that says why a run has failed. -/
def failureLine (heading message : Text) : Item :=
  .line [plainly "\n", styled "bold red" heading, plainly (" " ++ message)]

end LoadPlan.CommandLine
