import LoadPlan.Config
import LoadPlan.Folder
import LoadPlan.Specification
import LoadPlan.Text.LetterCase

/-!
# Files that a run reads

* `Folder.readSource` — the text of a document and the suffix of its file name.
* `Specification.load` — the specification in a file.
* `Folder.readOptions` — the options in a file.
-/

namespace LoadPlan

/-- **The text of a document** and the suffix of its file name, which declares its format. -/
def Folder.readSource (folder : Folder) (name : Text) :
    Except Fault (List Char × Option Text) := do
  let path := (Path.ofText name).tidy
  let source ← folder.readText path
  return (source, path.suffix?.map Text.lower)

/-- **The specification in a file.**  `configured` is the address that requests go to when the
document gives none. -/
def Specification.load (reader : YamlReader) (folder : Folder) (name : Text) (configured : Value) :
    Except Fault Specification := do
  let (source, suffix?) ← folder.readSource name
  Specification.read reader source suffix? configured

/-- **The options in a file.**  An empty file has none. -/
def Folder.readOptions (reader : YamlReader) (folder : Folder) (name : Text) : Except Fault Entries := do
  let octets ← folder.readOctets (Path.ofText name)
  match reader.ofFile octets with
  | .error (.refused reason) => throw (.config (.unreadableFile name reason))
  | .error (.broken fault) => throw fault.fault
  | .ok .null => return []
  | .ok value =>
    match value.entries? with
    | some entries => return entries
    | none => throw (.config (.fileNotMapping name))

end LoadPlan
