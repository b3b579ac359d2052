import LoadPlan.CommandLine.Session
import LoadPlan.Yaml.Document

/-!
# The program

* `lookAt` — what is known of the paths that the arguments can name.
* `main` — a run in the working directory.
-/

namespace LoadPlan

open CommandLine

/-- What stands at a place of the file system. -/
def entryAt (place : Place) : IO (Option Entry) := do
  let path := (← IO.currentDir) / place.shown.toString
  if ← path.isDir then return some .directory
  if ← path.pathExists then
    let octets ← IO.FS.readBinFile path
    return some (.file (octets.toList.map UInt8.toNat))
  return none

/-- **The folder of a call**: what stands on the way to each of its paths. -/
def lookAt (call : Call) : IO Folder := do
  let mut entries : List (Place × Entry) := []
  for path in call.paths do
    for place in Place.along (Path.ofText path) do
      match ← entryAt place with
      | some entry => entries := (place, entry) :: entries
      | none => pure ()
  return ⟨entries⟩

/-- The folder of a command line; it matters only where there is a call. -/
def folderOf (arguments : List Text) : IO Folder :=
  match Call.ofArguments arguments with
  | .ok call => lookAt call
  | .error _ => return ⟨[]⟩

/-- Writes the file of a session, with the directories that lead to it. -/
def deliverFile (place : Place) (text : Text) : IO Unit := do
  let directory : Place := place.dropLast
  if !directory.isAbove then IO.FS.createDirAll directory.shown.toString
  IO.FS.writeFile place.shown.toString text.toString

/-- The message for a run that has been broken off. -/
def faultMessage : Fault → Text
  | .spec fault => fault.message
  | .config fault => fault.message
  | .render fault => fault.message
  | .notUtf8 flaw => flaw.message
  | _ => "The run has been broken off by a value that cannot be used."

end LoadPlan

open LoadPlan
open LoadPlan.CommandLine

/-- **The program.** -/
def main (arguments : List String) : IO UInt32 := do
  let words := arguments.map Text.ofString
  let directory ← IO.currentDir
  let session := run Yaml.reader (← folderOf words) (Text.ofString directory.toString) words
  if let some (place, text) := session.written? then deliverFile place text
  IO.print session.output.toString
  for item in session.items do
    for line in item.lines do
      IO.println line.toString
  if let some fault := session.fault? then IO.eprintln (faultMessage fault).toString
  return UInt32.ofNat session.exitCode
