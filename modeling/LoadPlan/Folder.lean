import LoadPlan.Fault
import LoadPlan.Text.Stream

/-!
# Folders

The part of a file system that a run can see.

* `Path` — a path as it is written: the names between its slashes.
* `Place` — where a path leads, counted from the working directory.
* `Folder` — what stands at which place.
* `Folder.walk`, `Folder.look` — following a path.  Every name but the last has to be a directory,
  and names and paths are limited in length.
* `Folder.readOctets`, `Folder.readText` — the bytes and the text of a file.
* `Folder.write` — a file with the directories that lead to it.
-/

namespace LoadPlan

/-! ## Paths -/

/-- The number of bytes of a code point in UTF-8. -/
def Rune.octetCount (r : Rune) : Nat :=
  if r.code < 0x80 then 1 else if r.code < 0x800 then 2 else if r.code < 0x10000 then 3 else 4

/-- The number of bytes of a text in UTF-8. -/
def Text.octetCount (t : Text) : Nat := t.foldl (fun count r => count + r.octetCount) 0

/-- The character that ends a path; no path can hold it. -/
def pathEnd : Rune := '\x00'

/-- **A path.** -/
structure Path where
  /-- Whether it begins at the root of the file system. -/
  isAbsolute : Bool
  /-- The names between its slashes.  An empty name and a single point lead nowhere. -/
  steps : List Text

namespace Path

def ofText (t : Text) : Path :=
  if t.startsWith "/" then ⟨true, Text.splitOn '/' (t.drop 1)⟩ else ⟨false, t.splitOn '/'⟩

def written (path : Path) : Text :=
  (if path.isAbsolute then Text.ofString "/" else []) ++ Text.join "/" path.steps

/-- The most bytes that a name can have. -/
def nameLimit : Nat := 255

/-- The most bytes that a path can have. -/
def limit : Nat := 4095

def isLongName (name : Text) : Bool := nameLimit < name.octetCount

/-- Whether a path as a whole is too long. -/
def isLong (path : Path) : Bool := limit < path.written.octetCount

/-- Whether a name leads nowhere. -/
def isIdle (name : Text) : Bool := name.isEmpty || name = "."

/-- A path without the names that lead nowhere. -/
def tidy (path : Path) : Path := ⟨path.isAbsolute, path.steps.filter (!isIdle ·)⟩

/-- The text of a path below a directory. -/
def shown (directory : Text) (path : Path) : Text :=
  if path.isAbsolute then "/" ++ Text.join "/" path.steps
  else Text.join "/" (directory :: path.steps)

/-- **The suffix of a file name**, from its last point on.  A point at the beginning or at the end
of a name does not begin a suffix. -/
def suffix? (path : Path) : Option Text :=
  let name : Text := (path.tidy.steps.getLast?).getD []
  let ending := name.afterLast '.'
  let stem := name.take (name.length - ending.length - 1)
  if ending.isEmpty || stem.isEmpty then none else some (('.' : Rune) :: ending)

end Path

/-! ## Places -/

/-- **A place**, as the names that lead to it from the working directory.  Names for one level up
stand in front, and the root of the file system is a name of its own. -/
abbrev Place := List Text

namespace Place

/-- The root of the file system. -/
def root : Place := ["/"]

/-- Whether a place is the working directory or lies on the way from there to the root. -/
def isAbove (place : Place) : Bool := place.all (· = "..")

def up (place : Place) : Place :=
  if place = root then root
  else if isAbove place then place ++ [(".." : Text)]
  else place.dropLast

def step (place : Place) (name : Text) : Place :=
  if Path.isIdle name then place else if name = ".." then place.up else place ++ [name]

def start (path : Path) : Place := if path.isAbsolute then root else []

/-- The places that a path passes through, the last one included. -/
def along (path : Path) : List Place :=
  (path.steps.foldl (fun (here, passed) name => (here.step name, here.step name :: passed))
    (start path, [])).2

def shown (place : Place) : Text :=
  match place with
  | [] => "."
  | _ => Text.join "/" place

end Place

/-! ## Folders -/

/-- **What stands at a place.** -/
inductive Entry where
  /-- A directory. -/
  | directory
  /-- A file with its bytes. -/
  | file (octets : List Nat)

/-- **A folder**: what is known of a file system. -/
structure Folder where
  /-- What stands at which place; of several entries for one place the first counts. -/
  entries : List (Place × Entry)

namespace Folder

/-- The folder with some files, and with the directories that lead to them. -/
def ofFiles (files : List (Text × List Nat)) : Folder where
  entries := files.flatMap fun (name, octets) =>
    let place := (Path.ofText name).tidy.steps
    (place, Entry.file octets)
      :: (List.range place.length).map fun n => (place.take n, Entry.directory)

/-- What stands at a place.  The working directory and all that lies above it are directories. -/
def entry? (folder : Folder) (place : Place) : Option Entry :=
  if place.isAbove || place = Place.root then some .directory
  else (folder.entries.find? fun (other, _) => other = place).map Prod.snd

def set (folder : Folder) (place : Place) (entry : Entry) : Folder :=
  ⟨(place, entry) :: folder.entries⟩

/-- The place that names lead to.  There is none when one of them does not start from a
directory. -/
def walk (folder : Folder) : Place → List Text → Except Fault (Option Place)
  | place, [] => .ok (some place)
  | place, name :: names =>
    match folder.entry? place with
    | some .directory =>
      if Path.isLongName name then .error .nameTooLong else folder.walk (place.step name) names
    | _ => .ok none

/-- **What stands at the end of a path.** -/
def look (folder : Folder) (path : Path) : Except Fault (Option Entry) :=
  if pathEnd ∈ path.written then .ok none
  else if path.isLong then .error .nameTooLong
  else (folder.walk (Place.start path) path.steps).map fun place => place.bind folder.entry?

/-- What a text leads to, as far as it leads anywhere.  The empty text does not. -/
def find? (folder : Folder) (t : Text) : Option Entry :=
  if t.isEmpty then none else (folder.look (Path.ofText t)).toOption.join

def hasFile (folder : Folder) (t : Text) : Bool :=
  match folder.find? t with
  | some (.file _) => true
  | _ => false

def hasDirectory (folder : Folder) (t : Text) : Bool :=
  match folder.find? t with
  | some .directory => true
  | _ => false

/-! ## Reading -/

/-- The bytes of a file. -/
def readOctets (folder : Folder) (path : Path) : Except Fault (List Nat) := do
  match ← folder.look path with
  | none => throw .missingFile
  | some .directory => throw .isDirectory
  | some (.file octets) => return octets

/-- **The text of a file.** -/
def readText (folder : Folder) (path : Path) : Except Fault (List Char) := do
  match Utf8.decode (← folder.readOctets path) with
  | .ok source => return unifyLineEnds source
  | .error flaw => throw (.notUtf8 flaw)

/-! ## Writing -/

/-- Makes the directories that names lead through, where they are missing. -/
def makeDirectories : Folder → Place → List Text → Except Fault (Folder × Place)
  | folder, place, [] => .ok (folder, place)
  | folder, place, name :: names =>
    let next := place.step name
    if Path.isLongName name then .error .nameTooLong
    else
      match folder.entry? next with
      | some .directory => makeDirectories folder next names
      | some (.file _) => .error (if names.isEmpty then .fileExists else .notDirectory)
      | none => makeDirectories (folder.set next .directory) next names

/-- Writes a file of a name in a directory, and gives its place. -/
def writeIn (folder : Folder) (directory : Place) (name : Text) (octets : List Nat) :
    Except Fault (Folder × Place) :=
  let place := directory.step name
  if Path.isLongName name then .error .nameTooLong
  else
    match folder.entry? place with
    | some .directory => .error .isDirectory
    | _ => .ok (folder.set place (.file octets), place)

/-- **The folder after a file has been written**, and the place of the file. -/
def write (folder : Folder) (path : Path) (octets : List Nat) : Except Fault (Folder × Place) := do
  let path := path.tidy
  let parent : Path := ⟨path.isAbsolute, path.steps.dropLast⟩
  if parent.isLong then throw .nameTooLong
  let (made, directory) ← folder.makeDirectories (Place.start path) parent.steps
  if path.isLong then throw .nameTooLong
  match path.steps.getLast? with
  | none => throw .isDirectory
  | some name => made.writeIn directory name octets

end Folder

end LoadPlan
