import LoadPlan.Operation

/-!
# Groups of operations

* `Strategy` — the ways to group operations: by what they are filed under, or by where their path
  begins.
* `Operation.groupName` — the group of an operation.
* `Operation.group` — all groups, in the order of their first operation.
-/

namespace LoadPlan

/-- **A way to group operations.** -/
inductive Strategy where
  /-- By the first word an operation is filed under. -/
  | byTag
  /-- By the first part of its path. -/
  | byPath
deriving DecidableEq

namespace Strategy

def name : Strategy → Text
  | byTag => "by-tag"
  | byPath => "by-path"

def ofName? (name : Text) : Option Strategy :=
  if name = byTag.name then some byTag else if name = byPath.name then some byPath else none

end Strategy

namespace Operation

/-- **The group of an operation.**  Without a word other than blanks it is the group of all others,
and without a part of the path the group of the root. -/
def groupName (strategy : Strategy) (operation : Operation) : Text :=
  match strategy with
  | .byTag => (operation.tags.find? fun tag => !tag.isBlank).getD "Default"
  | .byPath => ((operation.path.splitOn '/').find? fun part => !part.isEmpty).getD "root"

abbrev Groups := List (Text × List Operation)

/-- Adds an operation to the group of a name, which is made if there is none. -/
def addTo (name : Text) (operation : Operation) : Groups → Groups
  | [] => [(name, [operation])]
  | (key, operations) :: rest =>
    if key = name then (key, operations ++ [operation]) :: rest
    else (key, operations) :: addTo name operation rest

/-- **The groups of some operations**, in the order of their first operation. -/
def group (strategy : Strategy) (operations : List Operation) : Groups :=
  operations.foldl
    (fun groups operation => addTo (operation.groupName strategy) operation groups) []

end Operation

end LoadPlan
