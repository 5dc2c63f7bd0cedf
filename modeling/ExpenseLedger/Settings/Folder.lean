/-!
# Folders

A folder holds files at some depth, each with its text. A name is followed part by part from the
folder down: every part but the last has to lead to a folder, an empty part and a single dot stay
where they are, two dots go up. No name leads out of the folder.
-/

namespace ExpenseLedger

/-- The parts of a name, between its slashes. -/
abbrev NameParts : Type := List String

/-- A folder. -/
structure Folder where
  /-- The files: the parts of their names from the folder down, and their texts. -/
  files : List (NameParts × String)

namespace Folder

/-! ## Names -/

/-- The parts of a name. -/
def parts (name : String) : NameParts := (name.toList.splitOn '/').map String.ofList

/-- The part stays where it is. -/
def stays (part : String) : Bool := part = "" || part = "."

/-- Where a part leads from a place, if all folders exist. -/
def next (place : NameParts) (part : String) : NameParts :=
  if stays part then place
  else if part = ".." then place.dropLast
  else place ++ [part]

/-- The folder of files with the given names and texts. -/
def ofNames (files : List (String × String)) : Folder :=
  ⟨files.map fun f => ((parts f.1).foldl next [], f.2)⟩

/-! ## Places -/

variable (d : Folder)

/-- There is a folder at the place: the folder itself, or one that holds a file. -/
def isFolder (place : NameParts) : Bool :=
  place.isEmpty || d.files.any fun f => place.isPrefixOf f.1 && place.length < f.1.length

/-- Goes from a place to where a part leads, unless the place is no folder or the part leads out. -/
def step? (place : NameParts) (part : String) : Option NameParts :=
  if !d.isFolder place || (part = ".." && place.isEmpty) then none else some (next place part)

/-- The text of the file at a place. -/
def textAt? (place : NameParts) : Option String :=
  (d.files.find? fun f => f.1 = place).map (·.2)

/-- The text of the file with a name. A name that begins with a slash leads out of the folder. -/
def text? (name : NameParts) : Option String := do
  if name.head? = some "" then none
  d.textAt? (← name.foldlM d.step? [])

end Folder

end ExpenseLedger
