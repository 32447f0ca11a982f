import TableQuery.Error
import TableQuery.NameMap

/-!
Files and folders, and the places that paths lead to.

A path is a text of names separated by slashes. It is followed name by name, from the
root when it starts with a slash and else from the current folder. Empty names and
single dots lead nowhere, two dots lead back to the folder before, and every name but
the last must be that of a folder: `Disk.follow` fails at the first that is not. The
bytes written at a path are read back from it (`Disk.read_write`).
-/

namespace TableQuery

/-! ## Paths -/

namespace Path

/-- The names between the slashes of a path. -/
def names : List Char → List (List Char)
  | [] => [[]]
  | c :: rest =>
    if c = '/' then [] :: names rest
    else match names rest with
      | [] => [[c]]
      | name :: later => (c :: name) :: later

/-- The names of a path that lead somewhere. -/
def steps (path : String) : List String :=
  ((names path.toList).filter fun name => name ≠ [] ∧ name ≠ ['.']).map String.ofList

/-- Whether a path starts at the root. -/
def isAbsolute (path : String) : Bool :=
  path.toList.head? == some '/'

/-- The path of a name in a folder. A name that starts at the root is a path of its
own. -/
def inFolder (folder name : String) : String :=
  if isAbsolute name || folder == "" then name
  else if folder.toList.getLast? = some '/' then folder ++ name
  else folder ++ "/" ++ name

end Path

/-! ## Places -/

/-- A place on a disk: the names on the way to it from the root or from the current
folder. Nothing is above these two. -/
structure Place where
  fromRoot : Bool
  names : List String
deriving DecidableEq

namespace Place

/-- The folder that a place is in. -/
def parent (place : Place) : Place :=
  { place with names := place.names.dropLast }

/-- The last name on the way to a place. -/
def lastName (place : Place) : String :=
  place.names.getLastD ""

/-- The place that a name leads to. -/
def step (place : Place) (name : String) : Place :=
  if name = ".." then place.parent else { place with names := place.names ++ [name] }

/-- The shortest path of a place. -/
def path (place : Place) : String :=
  (if place.fromRoot then "/" else "") ++ "/".intercalate place.names

end Place

/-! ## Disks -/

/-- The files of a folder: their bytes by their names. -/
abbrev Folder := NameMap (List UInt8)

/-- What is at a place. -/
inductive DiskEntry
  | file (bytes : List UInt8)
  | folder
deriving DecidableEq

/-- The folders of a disk by the paths of their places. -/
structure Disk where
  folders : NameMap Folder
deriving DecidableEq

namespace Disk

/-- The disk with nothing but the root and the current folder. -/
def empty : Disk :=
  ⟨NameMap.ofList [("/", .empty), ("", .empty)]⟩

/-- What is at a place, if anything. -/
def at? (disk : Disk) (place : Place) : Option DiskEntry :=
  match disk.folders.get? place.path with
  | some _ => some .folder
  | none =>
    ((disk.folders.get? place.parent.path).bind (·.get? place.lastName)).map .file

/-- The place that some names lead to. Nothing need be at the place itself. -/
def follow (disk : Disk) (here : Place) : List String → Except FileFault Place
  | [] => .ok here
  | [name] => .ok (here.step name)
  | name :: rest =>
    match disk.at? (here.step name) with
    | some .folder => follow disk (here.step name) rest
    | some (.file _) => .error .notFolder
    | none => .error .missing

/-- The place that a path leads to. -/
def place (disk : Disk) (path : String) : Except FileFault Place :=
  disk.follow ⟨Path.isAbsolute path, []⟩ (Path.steps path)

/-- The bytes of the file at a path. -/
def read (disk : Disk) (path : String) : Except FileFault (List UInt8) := do
  match disk.at? (← disk.place path) with
  | some (.file bytes) => return bytes
  | some .folder => .error .isFolder
  | none => .error .missing

/-- The disk with a file at a path, in place of an earlier one. -/
def write (disk : Disk) (path : String) (bytes : List UInt8) : Except FileFault Disk := do
  let place ← disk.place path
  if disk.at? place = some .folder then .error .isFolder
  else
    match disk.folders.get? place.parent.path with
    | some folder =>
      let folder := folder.insert place.lastName bytes
      return ⟨disk.folders.insert place.parent.path folder⟩
    | none => .error .missing

/-- The disk with a folder at a path, unless something is there. -/
def addFolder (disk : Disk) (path : String) : Except FileFault Disk := do
  let place ← disk.place path
  if disk.at? place = none then return ⟨disk.folders.insert place.path .empty⟩
  else return disk

/-- The files in the folder at a path; none when no folder is there. -/
def filesIn (disk : Disk) (path : String) : Folder :=
  match disk.place path with
  | .ok place => (disk.folders.get? place.path).getD .empty
  | .error _ => .empty

/-! ## Reading what was written -/

/-- A folder is at a place exactly when the disk has one under its path. -/
theorem at?_eq_folder_iff {disk : Disk} {place : Place} :
    disk.at? place = some .folder ↔ (disk.folders.get? place.path).isSome := by
  unfold at?
  cases disk.folders.get? place.path with
  | some folder => simp
  | none =>
    cases (disk.folders.get? place.parent.path).bind (·.get? place.lastName) <;> simp

/-- What is written at a path goes in a folder that was there, and no folder is made. -/
theorem write_eq_ok {disk written : Disk} {path : String} {bytes : List UInt8} :
    disk.write path bytes = .ok written ↔
      ∃ place folder, disk.place path = .ok place ∧
        disk.folders.get? place.path = none ∧
        disk.folders.get? place.parent.path = some folder ∧
        ⟨disk.folders.insert place.parent.path (folder.insert place.lastName bytes)⟩ =
          written := by
  unfold Disk.write
  cases disk.place path with
  | error fault => simp [bind, Except.bind]
  | ok place =>
    have folderThere : disk.at? place = some .folder ↔ disk.folders.get? place.path ≠ none := by
      rw [at?_eq_folder_iff, Option.isSome_iff_ne_none]
    by_cases noFolder : disk.folders.get? place.path = none
    · cases parent : disk.folders.get? place.parent.path <;>
        simp [bind, Except.bind, pure, Except.pure, folderThere, noFolder, parent]
    · simp [bind, Except.bind, folderThere, noFolder]

/-- Names that can be followed lead to the same place on a disk with the same folders. -/
theorem follow_eq_of_folders {disk other : Disk}
    (same : ∀ place, other.at? place = some .folder ↔ disk.at? place = some .folder)
    {here place : Place} {names : List String}
    (followed : disk.follow here names = .ok place) : other.follow here names = .ok place := by
  fun_induction follow disk here names with
  | case1 => exact followed
  | case2 => exact followed
  | case3 here name rest notLast folder ih =>
    rw [follow, (same _).mpr folder]
    · exact ih followed
    · exact notLast
  | case4 => cases followed
  | case5 => cases followed

/-- A folder in place of an earlier one makes no other folder. -/
theorem at?_eq_folder_insert {disk : Disk} {path : String} {folder : Folder}
    (there : disk.folders.get? path = some folder) (changed : Folder) (place : Place) :
    Disk.at? ⟨disk.folders.insert path changed⟩ place = some .folder ↔
      disk.at? place = some .folder := by
  rw [at?_eq_folder_iff, at?_eq_folder_iff, NameMap.get?_insert]
  split
  · rename_i same
    simp [← same, there]
  · rfl

/-- The bytes written at a path are read back from it. -/
theorem read_write {disk written : Disk} {path : String} {bytes : List UInt8}
    (write : disk.write path bytes = .ok written) : written.read path = .ok bytes := by
  obtain ⟨place, folder, found, noFolder, parent, rfl⟩ := write_eq_ok.mp write
  have different : place.parent.path ≠ place.path := fun same => by
    rw [same, noFolder] at parent
    cases parent
  have folders := at?_eq_folder_insert parent (folder.insert place.lastName bytes)
  have again := follow_eq_of_folders folders found
  unfold Disk.read Disk.place
  rw [again]
  simp [bind, Except.bind, pure, Except.pure, at?, NameMap.get?_insert, different, noFolder]

end Disk

end TableQuery
