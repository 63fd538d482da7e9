import ComputerRoom.Path

/-! A tree of folders and plain files. -/

namespace ComputerRoom

/-- What stands at a place: a folder, or a file and its octets. -/
inductive FileEntry where
  | folder
  | file (content : ByteArray)

/-- Why a path cannot be used. -/
inductive FileProblem where
  | missing
  /-- Something on the way is a plain file. -/
  | blocked
  | isFolder
  /-- A text that is no path, or a name that is too long. -/
  | unusable
  deriving Repr, DecidableEq

/-- The folders and files of a tree by the names that lead to them from its top. -/
structure FileTree where
  entries : List (List String × FileEntry)

namespace FileTree

/-- The tree without any folder or file. -/
def empty : FileTree := ⟨[]⟩

/-- What stands at a place; the top is a folder. -/
def entry? (tree : FileTree) (place : List String) : Option FileEntry :=
  if place.isEmpty then some .folder else tree.entries.lookup place

/-- Whether a folder stands at a place. -/
def isFolder (tree : FileTree) (place : List String) : Bool :=
  match tree.entry? place with
  | some .folder => true
  | _ => false

/-- Puts an entry at a place. -/
def put (tree : FileTree) (place : List String) (entry : FileEntry) : FileTree :=
  ⟨tree.entries.filter (fun (other, _) => other != place) ++ [(place, entry)]⟩

/-- The names along a path, if a text can be one. -/
def namesOf (path : String) : Except FileProblem (List String) :=
  if !Path.isUsable path then .error .unusable
  else if path.isEmpty then .error .missing
  else .ok (Path.names path)

/-- The place that names lead to from another one. The top lies in itself. -/
def walk (tree : FileTree) (place : List String) : List String → Except FileProblem (List String)
  | [] => .ok place
  | name :: rest =>
    -- Behind a file, not even a name that stands for no step is passed.
    if !tree.isFolder place then .error .blocked
    else if Path.isIdle name then tree.walk place rest
    else if name == ".." then tree.walk place.dropLast rest
    else if Path.isTooLong name then .error .unusable
    else if (tree.entry? (place ++ [name])).isSome then tree.walk (place ++ [name]) rest
    else .error .missing

/-- The octets of the file at a path. -/
def read (tree : FileTree) (path : String) : Except FileProblem ByteArray := do
  let place ← tree.walk [] (← namesOf path)
  match tree.entry? place with
  | none => .error .missing
  | some .folder => .error .isFolder
  | some (.file content) => .ok content

/-- The place where a file of a path stands or would stand, in a folder that is there. -/
def filePlace (tree : FileTree) (path : String) : Except FileProblem (List String) := do
  let names ← namesOf path
  let folder ← tree.walk [] names.dropLast
  let name := names.getLast?.getD ""
  if !tree.isFolder folder then .error .blocked
  -- No file can take the place of a folder, nor a name that always stands for one.
  else if Path.isIdle name || name == ".." || tree.isFolder (folder ++ [name]) then
    .error .isFolder
  else if Path.isTooLong name then .error .unusable
  else .ok (folder ++ [name])

/-- Writes a file in a folder that is there. -/
def write (tree : FileTree) (path : String) (content : ByteArray) :
    Except FileProblem FileTree := do
  return tree.put (← tree.filePlace path) (.file content)

/-- Makes the folders that names lead through from a place, as far as they are missing. -/
def makeAlong (tree : FileTree) (place : List String) :
    List String → Except FileProblem Unit × FileTree
  | [] => (.ok (), tree)
  | name :: rest =>
    if Path.isIdle name then tree.makeAlong place rest
    else if name == ".." then tree.makeAlong place.dropLast rest
    else if Path.isTooLong name then (.error .unusable, tree)
    else
      match tree.entry? (place ++ [name]) with
      | none => (tree.put (place ++ [name]) .folder).makeAlong (place ++ [name]) rest
      | some .folder => tree.makeAlong (place ++ [name]) rest
      | some (.file _) => (.error .blocked, tree)

/-- Makes the folder at a path and those on the way; those made before a problem stay. -/
def makeFolders (tree : FileTree) (path : String) : Except FileProblem Unit × FileTree :=
  match namesOf path with
  | .error problem => (.error problem, tree)
  | .ok names => tree.makeAlong [] names

end FileTree

end ComputerRoom
