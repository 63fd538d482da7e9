import ComputerRoom.Config.Sections
import ComputerRoom.FileTree
import ComputerRoom.Toml.Document
import ComputerRoom.Toml.Print

/-! Loading a configuration from a file, and saving it to one. -/

namespace ComputerRoom

/-- Why a configuration could not be loaded or saved. -/
inductive ConfigFailure where
  /-- The path cannot be used. -/
  | file (path : String)
  | parse
  /-- A number is too large to be written. -/
  | serialize
  deriving Repr, DecidableEq

namespace Config

/-- Reads a configuration from a text. -/
def ofText? (text : String) : Option Config :=
  (Toml.document? text).bind (ofData? .any)

/-- Writes a configuration as a text, unless a number in it is too large. -/
def toText? (config : Config) : Option String :=
  Toml.printSections? config.toSections

/-- Loads the configuration at a path; a file that does not exist stands for the defaults. -/
def load (tree : FileTree) (path : String) : Except ConfigFailure Config :=
  match tree.read path with
  | .error .missing => .ok standard
  | .error _ => .error (.file path)
  | .ok content =>
    match String.fromUTF8? content with
    | none => .error (.file path)
    | some text =>
      match ofText? text with
      | none => .error .parse
      | some config => .ok config

/-- Makes the folder that a path lies in, unless the path names no other. -/
def makeParent (tree : FileTree) (path : String) : Except ConfigFailure Unit × FileTree :=
  match Path.parent? path with
  | none | some "" => (.ok (), tree)
  | some parent =>
    match tree.makeFolders parent with
    | (.error _, made) => (.error (.file parent), made)
    | (.ok (), made) => (.ok (), made)

/-- Saves a configuration at a path, making the folders on the way; tells what the tree became. -/
def save (tree : FileTree) (path : String) (config : Config) :
    Except ConfigFailure Unit × FileTree :=
  match makeParent tree path with
  | (.error failure, made) => (.error failure, made)
  | (.ok (), made) =>
    match config.toText? with
    | none => (.error .serialize, made)
    | some text =>
      match made.write path text.toUTF8 with
      | .error _ => (.error (.file path), made)
      | .ok written => (.ok (), written)

end Config

end ComputerRoom
