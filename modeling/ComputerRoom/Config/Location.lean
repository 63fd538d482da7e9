import ComputerRoom.Path

/-! Where the configuration file of a user lies. -/

namespace ComputerRoom.Config

/--
The path of the configuration file: below the user's configuration folder if one is set, even to
nothing, and otherwise below the usual one in the home folder.
-/
def location? (configHome home : Option String) : Option String :=
  let folder := match configHome with
    | some folder => some folder
    | none => home.map fun folder => Path.join folder ".config"
  folder.map fun folder => Path.join (Path.join folder "classroom-supervisor") "config.toml"

end ComputerRoom.Config
