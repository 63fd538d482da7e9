import ComputerRoom.Config.Basic
import ComputerRoom.Directory.Record

/-! Whose screen may not be captured. -/

namespace ComputerRoom

/-- The groups whose members are hidden, by trimmed lower-case name, and whether teachers are. -/
structure PrivacyRule where
  groups : List String
  hidesTeachers : Bool
  deriving Repr, DecidableEq

namespace PrivacyRule

/-- The rule that conceals the members of some groups; blank group names are left out. -/
def ofGroups (groups : List String) (hidesTeachers : Bool) : PrivacyRule :=
  ⟨(groups.map fun group => Text.lower (Text.trim group)).filter (· != ""), hidesTeachers⟩

/-- The rule that a configuration asks for. -/
def ofConfig (screenshots : Config.Screenshots) : PrivacyRule :=
  ofGroups screenshots.hiddenGroups screenshots.hidesTeachers

/-- Whether the screen of an account's owner is hidden. -/
def conceals (rule : PrivacyRule) (account : Account) : Bool :=
  account.groups.any rule.groups.contains || (rule.hidesTeachers && account.isTeacher)

end PrivacyRule

end ComputerRoom
