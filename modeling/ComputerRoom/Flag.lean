/-! The named state flags that a machine reports. -/

namespace ComputerRoom

/-- A state of a machine that its agent reports by one bit. -/
inductive Flag where
  | accessDialog
  | demoServer
  | demoClient
  | screenLock
  | inputLock
  | systemTrayIcon
  | messageBox
  deriving Repr, DecidableEq

namespace Flag

/-- Every flag, in the order of their bits. -/
def all : List Flag :=
  [accessDialog, demoServer, demoClient, screenLock, inputLock, systemTrayIcon, messageBox]

/-- The position of a flag's bit, counted from the lowest. -/
def index : Flag → Nat
  | accessDialog => 0
  | demoServer => 1
  | demoClient => 2
  | screenLock => 3
  | inputLock => 4
  | systemTrayIcon => 5
  | messageBox => 6

/-- The flag's name as it is shown. -/
def name : Flag → String
  | accessDialog => "access-dialog"
  | demoServer => "demo-server"
  | demoClient => "demo-client"
  | screenLock => "screen-lock"
  | inputLock => "input-lock"
  | systemTrayIcon => "system-tray-icon"
  | messageBox => "message-box"

/-- The flag's tag as records carry it. -/
def tag : Flag → String
  | accessDialog => "AccessDialog"
  | demoServer => "DemoServer"
  | demoClient => "DemoClient"
  | screenLock => "ScreenLock"
  | inputLock => "InputLock"
  | systemTrayIcon => "SystemTrayIcon"
  | messageBox => "MessageBox"

/-- The flag that a tag stands for. -/
def ofTag? (tag : String) : Option Flag :=
  all.find? fun flag => flag.tag == tag

end Flag

end ComputerRoom
