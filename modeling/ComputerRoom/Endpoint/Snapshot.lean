import ComputerRoom.Directory.RecordData
import ComputerRoom.Endpoint.Basic

/-! A view of an endpoint for those who show it. -/

namespace ComputerRoom

/-- What is shown of an endpoint. -/
structure Snapshot where
  name : String
  user : Option String
  teacher : Bool
  connection : Connection
  description : Option String
  ip : String
  mac : Option String
  platform : Platform
  screenLock : Option Bool
  inputLock : Option Bool
  demoServer : Option Bool
  demoClient : Option Bool
  messageBox : Option Bool
  deriving Repr, DecidableEq

/-- The view of an endpoint at present. -/
def Endpoint.snapshot (endpoint : Endpoint) : Snapshot where
  name := endpoint.name
  user := endpoint.username.current
  teacher := endpoint.teacher.current
  connection := endpoint.state.current
  description := endpoint.machine.description
  ip := endpoint.ip
  mac := endpoint.address.mac
  platform := endpoint.machine.platform
  screenLock := endpoint.flag .screenLock
  inputLock := endpoint.flag .inputLock
  demoServer := endpoint.flag .demoServer
  demoClient := endpoint.flag .demoClient
  messageBox := endpoint.flag .messageBox

/-- A truth value that may be unknown as data. -/
def Data.ofBoolean? : Option Bool → Data
  | none => .null
  | some value => .boolean value

/-- Writes a view; a machine is known to those who show it by its name. -/
def Snapshot.toData (view : Snapshot) : Data :=
  .record [("id", .text view.name), ("name", .text view.name), ("user", .ofText? view.user),
    ("teacher", .boolean view.teacher), ("connection", .text view.connection.name),
    ("description", .ofText? view.description), ("ip", .text view.ip), ("mac", .ofText? view.mac),
    ("objectType", view.platform.toData), ("ScreenLock", .ofBoolean? view.screenLock),
    ("InputLock", .ofBoolean? view.inputLock), ("DemoServer", .ofBoolean? view.demoServer),
    ("DemoClient", .ofBoolean? view.demoClient), ("MessageBox", .ofBoolean? view.messageBox)]

end ComputerRoom
