import ComputerRoom.Config.File
import ComputerRoom.Config.Location
import ComputerRoom.Double.Shortest
import ComputerRoom.Network.Arp
import ComputerRoom.Simulation.Bench
import ComputerRoom.Simulation.Classroom
import ComputerRoom.Proofs.Endpoint.Link
import ComputerRoom.Proofs.Endpoint.Handshake
import ComputerRoom.Proofs.Endpoint.Dispatch
import ComputerRoom.Proofs.Endpoint.Generation
import ComputerRoom.Proofs.Simulation.Settlement
import ComputerRoom.Proofs.Simulation.World
import ComputerRoom.Proofs.Room.Turns
import ComputerRoom.Proofs.Simulation.Ledger
import ComputerRoom.Proofs.Config.File
import ComputerRoom.Proofs.Simulation.Demo
import ComputerRoom.Proofs.User.History
import ComputerRoom.Proofs.Endpoint.Liveness
import ComputerRoom.Proofs.Simulation.DemoEnd
import ComputerRoom.Proofs.Simulation.DemoStart
import ComputerRoom.Proofs.Endpoint.Following
import ComputerRoom.Proofs.Endpoint.Polling
import ComputerRoom.Proofs.Room.Selection
import ComputerRoom.Proofs.Tracking
import ComputerRoom.Proofs.Endpoint.Viewing
import ComputerRoom.Proofs.User.Queries
import ComputerRoom.Proofs.Simulation.Lookups
import ComputerRoom.Proofs.Simulation.Lasting
import ComputerRoom.Proofs.Simulation.Teacher
import ComputerRoom.Proofs.Simulation.Independence
import ComputerRoom.Proofs.Endpoint.Readiness
import ComputerRoom.Proofs.Endpoint.Admission
import ComputerRoom.Proofs.Simulation.Usernames
import ComputerRoom.Proofs.Flips
import ComputerRoom.Proofs.User.LoginName
import ComputerRoom.Proofs.Text.LowerCase
import ComputerRoom.Proofs.User.Privacy
import ComputerRoom.Proofs.Text.Hex
import ComputerRoom.Proofs.Text.Utf8
import ComputerRoom.Proofs.HardwareAddress.Reading
import ComputerRoom.Proofs.HardwareAddress.Waking
import ComputerRoom.Proofs.Text.Layout
import ComputerRoom.Proofs.Network.Arp
import ComputerRoom.Proofs.Network.Address
import ComputerRoom.Proofs.Endpoint.Waking
import ComputerRoom.Proofs.Path
import ComputerRoom.Proofs.FileTree.Growth
import ComputerRoom.Proofs.Config.Saving
import ComputerRoom.Proofs.Directory.Scope
import ComputerRoom.Proofs.Network.Sources
import ComputerRoom.Proofs.Simulation.DemoRecord
import ComputerRoom.Proofs.Config.Partial
