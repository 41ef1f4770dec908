import Framelink.Address.Ip
import Framelink.Address.Literal
import Framelink.Address.Socket
import Framelink.BindCause
import Framelink.Bytes
import Framelink.Bytes.Document
import Framelink.Checksum
import Framelink.Decimal
import Framelink.Decimal.Shortest
import Framelink.Document.Access
import Framelink.Document.Basic
import Framelink.Duration
import Framelink.Failure.Basic
import Framelink.Failure.Code
import Framelink.Frame
import Framelink.Inbox
import Framelink.Json.Printer
import Framelink.Json.Reader
import Framelink.Link.Basic
import Framelink.Link.Reading
import Framelink.Link.Script
import Framelink.LinkError
import Framelink.LinkError.Document
import Framelink.Main
import Framelink.Network.Basic
import Framelink.Network.Fault
import Framelink.Network.Host
import Framelink.Network.Wire
import Framelink.Program.Discovery
import Framelink.Program.EchoServer
import Framelink.Program.FrameTour
import Framelink.Program.LineMonitor
import Framelink.Proofs.Address
import Framelink.Proofs.Aspect
import Framelink.Proofs.Bursts
import Framelink.Proofs.Calls
import Framelink.Proofs.Client.Connecting
import Framelink.Proofs.Client.Course
import Framelink.Proofs.Client.Opening
import Framelink.Proofs.Client.Scanning
import Framelink.Proofs.Client.Trying
import Framelink.Proofs.Client.Writing
import Framelink.Proofs.Codewords
import Framelink.Proofs.Datagrams
import Framelink.Proofs.Delivery
import Framelink.Proofs.Division
import Framelink.Proofs.Faults
import Framelink.Proofs.Flips
import Framelink.Proofs.Frame
import Framelink.Proofs.Inbox
import Framelink.Proofs.Json
import Framelink.Proofs.Lifecycle
import Framelink.Proofs.Linearity
import Framelink.Proofs.Logs
import Framelink.Proofs.Network
import Framelink.Proofs.Notices
import Framelink.Proofs.Numerals
import Framelink.Proofs.Parity
import Framelink.Proofs.Peers
import Framelink.Proofs.Reading.Attempts
import Framelink.Proofs.Reading.Checking
import Framelink.Proofs.Reading.Course
import Framelink.Proofs.Reading.Exact
import Framelink.Proofs.Reading.Loop
import Framelink.Proofs.Reading.Quiet
import Framelink.Proofs.Residue
import Framelink.Proofs.RunTogether
import Framelink.Proofs.Settings
import Framelink.Proofs.Tally
import Framelink.Proofs.Tcp.Acquaintance
import Framelink.Proofs.Tcp.Addresses
import Framelink.Proofs.Tcp.Admissions
import Framelink.Proofs.Tcp.Admitting
import Framelink.Proofs.Tcp.Amid
import Framelink.Proofs.Tcp.Aspect
import Framelink.Proofs.Tcp.Broadcasting
import Framelink.Proofs.Tcp.Conduct
import Framelink.Proofs.Tcp.Connection
import Framelink.Proofs.Tcp.Conservation
import Framelink.Proofs.Tcp.Crew
import Framelink.Proofs.Tcp.Custody
import Framelink.Proofs.Tcp.Draining
import Framelink.Proofs.Tcp.Execution
import Framelink.Proofs.Tcp.Faults
import Framelink.Proofs.Tcp.Gate
import Framelink.Proofs.Tcp.Introductions
import Framelink.Proofs.Tcp.Keeping
import Framelink.Proofs.Tcp.Leaving
import Framelink.Proofs.Tcp.Life
import Framelink.Proofs.Tcp.Lifecycle
import Framelink.Proofs.Tcp.Lookup
import Framelink.Proofs.Tcp.Numbers
import Framelink.Proofs.Tcp.Ordered
import Framelink.Proofs.Tcp.Placement
import Framelink.Proofs.Tcp.Queues
import Framelink.Proofs.Tcp.Reading
import Framelink.Proofs.Tcp.Remains
import Framelink.Proofs.Tcp.Retired
import Framelink.Proofs.Tcp.Room
import Framelink.Proofs.Tcp.Runs
import Framelink.Proofs.Tcp.Sight
import Framelink.Proofs.Tcp.Situation
import Framelink.Proofs.Tcp.Sound
import Framelink.Proofs.Tcp.Steps
import Framelink.Proofs.Tcp.Stint
import Framelink.Proofs.Tcp.Stopping
import Framelink.Proofs.Tcp.Streams
import Framelink.Proofs.Tcp.Table
import Framelink.Proofs.Tcp.Turns.Acceptors
import Framelink.Proofs.Tcp.Turns.Application
import Framelink.Proofs.Tcp.Turns.FarEnds
import Framelink.Proofs.Tcp.Turns.Lifecycle
import Framelink.Proofs.Tcp.Turns.Workers
import Framelink.Proofs.Tcp.WindingDown
import Framelink.Proofs.TwoFlips
import Framelink.Proofs.Udp.Accounts
import Framelink.Proofs.Udp.Aspect
import Framelink.Proofs.Udp.Echo
import Framelink.Proofs.Udp.Execution
import Framelink.Proofs.Udp.Fitting
import Framelink.Proofs.Udp.Handling
import Framelink.Proofs.Udp.History
import Framelink.Proofs.Udp.Introductions
import Framelink.Proofs.Udp.Lifecycle
import Framelink.Proofs.Udp.Passages
import Framelink.Proofs.Udp.RoundTrip
import Framelink.Proofs.Udp.Rounds
import Framelink.Proofs.Udp.Situation
import Framelink.Proofs.Udp.Tracking
import Framelink.Proofs.Udp.Watch
import Framelink.Proofs.ValidFrames
import Framelink.Serial.Access
import Framelink.Serial.Client
import Framelink.Serial.Devices
import Framelink.Serial.Failure
import Framelink.Serial.Opening
import Framelink.Serial.Path
import Framelink.Server.Basic
import Framelink.Server.BlockingRead
import Framelink.Server.Dispatch
import Framelink.Server.InMemory
import Framelink.Server.Networked
import Framelink.Server.Peer
import Framelink.Server.Report
import Framelink.Settings.Basic
import Framelink.Settings.Document
import Framelink.Tcp.Client
import Framelink.Tcp.Server.Basic
import Framelink.Tcp.Server.Lifecycle
import Framelink.Tcp.Server.Settling
import Framelink.Tcp.Server.Step
import Framelink.Tcp.Server.Thread
import Framelink.Tcp.Visitors
import Framelink.Text.Blank
import Framelink.Text.Digits
import Framelink.Text.Marks
import Framelink.Text.Quoted
import Framelink.Text.Utf8
import Framelink.Transport
import Framelink.Udp.Client
import Framelink.Udp.Correspondents
import Framelink.Udp.Server
