import Tether.Assembly
import Tether.Broker
import Tether.Broker.Exchange
import Tether.Camera.Chart
import Tether.CommandLine
import Tether.Config
import Tether.Config.Wire
import Tether.Console.Session
import Tether.Controller
import Tether.Device.Basic
import Tether.Device.CameraPath
import Tether.Device.Registry
import Tether.Device.Scripted
import Tether.Device.Simulated
import Tether.Device.Wire
import Tether.Event.Wire
import Tether.Frame.Reader
import Tether.Frame.Writer
import Tether.Gate
import Tether.Intervalometer
import Tether.Json.Parser
import Tether.Link
import Tether.Mailbox
import Tether.Main
import Tether.Mode
import Tether.Proofs.Camera.Guard
import Tether.Proofs.Camera.Setters
import Tether.Proofs.Handshake.Agreement
import Tether.Proofs.Statechart.Nesting
import Tether.Proofs.Reports.Intervalometer
import Tether.Proofs.Reports.Mode
import Tether.Proofs.Statechart.Upkeep
import Tether.Statechart.Actor
import Tether.Statechart.Bench
import Tether.Statechart.Machine
import Tether.Statechart.Table
import Tether.Statechart.Table.Wire
import Tether.Statechart.Traffic
import Tether.Storage
import Tether.Tap
import Tether.Text.Blank
import Tether.Text.Hex
import Tether.Timers
import Tether.Toml.Parser
import Tether.Topic
import Tether.Worker
import Tether.Proofs.Camera.Session
import Tether.Proofs.Reports.Camera
import Tether.Proofs.Reports.AtRest
import Tether.Proofs.Camera.Connectivity
import Tether.Proofs.Timers.Ledger
import Tether.Proofs.Frame.Split
import Tether.Proofs.Frame.Stream
import Tether.Proofs.Assembly.Silence
import Tether.Proofs.Link.Inbound
import Tether.Proofs.Link.Session
import Tether.Proofs.Intervalometer.Deadline
import Tether.Proofs.Intervalometer.Pacing
import Tether.Proofs.Handshake.Stop
import Tether.Proofs.Link.Outbound
import Tether.Proofs.Gate.Passing
import Tether.Proofs.Intervalometer.Waking
import Tether.Proofs.Camera.Pictures
import Tether.Proofs.Camera.Visits
import Tether.Proofs.Camera.Shooting
import Tether.Proofs.Camera.Shots
import Tether.Proofs.Handshake.Rig
import Tether.Proofs.Broker.Publishing
import Tether.Proofs.Camera.Losses
import Tether.Proofs.Camera.Trouble
import Tether.Proofs.Mode.Heartbeat
import Tether.Proofs.Camera.Discipline
import Tether.Proofs.Device.Offers
import Tether.Proofs.Statechart.Route
import Tether.Proofs.Event.Exactness
import Tether.Proofs.Frame.Writing
import Tether.Proofs.Camera.Replies
import Tether.Proofs.Statechart.Deferral
import Tether.Proofs.Mailbox.Queue
import Tether.Proofs.Device.Naming
import Tether.Proofs.Device.Snapping
import Tether.Proofs.Frame.Prefix
import Tether.Proofs.Camera.Replays
import Tether.Proofs.Assembly.Delegation
import Tether.Proofs.Console.Session
import Tether.Proofs.Console.Grammar
import Tether.Proofs.Statechart.Depth
