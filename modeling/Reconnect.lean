import Reconnect.Block
import Reconnect.Bytes
import Reconnect.Client
import Reconnect.Client.Recorder
import Reconnect.Client.SessionKeeper
import Reconnect.Clock
import Reconnect.Control
import Reconnect.Endpoint
import Reconnect.Endpoint.Parser
import Reconnect.Fault
import Reconnect.Frame
import Reconnect.Hosts.ConnectString
import Reconnect.Hosts.Lookup
import Reconnect.Hosts.Migration
import Reconnect.Hosts.Roster
import Reconnect.Link
import Reconnect.Link.Run
import Reconnect.Liveness
import Reconnect.Outbound
import Reconnect.Packet
import Reconnect.Packet.Queue
import Reconnect.Sampling
import Reconnect.Sampling.Source
import Reconnect.Session.Request
import Reconnect.Session.Response
import Reconnect.Settings
import Reconnect.Simulation
import Reconnect.Simulation.Wire
import Reconnect.Simulation.World
import Reconnect.Text.Blank
import Reconnect.Text.Combining
import Reconnect.Text.Quoted
import Reconnect.Text.Ranges
import Reconnect.Text.Unseen
import Reconnect.Transport
import Reconnect.Transport.Polling
import Reconnect.Transport.Streaming
import Reconnect.Proofs.Flow
import Reconnect.Proofs.Conservation
import Reconnect.Proofs.Gate
import Reconnect.Proofs.Cutting
import Reconnect.Proofs.Dispatch
import Reconnect.Proofs.Deeds
import Reconnect.Proofs.Handover
import Reconnect.Proofs.Fates
import Reconnect.Proofs.Lockstep
import Reconnect.Proofs.Draining
import Reconnect.Proofs.Holding
import Reconnect.Proofs.Stopping
import Reconnect.Proofs.Membership
import Reconnect.Proofs.Migrating
import Reconnect.Proofs.Authentication
import Reconnect.Proofs.Framing
import Reconnect.Proofs.Resuming
import Reconnect.Proofs.Rounds
import Reconnect.Proofs.Spinning
import Reconnect.Proofs.Detours
import Reconnect.Proofs.Drawing
import Reconnect.Proofs.Verdicts
import Reconnect.Proofs.Answers
import Reconnect.Proofs.Blame
import Reconnect.Proofs.Replies
import Reconnect.Proofs.GivingUp
import Reconnect.Proofs.Selecting
import Reconnect.Proofs.Waits
import Reconnect.Proofs.SendingAhead
import Reconnect.Proofs.Flushing
import Reconnect.Proofs.Naming
import Reconnect.Proofs.Founding
import Reconnect.Proofs.Requests
import Reconnect.Proofs.Ending
import Reconnect.Proofs.Idling
