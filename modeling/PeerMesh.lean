import PeerMesh.Bytes
import PeerMesh.Channel.Basic
import PeerMesh.Channel.Error
import PeerMesh.Channel.Protocol
import PeerMesh.Consumer.Basic
import PeerMesh.Consumer.Script
import PeerMesh.Consumer.Session
import PeerMesh.Datagram.Group
import PeerMesh.Decimal.Binary64
import PeerMesh.Decimal.Reader
import PeerMesh.Decimal.Shortest
import PeerMesh.Detector.Gossip
import PeerMesh.Detector.Probe
import PeerMesh.Detector.Receive
import PeerMesh.Detector.Report
import PeerMesh.Detector.Rig
import PeerMesh.Detector.Rounds
import PeerMesh.Detector.Timetable
import PeerMesh.Duration
import PeerMesh.Event
import PeerMesh.Memory.Exchange
import PeerMesh.Memory.Network
import PeerMesh.Mesh.Basic
import PeerMesh.Mesh.Bench
import PeerMesh.Mesh.Moves
import PeerMesh.Mesh.Operations
import PeerMesh.Mesh.Order
import PeerMesh.Mesh.Outsider
import PeerMesh.Mesh.Registry
import PeerMesh.Mesh.Requests
import PeerMesh.Metrics
import PeerMesh.Node.Clock
import PeerMesh.Node.Identity
import PeerMesh.Node.Record
import PeerMesh.Pool.Basic
import PeerMesh.Pool.Gate
import PeerMesh.Pool.Shift
import PeerMesh.Power
import PeerMesh.Settings.Basic
import PeerMesh.Settings.Load
import PeerMesh.Settings.LogFilter
import PeerMesh.Settings.Path
import PeerMesh.Settings.Plain
import PeerMesh.Settings.Validity
import PeerMesh.Socket.Endpoint
import PeerMesh.Socket.Host
import PeerMesh.Socket.Ip
import PeerMesh.Stream.Client
import PeerMesh.Stream.Frames
import PeerMesh.Stream.Service
import PeerMesh.Table
import PeerMesh.Text.Alphanumeric
import PeerMesh.Text.Blank
import PeerMesh.Text.Digits
import PeerMesh.Text.Quoted
import PeerMesh.Text.Timespan
import PeerMesh.Text.Unprintable
import PeerMesh.Text.Utf8
import PeerMesh.Transport.Error
import PeerMesh.Transport.Fanout
import PeerMesh.Transport.Kind
import PeerMesh.Transport.Response
import PeerMesh.Transport.Setup
import PeerMesh.View.Basic
import PeerMesh.View.Step
import PeerMesh.View.Vigil
import PeerMesh.View.Lobby
import PeerMesh.View.Watched
import PeerMesh.Wire.Codec
import PeerMesh.Wire.Error
import PeerMesh.Wire.Payload
import PeerMesh.Proofs.Wire.Ledger
import PeerMesh.Proofs.Wire.RoundTrip
import PeerMesh.Proofs.Datagram.Reception
import PeerMesh.Proofs.View.Soundness
import PeerMesh.Proofs.Channel.Tidings
import PeerMesh.Proofs.Mesh.Roster
import PeerMesh.Proofs.Mesh.Delivery
import PeerMesh.Proofs.Mesh.Questions
import PeerMesh.Proofs.Mesh.Rounds
import PeerMesh.Proofs.Memory.Network
import PeerMesh.Proofs.Mesh.Changes
import PeerMesh.Proofs.Mesh.Continuity
import PeerMesh.Proofs.Mesh.Meeting
import PeerMesh.Proofs.Channel.Continuity
import PeerMesh.Proofs.Channel.Listeners
import PeerMesh.Proofs.Mesh.Life
import PeerMesh.Proofs.Mesh.Departure
import PeerMesh.Proofs.Mesh.Isolation
import PeerMesh.Proofs.View.History
import PeerMesh.Proofs.View.Tombstones
import PeerMesh.Proofs.View.Happenings
import PeerMesh.Proofs.View.Verdicts
import PeerMesh.Proofs.Detector.Answers
import PeerMesh.Proofs.Detector.Passive
import PeerMesh.Proofs.Detector.Asking
import PeerMesh.Proofs.Detector.Retention
import PeerMesh.Proofs.Detector.Signs
import PeerMesh.Proofs.Detector.Judgement
import PeerMesh.Proofs.Detector.Control
import PeerMesh.Proofs.Detector.Grounds
import PeerMesh.Proofs.Mesh.Vouching
import PeerMesh.Proofs.View.Notices
import PeerMesh.Proofs.View.Watchers
import PeerMesh.Proofs.View.Hearsay
import PeerMesh.Proofs.View.Versions
import PeerMesh.Proofs.Cluster.Basic
import PeerMesh.Proofs.Cluster.Numbers
import PeerMesh.Proofs.Wire.Accepted
import PeerMesh.Proofs.Wire.Normal
import PeerMesh.Proofs.Stream.Framing
import PeerMesh.Proofs.Stream.Transcripts
import PeerMesh.Proofs.Consumer.Runs
import PeerMesh.Proofs.Consumer.Accounting
import PeerMesh.Proofs.Mesh.Handling
import PeerMesh.Proofs.Mesh.Gathering
import PeerMesh.Proofs.Mesh.Discovery
import PeerMesh.Proofs.View.Shut
import PeerMesh.Proofs.Channel.Rest
import PeerMesh.Proofs.Mesh.Traffic
import PeerMesh.Proofs.Mesh.Workings
import PeerMesh.Proofs.Mesh.Ends
import PeerMesh.Proofs.Mesh.Upkeep
import PeerMesh.Proofs.Mesh.Incidents
import PeerMesh.Proofs.Mesh.Closing
import PeerMesh.Proofs.Mesh.Registration
import PeerMesh.Proofs.Consumer.Registry
import PeerMesh.Proofs.Pool.Runs
import PeerMesh.Proofs.Memory.Reach
import PeerMesh.Proofs.Channel.Footing
import PeerMesh.Proofs.Mesh.Carriage
import PeerMesh.Proofs.Channel.Enlisting
import PeerMesh.Proofs.Mesh.Postings
import PeerMesh.Proofs.Mesh.Fitting
import PeerMesh.Proofs.Mesh.Cut
import PeerMesh.Proofs.Mesh.Severance
import PeerMesh.Proofs.Mesh.Refitting
import PeerMesh.Proofs.Mesh.FailedStart
import PeerMesh.Proofs.Mesh.Partition
import PeerMesh.Proofs.Node.Suspicion
import PeerMesh.Proofs.View.Freshness
import PeerMesh.Proofs.Mesh.Gate
import PeerMesh.Proofs.Channel.Welcome
import PeerMesh.Proofs.Mesh.Welcome
import PeerMesh.Proofs.Consumer.Stopped
import PeerMesh.Proofs.Transport.Fanout
import PeerMesh.Proofs.Channel.Frame
import PeerMesh.Proofs.Mesh.Chores
import PeerMesh.Proofs.Mesh.Routine
import PeerMesh.Proofs.Mesh.Independence
import PeerMesh.Proofs.Mesh.Seat
import PeerMesh.Proofs.Mesh.Attempts
import PeerMesh.Proofs.Mesh.Instants
import PeerMesh.Proofs.Mesh.Announcements
import PeerMesh.Proofs.Mesh.Domains
import PeerMesh.Proofs.Mesh.Migration
import PeerMesh.Proofs.Mesh.Coverage
import PeerMesh.Proofs.View.Lobby
import PeerMesh.Proofs.Stream.Endings
import PeerMesh.Proofs.Mesh.Repliers
import PeerMesh.Proofs.Mesh.Illegible
import PeerMesh.Proofs.History
import PeerMesh.Proofs.Node.Health
import PeerMesh.Proofs.Detector.Recorded
import PeerMesh.Proofs.Detector.Circular
import PeerMesh.Proofs.Settings.Overrides
