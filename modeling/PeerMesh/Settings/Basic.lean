/-
**The settings of one channel.**

`Settings.standard` is what holds when nothing is said. A `Field` is one setting with its name and
the kind of its content, and `Settings.fields` lists them all, so that reading and writing settings
need to know the fields by kind only.
-/

import PeerMesh.Duration
import PeerMesh.Socket.Endpoint
import PeerMesh.Transport.Kind

namespace PeerMesh

/-- The settings of one channel. -/
structure Settings where
  /-- The nodes of one domain find each other. -/
  domain : String
  /-- The id of the node, if it is not to be made up. -/
  nodeId : Option String
  /-- A peer that was not heard of for so long is suspected. -/
  heartbeatTimeout : Duration
  /-- The time between two looks at the health of the peers. -/
  controlInterval : Duration
  gossipEnabled : Bool
  gossipInterval : Duration
  /-- The number of peers that are told in each gossip round. -/
  gossipNodeCount : Nat
  /-- The number of peers that are asked about a suspect. -/
  delegateCount : Nat
  delegateTimeout : Duration
  /-- The most gossip entries, or receivers, of one batch. -/
  batchSize : Nat
  publishAttempts : Nat
  publishIntervalMin : Duration
  publishIntervalMax : Duration
  /-- The bounds of the pause before the first look at the health of the peers. -/
  startDelayMin : Duration
  startDelayMax : Duration
  autoBroadcastEnabled : Bool
  /-- The most peers of a node that broadcasts its whole view; none if zero. -/
  autoBroadcastThreshold : Nat
  autoBroadcastInterval : Duration
  /-- The most connections to one peer at a time. -/
  maxConnections : Nat
  /-- How long a dead peer is remembered. -/
  gracePeriod : Duration
  consumerWorkers : Nat
  consumerCapacity : Nat
  publishWorkers : Nat
  publishCapacity : Nat
  /-- Whether a registry may hand out a channel that it has already. -/
  reuseChannels : Bool
  broadcastProvider : TransportKind
  unicastProvider : TransportKind
  unicastBind : Socket.Endpoint
  unicastAdvertise : Option Socket.Endpoint
  broadcastGroup : Socket.Endpoint
  broadcastInterface : Socket.Ipv4
  multicastTtl : Nat
  /-- Which log messages are shown, as filter directives. -/
  logLevel : String
  deriving DecidableEq, Repr

namespace Settings

/-- The settings that hold when nothing is said. -/
def standard : Settings where
  domain := "default"
  nodeId := none
  heartbeatTimeout := .ofSeconds 5
  controlInterval := .ofSeconds 1
  gossipEnabled := true
  gossipInterval := .ofSeconds 1
  gossipNodeCount := 3
  delegateCount := 3
  delegateTimeout := .ofSeconds 1
  batchSize := 32
  publishAttempts := 3
  publishIntervalMin := .ofMillis 200
  publishIntervalMax := .ofSeconds 1
  startDelayMin := ⟨0⟩
  startDelayMax := .ofSeconds 1
  autoBroadcastEnabled := true
  autoBroadcastThreshold := 0
  autoBroadcastInterval := .ofSeconds 2
  maxConnections := 4
  gracePeriod := .ofSeconds 30
  consumerWorkers := 4
  consumerCapacity := 1024
  publishWorkers := 4
  publishCapacity := 1024
  reuseChannels := true
  broadcastProvider := .udp
  unicastProvider := .tcp
  unicastBind := .v4 .any 7947
  unicastAdvertise := none
  broadcastGroup := .v4 ⟨239, 255, 77, 77⟩ 7946
  broadcastInterface := .any
  multicastTtl := 1
  logLevel := "info"

instance : Inhabited Settings := ⟨standard⟩

/-- The same settings in another domain. -/
def withDomain (settings : Settings) (domain : String) : Settings :=
  { settings with domain := domain }

/-- The id of the node: the one that is set, or else the made-up one. -/
def resolveNodeId (settings : Settings) (madeUp : NodeId) : NodeId :=
  (settings.nodeId.map NodeId.mk).getD madeUp

/-- What a setting holds. -/
inductive Kind where
  | text
  | optionalText
  | span
  | flag
  /-- A number from zero to a largest one. -/
  | count (largest : Nat)
  | provider
  | endpoint
  | optionalEndpoint
  | ip
  deriving DecidableEq, Repr, Inhabited

/-- The values of a setting of each kind. -/
abbrev Kind.Content : Kind → Type
  | text => String
  | optionalText => Option String
  | span => Duration
  | flag => Bool
  | count _ => Nat
  | provider => TransportKind
  | endpoint => Socket.Endpoint
  | optionalEndpoint => Option Socket.Endpoint
  | ip => Socket.Ipv4

/-- One setting. -/
structure Field where
  name : String
  kind : Kind
  get : Settings → kind.Content
  set : Settings → kind.Content → Settings

/-- The kind of numbers of 64 bits. -/
def Kind.word : Kind := .count (2 ^ 64 - 1)

/-- The kind of numbers of 32 bits. -/
def Kind.halfWord : Kind := .count (2 ^ 32 - 1)

/-- All settings. -/
def fields : List Field := [
  ⟨"domain", .text, domain, fun s value => { s with domain := value }⟩,
  ⟨"node_id", .optionalText, nodeId, fun s value => { s with nodeId := value }⟩,
  ⟨"heartbeat_timeout", .span, heartbeatTimeout,
    fun s value => { s with heartbeatTimeout := value }⟩,
  ⟨"control_interval", .span, controlInterval, fun s value => { s with controlInterval := value }⟩,
  ⟨"gossip_enabled", .flag, gossipEnabled, fun s value => { s with gossipEnabled := value }⟩,
  ⟨"gossip_interval", .span, gossipInterval, fun s value => { s with gossipInterval := value }⟩,
  ⟨"gossip_node_count", .word, gossipNodeCount, fun s value => { s with gossipNodeCount := value }⟩,
  ⟨"health_check_delegate_count", .word, delegateCount,
    fun s value => { s with delegateCount := value }⟩,
  ⟨"health_check_delegate_timeout", .span, delegateTimeout,
    fun s value => { s with delegateTimeout := value }⟩,
  ⟨"control_batch_size", .word, batchSize, fun s value => { s with batchSize := value }⟩,
  ⟨"publish_max_attempts", .halfWord, publishAttempts,
    fun s value => { s with publishAttempts := value }⟩,
  ⟨"publish_interval_min", .span, publishIntervalMin,
    fun s value => { s with publishIntervalMin := value }⟩,
  ⟨"publish_interval_max", .span, publishIntervalMax,
    fun s value => { s with publishIntervalMax := value }⟩,
  ⟨"start_delay_min", .span, startDelayMin, fun s value => { s with startDelayMin := value }⟩,
  ⟨"start_delay_max", .span, startDelayMax, fun s value => { s with startDelayMax := value }⟩,
  ⟨"auto_broadcast_enabled", .flag, autoBroadcastEnabled,
    fun s value => { s with autoBroadcastEnabled := value }⟩,
  ⟨"auto_broadcast_threshold", .word, autoBroadcastThreshold,
    fun s value => { s with autoBroadcastThreshold := value }⟩,
  ⟨"auto_broadcast_interval", .span, autoBroadcastInterval,
    fun s value => { s with autoBroadcastInterval := value }⟩,
  ⟨"max_client_connections", .word, maxConnections,
    fun s value => { s with maxConnections := value }⟩,
  ⟨"dead_node_grace_period", .span, gracePeriod, fun s value => { s with gracePeriod := value }⟩,
  ⟨"consumer_workers", .word, consumerWorkers, fun s value => { s with consumerWorkers := value }⟩,
  ⟨"consumer_queue_capacity", .word, consumerCapacity,
    fun s value => { s with consumerCapacity := value }⟩,
  ⟨"publish_workers", .word, publishWorkers, fun s value => { s with publishWorkers := value }⟩,
  ⟨"publish_queue_capacity", .word, publishCapacity,
    fun s value => { s with publishCapacity := value }⟩,
  ⟨"reuse_channels", .flag, reuseChannels, fun s value => { s with reuseChannels := value }⟩,
  ⟨"broadcast_provider", .provider, broadcastProvider,
    fun s value => { s with broadcastProvider := value }⟩,
  ⟨"unicast_provider", .provider, unicastProvider,
    fun s value => { s with unicastProvider := value }⟩,
  ⟨"unicast_bind", .endpoint, unicastBind, fun s value => { s with unicastBind := value }⟩,
  ⟨"unicast_advertise", .optionalEndpoint, unicastAdvertise,
    fun s value => { s with unicastAdvertise := value }⟩,
  ⟨"broadcast_group", .endpoint, broadcastGroup, fun s value => { s with broadcastGroup := value }⟩,
  ⟨"broadcast_interface", .ip, broadcastInterface,
    fun s value => { s with broadcastInterface := value }⟩,
  ⟨"multicast_ttl", .halfWord, multicastTtl, fun s value => { s with multicastTtl := value }⟩,
  ⟨"log_level", .text, logLevel, fun s value => { s with logLevel := value }⟩]

end Settings

end PeerMesh
