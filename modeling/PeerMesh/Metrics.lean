/-
**What a channel counts.**

Two gauges follow the view and six counters grow. `Metrics.render` writes all of them in the text
form that monitoring systems read, ordered by name; figures pass through binary numbers of 53 bits,
so large ones lose their last digits.
-/

import PeerMesh.Decimal.Shortest

namespace PeerMesh

/-- The counts of one channel. -/
structure Metrics where
  nodesLive : Int
  nodesDead : Int
  eventsDelivered : Nat
  eventsDropped : Nat
  probes : Nat
  declaredDead : Nat
  gossipSent : Nat
  dispatchFailures : Nat
  deriving DecidableEq, Repr, Inhabited

namespace Metrics

/-- Nothing counted yet. -/
def zero : Metrics := ⟨0, 0, 0, 0, 0, 0, 0, 0⟩

/-- Set the gauge of a name to a value, or let the counter of a name grow by it. -/
def take (metrics : Metrics) (name : String) (value : Int) : Metrics :=
  let more := value.toNat
  match name with
  | "nodes_live" => { metrics with nodesLive := value }
  | "nodes_dead" => { metrics with nodesDead := value }
  | "events_delivered" => { metrics with eventsDelivered := metrics.eventsDelivered + more }
  | "events_dropped" => { metrics with eventsDropped := metrics.eventsDropped + more }
  | "probes_total" => { metrics with probes := metrics.probes + more }
  | "nodes_declared_dead" => { metrics with declaredDead := metrics.declaredDead + more }
  | "gossip_sent" => { metrics with gossipSent := metrics.gossipSent + more }
  | "dispatch_failures" => { metrics with dispatchFailures := metrics.dispatchFailures + more }
  | _ => metrics

/-- Whether a figure may fall again. -/
inductive Family where
  | counter
  | gauge
  deriving DecidableEq, Repr, Inhabited

/-- The word for a family. -/
def Family.word : Family → String
  | .counter => "counter"
  | .gauge => "gauge"

/-- One figure with its name, its explanation and its family. -/
structure Figure where
  name : String
  help : String
  family : Family
  value : Int

/-- The figures, ordered by name. -/
def figures (metrics : Metrics) : List Figure := [
  ⟨"vibemesh_dispatch_failures_total", "Outbound dispatches rejected locally or by the transport",
    .counter, metrics.dispatchFailures⟩,
  ⟨"vibemesh_events_delivered_total", "Async listener invocations scheduled",
    .counter, metrics.eventsDelivered⟩,
  ⟨"vibemesh_events_dropped_total", "Async listener invocations dropped on a saturated queue",
    .counter, metrics.eventsDropped⟩,
  ⟨"vibemesh_gossip_sent_total", "Gossip notifications sent to peers",
    .counter, metrics.gossipSent⟩,
  ⟨"vibemesh_nodes_dead", "Peers currently held as tombstones", .gauge, metrics.nodesDead⟩,
  ⟨"vibemesh_nodes_declared_dead_total", "Peers declared dead by the failure detector",
    .counter, metrics.declaredDead⟩,
  ⟨"vibemesh_nodes_live", "Peers currently in the live view", .gauge, metrics.nodesLive⟩,
  ⟨"vibemesh_probes_total", "Indirect health-check rounds started for suspect peers",
    .counter, metrics.probes⟩]

/-- One figure as three lines. -/
def Figure.render (figure : Figure) : String :=
  "# HELP " ++ figure.name ++ " " ++ figure.help ++ "\n# TYPE " ++ figure.name ++ " " ++
    figure.family.word ++ "\n" ++ figure.name ++ " " ++ (Binary64.ofInt figure.value).render ++ "\n"

/-- All figures as text. -/
def render (metrics : Metrics) : String := String.join (metrics.figures.map Figure.render)

end Metrics

end PeerMesh
