/-
**When the rounds of a failure detector are due.**

A `Scheduler` waits for a start delay and then lets three alarms ring again and again, one for each
kind of round. An alarm rings for the first time at once, and then one period after the time it was
set for, or one period from now if it rings more than five milliseconds late. Only one round is under
way at a time. Alarms are set to the nanosecond, but ring at whole milliseconds.
-/

import PeerMesh.Settings.Basic

namespace PeerMesh

/-- The kinds of rounds. -/
inductive RoundKind where
  /-- Age the peers and probe the suspects. -/
  | control
  | gossip
  | broadcast
  deriving DecidableEq, Repr, Inhabited

/-- An alarm that rings again and again. -/
structure Alarm where
  period : Duration
  /-- What it is set to, in nanoseconds. -/
  setTo : Nat
  deriving DecidableEq, Repr, Inhabited

namespace Alarm

/-- By how many nanoseconds an alarm may be late before it loses its rhythm. -/
def tolerance : Nat := 5 * Duration.nanosPerMilli

/-- An alarm that rings for the first time at once. -/
def start (period : Duration) (time : Nat) : Alarm := ⟨period, time * Duration.nanosPerMilli⟩

/-- The millisecond at which it rings. -/
def dueAt (alarm : Alarm) : Nat := (Duration.ofNanos alarm.setTo).ticks

/-- It rings, and is set anew. -/
def ring (alarm : Alarm) (time : Nat) : Alarm :=
  let now := time * Duration.nanosPerMilli
  let base := if alarm.setTo + tolerance < now then now else alarm.setTo
  { alarm with setTo := base + alarm.period.nanos }

end Alarm

/-- The alarms of the three kinds of rounds. -/
structure Timetable where
  control : Alarm
  gossip : Alarm
  broadcast : Alarm
  deriving DecidableEq, Repr, Inhabited

namespace Timetable

/-- The alarms as the settings have them. -/
def start (settings : Settings) (time : Nat) : Timetable :=
  ⟨.start settings.controlInterval time, .start settings.gossipInterval time,
    .start settings.autoBroadcastInterval time⟩

/-- The next millisecond at which an alarm rings. -/
def dueAt (table : Timetable) : Nat :=
  min table.control.dueAt (min table.gossip.dueAt table.broadcast.dueAt)

/-- The alarm of a kind of round rings. -/
def ring (table : Timetable) (time : Nat) : RoundKind → Timetable
  | .control => { table with control := table.control.ring time }
  | .gossip => { table with gossip := table.gossip.ring time }
  | .broadcast => { table with broadcast := table.broadcast.ring time }

/-- Whether the alarm of a kind of round rings. -/
def isDue (table : Timetable) (time : Nat) : RoundKind → Bool
  | .control => table.control.dueAt ≤ time
  | .gossip => table.gossip.dueAt ≤ time
  | .broadcast => table.broadcast.dueAt ≤ time

/-- A kind of round whose alarm rings. -/
def due? (table : Timetable) (time : Nat) : Option RoundKind :=
  [RoundKind.control, .gossip, .broadcast].find? (table.isDue time)

end Timetable

/-- What lets the rounds begin. -/
inductive Scheduler where
  | off
  /-- Before the first rounds, which begin at the given millisecond. -/
  | delayed (start : Nat)
  /-- Between two rounds. -/
  | idle (table : Timetable)
  /-- During a round. -/
  | busy (table : Timetable)
  /-- Failed, because an alarm without a period cannot be set. -/
  | failed
  deriving DecidableEq, Repr, Inhabited

namespace Scheduler

/-- Whether rounds can be expected. -/
def isRunning : Scheduler → Bool
  | .off | .failed => false
  | .delayed _ | .idle _ | .busy _ => true

/-- Start after a delay, unless it was started already. -/
def start (scheduler : Scheduler) (delay : Duration) (time : Nat) : Scheduler :=
  match scheduler with
  | .off => .delayed (time + delay.ticks)
  | other => other

/-- The millisecond at which the scheduler has something to do, if it waits for one. -/
def wakeAt? : Scheduler → Option Nat
  | .delayed moment => some moment
  | .idle table => some table.dueAt
  | .off | .busy _ | .failed => none

/-- The delay is over: set the alarms. -/
def setAlarms (settings : Settings) (time : Nat) : Scheduler :=
  let periods := [settings.controlInterval, settings.gossipInterval, settings.autoBroadcastInterval]
  if periods.any Duration.isZero then .failed else .idle (.start settings time)

/-- A round is over. -/
def rest : Scheduler → Scheduler
  | .busy table => .idle table
  | other => other

end Scheduler

/-- A span between two bounds, in whole milliseconds above the least one; `draw` says which. -/
def Duration.between (least greatest : Duration) (draw : Nat) : Duration :=
  let low := least.millisWord.toNat
  let high := greatest.millisWord.toNat
  if high ≤ low then least else .ofMillis (low + draw % (high - low + 1))

end PeerMesh
