/-
**Which settings a channel can work with.**

`Settings.faults` lists what is wrong with settings, in the order in which it is reported;
`Settings.validate` reports the first of it.
-/

import PeerMesh.Settings.Basic
import PeerMesh.Settings.LogFilter

namespace PeerMesh

/-- What is wrong with settings. -/
inductive SettingsFault where
  | emptyDomain
  /-- The span of this name has no length. -/
  | zeroSpan (name : String)
  /-- The number of this name is zero. -/
  | zeroCount (name : String)
  /-- The least span of this name is longer than the greatest one. -/
  | crossedBounds (name : String)
  | badLogLevel (text : String) (fault : LogFilter.Fault)
  deriving DecidableEq, Repr, Inhabited

/-- The text shown for a fault of settings. -/
def SettingsFault.message : SettingsFault → String
  | .emptyDomain => "domain must not be empty"
  | .zeroSpan name => name ++ " must be non-zero"
  | .zeroCount name => name ++ " must be at least 1"
  | .crossedBounds name => name ++ "_min must not exceed " ++ name ++ "_max"
  | .badLogLevel text fault =>
    "log_level '" ++ text ++ "' is not a valid filter: " ++ fault.message

/-- Why settings are refused. -/
inductive SettingsError where
  /-- What was given for them cannot be read. -/
  | unreadable
  /-- No channel can work with them. -/
  | invalid (fault : SettingsFault)
  deriving DecidableEq, Repr, Inhabited

/-- The word for the kind of error. -/
def SettingsError.name : SettingsError → String
  | .unreadable => "Config"
  | .invalid _ => "Validation"

/-- The text shown for settings that are refused, if it is fixed. -/
def SettingsError.message? : SettingsError → Option String
  | .unreadable => none
  | .invalid fault => some ("Validation error: " ++ fault.message)

namespace Settings

/-- The spans that must have a length, by name. -/
def neededSpans (settings : Settings) : List (String × Duration) := [
  ("heartbeat_timeout", settings.heartbeatTimeout),
  ("control_interval", settings.controlInterval),
  ("gossip_interval", settings.gossipInterval),
  ("auto_broadcast_interval", settings.autoBroadcastInterval),
  ("health_check_delegate_timeout", settings.delegateTimeout)]

/-- The numbers that must not be zero, by name. -/
def neededCounts (settings : Settings) : List (String × Nat) := [
  ("control_batch_size", settings.batchSize),
  ("max_client_connections", settings.maxConnections),
  ("consumer_workers", settings.consumerWorkers),
  ("consumer_queue_capacity", settings.consumerCapacity),
  ("publish_workers", settings.publishWorkers),
  ("publish_queue_capacity", settings.publishCapacity),
  ("publish_max_attempts", settings.publishAttempts)]

/-- The spans that are given by bounds, by name. -/
def boundedSpans (settings : Settings) : List (String × Duration × Duration) := [
  ("publish_interval", settings.publishIntervalMin, settings.publishIntervalMax),
  ("start_delay", settings.startDelayMin, settings.startDelayMax)]

/-- Everything that is wrong with the settings. -/
def faults (settings : Settings) : List SettingsFault :=
  (if settings.domain.isEmpty then [.emptyDomain] else []) ++
  (settings.neededSpans.filter (·.2.isZero)).map (.zeroSpan ·.1) ++
  (settings.neededCounts.filter (·.2 = 0)).map (.zeroCount ·.1) ++
  (settings.boundedSpans.filter fun (_, least, greatest) => greatest < least).map
    (.crossedBounds ·.1) ++
  ((LogFilter.fault? settings.logLevel).map (.badLogLevel settings.logLevel)).toList

/-- Refuse settings that no channel can work with. -/
def validate (settings : Settings) : Except SettingsError Unit :=
  match settings.faults.head? with
  | some fault => .error (.invalid fault)
  | none => .ok ()

/-- Settings are accepted exactly if nothing is wrong with them. -/
theorem validate_eq_ok_iff (settings : Settings) : settings.validate = .ok () ↔ settings.faults = [] := by
  rw [← List.head?_eq_none_iff]
  unfold validate
  split <;> simp_all

/-- Settings that are accepted have all that is needed: their spans have a length, their numbers are not zero, and
the bounds of their spans are in order. -/
theorem needs_of_validate {settings : Settings} (valid : settings.validate = .ok ()) :
    (∀ named ∈ settings.neededSpans, 0 < named.2.nanos) ∧ (∀ named ∈ settings.neededCounts, named.2 ≠ 0) ∧
      ∀ named ∈ settings.boundedSpans, named.2.1 ≤ named.2.2 := by
  have nothing := (validate_eq_ok_iff settings).mp valid
  unfold faults at nothing
  simp only [List.append_eq_nil_iff, List.map_eq_nil_iff, List.filter_eq_nil_iff] at nothing
  obtain ⟨⟨⟨⟨_, spans⟩, counts⟩, bounds⟩, _⟩ := nothing
  refine ⟨fun named needed => Nat.pos_of_ne_zero fun zero => spans named needed (beq_iff_eq.mpr zero),
    fun named needed zero => counts named needed (decide_eq_true zero), fun named needed => ?_⟩
  have inOrder : ¬ named.2.2 < named.2.1 := fun crossed => bounds named needed (decide_eq_true crossed)
  exact Nat.le_of_not_lt inOrder

end Settings

end PeerMesh
