import Mathlib.Data.List.Infix
import SeekTalent.Foundation.Machine

/-!
# The lifecycle supervisor

The object that owns the sidecar process of an application and replaces it
(`seektalent/wtscli_lifecycle_supervisor.py`).  Its calls come from any thread, and each start
brings a watchdog thread.  A step is what runs under the lock, or what a thread does between two
such sections; where it waits outside the lock, any other step may come first.

What the files, the operating system and the sidecars answer comes with the step.  A thread can
always be started.
-/

namespace SeekTalent.Wtscli

/-- `WTSCLI_SUPERVISOR_RESTART_BUDGET`. -/
def wtscliSupervisorRestartBudget : Nat := 3

/-- `WTSCLI_SUPERVISOR_HEARTBEAT_TIMEOUT_SECONDS`, in microseconds. -/
def wtscliSupervisorHeartbeatTimeout : Int := 5000000

/-- `LifecycleState`. -/
inductive LifecycleState where
  | stopped | warming | ready | extensionNotConnected | profileNotConnected | needsAttention
  deriving DecidableEq

/-- `WtsCliLifecycleStatus`. -/
structure LifecycleStatus where
  state : LifecycleState
  bridgeBuildId : Option String
  supervisorPid : Option Int
  daemonPid : Option Int
  daemonOwned : Bool
  processHealthy : Bool
  extensionConnected : Bool
  restartCount : Nat
  firstFailureCode : Option String
  reasonCode : Option String
  observedAt : Option String
  supervisorRestartCount : Nat
  supervisorFirstFailureCode : Option String
  deriving DecidableEq

/-- The exceptions, by what the handlers tell apart.  `other` is one that no handler names, such as
the `OverflowError` of `os.kill`. -/
inductive SupervisorError where
  | bootstrap (message : String)
  | lifecycle (safeReasonCode : String)
  | osError | runtimeError | valueError | other
  deriving DecidableEq

/-- What a reading of the status file finds: nothing to read, text that is no status, or a status
with its age in microseconds, if it says when it was observed.  The reading raises on bytes that are
no UTF-8. -/
inductive StatusFile where
  | missing | invalid
  | status (status : LifecycleStatus) (age : Option Int)
  | raised (e : SupervisorError)

/-- `_read_status`, with the age of the status. -/
def readStatus : StatusFile → Except SupervisorError (Option (LifecycleStatus × Option Int))
  | .missing => .ok none
  | .invalid => .ok none
  | .status status age => .ok (some (status, age))
  | .raised e => .error e

/-- `_status_is_stale`. -/
def statusIsStale : Option Int → Bool
  | none => true
  | some age => decide (wtscliSupervisorHeartbeatTimeout < age)

/-- A value of `supervisorPid` in the owner lock: an integer, a number or a Boolean that equals one,
or anything else. -/
inductive PidValue where
  | int (i : Int) | equals (i : Int) | other
  deriving DecidableEq

/-- `owner_pid == self._process.pid`. -/
def PidValue.isPid (pid : Int) : PidValue → Bool
  | .int i => decide (i = pid)
  | .equals i => decide (i = pid)
  | .other => false

/-- What the owner lock says of its owner; its build is `none` when it is no text. -/
structure LockOwner where
  supervisorPid : PidValue
  bridgeBuildId : Option String

/-- What a reading of the owner lock finds. -/
inductive OwnerLock where
  | missing | foreign
  | owner (owner : LockOwner)
  | raised (e : SupervisorError)

/-- `_read_owner_lock`. -/
def readOwnerLock : OwnerLock → Except SupervisorError (Option LockOwner)
  | .missing => .ok none
  | .foreign => .error (.lifecycle "wtscli_supervisor_foreign_owner")
  | .owner owner => .ok (some owner)
  | .raised e => .error e

/-- How `os.kill(pid, 0)` ends. -/
inductive KillAnswer where
  | delivered | refused | overflow
  deriving DecidableEq

/-- `_process_alive`. -/
def processAlive (pid : PidValue) (kill : KillAnswer) : Except SupervisorError Bool :=
  match pid with
  | .int i =>
    if i ≤ 0 then .ok false
    else
      match kill with
      | .delivered => .ok true
      | .refused => .ok false
      | .overflow => .error .other
  | _ => .ok false

/-- How the owner lock is unlinked. -/
inductive UnlinkAnswer where
  | unlinked | gone | osError
  deriving DecidableEq

/-- A reading of the owner lock, and what follows from it. -/
structure LockSight where
  lock : OwnerLock
  kill : KillAnswer
  unlink : UnlinkAnswer

/-- `_remove_stale_owner_lock`. -/
def removeStaleOwnerLock (sight : LockSight) : Except SupervisorError Unit :=
  match readOwnerLock sight.lock with
  | .error e => .error e
  | .ok none => .ok ()
  | .ok (some owner) =>
    match processAlive owner.supervisorPid sight.kill with
    | .error e => .error e
    | .ok true => .error (.lifecycle "wtscli_supervisor_foreign_owner")
    | .ok false =>
      match sight.unlink with
      | .unlinked => .ok ()
      | .gone => .ok ()
      | .osError => .error (.lifecycle "wtscli_supervisor_lock_unavailable")

/-- What one turn of `_wait_for_sidecar_owner` sees: the owner lock, the lock again when it is
removed, whether the sidecar has exited, and the status file. -/
structure OwnerPoll where
  sight : LockSight
  stale : LockSight
  exited : Bool
  status : StatusFile

/-- The first part of a turn of `_wait_for_sidecar_owner`: whether the sidecar owns the lock. -/
def pollOwner (pid : Int) (poll : OwnerPoll) : Except SupervisorError Bool :=
  match readOwnerLock poll.sight.lock with
  | .error e => .error e
  | .ok none => .ok false
  | .ok (some owner) =>
    if owner.supervisorPid.isPid pid then .ok true
    else
      match processAlive owner.supervisorPid poll.sight.kill with
      | .error e => .error e
      | .ok true => .error (.lifecycle "wtscli_supervisor_foreign_owner")
      | .ok false =>
        match removeStaleOwnerLock poll.stale with
        | .error e => .error e
        | .ok () => .ok false

/-- The code with which `_wait_for_sidecar_owner` reports a sidecar that has exited. -/
def exitReason : Option (LifecycleStatus × Option Int) → String
  | none => "wtscli_supervisor_exited"
  | some (status, _) =>
    match status.state, status.reasonCode with
    | .needsAttention, some reason => if reason = "" then "wtscli_supervisor_exited" else reason
    | _, _ => "wtscli_supervisor_exited"

/-- `_wait_for_sidecar_owner`; the turns that are given end with the deadline. -/
def waitForSidecarOwner (pid : Int) : List OwnerPoll → Except SupervisorError Unit
  | [] => .error (.lifecycle "wtscli_supervisor_owner_timeout")
  | poll :: polls =>
    match pollOwner pid poll with
    | .error e => .error e
    | .ok true => .ok ()
    | .ok false =>
      if poll.exited then
        match readStatus poll.status with
        | .error e => .error e
        | .ok status => .error (.lifecycle (exitReason status))
      else waitForSidecarOwner pid polls

/-- How `_spawn_sidecar` ends: it finds no program, something raises before there is a process, or
there is one. -/
inductive SpawnAnswer where
  | missing
  | raised (e : SupervisorError)
  | spawned (pid : Int)

/-- A sidecar process, with what it was told. -/
structure SpawnedSidecar where
  pid : Int
  supervisorRestartCount : Nat
  supervisorFirstFailureCode : Option String
  exited : Bool
  /-- It was handed to `_stop_process`. -/
  handed : Bool
  deriving DecidableEq

/-- Where a watchdog thread is: before its wait, before the lock of its loop, with the process that
it has read, before and after the first section of a recovery, before the second, with the process
that the second has given up, or at its end. -/
inductive WatchdogPoint where
  | waiting | woken
  | looking (process : Option Nat)
  | recovering (reasonCode : String)
  | dropping (process : Nat)
  | respawning
  | discarding (process : Nat)
  | ended
  deriving DecidableEq

/-- The process that a watchdog is about to hand to `_stop_process`. -/
def WatchdogPoint.held : WatchdogPoint → Option Nat
  | .dropping k => some k
  | .discarding k => some k
  | _ => none

/-- A call of `shutdown` behind its section: the watchdog that it joins and the process that it is
to stop.  `starts` is the number of starts before it. -/
structure ShutdownCall where
  watchdog : Option Nat
  process : Option Nat
  returned : Bool
  starts : Nat
  deriving DecidableEq

/-- The attributes of a `WtsCliLifecycleSupervisor`; `runtime` is the build of its runtime.  A
process is named by its place among the sidecars, a thread by its place among the watchdogs. -/
structure LifecycleSupervisor where
  allowStart : Bool
  runtime : Option String
  process : Option Nat
  started : Bool
  readonlyAttach : Bool
  startupError : Option String
  watchdogStop : Bool
  watchdogThread : Option Nat
  startedAt : Nat
  sidecarRestartCount : Nat
  sidecarFirstFailureCode : Option String
  watchdogFailureReason : Option String
  deriving DecidableEq

/-- A supervisor with its processes, its threads and its calls. -/
structure SupervisorRun extends LifecycleSupervisor where
  startupTimeout : Nat
  sidecars : List SpawnedSidecar
  watchdogs : List WatchdogPoint
  shutdowns : List ShutdownCall
  /-- The starts that have reset the supervisor. -/
  starts : Nat
  /-- The sidecars that watchdogs have spawned since the last of them. -/
  respawns : Nat
  /-- The budget was found exhausted since the last of them. -/
  exhausted : Bool
  deriving DecidableEq

/-- What a start meets: its runtime with a verified bundle, its paths, the owner lock and its
removal, the spawn, the turns of the wait, and the clock. -/
structure StartSight where
  runtime : Except SupervisorError String
  paths : Except SupervisorError Unit
  owner : LockSight
  stale : LockSight
  spawn : SpawnAnswer
  polls : List OwnerPoll
  now : Nat

/-- What a call of `status` meets. -/
structure StatusSight where
  file : StatusFile
  owner : OwnerLock
  kill : KillAnswer

/-- What a watchdog meets at a turn. -/
structure WatchdogSight where
  status : StatusFile
  stale : LockSight
  spawn : SpawnAnswer
  polls : List OwnerPoll
  now : Nat

/-- A step: a call, the rest of a shutdown, a turn of a watchdog, or the exit of a sidecar. -/
inductive SupervisorEvent where
  | start (sight : StartSight)
  | recordStartupFailure (error : SupervisorError)
  | shutdown
  | shutdownGoesOn (i : Nat) (timedOut : Bool)
  | status (sight : StatusSight)
  | watchdog (w : Nat) (sight : WatchdogSight)
  | exits (k : Nat)

/-- `_bootstrap_reason`. -/
def bootstrapReason (message : String) : String :=
  if "domi_node_missing".toList.isPrefixOf message.toList then "wtscli_node_missing"
  else if "opencli_offline_runtime_missing".toList.isPrefixOf
    message.toList then "wtscli_bundle_missing"
  else if "build_mismatch".toList <:+: message.toList then "wtscli_runtime_build_mismatch"
  else "wtscli_bundle_integrity_failed"

/-- `_safe_supervisor_reason`. -/
def safeSupervisorReason : SupervisorError → String
  | .lifecycle code => code
  | _ => "wtscli_supervisor_restart_failed"

namespace LifecycleSupervisor

/-- A supervisor as it is constructed. -/
def new (allowStart : Bool) (runtime : Option String) : LifecycleSupervisor where
  allowStart := allowStart
  runtime := runtime
  process := none
  started := false
  readonlyAttach := false
  startupError := none
  watchdogStop := false
  watchdogThread := none
  startedAt := 0
  sidecarRestartCount := 0
  sidecarFirstFailureCode := none
  watchdogFailureReason := none

/-- `attach`. -/
def attach (runtime : String) : LifecycleSupervisor :=
  { new false (some runtime) with readonlyAttach := true, started := true }

end LifecycleSupervisor

namespace SupervisorRun

/-- A supervisor of which nothing was asked yet. -/
def initial (supervisor : LifecycleSupervisor) (startupTimeout : Nat) : SupervisorRun where
  toLifecycleSupervisor := supervisor
  startupTimeout := startupTimeout
  sidecars := []
  watchdogs := []
  shutdowns := []
  starts := 0
  respawns := 0
  exhausted := false

variable (s : SupervisorRun)

/-- A process is handed to `_stop_process`. -/
def stopProcess (k : Nat) : SupervisorRun :=
  { s with sidecars := s.sidecars.modify k (fun c => { c with handed := true }) }

/-- A process is handed to `_stop_process` if there is one. -/
def stopProcess? : Option Nat → SupervisorRun
  | none => s
  | some k => s.stopProcess k

/-- The rest of `_spawn_sidecar` when there is a process. -/
def spawnSidecar (pid : Int) (exited : Bool) : SupervisorRun :=
  { s with
    process := some s.sidecars.length
    sidecars := s.sidecars ++ [{
      pid := pid
      supervisorRestartCount := s.sidecarRestartCount
      supervisorFirstFailureCode := s.sidecarFirstFailureCode
      exited := exited
      handed := false }] }

/-- A watchdog goes to another place. -/
def moveWatchdog (w : Nat) (p : WatchdogPoint) : SupervisorRun :=
  { s with watchdogs := s.watchdogs.set w p }

/-! ## `start` -/

/-- `_reset_failed_start`. -/
def resetFailedStart : SupervisorRun :=
  ({ s with process := none, started := false } : SupervisorRun).stopProcess? s.process

/-- The handlers of `start`; an exception that none of them names goes through. -/
def failedStart : SupervisorError → SupervisorRun
  | .other => s
  | _ => s.resetFailedStart

/-- What `start` does before it resets the supervisor: the owner lock must not be that of a living
process. -/
def checkOwner (sight : StartSight) : Except SupervisorError Unit :=
  match sight.paths with
  | .error e => .error e
  | .ok () =>
    match readOwnerLock sight.owner.lock with
    | .error e => .error e
    | .ok none => .ok ()
    | .ok (some owner) =>
      match processAlive owner.supervisorPid sight.owner.kill with
      | .error e => .error e
      | .ok true => .error (.lifecycle "wtscli_supervisor_foreign_owner")
      | .ok false => removeStaleOwnerLock sight.stale

/-- The supervisor is reset: the counters, the failures and the flag of the watchdog. -/
def beginStart : SupervisorRun :=
  { s with
    sidecarRestartCount := 0
    sidecarFirstFailureCode := none
    watchdogFailureReason := none
    watchdogStop := false
    starts := s.starts + 1
    respawns := 0
    exhausted := false }

/-- `_start_watchdog`. -/
def startWatchdog : SupervisorRun :=
  if s.readonlyAttach || s.watchdogThread.isSome then s
  else
    { s with
      watchdogThread := some s.watchdogs.length
      watchdogs := s.watchdogs ++ [.waiting] }

/-- The end of `start`, when there is a process. -/
def awaitStarted (pid : Int) (sight : StartSight) : SupervisorRun :=
  let spawned := { s.spawnSidecar pid (sight.polls.any OwnerPoll.exited) with
    started := true
    startedAt := sight.now }
  match waitForSidecarOwner pid sight.polls with
  | .error e => spawned.failedStart e
  | .ok () => spawned.startWatchdog

/-- The part of `start` behind the check of the owner. -/
def startOver (sight : StartSight) : SupervisorRun :=
  match sight.spawn with
  | .missing => s.beginStart.failedStart (.lifecycle "wtscli_supervisor_sidecar_missing")
  | .raised e => s.beginStart.failedStart e
  | .spawned pid => s.beginStart.awaitStarted pid sight

/-- `start`. -/
def start (sight : StartSight) : SupervisorRun :=
  if s.started then s
  else if !s.allowStart then s
  else
    match sight.runtime with
    | .error e => s.failedStart e
    | .ok runtime =>
      match checkOwner sight with
      | .error e => ({ s with runtime := some runtime } : SupervisorRun).failedStart e
      | .ok () => ({ s with runtime := some runtime } : SupervisorRun).startOver sight

/-- `record_startup_failure`. -/
def recordStartupFailure : SupervisorError → SupervisorRun
  | .lifecycle code => { s with startupError := some code }
  | .bootstrap message => { s with startupError := some (bootstrapReason message) }
  | _ => { s with startupError := some "wtscli_supervisor_start_failed" }

/-! ## `shutdown` -/

/-- The section of `shutdown`. -/
def shutdown : SupervisorRun :=
  if !s.started && s.process.isNone then
    { s with
      shutdowns := s.shutdowns ++ [{
        watchdog := none, process := none, returned := true, starts := s.starts }] }
  else
    { s with
      watchdogStop := true
      watchdogThread := none
      process := none
      started := false
      shutdowns := s.shutdowns ++ [{
        watchdog := s.watchdogThread, process := s.process, returned := false, starts :=
          s.starts }] }

/-- A join of a watchdog returns: there is none, or it has ended, or the two seconds are over. -/
def joins (watchdog : Option Nat) (timedOut : Bool) : Bool :=
  match watchdog with
  | none => true
  | some w => timedOut || s.watchdogs[w]? == some .ended

/-- The rest of a call of `shutdown`, when its join returns. -/
def shutdownGoesOn (i : Nat) (timedOut : Bool) : SupervisorRun :=
  match s.shutdowns[i]? with
  | none => s
  | some call =>
    if !call.returned && s.joins call.watchdog timedOut then
      ({ s with
        shutdowns := s.shutdowns.set i { call with process := none, returned := true } } :
          SupervisorRun).stopProcess? call.process
    else s

/-! ## `status` -/

/-- `_attention_status`. -/
def attentionStatus (status : Option LifecycleStatus) (reasonCode : String) : LifecycleStatus where
  state := .needsAttention
  bridgeBuildId := status.bind LifecycleStatus.bridgeBuildId
  supervisorPid := status.bind LifecycleStatus.supervisorPid
  daemonPid := status.bind LifecycleStatus.daemonPid
  daemonOwned := false
  processHealthy := false
  extensionConnected := false
  restartCount := (status.map LifecycleStatus.restartCount).getD 0
  firstFailureCode := status.bind LifecycleStatus.firstFailureCode
  reasonCode := some reasonCode
  observedAt := status.bind LifecycleStatus.observedAt
  supervisorRestartCount :=
    (status.map LifecycleStatus.supervisorRestartCount).getD s.sidecarRestartCount
  supervisorFirstFailureCode :=
    (status.map LifecycleStatus.supervisorFirstFailureCode).getD s.sidecarFirstFailureCode

/-- `process.poll() is not None`. -/
def hasExited (k : Nat) : Bool :=
  (s.sidecars[k]?.map SpawnedSidecar.exited).getD false

/-- The status of a supervisor that has started and of which there is no file. -/
def warmingStatus : LifecycleStatus where
  state := .warming
  bridgeBuildId := s.runtime
  supervisorPid := s.process.bind fun k =>
    s.sidecars[k]?.bind fun c => if c.exited then none else some c.pid
  daemonPid := none
  daemonOwned := true
  processHealthy := false
  extensionConnected := false
  restartCount := 0
  firstFailureCode := none
  reasonCode := none
  observedAt := none
  supervisorRestartCount := s.sidecarRestartCount
  supervisorFirstFailureCode := s.sidecarFirstFailureCode

/-- The status of a supervisor that has not started. -/
def stoppedStatus : LifecycleStatus where
  state := .stopped
  bridgeBuildId := none
  supervisorPid := none
  daemonPid := none
  daemonOwned := false
  processHealthy := false
  extensionConnected := false
  restartCount := 0
  firstFailureCode := none
  reasonCode := none
  observedAt := none
  supervisorRestartCount := 0
  supervisorFirstFailureCode := none

/-- The part of `status` for the owner of a sidecar, behind the failures of the watchdog. -/
def ownedStatus : Option (LifecycleStatus × Option Int) → LifecycleStatus
  | some (status, age) =>
    if s.started && s.process.any s.hasExited then
      s.attentionStatus (some status) "wtscli_supervisor_exited"
    else if s.started && statusIsStale age then
      s.attentionStatus (some status) "wtscli_supervisor_heartbeat_stale"
    else status
  | none =>
    match s.startupError with
    | some reason => s.attentionStatus none reason
    | none => if s.started then s.warmingStatus else stoppedStatus

/-- Whether the owner of the lock is the sidecar of the status, with the build of the runtime. -/
def observes (status : LifecycleStatus) (owner : LockOwner) : Bool :=
  owner.bridgeBuildId == s.runtime && status.supervisorPid.any owner.supervisorPid.isPid

/-- `_observer_status`. -/
def observerStatus (status : Option (LifecycleStatus × Option Int)) (sight : StatusSight) :
    Except SupervisorError LifecycleStatus :=
  match readOwnerLock sight.owner with
  | .error e => .error e
  | .ok owner =>
    match status, owner with
    | some (status, age), some owner =>
      if s.observes status owner then
        match processAlive owner.supervisorPid sight.kill with
        | .error e => .error e
        | .ok false => .ok (s.attentionStatus (some status) "wtscli_supervisor_lost")
        | .ok true =>
          if statusIsStale age then
            .ok (s.attentionStatus (some status) "wtscli_supervisor_heartbeat_stale")
          else .ok status
      else .ok (s.attentionStatus (some status) "wtscli_supervisor_lost")
    | _, _ => .ok (s.attentionStatus (status.map Prod.fst) "wtscli_supervisor_lost")

/-- `status`. -/
def status (sight : StatusSight) : Except SupervisorError LifecycleStatus :=
  match readStatus sight.file with
  | .error e => .error e
  | .ok status =>
    if s.readonlyAttach then s.observerStatus status sight
    else
      match s.watchdogFailureReason with
      | some reason => .ok (s.attentionStatus (status.map Prod.fst) reason)
      | none => .ok (s.ownedStatus status)

/-! ## The watchdog -/

/-- What a watchdog does about the process that it has read: it recovers it, it goes on, or it ends
with an exception. -/
def look (process : Option Nat) (sight : WatchdogSight) : WatchdogPoint :=
  match readStatus sight.status with
  | .error _ => .ended
  | .ok status =>
    match process with
    | none => .recovering "wtscli_supervisor_missing"
    | some k =>
      if s.hasExited k then .recovering "wtscli_supervisor_exited"
      else
        match status with
        | some (_, age) =>
          if statusIsStale age then .recovering "wtscli_supervisor_heartbeat_stale" else .waiting
        | none =>
          if s.startupTimeout < sight.now - s.startedAt then
            .recovering "wtscli_supervisor_heartbeat_missing"
          else .waiting

/-- A section of `_recover_sidecar` finds the budget exhausted. -/
def exhaust (w : Nat) : SupervisorRun :=
  { s.moveWatchdog w .waiting with
    watchdogFailureReason := some "wtscli_supervisor_restart_budget_exhausted"
    exhausted := true }

/-- The place of a watchdog behind the first section, with the process that it has dropped. -/
def dropped : Option Nat → WatchdogPoint
  | some k => .dropping k
  | none => .respawning

/-- The first section of `_recover_sidecar`. -/
def dropSidecar (w : Nat) (reasonCode : String) : SupervisorRun :=
  if !s.started || s.readonlyAttach then s.moveWatchdog w .waiting
  else if wtscliSupervisorRestartBudget < s.sidecarRestartCount then s.exhaust w
  else
    { s.moveWatchdog w (dropped s.process) with
      process := none
      sidecarRestartCount := s.sidecarRestartCount + 1
      sidecarFirstFailureCode := s.sidecarFirstFailureCode.or (some reasonCode)
      watchdogFailureReason := some reasonCode }

/-- The place of a watchdog behind the handler of the second section. -/
def discarded : Option Nat → WatchdogPoint
  | some k => .discarding k
  | none => .waiting

/-- The handler of the second section; an exception that it does not name ends the thread. -/
def failedRespawn (w : Nat) : SupervisorError → SupervisorRun
  | .other => s.moveWatchdog w .ended
  | e =>
    { s.moveWatchdog w (discarded s.process) with
      process := none
      watchdogFailureReason := some (safeSupervisorReason e) }

/-- The end of the second section, when there is a process. -/
def awaitRespawned (w : Nat) (pid : Int) (sight : WatchdogSight) : SupervisorRun :=
  let spawned := { s.spawnSidecar pid (sight.polls.any OwnerPoll.exited) with
    startedAt := sight.now
    respawns := s.respawns + 1 }
  match waitForSidecarOwner pid sight.polls with
  | .error e => spawned.failedRespawn w e
  | .ok () => { spawned.moveWatchdog w .waiting with watchdogFailureReason := none }

/-- The second section of `_recover_sidecar`. -/
def respawn (w : Nat) (sight : WatchdogSight) : SupervisorRun :=
  if !s.started || s.watchdogStop then s.moveWatchdog w .waiting
  else if wtscliSupervisorRestartBudget < s.sidecarRestartCount then s.exhaust w
  else
    match removeStaleOwnerLock sight.stale with
    | .error e => s.failedRespawn w e
    | .ok () =>
      match sight.spawn with
      | .missing => s.failedRespawn w (.lifecycle "wtscli_supervisor_sidecar_missing")
      | .raised e => s.failedRespawn w e
      | .spawned pid => s.awaitRespawned w pid sight

/-- A turn of a watchdog: `_watchdog_loop` with `_recover_sidecar`. -/
def watchdogTurn (w : Nat) (sight : WatchdogSight) : SupervisorRun :=
  match s.watchdogs[w]? with
  | none => s
  | some .ended => s
  | some .waiting => s.moveWatchdog w (if s.watchdogStop then .ended else .woken)
  | some .woken =>
    s.moveWatchdog w (if !s.started || s.readonlyAttach then .ended else .looking s.process)
  | some (.looking process) => s.moveWatchdog w (s.look process sight)
  | some (.recovering reasonCode) => s.dropSidecar w reasonCode
  | some (.dropping k) => (s.stopProcess k).moveWatchdog w .respawning
  | some .respawning => s.respawn w sight
  | some (.discarding k) => (s.stopProcess k).moveWatchdog w .waiting

/-- A step. -/
def step : SupervisorEvent → SupervisorRun
  | .start sight => s.start sight
  | .recordStartupFailure error => s.recordStartupFailure error
  | .shutdown => s.shutdown
  | .shutdownGoesOn i timedOut => s.shutdownGoesOn i timedOut
  | .status _ => s
  | .watchdog w sight => s.watchdogTurn w sight
  | .exits k => { s with sidecars := s.sidecars.modify k (fun c => { c with exited := true }) }

end SupervisorRun

end SeekTalent.Wtscli
