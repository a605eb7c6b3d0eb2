import SeekTalent.Foundation.Machine

/-!
# The lifecycle sidecar

The process that starts the browser daemon, watches it and restarts it
(`seektalent/wtscli_lifecycle_sidecar.mjs`).  A step is what the event loop runs at one of its
turns: the code behind an `await` up to the next one that waits, a callback of a child, a timer or a
signal. An `await` of a promise that is settled already does not give up the turn: a stop of no
child goes on at once.

The modules of the daemon package are not part of the repository: what they answer comes with the
step.  The files of the sidecar are taken to be written.
-/

namespace SeekTalent.Wtscli

/-- `maxRestarts`. -/
def maxRestarts : Nat := 3

/-- `state` of the health of a daemon; `warming` stands for any other text. -/
inductive HealthState where
  | foreign | stopped | ready | noExtension | profileDisconnected | profileRequired | needsAttention
  | warming
  deriving DecidableEq

/-- `state` of the status file. -/
inductive PublishedState where
  | needsAttention | ready | extensionNotConnected | profileNotConnected | stopped | warming
  deriving DecidableEq

/-- How a request for the health of the daemon ends: with a state, and whether its status names
another build; with an error, and whether the ownership record then names the token and the child;
or with an error of the ownership record itself. -/
inductive HealthAnswer where
  | health (state : HealthState) (otherBuild : Bool)
  | failed (recordMatches : Bool)
  | raised (message : String)

/-- How the preparation of an ownership record ends. -/
inductive PrepareAnswer where
  | prepared | busy
  | raised (message : String)

/-- How the launch of a daemon ends: its command is not resolved, it is not spawned, it is spawned
but not bound to its record, or it is spawned and bound.  A spawned process may have failed to
run. -/
inductive LaunchAnswer where
  | unresolved (message : String)
  | refused (message : String)
  | unbound (running : Bool) (message : String)
  | bound (running : Bool) (now : Nat)

/-- A child that was spawned, with the token of its ownership record. -/
structure DaemonChild where
  token : Nat
  /-- `handleChildExit` listens to its events. -/
  listening : Bool
  running : Bool
  exitCode : Option Int
  /-- It was asked to shut down, or killed. -/
  asked : Bool
  errorReported : Bool
  exitReported : Bool
  deriving DecidableEq

/-- A child that was just spawned. -/
def DaemonChild.spawned (token : Nat) (listening running : Bool) : DaemonChild where
  token := token
  listening := listening
  running := running
  exitCode := none
  asked := false
  errorReported := false
  exitReported := false

/-- Where `stopOwnedChild` waits, with the child that it stops. -/
inductive StopPoint where
  | request (k : Nat)
  | exit (k : Nat)
  deriving DecidableEq

/-- The child that is stopped. -/
def StopPoint.target : StopPoint → Nat
  | .request k => k
  | .exit k => k

/-- Where `ensureDaemon` waits. -/
inductive StartPoint where
  | health
  | busyHealth
  | stopping (p : StopPoint) (message : String)
  deriving DecidableEq

/-- Where the main program waits. -/
inductive MainPoint where
  | starting (p : StartPoint)
  | loop
  | health
  | stopping (p : StopPoint)
  | shuttingDown (p : StopPoint)
  | failing (p : StopPoint) (reason : String)
  | ended
  deriving DecidableEq

/-- The variables of the sidecar about its daemon, with the processes and the records they are
about. -/
structure DaemonCustody where
  child : Option Nat
  daemonOwned : Bool
  daemonToken : Option Nat
  /-- The children, in the order of their spawns. -/
  children : List DaemonChild
  /-- The tokens of the ownership records that were not removed. -/
  records : List Nat
  /-- The number of tokens that were drawn. -/
  prepared : Nat

namespace DaemonCustody

variable (o : DaemonCustody)

/-- The exit code of a child. -/
def exitCodeOf (k : Nat) : Option Int :=
  o.children[k]?.bind DaemonChild.exitCode

/-- A child is asked to stop. -/
def ask (k : Nat) : DaemonCustody :=
  { o with children := o.children.modify k (fun d => { d with asked := true }) }

/-- The process of a child ends. -/
def die (k : Nat) : DaemonCustody :=
  { o with children := o.children.modify k (fun d => { d with running := false }) }

/-- Something is reported of a child. -/
def report (k : Nat) (d : DaemonChild) : DaemonCustody :=
  { o with children := o.children.set k d }

/-- The child is forgotten. -/
def release : DaemonCustody :=
  { o with child := none, daemonOwned := false }

/-- Remove the ownership record of the current token. -/
def removeRecord : DaemonCustody :=
  match o.daemonToken with
  | none => o
  | some token =>
    { o with records := o.records.filter (fun held => held ≠ token), daemonToken := none }

/-- An ownership record is prepared, with a new token. -/
def prepare : DaemonCustody :=
  { o with
    daemonToken := some o.prepared
    records := o.records ++ [o.prepared]
    prepared := o.prepared + 1 }

/-- `spawn` of a daemon with the current token. -/
def spawn (listening running : Bool) : DaemonCustody :=
  { o with
    child := some o.children.length
    children := o.children ++ [.spawned (o.daemonToken.getD 0) listening running] }

end DaemonCustody

/-- The sidecar, its daemon and what of it waits. -/
structure Sidecar extends DaemonCustody where
  stopping : Bool
  restartCount : Nat
  firstFailureCode : Option String
  pendingRestart : Option Nat
  attentionReason : Option String
  childStartedAt : Option Nat
  published : PublishedState
  /-- The restart timers that run. -/
  timers : List Nat
  main : MainPoint
  restarts : List StartPoint
  /-- The number of restarts that have begun. -/
  begun : Nat
  signalled : Option StopPoint
  /-- The process has ended. -/
  exited : Bool

namespace Sidecar

/-! ## Status -/

/-- The sidecar with its daemon changed. -/
def onDaemon (s : Sidecar) (change : DaemonCustody → DaemonCustody) : Sidecar :=
  { s with toDaemonCustody := change s.toDaemonCustody }

/-- `writeStatus`. -/
def writeStatus (s : Sidecar) (state : HealthState) : Sidecar :=
  { s with published :=
      if s.attentionReason.isSome then .needsAttention
      else match state with
        | .ready => .ready
        | .noExtension => .extensionNotConnected
        | .profileDisconnected | .profileRequired => .profileNotConnected
        | .needsAttention => .needsAttention
        | .stopped => if s.stopping then .stopped else .warming
        | _ => .warming }

/-- `markNeedsAttention`. -/
def markNeedsAttention (s : Sidecar) (reason : String) : Sidecar :=
  { s with attentionReason := some reason, published := .needsAttention }

/-- `safeReason`. -/
def safeReason (value fallback : String) : String :=
  match value.toList with
  | [] => fallback
  | first :: rest =>
    if 'a' ≤ first ∧ first ≤ 'z' ∧ rest.length ≤ 159 ∧ rest.all (fun c =>
      ('a' ≤ c && c ≤ 'z') || ('0' ≤ c && c ≤ '9') || c = '_') then value
    else fallback

/-- `safeExitCode`. -/
def safeExitCode (code : Option Int) (signal : Option String) : String :=
  match code, signal with
  | some code, _ => "wtscli_daemon_exit_" ++ toString code
  | none, some signal =>
    if signal.toList ≠ [] ∧ signal.toList.all (fun c =>
      ('A' ≤ c && c ≤ 'Z') || ('0' ≤ c && c ≤ '9') || c = '_') then "wtscli_daemon_" ++
        signal.toLower
    else "wtscli_daemon_exit_unknown"
  | none, none => "wtscli_daemon_exit_unknown"

/-- `inspectHealth` after the answer. -/
def inspectHealth (s : Sidecar) : HealthAnswer → Except String HealthState
  | .health state otherBuild => .ok (if otherBuild then .foreign else state)
  | .failed recordMatches =>
    match s.child with
    | none => .ok .foreign
    | some k =>
      if s.daemonOwned ∧ s.exitCodeOf k = none ∧ s.daemonToken.isSome ∧
        recordMatches then .ok .warming
      else .ok .foreign
  | .raised message => .error message

/-! ## Stopping -/

/-- `stopOwnedChild` up to where it waits, if there is a child to stop. -/
def stopOwnedChild (s : Sidecar) : Sidecar × Option StopPoint :=
  let stopped := { s.onDaemon DaemonCustody.release with childStartedAt := none }
  match s.child with
  | none => (stopped, none)
  | some k =>
    if s.daemonOwned then (stopped.onDaemon (fun o => o.ask k), some (.request k))
    else (stopped, some (.exit k))

/-- The answer of `requestDaemonShutdown`. -/
def requestAnswered (s : Sidecar) (k : Nat) (accepted : Bool) : Sidecar :=
  if !accepted && (s.exitCodeOf k).isNone then s.onDaemon (fun o => o.ask k) else s

/-- The end of `waitForExit`. -/
def exitWaited (s : Sidecar) (k : Nat) : Sidecar :=
  if (s.exitCodeOf k).isNone then s.onDaemon (fun o => o.ask k) else s

/-- `shutdown` behind its stop. -/
def finishShutdown (s : Sidecar) : Sidecar :=
  { ({ s.onDaemon DaemonCustody.removeRecord with attentionReason := none }.writeStatus
    .stopped) with exited := true }

/-- `shutdown` before its stop. -/
def beginShutdown (s : Sidecar) : Sidecar :=
  { s with
    stopping := true
    timers := s.timers.filter (fun id => some id ≠ s.pendingRestart)
    pendingRestart := none }

/-- `shutdown` up to where it waits; `place` says what waits. -/
def shutdown (s : Sidecar) (place : StopPoint → Sidecar → Sidecar) : Sidecar :=
  match s.beginShutdown.stopOwnedChild with
  | (stopped, none) => stopped.finishShutdown
  | (stopped, some p) => place p stopped

/-- The handler of the main program behind its stop. -/
def finishFailure (s : Sidecar) (reason : String) : Sidecar :=
  { (s.onDaemon DaemonCustody.removeRecord).markNeedsAttention reason with main := .ended }

/-- The main program has caught an error. -/
def failMain (s : Sidecar) (message : String) : Sidecar :=
  let reason := safeReason message "wtscli_supervisor_start_failed"
  match s.stopOwnedChild with
  | (stopped, none) => stopped.finishFailure reason
  | (stopped, some p) => { stopped with main := .failing p reason }

/-! ## Starting -/

/-- How a part of `ensureDaemon` ends. -/
inductive StartResult where
  | started
  | failed (message : String)
  | waits (p : StartPoint)

/-- `ensureDaemon` with a prepared record. -/
def launch (s : Sidecar) : LaunchAnswer → Sidecar × StartResult
  | .unresolved message => (s, .failed message)
  | .refused message =>
    match s.stopOwnedChild with
    | (stopped, none) => (stopped.onDaemon DaemonCustody.removeRecord, .failed message)
    | (stopped, some p) => (stopped, .waits (.stopping p message))
  | .unbound running message =>
    match (s.onDaemon (fun o => o.spawn false running)).stopOwnedChild with
    | (stopped, none) => (stopped.onDaemon DaemonCustody.removeRecord, .failed message)
    | (stopped, some p) => (stopped, .waits (.stopping p message))
  | .bound running now =>
    let spawned := s.onDaemon (fun o => { o.spawn true running with daemonOwned := true })
    ({ spawned with childStartedAt := some now }.writeStatus .warming, .started)

/-- `ensureDaemon` behind its first look at the health of a daemon. -/
def startAnswered (s : Sidecar) (answer : HealthAnswer) (prepare : PrepareAnswer)
    (launched : LaunchAnswer) : Sidecar × StartResult :=
  match s.inspectHealth answer with
  | .error message => (s, .failed message)
  | .ok .foreign => (s, .failed "wtscli_foreign_owner")
  | .ok .stopped =>
    match prepare with
    | .raised message => (s, .failed message)
    | .busy => (s, .waits .busyHealth)
    | .prepared => (s.onDaemon DaemonCustody.prepare).launch launched
  | .ok _ => (s, .failed "wtscli_daemon_existing_without_owner")

/-- `ensureDaemon` behind its second look, where the record was busy. -/
def busyAnswered (s : Sidecar) (answer : HealthAnswer) : Sidecar × StartResult :=
  match s.inspectHealth answer with
  | .error message => (s, .failed message)
  | .ok .foreign => (s, .failed "wtscli_foreign_owner")
  | .ok .stopped => (s, .failed "wtscli_daemon_owner_busy")
  | .ok _ => (s, .failed "wtscli_daemon_existing_without_owner")

/-- The main program goes on behind a part of `ensureDaemon`. -/
def mainStarted : Sidecar × StartResult → Sidecar
  | (s, .started) => { s with main := .loop }
  | (s, .failed message) => s.failMain message
  | (s, .waits p) => { s with main := .starting p }

/-- A restart goes on behind a part of `ensureDaemon`. -/
def restarted (i : Nat) : Sidecar × StartResult → Sidecar
  | (s, .started) => { s with restarts := s.restarts.eraseIdx i }
  | (s, .failed message) =>
    { s with restarts := s.restarts.eraseIdx i }.markNeedsAttention
      (safeReason message "wtscli_daemon_restart_failed")
  | (s, .waits p) => { s with restarts := s.restarts.set i p }

/-! ## Events of a child -/

/-- The child is forgotten and its failure counted. -/
def countFailure (s : Sidecar) (code : Option Int) (signal : Option String) : Sidecar :=
  { s.onDaemon (fun o => o.release.removeRecord) with
    childStartedAt := none
    restartCount := s.restartCount + 1
    firstFailureCode := some (s.firstFailureCode.getD (safeExitCode code signal)) }

/-- The timer of a restart is set. -/
def scheduleRestart (s : Sidecar) : Sidecar :=
  { s with timers := s.timers ++ [s.restartCount], pendingRestart := some s.restartCount }

/-- `handleChildExit`. -/
def handleChildExit (s : Sidecar) (code : Option Int) (signal : Option String) : Sidecar :=
  if s.stopping ∨ s.child = none then s
  else if s.restartCount + 1 > maxRestarts then
    (s.countFailure code signal).markNeedsAttention "wtscli_daemon_restart_budget_exhausted"
  else ((s.countFailure code signal).writeStatus .warming).scheduleRestart

end Sidecar

/-! ## Steps -/

/-- The programs that wait for a child they stop. -/
inductive Stopper where
  | main
  | restart (i : Nat)
  | signal
  deriving DecidableEq

/-- What the event loop runs. -/
inductive SidecarEvent where
  /-- An iteration of `monitor` begins. -/
  | wake (control parentDied : Bool)
  /-- The health that the main program waits for. -/
  | mainHealth (answer : HealthAnswer) (prepare : PrepareAnswer) (launched : LaunchAnswer)
      (now : Nat)
  /-- The health that a restart waits for. -/
  | restartHealth (i : Nat) (answer : HealthAnswer) (prepare : PrepareAnswer)
      (launched : LaunchAnswer)
  | shutdownAnswered (stopper : Stopper) (accepted : Bool)
  | exitWaited (stopper : Stopper)
  /-- The process of a child ends; its events come later. -/
  | dies (k : Nat)
  | exitEvent (k : Nat) (code : Option Int) (signal : Option String)
  | errorEvent (k : Nat)
  | restartTimer (id : Nat)
  | signal

namespace Sidecar

/-- The daemon of a live child has not answered within the time that it has for its start. -/
def listenerOverdue (s : Sidecar) (timeout now : Nat) : Bool :=
  match s.childStartedAt with
  | none => false
  | some startedAt => timeout ≤ now - startedAt

/-- `monitor` from the head of its loop up to where it waits. -/
def wake (s : Sidecar) (control parentDied : Bool) : Sidecar :=
  if s.stopping then { s with main := .ended }
  else if control ∨ parentDied then
    s.shutdown (fun p stopped => { stopped with main := .shuttingDown p })
  else if s.attentionReason.isSome then s.writeStatus .needsAttention
  else { s with main := .health }

/-- `monitor` behind the health it has asked for. -/
def monitored (timeout : Nat) (s : Sidecar) (answer : HealthAnswer) (now : Nat) : Sidecar :=
  match s.inspectHealth answer with
  | .error message => s.failMain message
  | .ok .foreign => { s.markNeedsAttention "wtscli_foreign_owner" with main := .loop }
  | .ok state =>
    match s.child with
    | none => { s.writeStatus state with main := .loop }
    | some k =>
      if state = .stopped ∧ s.exitCodeOf k = none then
        if s.daemonOwned then
          if s.listenerOverdue timeout now then
            match s.stopOwnedChild with
            | (stopped, none) => { stopped with main := .loop }
            | (stopped, some p) => { stopped with main := .stopping p }
          else { s.writeStatus .warming with main := .loop }
        else { s with main := .loop }
      else { s.writeStatus state with main := .loop }

/-- The main program gets an answer about the health of the daemon. -/
def mainHealth (timeout : Nat) (s : Sidecar) (answer : HealthAnswer) (prepare : PrepareAnswer)
    (launched : LaunchAnswer) (now : Nat) : Sidecar :=
  match s.main with
  | .starting .health => mainStarted (s.startAnswered answer prepare launched)
  | .starting .busyHealth => mainStarted (s.busyAnswered answer)
  | .health => s.monitored timeout answer now
  | _ => s

/-- A restart gets an answer about the health of the daemon. -/
def restartHealth (s : Sidecar) (i : Nat) (answer : HealthAnswer) (prepare : PrepareAnswer)
    (launched : LaunchAnswer) : Sidecar :=
  match s.restarts[i]? with
  | some .health => restarted i (s.startAnswered answer prepare launched)
  | some .busyHealth => restarted i (s.busyAnswered answer)
  | _ => s

/-- The answer to a request for the shutdown of the daemon. -/
def shutdownAnswered (s : Sidecar) (accepted : Bool) : Stopper → Sidecar
  | .main =>
    match s.main with
    | .starting (.stopping (.request k) message) =>
      { s.requestAnswered k accepted with main := .starting (.stopping (.exit k) message) }
    | .stopping (.request k) => { s.requestAnswered k accepted with main := .stopping (.exit k) }
    | .shuttingDown (.request k) =>
      { s.requestAnswered k accepted with main := .shuttingDown (.exit k) }
    | .failing (.request k) reason =>
      { s.requestAnswered k accepted with main := .failing (.exit k) reason }
    | _ => s
  | .restart i =>
    match s.restarts[i]? with
    | some (.stopping (.request k) message) =>
      { s.requestAnswered k accepted with
        restarts := s.restarts.set i (.stopping (.exit k) message) }
    | _ => s
  | .signal =>
    match s.signalled with
    | some (.request k) => { s.requestAnswered k accepted with signalled := some (.exit k) }
    | _ => s

/-- The exit of a child that is stopped was waited for. -/
def stopWaited (s : Sidecar) : Stopper → Sidecar
  | .main =>
    match s.main with
    | .starting (.stopping (.exit k) message) =>
      mainStarted ((s.exitWaited k).onDaemon DaemonCustody.removeRecord, .failed message)
    | .stopping (.exit k) => { s.exitWaited k with main := .loop }
    | .shuttingDown (.exit k) => (s.exitWaited k).finishShutdown
    | .failing (.exit k) reason => (s.exitWaited k).finishFailure reason
    | _ => s
  | .restart i =>
    match s.restarts[i]? with
    | some (.stopping (.exit k) message) =>
      restarted i ((s.exitWaited k).onDaemon DaemonCustody.removeRecord, .failed message)
    | _ => s
  | .signal =>
    match s.signalled with
    | some (.exit k) => (s.exitWaited k).finishShutdown
    | _ => s

/-- The exit of a child is reported. -/
def exitEvent (s : Sidecar) (k : Nat) (code : Option Int) (signal : Option String) : Sidecar :=
  match s.children[k]? with
  | none => s
  | some d =>
    if d.running ∨ d.exitReported then s
    else
      let reported :=
        s.onDaemon (fun o => o.report k { d with exitCode := code, exitReported := true })
      if d.listening then reported.handleChildExit code signal else reported

/-- An error of a child is reported; where nothing listens, it ends the process. -/
def errorEvent (s : Sidecar) (k : Nat) : Sidecar :=
  match s.children[k]? with
  | none => s
  | some d =>
    if d.errorReported then s
    else
      let reported := s.onDaemon (fun o => o.report k { d with errorReported := true })
      if d.listening then reported.handleChildExit none none else { reported with exited := true }

/-- A restart timer ends: `ensureDaemon` begins. -/
def restartTimer (s : Sidecar) (id : Nat) : Sidecar :=
  if id ∈ s.timers then
    { s with
      timers := s.timers.erase id
      pendingRestart := none
      restarts := s.restarts ++ [.health]
      begun := s.begun + 1 }
  else s

/-- One step. -/
def step (timeout : Nat) (s : Sidecar) (event : SidecarEvent) : Sidecar :=
  if s.exited then s
  else match event with
    | .wake control parentDied => if s.main = .loop then s.wake control parentDied else s
    | .mainHealth answer prepare launched now => s.mainHealth timeout answer prepare launched now
    | .restartHealth i answer prepare launched => s.restartHealth i answer prepare launched
    | .shutdownAnswered stopper accepted => s.shutdownAnswered accepted stopper
    | .exitWaited stopper => s.stopWaited stopper
    | .dies k => s.onDaemon (fun o => o.die k)
    | .exitEvent k code signal => s.exitEvent k code signal
    | .errorEvent k => s.errorEvent k
    | .restartTimer id => s.restartTimer id
    | .signal =>
      if s.stopping then s else s.shutdown (fun p stopped => { stopped with signalled := some p })

/-- The sidecar when its lock is claimed and its main program first asks for the health of a
daemon. -/
def initial : Sidecar where
  child := none
  daemonOwned := false
  daemonToken := none
  stopping := false
  restartCount := 0
  firstFailureCode := none
  pendingRestart := none
  attentionReason := none
  childStartedAt := none
  published := .warming
  children := []
  records := []
  prepared := 0
  timers := []
  main := .starting .health
  restarts := []
  begun := 0
  signalled := none
  exited := false

end Sidecar

end SeekTalent.Wtscli
