import SeekTalent.Foundation.Courses
import SeekTalent.RuntimeControl.ExecutorRuns
import SeekTalent.RuntimeControl.LeaseHistory

/-!
# Requests of the user

`request_pause`, `resume_workflow` and `request_cancel` are sequences of transactions, each
committed by itself: a call reads, then it supersedes commands, saves its own, moves the run and
notes that in an event.  A transaction that is refused makes the call raise and leaves what the
earlier ones wrote.  This module says for which stores, arguments and transactions of others a call
is all or nothing (`LifecycleRequest.Unhindered`): behind the first row it changes, every row it
needs is there.
-/

namespace SeekTalent.RuntimeControl

open Foundation

/-- A call by which a user asks something of a run. -/
inductive LifecycleRequest
  | pause
  | resume
  | cancel
  deriving DecidableEq, Repr

/-- The program of a call. -/
def LifecycleRequest.program (requestedBy : Option String) (idempotencyKey : String)
    (d : CommandDraws) : LifecycleRequest → ControlProgram CommandRow
  | .pause => requestPause requestedBy idempotencyKey d
  | .resume => resumeWorkflow requestedBy idempotencyKey d
  | .cancel => requestCancel requestedBy idempotencyKey d

/-- The status that a call asks for, of a run that it read in some status: a run that nobody
executes is cancelled at once. -/
def LifecycleRequest.asks : LifecycleRequest → RunStatus → RunStatus
  | .pause, _ => .pauseRequested
  | .resume, _ => .resumeRequested
  | .cancel, .queued => .cancelled
  | .cancel, .paused => .cancelled
  | .cancel, _ => .cancellationRequested

/-- What a call did among the transactions of others. -/
abbrev RequestCourse : Type :=
  Course RunTables Transaction (Except Raised CommandRow)

/-- The course of a call from a store, among others. -/
def LifecycleRequest.course (request : LifecycleRequest) (requestedBy : Option String)
    (idempotencyKey : String) (d : CommandDraws) (t : RunTables)
    (schedule : List (List Transaction)) : RequestCourse :=
  (request.program requestedBy idempotencyKey d).run.among exec t schedule

/-- A transaction of the call leaves commands, run row and events as they are. -/
def Quiet (step : Performed RunTables Transaction) : Prop :=
  (step.after exec).commands = step.before.commands ∧ (step.after exec).run = step.before.run ∧
    (step.after exec).events = step.before.events

/-- The status in which a call reads the run first. -/
def statusRead (steps : List (Performed RunTables Transaction)) : Option RunStatus :=
  steps.findSome? fun step =>
    match step.op with
    | .getRun => step.before.runStatus
    | _ => none

/-- A call that raises has changed nothing, and one that returns a command it created leaves the run
in the status it asks for. -/
structure AllOrNothing (request : LifecycleRequest) (course : RequestCourse) : Prop where
  nothing : ∀ e, course.result = .error e → ∀ step ∈ course.steps, Quiet step
  all : ∀ command, course.result = .ok command → (∃ saved, .saveCommand saved ∈ course.ops) →
    ∃ status, statusRead course.steps = some status ∧
      course.final.runStatus = some (request.asks status)

/-! ## The rows that a call needs -/

namespace RunTables

/-- The run row, which passes the checks of a read. -/
def Reads (t : RunTables) (run : RunRow) : Prop :=
  t.run = some run ∧ validateNeedsAttentionRow t run = .ok () ∧
    validateFailedOutcomeRow t run = .ok ()

/-- There is a command with an id. -/
def HasCommand (t : RunTables) (commandId : String) : Prop :=
  ∃ command ∈ t.commands, command.commandId = commandId

/-- The id and the key of a command are new. -/
def IsNew (t : RunTables) (commandId idempotencyKey : String) : Prop :=
  ∀ command ∈ t.commands, command.commandId ≠ commandId ∧ command.idempotencyKey ≠ idempotencyKey

/-- No outcome stands on the run, its status may become another one, and the history of its user
actions agrees. -/
def Admits (t : RunTables) (status : RunStatus) : Prop :=
  ∃ run, t.run = some run ∧ run.TruthMutable ∧ status ∈ allowedTransitions run.status ∧
    (t.userActions = [] ∨ t.actionHistoryAgrees = true)

/-- No outcome stands on the run, and the id and the position of its next event are free. -/
def Notes (t : RunTables) (eventId : String) : Prop :=
  ∃ run, t.run = some run ∧ run.TruthMutable ∧
    ∀ stored ∈ t.events, stored.eventId ≠ .random eventId ∧ stored.eventSeq ≠ run.latestEventSeq + 1

end RunTables

/-- The row of a new command. -/
def newCommand (run : RunRow) (commandType : CommandType) (requestedBy : Option String)
    (idempotencyKey commandId : String) (requestedAt : Nat) : CommandRow where
  commandId := commandId
  commandType := commandType
  status := .accepted
  targetRoundNo := run.currentRound
  idempotencyKey := idempotencyKey
  requestedBy := requestedBy
  requestedAt := requestedAt
  appliedAt := none

/-- The event of a command, at the position of a run row. -/
def commandEvent (run : RunRow) (eventType : EventType) (eventId : String) (createdAt : Nat) :
    SubmittedEvent :=
  unkeyedEvent eventId eventType run.currentStage "completed" run.currentRound {} createdAt

/-- Behind a saved command, the run can be moved, read and the move noted, and it stays moved. -/
def MovesAndNotes (update : StatusUpdate) (eventId : String) (t : RunTables)
    (schedule : List (List Transaction)) : Prop :=
  AtNext exec t schedule fun found schedule => found.Admits update.status ∧
  AtNext exec (exec (.updateRunStatus update) found).2 schedule fun found schedule =>
    (∃ run, found.Reads run) ∧
  AtNext exec found schedule fun found _ =>
    found.Notes eventId ∧ found.runStatus = some update.status

/-- A pause or a resumption that passes its checks and finds its id and its key new is carried
through. -/
def CommandUnhindered (commandType : CommandType) (requestedBy : Option String)
    (idempotencyKey : String) (allowedRunStatuses : List RunStatus) (requestedRunStatus : RunStatus)
    (d : CommandDraws) (t : RunTables) (schedule : List (List Transaction)) : Prop :=
  AtNext exec t schedule fun found schedule => found.commandByIdempotency idempotencyKey = none →
  AtNext exec found schedule fun found schedule => ∀ run, found.Reads run →
  AtNext exec found schedule fun found schedule =>
    (∀ pending ∈ found.pendingLifecycleCommands, pending.commandType ≠ .cancel) →
  AtNext exec found schedule fun found schedule => ∀ again, found.Reads again →
    again.status ∉ terminalRunStatuses → again.status ≠ .cancellationRequested →
  AtNext exec found schedule fun found schedule =>
    (∀ pending ∈ found.pendingLifecycleCommands, pending.commandType ≠ commandType) →
    run.status ∈ allowedRunStatuses →
  AtNext exec found schedule fun found schedule =>
    (∀ pending ∈ found.pendingLifecycleCommands, pending.commandType = commandType) →
  AtNext exec found schedule fun found schedule => found.IsNew d.commandId idempotencyKey →
    MovesAndNotes { status := requestedRunStatus, updatedAt := d.now 0 } (d.eventId 0)
      (exec (.saveCommand (newCommand run commandType requestedBy idempotencyKey d.commandId
        (d.now 0))) found).2 schedule

/-- The pending pauses and resumptions can be superseded, once something has changed, and what
follows goes on. -/
def SupersedesUnhindered (run : RunRow) (d : CommandDraws)
    (goesOn : Nat → Prop → RunTables → List (List Transaction) → Prop) :
    List CommandRow → Nat → Prop → RunTables → List (List Transaction) → Prop
  | [], drawn, changed, t, schedule => goesOn drawn changed t schedule
  | command :: rest, drawn, changed, t, schedule =>
    if command.commandType = .pause ∨ command.commandType = .resume then
      AtNext exec t schedule fun found schedule =>
        (changed → found.HasCommand command.commandId) ∧ (found.HasCommand command.commandId →
      AtNext exec (exec (.updateCommandStatus command.commandId .superseded none) found).2 schedule
        fun later schedule =>
          (changed ∨ (∃ stored ∈ found.commands, stored.commandId = command.commandId ∧
            stored.status ≠ .superseded) → later.Notes (d.eventId drawn)) ∧
          (later.Notes (d.eventId drawn) →
            SupersedesUnhindered run d goesOn rest (drawn + 1) True
              (exec (.appendEvent (commandEvent run .commandSuperseded (d.eventId drawn)
                (d.now drawn))) later).2 schedule))
    else SupersedesUnhindered run d goesOn rest drawn changed t schedule

/-- Behind a saved cancellation, an idle run can be cancelled at once, and it stays cancelled. -/
def IdleCancelUnhindered (command : CommandRow) (d : CommandDraws) (drawn : Nat) (t : RunTables)
    (schedule : List (List Transaction)) : Prop :=
  AtNext exec t schedule fun found schedule => found.HasCommand command.commandId ∧
  AtNext exec (exec (.updateCommandStatus command.commandId .applied (some command.requestedAt))
    found).2 schedule fun found schedule => found.Admits .cancelled ∧
  AtNext exec (exec (.updateRunStatus {
    status := .cancelled
    updatedAt := command.requestedAt
    completedAt := some command.requestedAt }) found).2 schedule fun found schedule =>
      found.HasCommand command.commandId ∧
  AtNext exec found schedule fun found schedule => ∃ accepted, found.Reads accepted ∧
  AtNext exec found schedule fun found schedule => found.Notes (d.eventId drawn) ∧
  AtNext exec (exec (.appendEvent (commandEvent accepted .commandAccepted (d.eventId drawn)
    command.requestedAt)) found).2 schedule fun found schedule => (∃ run, found.Reads run) ∧
  AtNext exec found schedule fun found _ =>
    found.Notes (d.eventId (drawn + 1)) ∧ found.runStatus = some .cancelled

/-- A cancellation finds its id and its key new, once something has changed, and behind the saved
command it is carried through. -/
def CancelSavesUnhindered (run : RunRow) (requestedBy : Option String) (idempotencyKey : String)
    (d : CommandDraws) (drawn : Nat) (changed : Prop) (t : RunTables)
    (schedule : List (List Transaction)) : Prop :=
  AtNext exec t schedule fun found schedule =>
    (changed → found.IsNew d.commandId idempotencyKey) ∧ (found.IsNew d.commandId idempotencyKey →
      let command := newCommand run .cancel requestedBy idempotencyKey d.commandId (d.now drawn)
      if run.status = .queued ∨ run.status = .paused then
        IdleCancelUnhindered command d drawn (exec (.saveCommand command) found).2 schedule
      else
        MovesAndNotes { status := .cancellationRequested, updatedAt := d.now drawn }
          (d.eventId drawn) (exec (.saveCommand command) found).2 schedule)

/-- A cancellation that passes its checks is carried through once it has changed something. -/
def CancelUnhindered (requestedBy : Option String) (idempotencyKey : String) (d : CommandDraws)
    (t : RunTables) (schedule : List (List Transaction)) : Prop :=
  AtNext exec t schedule fun found schedule => found.commandByIdempotency idempotencyKey = none →
  AtNext exec found schedule fun found schedule => ∀ run, found.Reads run →
    run.status ∉ terminalRunStatuses →
  AtNext exec found schedule fun found schedule =>
    SupersedesUnhindered run d (CancelSavesUnhindered run requestedBy idempotencyKey d)
      found.pendingLifecycleCommands 0 False found schedule

/-- Once a call has changed something, it finds all the rows that it needs, and no other caller
moves the run again before it ends. -/
def LifecycleRequest.Unhindered (requestedBy : Option String) (idempotencyKey : String)
    (d : CommandDraws) (t : RunTables) (schedule : List (List Transaction)) :
    LifecycleRequest → Prop
  | .pause =>
    CommandUnhindered .pause requestedBy idempotencyKey [.running, .resumeRequested] .pauseRequested
      d t schedule
  | .resume =>
    CommandUnhindered .resume requestedBy idempotencyKey [.paused] .resumeRequested d t schedule
  | .cancel => CancelUnhindered requestedBy idempotencyKey d t schedule

/-! ## What is accepted -/

section Accepts

variable {t : RunTables}

/-- A transaction that raises is rolled back. -/
theorem transact_error {α : Type} {outcome : Except Raised (α × RunTables)} {e : Raised}
    (h : (transact t outcome).1 = .error e) : (transact t outcome).2 = t := by
  cases outcome with
  | error e => rfl
  | ok done => cases h

/-- A transaction does not raise exactly when its outcome is not an error. -/
theorem transact_ok_iff {α : Type} {outcome : Except Raised (α × RunTables)} :
    (∃ value, (transact t outcome).1 = .ok value) ↔ ∃ done, outcome = .ok done := by
  cases outcome with
  | error e => simp [transact]
  | ok done => exact iff_of_true ⟨done.1, rfl⟩ ⟨done, rfl⟩

/-- Reading the run row returns it when it passes the checks. -/
theorem getRun_eq_ok {run : RunRow} : getRun t = .ok run ↔ t.Reads run := by
  simp only [getRun, bind_eq_ok, RunTables.requireRun_eq_ok, validatedRunFromRow_eq_ok,
    RunTables.Reads]
  constructor
  · rintro ⟨row, hrow, hattention, houtcome, rfl⟩
    exact ⟨hrow, hattention, houtcome⟩
  · rintro ⟨hrun, hattention, houtcome⟩
    exact ⟨run, hrun, hattention, houtcome, rfl⟩

/-- Looking a command up succeeds when there is one. -/
theorem command_ok_iff {commandId : String} :
    (∃ command, t.command commandId = .ok command) ↔ t.HasCommand commandId := by
  unfold RunTables.command
  constructor
  · rintro ⟨command, hcommand⟩
    cases hfound : t.commands.find? (fun command => command.commandId = commandId) with
    | none => simp [hfound] at hcommand
    | some found =>
      exact ⟨found, List.mem_of_find?_eq_some hfound, by simpa using List.find?_some hfound⟩
  · rintro ⟨command, hmem, hid⟩
    obtain ⟨found, hfound⟩ := Option.ne_none_iff_exists'.mp (show t.commands.find? (fun command =>
      command.commandId = commandId) ≠ none by simpa using ⟨command, hmem, hid⟩)
    exact ⟨found, by simp [hfound]⟩

/-- Writing the status of a command succeeds when there is one. -/
theorem updateCommandStatus_ok_iff {commandId : String} {status : CommandStatus}
    {appliedAt : Option Nat} :
    (∃ done, updateCommandStatus t commandId status appliedAt = .ok done) ↔
      t.HasCommand commandId := by
  simp only [updateCommandStatus, bind_eq_ok, Except.ok.injEq]
  constructor
  · rintro ⟨done, updated, hupdated, -⟩
    obtain ⟨command, hmem, hid⟩ := command_ok_iff.mp ⟨updated, hupdated⟩
    obtain ⟨stored, hstored, rfl⟩ := List.mem_map.mp hmem
    refine ⟨stored, hstored, ?_⟩
    by_cases hsame : stored.commandId = commandId
    · exact hsame
    · rwa [if_neg hsame] at hid
  · rintro ⟨command, hmem, hid⟩
    have hwritten : { command with status := status, appliedAt := appliedAt.or command.appliedAt } ∈
        t.commands.map (fun command =>
          if command.commandId = commandId then
            { command with status := status, appliedAt := appliedAt.or command.appliedAt }
          else command) :=
      List.mem_map.mpr ⟨command, hmem, if_pos hid⟩
    obtain ⟨updated, hupdated⟩ := (command_ok_iff (t := { t with commands := _ })).mpr
      ⟨_, hwritten, hid⟩
    exact ⟨_, updated, hupdated, rfl⟩

/-- A command is saved when its id and its key are new. -/
theorem saveCommand_ok_iff {command : CommandRow} : (∃ done, saveCommand t command = .ok done) ↔
    t.IsNew command.commandId command.idempotencyKey := by
  simp [saveCommand, bind_eq_ok, RunTables.IsNew]

/-- The status of a run, unless it is to wait for its user, is written when the row admits it. -/
theorem updateRunStatus_ok_iff {update : StatusUpdate} (hstatus : update.status ≠ .needsAttention) :
    (∃ done, updateRunStatus t update = .ok done) ↔ t.Admits update.status := by
  simp only [updateRunStatus, bind_eq_ok, RunTables.requireRun_eq_ok, requireRunTruthMutable_eq_ok,
    requireRunTransition_eq_ok, validatedRunFromRow_eq_ok, Except.ok.injEq, RunTables.Admits]
  constructor
  · rintro ⟨done, run, hrun, -, hmutable, -, hallowed, row, ⟨hattention, -⟩, -⟩
    exact ⟨run, hrun, hmutable, hallowed, (check_bind_eq_ok.mp hattention).1 |> require_eq_ok.mp⟩
  · rintro ⟨run, hrun, hmutable, hallowed, hhistory⟩
    have hmoved : (run.afterStatusUpdate update).TruthMutable := hmutable
    refine ⟨_, run, hrun, (), hmutable, (), hallowed, _,
      ⟨?_, RunTables.validate_of_mutable hmoved, rfl⟩, rfl⟩
    obtain ⟨houtcome, hid, hrevision, howner, hmode, haction⟩ := hmoved
    have hunattended : validateUnattendedRow (run.afterStatusUpdate update) = .ok () := by
      simp [validateUnattendedRow, RunRow.FailureTruthEmpty, houtcome, hid, hrevision, howner,
        hmode, haction]
    refine check_bind_eq_ok.mpr ⟨require_eq_ok.mpr hhistory, ?_⟩
    rw [if_neg (show (run.afterStatusUpdate update).status ≠ .needsAttention from hstatus)]
    exact hunattended

/-- An event without a key is appended when no outcome stands on the run, the table admits the
status it writes, and its id and its position are free. -/
theorem appendUnkeyed_ok_iff {eventId stage status : String} {eventType : EventType}
    {roundNo : Option Nat} {createdAt : Nat} {write : RunWrite} :
    (∃ done, appendEventInTransaction t
        (unkeyedEvent eventId eventType stage status roundNo {} createdAt).input write = .ok done) ↔
      (∃ run, t.run = some run ∧ write.runStatus.getD run.status ∈ allowedTransitions run.status) ∧
        t.Notes eventId := by
  have hnone : t.recordedEvent
    (unkeyedEvent eventId eventType stage status roundNo {} createdAt).input = none := rfl
  unfold appendEventInTransaction RunTables.Notes
  rw [hnone]
  simp only [bind_eq_ok, RunTables.requireRun_eq_ok, requireRunTruthMutable_eq_ok,
    requireRunTransition_eq_ok, require_eq_ok, Except.ok.injEq]
  constructor
  · rintro ⟨done, run, hrun, -, hmutable, -, hallowed, -, -, -, hnew, -⟩
    exact ⟨⟨run, hrun, hallowed⟩, run, hrun, hmutable, hnew⟩
  · rintro ⟨⟨run, hrun, hallowed⟩, run', hrun', hmutable, hnew⟩
    obtain rfl := Option.some.inj (hrun.symm.trans hrun')
    exact ⟨_, run, hrun, (), hmutable, (), hallowed, (), Nat.zero_le _, (), hnew, rfl⟩

end Accepts

/-! ## The rest of a call -/

/-- `AllOrNothing` for the rest of a call that asks for a status: what the call has done before
counts. -/
structure AllOrNothingFrom (asked : RunStatus) (changed saved : Prop) (course : RequestCourse) :
    Prop where
  nothing : ∀ e, course.result = .error e → ¬changed ∧ ∀ step ∈ course.steps, Quiet step
  all : ∀ command, course.result = .ok command →
    (saved ∨ ∃ saved, .saveCommand saved ∈ course.ops) → course.final.runStatus = some asked

section Rules

variable {asked : RunStatus} {changed saved : Prop} {t : RunTables}
    {schedule : List (List Transaction)}

/-- A call that ends by raising must not have changed anything. -/
theorem from_throw {e : Raised} : AllOrNothingFrom asked changed saved
    ((throw e : ControlProgram CommandRow).run.among exec t schedule) ↔ ¬changed := by
  constructor
  · exact fun h => (h.nothing e rfl).1
  · intro h
    exact ⟨fun _ _ => ⟨h, fun _ hstep => nomatch hstep⟩, fun _ hok => nomatch hok⟩

/-- A call that ends with a command must have moved the run, if it saved that. -/
theorem from_pure {command : CommandRow} : AllOrNothingFrom asked changed saved
    ((pure command : ControlProgram CommandRow).run.among exec t schedule) ↔
      (saved → t.runStatus = some asked) := by
  constructor
  · exact fun h hsaved => h.all command rfl (.inl hsaved)
  · intro h
    refine ⟨fun _ herror => (nomatch herror), ?_⟩
    rintro _ - (hsaved | ⟨_, hmem⟩)
    · exact h hsaved
    · exact nomatch hmem

/-- One transaction of a call, and what follows it. -/
theorem from_call {q : Transaction} {next : q.Value → ControlProgram CommandRow}
    (hraises : ∀ found e, (exec q found).1 = .error e → Quiet { before := found, op := q }) :
    AllOrNothingFrom asked changed saved ((perform q >>= next).run.among exec t schedule) ↔
      AtNext exec t schedule fun found schedule =>
        (changed → ∃ value, (exec q found).1 = .ok value) ∧ ∀ value, (exec q found).1 = .ok value →
          AllOrNothingFrom asked (changed ∨ ¬Quiet { before := found, op := q })
            (saved ∨ ∃ command, .saveCommand command = q)
            ((next value).run.among exec (exec q found).2 schedule) := by
  generalize hfound : performAll exec t (schedule.headD []) = found
  have hcourse : (perform q >>= next).run.among exec t schedule =
      { (ExceptT.bindCont next (exec q found).1).among exec (exec q found).2 schedule.tail with
        steps := { before := found, op := q } ::
          ((ExceptT.bindCont next (exec q found).1).among exec
              (exec q found).2 schedule.tail).steps } :=
    among_call hfound
  rw [hcourse, AtNext, hfound]
  cases hanswer : (exec q found).1 with
  | error e =>
    have hquiet := hraises found e hanswer
    constructor
    · exact fun h => ⟨fun hchanged => absurd hchanged (h.nothing e rfl).1, fun _ hok => nomatch hok⟩
    · rintro ⟨hchanged, -⟩
      refine ⟨fun _ _ => ⟨fun hc => ?_, ?_⟩, fun _ hok => nomatch hok⟩
      · obtain ⟨value, hvalue⟩ := hchanged hc
        cases hvalue
      · rintro step hstep
        obtain rfl := List.mem_singleton.mp hstep
        exact hquiet
  | ok value =>
    change AllOrNothingFrom asked changed saved
      { (next value).run.among exec (exec q found).2 schedule.tail with
        steps := { before := found, op := q } ::
          ((next value).run.among exec (exec q found).2 schedule.tail).steps } ↔ _
    constructor
    · rintro ⟨hnothing, hall⟩
      refine ⟨fun _ => ⟨value, rfl⟩, fun _ hok => ?_⟩
      obtain rfl := Except.ok.inj hok
      refine ⟨fun e he => ?_, fun command hcommand hsaved => hall command hcommand ?_⟩
      · obtain ⟨hunchanged, hquiet⟩ := hnothing e he
        obtain ⟨hfirst, hrest⟩ := List.forall_mem_cons.mp hquiet
        exact ⟨not_or.mpr ⟨hunchanged, not_not.mpr hfirst⟩, hrest⟩
      · obtain (hsaved | ⟨command, rfl⟩) | ⟨command, hmem⟩ := hsaved
        · exact .inl hsaved
        · exact .inr ⟨command, List.mem_cons_self⟩
        · exact .inr ⟨command, List.mem_cons_of_mem _ hmem⟩
    · rintro ⟨-, hrest⟩
      obtain ⟨hnothing, hall⟩ := hrest value rfl
      refine ⟨fun e he => ?_, fun command hcommand hsaved => hall command hcommand ?_⟩
      · obtain ⟨hunchanged, hquiet⟩ := hnothing e he
        obtain ⟨hunchanged, hfirst⟩ := not_or.mp hunchanged
        exact ⟨hunchanged, List.forall_mem_cons.mpr ⟨not_not.mp hfirst, hquiet⟩⟩
      · obtain hsaved | ⟨command, hmem⟩ := hsaved
        · exact .inl (.inl hsaved)
        · obtain hsame | hmem := List.mem_cons.mp hmem
          · exact .inl (.inr ⟨command, hsame⟩)
          · exact .inr ⟨command, hmem⟩

/-- One transaction that only reads, and what follows it. -/
theorem from_read {q : Transaction} {next : q.Value → ControlProgram CommandRow}
    (hreads : ∀ found, (exec q found).2 = found) (hsaves : ∀ command, .saveCommand command ≠ q) :
    AllOrNothingFrom asked changed saved ((perform q >>= next).run.among exec t schedule) ↔
      AtNext exec t schedule fun found schedule =>
        (changed → ∃ value, (exec q found).1 = .ok value) ∧ ∀ value, (exec q found).1 = .ok value →
          AllOrNothingFrom asked changed saved ((next value).run.among exec found schedule) := by
  have hquiet : ∀ found, Quiet { before := found, op := q } := fun found => by
    simp [Quiet, Performed.after, hreads]
  refine (from_call fun found _ _ => hquiet found).trans (atNext_congr fun found schedule => ?_)
  simp only [hquiet found, hreads found, not_true_eq_false, or_false, hsaves, exists_false]

/-- Listing the pending commands. -/
theorem from_pending {next : List CommandRow → ControlProgram CommandRow} :
    AllOrNothingFrom asked changed saved
        ((perform .listPendingLifecycleCommands >>= next).run.among exec t schedule) ↔
      AtNext exec t schedule fun found schedule => AllOrNothingFrom asked changed saved
        ((next found.pendingLifecycleCommands).run.among exec found schedule) := by
  refine (from_read (fun _ => rfl) (by simp)).trans (atNext_congr fun found schedule => ?_)
  exact ⟨fun h => h.2 _ rfl, fun h => ⟨fun _ => ⟨_, rfl⟩, fun _ hok => Except.ok.inj hok ▸ h⟩⟩

/-- Reading the run row before anything has changed. -/
theorem from_getRun {next : RunRow → ControlProgram CommandRow} :
    AllOrNothingFrom asked False saved ((perform .getRun >>= next).run.among exec t schedule) ↔
      AtNext exec t schedule fun found schedule => ∀ run, found.Reads run →
        AllOrNothingFrom asked False saved ((next run).run.among exec found schedule) := by
  refine (from_read (fun _ => rfl) (by simp)).trans (atNext_congr fun found schedule => ?_)
  simp only [false_implies, true_and]
  exact forall_congr' fun run => imp_congr_left getRun_eq_ok

/-- The row that a read returns is the row it finds. -/
theorem RunTables.Reads.eq {run other : RunRow} (h : t.Reads run) (hother : t.Reads other) :
    run = other :=
  Option.some.inj (h.1.symm.trans hother.1)

/-- Reading the run row behind a change. -/
theorem from_getRun_changed {next : RunRow → ControlProgram CommandRow} :
    AllOrNothingFrom asked True saved ((perform .getRun >>= next).run.among exec t schedule) ↔
      AtNext exec t schedule fun found schedule => ∃ run, found.Reads run ∧
        AllOrNothingFrom asked True saved ((next run).run.among exec found schedule) := by
  refine (from_read (fun _ => rfl) (by simp)).trans (atNext_congr fun found schedule => ?_)
  constructor
  · rintro ⟨hread, hnext⟩
    obtain ⟨run, hrun⟩ := hread trivial
    exact ⟨run, getRun_eq_ok.mp hrun, hnext run hrun⟩
  · rintro ⟨run, hrun, hnext⟩
    refine ⟨fun _ => ⟨run, getRun_eq_ok.mpr hrun⟩, fun other hother => ?_⟩
    obtain rfl := hrun.eq (getRun_eq_ok.mp hother)
    exact hnext

end Rules

section Writes

variable {asked : RunStatus} {changed saved : Prop} {t : RunTables}
    {schedule : List (List Transaction)}
  {q : Transaction} {rest : ControlProgram CommandRow} {A : RunTables → Prop}
variable {run : RunRow} {eventType : EventType} {eventId : String} {createdAt : Nat}
variable {commandId : String}

/-- A transaction that raises leaves the rows as they are. -/
def RollsBack (q : Transaction) : Prop :=
  ∀ found e, (exec q found).1 = .error e → (exec q found).2 = found

/-- One write, and what follows it whatever it answers. -/
theorem from_write (haccepts : ∀ found, (∃ value, (exec q found).1 = .ok value) ↔ A found)
    (hrolls : RollsBack q) (hsaves : ∀ command, .saveCommand command ≠ q) :
    AllOrNothingFrom asked changed saved ((perform q >>= fun _ => rest).run.among exec t schedule) ↔
      AtNext exec t schedule fun found schedule =>
        (changed → A found) ∧ (A found →
          AllOrNothingFrom asked (changed ∨ ¬Quiet { before := found, op := q }) saved
            (rest.run.among exec (exec q found).2 schedule)) := by
  have hquiet : ∀ found e, (exec q found).1 = .error e → Quiet { before := found, op := q } := by
    intro found e he
    simp [Quiet, Performed.after, hrolls found e he]
  refine (from_call hquiet).trans (atNext_congr fun found schedule => ?_)
  simp only [hsaves, exists_false, or_false, ← haccepts, forall_exists_index]

/-- One write behind a change. -/
theorem from_write_changed (haccepts : ∀ found, (∃ value, (exec q found).1 = .ok value) ↔ A found)
    (hrolls : RollsBack q) (hsaves : ∀ command, .saveCommand command ≠ q) :
    AllOrNothingFrom asked True saved ((perform q >>= fun _ => rest).run.among exec t schedule) ↔
      AtNext exec t schedule fun found schedule => A found ∧
        AllOrNothingFrom asked True saved (rest.run.among exec (exec q found).2 schedule) := by
  refine (from_write haccepts hrolls hsaves).trans (atNext_congr fun found schedule => ?_)
  simp only [true_implies, true_or]
  exact ⟨fun h => ⟨h.1, h.2 h.1⟩, fun h => ⟨h.1, fun _ => h.2⟩⟩

/-- Saving a command. -/
theorem from_save {command : CommandRow} {next : CommandRow → ControlProgram CommandRow} :
    AllOrNothingFrom asked changed saved
        ((perform (.saveCommand command) >>= next).run.among exec t schedule) ↔
      AtNext exec t schedule fun found schedule =>
        (changed → found.IsNew command.commandId command.idempotencyKey) ∧
        (found.IsNew command.commandId command.idempotencyKey → AllOrNothingFrom asked True True
          ((next command).run.among exec (exec (.saveCommand command) found).2 schedule)) := by
  have hquiet : ∀ found e, (exec (.saveCommand command) found).1 = .error e →
      Quiet { before := found, op := .saveCommand command } := by
    intro found e he
    simp [Quiet, Performed.after, show (exec (.saveCommand command) found).2 = found from
      transact_error he]
  refine (from_call hquiet).trans (atNext_congr fun found schedule => ?_)
  have haccepts : (∃ value, (exec (.saveCommand command) found).1 = .ok value) ↔
      found.IsNew command.commandId command.idempotencyKey :=
        transact_ok_iff.trans saveCommand_ok_iff
  refine and_congr (imp_congr_right fun _ => haccepts) ?_
  rw [← haccepts]
  have hvalue : ∀ value, (exec (.saveCommand command) found).1 = .ok value →
      value = command ∧ ¬Quiet { before := found, op := .saveCommand command } := by
    intro value hvalue
    have hnew := haccepts.mp ⟨value, hvalue⟩
    have hok : saveCommand found command =
        .ok (command, { found with commands := found.commands ++ [command] }) :=
      check_bind_eq_ok.mpr ⟨require_eq_ok.mpr hnew, rfl⟩
    refine ⟨?_, fun hsame => ?_⟩
    · simpa [exec, hok, transact] using hvalue.symm
    · simpa [Performed.after, exec, hok, transact] using hsame.1
  constructor
  · rintro h ⟨value, hok⟩
    obtain ⟨hsame, hloud⟩ := hvalue value hok
    have hnext := h value hok
    rw [hsame] at hnext
    simpa only [hloud, not_false_eq_true, or_true, exists_eq, Transaction.saveCommand.injEq]
      using hnext
  · intro h value hok
    obtain ⟨hsame, hloud⟩ := hvalue value hok
    rw [hsame]
    simpa only [hloud, not_false_eq_true, or_true, exists_eq, Transaction.saveCommand.injEq] using
      h ⟨value, hok⟩

/-- Looking up a command that a call needs. -/
theorem from_getCommand {next : CommandRow → ControlProgram CommandRow}
    {P : RunTables → List (List Transaction) → Prop}
    (hnext : ∀ command found schedule, AllOrNothingFrom asked True saved
      ((next command).run.among exec found schedule) ↔ P found schedule) :
    AllOrNothingFrom asked True saved
        ((perform (.getCommand commandId) >>= next).run.among exec t schedule) ↔
      AtNext exec t schedule fun found schedule =>
        found.HasCommand commandId ∧ P found schedule := by
  refine (from_read (fun _ => rfl) (by simp)).trans (atNext_congr fun found schedule => ?_)
  simp only [hnext, true_implies, ← command_ok_iff]
  constructor
  · rintro ⟨⟨command, hcommand⟩, hrest⟩
    exact ⟨⟨command, hcommand⟩, hrest command hcommand⟩
  · rintro ⟨hcommand, hrest⟩
    exact ⟨hcommand, fun _ _ => hrest⟩

/-- A status is written when the row admits it. -/
theorem updateRunStatus_accepts {update : StatusUpdate} (hstatus : update.status ≠ .needsAttention)
    (found : RunTables) : (∃ value, (exec (.updateRunStatus update) found).1 = .ok value) ↔
      found.Admits update.status :=
  transact_ok_iff.trans (updateRunStatus_ok_iff hstatus)

/-- The status of a command is written when there is one. -/
theorem updateCommandStatus_accepts {status : CommandStatus}
    {appliedAt : Option Nat} (found : RunTables) :
    (∃ value, (exec (.updateCommandStatus commandId status appliedAt) found).1 = .ok value) ↔
      found.HasCommand commandId :=
  transact_ok_iff.trans updateCommandStatus_ok_iff

/-- Superseding a command is a change unless every row with its id is superseded already. -/
theorem not_quiet_superseding_iff (h : t.HasCommand commandId) :
    ¬Quiet { before := t, op := .updateCommandStatus commandId .superseded none } ↔
      ∃ stored ∈ t.commands, stored.commandId = commandId ∧ stored.status ≠ .superseded := by
  obtain ⟨done, hdone⟩ : ∃ done, updateCommandStatus t commandId .superseded none = .ok done :=
    updateCommandStatus_ok_iff.mpr h
  have hwritten : (exec (.updateCommandStatus commandId .superseded none) t).2 =
      { t with commands := t.commands.map (fun command =>
        if command.commandId =
            commandId then { command with status := .superseded } else command) } := by
    obtain ⟨updated, -, hok⟩ := bind_eq_ok.mp hdone
    simp only [exec, hdone, transact, ← Except.ok.inj hok, Option.none_or]
  have hquiet : Quiet { before := t, op := .updateCommandStatus commandId .superseded none } ↔
      ∀ stored ∈ t.commands, stored.commandId = commandId → stored.status = .superseded := by
    simp only [Quiet, Performed.after, hwritten, and_true]
    nth_rewrite 2 [← List.map_id t.commands]
    refine List.map_inj_left.trans (forall₂_congr fun stored _ => ?_)
    split
    · rename_i hid
      rw [imp_iff_right hid]
      exact ⟨fun hfixed =>
        (congrArg CommandRow.status hfixed).symm, fun hstatus => by simp [← hstatus]⟩
    · rename_i hother
      exact iff_of_true rfl fun hid => absurd hid hother
  rw [hquiet]
  push Not
  rfl

/-- The event of a command is appended when it can be noted. -/
theorem appendCommandEvent_accepts (found : RunTables) :
    (∃ value, (exec (.appendEvent (commandEvent run eventType eventId createdAt)) found).1 =
      .ok value) ↔ found.Notes eventId := by
  refine (transact_ok_iff.trans appendUnkeyed_ok_iff).trans (and_iff_right_of_imp ?_)
  rintro ⟨row, hrow, -, -⟩
  exact ⟨row, hrow, self_mem_allowedTransitions row.status⟩

/-- The event of a command leaves the status of the run. -/
theorem appendEvent_runStatus (event : SubmittedEvent) :
    (exec (.appendEvent event) t).2.runStatus = t.runStatus := by
  refine transact_rule (P := fun t' => t'.runStatus = t.runStatus) rfl fun value t' hok => ?_
  exact RunTables.append_runStatus_eq hok

/-- The event of a command that is appended is a change. -/
theorem not_quiet_of_noted (h : t.Notes eventId) :
    ¬Quiet { before := t, op := .appendEvent (commandEvent run eventType eventId createdAt) } := by
  have haccepted : ∃ value,
    (exec (.appendEvent (commandEvent run eventType eventId createdAt)) t).1 =
      .ok value := (appendCommandEvent_accepts t).mpr h
  obtain ⟨done, hdone⟩ := transact_ok_iff.mp haccepted
  obtain ⟨hrecorded, -⟩ | ⟨row, -, -, -, -, -, ht'⟩ := appendEventInTransaction_ok hdone
  · cases hrecorded
  · intro hquiet
    have hlengths := congrArg List.length hquiet.2.2
    simp [Performed.after, exec, show appendEvent t _ = .ok done from hdone, transact, ht',
      RunTables.afterEvent] at hlengths

/-- The event of a command, and what follows it. -/
theorem from_note :
    AllOrNothingFrom asked changed saved
        ((appendCommandEvent run eventType eventId createdAt >>= fun _ => rest).run.among exec t
          schedule) ↔
      AtNext exec t schedule fun found schedule =>
        (changed → found.Notes eventId) ∧ (found.Notes eventId → AllOrNothingFrom asked True saved
          (rest.run.among exec
            (exec (.appendEvent (commandEvent run eventType eventId createdAt)) found).2
            schedule)) := by
  refine (from_write appendCommandEvent_accepts (fun _ _ h => transact_error h) (by simp)).trans
    (atNext_congr fun found schedule => and_congr_right fun _ => imp_congr_right fun hnotes => ?_)
  rw [eq_true (Or.inr (not_quiet_of_noted hnotes))]

/-- The event of a command behind a change. -/
theorem from_note_changed :
    AllOrNothingFrom asked True saved
        ((appendCommandEvent run eventType eventId createdAt >>= fun _ => rest).run.among exec t
          schedule) ↔
      AtNext exec t schedule fun found schedule => found.Notes eventId ∧
        AllOrNothingFrom asked True saved (rest.run.among exec
          (exec (.appendEvent (commandEvent run eventType eventId createdAt)) found).2 schedule) :=
  from_write_changed appendCommandEvent_accepts (fun _ _ h => transact_error h) (by simp)

/-- The last event of a call that has saved its command. -/
theorem from_lastEvent {command : CommandRow} :
    AllOrNothingFrom asked True True
        ((appendCommandEvent run eventType eventId createdAt >>= fun _ => pure command).run.among
          exec t schedule) ↔
      AtNext exec t schedule fun found _ => found.Notes eventId ∧ found.runStatus = some asked := by
  refine from_note_changed.trans (atNext_congr fun found schedule => ?_)
  rw [from_pure, appendEvent_runStatus, true_implies]

end Writes

/-! ## The calls -/

section Calls

variable {requestedBy : Option String} {idempotencyKey : String} {d : CommandDraws} {t : RunTables}
  {schedule : List (List Transaction)}
variable {asked : RunStatus}
variable {run : RunRow} {commandType : CommandType}

/-- Moving the run and noting that, behind a saved command. -/
theorem movesAndNotes_iff (update : StatusUpdate) {eventId : String} {createdAt : Nat}
    {command : CommandRow} (hstatus : update.status ≠ .needsAttention) :
    AllOrNothingFrom update.status True True
        ((perform (.updateRunStatus update) >>= fun _ => perform .getRun >>= fun moved =>
          appendCommandEvent moved .commandAccepted eventId createdAt >>= fun _ =>
            (pure command : ControlProgram CommandRow)).run.among exec t schedule) ↔
      MovesAndNotes update eventId t schedule := by
  refine (from_write_changed (updateRunStatus_accepts hstatus) (fun _ _ h => transact_error h)
    (by simp)).trans (atNext_congr fun found schedule => ?_)
  refine and_congr_right fun _ => from_getRun_changed.trans (atNext_congr fun found schedule => ?_)
  simp only [from_lastEvent]
  exact exists_and_right

/-- Recording a pause or a resumption. -/
theorem recordLifecycleCommand_iff (hasked : asked ≠ .needsAttention) :
    AllOrNothingFrom asked False False
        ((recordLifecycleCommand run commandType requestedBy idempotencyKey asked d).run.among exec
          t schedule) ↔
      AtNext exec t schedule fun found schedule =>
        (∀ pending ∈ found.pendingLifecycleCommands, pending.commandType = commandType) →
        AtNext exec found schedule fun found schedule => found.IsNew d.commandId idempotencyKey →
          MovesAndNotes { status := asked, updatedAt := d.now 0 } (d.eventId 0)
            (exec (.saveCommand (newCommand run commandType requestedBy idempotencyKey d.commandId
              (d.now 0))) found).2 schedule := by
  refine from_pending.trans (atNext_congr fun found schedule => ?_)
  by_cases hothers : found.pendingLifecycleCommands.any (fun command =>
      command.commandType ≠ commandType)
  · have hsome : ¬∀ pending ∈ found.pendingLifecycleCommands,
        pending.commandType = commandType := by
      simpa using hothers
    rw [if_pos hothers]
    exact iff_of_true (from_throw.mpr not_false) fun h => absurd h hsome
  · have hnone : ∀ pending ∈ found.pendingLifecycleCommands, pending.commandType = commandType := by
      simpa using hothers
    rw [if_neg hothers, imp_iff_right hnone]
    refine from_save.trans (atNext_congr fun found schedule => ?_)
    rw [false_implies, true_and]
    exact imp_congr_right fun _ =>
      movesAndNotes_iff { status := asked, updatedAt := d.now 0 } hasked

/-- The check for a pending cancellation, and what follows it. -/
theorem rejectIfTerminalCancelPending_iff
    (htype : commandType ≠ .cancel) {next : Unit → ControlProgram CommandRow} :
    AllOrNothingFrom asked False False
        ((rejectIfTerminalCancelPending commandType >>= next).run.among exec t schedule) ↔
      AtNext exec t schedule fun found schedule =>
        (∀ pending ∈ found.pendingLifecycleCommands, pending.commandType ≠ .cancel) →
        AtNext exec found schedule fun found schedule => ∀ again, found.Reads again →
          again.status ∉ terminalRunStatuses → again.status ≠ .cancellationRequested →
            AllOrNothingFrom asked False False ((next ()).run.among exec found schedule) := by
  unfold rejectIfTerminalCancelPending
  rw [if_neg htype, bind_assoc]
  refine from_pending.trans (atNext_congr fun found schedule => ?_)
  by_cases hcancels : found.pendingLifecycleCommands.any
    (fun command => command.commandType = .cancel)
  · have hsome : ¬∀ pending ∈ found.pendingLifecycleCommands, pending.commandType ≠ .cancel := by
      simpa using hcancels
    rw [if_pos hcancels]
    exact iff_of_true (from_throw.mpr not_false) fun h => absurd h hsome
  · have hnone : ∀ pending ∈ found.pendingLifecycleCommands, pending.commandType ≠ .cancel := by
      simpa using hcancels
    rw [if_neg hcancels, imp_iff_right hnone, bind_assoc]
    refine from_getRun.trans (atNext_congr fun found schedule => ?_)
    refine forall₂_congr fun again _ => ?_
    by_cases hends : again.status ∈ terminalRunStatuses ∨ again.status = .cancellationRequested
    · rw [if_pos hends]
      refine iff_of_true (from_throw.mpr not_false) fun hterminal hcancelled => ?_
      exact absurd hends (not_or.mpr ⟨hterminal, hcancelled⟩)
    · rw [if_neg hends, imp_iff_right (not_or.mp hends).1, imp_iff_right (not_or.mp hends).2]
      rfl

/-- Superseding the pending commands, and what follows it. -/
theorem supersedeCommands_iff {goesOn : Nat → Prop → RunTables → List (List Transaction) → Prop}
    {next : Nat → ControlProgram CommandRow}
    (hnext : ∀ drawn changed t schedule,
      AllOrNothingFrom asked changed False ((next drawn).run.among exec t schedule) ↔
        goesOn drawn changed t schedule)
    (pending : List CommandRow) (drawn : Nat) (changed : Prop) :
    AllOrNothingFrom asked changed False
        ((supersedeCommands run d pending drawn >>= next).run.among exec t schedule) ↔
      SupersedesUnhindered run d goesOn pending drawn changed t schedule := by
  induction pending generalizing drawn changed t schedule with
  | nil => exact hnext drawn changed t schedule
  | cons command rest ih =>
    unfold supersedeCommands SupersedesUnhindered
    split
    · rw [bind_assoc]
      refine (from_write updateCommandStatus_accepts (fun _ _ h => transact_error h)
        (by simp)).trans (atNext_congr fun found schedule => ?_)
      refine and_congr_right fun _ => imp_congr_right fun hpresent => ?_
      rw [not_quiet_superseding_iff hpresent, bind_assoc]
      refine from_note.trans (atNext_congr fun later schedule => ?_)
      exact and_congr_right fun _ => imp_congr_right fun _ => ih (drawn + 1) True
    · exact ih drawn changed

/-- Cancelling an idle run at once, behind the saved command. -/
theorem cancelIdleRun_iff {command : CommandRow} {drawn : Nat} :
    AllOrNothingFrom .cancelled True True
        ((cancelIdleRun command d drawn).run.among exec t schedule) ↔
      IdleCancelUnhindered command d drawn t schedule := by
  have hcancelled : RunStatus.cancelled ≠ .needsAttention := by decide
  refine (from_write_changed updateCommandStatus_accepts (fun _ _ h => transact_error h)
    (by simp)).trans (atNext_congr fun found schedule => and_congr_right fun _ => ?_)
  refine (from_write_changed (updateRunStatus_accepts hcancelled) (fun _ _ h => transact_error h)
    (by simp)).trans (atNext_congr fun found schedule => and_congr_right fun _ => ?_)
  refine from_getCommand fun applied found schedule => ?_
  refine from_getRun_changed.trans (atNext_congr fun found schedule => ?_)
  refine exists_congr fun accepted => and_congr_right fun _ => ?_
  refine from_note_changed.trans (atNext_congr fun found schedule => and_congr_right fun _ => ?_)
  refine from_getRun_changed.trans (atNext_congr fun found schedule => ?_)
  simp only [from_lastEvent]
  exact exists_and_right

/-- Saving a cancellation, and what follows it. -/
theorem saveCancel_iff {drawn : Nat} {changed : Prop} :
    AllOrNothingFrom (LifecycleRequest.cancel.asks run.status) changed False
        ((saveLifecycleCommand run .cancel requestedBy idempotencyKey d.commandId (d.now drawn) >>=
          fun command =>
            if run.status = .queued ∨ run.status = .paused then cancelIdleRun command d drawn
            else cancelOwnedRun command d drawn).run.among exec t schedule) ↔
      CancelSavesUnhindered run requestedBy idempotencyKey d drawn changed t schedule := by
  refine from_save.trans (atNext_congr fun found schedule => ?_)
  refine and_congr_right fun _ => imp_congr_right fun _ => ?_
  by_cases hidle : run.status = .queued ∨ run.status = .paused
  · have hasks : LifecycleRequest.cancel.asks run.status = .cancelled := by
      obtain hstatus | hstatus := hidle <;> rw [hstatus] <;> rfl
    rw [if_pos hidle, if_pos hidle, hasks]
    exact cancelIdleRun_iff
  · have hasks : LifecycleRequest.cancel.asks run.status = .cancellationRequested := by
      obtain ⟨hqueued, hpaused⟩ := not_or.mp hidle
      cases hstatus : run.status <;> first | rfl | contradiction
    rw [if_neg hidle, if_neg hidle, hasks]
    exact movesAndNotes_iff { status := .cancellationRequested, updatedAt := d.now drawn } nofun

/-- A call looks its key up and reads the run row; behind that, the status it asks for is known. -/
theorem allOrNothing_iff_from (request : LifecycleRequest)
    {rest : Option CommandRow → ControlProgram CommandRow}
    {next : RunRow → ControlProgram CommandRow}
    (hsome : ∀ command, rest (some command) = pure command)
    (hnone : rest none = perform .getRun >>= next) :
    AllOrNothing request
        ((perform (.getCommandByIdempotency idempotencyKey) >>= rest).run.among exec t schedule) ↔
      AtNext exec t schedule fun found schedule =>
        found.commandByIdempotency idempotencyKey = none →
        AtNext exec found schedule fun found schedule => ∀ run, found.Reads run →
          AllOrNothingFrom (request.asks run.status) False False
            ((next run).run.among exec found schedule) := by
  generalize hfound : performAll exec t (schedule.headD []) = found
  have hfirst : (perform (.getCommandByIdempotency idempotencyKey) >>= rest).run.among exec t
    schedule =
      { (rest (found.commandByIdempotency idempotencyKey)).run.among exec found schedule.tail with
        steps := { before := found, op := .getCommandByIdempotency idempotencyKey } ::
          ((rest (found.commandByIdempotency idempotencyKey)).run.among exec found
            schedule.tail).steps } := among_call hfound
  rw [hfirst, AtNext, hfound]
  cases found.commandByIdempotency idempotencyKey with
  | some command =>
    rw [hsome]
    refine iff_of_true ⟨fun _ herror => (nomatch herror), ?_⟩ nofun
    rintro _ - ⟨saved, hsaved⟩
    exact absurd (List.mem_singleton.mp hsaved) nofun
  | none =>
    rw [imp_iff_right rfl, hnone]
    generalize hsecond : performAll exec found (schedule.tail.headD []) = second
    have hread : (perform .getRun >>= next).run.among exec found schedule.tail =
        { (ExceptT.bindCont next (getRun second)).among exec second schedule.tail.tail with
          steps := { before := second, op := .getRun } ::
            ((ExceptT.bindCont next (getRun second)).among exec second
                schedule.tail.tail).steps } :=
      among_call hsecond
    rw [hread, AtNext, hsecond]
    cases hrun : getRun second with
    | error e =>
      change AllOrNothing request
        { steps := [{ before := found, op := .getCommandByIdempotency idempotencyKey },
            { before := second, op := .getRun }]
          final := second
          result := .error e } ↔ _
      refine iff_of_true ⟨fun _ _ => ?_, fun _ hok => nomatch hok⟩ fun run hreads => ?_
      · simp [Quiet, Performed.after, exec, readOnly]
      · cases hrun.symm.trans (getRun_eq_ok.mpr hreads)
    | ok run =>
      have hreads := getRun_eq_ok.mp hrun
      have hstatus : second.runStatus = some run.status := by simp [RunTables.runStatus, hreads.1]
      have hquiet : ∀ steps : List (Performed RunTables Transaction),
          (∀ step ∈ { before := found, op := .getCommandByIdempotency idempotencyKey } ::
            { before := second, op := .getRun } :: steps, Quiet step) ↔
                ∀ step ∈ steps, Quiet step := by
        simp [Quiet, Performed.after, exec, readOnly]
      change AllOrNothing request
        { (next run).run.among exec second schedule.tail.tail with
          steps := { before := found, op := .getCommandByIdempotency idempotencyKey } ::
            { before := second, op := .getRun } ::
              ((next run).run.among exec second schedule.tail.tail).steps } ↔ _
      constructor
      · rintro ⟨hnothing, hall⟩ other hother
        obtain rfl := hreads.eq hother
        refine ⟨fun e he => ⟨not_false, (hquiet _).mp (hnothing e he)⟩, ?_⟩
        rintro command hcommand (hfalse | ⟨saved, hsaved⟩)
        · exact hfalse.elim
        obtain ⟨status, hread, hfinal⟩ := hall command hcommand
          ⟨saved, List.mem_cons_of_mem _ (List.mem_cons_of_mem _ hsaved)⟩
        obtain rfl : run.status = status := by simpa [statusRead, hstatus] using hread
        exact hfinal
      · intro hrest
        obtain ⟨hnothing, hall⟩ := hrest run hreads
        refine ⟨fun e he => (hquiet _).mpr (hnothing e he).2, ?_⟩
        rintro command hcommand ⟨saved, hsaved⟩
        refine ⟨run.status, by simp [statusRead, hstatus], hall command hcommand (.inr ⟨saved, ?_⟩)⟩
        simpa [Course.ops] using hsaved

/-- Asking for a pause or a resumption. -/
theorem requestLifecycleCommand_iff {request : LifecycleRequest}
    {allowed : List RunStatus} {invalidReasonCode : ReasonCode}
    (htype : commandType ≠ .cancel) (hasks : ∀ status, request.asks status = asked)
    (hasked : asked ≠ .needsAttention) :
    AllOrNothing request
        ((requestLifecycleCommand commandType requestedBy idempotencyKey allowed asked
          invalidReasonCode d).run.among exec t schedule) ↔
      CommandUnhindered commandType requestedBy idempotencyKey allowed asked d t schedule := by
  refine (allOrNothing_iff_from request (fun _ => rfl) rfl).trans
    (atNext_congr fun found schedule => ?_)
  refine imp_congr_right fun _ => atNext_congr fun found schedule => forall₂_congr fun run _ => ?_
  rw [hasks]
  refine (rejectIfTerminalCancelPending_iff htype).trans (atNext_congr fun found schedule => ?_)
  refine imp_congr_right fun _ => atNext_congr fun found schedule => ?_
  refine forall₂_congr fun again _ => forall₂_congr fun _ _ => ?_
  refine from_pending.trans (atNext_congr fun found schedule => ?_)
  cases hduplicate : found.pendingLifecycleCommands.find? (fun command =>
      command.commandType = commandType) with
  | some duplicate =>
    refine iff_of_true (from_pure.mpr False.elim) fun hnone => absurd ?_ (hnone duplicate ?_)
    · simpa using List.find?_some hduplicate
    · exact List.mem_of_find?_eq_some hduplicate
  | none =>
    rw [imp_iff_right (by simpa using hduplicate)]
    by_cases hallowed : run.status ∈ allowed
    · rw [imp_iff_right hallowed, if_pos hallowed]
      exact recordLifecycleCommand_iff hasked
    · rw [if_neg hallowed]
      exact iff_of_true (from_throw.mpr not_false) fun h => absurd h hallowed

/-- Asking for a cancellation. -/
theorem requestCancel_iff :
    AllOrNothing .cancel ((requestCancel requestedBy idempotencyKey d).run.among exec t schedule) ↔
      CancelUnhindered requestedBy idempotencyKey d t schedule := by
  refine (allOrNothing_iff_from .cancel (fun _ => rfl) rfl).trans
    (atNext_congr fun found schedule => ?_)
  refine imp_congr_right fun _ => atNext_congr fun found schedule => forall₂_congr fun run _ => ?_
  by_cases hterminal : run.status ∈ terminalRunStatuses
  · rw [if_pos hterminal]
    exact iff_of_true (from_throw.mpr not_false) fun h => absurd hterminal h
  · rw [if_neg hterminal, imp_iff_right hterminal]
    refine from_pending.trans (atNext_congr fun found schedule => ?_)
    exact supersedeCommands_iff (fun _ _ _ _ => saveCancel_iff) found.pendingLifecycleCommands 0
      False

end Calls

/-- A request is all or nothing exactly when it is unhindered: it finds the rows it needs once it
has changed something, and nobody moves the run again before it ends. -/
theorem request_allOrNothing_iff (request : LifecycleRequest) (requestedBy : Option String)
    (idempotencyKey : String) (d : CommandDraws) (t : RunTables)
    (schedule : List (List Transaction)) :
    AllOrNothing request (request.course requestedBy idempotencyKey d t schedule) ↔
      request.Unhindered requestedBy idempotencyKey d t schedule := by
  cases request with
  | pause => exact requestLifecycleCommand_iff nofun (fun _ => rfl) nofun
  | resume => exact requestLifecycleCommand_iff nofun (fun _ => rfl) nofun
  | cancel => exact requestCancel_iff

/-- A call that raises, runs alone and is all or nothing leaves what it found. -/
theorem AllOrNothing.eval_eq {request : LifecycleRequest} {requestedBy : Option String}
    {idempotencyKey : String} {d : CommandDraws} {t : RunTables} {e : Raised}
    (h : AllOrNothing request (request.course requestedBy idempotencyKey d t []))
    (hraised : ((request.program requestedBy idempotencyKey d).run.eval exec t).1 = .error e) :
    let left := ((request.program requestedBy idempotencyKey d).run.eval exec t).2
    (left.commands, left.run, left.events) = (t.commands, t.run, t.events) := by
  refine eval_keeps_of_steps
    (fun t : RunTables => (t.commands, t.run, t.events)) fun step hstep => ?_
  obtain ⟨hcommands, hrun, hevents⟩ := h.nothing e (among_nil.2.trans hraised) step hstep
  simp only [hcommands, hrun, hevents]

/-- The executor of the claimed run asks for its user's attention. -/
def attendClaimedRun : ControlProgram RunRow :=
  perform (.commitNeedsAttention {
    actionId := "action"
    operationId := "operation"
    checkpoint := {
      checkpointId := "checkpoint"
      stage := "starting"
      roundNo := none
      safeBoundary := "user_action"
      createdAt := 5
      isFinalManifest := false }
    envelope := {
      failureId := "failure"
      revision := 1
      correlationId := none
      runId := "run"
      operationId := some "operation"
      attemptNo := some 1
      reasonCode := "runtime_needs_attention"
      currentOutcome := some .needsAttention
      occurredAt := 5
      body := "" }
    expectedStateRevision := 2
    enteredAt := 5
    executorId := some "worker"
    attemptNo := some 1
    admitted := true })

/-- A run that waits for its user. -/
def attendedRun : List ControlChoice :=
  callAlone 0 1 acceptQueuedRun ++ callAlone 1 1 claimQueuedRun ++ callAlone 2 1 attendClaimedRun

/-- A cancellation of a run that waits for its user raises, and leaves an accepted command
behind. -/
theorem cancel_of_attended_leaves_command :
    ¬AllOrNothing .cancel (LifecycleRequest.cancel.course none "cancel" userDraws
      (ControlPool.after attendedRun).shared []) := by
  intro h
  have hraised : ((LifecycleRequest.cancel.program none "cancel" userDraws).run.eval exec
      (ControlPool.after attendedRun).shared).1 =
        .error (.control .failedOutcomeTerminalImmutable) := by decide +kernel
  have hleft : ((LifecycleRequest.cancel.program none "cancel" userDraws).run.eval exec
      (ControlPool.after attendedRun).shared).2.commands ≠ [] := by decide +kernel
  have hbefore : (ControlPool.after attendedRun).shared.commands = [] := by decide +kernel
  exact hleft ((congrArg Prod.fst (h.eval_eq hraised)).trans hbefore)

end SeekTalent.RuntimeControl
