import SeekTalent.SourcePort.DispatchExclusion
import SeekTalent.SourcePort.LiepinCardsSidecar

/-!
# At most one browser effect for each operation

The journal fences the sidecar processes.  A transition needs the newest session, so between the
acceptance that a process created and its dispatch intent no other process can have committed
anything without starting a session, and then the process cannot dispatch any more
(`Fenced`).  A process therefore dispatches only an authorization that is undispatched and the
newest of its operation, and it starts the effect of each dispatch it created once.
-/

namespace SeekTalent.SourcePort

open Foundation

variable {py : PythonRuntime}
variable {stage : Stage}
variable {world : World}

/-! ## Committed dispatch intents -/

/-- The journal holds the dispatch intent of an authorization, committed by a generation. -/
def Committed (journal : Journal) (key : HeadKey) (generation : Int) : Prop :=
  ∃ event ∈ journal.events, event.phase = .dispatchIntent ∧ event.key = key ∧
    event.eventGeneration = generation

/-- The journal of the world holds the dispatch intent. -/
def World.Committed (world : World) (key : HeadKey) (generation : Int) : Prop :=
  ∃ journal ∈ world.journal, SourcePort.Committed journal key generation

/-- A head whose authorization has a dispatch intent left the accepted phase. -/
theorem Committed.phase_ne {journal : Journal} (h : JournalSound py journal) {head : HeadRow}
    (hmem : head ∈ journal.heads) {generation : Int}
    (hcommitted : Committed journal head.key generation) : head.phase ≠ .accepted := by
  obtain ⟨event, hevent, hphase, hkey, -⟩ := hcommitted
  have hhistory : event ∈ head.history := by
    rw [← h.histories head hmem]
    exact List.mem_filter.mpr ⟨hevent, by simp [hkey]⟩
  exact HeadRow.dispatch_mem_history.mp ⟨event, hhistory, hphase⟩

/-! ## Fencing -/

/-- The session a call is made through. -/
def Call.session : Call → Option Session
  | .create | .start _ => none
  | .close session | .recordAccepted session _ _ | .recordDispatchIntent session _
  | .recordObservation session _ => some session

/-- What a step of one session leaves to the others: events and generations are only added, and
while a generation stays the newest only its own session changes the journal. -/
structure Fenced (before after : World) (actor : Option Session) : Prop where
  grows : ∀ journal ∈ before.journal, ∃ next ∈ after.journal,
    (∀ event ∈ journal.events, event ∈ next.events) ∧
      journal.state.lastSidecarGeneration ≤ next.state.lastSidecarGeneration
  fence : ∀ journal ∈ before.journal, ∀ next ∈ after.journal,
    next.state.lastSidecarGeneration ≤ journal.state.lastSidecarGeneration →
      (∀ session ∈ actor, session.generation ≠ next.state.lastSidecarGeneration) → next = journal

namespace Fenced

/-- A step that leaves the journal as it is. -/
theorem of_journal_eq {before after : World} (h : after.journal = before.journal)
    (actor : Option Session) : Fenced before after actor where
  grows journal hjournal := ⟨journal, h ▸ hjournal, fun _ hevent => hevent, le_rfl⟩
  fence journal hjournal next hnext _ _ := by
    rw [h] at hnext
    exact Option.mem_unique hnext hjournal

/-- Committed dispatch intents stay. -/
theorem committed {before after : World} {actor : Option Session} (h : Fenced before after actor)
    {key : HeadKey} {generation : Int} (hcommitted : before.Committed key generation) :
    after.Committed key generation := by
  obtain ⟨journal, hjournal, event, hevent, hevents⟩ := hcommitted
  obtain ⟨next, hnext, hsub, -⟩ := h.grows journal hjournal
  exact ⟨next, hnext, event, hsub event hevent, hevents⟩

end Fenced

/-- A journal that its newest session appended to is fenced. -/
theorem fenced_append {before after : World} {journal : Journal} {event : EventRow}
    {heads : List HeadRow} {session : Session} (hbefore : before.journal = some journal)
    (hafter : after.journal = some (journal.append event heads))
    (hlive : SessionLive journal session) : Fenced before after (some session) where
  grows := by
    rintro _ hjournal
    obtain rfl := Option.mem_unique hbefore hjournal
    exact ⟨_, hafter, fun old hold => List.mem_append_left _ hold, le_rfl⟩
  fence := by
    intro _ hjournal _ hnext _ hother
    obtain rfl := Option.mem_unique hbefore hjournal
    obtain rfl := Option.mem_unique hafter hnext
    exact absurd hlive.newest.symm (hother session rfl)

/-- Every public call is fenced. -/
theorem exec_fenced (h : world.Sound py) (c : Call) :
    Fenced world (exec py world c) c.session := by
  have houtcome := exec_outcome h c
  generalize hbefore : world.journal = before at houtcome
  generalize hafter : (exec py world c).journal = after at houtcome
  cases houtcome with
  | unchanged => exact .of_journal_eq (hafter.trans hbefore.symm) _
  | created => exact ⟨by simp [hbefore], by simp [hbefore]⟩
  | @started journal next _ _ hstart =>
    obtain ⟨hgeneration, hnewest, hevents, -⟩ := startGeneration_ok py hstart
    constructor
    · intro _ hjournal
      obtain rfl := Option.mem_unique hbefore hjournal
      exact ⟨next, hafter, fun event hevent => hevents ▸ hevent, by omega⟩
    · intro _ hjournal _ hnext hle _
      obtain rfl := Option.mem_unique hbefore hjournal
      obtain rfl := Option.mem_unique hafter hnext
      omega
  | accepted hcreated =>
    obtain ⟨head, -, -, -, -, -, rfl⟩ := hcreated.stored
    exact fenced_append hbefore hafter hcreated.live
  | dispatched _ _ hadvance =>
    obtain rfl := hadvance.stored
    exact fenced_append hbefore hafter hadvance.live
  | observed _ _ _ _ hadvance =>
    obtain rfl := hadvance.stored
    exact fenced_append hbefore hafter hadvance.live

/-! ## The invariant of the processes -/

/-- The authorization of the submit is undispatched and the newest of its operation. -/
structure AwaitsDispatch (journal : Journal) (submit : Submit) : Prop where
  head : ∃ head ∈ journal.heads, head.key = submit.key ∧ head.phase = .accepted
  newest : ∀ head ∈ journal.heads,
    head.columns.operation = submit.acceptedCommand.operation →
      head.columns.dispatchAuthorizationOrdinal ≤
        submit.acceptedCommand.dispatchAuthorizationOrdinal

/-- The submit whose acceptance the process created and has not dispatched. -/
def Stage.awaits : Stage → Option (Session × Submit)
  | .accepted session submit receipt | .acknowledged session submit receipt =>
    if receipt.disposition = .created then some (session, submit) else none
  | _ => none

/-- The submit that the process dispatched and whose effect it has not started. -/
def Stage.authorized : Stage → Option (Session × Submit)
  | .dispatched session submit _ => some (session, submit)
  | _ => none

/-- What holds of one process at its stage. -/
structure StageSound (world : World) (effects : List Effect) (stage : Stage) : Prop where
  generation : ∀ session ∈ stage.session, ∃ journal ∈ world.journal,
    session.generation ≤ journal.state.lastSidecarGeneration
  awaits : ∀ session submit, stage.awaits = some (session, submit) →
    ∀ journal ∈ world.journal, journal.state.lastSidecarGeneration = session.generation →
      AwaitsDispatch journal submit
  authorized : ∀ session submit, stage.authorized = some (session, submit) →
    world.Committed submit.key session.generation ∧ submit.key ∉ effects.map (·.key)

/-- Two processes have different generations and are not about to start the effect of one
authorization. -/
structure Apart (left right : Stage) : Prop where
  generations : ∀ session ∈ left.session, ∀ other ∈ right.session,
    session.generation ≠ other.generation
  authorizations : ∀ session submit, left.authorized = some (session, submit) →
    ∀ other submit', right.authorized = some (other, submit') → submit.key ≠ submit'.key

/-- An effect was started by a process after its own session committed the dispatch intent of the
effect's authorization. -/
def EffectAuthorized (sidecars : Sidecars) (effect : Effect) : Prop :=
  ∃ process, sidecars.processes[effect.process]? = some process ∧
    ∃ session ∈ process.stage.session, sidecars.world.Committed effect.key session.generation

/-- What holds in every state of the processes. -/
structure Sidecars.Sound (py : PythonRuntime) (sidecars : Sidecars) : Prop where
  world : sidecars.world.Sound py
  exclusive : sidecars.world.DispatchExclusive
  stages : ∀ (pid : Nat) (process : Process), sidecars.processes[pid]? = some process →
    StageSound sidecars.world sidecars.effects process.stage
  apart : ∀ (left right : Nat) (process other : Process), left ≠ right →
    sidecars.processes[left]? = some process →
    sidecars.processes[right]? = some other → Apart process.stage other.stage
  effects : ∀ effect ∈ sidecars.effects, EffectAuthorized sidecars effect
  once : (sidecars.effects.map (·.key)).Nodup

/-! ## What a process can do -/

/-- Everything that one event can do to a process and the journal. -/
inductive Move (py : PythonRuntime) (pid : Nat) (world : World) (stage : Stage) : Advanced → Prop
  /-- The journal stays; the process keeps or gives up what it was about to do. -/
  | quiet {after : World} {next : Stage} {reply : Option SidecarReply}
      (hjournal : after.journal = world.journal) (hsession : next.session = stage.session)
      (hawaits : next.awaits = stage.awaits ∨ next.awaits = none)
      (hauthorized : next.authorized = stage.authorized ∨ next.authorized = none) :
      Move py pid world stage ⟨after, next, none, reply⟩
  /-- The process created the journal or recorded an observation. -/
  | wrote {c : Call} {next : Stage} (hc : ∀ session ∈ c.session, session ∈ stage.session)
      (hdispatch : ∀ session arguments, c ≠ .recordDispatchIntent session arguments)
      (hsession : next.session = stage.session) (hawaits : next.awaits = none)
      (hauthorized : next.authorized = none) :
      Move py pid world stage ⟨exec py world c, next, none, none⟩
  /-- The process started its session. -/
  | started {instanceId : HexToken} {session : Session} {journal next : Journal}
      (hstage : stage.session = none) (hjournal : world.journal = some journal)
      (hstart : startGeneration py journal instanceId = .ok (session, next))
      (hafter : (exec py world (.start instanceId)).journal = some next) :
      Move py pid world stage ⟨exec py world (.start instanceId), .serving session, none, none⟩
  /-- The process recorded the acceptance of a submit. -/
  | accepted {session : Session} {submit : Submit} {result : TransitionResult}
      {journal next : Journal} (hstage : stage.session = some session)
      (hjournal : world.journal = some journal)
      (hrecord : recordAccepted py journal session submit.acceptedCommand acceptOptions =
        .ok (result, next))
      (hafter : (exec py world
        (.recordAccepted session submit.acceptedCommand acceptOptions)).journal = some next) :
      Move py pid world stage
        ⟨exec py world (.recordAccepted session submit.acceptedCommand acceptOptions),
          .accepted session submit result, none, none⟩
  /-- The process recorded the dispatch intent of a submit it had accepted. -/
  | dispatched {session : Session} {submit : Submit} {result receipt : TransitionResult}
      {journal next : Journal} (hstage : stage.session = some session)
      (hawaits : stage.awaits = some (session, submit)) (hjournal : world.journal = some journal)
      (hrecord : recordDispatchIntent py journal session (dispatchArguments submit result) =
        .ok (receipt, next))
      (hafter : (exec py world
        (.recordDispatchIntent session (dispatchArguments submit result))).journal = some next) :
      Move py pid world stage
        ⟨exec py world (.recordDispatchIntent session (dispatchArguments submit result)),
          .dispatched session submit receipt, none, none⟩
  /-- The process started the effect of a submit it had dispatched. -/
  | effect {session : Session} {submit : Submit} {receipt : TransitionResult}
      (hstage : stage.session = some session)
      (hauthorized : stage.authorized = some (session, submit)) :
      Move py pid world stage
        ⟨world, .executing session submit receipt, some ⟨pid, submit.kind, submit.key⟩, none⟩

/-- Closing a session leaves the journal. -/
theorem exec_close_journal (world : World) (session : Session) :
    (exec py world (.close session)).journal = world.journal := by
  unfold exec
  split
  next returned after hcall =>
    rw [call, check_bind_eq_ok] at hcall
    obtain ⟨-, rfl⟩ := Prod.mk.inj (pure_eq_ok.mp hcall.2)
    rfl
  next => rfl

/-- A process that ends keeps nothing it was about to do. -/
theorem move_exitFrom (pid : Nat) (world : World) (stage : Stage) :
    Move py pid world stage (exitFrom py world stage) := by
  unfold exitFrom
  split
  next => exact .quiet rfl rfl (Or.inl rfl) (Or.inl rfl)
  next =>
    split
    next session hsession =>
      exact .quiet (exec_close_journal world session) (by rw [hsession]; rfl) (Or.inr rfl)
        (Or.inr rfl)
    next hsession => exact .quiet rfl (by rw [hsession]; rfl) (Or.inr rfl) (Or.inr rfl)

/-- A stage at which nothing happens. -/
theorem move_stay (pid : Nat) (world : World) (stage : Stage) :
    Move py pid world stage ⟨world, stage, none, none⟩ :=
  .quiet rfl rfl (Or.inl rfl) (Or.inl rfl)

/-- A process that needs a receipt gets it or ends. -/
theorem move_withReceipt {pid : Nat} {c : Call} {next : TransitionResult → Stage}
    (h : ∀ result after, call py world c = .ok (.receipt result, after) →
      Move py pid world stage ⟨after, next result, none, none⟩) :
    Move py pid world stage (withReceipt py world stage c next) := by
  unfold withReceipt
  split
  next result after hcall => exact h result after hcall
  next => exact move_exitFrom pid world stage

/-- The handlers dispatch only an acceptance they created. -/
theorem created_of_afterAck {replayObservedOnly : Bool} {accepted : TransitionResult}
    (h : afterAck replayObservedOnly accepted = .recordDispatchIntent) :
    accepted.disposition = .created := by
  unfold afterAck at h
  split at h
  next =>
    split at h <;> cases h
  next =>
    split at h
    next => cases h
    next hreplay =>
      cases hdisposition : accepted.disposition with
      | created => rfl
      | exactReplay => exact absurd (Or.inr hdisposition) hreplay

/-- The next own step of a process is one of the moves. -/
theorem move_advance (pid : Nat) (world : World) (process : Process) :
    Move py pid world process.stage (process.advance py pid world) := by
  unfold Process.advance
  cases hstage : process.stage with
  | launching =>
    simp only
    split
    next => exact move_exitFrom pid world _
    next => exact .quiet rfl rfl (Or.inl rfl) (Or.inl rfl)
  | connected => exact .quiet rfl rfl (Or.inl rfl) (Or.inl rfl)
  | probed journalExists =>
    cases journalExists with
    | true =>
      simp only
      split
      next => exact .quiet rfl rfl (Or.inl rfl) (Or.inl rfl)
      next => exact move_exitFrom pid world _
    | false =>
      simp only
      split
      next returned after hcall =>
        rw [← exec_of_call hcall]
        exact .wrote (by simp [Call.session]) (by simp) rfl rfl rfl
      next => exact move_exitFrom pid world _
  | opened => exact move_stay pid world _
  | serving session => exact move_stay pid world _
  | received session submit =>
    refine move_withReceipt fun result after hcall => ?_
    have hafter := exec_of_call hcall
    obtain ⟨journal, hlive, hrecord⟩ := bind_eq_ok.mp hcall
    obtain ⟨⟨stored, next⟩, hrecord, hreturn⟩ := bind_eq_ok.mp hrecord
    obtain ⟨hresult, rfl⟩ := Prod.mk.inj (pure_eq_ok.mp hreturn)
    cases hresult
    have hmove : Move py pid world (.received session submit) _ :=
      .accepted rfl (World.live_ok hlive).1 hrecord (by rw [hafter])
    rwa [hafter] at hmove
  | accepted session submit accepted =>
    simp only
    split
    next => exact .quiet rfl rfl (Or.inl rfl) (Or.inl rfl)
    next => exact move_exitFrom pid world _
  | acknowledged session submit accepted =>
    simp only
    split
    next => exact .quiet rfl rfl (Or.inr rfl) (Or.inl rfl)
    next => exact move_exitFrom pid world _
    next => exact .quiet rfl rfl (Or.inr rfl) (Or.inl rfl)
    next hafter =>
      refine move_withReceipt fun result after hcall => ?_
      have hexec := exec_of_call hcall
      obtain ⟨journal, hlive, hrecord⟩ := bind_eq_ok.mp hcall
      obtain ⟨⟨stored, next⟩, hrecord, hreturn⟩ := bind_eq_ok.mp hrecord
      obtain ⟨hresult, rfl⟩ := Prod.mk.inj (pure_eq_ok.mp hreturn)
      cases hresult
      have hmove : Move py pid world (.acknowledged session submit accepted) _ :=
        .dispatched rfl (if_pos (created_of_afterAck hafter)) (World.live_ok hlive).1 hrecord
          (by rw [hexec])
      rwa [hexec] at hmove
  | dispatched session submit dispatch => exact .effect rfl rfl
  | executing session submit dispatch => exact move_stay pid world _
  | executed session submit dispatch observation =>
    refine move_withReceipt fun result after hcall => ?_
    rw [← exec_of_call hcall]
    exact .wrote (by simp [Call.session, Stage.session]) (by simp) rfl rfl rfl
  | recorded session submit observation => exact .quiet rfl rfl (Or.inl rfl) (Or.inl rfl)
  | exited session => exact move_stay pid world _

/-- Everything that happens to a process is one of the moves. -/
theorem move_handle (pid : Nat) (world : World) (process : Process) (event : Event) :
    Move py pid world process.stage (process.handle py pid world event) := by
  cases event with
  | advance => exact move_advance pid world process
  | start instanceId =>
    simp only [Process.handle]
    split
    next hstage =>
      split
      next session after hcall =>
        have hexec := exec_of_call hcall
        simp only [call] at hcall
        split at hcall
        next => cases hcall
        next journal hjournal =>
          obtain ⟨⟨started, next⟩, hstart, hreturn⟩ := bind_eq_ok.mp hcall
          obtain ⟨hresult, rfl⟩ := Prod.mk.inj (pure_eq_ok.mp hreturn)
          cases hresult
          have hmove : Move py pid world process.stage _ :=
            .started (by rw [hstage]; rfl) hjournal hstart (by rw [hexec])
          rwa [hexec] at hmove
      next => exact move_exitFrom pid world _
    next => exact move_stay pid world _
  | deliver submit =>
    simp only [Process.handle]
    split
    next session hstage =>
      rw [hstage]
      exact .quiet rfl rfl (Or.inl rfl) (Or.inl rfl)
    next => exact move_stay pid world _
  | effectReturns observation =>
    simp only [Process.handle]
    split
    next session submit dispatch hstage =>
      rw [hstage]
      exact .quiet rfl rfl (Or.inl rfl) (Or.inl rfl)
    next => exact move_stay pid world _
  | crash => exact move_exitFrom pid world process.stage

/-! ## Each move keeps the invariant -/

/-- Fencing keeps what another process waits for. -/
theorem StageSound.of_fenced {before after : World} {actor : Option Session}
    {effects next : List Effect} (h : StageSound before effects stage)
    (hfenced : Fenced before after actor)
    (hother : ∀ session ∈ stage.session, ∀ acting ∈ actor,
      acting.generation ≠ session.generation)
    (hawaits : ∀ session submit, stage.awaits = some (session, submit) →
      session ∈ stage.session)
    (hnew : ∀ session submit, stage.authorized = some (session, submit) →
      submit.key ∉ effects.map (·.key) → submit.key ∉ next.map (·.key)) :
    StageSound after next stage where
  generation := by
    intro session hsession
    obtain ⟨journal, hjournal, hle⟩ := h.generation session hsession
    obtain ⟨grown, hgrown, -, hgeneration⟩ := hfenced.grows journal hjournal
    exact ⟨grown, hgrown, hle.trans hgeneration⟩
  awaits := by
    intro session submit hsubmit grown hgrown hnewest
    have hsession := hawaits session submit hsubmit
    obtain ⟨journal, hjournal, hle⟩ := h.generation session hsession
    have hsame : grown = journal := by
      refine hfenced.fence journal hjournal grown hgrown (hnewest.trans_le hle) ?_
      intro acting hacting
      rw [hnewest]
      exact hother session hsession acting hacting
    subst hsame
    exact h.awaits session submit hsubmit grown hjournal hnewest
  authorized := by
    intro session submit hsubmit
    obtain ⟨hcommitted, hfresh⟩ := h.authorized session submit hsubmit
    exact ⟨hfenced.committed hcommitted, hnew session submit hsubmit hfresh⟩

/-- A stage waits with its own session. -/
theorem Stage.session_of_awaits {session : Session} {submit : Submit}
    (h : stage.awaits = some (session, submit)) : session ∈ stage.session := by
  unfold Stage.awaits at h
  split at h
  next =>
    split at h <;> cases h
    rfl
  next =>
    split at h <;> cases h
    rfl
  next => cases h

/-- A stage starts effects with its own session. -/
theorem Stage.session_of_authorized {session : Session} {submit : Submit}
    (h : stage.authorized = some (session, submit)) : session ∈ stage.session := by
  unfold Stage.authorized at h
  split at h
  next =>
    cases h
    rfl
  next => cases h

/-- Being apart is symmetric. -/
theorem Apart.symm {left right : Stage} (h : Apart left right) : Apart right left where
  generations session hsession other hother hsame :=
    h.generations other hother session hsession hsame.symm
  authorizations session submit hsubmit other submit' hsubmit' hsame :=
    h.authorizations other submit' hsubmit' session submit hsubmit hsame.symm

namespace Sidecars.Sound

variable {sidecars : Sidecars} {pid : Nat} {process : Process} {after : World} {next : Stage}
  {effect : Option Effect} {actor : Option Session}
variable {session : Session} {journal nextJournal : Journal} {submit : Submit}
  {result : TransitionResult}
variable {receipt : TransitionResult}

/-- The new stage of one process stays apart from the stages of the others. -/
theorem apart_next (h : sidecars.Sound py) (hprocess : sidecars.processes[pid]? = some process)
    (hsession : ∀ session ∈ next.session, session ∈ process.stage.session ∨
      ∀ journal ∈ sidecars.world.journal,
        journal.state.lastSidecarGeneration < session.generation)
    (hauthorized : ∀ session submit, next.authorized = some (session, submit) →
      process.stage.authorized = some (session, submit) ∨
        ∀ generation, ¬ sidecars.world.Committed submit.key generation)
    {index : Nat} {other : Process} (hindex : index ≠ pid)
    (hother : sidecars.processes[index]? = some other) : Apart next other.stage := by
  have hold := h.apart pid index process other hindex.symm hprocess hother
  have hstage := h.stages index other hother
  constructor
  · intro session hnext session' hsession'
    rcases hsession session hnext with hmem | hfresh
    · exact hold.generations session hmem session' hsession'
    · obtain ⟨journal, hjournal, hle⟩ := hstage.generation session' hsession'
      exact (hle.trans_lt (hfresh journal hjournal)).ne'
  · intro session submit hnext session' submit' hsubmit' hsame
    rcases hauthorized session submit hnext with hmem | hnone
    · exact hold.authorizations session submit hmem session' submit' hsubmit' hsame
    · have hcommitted := (hstage.authorized session' submit' hsubmit').1
      exact hnone _ (hsame ▸ hcommitted)

variable (next effect) in
/-- The bookkeeping of a move: what it must establish of its own process for the invariant to hold
of all processes. -/
theorem update (h : sidecars.Sound py) (hprocess : sidecars.processes[pid]? = some process)
    (hworld : after.Sound py) (hexclusive : after.DispatchExclusive)
    (hfenced : Fenced sidecars.world after actor)
    (hactor : ∀ acting ∈ actor, acting ∈ next.session)
    (hkeeps : ∀ session ∈ process.stage.session, session ∈ next.session)
    (hsession : ∀ session ∈ next.session, session ∈ process.stage.session ∨
      ∀ journal ∈ sidecars.world.journal,
        journal.state.lastSidecarGeneration < session.generation)
    (hauthorized : ∀ session submit, next.authorized = some (session, submit) →
      process.stage.authorized = some (session, submit) ∨
        ∀ generation, ¬ sidecars.world.Committed submit.key generation)
    (hstage : StageSound after (sidecars.effects ++ effect.toList) next)
    (heffect : ∀ started ∈ effect, started.process = pid ∧ ∃ session submit,
      process.stage.authorized = some (session, submit) ∧ started.key = submit.key)
    (replies : List (Nat × SidecarReply)) :
    Sidecars.Sound py ⟨after, sidecars.processes.set pid { process with stage := next },
      sidecars.effects ++ effect.toList, replies⟩ := by
  have hlength : pid < sidecars.processes.length := (List.getElem?_eq_some_iff.mp hprocess).1
  have hself : (sidecars.processes.set pid { process with stage := next })[pid]? =
      some { process with stage := next } := by
    rw [List.getElem?_set_self hlength]
  have hothers : ∀ index, index ≠ pid →
      (sidecars.processes.set pid { process with stage := next })[index]? =
        sidecars.processes[index]? :=
    fun index hindex => List.getElem?_set_ne hindex.symm
  have hnext : ∀ index other, index ≠ pid → sidecars.processes[index]? = some other →
      Apart next other.stage :=
    fun index other hindex hother => h.apart_next hprocess hsession hauthorized hindex hother
  have hold := h.stages pid process hprocess
  refine ⟨hworld, hexclusive, ?_, ?_, ?_, ?_⟩
  · intro index other hother
    by_cases hindex : index = pid
    · subst hindex
      rw [hself] at hother
      cases hother
      exact hstage
    · rw [hothers index hindex] at hother
      refine (h.stages index other hother).of_fenced hfenced ?_
        (fun _ _ => Stage.session_of_awaits) ?_
      · intro session hmem acting hacting
        exact (hnext index other hindex hother).generations acting (hactor acting hacting) session
          hmem
      · intro session submit hsubmit hfresh
        rw [List.map_append, List.mem_append]
        rintro (hmem | hmem)
        · exact hfresh hmem
        · obtain ⟨started, hstarted, hkey⟩ := List.mem_map.mp hmem
          obtain ⟨-, session', submit', hsubmit', hkey'⟩ :=
            heffect started (Option.mem_toList.mp hstarted)
          exact (h.apart pid index process other (Ne.symm hindex) hprocess hother).authorizations
            session' submit' hsubmit' session submit hsubmit (hkey'.symm.trans hkey)
  · intro left right leftProcess rightProcess hne hleft hright
    by_cases hleftPid : left = pid
    · subst hleftPid
      rw [hself] at hleft
      cases hleft
      rw [hothers right hne.symm] at hright
      exact hnext right rightProcess hne.symm hright
    · rw [hothers left hleftPid] at hleft
      by_cases hrightPid : right = pid
      · subst hrightPid
        rw [hself] at hright
        cases hright
        exact (hnext left leftProcess hne hleft).symm
      · rw [hothers right hrightPid] at hright
        exact h.apart left right leftProcess rightProcess hne hleft hright
  · intro started hstarted
    rcases List.mem_append.mp hstarted with hstarted | hstarted
    · obtain ⟨owner, howner, session, hmem, hcommitted⟩ := h.effects started hstarted
      by_cases hindex : started.process = pid
      · rw [hindex, hprocess] at howner
        cases howner
        exact ⟨{ process with stage := next }, hindex ▸ hself, session, hkeeps session hmem,
          hfenced.committed hcommitted⟩
      · exact ⟨owner, (hothers _ hindex).trans howner, session, hmem,
          hfenced.committed hcommitted⟩
    · obtain ⟨hindex, session, submit, hsubmit, hkey⟩ :=
        heffect started (Option.mem_toList.mp hstarted)
      have hcommitted := (hold.authorized session submit hsubmit).1
      exact ⟨{ process with stage := next }, hindex ▸ hself, session,
        hkeeps session (Stage.session_of_authorized hsubmit),
        hkey ▸ hfenced.committed hcommitted⟩
  · rw [List.map_append, List.nodup_append]
    refine ⟨h.once, ?_, ?_⟩
    · cases effect <;> simp
    · intro key hkey key' hkey' hsame
      obtain ⟨started, hstarted, rfl⟩ := List.mem_map.mp hkey'
      obtain ⟨-, session, submit, hsubmit, hstartedKey⟩ :=
        heffect started (Option.mem_toList.mp hstarted)
      exact (hold.authorized session submit hsubmit).2 (hstartedKey ▸ hsame ▸ hkey)

/-- A quiet move keeps the invariant. -/
theorem quiet (h : sidecars.Sound py) (hprocess : sidecars.processes[pid]? = some process)
    (hjournal : after.journal = sidecars.world.journal)
    (hsession : next.session = process.stage.session)
    (hawaits : next.awaits = process.stage.awaits ∨ next.awaits = none)
    (hauthorized : next.authorized = process.stage.authorized ∨ next.authorized = none)
    (replies : List (Nat × SidecarReply)) :
    Sidecars.Sound py ⟨after, sidecars.processes.set pid { process with stage := next },
      sidecars.effects ++ (none : Option Effect).toList, replies⟩ := by
  have hold := h.stages pid process hprocess
  have hfenced : Fenced sidecars.world after none := .of_journal_eq hjournal none
  have hworld : after.Sound py := fun journal hmem => h.world journal (hjournal ▸ hmem)
  have hexclusive : after.DispatchExclusive :=
    fun journal hmem => h.exclusive journal (hjournal ▸ hmem)
  refine h.update next none hprocess hworld hexclusive hfenced (by simp) (by simp [hsession])
    (fun session hmem => Or.inl (hsession ▸ hmem)) ?_ ?_ (by simp) replies
  · intro session submit hsubmit
    rcases hauthorized with hsame | hnone
    · exact Or.inl (hsame ▸ hsubmit)
    · simp [hnone] at hsubmit
  · constructor
    · intro session hmem
      rw [hjournal]
      exact hold.generation session (hsession ▸ hmem)
    · intro session submit hsubmit journal hmem
      rw [hjournal] at hmem
      rcases hawaits with hsame | hnone
      · exact hold.awaits session submit (hsame ▸ hsubmit) journal hmem
      · simp [hnone] at hsubmit
    · intro session submit hsubmit
      rcases hauthorized with hsame | hnone
      · obtain ⟨hcommitted, hfresh⟩ := hold.authorized session submit (hsame ▸ hsubmit)
        exact ⟨hfenced.committed hcommitted, by simpa using hfresh⟩
      · simp [hnone] at hsubmit

/-- A call that records no dispatch intent keeps the world exclusive. -/
theorem exclusive_exec (h : sidecars.Sound py) {c : Call}
    (hc : ∀ session arguments, c ≠ .recordDispatchIntent session arguments) :
    (exec py sidecars.world c).DispatchExclusive := by
  rw [exec_dispatchExclusive_iff h.world h.exclusive c]
  intro _
  cases c with
  | recordDispatchIntent session arguments => exact absurd rfl (hc session arguments)
  | _ => trivial

/-- A write that leaves the process with nothing to do keeps the invariant. -/
theorem wrote (h : sidecars.Sound py) (hprocess : sidecars.processes[pid]? = some process)
    {c : Call} (hc : ∀ session ∈ c.session, session ∈ process.stage.session)
    (hdispatch : ∀ session arguments, c ≠ .recordDispatchIntent session arguments)
    (hsession : next.session = process.stage.session) (hawaits : next.awaits = none)
    (hauthorized : next.authorized = none) (replies : List (Nat × SidecarReply)) :
    Sidecars.Sound py ⟨exec py sidecars.world c,
      sidecars.processes.set pid { process with stage := next },
      sidecars.effects ++ (none : Option Effect).toList, replies⟩ := by
  have hold := h.stages pid process hprocess
  have hfenced := exec_fenced h.world c
  refine h.update next none hprocess (exec_sound h.world c) (h.exclusive_exec hdispatch) hfenced
    (fun session hmem => hsession ▸ hc session hmem) (by simp [hsession])
    (fun session hmem => Or.inl (hsession ▸ hmem)) (by simp [hauthorized]) ?_ (by simp) replies
  constructor
  · intro session hmem
    obtain ⟨journal, hjournal, hle⟩ := hold.generation session (hsession ▸ hmem)
    obtain ⟨grown, hgrown, -, hgeneration⟩ := hfenced.grows journal hjournal
    exact ⟨grown, hgrown, hle.trans hgeneration⟩
  · simp [hawaits]
  · simp [hauthorized]

/-- A started session keeps the invariant: its generation is new. -/
theorem started (h : sidecars.Sound py) (hprocess : sidecars.processes[pid]? = some process)
    {instanceId : HexToken}
    (hstage : process.stage.session = none) (hjournal : sidecars.world.journal = some journal)
    (hstart : startGeneration py journal instanceId = .ok (session, nextJournal))
    (hafter : (exec py sidecars.world (.start instanceId)).journal = some nextJournal)
    (replies : List (Nat × SidecarReply)) :
    Sidecars.Sound py ⟨exec py sidecars.world (.start instanceId),
      sidecars.processes.set pid { process with stage := .serving session },
      sidecars.effects ++ (none : Option Effect).toList, replies⟩ := by
  obtain ⟨hgeneration, hnewest, -, -⟩ := startGeneration_ok py hstart
  refine h.update (.serving session) none hprocess (exec_sound h.world _)
    (h.exclusive_exec (by simp))
    (exec_fenced h.world _) (by simp [Call.session]) (by simp [hstage]) ?_
    (by simp [Stage.authorized]) ?_ (by simp) replies
  · rintro _ ⟨⟩
    refine Or.inr fun found hfound => ?_
    obtain rfl := Option.mem_unique hjournal hfound
    omega
  · constructor
    · rintro _ ⟨⟩
      exact ⟨nextJournal, hafter, hnewest.ge⟩
    · simp [Stage.awaits]
    · simp [Stage.authorized]

/-- An acceptance that was created is undispatched and the newest of its operation. -/
theorem awaitsDispatch_of_created (h : JournalSound py journal)
    (hrecord : recordAccepted py journal session submit.acceptedCommand acceptOptions =
      .ok (result, nextJournal)) (hdisposition : result.disposition = .created) :
    AwaitsDispatch nextJournal submit := by
  rcases recordAccepted_ok py hrecord with ⟨-, hreplay, -⟩ | hcreated
  · rw [hreplay] at hdisposition
    cases hdisposition
  · have hfits := JournalSound.acceptanceFits h hcreated.ordinal hcreated.noCollision
    obtain ⟨created, ⟨ack, hcreatedEq⟩, -, -, -, -, rfl⟩ := hcreated.stored
    have hkey : created.key = submit.key := by rw [hcreatedEq]; rfl
    have hphase : created.phase = .accepted := by rw [hcreatedEq]; rfl
    refine ⟨⟨created, List.mem_append_right _ (List.mem_singleton_self _), hkey, hphase⟩, ?_⟩
    intro head hhead hoperation
    rcases List.mem_append.mp hhead with hhead | hhead
    · have hbounds := JournalSound.ordinal_bounds h hhead
      rw [hoperation] at hbounds
      have hordinal := hfits.ordinal
      omega
    · rw [List.mem_singleton.mp hhead, hcreatedEq]
      exact le_rfl

/-- A recorded acceptance keeps the invariant. -/
theorem accepted (h : sidecars.Sound py) (hprocess : sidecars.processes[pid]? = some process)
    (hstage : process.stage.session = some session)
    (hjournal : sidecars.world.journal = some journal)
    (hrecord : recordAccepted py journal session submit.acceptedCommand acceptOptions =
      .ok (result, nextJournal))
    (hafter : (exec py sidecars.world
      (.recordAccepted session submit.acceptedCommand acceptOptions)).journal = some nextJournal)
    (replies : List (Nat × SidecarReply)) :
    Sidecars.Sound py
      ⟨exec py sidecars.world (.recordAccepted session submit.acceptedCommand acceptOptions),
        sidecars.processes.set pid { process with stage := .accepted session submit result },
        sidecars.effects ++ (none : Option Effect).toList, replies⟩ := by
  have hold := h.stages pid process hprocess
  have hfenced := exec_fenced h.world
    (.recordAccepted session submit.acceptedCommand acceptOptions)
  refine h.update (.accepted session submit result) none hprocess (exec_sound h.world _)
    (h.exclusive_exec (by simp)) hfenced
    (by simp [Call.session, Stage.session]) (fun other hother => by rwa [hstage] at hother)
    (fun other hother => Or.inl (hstage ▸ hother)) (by simp [Stage.authorized]) ?_ (by simp)
    replies
  constructor
  · intro other hother
    obtain ⟨found, hfound, hle⟩ := hold.generation other (hstage ▸ hother)
    obtain ⟨grown, hgrown, -, hgeneration⟩ := hfenced.grows found hfound
    exact ⟨grown, hgrown, hle.trans hgeneration⟩
  · intro other waiting hwaiting grown hgrown _
    obtain rfl := Option.mem_unique hafter hgrown
    simp only [Stage.awaits] at hwaiting
    split at hwaiting
    next hdisposition =>
      cases hwaiting
      exact awaitsDispatch_of_created (h.world journal hjournal) hrecord hdisposition
    next => cases hwaiting
  · simp [Stage.authorized]

/-- A dispatch intent of an awaited authorization is created, not replayed. -/
theorem dispatch_created (h : JournalSound py journal) (hawaits : AwaitsDispatch journal submit)
    (hrecord : recordDispatchIntent py journal session (dispatchArguments submit result) =
      .ok (receipt, nextJournal)) :
    Committed nextJournal submit.key session.generation ∧
      ∀ generation, ¬ Committed journal submit.key generation := by
  obtain ⟨awaited, hawaited, hawaitedKey, hphase⟩ := hawaits.head
  obtain ⟨-, head, hmem, hkey, houtcome⟩ := recordDispatchIntent_ok py h.headKeys hrecord
  have hsame : head = awaited :=
    List.inj_on_of_nodup_map h.headKeys hmem hawaited (hkey.trans hawaitedKey.symm)
  subst hsame
  have hnone : ∀ generation, ¬ Committed journal submit.key generation := by
    intro generation hcommitted
    rw [← hawaitedKey] at hcommitted
    exact hcommitted.phase_ne h hmem hphase
  rcases houtcome with ⟨-, hdispatched, -⟩ | ⟨-, -, -, hadvance⟩
  · rw [hphase] at hdispatched
    cases hdispatched
  · obtain rfl := hadvance.stored
    exact ⟨⟨_, List.mem_append_right _ (List.mem_singleton_self _), rfl, hawaitedKey, rfl⟩, hnone⟩

/-- A dispatch intent of an awaited authorization keeps the invariant. -/
theorem dispatched (h : sidecars.Sound py) (hprocess : sidecars.processes[pid]? = some process)
    (hstage : process.stage.session = some session)
    (hawaits : process.stage.awaits = some (session, submit))
    (hjournal : sidecars.world.journal = some journal)
    (hrecord : recordDispatchIntent py journal session (dispatchArguments submit result) =
      .ok (receipt, nextJournal))
    (hafter : (exec py sidecars.world
      (.recordDispatchIntent session (dispatchArguments submit result))).journal =
        some nextJournal) (replies : List (Nat × SidecarReply)) :
    Sidecars.Sound py
      ⟨exec py sidecars.world (.recordDispatchIntent session (dispatchArguments submit result)),
        sidecars.processes.set pid { process with stage := .dispatched session submit receipt },
        sidecars.effects ++ (none : Option Effect).toList, replies⟩ := by
  have hold := h.stages pid process hprocess
  have hsound := h.world journal hjournal
  have hfenced := exec_fenced h.world
    (.recordDispatchIntent session (dispatchArguments submit result))
  have hlive := (recordDispatchIntent_ok py hsound.headKeys hrecord).1
  have hawaited := hold.awaits session submit hawaits journal hjournal hlive.newest
  obtain ⟨hcommitted, hnone⟩ := dispatch_created hsound hawaited hrecord
  have hnotCommitted : ∀ generation, ¬ sidecars.world.Committed submit.key generation := by
    rintro generation ⟨found, hfound, hevent⟩
    obtain rfl := Option.mem_unique hjournal hfound
    exact hnone generation hevent
  have hexclusive : (exec py sidecars.world
      (.recordDispatchIntent session (dispatchArguments submit result))).DispatchExclusive := by
    rw [exec_dispatchExclusive_iff h.world h.exclusive]
    intro _ found hfound head hhead hoperation
    obtain rfl := Option.mem_unique hjournal hfound
    exact hawaited.newest head hhead hoperation
  refine h.update (.dispatched session submit receipt) none hprocess (exec_sound h.world _)
    hexclusive hfenced
    (by simp [Call.session, Stage.session]) (fun other hother => by rwa [hstage] at hother)
    (fun other hother => Or.inl (hstage ▸ hother)) ?_ ?_ (by simp) replies
  · rintro _ _ ⟨⟩
    exact Or.inr hnotCommitted
  · constructor
    · intro other hother
      obtain ⟨found, hfound, hle⟩ := hold.generation other (hstage ▸ hother)
      obtain ⟨grown, hgrown, -, hgeneration⟩ := hfenced.grows found hfound
      exact ⟨grown, hgrown, hle.trans hgeneration⟩
    · simp [Stage.awaits]
    · rintro _ _ ⟨⟩
      refine ⟨⟨nextJournal, hafter, hcommitted⟩, ?_⟩
      intro hstarted
      rw [Option.toList_none, List.append_nil] at hstarted
      obtain ⟨started, hmem, hkey⟩ := List.mem_map.mp hstarted
      obtain ⟨-, -, owner, -, hold⟩ := h.effects started hmem
      exact hnotCommitted owner.generation (hkey ▸ hold)

/-- The start of an authorized effect keeps the invariant. -/
theorem effectStarted (h : sidecars.Sound py)
    (hprocess : sidecars.processes[pid]? = some process)
    (hstage : process.stage.session = some session)
    (hauthorized : process.stage.authorized = some (session, submit))
    (replies : List (Nat × SidecarReply)) :
    Sidecars.Sound py ⟨sidecars.world,
      sidecars.processes.set pid { process with stage := .executing session submit receipt },
      sidecars.effects ++ (some (⟨pid, submit.kind, submit.key⟩ : Effect)).toList, replies⟩ := by
  have hold := h.stages pid process hprocess
  refine h.update (.executing session submit receipt) (some ⟨pid, submit.kind, submit.key⟩) hprocess
    h.world h.exclusive (Fenced.of_journal_eq rfl none) (by simp)
    (fun other hother => by rwa [hstage] at hother) (fun other hother => Or.inl (hstage ▸ hother))
    (by simp [Stage.authorized]) ?_ ?_ replies
  · exact ⟨fun other hother => hold.generation other (hstage ▸ hother), by simp [Stage.awaits],
      by simp [Stage.authorized]⟩
  · rintro _ ⟨⟩
    exact ⟨rfl, session, submit, hauthorized, rfl⟩

/-- A spawned process has no session yet. -/
theorem spawn (h : sidecars.Sound py) (replayObservedOnly : Bool) :
    (sidecars.step py (.spawn replayObservedOnly)).Sound py := by
  have hcases : ∀ (index : Nat) (other : Process),
      (sidecars.processes ++ [⟨replayObservedOnly, .launching⟩])[index]? = some other →
        sidecars.processes[index]? = some other ∨ other.stage = .launching := by
    intro index other hother
    rw [List.getElem?_append] at hother
    split at hother
    next => exact Or.inl hother
    next =>
      have hmem := List.mem_of_getElem? hother
      rw [List.mem_singleton] at hmem
      exact Or.inr (by rw [hmem])
  have hlaunching : ∀ stage, Apart .launching stage :=
    fun _ => ⟨by simp [Stage.session], by simp [Stage.authorized]⟩
  refine ⟨h.world, h.exclusive, ?_, ?_, ?_, h.once⟩
  · intro index other hother
    rcases hcases index other hother with hold | hnew
    · exact h.stages index other hold
    · rw [hnew]
      exact ⟨by simp [Stage.session], by simp [Stage.awaits], by simp [Stage.authorized]⟩
  · intro left right process other hne hleft hright
    rcases hcases left process hleft with holdLeft | hnewLeft
    · rcases hcases right other hright with holdRight | hnewRight
      · exact h.apart left right process other hne holdLeft holdRight
      · rw [hnewRight]
        exact (hlaunching process.stage).symm
    · rw [hnewLeft]
      exact hlaunching other.stage
  · intro started hstarted
    obtain ⟨owner, howner, hrest⟩ := h.effects started hstarted
    exact ⟨owner, List.getElem?_append_left (List.getElem?_eq_some_iff.mp howner).1 ▸ howner,
      hrest⟩

/-- Every step of the processes keeps the invariant. -/
theorem step (h : sidecars.Sound py) (label : SidecarLabel) :
    (sidecars.step py label).Sound py := by
  cases label with
  | spawn replayObservedOnly => exact h.spawn replayObservedOnly
  | process pid event =>
    simp only [Sidecars.step]
    cases hprocess : sidecars.processes[pid]? with
    | none => exact h
    | some process =>
      have hmove : Move py pid sidecars.world process.stage _ :=
        move_handle pid sidecars.world process event
      simp only
      generalize process.handle py pid sidecars.world event = advanced at hmove
      cases hmove with
      | quiet hjournal hsession hawaits hauthorized =>
        exact h.quiet hprocess hjournal hsession hawaits hauthorized _
      | wrote hc hdispatch hsession hawaits hauthorized =>
        exact h.wrote hprocess hc hdispatch hsession hawaits hauthorized _
      | started hstage hjournal hstart hafter =>
        exact h.started hprocess hstage hjournal hstart hafter _
      | accepted hstage hjournal hrecord hafter =>
        exact h.accepted hprocess hstage hjournal hrecord hafter _
      | dispatched hstage hawaits hjournal hrecord hafter =>
        exact h.dispatched hprocess hstage hawaits hjournal hrecord hafter _
      | effect hstage hauthorized => exact h.effectStarted hprocess hstage hauthorized _

/-- The invariant holds before the first process. -/
theorem initial : Sidecars.initial.Sound py where
  world := World.initial_sound
  exclusive := by rintro _ ⟨⟩
  stages := by simp [Sidecars.initial]
  apart := by simp [Sidecars.initial]
  effects := by simp [Sidecars.initial]
  once := by simp [Sidecars.initial]

end Sidecars.Sound

/-- The invariant holds in every state of every run. -/
theorem sidecars_sound (labels : List SidecarLabel) :
    (run (Sidecars.step py) .initial labels).Sound py :=
  run_invariant (I := fun sidecars : Sidecars => sidecars.Sound py) (fun _ label h => h.step label)
    .initial labels

/-- Dispatch intents of one operation in an exclusive world have one authorization. -/
theorem World.DispatchExclusive.key_eq (h : world.DispatchExclusive)
    {left right : Effect} (hoperation : left.operation = right.operation) {g g' : Int}
    (hleft : world.Committed left.key g) (hright : world.Committed right.key g') :
    left.key = right.key := by
  obtain ⟨journal, hjournal, event, hevent, hphase, hkey, -⟩ := hleft
  obtain ⟨_, hjournal', event', hevent', hphase', hkey', -⟩ := hright
  obtain rfl := Option.mem_unique hjournal hjournal'
  have hmem : ∀ e ∈ journal.events, e.phase = .dispatchIntent →
      (e.columns.operation, e.columns.dispatchAuthorizationOrdinal) ∈ journal.dispatchIntents :=
    fun e he hdispatch => List.mem_map.mpr
      ⟨e, List.mem_filter.mpr ⟨he, by simp [hdispatch]⟩, rfl⟩
  have hsame : event.columns.operation = event'.columns.operation := by
    rw [Effect.operation, Effect.operation, ← hkey, ← hkey'] at hoperation
    exact hoperation
  have hordinal := (h journal hjournal).oneOrdinal _ _ _ (hmem event hevent hphase)
    (hsame ▸ hmem event' hevent' hphase')
  rw [← hkey, ← hkey']
  obtain ⟨hrun, hid⟩ := Prod.mk.inj hsame
  simp only [EventRow.key, AcceptedCommand.key, hrun, hid, hordinal]

/-- **At most one browser effect.**  For every sequence of processes, submits, crashes and
interleavings over one journal, the effect functions are started at most once for each logical
operation over all of its authorizations, and each start comes after the dispatch intent of exactly
that authorization was committed by the starting process's own session, whose generation no other
process shares. -/
theorem effect_started_at_most_once (py : PythonRuntime) (labels : List SidecarLabel) :
    let sidecars := run (Sidecars.step py) .initial labels
    (sidecars.effects.map (·.operation)).Nodup ∧
      (∀ effect ∈ sidecars.effects, EffectAuthorized sidecars effect) ∧
      ∀ (left right : Nat) (process other : Process), left ≠ right →
        sidecars.processes[left]? = some process → sidecars.processes[right]? = some other →
          ∀ session ∈ process.stage.session, ∀ session' ∈ other.stage.session,
            session.generation ≠ session'.generation := by
  intro sidecars
  have h : sidecars.Sound py := sidecars_sound labels
  refine ⟨?_, h.effects, fun left right process other hne hleft hright =>
    (h.apart left right process other hne hleft hright).generations⟩
  rw [List.Nodup, List.pairwise_map]
  have honce := h.once
  rw [List.Nodup, List.pairwise_map] at honce
  refine honce.imp_of_mem ?_
  intro left right hleft hright hne hoperation
  obtain ⟨_, -, _, -, hleftCommitted⟩ := h.effects left hleft
  obtain ⟨_, -, _, -, hrightCommitted⟩ := h.effects right hright
  exact hne (h.exclusive.key_eq hoperation hleftCommitted hrightCommitted)

end SeekTalent.SourcePort
