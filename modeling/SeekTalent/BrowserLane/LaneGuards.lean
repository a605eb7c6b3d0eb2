import SeekTalent.BrowserLane.LaneHistory

/-!
# The guards of the browser lane

`BrowserLaneGuard` holds the lane while a browser effect runs: `__enter__` polls for a lease, a
thread renews it, and `__exit__` releases the lane, or leaves it to reconciliation.  Any number of
guards, of any processes, share one store with the reconciliation and with the writers of the source
ledger.

However they interleave and whatever fails, two guards are in their bodies at the same time only if
the lease of the older one was ended by what the ledger proved about its own operation; and from
then on the store answers it that the lane is lost (`guards_exclusive`).
-/

namespace SeekTalent.BrowserLane

open Foundation RuntimeControl

/-! ## Guards -/

/-- Where a guard is: before `__enter__` got a lease, in the body, or behind `__exit__`. -/
inductive GuardPhase
  | waiting
  | inside
  | left
  deriving DecidableEq, Repr

/-- What a guard is made with. -/
structure GuardConfig where
  ownerId : String
  ownerProcessId : Int
  processBootId : String
  runtimeRunId : Option String
  operationId : String
  operationKind : BrowserLaneOperationKind
  deriving DecidableEq, Repr

/-- `BrowserLaneGuard`. -/
structure BrowserLaneGuard extends GuardConfig where
  phase : GuardPhase := .waiting
  lease : Option BrowserLaneLease := none
  heartbeatFailed : Bool := false
  unresolvedFailureCode : Option String := none
  deriving DecidableEq, Repr

/-- The request of an attempt to enter. -/
def GuardConfig.request (g : GuardConfig) (now leaseExpiresAt : Nat) : AcquireRequest where
  laneKey := liepinBrowserLane
  ownerId := g.ownerId
  ownerProcessId := g.ownerProcessId
  processBootId := g.processBootId
  runtimeRunId := g.runtimeRunId
  operationId := g.operationId
  operationKind := g.operationKind
  acquiredAt := now
  leaseExpiresAt := leaseExpiresAt

/-- The guards of all processes, and the store with its history. -/
structure GuardSystem where
  run : LaneRun
  guards : Nat → BrowserLaneGuard

/-- What can happen next.  A call of a guard that does not reach the store (`fault`) leaves it as it
is. -/
inductive GuardAction
  | enter (guard : Nat) (now leaseExpiresAt : Nat)
  | heartbeat (guard : Nat) (now leaseExpiresAt : Nat) (fault : Bool)
  | preserveUnresolved (guard : Nat) (failureCode : String)
  | exit (guard : Nat) (now : Nat) (failureCode : Option String) (fault : Bool)
  | resolveExpired (request : ResolveRequest)
  | reconcileEvidence (lane : BrowserLaneSnapshot) (runtimeRunId : String) (observedAt : Nat)
  | resolveObserved (runtimeRunId operationId : String) (resolvedAt : Nat)
  | writeLedger (runtimeRunId : String) (tables : LedgerTables)

/-- One poll of `__enter__`. -/
def BrowserLaneGuard.enter (g : BrowserLaneGuard) (s : LaneStore) (now leaseExpiresAt : Nat) :
    BrowserLaneGuard :=
  match tryAcquireBrowserLane s (g.request now leaseExpiresAt) with
  | .ok (some lease, _) => { g with phase := .inside, lease := some lease }
  | _ => g

/-- The call of one turn of `_heartbeat_loop`. -/
def heartbeatCall (lease : BrowserLaneLease) (now leaseExpiresAt : Nat) : LaneCall :=
  .heartbeat lease.laneKey lease.ownerId lease.fencingToken now leaseExpiresAt

/-- The guard behind one turn of `_heartbeat_loop` that reached the store. -/
def BrowserLaneGuard.beat (g : BrowserLaneGuard) (s : LaneStore) (lease : BrowserLaneLease)
    (now leaseExpiresAt : Nat) : BrowserLaneGuard :=
  match heartbeatBrowserLane s lease.laneKey lease.ownerId lease.fencingToken now
    leaseExpiresAt with
  | .ok (renewed, _) => { g with lease := some renewed }
  | .error _ => { g with heartbeatFailed := true }

/-- The call of `__exit__`, if there is one. -/
def BrowserLaneGuard.exitCall (g : BrowserLaneGuard) (lease : BrowserLaneLease) (now : Nat)
    (failureCode : Option String) : Option LaneCall :=
  if g.heartbeatFailed then none
  else
    match g.unresolvedFailureCode with
    | some code => some (.markUnresolved lease.laneKey lease.ownerId lease.fencingToken code now)
    | none =>
      some (.release lease.laneKey lease.ownerId lease.fencingToken now
        (if failureCode = none then .completed else .failed) failureCode)

/-- The system behind a call that one guard makes. -/
def GuardSystem.calls (s : GuardSystem) (call : LaneCall) (guard : Nat) (g : BrowserLaneGuard) :
    GuardSystem :=
  { run := s.run.step call, guards := Function.update s.guards guard g }

/-- The system in which only one guard has changed. -/
def GuardSystem.sets (s : GuardSystem) (guard : Nat) (g : BrowserLaneGuard) : GuardSystem :=
  { s with guards := Function.update s.guards guard g }

/-- One step. -/
def GuardSystem.step (s : GuardSystem) : GuardAction → GuardSystem
  | .enter guard now leaseExpiresAt =>
    let g := s.guards guard
    if g.phase = .waiting then
      s.calls (.tryAcquire (g.request now leaseExpiresAt)) guard
        (g.enter s.run.store now leaseExpiresAt)
    else s
  | .heartbeat guard now leaseExpiresAt fault =>
    let g := s.guards guard
    match g.lease with
    | none => s
    | some lease =>
      if g.heartbeatFailed then s
      else if fault then s.sets guard { g with heartbeatFailed := true }
      else
        s.calls (heartbeatCall lease now leaseExpiresAt) guard
          (g.beat s.run.store lease now leaseExpiresAt)
  | .preserveUnresolved guard failureCode =>
    let g := s.guards guard
    if g.phase = .inside ∧ isSafeReason failureCode then
      s.sets guard { g with unresolvedFailureCode := some failureCode }
    else s
  | .exit guard now failureCode fault =>
    let g := s.guards guard
    match g.phase, g.lease with
    | .inside, some lease =>
      match g.exitCall lease now failureCode with
      | some call =>
        if fault then s.sets guard { g with phase := .left }
        else s.calls call guard { g with phase := .left }
      | none => s.sets guard { g with phase := .left }
    | _, _ => s
  | .resolveExpired request => { s with run := s.run.step (.resolveExpired request) }
  | .reconcileEvidence lane runtimeRunId observedAt =>
    { s with run := s.run.step (.reconcileEvidence lane runtimeRunId observedAt) }
  | .resolveObserved runtimeRunId operationId resolvedAt =>
    { s with run := s.run.step (.resolveObserved runtimeRunId operationId resolvedAt) }
  | .writeLedger runtimeRunId tables =>
    { s with run := s.run.step (.writeLedger runtimeRunId tables) }

/-- What a run of actions comes to, from a lane that was never acquired and guards that wait. -/
def guardRun (ledger : String → LedgerTables) (configs : Nat → GuardConfig)
    (actions : List GuardAction) : GuardSystem :=
  run GuardSystem.step
    { run := { store := { ledger := ledger } }, guards := fun guard => { configs guard with } }
    actions

/-- The guard is in its body with a lease. -/
def BrowserLaneGuard.Holds (g : BrowserLaneGuard) (lease : BrowserLaneLease) : Prop :=
  g.phase = .inside ∧ g.lease = some lease

/-! ## Exclusion -/

section Exclusion

variable {s : LaneStore} {call : LaneCall} {lease lease' : BrowserLaneLease} {event : LaneEvent}
variable {fencingToken : Nat}

/-- The lease is the open one. -/
def LaneStore.Live (s : LaneStore) (lease : BrowserLaneLease) : Prop :=
  ∃ opened, s.fence.opened = some opened ∧ lease.Same opened

/-- Only the lease itself is open under its token. -/
def LaneStore.Known (s : LaneStore) (lease : BrowserLaneLease) : Prop :=
  ∀ opened, s.fence.opened = some opened → opened.fencingToken = lease.fencingToken →
    lease.Same opened

/-- No lease is open under the token. -/
def LaneStore.Dead (s : LaneStore) (fencingToken : Nat) : Prop :=
  ∀ opened, s.fence.opened = some opened → opened.fencingToken ≠ fencingToken

/-- What a call does to the fence. -/
lemma fence_perform (hs : s.Sound) (call : LaneCall) :
    ((perform s call).2 = none ∧ (perform s call).1.fence = s.fence) ∨
      ∃ event, (perform s call).2 = some event ∧
        laneProtocol.Step s.fence event (perform s call).1.fence := by
  obtain ⟨-, hcourse⟩ := fenced_perform hs call
  cases hevent : (perform s call).2 with
  | none =>
    rw [hevent] at hcourse
    exact Or.inl ⟨rfl, Eq.symm hcourse⟩
  | some event =>
    rw [hevent] at hcourse
    obtain ⟨next, hstep, rfl⟩ := hcourse
    exact Or.inr ⟨event, rfl, hstep⟩

/-- A call never takes tokens back. -/
lemma issued_perform_le (hs : s.Sound) (call : LaneCall) :
    s.fence.issued ≤ (perform s call).1.fence.issued := by
  obtain ⟨-, hsame⟩ | ⟨event, -, hstep⟩ := fence_perform hs call
  · exact (congrArg Fence.issued hsame).ge
  · exact hstep.issued_le

/-- Only a release is recorded as one. -/
lemma released_of_perform {ownerId : String}
    (h : (perform s call).2 = some (.released ownerId fencingToken)) :
    ∃ laneKey releasedAt status code,
      call = .release laneKey ownerId fencingToken releasedAt status code := by
  cases call with
  | release laneKey owner token releasedAt status code =>
    simp only [perform] at h
    split at h <;> cases h
    exact ⟨laneKey, releasedAt, status, code, rfl⟩
  | tryAcquire | heartbeat | markUnresolved | reconcileEvidence =>
    simp only [perform] at h
    split at h <;> cases h
  | resolveExpired =>
    simp only [perform] at h
    split at h <;> cases h
  | writeLedger => cases h
  | resolveObserved runtimeRunId operationId resolvedAt =>
    simp only [perform] at h
    split at h
    · obtain ⟨resolution, -, hevent⟩ := Option.map_eq_some_iff.mp h
      cases hevent
    · cases h

/-- An open lease that a call finds stays open, or the call gives it up. -/
lemma live_perform (hs : s.Sound) (hlive : s.Live lease) :
    (perform s call).1.Live lease ∨ ∃ event, (perform s call).2 = some event ∧
      lease.GivenUp event := by
  obtain ⟨opened, hopened, hsame⟩ := hlive
  obtain ⟨-, hfence⟩ | ⟨event, hevent, hstep⟩ := fence_perform hs call
  · exact Or.inl ⟨opened, by rw [hfence, hopened], hsame⟩
  · generalize s.fence = f at hopened hstep
    generalize hnext : (perform s call).1.fence = f' at hstep
    cases hstep with
    | opened => cases hopened
    | kept hkeeps =>
      cases hopened
      exact Or.inl ⟨_, congrArg Fence.opened hnext,
        hsame.trans (same_of_keeps hkeeps)⟩
    | ended hends =>
      cases hopened
      exact Or.inr ⟨event, hevent, givenUp_of_ends hsame hends⟩

/-- Tokens are not given out twice. -/
lemma known_perform (hs : s.Sound) (hknown : s.Known lease)
    (hissued : lease.fencingToken ≤ s.fence.issued) : (perform s call).1.Known lease := by
  obtain ⟨-, hfence⟩ | ⟨event, hevent, hstep⟩ := fence_perform hs call
  · unfold LaneStore.Known
    rw [hfence]
    exact hknown
  · unfold LaneStore.Known at hknown ⊢
    generalize s.fence = f at hknown hissued hstep
    generalize (perform s call).1.fence = f' at hstep
    cases hstep with
    | opened _ htoken =>
      rintro _ ⟨⟩ heq
      have htoken : BrowserLaneLease.fencingToken _ = _ := htoken
      dsimp only at hissued
      omega
    | kept hkeeps =>
      rintro _ ⟨⟩ heq
      have hkept := same_of_keeps hkeeps
      exact (hknown _ rfl (hkept.fencingToken.trans heq)).trans hkept
    | ended => exact nofun

/-- A token under which no lease is open never opens again. -/
lemma dead_perform (hs : s.Sound) (hdead : s.Dead fencingToken)
    (hissued : fencingToken ≤ s.fence.issued) : (perform s call).1.Dead fencingToken := by
  obtain ⟨-, hfence⟩ | ⟨event, hevent, hstep⟩ := fence_perform hs call
  · unfold LaneStore.Dead
    rw [hfence]
    exact hdead
  · unfold LaneStore.Dead at hdead ⊢
    generalize s.fence = f at hdead hissued hstep
    generalize (perform s call).1.fence = f' at hstep
    cases hstep with
    | opened _ htoken =>
      rintro _ ⟨⟩ heq
      have htoken : BrowserLaneLease.fencingToken _ = _ := htoken
      dsimp only at hissued
      omega
    | kept hkeeps =>
      rintro _ ⟨⟩ heq
      exact hdead _ rfl ((same_of_keeps hkeeps).fencingToken.trans heq)
    | ended => exact nofun

/-- The open lease has the last token. -/
lemma opened_token (h : s.fence.opened = some lease) : lease.fencingToken = s.fence.issued := by
  unfold LaneStore.fence at h ⊢
  cases hlane : s.lane with
  | none =>
    rw [hlane] at h
    cases h
  | some row =>
    rw [hlane] at h
    change row.lease = some lease at h
    unfold BrowserLaneSnapshot.lease leaseFromRow at h
    split at h <;> cases h
    rfl

/-- A lease that a call resolves was given out, and is not open behind it. -/
lemma dead_of_resolved (hs : s.Sound) (hevent : (perform s call).2 = some event)
    (hresolved : lease.ResolvedBy event) :
    lease.fencingToken ≤ s.fence.issued ∧ (perform s call).1.Dead lease.fencingToken := by
  obtain ⟨hnone, -⟩ | ⟨found, hfound, hstep⟩ := fence_perform hs call
  · rw [hnone] at hevent
    cases hevent
  obtain rfl : found = event := Option.some.inj (hfound.symm.trans hevent)
  have htoken : ∀ opened, s.fence.opened = some opened → opened.fencingToken = s.fence.issued :=
    fun _ => opened_token
  unfold LaneStore.Dead
  generalize s.fence = f at hstep htoken
  generalize (perform s call).1.fence = f' at hstep
  cases hstep with
  | ended hends =>
    refine ⟨?_, nofun⟩
    rw [← htoken _ rfl]
    cases found with
    | reconciled resolution ledger => exact (hresolved.1.1.symm.trans hends.1.1).le
    | observed resolution ledger => exact (hresolved.1.1.symm.trans hends.1.1).le
    | acquired | renewed | marked | flagged | released | unresolved => exact hresolved.elim
  | opened hopens =>
    cases found with
    | acquired => exact hresolved.elim
    | renewed | marked | flagged | released | unresolved | reconciled | observed => cases hopens
  | kept hkeeps =>
    cases found with
    | reconciled | observed => exact hkeeps.elim
    | acquired | renewed | marked | flagged | released | unresolved => exact hresolved.elim

/-- The same lease is resolved by the same events. -/
lemma BrowserLaneLease.Same.resolvedBy (hsame : lease.Same lease') (h : lease.ResolvedBy event) :
    lease'.ResolvedBy event := by
  obtain ⟨htoken, -, hrun, hoperation⟩ := hsame
  cases event with
  | reconciled | observed =>
    obtain ⟨⟨hfence, hrun', hoperation'⟩, hproved⟩ := h
    exact ⟨⟨hfence.trans htoken, hrun.symm.trans hrun', hoperation.symm.trans hoperation'⟩, hproved⟩
  | acquired | renewed | marked | flagged | released | unresolved => exact h.elim

/-- A heartbeat renews the lease of its token. -/
lemma heartbeat_token {renewed : BrowserLaneLease} {next : LaneStore} {laneKey ownerId : String}
    {now leaseExpiresAt : Nat}
    (h : heartbeatBrowserLane s laneKey ownerId fencingToken now leaseExpiresAt =
      .ok (renewed, next)) :
    renewed.fencingToken = fencingToken := by
  unfold heartbeatBrowserLane at h
  split at h
  · cases h
  · rename_i row hfound
    obtain ⟨-, -, -, htoken, -⟩ := ownedLane_eq_some.mp (Option.filter_eq_some_iff.mp hfound).1
    obtain ⟨lease, hlease, hend⟩ := bind_eq_ok.mp h
    cases hend
    unfold leaseFromRow at hlease
    split at hlease <;> cases hlease
    exact htoken

/-- A renewed lease is the same one. -/
lemma renewed_same {renewed : BrowserLaneLease} {next : LaneStore} {now leaseExpiresAt : Nat}
    (hs : s.Sound)
    (hknown : s.Known lease)
    (h : heartbeatBrowserLane s lease.laneKey lease.ownerId lease.fencingToken now
      leaseExpiresAt = .ok (renewed, next)) : lease.Same renewed := by
  obtain ⟨hnone, -⟩ | ⟨event, hevent, hstep⟩ :=
    fence_perform hs (.heartbeat lease.laneKey lease.ownerId lease.fencingToken now leaseExpiresAt)
  · simp only [perform, h] at hnone
    cases hnone
  · simp only [perform, h] at hevent hstep
    cases hevent
    unfold LaneStore.Known at hknown
    generalize s.fence = f at hknown hstep
    generalize next.fence = f' at hstep
    cases hstep with
    | opened hopens => cases hopens
    | kept hkeeps =>
      have hkept := same_of_keeps hkeeps
      obtain ⟨rfl, -⟩ := hkeeps
      exact (hknown _ rfl (hkept.fencingToken.trans (heartbeat_token h))).trans hkept
    | ended hends => exact hends.elim

end Exclusion

/-- What holds of all guards: tokens were given out and are distinct, a guard in its body has the
open lease or one that was resolved, and no lease is open under the token of a resolved one. -/
structure GuardSystem.Exclusive (s : GuardSystem) : Prop where
  ordered : s.run.Ordered
  past : ∀ event ∈ s.run.events, ∀ lease : BrowserLaneLease, lease.ResolvedBy event →
    lease.fencingToken ≤ s.run.store.fence.issued ∧ s.run.store.Dead lease.fencingToken
  issued : ∀ guard lease, (s.guards guard).lease = some lease →
    lease.fencingToken ≤ s.run.store.fence.issued
  distinct : ∀ guard other lease lease', guard ≠ other → (s.guards guard).lease = some lease →
    (s.guards other).lease = some lease' → lease.fencingToken ≠ lease'.fencingToken
  same : ∀ guard lease, (s.guards guard).lease = some lease → s.run.store.Known lease
  live : ∀ guard lease, (s.guards guard).Holds lease →
    s.run.store.Live lease ∨ ∃ event ∈ s.run.events, lease.ResolvedBy event

section Steps

variable {s : GuardSystem} {call : LaneCall} {guard : Nat} {g : BrowserLaneGuard}
variable {lease : BrowserLaneLease}

lemma sets_self : (s.sets guard g).guards guard = g := by
  simp only [GuardSystem.sets, Function.update_self]

lemma sets_of_ne {other : Nat} (h : other ≠ guard) :
    (s.sets guard g).guards other = s.guards other := by
  simp only [GuardSystem.sets, Function.update_of_ne h]

lemma calls_self : (s.calls call guard g).guards guard = g := by
  simp only [GuardSystem.calls, Function.update_self]

lemma calls_of_ne {other : Nat} (h : other ≠ guard) :
    (s.calls call guard g).guards other = s.guards other := by
  simp only [GuardSystem.calls, Function.update_of_ne h]

/-- A guard changes by itself. -/
lemma GuardSystem.Exclusive.sets (hs : s.Exclusive)
    (hlease : ∀ lease, g.lease = some lease → (s.guards guard).lease = some lease)
    (hphase : g.phase = .inside → (s.guards guard).phase = .inside) :
    (s.sets guard g).Exclusive := by
  have hold : ∀ other lease, ((s.sets guard g).guards other).lease = some lease →
      (s.guards other).lease = some lease := by
    intro other lease h
    by_cases heq : other = guard
    · subst heq
      rw [sets_self] at h
      exact hlease lease h
    · rwa [sets_of_ne heq] at h
  have hinside : ∀ other, ((s.sets guard g).guards other).phase = .inside →
      (s.guards other).phase = .inside := by
    intro other h
    by_cases heq : other = guard
    · subst heq
      rw [sets_self] at h
      exact hphase h
    · rwa [sets_of_ne heq] at h
  exact ⟨hs.ordered, hs.past, fun other lease h => hs.issued other lease (hold other lease h),
    fun first second lease lease' hne h h' =>
      hs.distinct first second lease lease' hne (hold _ _ h) (hold _ _ h'),
    fun other lease h => hs.same other lease (hold other lease h),
    fun other lease h => hs.live other lease ⟨hinside other h.1, hold other lease h.2⟩⟩

/-- What a call records is in the past. -/
lemma GuardSystem.Exclusive.past_step (hs : s.Exclusive) (call : LaneCall) :
    ∀ event ∈ (s.run.step call).events, ∀ lease : BrowserLaneLease, lease.ResolvedBy event →
      lease.fencingToken ≤ (s.run.step call).store.fence.issued ∧
        (s.run.step call).store.Dead lease.fencingToken := by
  intro event hmem lease hresolved
  have hmore := issued_perform_le hs.ordered.sound call
  rcases List.mem_append.mp hmem with hmem | hmem
  · obtain ⟨hissued, hdead⟩ := hs.past event hmem lease hresolved
    exact ⟨hissued.trans hmore, dead_perform hs.ordered.sound hdead hissued⟩
  · obtain ⟨hissued, hdead⟩ :=
      dead_of_resolved hs.ordered.sound (Option.mem_toList.mp hmem) hresolved
    exact ⟨hissued.trans hmore, hdead⟩

/-- A guard that is in its body behind a call that does not release its lease. -/
lemma GuardSystem.Exclusive.live_step (hs : s.Exclusive) {lease' : BrowserLaneLease}
    (hlive : s.run.store.Live lease ∨ ∃ event ∈ s.run.events, lease.ResolvedBy event)
    (hkept : (perform s.run.store call).2 ≠ some (.released lease.ownerId lease.fencingToken))
    (hsame : lease.Same lease') :
    (s.run.step call).store.Live lease' ∨
      ∃ event ∈ (s.run.step call).events, lease'.ResolvedBy event := by
  rcases hlive with hlive | ⟨event, hmem, hresolved⟩
  · obtain ⟨opened, hopened, hopen⟩ | ⟨event, hevent, hgiven⟩ :=
      live_perform hs.ordered.sound hlive
    · exact Or.inl ⟨opened, hopened, hsame.symm.trans hopen⟩
    · rcases hgiven with rfl | hresolved
      · exact absurd hevent hkept
      · exact Or.inr ⟨event, List.mem_append_right _ (Option.mem_toList.mpr hevent),
          hsame.resolvedBy hresolved⟩
  · exact Or.inr ⟨event, List.mem_append_left _ hmem, hsame.resolvedBy hresolved⟩

/-- A guard makes a call that does not give it another lease. -/
lemma GuardSystem.Exclusive.calls (hs : s.Exclusive)
    (hlease : ∀ lease', g.lease = some lease' →
      ∃ lease, (s.guards guard).lease = some lease ∧ lease.Same lease')
    (hphase : g.phase = .inside → (s.guards guard).phase = .inside)
    (hreleased : ∀ ownerId fencingToken,
      (perform s.run.store call).2 = some (.released ownerId fencingToken) →
      g.phase ≠ .inside ∧ ∃ lease, (s.guards guard).lease = some lease ∧
        lease.fencingToken = fencingToken) :
    (s.calls call guard g).Exclusive := by
  have hold : ∀ other lease', ((s.calls call guard g).guards other).lease = some lease' →
      ∃ lease, (s.guards other).lease = some lease ∧ lease.Same lease' := by
    intro other lease' h
    by_cases heq : other = guard
    · subst heq
      rw [calls_self] at h
      exact hlease lease' h
    · rw [calls_of_ne heq] at h
      exact ⟨lease', h, lease'.same_self⟩
  refine ⟨hs.ordered.step call, hs.past_step call, fun other lease' h => ?_,
    fun first second lease lease' hne h h' => ?_, fun other lease' h => ?_,
      fun other lease' h => ?_⟩
  · obtain ⟨lease, hbefore, hsame⟩ := hold other lease' h
    rw [← hsame.fencingToken]
    exact (hs.issued other lease hbefore).trans (issued_perform_le hs.ordered.sound call)
  · obtain ⟨old, hbefore, hsame⟩ := hold first lease h
    obtain ⟨old', hbefore', hsame'⟩ := hold second lease' h'
    rw [← hsame.fencingToken, ← hsame'.fencingToken]
    exact hs.distinct first second old old' hne hbefore hbefore'
  · obtain ⟨lease, hbefore, hsame⟩ := hold other lease' h
    intro opened hopened htoken
    exact hsame.symm.trans (known_perform hs.ordered.sound (hs.same other lease hbefore)
      (hs.issued other lease hbefore) opened hopened (htoken.trans hsame.fencingToken.symm))
  · obtain ⟨lease, hbefore, hsame⟩ := hold other lease' h.2
    have hinside : (s.guards other).phase = .inside := by
      by_cases heq : other = guard
      · subst heq
        have hnow := h.1
        rw [calls_self] at hnow
        exact hphase hnow
      · have hnow := h.1
        rwa [calls_of_ne heq] at hnow
    refine hs.live_step (hs.live other lease ⟨hinside, hbefore⟩) (fun hevent => ?_) hsame
    obtain ⟨hleft, own, hown, htoken⟩ := hreleased _ _ hevent
    by_cases heq : other = guard
    · subst heq
      have hnow := h.1
      rw [calls_self] at hnow
      exact hleft hnow
    · exact hs.distinct other guard lease own heq hbefore hown htoken.symm

/-- A guard enters with a new lease. -/
lemma GuardSystem.Exclusive.enters (hs : s.Exclusive)
    (hacquired : (perform s.run.store call).2 = some (.acquired lease))
    (hlease : g.lease = some lease) : (s.calls call guard g).Exclusive := by
  obtain ⟨hnone, -⟩ | ⟨event, hevent, hstep⟩ := fence_perform hs.ordered.sound call
  · rw [hnone] at hacquired
    cases hacquired
  obtain rfl : event = .acquired lease := Option.some.inj (hevent.symm.trans hacquired)
  obtain ⟨hclosed, htoken, hfence⟩ := hstep.of_opens rfl
  have htoken : lease.fencingToken = s.run.store.fence.issued + 1 := htoken
  have hmore := issued_perform_le hs.ordered.sound call
  have hquiet : ∀ old : BrowserLaneLease, (perform s.run.store call).2 ≠
      some (.released old.ownerId old.fencingToken) := by
    intro old h
    rw [hacquired] at h
    cases h
  have hnew : ∀ other old, other ≠ guard → (s.guards other).lease = some old →
      old.fencingToken < lease.fencingToken := by
    intro other old _ hold
    rw [htoken]
    exact Nat.lt_succ_of_le (hs.issued other old hold)
  refine ⟨hs.ordered.step call, hs.past_step call, fun other old h => ?_,
    fun first second old old' hne h h' => ?_, fun other old h => ?_, fun other old h => ?_⟩
  · by_cases heq : other = guard
    · subst heq
      rw [calls_self, hlease] at h
      cases h
      show lease.fencingToken ≤ (perform s.run.store call).1.fence.issued
      rw [hfence, htoken]
    · rw [calls_of_ne heq] at h
      exact (hs.issued other old h).trans hmore
  · by_cases hfirst : first = guard
    · subst hfirst
      rw [calls_self, hlease] at h
      rw [calls_of_ne hne.symm] at h'
      cases h
      exact (hnew second old' hne.symm h').ne'
    · rw [calls_of_ne hfirst] at h
      by_cases hsecond : second = guard
      · subst hsecond
        rw [calls_self, hlease] at h'
        cases h'
        exact (hnew first old hfirst h).ne
      · rw [calls_of_ne hsecond] at h'
        exact hs.distinct first second old old' hne h h'
  · by_cases heq : other = guard
    · subst heq
      rw [calls_self, hlease] at h
      cases h
      intro opened hopened _
      cases (congrArg Fence.opened hfence).symm.trans hopened
      exact lease.same_self
    · rw [calls_of_ne heq] at h
      exact known_perform hs.ordered.sound (hs.same other old h) (hs.issued other old h)
  · by_cases heq : other = guard
    · subst heq
      have hnow := h.2
      rw [calls_self, hlease] at hnow
      cases hnow
      exact Or.inl ⟨lease, congrArg Fence.opened hfence, lease.same_self⟩
    · rw [calls_of_ne heq] at h
      exact hs.live_step (hs.live other old h) (hquiet old) old.same_self

/-- A call that is no release is made by nobody's guard. -/
lemma GuardSystem.Exclusive.others (hs : s.Exclusive)
    (hcall : ∀ laneKey ownerId fencingToken releasedAt status code,
      call ≠ .release laneKey ownerId fencingToken releasedAt status code) :
    GuardSystem.Exclusive { s with run := s.run.step call } := by
  have hself : s.calls call 0 (s.guards 0) = { s with run := s.run.step call } := by
    unfold GuardSystem.calls
    rw [Function.update_eq_self]
  rw [← hself]
  refine hs.calls (fun lease h => ⟨lease, h, lease.same_self⟩) id fun ownerId fencingToken h => ?_
  obtain ⟨laneKey, releasedAt, status, code, heq⟩ := released_of_perform h
  exact absurd heq (hcall _ _ _ _ _ _)

/-- One poll of a guard that waits. -/
lemma GuardSystem.Exclusive.enter (hs : s.Exclusive) (now leaseExpiresAt : Nat) :
    (s.calls (.tryAcquire ((s.guards guard).request now leaseExpiresAt)) guard
      ((s.guards guard).enter s.run.store now leaseExpiresAt)).Exclusive := by
  have hrefused : (s.guards guard).enter s.run.store now leaseExpiresAt = s.guards guard →
      (s.calls (.tryAcquire ((s.guards guard).request now leaseExpiresAt)) guard
        ((s.guards guard).enter s.run.store now leaseExpiresAt)).Exclusive := by
    intro hsame
    rw [hsame]
    refine hs.calls (fun lease h => ⟨lease, h, lease.same_self⟩) id fun ownerId fencingToken h => ?_
    obtain ⟨laneKey, releasedAt, status, code, hcall⟩ := released_of_perform h
    cases hcall
  cases hcall : tryAcquireBrowserLane s.run.store ((s.guards guard).request now leaseExpiresAt) with
  | error fault =>
    apply hrefused
    rw [BrowserLaneGuard.enter, hcall]
  | ok answered =>
    obtain ⟨answer, next⟩ := answered
    cases answer with
    | none =>
      apply hrefused
      rw [BrowserLaneGuard.enter, hcall]
    | some lease =>
      refine hs.enters ?_ (?_ : _ = some lease)
      · simp only [perform, hcall]
      · rw [BrowserLaneGuard.enter, hcall]

/-- One renewal by a guard. -/
lemma GuardSystem.Exclusive.beat (hs : s.Exclusive)
    (hlease : (s.guards guard).lease = some lease) (now leaseExpiresAt : Nat) :
    (s.calls (heartbeatCall lease now leaseExpiresAt) guard
      ((s.guards guard).beat s.run.store lease now leaseExpiresAt)).Exclusive := by
  refine hs.calls (fun renewed h => ⟨lease, hlease, ?_⟩)
    (fun h => ?_) fun ownerId fencingToken h => ?_
  · unfold BrowserLaneGuard.beat at h
    split at h
    · rename_i answer next hcall
      cases h
      exact renewed_same hs.ordered.sound (hs.same guard lease hlease) hcall
    · rw [hlease] at h
      cases h
      exact lease.same_self
  · unfold BrowserLaneGuard.beat at h
    split at h <;> exact h
  · obtain ⟨laneKey, releasedAt, status, code, hcall⟩ := released_of_perform h
    cases hcall

/-- The call with which a guard leaves its body. -/
lemma GuardSystem.Exclusive.exits (hs : s.Exclusive) {now : Nat}
    {failureCode : Option String} (hlease : (s.guards guard).lease = some lease)
    (hcall : (s.guards guard).exitCall lease now failureCode = some call) :
    (s.calls call guard { s.guards guard with phase := .left }).Exclusive := by
  refine hs.calls (fun own h => ⟨own, h, own.same_self⟩) nofun
    fun ownerId fencingToken h => ⟨nofun, lease, hlease, ?_⟩
  obtain ⟨laneKey, releasedAt, status, code, rfl⟩ := released_of_perform h
  unfold BrowserLaneGuard.exitCall at hcall
  split at hcall
  · cases hcall
  · split at hcall <;> cases hcall
    rfl

/-- Every action keeps the guards exclusive. -/
theorem GuardSystem.Exclusive.step (hs : s.Exclusive) (action : GuardAction) :
    (s.step action).Exclusive := by
  cases action with
  | enter guard now leaseExpiresAt =>
    simp only [GuardSystem.step]
    split
    · exact hs.enter now leaseExpiresAt
    · exact hs
  | heartbeat guard now leaseExpiresAt fault =>
    simp only [GuardSystem.step]
    split
    · exact hs
    · rename_i lease hlease
      split_ifs
      · exact hs
      · exact hs.sets (fun _ h => h) id
      · exact hs.beat hlease now leaseExpiresAt
  | preserveUnresolved guard failureCode =>
    simp only [GuardSystem.step]
    split
    · exact hs.sets (fun _ h => h) id
    · exact hs
  | exit guard now failureCode fault =>
    simp only [GuardSystem.step]
    split
    · rename_i lease _ hlease
      split
      · rename_i call hcall
        split
        · exact hs.sets (fun _ h => h) nofun
        · exact hs.exits hlease hcall
      · exact hs.sets (fun _ h => h) nofun
    · exact hs
  | resolveExpired request => exact hs.others nofun
  | reconcileEvidence lane runtimeRunId observedAt => exact hs.others nofun
  | resolveObserved runtimeRunId operationId resolvedAt => exact hs.others nofun
  | writeLedger runtimeRunId tables => exact hs.others nofun

end Steps

/-- In every run, the guards are exclusive. -/
lemma exclusive_guardRun (ledger : String → LedgerTables) (configs : Nat → GuardConfig)
    (actions : List GuardAction) : (guardRun ledger configs actions).Exclusive := by
  have hstart : GuardSystem.Exclusive
      { run := { store := { ledger := ledger } }, guards := fun guard =>
        { configs guard with } } := by
    refine ⟨ordered_laneRun ledger [], ?_, ?_, ?_, ?_, ?_⟩
    · exact fun event hmem => absurd hmem List.not_mem_nil
    · rintro guard lease ⟨⟩
    · rintro guard other lease lease' - ⟨⟩
    · rintro guard lease ⟨⟩
    · rintro guard lease ⟨hinside, -⟩
      cases hinside
  exact run_invariant (I := GuardSystem.Exclusive) (fun _ action h => h.step action) hstart actions

/-- A token under which no lease is open is lost to every call of its owner. -/
lemma lost_of_dead {s : LaneStore} {fencingToken : Nat} (hs : s.Sound) (hdead : s.Dead fencingToken)
    (laneKey ownerId : String) : s.ownedLane laneKey ownerId fencingToken = none := by
  rw [Option.eq_none_iff_forall_ne_some]
  intro row howned
  obtain ⟨hlane, -, -, htoken, hactive⟩ := ownedLane_eq_some.mp howned
  obtain ⟨expires, -, hfence⟩ := hs.fence_of_active hlane hactive
  exact hdead _ (congrArg Fence.opened hfence) htoken

/-- What has happened stays in the history. -/
lemma GuardSystem.events_step (s : GuardSystem) (action : GuardAction) :
    s.run.events ⊆ (s.step action).run.events := by
  have hcall : ∀ call, s.run.events ⊆ (s.run.step call).events :=
    fun call => List.subset_append_left _ _
  cases action with
  | enter guard now leaseExpiresAt =>
    simp only [GuardSystem.step]
    split
    · exact hcall _
    · exact List.Subset.refl _
  | heartbeat guard now leaseExpiresAt fault =>
    simp only [GuardSystem.step]
    split
    · exact List.Subset.refl _
    · split_ifs
      · exact List.Subset.refl _
      · exact List.Subset.refl _
      · exact hcall _
  | preserveUnresolved guard failureCode =>
    simp only [GuardSystem.step]
    split <;> exact List.Subset.refl _
  | exit guard now failureCode fault =>
    simp only [GuardSystem.step]
    split
    · split
      · split
        · exact List.Subset.refl _
        · exact hcall _
      · exact List.Subset.refl _
    · exact List.Subset.refl _
  | resolveExpired | reconcileEvidence | resolveObserved | writeLedger => exact hcall _

/-- The history of a run is part of that of every continuation. -/
lemma events_guardRun_append (ledger : String → LedgerTables) (configs : Nat → GuardConfig)
    (actions later : List GuardAction) :
    (guardRun ledger configs actions).run.events ⊆
      (guardRun ledger configs (actions ++ later)).run.events := by
  unfold guardRun
  rw [run_append]
  exact run_relates (R := fun s t : GuardSystem => s.run.events ⊆ t.run.events)
    (fun _ => List.Subset.refl _) List.Subset.trans GuardSystem.events_step later

/-- Two guards are in their bodies at the same time only if the lease of the older one was ended by
what the ledger of its run proved about its operation.  From then on, however the run goes on, its
renewals and its release are refused. -/
theorem guards_exclusive {ledger : String → LedgerTables} {configs : Nat → GuardConfig}
    {actions : List GuardAction} {guard other : Nat} {lease lease' : BrowserLaneLease}
    (hne : guard ≠ other) (hguard : ((guardRun ledger configs actions).guards guard).Holds lease)
    (hother : ((guardRun ledger configs actions).guards other).Holds lease')
    (holder : lease.fencingToken ≤ lease'.fencingToken) :
    (∃ event ∈ (guardRun ledger configs actions).run.events, lease.ResolvedBy event) ∧
    ∀ later,
      (∀ now leaseExpiresAt, heartbeatBrowserLane
        (guardRun ledger configs (actions ++ later)).run.store
        lease.laneKey lease.ownerId lease.fencingToken now leaseExpiresAt =
          .error (.control "liepin_browser_lane_lost")) ∧
      (∀ now status code, ¬ (status = .completed ∧ code ≠ none) →
        releaseBrowserLane (guardRun ledger configs (actions ++ later)).run.store lease.laneKey
          lease.ownerId lease.fencingToken now status code =
            .error (.control "liepin_browser_lane_lost")) := by
  have hs := exclusive_guardRun ledger configs actions
  have hlt : lease.fencingToken < lease'.fencingToken :=
    lt_of_le_of_ne holder (hs.distinct guard other lease lease' hne hguard.2 hother.2)
  have hresolved : ∃ event ∈ (guardRun ledger configs actions).run.events,
      lease.ResolvedBy event := by
    rcases hs.live guard lease hguard with ⟨opened, hopened, hsame⟩ | hresolved
    · have hlast := hs.issued other lease' hother.2
      rw [← opened_token hopened, ← hsame.fencingToken] at hlast
      omega
    · exact hresolved
  obtain ⟨event, hmem, hevent⟩ := hresolved
  refine ⟨⟨event, hmem, hevent⟩, fun later => ?_⟩
  have hlater := exclusive_guardRun ledger configs (actions ++ later)
  have hpast :=
    hlater.past event (events_guardRun_append ledger configs actions later hmem) lease hevent
  have hlost := lost_of_dead hlater.ordered.sound hpast.2 lease.laneKey lease.ownerId
  constructor
  · intro now leaseExpiresAt
    rw [heartbeatBrowserLane, hlost]
    rfl
  · intro now status code hcode
    rw [releaseBrowserLane, hlost, (require_eq_ok (u := ())).mpr hcode]
    rfl

/-- The guards of two operations of one run. -/
def cardsGuard (ownerId operationId : String) : GuardConfig where
  ownerId := ownerId
  ownerProcessId := 100
  processBootId := "process-1"
  runtimeRunId := some "run-1"
  operationId := operationId
  operationKind := .cards

/-- An operation that was observed. -/
def observedCards : SourceOperationRow where
  operationId := "cards-1"
  operationKind := .cards
  canonicalRequestHash := "hash"
  idempotencyKey := "key"
  acceptedRequirementRevisionId := "revision"
  runtimeAttemptNo := 1
  runtimeAttemptAuthorityRef := "authority"
  operationPhase := .observed
  dispatchIntentRef := some "intent"
  conclusiveObservationRef := some "result"
  sourceOperationDisposition := some .completed
  retryPosture := .noRetry
  reconciliationRevision := 0
  mainCommitRef := none
  ledgerRevision := 2

/-- A second guard enters behind the resolution of the first one's operation. -/
def resolvedRun : GuardSystem :=
  guardRun (fun _ => {})
    (fun guard => if guard = 0 then cardsGuard "owner-1" "cards-1" else cardsGuard "owner-2"
      "cards-2")
    [.enter 0 10 20, .writeLedger "run-1" { sourceOperations := [observedCards] },
      .resolveObserved "run-1" "cards-1" 15, .enter 1 16 26]

theorem guards_exclusive_resolved : ∃ lease lease', (resolvedRun.guards 0).Holds lease ∧
    (resolvedRun.guards 1).Holds lease' ∧ ∃ event ∈ resolvedRun.run.events,
      lease.ResolvedBy event := by
  have hfirst : (resolvedRun.guards 0).phase = .inside ∧
      (resolvedRun.guards 0).lease.map BrowserLaneLease.fencingToken = some 1 := by
    decide +kernel
  have hsecond : (resolvedRun.guards 1).phase = .inside ∧
      (resolvedRun.guards 1).lease.map BrowserLaneLease.fencingToken = some 2 := by
    decide +kernel
  obtain ⟨lease, hlease, htoken⟩ := Option.map_eq_some_iff.mp hfirst.2
  obtain ⟨lease', hlease', htoken'⟩ := Option.map_eq_some_iff.mp hsecond.2
  refine ⟨lease, lease', ⟨hfirst.1, hlease⟩, ⟨hsecond.1, hlease'⟩, ?_⟩
  exact (guards_exclusive (by decide) ⟨hfirst.1, hlease⟩ ⟨hsecond.1, hlease'⟩ (by omega)).1

end SeekTalent.BrowserLane
