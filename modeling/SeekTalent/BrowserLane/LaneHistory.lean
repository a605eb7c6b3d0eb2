import SeekTalent.BrowserLane.LaneStore
import SeekTalent.Foundation.Fences
import SeekTalent.Foundation.Machine

/-!
# The history of the browser lane

Whatever calls reach the store and in whatever order, with whatever arguments, and however other
writers change the source ledger in between, the lane is a fenced resource (`lane_course`): its
tokens count its leases, an active lane is never given out, only its owner renews, marks or releases
it, and a lease that its owner did not release was ended by what the ledger said about its own run
and operation at that time (`lane_handover`).
-/

namespace SeekTalent.BrowserLane

open Foundation RuntimeControl SourcePort

/-! ## Calls and events -/

/-- A transaction of the store, or a write of the ledger by others. -/
inductive LaneCall
  | tryAcquire (request : AcquireRequest)
  | heartbeat (laneKey ownerId : String) (fencingToken heartbeatAt leaseExpiresAt : Nat)
  | release (laneKey ownerId : String) (fencingToken releasedAt : Nat) (status : ReleaseStatus)
      (failureCode : Option String)
  | markUnresolved (laneKey ownerId : String) (fencingToken : Nat) (failureCode : String)
      (observedAt : Nat)
  | resolveExpired (request : ResolveRequest)
  | reconcileEvidence (lane : BrowserLaneSnapshot) (runtimeRunId : String) (observedAt : Nat)
  | resolveObserved (runtimeRunId operationId : String) (resolvedAt : Nat)
  | writeLedger (runtimeRunId : String) (tables : LedgerTables)

/-- What happened to the lane. -/
inductive LaneEvent
  | acquired (lease : BrowserLaneLease)
  | renewed (lease : BrowserLaneLease)
  | marked (ownerId : String) (fencingToken : Nat)
  | flagged (fencingToken : Nat)
  | released (ownerId : String) (fencingToken : Nat)
  /-- A resolution whose outcome is unknown, and the ledger of its run. -/
  | unresolved (resolution : LaneResolution) (ledger : LedgerTables)
  | reconciled (resolution : LaneResolution) (ledger : LedgerTables)
  | observed (resolution : LaneResolution) (ledger : LedgerTables)

/-- The store behind a call, and what happened to the lane. -/
def perform (s : LaneStore) : LaneCall → LaneStore × Option LaneEvent
  | .tryAcquire request =>
    match tryAcquireBrowserLane s request with
    | .ok (some lease, next) => (next, some (.acquired lease))
    | .ok (none, next) => (next, none)
    | .error _ => (s, none)
  | .heartbeat laneKey ownerId fencingToken heartbeatAt leaseExpiresAt =>
    match heartbeatBrowserLane s laneKey ownerId fencingToken heartbeatAt leaseExpiresAt with
    | .ok (lease, next) => (next, some (.renewed lease))
    | .error _ => (s, none)
  | .release laneKey ownerId fencingToken releasedAt status failureCode =>
    match releaseBrowserLane s laneKey ownerId fencingToken releasedAt status failureCode with
    | .ok (_, next) => (next, some (.released ownerId fencingToken))
    | .error _ => (s, none)
  | .markUnresolved laneKey ownerId fencingToken failureCode observedAt =>
    match markBrowserLaneUnresolved s laneKey ownerId fencingToken failureCode observedAt with
    | .ok (_, next) => (next, some (.marked ownerId fencingToken))
    | .error _ => (s, none)
  | .resolveExpired request =>
    match resolveExpiredBrowserLane s request with
    | .ok (true, next) =>
      (next, some (.reconciled request.resolution (s.ledger request.runtimeRunId)))
    | .ok (false, next) =>
      (next, some (.unresolved request.resolution (s.ledger request.runtimeRunId)))
    | .error _ => (s, none)
  | .reconcileEvidence lane runtimeRunId observedAt =>
    let next := (reconcileEvidence s lane runtimeRunId observedAt).2
    (next, if next.lane = s.lane then none else some (.flagged lane.fencingToken))
  | .resolveObserved runtimeRunId operationId resolvedAt =>
    let (resolved, next) := resolveObservedBrowserLane s runtimeRunId operationId resolvedAt
    (next, if resolved then next.resolutions.getLast?.map
      (.observed · (s.ledger runtimeRunId)) else none)
  | .writeLedger runtimeRunId tables =>
    ({ s with ledger := Function.update s.ledger runtimeRunId tables }, none)

/-- The store and what happened to the lane so far. -/
structure LaneRun where
  store : LaneStore
  events : List LaneEvent := []

/-- One call of a run. -/
def LaneRun.step (r : LaneRun) (call : LaneCall) : LaneRun :=
  { store := (perform r.store call).1
    events := r.events ++ (perform r.store call).2.toList }

/-- What a run of calls comes to, from a lane that was never acquired. -/
def laneRun (ledger : String → LedgerTables) (calls : List LaneCall) : LaneRun :=
  run LaneRun.step { store := { ledger := ledger } } calls

/-! ## The fence -/

/-- The ledger proves that the operation of a resolution had no effect. -/
def NoEffectProved (ledger : LedgerTables) (resolution : LaneResolution) : Prop :=
  resolution.outcome = .noEffect ∧ ∃ row ∈ ledger.reconciliations,
    row.operationId = resolution.operationId ∧ row.historyResultRef = resolution.evidenceRef ∧
      row.historyResultDigest = resolution.evidenceDigest ∧ row.decisionKind = .noDispatchProved ∧
      row.retryPosture = .safeRetry ∧ row.dispatchIntentRef = none

/-- The ledger holds a conclusive observation of the operation of a resolution, and the
reconciliation that it came from. -/
def TerminalProved (ledger : LedgerTables) (resolution : LaneResolution) : Prop :=
  resolution.outcome = .terminalObserved ∧
    ∃ operation, ledger.operationRow resolution.operationId = some operation ∧
      operation.operationPhase ∈ [SourceOperationPhase.reconciled, .mainCommitted] ∧
      operation.conclusiveObservationRef ≠ none ∧
      operation.sourceOperationDisposition ≠ some .reconciliationUnknown ∧
      ∃ row ∈ ledger.reconciliations, row.operationId = resolution.operationId ∧
        row.historyResultRef = resolution.evidenceRef ∧
        row.historyResultDigest = resolution.evidenceDigest ∧
          row.decisionKind = .conclusiveObservation ∧
        row.conclusiveObservationRef = operation.conclusiveObservationRef

/-- The ledger holds the conclusive observation that a resolution names. -/
def ObservationProved (ledger : LedgerTables) (resolution : LaneResolution) : Prop :=
  ∃ operation, ledger.operationRow resolution.operationId = some operation ∧
    operation.operationPhase ∈ [SourceOperationPhase.observed, .mainCommitted] ∧
    operation.conclusiveObservationRef = some resolution.evidenceRef ∧
    operation.sourceOperationDisposition ≠ some .reconciliationUnknown

/-- A resolution is about the operation of a lease. -/
def BrowserLaneLease.Resolves (lease : BrowserLaneLease) (resolution : LaneResolution) : Prop :=
  resolution.fencingToken = lease.fencingToken ∧ lease.runtimeRunId = some resolution.runtimeRunId ∧
    lease.operationId = resolution.operationId

/-- What an open lease lives through. -/
def KeepsLease (lease : BrowserLaneLease) : LaneEvent → BrowserLaneLease → Prop
  | .renewed renewed, lease' =>
    lease' = renewed ∧ renewed.heartbeatAt < lease.leaseExpiresAt ∧
      renewed =
        { lease with heartbeatAt := renewed.heartbeatAt, leaseExpiresAt := renewed.leaseExpiresAt }
  | .marked ownerId fencingToken, lease' =>
    lease' = lease ∧ ownerId = lease.ownerId ∧ fencingToken = lease.fencingToken
  | .flagged fencingToken, lease' => lease' = lease ∧ fencingToken = lease.fencingToken
  | .unresolved resolution _, lease' =>
    lease' = lease ∧ lease.Resolves resolution ∧ resolution.outcome = .unknown ∧
      lease.leaseExpiresAt ≤ resolution.resolvedAt
  | _, _ => False

/-- What ends an open lease: its owner, or what the ledger says about its operation. -/
def EndsLease (lease : BrowserLaneLease) : LaneEvent → Prop
  | .released ownerId fencingToken => ownerId = lease.ownerId ∧ fencingToken = lease.fencingToken
  | .reconciled resolution ledger =>
    lease.Resolves resolution ∧ lease.leaseExpiresAt ≤ resolution.resolvedAt ∧
      (NoEffectProved ledger resolution ∨ TerminalProved ledger resolution)
  | .observed resolution ledger => lease.Resolves resolution ∧ ObservationProved ledger resolution
  | _ => False

/-- The lane as a fenced resource. -/
def laneProtocol : FencingProtocol BrowserLaneLease LaneEvent where
  token := BrowserLaneLease.fencingToken
  opens
    | .acquired lease => some lease
    | _ => none
  keeps := KeepsLease
  ends := EndsLease
  opens_of_keeps {e lease lease'} h := by
    cases e <;> first | rfl | exact h.elim
  opens_of_ends {e lease} h := by
    cases e <;> first | rfl | exact h.elim

/-- The lease of an active row. -/
def BrowserLaneSnapshot.lease (row : BrowserLaneSnapshot) : Option BrowserLaneLease :=
  (leaseFromRow row).toOption

/-- The fence of a store: how many leases it gave out, and the one that is open. -/
def LaneStore.fence (s : LaneStore) : Fence BrowserLaneLease where
  issued := (s.lane.map BrowserLaneSnapshot.fencingToken).getD 0
  opened := s.lane.bind BrowserLaneSnapshot.lease

/-! ## Rows -/

section Rows

variable {s s' : LaneStore} {row : BrowserLaneSnapshot} {laneKey ownerId : String}
    {fencingToken expires : Nat}

/-- The lease of an active row with an expiry. -/
def BrowserLaneSnapshot.leaseUntil (row : BrowserLaneSnapshot) (leaseExpiresAt : Nat) :
    BrowserLaneLease where
  laneKey := row.laneKey
  fencingToken := row.fencingToken
  ownerId := row.ownerId
  ownerProcessId := row.ownerProcessId
  processBootId := row.processBootId
  runtimeRunId := row.runtimeRunId
  operationId := row.operationId
  operationKind := row.operationKind
  acquiredAt := row.acquiredAt
  heartbeatAt := row.heartbeatAt
  leaseExpiresAt := leaseExpiresAt

lemma leaseFromRow_of_active (hactive : row.status = .active)
    (hexpires : row.leaseExpiresAt = some expires) :
    leaseFromRow row = .ok (row.leaseUntil expires) := by
  unfold leaseFromRow
  rw [hactive, hexpires]
  rfl

lemma lease_of_active (hactive : row.status = .active)
    (hexpires : row.leaseExpiresAt = some expires) : row.lease = some (row.leaseUntil expires) := by
  rw [BrowserLaneSnapshot.lease, leaseFromRow_of_active hactive hexpires]
  rfl

lemma lease_of_not_active (hactive : row.status ≠ .active) : row.lease = none := by
  unfold BrowserLaneSnapshot.lease leaseFromRow
  cases hstatus : row.status with
  | active => exact absurd hstatus hactive
  | completed => rfl
  | failed => rfl

/-- A row as the store writes it: it is of the one lane, and an active one has an expiry. -/
structure BrowserLaneSnapshot.Sound (row : BrowserLaneSnapshot) : Prop where
  laneKey : row.laneKey = liepinBrowserLane
  expires : row.status = .active → ∃ expires, row.leaseExpiresAt = some expires

/-- A store whose row is as the store writes it. -/
def LaneStore.Sound (s : LaneStore) : Prop :=
  ∀ row, s.lane = some row → row.Sound

lemma laneAt_eq_some : s.laneAt laneKey = some row ↔ s.lane = some row ∧ row.laneKey = laneKey := by
  rw [LaneStore.laneAt, Option.filter_eq_some_iff, decide_eq_true_iff]

lemma ownedLane_eq_some : s.ownedLane laneKey ownerId fencingToken = some row ↔
    s.lane = some row ∧ row.laneKey = laneKey ∧ row.ownerId = ownerId ∧
      row.fencingToken = fencingToken ∧ row.status = .active := by
  rw [LaneStore.ownedLane, Option.filter_eq_some_iff, laneAt_eq_some, decide_eq_true_iff, and_assoc]

/-- A sound store finds its row under the key of the lane. -/
lemma LaneStore.Sound.laneAt_eq (hs : s.Sound) : s.laneAt liepinBrowserLane = s.lane := by
  cases hlane : s.lane with
  | none => rw [LaneStore.laneAt, hlane, Option.filter_none]
  | some row => exact laneAt_eq_some.mpr ⟨hlane, (hs row hlane).laneKey⟩

/-- The fence of a store with a row. -/
lemma fence_of_lane (hlane : s.lane = some row) : s.fence = ⟨row.fencingToken, row.lease⟩ := by
  unfold LaneStore.fence
  rw [hlane]
  rfl

/-- An active row of a sound store has an open lease. -/
lemma LaneStore.Sound.fence_of_active (hs : s.Sound) (hlane : s.lane = some row)
    (hactive : row.status = .active) :
    ∃ expires, row.leaseExpiresAt = some expires ∧
      s.fence = ⟨row.fencingToken, some (row.leaseUntil expires)⟩ := by
  obtain ⟨expires, hexpires⟩ := (hs row hlane).expires hactive
  exact ⟨expires, hexpires, by rw [fence_of_lane hlane, lease_of_active hactive hexpires]⟩

end Rows

/-! ## What each call does -/

section Calls

variable {s s' : LaneStore} {request : AcquireRequest} {lease : BrowserLaneLease}
    {row : BrowserLaneSnapshot}
  {laneKey ownerId failureCode runtimeRunId operationId : String}
  {fencingToken heartbeatAt leaseExpiresAt releasedAt observedAt resolvedAt : Nat}
  {status : ReleaseStatus}
  {code : Option String}

/-- The state behind a call, and the course of the fence. -/
def Fenced (s : LaneStore) (events : List LaneEvent) (s' : LaneStore) : Prop :=
  s'.Sound ∧ laneProtocol.Course s.fence events s'.fence

/-- A call that leaves the row. -/
lemma fenced_of_lane_eq (hs : s.Sound) (h : s'.lane = s.lane) : Fenced s [] s' := by
  refine ⟨fun row hrow => hs row (h ▸ hrow), ?_⟩
  show s.fence = s'.fence
  unfold LaneStore.fence
  rw [h]

/-- An event that an active lease lives through. -/
lemma fenced_of_keeps {event : LaneEvent} {row' : BrowserLaneSnapshot} {expires : Nat}
    (hlane : s.lane = some row)
    (hactive : row.status = .active) (hexpires : row.leaseExpiresAt = some expires)
    (hlane' : s'.lane = some row') (hactive' : row'.status = .active)
    (hexpires' : row'.leaseExpiresAt = some leaseExpiresAt)
    (hkey : row'.laneKey = liepinBrowserLane) (htoken : row'.fencingToken = row.fencingToken)
    (h : KeepsLease (row.leaseUntil expires) event (row'.leaseUntil leaseExpiresAt)) :
    Fenced s [event] s' := by
  refine ⟨fun stored hstored => ?_, ?_⟩
  · obtain rfl : row' = stored := Option.some.inj (hlane'.symm.trans hstored)
    exact ⟨hkey, fun _ => ⟨leaseExpiresAt, hexpires'⟩⟩
  · rw [fence_of_lane hlane, fence_of_lane hlane', lease_of_active hactive hexpires,
      lease_of_active hactive' hexpires', htoken]
    exact ⟨_, FencingProtocol.Step.kept h, rfl⟩

/-- An event that ends an active lease. -/
lemma fenced_of_ends {event : LaneEvent} {row' : BrowserLaneSnapshot} {expires : Nat}
    (hlane : s.lane = some row)
    (hactive : row.status = .active) (hexpires : row.leaseExpiresAt = some expires)
    (hlane' : s'.lane = some row') (hactive' : row'.status ≠ .active)
    (hkey : row'.laneKey = liepinBrowserLane)
    (htoken : row'.fencingToken = row.fencingToken) (h : EndsLease (row.leaseUntil expires) event) :
    Fenced s [event] s' := by
  refine ⟨fun stored hstored => ?_, ?_⟩
  · obtain rfl : row' = stored := Option.some.inj (hlane'.symm.trans hstored)
    exact ⟨hkey, fun hstatus => absurd hstatus hactive'⟩
  · rw [fence_of_lane hlane, fence_of_lane hlane', lease_of_active hactive hexpires,
      lease_of_not_active hactive', htoken]
    exact ⟨_, FencingProtocol.Step.ended h, rfl⟩

/-- What an acquisition that is not refused does. -/
lemma tryAcquire_ok {answer : Option BrowserLaneLease}
    (h : tryAcquireBrowserLane s request = .ok (answer, s')) :
    (answer = none ∧ s' = s) ∨
      (request.laneKey = liepinBrowserLane ∧
        (∀ row, s.laneAt request.laneKey = some row → row.status ≠ .active) ∧
        ∃ acquired, acquired = request.row (nextFencingToken (s.laneAt request.laneKey)) ∧
          answer = some (acquired.leaseUntil request.leaseExpiresAt) ∧
          s' = { s with lane := some acquired }) := by
  unfold tryAcquireBrowserLane at h
  obtain ⟨_, hvalid, hrest⟩ := bind_eq_ok.mp h
  split at hrest
  · cases hrest
    exact Or.inl ⟨rfl, rfl⟩
  · rename_i hnot
    right
    refine ⟨?_, fun row hrow hactive => hnot ?_, _, rfl, ?_⟩
    · obtain ⟨_, hkey, -⟩ := bind_eq_ok.mp hvalid
      exact require_eq_ok.mp hkey
    · rw [hrow]
      exact decide_eq_true hactive
    · have hlease : leaseFromRow (request.row (nextFencingToken (s.laneAt request.laneKey))) =
          .ok ((request.row (nextFencingToken (s.laneAt request.laneKey))).leaseUntil
            request.leaseExpiresAt) := rfl
      dsimp only at hrest
      rw [hlease] at hrest
      cases hrest
      exact ⟨rfl, rfl⟩

lemma fenced_tryAcquire (hs : s.Sound) : Fenced s (perform s (.tryAcquire request)).2.toList
    (perform s (.tryAcquire request)).1 := by
  unfold perform
  dsimp only
  cases hcall : tryAcquireBrowserLane s request with
  | error fault => exact fenced_of_lane_eq hs rfl
  | ok answered =>
    obtain ⟨answer, s'⟩ := answered
    obtain ⟨rfl, rfl⟩ | ⟨hkey, hfree, acquired, hrow, rfl, rfl⟩ := tryAcquire_ok hcall
    · exact fenced_of_lane_eq hs rfl
    rw [hkey, hs.laneAt_eq] at hfree hrow
    refine ⟨fun stored hstored => ?_, ?_⟩
    · obtain rfl : acquired = stored := Option.some.inj hstored
      rw [hrow]
      exact ⟨hkey, fun _ => ⟨_, rfl⟩⟩
    · have hclosed : s.fence = ⟨s.fence.issued, none⟩ := by
        have hopened : s.fence.opened = none := by
          unfold LaneStore.fence
          cases hlane : s.lane with
          | none => rfl
          | some row => exact lease_of_not_active (hfree row hlane)
        rw [← hopened]
      have htoken : acquired.fencingToken = s.fence.issued + 1 := by
        rw [hrow]
        unfold LaneStore.fence
        cases s.lane <;> rfl
      have hopened : acquired.lease = some (acquired.leaseUntil request.leaseExpiresAt) := by
        rw [hrow]
        rfl
      have hfence : LaneStore.fence { s with lane := some acquired } =
          ⟨s.fence.issued + 1, some _⟩ :=
        (fence_of_lane rfl).trans (by rw [hopened, htoken])
      rw [hclosed]
      exact ⟨_, FencingProtocol.Step.opened rfl htoken, hfence.symm⟩

lemma fenced_heartbeat (hs : s.Sound) :
    Fenced s (perform s
      (.heartbeat laneKey ownerId fencingToken heartbeatAt leaseExpiresAt)).2.toList
      (perform s (.heartbeat laneKey ownerId fencingToken heartbeatAt leaseExpiresAt)).1 := by
  simp only [perform, heartbeatBrowserLane]
  cases hfound : (s.ownedLane laneKey ownerId fencingToken).filter fun row =>
      row.leaseExpiresAt.any fun expires => heartbeatAt < expires with
  | none => exact fenced_of_lane_eq hs rfl
  | some row =>
    obtain ⟨howned, hany⟩ := Option.filter_eq_some_iff.mp hfound
    obtain ⟨hlane, -, -, -, hactive⟩ := ownedLane_eq_some.mp howned
    obtain ⟨expires, hexpires⟩ := (hs row hlane).expires hactive
    rw [hexpires, Option.any_some, decide_eq_true_iff] at hany
    have hlease : leaseFromRow { row with
        heartbeatAt := heartbeatAt, leaseExpiresAt := some leaseExpiresAt, updatedAt :=
          heartbeatAt } =
        .ok { row.leaseUntil expires with heartbeatAt := heartbeatAt, leaseExpiresAt :=
          leaseExpiresAt } :=
      leaseFromRow_of_active hactive rfl
    dsimp only [Bind.bind, Except.bind]
    rw [hlease]
    exact fenced_of_keeps hlane hactive hexpires rfl hactive rfl (hs row hlane).laneKey rfl
      ⟨rfl, hany, rfl⟩

lemma fenced_release (hs : s.Sound) :
    Fenced s (perform s (.release laneKey ownerId fencingToken releasedAt status code)).2.toList
      (perform s (.release laneKey ownerId fencingToken releasedAt status code)).1 := by
  unfold perform
  dsimp only
  cases hcall : releaseBrowserLane s laneKey ownerId fencingToken releasedAt status code with
  | error fault => exact fenced_of_lane_eq hs rfl
  | ok answered =>
    obtain ⟨_, -, hrest⟩ := bind_eq_ok.mp hcall
    cases howned : s.ownedLane laneKey ownerId fencingToken with
    | none =>
      rw [howned] at hrest
      cases hrest
    | some row =>
      rw [howned] at hrest
      cases hrest
      obtain ⟨hlane, -, howner, htoken, hactive⟩ := ownedLane_eq_some.mp howned
      obtain ⟨expires, hexpires⟩ := (hs row hlane).expires hactive
      exact fenced_of_ends hlane hactive hexpires rfl (by cases status <;> exact nofun)
        (hs row hlane).laneKey rfl ⟨howner.symm, htoken.symm⟩

lemma fenced_markUnresolved (hs : s.Sound) :
    Fenced s (perform s
      (.markUnresolved laneKey ownerId fencingToken failureCode observedAt)).2.toList
      (perform s (.markUnresolved laneKey ownerId fencingToken failureCode observedAt)).1 := by
  unfold perform
  dsimp only
  cases hcall : markBrowserLaneUnresolved s laneKey ownerId fencingToken failureCode observedAt with
  | error fault => exact fenced_of_lane_eq hs rfl
  | ok answered =>
    obtain ⟨_, -, hrest⟩ := bind_eq_ok.mp hcall
    cases howned : s.ownedLane laneKey ownerId fencingToken with
    | none =>
      rw [howned] at hrest
      cases hrest
    | some row =>
      rw [howned] at hrest
      cases hrest
      obtain ⟨hlane, -, howner, htoken, hactive⟩ := ownedLane_eq_some.mp howned
      obtain ⟨expires, hexpires⟩ := (hs row hlane).expires hactive
      exact fenced_of_keeps hlane hactive hexpires rfl hactive hexpires (hs row hlane).laneKey rfl
        ⟨rfl, howner.symm, htoken.symm⟩

/-- What the lane of a resolution is. -/
lemma expiredLane_ok {r : ResolveRequest} (h : s.expiredLane r = .ok row) :
    s.lane = some row ∧ row.status = .active ∧ row.laneKey = liepinBrowserLane ∧
      ∃ expires, row.leaseExpiresAt = some expires ∧ expires ≤ r.resolvedAt ∧
        (row.leaseUntil expires).Resolves r.resolution := by
  unfold LaneStore.expiredLane at h
  cases hlane : s.laneAt liepinBrowserLane with
  | none =>
    rw [hlane] at h
    cases h
  | some lane =>
    obtain ⟨hstored, hkey⟩ := laneAt_eq_some.mp hlane
    simp only [hlane] at h
    split at h
    · cases h
    · rename_i hmatch
      push Not at hmatch
      obtain ⟨hactive, htoken, hrun, hoperation⟩ := hmatch
      cases hexpires : lane.leaseExpiresAt with
      | none =>
        rw [hexpires] at h
        cases h
      | some expires =>
        simp only [hexpires] at h
        split at h
        · cases h
        · rename_i hexpired
          cases h
          exact ⟨hstored, hactive, hkey, expires, hexpires, not_lt.mp hexpired, htoken.symm, hrun,
            hoperation⟩

/-- What the ledger held when a lane was resolved. -/
lemma resolveExpired_ok {r : ResolveRequest} {resolved : Bool}
    (h : resolveExpiredBrowserLane s r = .ok (resolved, s')) :
    ∃ lane, s.expiredLane r = .ok lane ∧
      ((resolved = false ∧ r.outcome = .unknown ∧
          s' = { s with resolutions := s.resolutions ++ [r.resolution] }) ∨
        (resolved = true ∧
          s' = { s with
            resolutions := s.resolutions ++ [r.resolution]
            lane := some (lane.reconciled r.resolvedAt) } ∧
          (NoEffectProved (s.ledger r.runtimeRunId) r.resolution ∨
            TerminalProved (s.ledger r.runtimeRunId) r.resolution))) := by
  unfold resolveExpiredBrowserLane at h
  obtain ⟨_, -, h⟩ := bind_eq_ok.mp h
  obtain ⟨_, -, h⟩ := bind_eq_ok.mp h
  obtain ⟨lane, hlane, h⟩ := bind_eq_ok.mp h
  refine ⟨lane, hlane, ?_⟩
  split at h
  · cases h
  rename_i operation hoperation
  split at h
  · cases h
  rename_i reconciliation hfound
  obtain ⟨hlast, hdecision⟩ := Option.filter_eq_some_iff.mp hfound
  obtain ⟨hmem, hfields⟩ := List.mem_filter.mp (List.argmax_mem hlast)
  rw [decide_eq_true_iff] at hdecision hfields
  obtain ⟨hrowOperation, href, hdigest, -⟩ := hfields
  obtain ⟨_, hchecked, h⟩ := bind_eq_ok.mp h
  obtain ⟨_, hnoEffect, hterminal⟩ := bind_eq_ok.mp hchecked
  have hnoEffect := require_eq_ok.mp hnoEffect
  have hterminal := require_eq_ok.mp hterminal
  dsimp only at h
  cases houtcome : r.outcome with
  | unknown =>
    rw [if_pos houtcome] at h
    cases h
    exact Or.inl ⟨rfl, rfl, rfl⟩
  | noEffect =>
    rw [if_neg (by rw [houtcome]; exact nofun)] at h
    cases h
    refine Or.inr
      ⟨rfl, rfl, Or.inl ⟨houtcome, reconciliation, hmem, hrowOperation, href, hdigest, ?_, ?_⟩⟩
    · rw [hdecision, houtcome]
      rfl
    · push Not at hnoEffect
      exact hnoEffect houtcome
  | terminalObserved =>
    rw [if_neg (by rw [houtcome]; exact nofun)] at h
    cases h
    push Not at hterminal
    obtain ⟨hphase, hobserved, hdisposition, hsame⟩ := hterminal houtcome
    refine Or.inr
      ⟨rfl, rfl, Or.inr ⟨houtcome, operation, hoperation, hphase, hobserved, hdisposition,
        reconciliation, hmem, hrowOperation, href, hdigest, ?_, hsame⟩⟩
    rw [hdecision, houtcome]
    rfl

lemma fenced_resolveExpired {r : ResolveRequest} (hs : s.Sound) :
    Fenced s (perform s (.resolveExpired r)).2.toList (perform s (.resolveExpired r)).1 := by
  unfold perform
  dsimp only
  cases hcall : resolveExpiredBrowserLane s r with
  | error fault => exact fenced_of_lane_eq hs rfl
  | ok answered =>
    obtain ⟨resolved, s'⟩ := answered
    obtain ⟨lane, hexpired, hends⟩ := resolveExpired_ok hcall
    obtain ⟨hlane, hactive, hkey, expires, hexpires, hpast, hresolves⟩ := expiredLane_ok hexpired
    obtain ⟨rfl, hunknown, rfl⟩ | ⟨rfl, rfl, hproved⟩ := hends
    · exact fenced_of_keeps hlane hactive hexpires hlane hactive hexpires hkey rfl
        ⟨rfl, hresolves, hunknown, hpast⟩
    · exact fenced_of_ends hlane hactive hexpires rfl nofun hkey rfl ⟨hresolves, hpast, hproved⟩

/-- What the second transaction of a reconciliation does to the row. -/
lemma lane_reconcileEvidence (s : LaneStore) (lane : BrowserLaneSnapshot) (runtimeRunId : String)
    (observedAt : Nat) :
    (reconcileEvidence s lane runtimeRunId observedAt).2.lane = s.lane ∨
      ∃ row, s.lane = some row ∧ row.fencingToken = lane.fencingToken ∧ row.status = .active ∧
        (reconcileEvidence s lane runtimeRunId observedAt).2.lane = some { row with
          lastFailureCode := some "liepin_browser_lane_reconciliation_required"
          updatedAt := observedAt } := by
  have hflagged : ∀ next : LaneStore, next.lane = (s.lane.map fun row =>
      if row.laneKey = lane.laneKey ∧ row.fencingToken = lane.fencingToken ∧
        row.status = .active then
        { row with
          lastFailureCode := some "liepin_browser_lane_reconciliation_required"
          updatedAt := observedAt }
      else row) → next.lane = s.lane ∨
      ∃ row, s.lane = some row ∧ row.fencingToken = lane.fencingToken ∧ row.status = .active ∧
        next.lane = some { row with
          lastFailureCode := some "liepin_browser_lane_reconciliation_required"
          updatedAt := observedAt } := by
    intro next hnext
    cases hlane : s.lane with
    | none =>
      rw [hlane] at hnext
      exact Or.inl hnext
    | some row =>
      rw [hlane, Option.map_some] at hnext
      by_cases hmatch : row.laneKey = lane.laneKey ∧ row.fencingToken = lane.fencingToken ∧
          row.status = .active
      · rw [if_pos hmatch] at hnext
        exact Or.inr ⟨row, rfl, hmatch.2.1, hmatch.2.2, hnext⟩
      · rw [if_neg hmatch] at hnext
        exact Or.inl hnext
  unfold reconcileEvidence
  dsimp only
  split
  · exact hflagged _ rfl
  · split
    · exact hflagged _ rfl
    · exact Or.inl rfl
    · exact Or.inl rfl

lemma fenced_reconcileEvidence {lane : BrowserLaneSnapshot} (hs : s.Sound) :
    Fenced s (perform s (.reconcileEvidence lane runtimeRunId observedAt)).2.toList
      (perform s (.reconcileEvidence lane runtimeRunId observedAt)).1 := by
  unfold perform
  dsimp only
  split
  · rename_i hsame
    exact fenced_of_lane_eq hs hsame
  · rename_i hchanged
    obtain hsame | ⟨row, hlane, htoken, hactive, hnext⟩ :=
      lane_reconcileEvidence s lane runtimeRunId observedAt
    · exact absurd hsame hchanged
    obtain ⟨expires, hexpires⟩ := (hs row hlane).expires hactive
    exact fenced_of_keeps hlane hactive hexpires hnext hactive hexpires (hs row hlane).laneKey rfl
      ⟨rfl, htoken.symm⟩

/-- What is known of an operation by whose observation a lane is resolved. -/
lemma observedOperation_eq_some {operation : SourceOperationRow} {evidenceRef : String}
    (h : s.observedOperation runtimeRunId operationId = some (operation, evidenceRef)) :
    (s.ledger runtimeRunId).operationRow operationId = some operation ∧
      operation.operationPhase ∈ [SourceOperationPhase.observed, .mainCommitted] ∧
      operation.conclusiveObservationRef = some evidenceRef ∧
      operation.sourceOperationDisposition ≠ some .reconciliationUnknown := by
  unfold LaneStore.observedOperation at h
  split at h
  · cases h
  rename_i found hfound
  split at h
  · cases h
  rename_i reference href
  split at h
  · rename_i hchecked
    cases h
    exact ⟨hfound, hchecked.1, href, hchecked.2⟩
  · cases h

/-- What a resolution from an observation does. -/
lemma resolveObserved_cases (s : LaneStore) (runtimeRunId operationId : String) (resolvedAt : Nat) :
    resolveObservedBrowserLane s runtimeRunId operationId resolvedAt = (false, s) ∨
      ∃ lane resolution, s.lane = some lane ∧ lane.status = .active ∧
        lane.laneKey = liepinBrowserLane ∧
        (∀ expires, (lane.leaseUntil expires).Resolves resolution) ∧
        ObservationProved (s.ledger runtimeRunId) resolution ∧
        resolveObservedBrowserLane s runtimeRunId operationId resolvedAt =
          (true, { s with
            lane := some (lane.reconciled resolvedAt)
            resolutions := s.resolutions ++ [resolution] }) := by
  unfold resolveObservedBrowserLane
  split
  · rename_i lane operation evidenceRef hlane hobserved
    obtain ⟨hat, hmatch⟩ := Option.filter_eq_some_iff.mp hlane
    obtain ⟨hstored, hkey⟩ := laneAt_eq_some.mp hat
    obtain ⟨hactive, hrun, hoperation⟩ := of_decide_eq_true hmatch
    refine Or.inr ⟨lane, _, hstored, hactive, hkey, ?_, ?_, rfl⟩
    · exact fun _ => ⟨rfl, hrun, hoperation⟩
    · exact ⟨operation, observedOperation_eq_some hobserved⟩
  · exact Or.inl rfl

lemma fenced_resolveObserved (hs : s.Sound) :
    Fenced s (perform s (.resolveObserved runtimeRunId operationId resolvedAt)).2.toList
      (perform s (.resolveObserved runtimeRunId operationId resolvedAt)).1 := by
  obtain hcall | ⟨lane, resolution, hlane, hactive, hkey, hresolves, hproved, hcall⟩ :=
    resolveObserved_cases s runtimeRunId operationId resolvedAt
  · simp only [perform, hcall]
    exact fenced_of_lane_eq hs rfl
  · simp only [perform, hcall, List.getLast?_concat]
    obtain ⟨expires, hexpires⟩ := (hs lane hlane).expires hactive
    exact fenced_of_ends hlane hactive hexpires rfl nofun hkey rfl ⟨hresolves expires, hproved⟩

/-- Every call keeps the store sound and is a course of its fence. -/
theorem fenced_perform (hs : s.Sound) (call : LaneCall) :
    Fenced s (perform s call).2.toList (perform s call).1 := by
  cases call with
  | tryAcquire => exact fenced_tryAcquire hs
  | heartbeat => exact fenced_heartbeat hs
  | release => exact fenced_release hs
  | markUnresolved => exact fenced_markUnresolved hs
  | resolveExpired => exact fenced_resolveExpired hs
  | reconcileEvidence => exact fenced_reconcileEvidence hs
  | resolveObserved => exact fenced_resolveObserved hs
  | writeLedger => exact fenced_of_lane_eq hs rfl

end Calls

/-! ## Runs -/

/-- A sound store, and events that are a course of the fence from the start. -/
structure LaneRun.Ordered (r : LaneRun) : Prop where
  sound : r.store.Sound
  course : laneProtocol.Course ⟨0, none⟩ r.events r.store.fence

lemma LaneRun.Ordered.step {r : LaneRun} (h : r.Ordered) (call : LaneCall) :
    (r.step call).Ordered := by
  obtain ⟨hsound, hcourse⟩ := fenced_perform h.sound call
  exact ⟨hsound, FencingProtocol.course_append.mpr ⟨_, h.course, hcourse⟩⟩

lemma ordered_laneRun (ledger : String → LedgerTables) (calls : List LaneCall) :
    (laneRun ledger calls).Ordered := by
  have hstart : LaneRun.Ordered { store := { ledger := ledger } } := ⟨by rintro row ⟨⟩, rfl⟩
  exact run_invariant (I := LaneRun.Ordered) (fun _ call h => h.step call) hstart calls

/-- In every run, the lane is a fenced resource: its events are a course of its fence. -/
theorem lane_course (ledger : String → LedgerTables) (calls : List LaneCall) :
    laneProtocol.Course ⟨0, none⟩ (laneRun ledger calls).events
      (laneRun ledger calls).store.fence :=
  (ordered_laneRun ledger calls).course

/-- Two leases with the same owner and the same operation under one token. -/
structure BrowserLaneLease.Same (a b : BrowserLaneLease) : Prop where
  fencingToken : a.fencingToken = b.fencingToken
  ownerId : a.ownerId = b.ownerId
  runtimeRunId : a.runtimeRunId = b.runtimeRunId
  operationId : a.operationId = b.operationId

lemma BrowserLaneLease.same_self (lease : BrowserLaneLease) : lease.Same lease :=
  ⟨rfl, rfl, rfl, rfl⟩

lemma BrowserLaneLease.Same.trans {a b c : BrowserLaneLease} (h : a.Same b) (h' : b.Same c) :
    a.Same c :=
  ⟨h.fencingToken.trans h'.fencingToken, h.ownerId.trans h'.ownerId,
    h.runtimeRunId.trans h'.runtimeRunId, h.operationId.trans h'.operationId⟩

lemma BrowserLaneLease.Same.symm {a b : BrowserLaneLease} (h : a.Same b) : b.Same a :=
  ⟨h.fencingToken.symm, h.ownerId.symm, h.runtimeRunId.symm, h.operationId.symm⟩

/-- An open lease keeps its owner and its operation. -/
lemma same_of_keeps {lease lease' : BrowserLaneLease} {event : LaneEvent}
    (h : laneProtocol.keeps lease event lease') : lease.Same lease' := by
  cases event with
  | renewed renewed =>
    obtain ⟨rfl, -, heq⟩ := h
    rw [heq]
    exact ⟨rfl, rfl, rfl, rfl⟩
  | marked | flagged | unresolved =>
    obtain ⟨rfl, -⟩ := h
    exact lease'.same_self
  | acquired | released | reconciled | observed => exact h.elim

/-- A lease was ended by what the ledger of its run proved about its operation. -/
def BrowserLaneLease.ResolvedBy (lease : BrowserLaneLease) : LaneEvent → Prop
  | .reconciled resolution ledger =>
    lease.Resolves resolution ∧
      (NoEffectProved ledger resolution ∨ TerminalProved ledger resolution)
  | .observed resolution ledger => lease.Resolves resolution ∧ ObservationProved ledger resolution
  | _ => False

/-- How a lease was given up: its owner released it, or its run's ledger proved what became of its
operation. -/
def BrowserLaneLease.GivenUp (lease : BrowserLaneLease) (event : LaneEvent) : Prop :=
  event = .released lease.ownerId lease.fencingToken ∨ lease.ResolvedBy event

lemma givenUp_of_ends {lease last : BrowserLaneLease} {event : LaneEvent} (hsame : lease.Same last)
    (h : laneProtocol.ends last event) : lease.GivenUp event := by
  obtain ⟨htoken, howner, hrun, hoperation⟩ := hsame
  cases event with
  | released ownerId fencingToken =>
    obtain ⟨rfl, rfl⟩ := h
    exact Or.inl (by rw [htoken, howner])
  | reconciled resolution ledger =>
    obtain ⟨⟨hfence, hrun', hoperation'⟩, -, hproved⟩ := h
    exact Or.inr
      ⟨⟨hfence.trans htoken.symm, hrun.trans hrun', hoperation.trans hoperation'⟩, hproved⟩
  | observed resolution ledger =>
    obtain ⟨⟨hfence, hrun', hoperation'⟩, hproved⟩ := h
    exact Or.inr
      ⟨⟨hfence.trans htoken.symm, hrun.trans hrun', hoperation.trans hoperation'⟩, hproved⟩
  | acquired | renewed | marked | flagged | unresolved => exact h.elim

/-- Two leases that follow each other in a run have tokens that follow each other, and the first one
was given up in between. -/
theorem lane_handover {ledger : String → LedgerTables} {calls : List LaneCall}
    {before middle after : List LaneEvent} {lease next : BrowserLaneLease}
    (hevents : (laneRun ledger calls).events =
      before ++ .acquired lease :: middle ++ .acquired next :: after)
    (hnone : ∀ other, .acquired other ∉ middle) :
    next.fencingToken = lease.fencingToken + 1 ∧ ∃ event ∈ middle, lease.GivenUp event := by
  have hcourse := lane_course ledger calls
  rw [hevents] at hcourse
  have hquiet : ∀ event ∈ middle, laneProtocol.opens event = none := by
    intro event hmem
    cases event with
    | acquired other => exact absurd hmem (hnone other)
    | renewed | marked | flagged | released | unresolved | reconciled | observed => rfl
  obtain ⟨htoken, kept, event, rest, last, hsplit, hsame, hends⟩ :=
    hcourse.handover BrowserLaneLease.same_self (fun _ _ _ _ hkeeps => (same_of_keeps hkeeps).trans)
      rfl rfl hquiet
  refine ⟨htoken, event, ?_, givenUp_of_ends hsame hends⟩
  rw [hsplit]
  exact List.mem_append_right _ List.mem_cons_self

/-- A request for the lane. -/
def cardsRequest (ownerId : String) (acquiredAt : Nat) : AcquireRequest where
  laneKey := liepinBrowserLane
  ownerId := ownerId
  ownerProcessId := 100
  processBootId := "process-1"
  runtimeRunId := some "run-1"
  operationId := "cards-1"
  operationKind := .cards
  acquiredAt := acquiredAt
  leaseExpiresAt := acquiredAt + 10

theorem lane_handover_released : ∃ event ∈ [LaneEvent.released "owner-1" 1],
    (((cardsRequest "owner-1" 10).row 1).leaseUntil 20).GivenUp event := by
  have hevents : (laneRun (fun _ => {}) [.tryAcquire (cardsRequest "owner-1" 10),
      .release liepinBrowserLane "owner-1" 1 15 .completed none,
      .tryAcquire (cardsRequest "owner-2" 16)]).events =
      [] ++ .acquired (((cardsRequest "owner-1" 10).row 1).leaseUntil 20) ::
        [.released "owner-1" 1] ++ .acquired (((cardsRequest "owner-2" 16).row 2).leaseUntil 26) ::
            [] := by
    rfl
  exact (lane_handover hevents (by simp)).2

end SeekTalent.BrowserLane
