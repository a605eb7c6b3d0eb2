import Mathlib.Data.List.MinMax
import SeekTalent.Foundation.Machine
import SeekTalent.Foundation.Tables
import SeekTalent.LiepinStore.ComplianceGate

/-!
# The store of Liepin connections

The tables of `providers/liepin/store.py` that hold compliance gates, connections, runs and events,
and the calls that write them.  A call is one transaction: when it raises, the tables are as before.
The values drawn by `uuid.uuid4` and `_now_iso` are arguments of the calls.
-/

namespace SeekTalent.LiepinStore

open Foundation SourcePort

/-- A row of `liepin_compliance_gates`; the scope of the gate is that of the row. -/
structure GateRow where
  gateRef : String
  gate : ComplianceGate
  requestedPurpose : String
  createdAt : String
  deriving DecidableEq

/-- `status` of a connection. -/
inductive ConnectionStatus where
  | pendingLogin | loginReady | connected | revoked
  deriving DecidableEq

/-- A row of `liepin_connections`. -/
structure ConnectionRow where
  connectionId : String
  scope : LiepinScope
  complianceGateRef : String
  status : ConnectionStatus
  providerAccountHash : Option String
  observedProviderAccountSubject : Option String
  sessionStoreKeyId : Option String
  encryptedStateSha256 : Option String
  sessionUpdatedAt : Option String
  revokedAt : Option String
  createdAt : String
  deriving DecidableEq

/-- A row of `liepin_runs`, all of which are queued when they are created. -/
structure RunRow where
  runId : String
  scope : LiepinScope
  connectionId : String
  complianceGateRef : String
  createdAt : String
  deriving DecidableEq

/-- A row of `liepin_events` for a revoked session; its payload is the connection and the reason. -/
structure EventRow where
  scope : LiepinScope
  subjectId : String
  sequence : Nat
  reason : String
  createdAt : String
  deriving DecidableEq

/-- The tables. -/
structure LiepinTables where
  gates : List GateRow
  connections : List ConnectionRow
  runs : List RunRow
  events : List EventRow

/-- The tables of a new store. -/
def LiepinTables.empty : LiepinTables := ⟨[], [], [], []⟩

/-- What the calls raise. -/
inductive LiepinError where
  | integrityError
  | notOfGate | notBoundToAccount | noLiveSearch
  | unsafeEventPayload
  deriving DecidableEq

/-- The columns a gate is looked up by. -/
def GateRow.key (row : GateRow) : String × LiepinScope := (row.gateRef, row.gate.scope)

/-- The columns a connection is looked up by. -/
def ConnectionRow.key (row : ConnectionRow) : String × LiepinScope := (row.connectionId, row.scope)

namespace LiepinTables

/-- The gate of a reference in a scope. -/
def gateAt (t : LiepinTables) (gateRef : String) (scope : LiepinScope) : Option GateRow :=
  rowAt GateRow.key t.gates (gateRef, scope)

/-- The connection of an id in a scope. -/
def connectionAt (t : LiepinTables) (connectionId : String) (scope : LiepinScope) :
    Option ConnectionRow :=
  rowAt ConnectionRow.key t.connections (connectionId, scope)

/-- `UPDATE liepin_compliance_gates SET provider_account_hash = ?, status = 'approved'`. -/
def approveGate (t : LiepinTables) (gateRef : String) (scope : LiepinScope) (accountHash : String) :
    LiepinTables :=
  { t with gates := updateRows GateRow.key t.gates (gateRef, scope) (fun row => { row with
      gate := { row.gate with providerAccountHash := some accountHash, status := .approved } }) }

/-- An `UPDATE` of one connection. -/
def setConnection (t : LiepinTables) (connectionId : String) (scope : LiepinScope)
    (set : ConnectionRow → ConnectionRow) : LiepinTables :=
  { t with connections := updateRows ConnectionRow.key t.connections (connectionId, scope) set }

/-- `UPDATE liepin_connections SET provider_account_hash = ?, status = 'connected'`. -/
def connect (t : LiepinTables) (connectionId : String) (scope : LiepinScope)
    (accountHash : String) : LiepinTables :=
  t.setConnection connectionId scope (fun row => { row with
    providerAccountHash := some accountHash, status := .connected })

/-- The next number of an event of a connection, whoever the actor is. -/
def nextSequence (t : LiepinTables) (scope : LiepinScope) (subjectId : String) : Nat :=
  ((t.events.filter (fun row => row.scope.tenantId = scope.tenantId &&
    row.scope.workspaceId = scope.workspaceId && row.subjectId = subjectId)).map
      EventRow.sequence).foldl max 0 + 1

end LiepinTables

section Calls

variable (lower : String → String) (t : LiepinTables) (scope : LiepinScope)

/-- `create_compliance_gate`. -/
def createComplianceGate (gate : ComplianceGate) (purpose gateRef now : String) :
    Except LiepinError (String × LiepinTables) :=
  if (rowAt GateRow.gateRef t.gates gateRef).isSome then .error .integrityError
  else
    let row : GateRow := {
      gateRef := gateRef
      gate := { gate with scope := scope }
      requestedPurpose := purpose
      createdAt := now }
    .ok (gateRef, { t with gates := t.gates ++ [row] })

/-- `create_connection`. -/
def createConnection (complianceGateRef : String) (connectionId : Option String)
    (uuid now : String) : Except LiepinError (String × LiepinTables) :=
  let given := connectionId.getD ""
  let id := if given = "" then uuid else given
  if (rowAt ConnectionRow.connectionId t.connections id).isSome then .error .integrityError
  else
    let row : ConnectionRow := {
      connectionId := id
      scope := scope
      complianceGateRef := complianceGateRef
      status := .pendingLogin
      providerAccountHash := none
      observedProviderAccountSubject := none
      sessionStoreKeyId := none
      encryptedStateSha256 := none
      sessionUpdatedAt := none
      revokedAt := none
      createdAt := now }
    .ok (id, { t with connections := t.connections ++ [row] })

/-- `record_connection_account_subject`. -/
def recordConnectionAccountSubject (connectionId subject : String) : Bool × LiepinTables :=
  if subject = "" then (false, t)
  else
    match t.connectionAt connectionId scope with
    | none => (false, t)
    | some row =>
      if row.status = .pendingLogin ∧ row.providerAccountHash = none then
        (true, t.setConnection connectionId scope (fun stored => { stored with
          observedProviderAccountSubject := some subject, status := .loginReady }))
      else (false, t)

/-- The account hash that `bind_connection_account` reads off a connection. -/
def boundAccountHash (secret : String) (row : ConnectionRow) : Option String :=
  if row.status = .connected ∧ row.providerAccountHash.isSome then row.providerAccountHash
  else if row.status = .loginReady ∧ row.observedProviderAccountSubject.getD "" ≠ "" then
    row.observedProviderAccountSubject.map (hmacProviderAccountHash lower secret)
  else none

/-- `bind_connection_account`. -/
def bindConnectionAccount (gateRef connectionId secret : String) : Option String × LiepinTables :=
  match t.connectionAt connectionId scope with
  | none => (none, t)
  | some row =>
    if row.complianceGateRef ≠ gateRef then (none, t)
    else
      match boundAccountHash lower secret row with
      | none => (none, t)
      | some accountHash =>
        match t.gateAt gateRef scope with
        | none => (none, t)
        | some held =>
          if ¬ (held.gate.status = .pendingAccountBinding ∨
              (held.gate.status = .approved ∧
                held.gate.providerAccountHash = some accountHash)) then
            (none, t)
          else if ¬ (held.gate.providerAccountHash = none ∨
              held.gate.providerAccountHash = some accountHash) then (none, t)
          else
            (some accountHash,
              (t.approveGate gateRef scope accountHash).connect connectionId scope accountHash)

/-- The connection is connected under an account hash and was created for a gate. -/
def isConnectedFor (t : LiepinTables) (scope : LiepinScope)
    (gateRef connectionId accountHash : String) : Bool :=
  match t.connectionAt connectionId scope with
  | none => false
  | some row => row.status = .connected && row.providerAccountHash = some accountHash &&
      row.complianceGateRef = gateRef

/-- `approve_connection_account_hash`. -/
def approveConnectionAccountHash (gateRef connectionId accountHash : String) :
    Bool × LiepinTables :=
  if accountHash = "" then (false, t)
  else if ¬ isConnectedFor t scope gateRef connectionId accountHash then (false, t)
  else
    match t.gateAt gateRef scope with
    | none => (false, t)
    | some held =>
      if held.gate.status = .denied ∨ held.gate.status = .expired then (false, t)
      else
        (true, (t.approveGate gateRef scope accountHash).connect connectionId scope accountHash)

/-- `record_session_metadata`. -/
def recordSessionMetadata
    (connectionId accountHash sessionStoreKeyId encryptedStateSha256 now : String) :
    Option ConnectionRow × LiepinTables :=
  if accountHash = "" ∨ sessionStoreKeyId = "" ∨ encryptedStateSha256 = "" then (none, t)
  else
    let after := t.setConnection connectionId scope (fun row => { row with
      providerAccountHash := some accountHash
      status := .connected
      sessionStoreKeyId := some sessionStoreKeyId
      encryptedStateSha256 := some encryptedStateSha256
      sessionUpdatedAt := some now
      revokedAt := none })
    (after.connectionAt connectionId scope, after)

/-- `revoke_session`. -/
def revokeSession (connectionId reason now eventNow : String) :
    Except LiepinError (Bool × LiepinTables) :=
  let safeReason := safeRevokeReason lower reason
  if (t.connectionAt connectionId scope).isNone then .ok (false, t)
  else if hasUnsafeText lower connectionId || hasUnsafeText lower safeReason then
    .error .unsafeEventPayload
  else
    let revoked := t.setConnection connectionId scope (fun row => { row with
      status := .revoked
      providerAccountHash := none
      observedProviderAccountSubject := none
      sessionStoreKeyId := none
      encryptedStateSha256 := none
      sessionUpdatedAt := none
      revokedAt := some now })
    let event : EventRow := {
      scope := scope
      subjectId := connectionId
      sequence := t.nextSequence scope connectionId
      reason := safeReason
      createdAt := eventNow }
    .ok (true, { revoked with events := revoked.events ++ [event] })

/-- `create_run`. -/
def createRun (connectionId complianceGateRef runId now : String) :
    Except LiepinError (String × LiepinTables) :=
  match t.connectionAt connectionId scope, t.gateAt complianceGateRef scope with
  | some connection, some held =>
    if ¬ (connection.complianceGateRef = complianceGateRef ∧ connection.status = .connected) then
      .error .notOfGate
    else if connection.providerAccountHash = none ∨
        connection.providerAccountHash ≠ held.gate.providerAccountHash then
      .error .notBoundToAccount
    else if ¬ held.gate.allowsLiveSearch connection.providerAccountHash "search" then
      .error .noLiveSearch
    else if t.runs.any (fun row => row.runId = runId) then .error .integrityError
    else
      let row : RunRow := {
        runId := runId
        scope := scope
        connectionId := connectionId
        complianceGateRef := complianceGateRef
        createdAt := now }
      .ok (runId, { t with runs := t.runs ++ [row] })
  | _, _ => .error .notOfGate

end Calls

/-- A call of the store. -/
inductive LiepinCall where
  | createComplianceGate (scope : LiepinScope) (gate : ComplianceGate)
      (purpose gateRef now : String)
  | createConnection (scope : LiepinScope) (complianceGateRef : String)
      (connectionId : Option String)
      (uuid now : String)
  | recordConnectionAccountSubject (scope : LiepinScope) (connectionId subject : String)
  | bindConnectionAccount (scope : LiepinScope) (gateRef connectionId secret : String)
  | approveConnectionAccountHash (scope : LiepinScope) (gateRef connectionId accountHash : String)
  | recordSessionMetadata (scope : LiepinScope)
      (connectionId accountHash sessionStoreKeyId encryptedStateSha256 now : String)
  | revokeSession (scope : LiepinScope) (connectionId reason now eventNow : String)
  | createRun (scope : LiepinScope) (connectionId complianceGateRef runId now : String)

/-- The scope a call is made under. -/
def LiepinCall.scope : LiepinCall → LiepinScope
  | .createComplianceGate scope .. | .createConnection scope .. |
    .recordConnectionAccountSubject scope .. | .bindConnectionAccount scope .. |
    .approveConnectionAccountHash scope .. | .recordSessionMetadata scope .. |
    .revokeSession scope .. | .createRun scope .. => scope

/-- The tables after a transaction, which are the old ones when it raised. -/
def committed {α : Type} (t : LiepinTables) : Except LiepinError (α × LiepinTables) → LiepinTables
  | .error _ => t
  | .ok (_, after) => after

/-- The tables after a call. -/
def LiepinTables.step (lower : String → String) (t : LiepinTables) : LiepinCall → LiepinTables
  | .createComplianceGate scope gate purpose gateRef now =>
    committed t (createComplianceGate t scope gate purpose gateRef now)
  | .createConnection scope complianceGateRef connectionId uuid now =>
    committed t (createConnection t scope complianceGateRef connectionId uuid now)
  | .recordConnectionAccountSubject scope connectionId subject =>
    (recordConnectionAccountSubject t scope connectionId subject).2
  | .bindConnectionAccount scope gateRef connectionId secret =>
    (bindConnectionAccount lower t scope gateRef connectionId secret).2
  | .approveConnectionAccountHash scope gateRef connectionId accountHash =>
    (approveConnectionAccountHash t scope gateRef connectionId accountHash).2
  | .recordSessionMetadata scope connectionId accountHash sessionStoreKeyId encryptedStateSha256
      now =>
    (recordSessionMetadata t scope connectionId accountHash sessionStoreKeyId encryptedStateSha256
      now).2
  | .revokeSession scope connectionId reason now eventNow =>
    committed t (revokeSession lower t scope connectionId reason now eventNow)
  | .createRun scope connectionId complianceGateRef runId now =>
    committed t (createRun t scope connectionId complianceGateRef runId now)

end SeekTalent.LiepinStore
