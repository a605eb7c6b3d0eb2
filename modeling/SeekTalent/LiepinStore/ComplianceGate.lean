import SeekTalent.Foundation.Sha256
import SeekTalent.SourcePort.StrictJson

/-!
# Compliance gates

The policy that a Liepin account is searched under (`providers/liepin/compliance.py`), the hash that
names an account (`security.py`), and what may not be stored in an event (`store.py`).

`lower` stands for `str.lower`, whose table is not part of the repository.
-/

namespace SeekTalent.LiepinStore

open Foundation SourcePort

/-- The tenant, workspace and actor a call is made under. -/
structure LiepinScope where
  tenantId : String
  workspaceId : String
  actorId : String
  deriving DecidableEq

/-- `GateStatus`. -/
inductive GateStatus where
  | pendingAccountBinding | approved | denied | expired
  deriving DecidableEq

/-- `RetentionPolicy`. -/
inductive RetentionPolicy where
  | runDebugShort | workspaceRecruitingRecord | forbiddenPersist
  deriving DecidableEq

/-- `RawPayloadAccessScope`. -/
inductive RawPayloadAccessScope where
  | runOnly | workspace | adminOnly
  deriving DecidableEq

/-- `ComplianceGate`. -/
structure ComplianceGate where
  scope : LiepinScope
  providerAccountHash : Option String
  status : GateStatus
  candidatePersonalInfoProcessingBasis : String
  personalInformationProcessor : String
  operatorAuditOwner : String
  accountHolderAuthorized : Bool
  humanInitiatedRecruiting : Bool
  allowedPurposes : List String
  retentionPolicy : RetentionPolicy
  deletionSlaDays : Int
  deletionPath : String
  rawPayloadAccessScope : RawPayloadAccessScope
  rawDetailRetentionAllowedAfterDebug : Bool
  fixtureExportAllowed : Bool
  policyRef : String
  deriving DecidableEq

namespace ComplianceGate

/-- `_base_policy_allows`. -/
def basePolicyAllows (gate : ComplianceGate) (purpose : String) : Bool :=
  stripText gate.scope.tenantId ≠ "" && stripText gate.scope.workspaceId ≠ "" &&
    stripText gate.scope.actorId ≠ "" &&
    stripText gate.candidatePersonalInfoProcessingBasis ≠ "" &&
    stripText gate.personalInformationProcessor ≠ "" && stripText gate.operatorAuditOwner ≠ "" &&
    gate.accountHolderAuthorized && gate.humanInitiatedRecruiting &&
    purpose ∈ gate.allowedPurposes && 0 < gate.deletionSlaDays &&
      stripText gate.deletionPath ≠ "" &&
    !gate.rawDetailRetentionAllowedAfterDebug && !gate.fixtureExportAllowed &&
    stripText gate.policyRef ≠ ""

/-- `allows_live_search`. -/
def allowsLiveSearch (gate : ComplianceGate) (providerAccountHash : Option String)
    (purpose : String) : Bool :=
  gate.status = .approved && gate.providerAccountHash.isSome &&
    gate.providerAccountHash = providerAccountHash && gate.basePolicyAllows purpose

/-- A live search is allowed under an approved gate, for its account and its policy. -/
lemma allowsLiveSearch_iff {gate : ComplianceGate} {accountHash purpose : String} :
    gate.allowsLiveSearch (some accountHash) purpose = true ↔
      gate.status = .approved ∧ gate.providerAccountHash = some accountHash ∧
        gate.basePolicyAllows purpose = true := by
  simp only [allowsLiveSearch, Bool.and_eq_true, decide_eq_true_eq]
  constructor
  · rintro ⟨⟨⟨hstatus, -⟩, hhash⟩, hpolicy⟩
    exact ⟨hstatus, hhash, hpolicy⟩
  · rintro ⟨hstatus, hhash, hpolicy⟩
    exact ⟨⟨⟨hstatus, by rw [hhash]; rfl⟩, hhash⟩, hpolicy⟩

end ComplianceGate

variable (lower : String → String)

/-- `hmac_provider_account_hash`. -/
def hmacProviderAccountHash (secret accountIdentity : String) : String :=
  let identity := lower (stripText accountIdentity)
  "hmac-sha256:" ++
    hexdigest (hmacSha256 secret.toUTF8.toList identity.toUTF8.toList)

/-! ## What is not stored -/

/-- `UNSAFE_PAYLOAD_KEYS`. -/
def unsafePayloadKeys : List String := [
  "auth", "authHeader", "auth_header", "authHeaders", "auth_headers", "authorization", "authUrl",
  "auth_url", "accountSubject", "account_subject", "browserContext", "browser_context", "cdpUrl",
  "cdp_url", "cookie", "rawProviderPayload", "raw_provider_payload", "rawPayload", "raw_payload",
  "providerPayload", "provider_payload", "providerAccountSubject", "provider_account_subject",
  "observedProviderAccountSubject", "observed_provider_account_subject", "remoteDebuggingPort",
  "remote_debugging_port", "debugWebsocketUrl", "debug_websocket_url", "playwright", "wsEndpoint",
  "ws_endpoint", "workerBaseUrl", "worker_base_url", "cookies", "localStorage", "local_storage",
  "sessionStorage", "session_storage", "storageState", "storage_state", "workerUrl", "worker_url",
  "token", "streamToken", "stream_token"]

/-- `_UNSAFE_REVOKE_REASON_MARKERS`. -/
def unsafeRevokeReasonMarkers : List String := [
  "access", "authorization", "authheader", "bearer", "basic", "cdp", "cookie", "debugwebsocket",
  "digest", "localstorage", "refresh", "sessionstorage", "storagestate", "token", "websocket"]

/-- `_normalize_payload_key`. -/
def normalizePayloadKey (key : String) : String :=
  lower (String.ofList (key.toList.filter (fun c => c ≠ '_' && c ≠ '-')))

/-- `_normalize_revoke_reason_marker`. -/
def normalizeRevokeReasonMarker (reason : String) : String :=
  String.ofList ((normalizePayloadKey lower reason).toList.filter (· ≠ ' '))

/-- `_has_unsafe_payload` on a text that is not under the key of a redaction state. -/
def hasUnsafeText (value : String) : Bool :=
  let lowered := lower value
  let holds (markers : List String) : Bool := markers.any (containsText lowered)
  holds ["authorization:", "bearer "] ||
    ["basic ", "token ", "digest "].any (startsWithText lowered) ||
    holds ["authorization basic ", "authorization token ", "authorization digest "] ||
    holds ["authorization: basic", "browsercontext=", "cdp://", "devtools/browser",
      "internal-worker-observed-account", "observedprovideraccountsubject", "devtools/page",
      "provider account subject", "provideraccountsubject", "remote debugging port",
      "storage_state", "rawproviderpayload", "raw_provider_payload", "providerpayload",
      "provider_payload", "workerurl="] ||
    (["ws://", "wss://"].any (startsWithText lowered) &&
      holds ["devtools/browser", "devtools/page", "playwright"]) ||
    (holds ["127.0.0.1", "localhost"] &&
      holds [":9222", "/json/version", "/devtools/", "/internal", ":9999"]) ||
    (holds [":9222"] && holds ["/json/version", "/devtools/"]) ||
    (holds ["worker"] && holds ["/internal"]) ||
    (holds ["liepin.com"] && holds ["token=", "cookie=", "auth=", "sid="])

/-- `_safe_revoke_reason`. -/
def safeRevokeReason (reason : String) : String :=
  let normalized := stripText reason
  if normalized = "" then "unspecified"
  else
    let key := normalizeRevokeReasonMarker lower normalized
    if hasUnsafeText lower normalized || key ∈ unsafePayloadKeys.map (normalizePayloadKey lower) ||
      unsafeRevokeReasonMarkers.any (containsText key) then "unsafe_reason_redacted"
    else normalized

end SeekTalent.LiepinStore
