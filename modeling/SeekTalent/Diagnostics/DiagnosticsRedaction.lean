import Mathlib.Algebra.Ring.Int.Defs
import Mathlib.Data.List.Sort
import Mathlib.Data.Prod.Lex
import Mathlib.Data.String.Basic
import SeekTalent.Foundation.Checks
import SeekTalent.Foundation.Patterns

/-!
# Diagnostics redaction

The projection of one diagnostics payload through a recursive allowlist: scalar contracts, the seven
sensitive-key patterns, the validation of the allowlist, and `projectDiagnostics`, which walks the
payload under a node budget and a key budget, omits the fields that may not leave and counts them.

A value that is none of the shapes the walk looks at (`None`, a float, an object) is `other`.  The
keys of a mapping are `none` where they are not text; keys of one mapping are different.
-/

namespace SeekTalent.Diagnostics

open Foundation

/-! ## Values and contracts -/

/-- A payload. -/
inductive DiagnosticValue where
  | boolean (value : Bool)
  | integer (value : Int)
  | text (value : String)
  | mapping (members : List (Option String × DiagnosticValue))
  /-- A list or a tuple. -/
  | sequence (items : List DiagnosticValue)
  | other
  deriving Repr

/-- The kinds of `ScalarContract`. -/
inductive ScalarKind where
  | boolean
  | nonNegativeInteger
  | positiveInteger
  | enum
  | sha256Reference
  | randomReference
  | unknown (kind : String)
  deriving Repr, DecidableEq

/-- `ScalarContract`. -/
structure ScalarContract where
  kind : ScalarKind
  values : List String := []
  deriving Repr, DecidableEq

/-- `Allowlist` and what may stand in one. -/
inductive Allowlist where
  | contract (contract : ScalarContract)
  | mapping (fields : List (Option String × Allowlist))
  | sequence (items : List Allowlist)
  | other
  deriving Repr

/-- `MAX_SAFE_INTEGER` -/
def maxSafeInteger : Int := 2 ^ 53 - 1

/-- The characters of a lower-case hexadecimal digest. -/
def isHexDigit (c : Char) : Bool :=
  ('0' ≤ c && c ≤ '9') || ('a' ≤ c && c ≤ 'f')

/-- `_SHA256_RE` -/
def isSha256Reference (text : String) : Bool :=
  let digits := if text.toList.take 7 = "sha256:".toList then text.toList.drop 7 else text.toList
  digits.length = 64 && digits.all isHexDigit

/-- `_RANDOM_REF_RE` -/
def isRandomReference (text : String) : Bool :=
  text.toList.length = 32 && text.toList.all isHexDigit && !text.toList.all (· = '0')

/-- The checks of `validate_scalar`, for a kind it knows. -/
def meetsContract (contract : ScalarContract) : DiagnosticValue → Bool
  | .boolean _ => contract.kind = .boolean
  | .integer value =>
    (contract.kind = .nonNegativeInteger && 0 ≤ value && value ≤ maxSafeInteger) ||
      (contract.kind = .positiveInteger && 1 ≤ value && value ≤ maxSafeInteger)
  | .text value =>
    (contract.kind = .enum && contract.values.contains value) ||
      (contract.kind = .sha256Reference && isSha256Reference value) ||
      (contract.kind = .randomReference && isRandomReference value)
  | .mapping _ | .sequence _ | .other => false

/-- `validate_scalar` -/
def validateScalar (value : DiagnosticValue) (contract : ScalarContract) :
    Except String DiagnosticValue := do
  if let .unknown _ := contract.kind then throw "diagnostics_unknown_scalar_contract"
  require (meetsContract contract value) "diagnostics_scalar_contract_mismatch"
  return value

/-! ## Sensitive keys -/

/-- What a case-insensitive pattern compares: lower case for ASCII letters, and the letters outside
ASCII whose case variants are ASCII. -/
def foldCase (c : Char) : Char :=
  if 'A' ≤ c ∧ c ≤ 'Z' then Char.ofNat (c.toNat + 32)
  else if c.toNat = 0x130 ∨ c.toNat = 0x131 then 'i'
  else if c.toNat = 0x17f then 's'
  else if c.toNat = 0x212a then 'k'
  else c

open Pattern in
/-- `_CREDENTIAL_KEY` -/
def credentialKey : Pattern :=
  sequence [choice [start, word "_"],
    choice [word "authorization", word "auth", word "cookie", word "password", word "secret",
      word "token", sequence [word "api", opt (word "_"), word "key"],
      sequence [word "handoff", opt (word "_"), word "key"],
      sequence [word "control", opt (word "_"), word "key"],
      sequence [word "hmac", opt (word "_"), word "key"], word "nonce",
      sequence [word "fence", opt (word "_token")]],
    choice [stop, word "_"]]

open Pattern in
/-- `_BUSINESS_KEY` -/
def businessKey : Pattern :=
  choice [word "prompt", sequence [word "job", opt (word "_"), word "description"],
    sequence [start, word "jd", stop], word "resume", word "candidate", word "company",
    word "school", sequence [word "search", opt (word "_"), choice [word "query", word "term"]],
    sequence [word "business", opt (word "_"), word "content"]]

open Pattern in
/-- `_ACCOUNT_KEY` -/
def accountKey : Pattern :=
  choice [word "observed_provider_account_subject", word "account_subject", word "email",
    word "phone"]

open Pattern in
/-- `_BROWSER_KEY` -/
def browserKey : Pattern :=
  choice [word "dom", word "html", sequence [word "visible", opt (word "_"), word "text"],
    word "screenshot", word "download", word "clipboard",
    sequence [word "page", opt (word "_"), word "content"]]

open Pattern in
/-- `_NETWORK_KEY` -/
def networkKey : Pattern :=
  choice [sequence [start, word "url", stop], sequence [word "_url", stop],
    sequence [start, word "ip", stop], word "ip_address", word "ssid", word "proxy",
    word "certificate_subject"]

open Pattern in
/-- `_MACHINE_KEY` -/
def machineKey : Pattern :=
  choice [word "hostname", word "username", word "user_name", word "absolute_path",
    word "home_path", word "workspace_path", word "profile_path", word "chrome_profile"]

open Pattern in
/-- `_RAW_DIAGNOSTIC_KEY` -/
def rawDiagnosticKey : Pattern :=
  choice [word "sqlite", word "database", sequence [start, word "db", stop],
    sequence [start, word "wal", stop], sequence [start, word "shm", stop], word "stdout",
    word "stderr", sequence [start, word "log", stop], word "raw_log", word "exception_detail",
    word "exception_message", word "process_env", sequence [start, word "env", stop],
    word "command_line"]

/-- The patterns with their rules, in the order they are tried. -/
def sensitiveKeyPatterns : List (Pattern × String) :=
  [(credentialKey, "credential_field"), (businessKey, "business_content_field"),
    (accountKey, "account_subject_field"), (browserKey, "browser_content_field"),
    (networkKey, "network_identity_field"), (machineKey, "machine_identity_field"),
    (rawDiagnosticKey, "raw_diagnostic_field")]

/-- `_sensitive_key_rule` -/
def sensitiveKeyRule (key : String) : Option String :=
  (sensitiveKeyPatterns.find? fun entry => entry.1.search foldCase key).map Prod.snd

/-! ## Budgets -/

/-- `_Budget` with the reports of a walk: the rule and the path of each omitted field. -/
structure WalkState where
  nodes : Nat := 0
  keys : Nat := 0
  reports : List (String × String) := []
  deriving Repr, DecidableEq

/-- `_Budget.add_node` -/
def WalkState.addNode (s : WalkState) : Except String WalkState := do
  require (s.nodes + 1 ≤ 1024) "diagnostics_redaction_budget_exceeded"
  return { s with nodes := s.nodes + 1 }

/-- `_Budget.add_keys` -/
def WalkState.addKeys (s : WalkState) (count : Nat) : Except String WalkState := do
  require (s.keys + count ≤ 512) "diagnostics_redaction_budget_exceeded"
  return { s with keys := s.keys + count }

/-- A field is omitted. -/
def WalkState.report (s : WalkState) (rule path : String) : WalkState :=
  { s with reports := s.reports ++ [(rule, path)] }

/-! ## The allowlist -/

/-- A key that an allowlist may have. -/
def isAllowlistKey (key : String) : Bool :=
  match key.toList with
  | [] => false
  | first :: rest =>
    ('a' ≤ first && first ≤ 'z') && rest.length ≤ 63 &&
      rest.all (fun c => ('a' ≤ c && c ≤ 'z') || ('0' ≤ c && c ≤ '9') || c = '_')

mutual

/-- `_validate_allowlist` -/
def validateAllowlist (value : Allowlist) (depth : Nat) (budget : WalkState) :
    Except String WalkState := do
  let budget ← budget.addNode
  require (depth ≤ 3) "diagnostics_redaction_too_deep"
  match value with
  | .contract contract =>
    require (¬(contract.kind = .enum ∧ contract.values = []))
      "diagnostics_redaction_invalid_allowlist"
    return budget
  | .mapping fields =>
    require (fields.length ≤ 64) "diagnostics_redaction_invalid_allowlist"
    let budget ← budget.addKeys fields.length
    validateFields fields (depth + 1) budget
  | .sequence [item] => validateAllowlist item (depth + 1) budget
  | .sequence _ | .other => throw "diagnostics_redaction_invalid_allowlist"

/-- The fields of an allowlist, in order. -/
def validateFields (fields : List (Option String × Allowlist)) (depth : Nat) (budget : WalkState) :
    Except String WalkState := do
  match fields with
  | [] => return budget
  | (none, _) :: _ => throw "diagnostics_redaction_invalid_allowlist"
  | (some key, child) :: rest =>
    require (isAllowlistKey key ∧ sensitiveKeyRule key = none)
      "diagnostics_redaction_invalid_allowlist"
    let budget ← validateAllowlist child depth budget
    validateFields rest depth budget

end

/-! ## The walk -/

/-- What becomes of a field: it is omitted under a rule, or kept under the allowlist of its key. -/
inductive FieldVerdict where
  | omitted (rule : String)
  | kept (child : Allowlist)

/-- The verdict of `_project` on a field. -/
def fieldVerdict (fields : List (Option String × Allowlist)) (key : String) : FieldVerdict :=
  match sensitiveKeyRule key with
  | some rule => .omitted rule
  | none =>
    match fields.lookup (some key) with
    | none => .omitted "field_not_allowlisted"
    | some child => .kept child

/-- The first 128 characters of a path. -/
def clipPath (path : String) : String :=
  String.ofList (path.toList.take 128)

/-- `_redacted_path` -/
def redactedPath (path : String) : String :=
  clipPath (path ++ ".<redacted-field>")

/-- `_safe_path` -/
def safePath (path : String) : String :=
  clipPath (path ++ ".<field>")

mutual

/-- `_project` -/
def project (value : DiagnosticValue) (allowlist : Allowlist) (path : String) (depth : Nat)
    (s : WalkState) : Except String (DiagnosticValue × WalkState) := do
  let s ← s.addNode
  require (depth ≤ 3) "diagnostics_redaction_too_deep"
  match allowlist with
  | .contract contract =>
    match validateScalar value contract with
    | .ok value => return (value, s)
    | .error _ => throw "diagnostics_redaction_scalar_contract_mismatch"
  | .mapping fields =>
    match value with
    | .mapping members =>
      require (members.length ≤ 64) "diagnostics_redaction_object_too_large"
      let s ← s.addKeys members.length
      let (projected, s) ← projectMembers members fields path (depth + 1) s
      return (.mapping projected, s)
    | .boolean _ | .integer _ | .text _ | .sequence _ | .other =>
      throw "diagnostics_redaction_shape_mismatch"
  | .sequence children =>
    match value with
    | .sequence items =>
      require (items.length ≤ 32) "diagnostics_redaction_array_too_large"
      let (projected, s) ← projectItems items children (path ++ ".<item>") (depth + 1) s
      return (.sequence projected, s)
    | .boolean _ | .integer _ | .text _ | .mapping _ | .other =>
      throw "diagnostics_redaction_shape_mismatch"
  | .other => throw "diagnostics_redaction_invalid_allowlist"

/-- The members of a mapping, in order. -/
def projectMembers (members : List (Option String × DiagnosticValue))
    (fields : List (Option String × Allowlist)) (path : String) (depth : Nat) (s : WalkState) :
    Except String (List (Option String × DiagnosticValue) × WalkState) := do
  match members with
  | [] => return ([], s)
  | (none, _) :: _ => throw "diagnostics_redaction_invalid_key"
  | (some key, child) :: rest =>
    match fieldVerdict fields key with
    | .omitted rule => projectMembers rest fields path depth (s.report rule (redactedPath path))
    | .kept allowlist =>
      let (kept, s) ← project child allowlist (safePath path) depth s
      let (projected, s) ← projectMembers rest fields path depth s
      return ((some key, kept) :: projected, s)

/-- The items of a sequence, in order, each under the first item of the allowlist. -/
def projectItems (items : List DiagnosticValue) (children : List Allowlist) (path : String)
    (depth : Nat) (s : WalkState) : Except String (List DiagnosticValue × WalkState) := do
  match items with
  | [] => return ([], s)
  | item :: rest =>
    match children.head? with
    | none => throw "list index out of range"
    | some child =>
      let (kept, s) ← project item child path depth s
      let (projected, s) ← projectItems rest children path depth s
      return (kept :: projected, s)

end

/-- The walk of a scalar. -/
lemma project_contract (value : DiagnosticValue) (contract : ScalarContract) (path : String)
    (depth : Nat) (s : WalkState) : project value (.contract contract) path depth s =
      s.addNode >>= fun s => require (depth ≤ 3) "diagnostics_redaction_too_deep" >>= fun _ =>
        match validateScalar value contract with
        | .ok value => pure (value, s)
        | .error _ => throw "diagnostics_redaction_scalar_contract_mismatch" := by
  rw [project]

section Members

variable {fields : List (Option String × Allowlist)} {key rule : String} {child : Allowlist}
  {v : DiagnosticValue} {rest : List (Option String × DiagnosticValue)}

/-- The walk passes over an omitted field. -/
lemma projectMembers_omit (hverdict : fieldVerdict fields key = .omitted rule) (path : String)
    (depth : Nat) (s : WalkState) : projectMembers ((some key, v) :: rest) fields path depth s =
      projectMembers rest fields path depth (s.report rule (redactedPath path)) := by
  rw [projectMembers.eq_def]
  dsimp only
  rw [hverdict]

/-- The walk goes into a kept field. -/
lemma projectMembers_keep (hverdict : fieldVerdict fields key = .kept child) (path : String)
    (depth : Nat) (s : WalkState) : projectMembers ((some key, v) :: rest) fields path depth s =
      project v child (safePath path) depth s >>= fun kept =>
        projectMembers rest fields path depth kept.2 >>= fun projected =>
          pure ((some key, kept.1) :: projected.1, projected.2) := by
  rw [projectMembers.eq_def]
  dsimp only
  rw [hverdict]

end Members

/-- `RedactionReportItem` -/
structure RedactionReportItem where
  rule : String
  path : String
  count : Nat
  deriving Repr, DecidableEq

/-- `DiagnosticsProjection` -/
structure DiagnosticsProjection where
  value : DiagnosticValue
  redactedCount : Nat
  report : List RedactionReportItem
  deriving Repr

/-- The report of a projection: the counted rules and paths in order, at most 32 of them. -/
def reportOf (reports : List (String × String)) : List RedactionReportItem :=
  ((reports.dedup.insertionSort fun a b => toLex a ≤ toLex b).take 32).map fun entry =>
    { rule := entry.1, path := entry.2, count := reports.count entry }

/-- `project_diagnostics` -/
def projectDiagnostics (payload : DiagnosticValue) (allowlist : Allowlist) :
    Except String DiagnosticsProjection := do
  match allowlist with
  | .mapping fields =>
    let _ ← validateAllowlist (.mapping fields) 0 {}
    let (value, s) ← project payload (.mapping fields) "root" 0 {}
    return { value := value, redactedCount := s.reports.length, report := reportOf s.reports }
  | .contract _ | .sequence _ | .other => throw "diagnostics_redaction_invalid_allowlist"

end SeekTalent.Diagnostics
