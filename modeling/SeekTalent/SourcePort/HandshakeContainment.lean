import SeekTalent.Foundation.JsonCauses
import SeekTalent.SourcePort.ReferenceRuntime
import SeekTalent.SourcePort.SidecarHandshake
import SeekTalent.SourcePort.StrictJsonTotality

/-!
# What escapes from a handshake

A handshake meets its contract when it returns its material or raises a readiness error, and derives
no key before the peer's proofs over the same transcript are verified.  The second part always
holds.  The first fails in three calls that raise exceptions of Python: `int` on a text of too many
digits, which `json.loads` hands on, `hmac.compare_digest` on a proof beyond ASCII, and the encoding
of a session id beyond ASCII.  A handshake meets its contract exactly if each of its operations is
`Harmless`.
-/

namespace SeekTalent.SourcePort

open Foundation

/-! ## The contract -/

/-- A `SidecarReadinessError`. -/
def HandshakeFailure.IsReadiness : HandshakeFailure → Prop
  | .readiness _ => True
  | _ => False

/-- The course of a handshake that has its transport for itself. -/
def handshakeCourse (rt : HandshakeRuntime) (handshake : HandshakeM HandshakeMaterial)
    (t : Transport) : Course Transport HandshakeOp (Except HandshakeFailure HandshakeMaterial) :=
  handshake.run.among rt.exec t []

/-- The writer of canonical JSON does not run out of stack on three levels. -/
def HandshakeRuntime.WritesShallow (rt : HandshakeRuntime) : Prop :=
  ∀ payload : JsonDict, (Json.obj payload.members).Within 3 →
    rt.canonicalJsonBytes payload ≠ .error .recursion

namespace HandshakeRuntime

variable (rt : HandshakeRuntime)

/-- The proof in the payload of a body was compared with the one over a transcript, and is the
same. -/
def Verified (before : List HandshakeOp) (sessionSecret body : Bytes) (stage : HandshakeMessage)
    (transcript : List Bytes) : Prop :=
  ∃ payload proof, rt.loads body = .ok payload ∧ requiredString payload "proof" = .ok proof ∧
    handshakeProof rt sessionSecret stage transcript (payload.erase "proof") = .ok proof ∧
    .requireProof payload sessionSecret stage transcript ∈ before

/-- Each proof that the peer of a role gives in a transcript is verified. -/
def PeerVerified (role : EndpointRole) (before : List HandshakeOp) (sessionSecret : Bytes)
    (transcript : List Bytes) : Prop :=
  ∃ mainHello sidecarHello mainReady sidecarReady,
    transcript = [mainHello, sidecarHello, mainReady, sidecarReady] ∧
    match role with
    | .main => rt.Verified before sessionSecret sidecarHello .sidecarHello [mainHello] ∧
        rt.Verified before sessionSecret sidecarReady .sidecarReady
          [mainHello, sidecarHello, mainReady]
    | .sidecar => rt.Verified before sessionSecret mainReady .mainReady [mainHello, sidecarHello]

/-- A handshake returns or raises a readiness error, and derives keys behind verified proofs
only. -/
def Contained (role : EndpointRole)
    (course : Course Transport HandshakeOp (Except HandshakeFailure HandshakeMaterial)) : Prop :=
  (∀ e, course.result = .error e → e.IsReadiness) ∧
    ∀ before sessionSecret sessionId transcript after,
      course.ops = before ++ .deriveKeys sessionSecret sessionId transcript :: after →
        rt.PeerVerified role before sessionSecret transcript

/-- No exception of Python comes out of an operation: the scanner reaches no integer of more digits
than `int` converts, a proof that is compared is ASCII, and so is the session id of derived keys. -/
def Harmless : HandshakeOp → Prop
  | .loads body => ∀ text number, rt.Scans body text → strictLoadsHooks.Reaches text number →
      convertible number = true
  | .requireProof payload sessionSecret stage transcript => ∀ received expected,
      requiredString payload "proof" = .ok received →
      handshakeProof rt sessionSecret stage transcript (payload.erase "proof") = .ok expected →
      isAscii received = true
  | .deriveKeys _ sessionId _ => isAscii sessionId = true
  | _ => True

end HandshakeRuntime

/-! ## Checks -/

/-- A computation raises readiness errors only. -/
def OnlyReadiness {α : Type} (x : Except HandshakeFailure α) : Prop :=
  ∀ e, x = .error e → e.IsReadiness

section OnlyReadiness

variable {α β : Type} {rt : HandshakeRuntime}

/-- A value is no error. -/
@[simp] lemma onlyReadiness_ok (value : α) : OnlyReadiness (.ok value) := nofun

/-- Returning a value raises nothing. -/
@[simp] lemma onlyReadiness_pure (value : α) : OnlyReadiness (pure value) := nofun

/-- A reason is raised as a readiness error. -/
@[simp] lemma onlyReadiness_error (reason : SidecarReadinessReason) :
    OnlyReadiness (.error (.readiness reason) : Except HandshakeFailure α) := by
  rintro _ ⟨⟩
  trivial

/-- A demand raises its reason. -/
@[simp] lemma onlyReadiness_demand (c : Prop) [Decidable c] (reason : SidecarReadinessReason) :
    OnlyReadiness (demand c reason) := by
  unfold demand require
  split <;> simp

/-- One computation after another. -/
lemma OnlyReadiness.bind {x : Except HandshakeFailure α} {f : α → Except HandshakeFailure β}
    (hx : OnlyReadiness x) (hf : ∀ value, x = .ok value → OnlyReadiness (f value)) :
    OnlyReadiness (x >>= f) := by
  cases x with
  | error e =>
    rintro _ ⟨⟩
    exact hx e rfl
  | ok value => exact hf value rfl

/-- A member that is no string, or too long. -/
@[simp] lemma onlyReadiness_requiredString (payload : JsonDict) (name : String) :
    OnlyReadiness (requiredString payload name) := by
  unfold requiredString
  split
  · split <;> simp
  · simp

/-- A member that is no integer. -/
@[simp] lemma onlyReadiness_requiredInteger (payload : JsonDict) (name : String) :
    OnlyReadiness (requiredInteger payload name) := by
  unfold requiredInteger
  split <;> simp

/-- Another version. -/
@[simp] lemma onlyReadiness_requireHandshakeVersion (payload : JsonDict) :
    OnlyReadiness (requireHandshakeVersion payload) :=
  .bind (by simp) fun _ _ => by simp

/-- Another message. -/
@[simp] lemma onlyReadiness_requireMessageType (payload : JsonDict) (expected : HandshakeMessage) :
    OnlyReadiness (requireMessageType payload expected) := by
  unfold requireMessageType
  split
  · exact .bind (by simp) fun _ _ => .bind (by simp) fun _ _ => by simp
  · simp

/-- Another session or nonce. -/
@[simp] lemma onlyReadiness_requireSharedSessionAndNonce (payload mainHello : JsonDict)
    (requireNonce : Bool) :
    OnlyReadiness (requireSharedSessionAndNonce payload mainHello requireNonce) := by
  refine .bind (by simp) fun _ _ => .bind (by simp) fun _ _ => .bind (by simp) fun _ _ => ?_
  cases requireNonce with
  | true => exact .bind (by simp) fun _ _ => .bind (by simp) fun _ _ => by simp
  | false => exact onlyReadiness_pure ()

/-- Capabilities that are no strings. -/
@[simp] lemma onlyReadiness_protocolCapabilities (protocol : JsonDict) :
    OnlyReadiness (protocolCapabilities protocol) := by
  unfold protocolCapabilities requiredStringList
  split
  · split
    · rename_i items _
      generalize items = items
      induction items with
      | nil => simp
      | cons item items ih =>
        rw [List.mapM_cons]
        refine .bind ?_ fun _ _ => .bind ih fun _ _ => by simp
        split <;> simp
    · simp
  · simp

/-- A payload without an identity. -/
@[simp] lemma onlyReadiness_identityFromPayload (payload : JsonDict) :
    OnlyReadiness (identityFromPayload payload) := by
  have hprotocol : OnlyReadiness (protocolOf payload) := by
    unfold protocolOf
    split <;> simp
  refine .bind hprotocol fun _ _ => .bind (by simp) fun _ _ => .bind (by simp) fun _ _ => ?_
  refine .bind (by simp) fun _ _ => .bind (by simp) fun _ _ => .bind (by simp) fun _ _ => ?_
  refine .bind (by simp) fun _ _ => .bind (by simp) fun _ _ => .bind (by simp) fun _ _ => ?_
  exact .bind (by simp) fun _ _ => .bind (by simp) fun _ _ => .bind (by simp) fun _ _ => by simp

/-- A text that is no secret. -/
@[simp] lemma onlyReadiness_decodeSecret (value : String) : OnlyReadiness (decodeSecret value) := by
  unfold decodeSecret
  split
  · simp
  · split <;> simp

/-- A read raises readiness errors only. -/
lemma onlyReadiness_readHandshake (buffer : Bytes) (arrivals : List Arrival) :
    OnlyReadiness (readHandshake buffer arrivals).1 := by
  fun_induction readHandshake buffer arrivals with
  | case1 arrivals buffer e h =>
    have hpop : OnlyReadiness (popFrame buffer) := by
      unfold popFrame
      dsimp only
      split_ifs <;> simp
    rintro _ ⟨⟩
    exact hpop e h
  | case8 buffer h data later ih => exact ih
  | _ => simp [starved]

/-- A payload of three levels is written. -/
lemma onlyReadiness_canonicalPayload (hrt : rt.WritesShallow) {payload : JsonDict}
    (h : (Json.obj payload.members).Within 3) : OnlyReadiness (canonicalPayload rt payload) := by
  have hwritten := hrt payload h
  unfold canonicalPayload
  split
  · simp
  · simp
  · contradiction

/-- The proof over a payload of three levels. -/
lemma onlyReadiness_handshakeProof (hrt : rt.WritesShallow) {payload : JsonDict}
    (h : (Json.obj payload.members).Within 3) (sessionSecret : Bytes) (stage : HandshakeMessage)
    (transcript : List Bytes) :
    OnlyReadiness (handshakeProof rt sessionSecret stage transcript payload) :=
  .bind (onlyReadiness_canonicalPayload hrt h) fun _ _ => by simp

/-- A proof is added to a payload of three levels. -/
lemma onlyReadiness_withProof (hrt : rt.WritesShallow) {payload : JsonDict}
    (h : (Json.obj payload.members).Within 3) (sessionSecret : Bytes) (stage : HandshakeMessage)
    (transcript : List Bytes) :
    OnlyReadiness (withProof rt sessionSecret stage transcript payload) :=
  .bind (onlyReadiness_handshakeProof hrt h sessionSecret stage transcript) fun _ _ => by simp

end OnlyReadiness

/-! ## The depth of payloads -/

section Depth

variable {payload mainHello : JsonDict} {message : HandshakeMessage} {name key : String}
    {value : Json}

/-- What a required string is. -/
lemma get?_of_requiredString {text : String} (h : requiredString payload name = .ok text) :
    payload.get? name = some (.str text) := by
  unfold requiredString at h
  split at h
  · rename_i held hheld
    split at h
    · rw [hheld, Except.ok.inj h]
    · cases h
  · cases h

/-- What a required integer is. -/
lemma get?_of_requiredInteger {number : Int} (h : requiredInteger payload name = .ok number) :
    payload.get? name = some (.int number) := by
  unfold requiredInteger at h
  split at h
  · rename_i held hheld
    rw [hheld, Except.ok.inj h]
  · cases h

/-- A payload of the right type has a string for its type, and the fields of the type. -/
lemma requireMessageType_eq_ok (h : requireMessageType payload message = .ok ()) :
    payload.get? "message_type" = some (.str message.messageType) ∧
      (∀ key ∈ payload.keys, key ∈ message.fields) ∧ ∀ key ∈ message.fields,
        key ∈ payload.keys := by
  unfold requireMessageType at h
  split at h
  · rename_i messageType hget
    simp only [demand, bind_eq_ok, require_eq_ok, exists_and_left, exists_const] at h
    obtain ⟨rfl, hunknown, hmissing⟩ := h
    exact ⟨hget, hunknown, hmissing⟩
  · cases h

/-- A payload of the right version has an integer for it. -/
lemma requireHandshakeVersion_eq_ok (h : requireHandshakeVersion payload = .ok ()) :
    payload.get? "handshake_version" = some (.int handshakeVersion) := by
  unfold requireHandshakeVersion at h
  obtain ⟨number, hnumber, hsame⟩ := bind_eq_ok.mp h
  have hversion : number = handshakeVersion := require_eq_ok.mp hsame
  rw [get?_of_requiredInteger hnumber, hversion]

/-- A payload of the shared session has the string of it, and that of the nonce where it is asked
for. -/
lemma requireSharedSessionAndNonce_eq_ok {requireNonce : Bool}
    (h : requireSharedSessionAndNonce payload mainHello requireNonce = .ok ()) :
    (∃ session, requiredString payload "session_id" = .ok session ∧
      requiredString mainHello "session_id" = .ok session) ∧
      (requireNonce = true → ∃ nonce, requiredString payload "nonce" = .ok nonce ∧
        requiredString mainHello "nonce" = .ok nonce) := by
  unfold requireSharedSessionAndNonce at h
  obtain ⟨session, hsession, h⟩ := bind_eq_ok.mp h
  obtain ⟨mainSession, hmain, h⟩ := bind_eq_ok.mp h
  obtain ⟨hsame, hrest⟩ := check_bind_eq_ok.mp h
  obtain rfl : session = mainSession := require_eq_ok.mp hsame
  refine ⟨⟨session, hsession, hmain⟩, ?_⟩
  rintro rfl
  obtain ⟨nonce, hnonce, hrest⟩ := bind_eq_ok.mp hrest
  obtain ⟨mainNonce, hmainNonce, hsame⟩ := bind_eq_ok.mp hrest
  obtain rfl : nonce = mainNonce := require_eq_ok.mp hsame
  exact ⟨nonce, hnonce, hmainNonce⟩

/-- A ready message is one level of strings and integers behind its checks, its proof aside. -/
lemma within_ready (hfields : message.fields = HandshakeMessage.mainReady.fields)
    (hversion : requireHandshakeVersion payload = .ok ())
    (htype : requireMessageType payload message = .ok ())
    (hshared : requireSharedSessionAndNonce payload mainHello false = .ok ()) :
    (Json.obj (payload.erase "proof").members).Within 3 := by
  obtain ⟨hmessage, hknown, -⟩ := requireMessageType_eq_ok htype
  obtain ⟨⟨session, hsession, -⟩, -⟩ := requireSharedSessionAndNonce_eq_ok hshared
  have hid := get?_of_requiredString hsession
  refine JsonDict.within_of_get? fun key value hget => ?_
  obtain ⟨hne, hget⟩ := JsonDict.get?_of_erase hget
  have hkey := hknown key (JsonDict.mem_keys_of_get? hget)
  rw [hfields] at hkey
  simp only [HandshakeMessage.fields, List.mem_cons, List.not_mem_nil, or_false] at hkey
  obtain rfl | rfl | rfl | rfl := hkey
  · obtain rfl := Option.some.inj (hget.symm.trans hmessage)
    trivial
  · obtain rfl := Option.some.inj (hget.symm.trans (requireHandshakeVersion_eq_ok hversion))
    trivial
  · obtain rfl := Option.some.inj (hget.symm.trans hid)
    trivial
  · exact absurd rfl hne

/-- Items that have to be strings are leaves. -/
lemma within_of_requiredStringList {texts : List String}
    (h : requiredStringList value = .ok texts) : value.Within 1 := by
  unfold requiredStringList at h
  split at h
  · rename_i items
    intro item hitem
    obtain ⟨text, -, htext⟩ := mapM_ok_of_mem h hitem
    split at htext
    · trivial
    · cases htext
  · cases h

/-- What `_identity_from_payload` has found out when it succeeds. -/
lemma identityFromPayload_eq_ok {identity : SidecarHandshakeIdentity}
    (h : identityFromPayload payload = .ok identity) :
    (∃ members, payload.get? "protocol" = some (.obj members) ∧ (Json.obj members).Within 2) ∧
      (∃ text, payload.get? "product_build_id" = some (.str text)) ∧
      ∃ text, payload.get? "sidecar_build_id" = some (.str text) := by
  unfold identityFromPayload at h
  obtain ⟨protocol, hprotocol, h⟩ := bind_eq_ok.mp h
  obtain ⟨hknown, h⟩ := check_bind_eq_ok.mp h
  obtain ⟨-, h⟩ := check_bind_eq_ok.mp h
  obtain ⟨capabilities, hcapabilities, h⟩ := bind_eq_ok.mp h
  obtain ⟨-, h⟩ := check_bind_eq_ok.mp h
  obtain ⟨major, hmajor, h⟩ := bind_eq_ok.mp h
  obtain ⟨minMinor, hmin, h⟩ := bind_eq_ok.mp h
  obtain ⟨maxMinor, hmax, h⟩ := bind_eq_ok.mp h
  obtain ⟨-, h⟩ := check_bind_eq_ok.mp h
  obtain ⟨productBuildId, hproduct, h⟩ := bind_eq_ok.mp h
  obtain ⟨sidecarBuildId, hsidecar, h⟩ := bind_eq_ok.mp h
  obtain ⟨protocolId, hid, -⟩ := bind_eq_ok.mp h
  refine ⟨?_, ⟨_, get?_of_requiredString hproduct⟩, ⟨_, get?_of_requiredString hsidecar⟩⟩
  unfold protocolOf at hprotocol
  split at hprotocol
  · rename_i members hget
    obtain rfl := Except.ok.inj hprotocol
    -- The members of a payload are in normal form already.
    have hnormal : Json.NormalMembers members := JsonDict.normal_of_lookup payload.normal hget
    have hmembers : (JsonDict.ofMembers members).members = members :=
      Json.normalizeMembers_of_normal members hnormal
    refine ⟨members, hget, ?_⟩
    rw [← hmembers]
    refine JsonDict.within_of_get? fun key value hvalue => ?_
    have hkey := require_eq_ok.mp hknown key (JsonDict.mem_keys_of_get? hvalue)
    simp only [protocolFields, List.mem_cons, List.not_mem_nil, or_false] at hkey
    obtain rfl | rfl | rfl | rfl | rfl := hkey
    · obtain rfl := Option.some.inj (hvalue.symm.trans (get?_of_requiredString hid))
      trivial
    · obtain rfl := Option.some.inj (hvalue.symm.trans (get?_of_requiredInteger hmajor))
      trivial
    · obtain rfl := Option.some.inj (hvalue.symm.trans (get?_of_requiredInteger hmin))
      trivial
    · obtain rfl := Option.some.inj (hvalue.symm.trans (get?_of_requiredInteger hmax))
      trivial
    · unfold protocolCapabilities at hcapabilities
      rw [hvalue] at hcapabilities
      exact within_of_requiredStringList hcapabilities
  · cases hprotocol

/-- A sidecar hello is three levels behind its checks, its proof aside. -/
lemma within_sidecarHello {identity : SidecarHandshakeIdentity}
    (hversion : requireHandshakeVersion payload = .ok ())
    (htype : requireMessageType payload .sidecarHello = .ok ())
    (hshared : requireSharedSessionAndNonce payload mainHello true = .ok ())
    (hidentity : identityFromPayload payload = .ok identity) :
    (Json.obj (payload.erase "proof").members).Within 3 := by
  obtain ⟨hmessage, hknown, -⟩ := requireMessageType_eq_ok htype
  obtain ⟨⟨session, hsession, -⟩, hnonced⟩ := requireSharedSessionAndNonce_eq_ok hshared
  obtain ⟨nonce, hnonce, -⟩ := hnonced rfl
  obtain ⟨⟨members, hprotocol, hdepth⟩, ⟨product, hproduct⟩, sidecar, hsidecar⟩ :=
    identityFromPayload_eq_ok hidentity
  refine JsonDict.within_of_get? fun key value hget => ?_
  obtain ⟨hne, hget⟩ := JsonDict.get?_of_erase hget
  have hkey := hknown key (JsonDict.mem_keys_of_get? hget)
  simp only [HandshakeMessage.fields, List.mem_cons, List.not_mem_nil, or_false] at hkey
  obtain rfl | rfl | rfl | rfl | rfl | rfl | rfl | rfl := hkey
  · obtain rfl := Option.some.inj (hget.symm.trans hmessage)
    trivial
  · obtain rfl := Option.some.inj (hget.symm.trans (requireHandshakeVersion_eq_ok hversion))
    trivial
  · obtain rfl := Option.some.inj (hget.symm.trans (get?_of_requiredString hsession))
    trivial
  · obtain rfl := Option.some.inj (hget.symm.trans (get?_of_requiredString hnonce))
    trivial
  · obtain rfl := Option.some.inj (hget.symm.trans hproduct)
    trivial
  · obtain rfl := Option.some.inj (hget.symm.trans hsidecar)
    trivial
  · obtain rfl := Option.some.inj (hget.symm.trans hprotocol)
    exact hdepth
  · exact absurd rfl hne

/-- The hello of the main process is one level. -/
lemma within_newMainHello (productBuildId mainApplicationBuildId : String) (draws : HelloDraws) :
    (Json.obj (newMainHello productBuildId mainApplicationBuildId draws).members).Within 3 := by
  have hgiven : (Json.obj
      [("message_type", .str HandshakeMessage.mainHello.messageType),
        ("handshake_version", .int handshakeVersion),
        ("session_id", .str (hexdigest draws.sessionBytes)),
        ("nonce", .str (encodeSecret draws.nonceBytes)),
        ("session_secret", .str (encodeSecret draws.sessionSecret)),
        ("product_build_id", .str productBuildId),
        ("main_application_build_id", .str mainApplicationBuildId)]).Within 3 := by
    simp [Json.Within]
  exact hgiven.normalize

/-- A ready message is one level. -/
lemma within_unsignedReady (message : HandshakeMessage) (sessionId : String) :
    (Json.obj (unsignedReady message sessionId).members).Within 3 := by
  have hgiven : (Json.obj
      [("message_type", .str message.messageType),
        ("handshake_version", .int handshakeVersion),
        ("session_id", .str sessionId)]).Within 3 := by
    simp [Json.Within]
  exact hgiven.normalize

/-- A sidecar hello is three levels. -/
lemma within_unsignedSidecarHello (identity : SidecarHandshakeIdentity) (sessionId nonce : String) :
    (Json.obj (unsignedSidecarHello identity sessionId nonce).members).Within 3 := by
  have hgiven : (Json.obj
      ([("message_type", .str HandshakeMessage.sidecarHello.messageType),
        ("handshake_version", .int handshakeVersion),
        ("session_id", .str sessionId),
        ("nonce", .str nonce)] ++ identity.payload)).Within 3 := by
    simp [SidecarHandshakeIdentity.payload, Json.Within]
  exact hgiven.normalize

/-- A proof makes a payload no deeper. -/
lemma within_of_withProof {rt : HandshakeRuntime} {sessionSecret : Bytes} {stage : HandshakeMessage}
    {transcript : List Bytes} {unsigned : JsonDict}
    (h : withProof rt sessionSecret stage transcript unsigned = .ok payload)
    (hdepth : (Json.obj unsigned.members).Within 3) : (Json.obj payload.members).Within 3 := by
  obtain ⟨proof, -, hpayload⟩ := bind_eq_ok.mp h
  obtain rfl := pure_eq_ok.mp hpayload
  exact JsonDict.within_insert hdepth "proof" trivial

end Depth

/-! ## Operations -/

section Operations

variable {rt : HandshakeRuntime} {op : HandshakeOp} {t : Transport} {e : HandshakeFailure}

/-- A body raises `ValueError` exactly when the scanner reaches an integer of too many digits in
it. -/
theorem loads_valueError {body : Bytes} : rt.loads body = .error .valueError ↔
    ∃ text number, rt.Scans body text ∧ strictLoadsHooks.Reaches text number ∧
      convertible number = false := by
  rw [← InterpreterStack.strictLoads_valueError]
  constructor
  · intro h
    obtain ⟨failure, hfailure, heq⟩ := mapError_eq_error.mp h
    cases failure with
    | strict reason => cases heq
    | valueError => exact hfailure
  · intro h
    exact mapError_eq_error.mpr ⟨.valueError, h, rfl⟩

/-- What else a body raises is a readiness error. -/
lemma isReadiness_of_loads {body : Bytes} (h : rt.loads body = .error e) (he : e ≠ .valueError) :
    e.IsReadiness := by
  obtain ⟨failure, -, rfl⟩ := mapError_eq_error.mp h
  cases failure with
  | strict reason => trivial
  | valueError => exact absurd rfl he

/-- A digest in hexadecimal is ASCII. -/
lemma isAscii_hexdigest (digest : Bytes) : isAscii (hexdigest digest) = true := by
  have hdigits : ∀ value < 16, (hexDigit value).toNat < 128 := by decide
  unfold isAscii hexdigest
  rw [String.toList_ofList, List.all_eq_true]
  intro character hmem
  obtain ⟨byte, -, hbyte⟩ := List.mem_flatMap.mp hmem
  have hbound : byte.toNat < 256 := byte.toNat_lt
  obtain rfl | hlow := List.mem_cons.mp hbyte
  · simpa using hdigits (byte.toNat / 16) (by omega)
  · obtain rfl := List.mem_singleton.mp hlow
    simpa using hdigits (byte.toNat % 16) (by omega)

/-- A computed proof is ASCII. -/
lemma isAscii_of_handshakeProof {sessionSecret : Bytes} {stage : HandshakeMessage}
    {transcript : List Bytes} {payload : JsonDict} {proof : String}
    (h : handshakeProof rt sessionSecret stage transcript payload = .ok proof) :
    isAscii proof = true := by
  obtain ⟨canonical, -, hproof⟩ := bind_eq_ok.mp h
  rw [← pure_eq_ok.mp hproof]
  exact isAscii_hexdigest _

/-- A harmless operation raises readiness errors only. -/
theorem isReadiness_of_harmless (hrt : rt.WritesShallow) (hop : rt.Harmless op)
    (hdepth : ∀ payload sessionSecret stage transcript,
      op = .requireProof payload sessionSecret stage transcript →
        (Json.obj (payload.erase "proof").members).Within 3)
    (he : (rt.exec op t).1 = .error e) : e.IsReadiness := by
  cases op with
  | writeRaw data =>
    simp only [HandshakeRuntime.exec] at he
    split at he <;> cases he
    trivial
  | readHandshake => exact onlyReadiness_readHandshake _ _ e he
  | loads body =>
    refine isReadiness_of_loads he ?_
    rintro rfl
    obtain ⟨text, number, hscans, hreaches, hlong⟩ := loads_valueError.mp he
    exact (nomatch (hop text number hscans hreaches).symm.trans hlong)
  | requireProof payload sessionSecret stage transcript =>
    have hshallow := hdepth payload sessionSecret stage transcript rfl
    refine OnlyReadiness.bind (by simp) (fun received hreceived => ?_) e he
    refine .bind (onlyReadiness_handshakeProof hrt hshallow _ _ _) fun expected hexpected => ?_
    refine .bind ?_ fun same _ => by simp
    unfold compareDigest
    rw [hop received expected hreceived hexpected, isAscii_of_handshakeProof hexpected]
    simp
  | handoffLiveness =>
    refine OnlyReadiness.bind (by simp) (fun _ _ => .bind (by simp) fun _ _ => ?_) e he
    exact .bind (by simp) fun _ _ => .bind (by simp) fun _ _ => by simp
  | cleanBoundary =>
    refine OnlyReadiness.bind (by simp) (fun _ _ => .bind (by simp) fun _ _ => ?_) e he
    exact .bind (by simp) fun _ _ => by simp
  | deriveKeys sessionSecret sessionId transcript =>
    have hascii : isAscii sessionId = true := hop
    simp [HandshakeRuntime.exec, deriveDirectionKeys, hascii] at he

/-- An operation that is not harmless raises an exception of Python. -/
theorem escapes_of_not_harmless (hop : ¬rt.Harmless op) (t : Transport) :
    ∃ e, (rt.exec op t).1 = .error e ∧ ¬e.IsReadiness := by
  cases op with
  | writeRaw data => exact absurd trivial hop
  | readHandshake => exact absurd trivial hop
  | loads body =>
    refine ⟨.valueError, ?_, id⟩
    simp only [HandshakeRuntime.Harmless, not_forall] at hop
    obtain ⟨text, number, hscans, hreaches, hlong⟩ := hop
    exact loads_valueError.mpr ⟨text, number, hscans, hreaches, by simpa using hlong⟩
  | requireProof payload sessionSecret stage transcript =>
    refine ⟨.typeError, ?_, id⟩
    simp only [HandshakeRuntime.Harmless, not_forall] at hop
    obtain ⟨received, expected, hreceived, hexpected, hascii⟩ := hop
    simp only [HandshakeRuntime.exec, requireProof, hreceived, hexpected, compareDigest]
    simp [bind, Except.bind, hascii]
  | handoffLiveness => exact absurd trivial hop
  | cleanBoundary => exact absurd trivial hop
  | deriveKeys sessionSecret sessionId transcript =>
    refine ⟨.unicodeEncodeError, ?_, id⟩
    have hascii : ¬isAscii sessionId = true := hop
    simp only [HandshakeRuntime.exec, deriveDirectionKeys]
    rw [if_neg hascii]

end Operations

/-! ## Courses -/

section Courses

variable {rt : HandshakeRuntime} {role : EndpointRole} {α β : Type}
variable {before : List HandshakeOp}

/-- What a handshake may do behind certain operations: compare proofs over three levels only, and
derive keys behind verified proofs. -/
def HandshakeRuntime.Allowed (rt : HandshakeRuntime) (role : EndpointRole)
    (before : List HandshakeOp) : HandshakeOp → Prop
  | .requireProof payload _ _ _ => (Json.obj (payload.erase "proof").members).Within 3
  | .deriveKeys sessionSecret _ transcript => rt.PeerVerified role before sessionSecret transcript
  | _ => True

/-- A program of a role performs allowed operations, and what it raises itself is a readiness
error. -/
abbrev Contains (rt : HandshakeRuntime) (role : EndpointRole) (before : List HandshakeOp)
    (program : HandshakeM α) : Prop :=
  FollowsHandshake rt (rt.Allowed role) (fun _ => OnlyReadiness) before program

/-- A check, and what follows it. -/
lemma contains_checked {x : Except HandshakeFailure α}
    {next : α → HandshakeM β} (hx : OnlyReadiness x)
    (hnext : ∀ value, x = .ok value → Contains rt role before (next value)) :
    Contains rt role before (checked x >>= next) := by
  refine follows_checked (fun e he => ?_) hnext
  rintro _ ⟨⟩
  exact hx e he

/-- A message of three levels, and what follows it. -/
lemma contains_writeHandshake (hrt : rt.WritesShallow) {payload : JsonDict}
    {next : Bytes → HandshakeM β} (hdepth : (Json.obj payload.members).Within 3)
    (hnext : ∀ body, Contains rt role (before ++ [.writeRaw (lengthPrefix body)]) (next body)) :
    Contains rt role before (writeHandshake rt payload >>= next) := by
  refine follows_writeHandshake (fun e he => ?_) (by simp) (fun _ => trivial) fun body _ =>
    hnext body
  rintro _ ⟨⟩
  exact onlyReadiness_canonicalPayload hrt hdepth e he

/-- A payload that is read, and what follows it. -/
lemma contains_readPayload {next : Bytes × JsonDict → HandshakeM β}
    (hnext : ∀ body payload, rt.loads body = .ok payload →
      requireHandshakeVersion payload = .ok () →
      Contains rt role (before ++ [.readHandshake] ++ [.loads body]) (next (body, payload))) :
    Contains rt role before (readPayload >>= next) := by
  refine follows_readPayload trivial (fun _ => trivial) (fun _ payload e he => ?_) hnext
  rintro _ ⟨⟩
  exact onlyReadiness_requireHandshakeVersion payload e he

/-- A proof of the peer, and what follows it. -/
lemma contains_requireProof {payload : JsonDict} {sessionSecret : Bytes}
    {stage : HandshakeMessage} {transcript : List Bytes} {next : Unit → HandshakeM β}
    (hdepth : (Json.obj (payload.erase "proof").members).Within 3)
    (hnext : (∀ body, rt.loads body = .ok payload → ∀ later,
        rt.Verified (before ++ [.requireProof payload sessionSecret stage transcript] ++ later)
          sessionSecret body stage transcript) →
      Contains rt role (before ++ [.requireProof payload sessionSecret stage transcript])
        (next ())) :
    Contains rt role before
      ((HandshakeOp.requireProof payload sessionSecret stage transcript).perform >>= next) := by
  refine follows_perform hdepth fun _ ⟨⟩ hproof => hnext fun body hbody later => ?_
  obtain ⟨received, hreceived, hproof⟩ := bind_eq_ok.mp hproof
  obtain ⟨expected, hexpected, hproof⟩ := bind_eq_ok.mp hproof
  obtain ⟨same, hcompare, hsame⟩ := bind_eq_ok.mp hproof
  obtain rfl : same = true := require_eq_ok.mp hsame
  unfold compareDigest at hcompare
  split at hcompare
  · obtain rfl : received = expected := by simpa using hcompare
    exact ⟨payload, received, hbody, hreceived, hexpected, by simp⟩
  · cases hcompare

/-- The main process derives its keys behind both proofs of the sidecar. -/
theorem contains_performMainHandshake (hrt : rt.WritesShallow)
    (expectedIdentity : SidecarHandshakeIdentity) (productBuildId mainApplicationBuildId : String)
    (draws : HelloDraws) :
    Contains rt .main []
      (performMainHandshake rt expectedIdentity productBuildId mainApplicationBuildId draws) := by
  refine contains_writeHandshake hrt (within_newMainHello _ _ _) fun mainHelloRaw => ?_
  refine contains_readPayload fun sidecarHelloRaw sidecarHello hhello hversion => ?_
  refine contains_checked (by simp) fun _ htype => ?_
  refine contains_checked (by simp) fun _ hshared => ?_
  refine contains_checked (by simp) fun identity hidentity => ?_
  refine contains_checked (by simp) fun _ _ => ?_
  refine contains_requireProof
    (within_sidecarHello hversion htype hshared hidentity) fun hfirst => ?_
  refine contains_checked (onlyReadiness_withProof hrt (within_unsignedReady _ _) _ _ _)
    fun mainReady hready => ?_
  refine contains_writeHandshake hrt (within_of_withProof hready (within_unsignedReady _ _))
    fun mainReadyRaw => ?_
  refine contains_readPayload fun sidecarReadyRaw sidecarReady hloads hversion => ?_
  refine contains_checked (by simp) fun _ htype => ?_
  refine contains_checked (by simp) fun _ hshared => ?_
  have hfields : HandshakeMessage.sidecarReady.fields = HandshakeMessage.mainReady.fields := rfl
  refine contains_requireProof (within_ready hfields hversion htype hshared) fun hsecond => ?_
  refine follows_perform trivial fun _ _ _ => ?_
  refine contains_checked (by simp) fun sessionId _ => ?_
  refine follows_perform ⟨_, _, _, _, rfl, ?_, ?_⟩ fun _ _ _ => onlyReadiness_ok _
  · simpa using hfirst sidecarHelloRaw hhello _
  · simpa using hsecond sidecarReadyRaw hloads [.handoffLiveness]

/-- The sidecar derives its keys behind the proof of the main process. -/
theorem contains_performSidecarHandshake (hrt : rt.WritesShallow)
    (identity : SidecarHandshakeIdentity) :
    Contains rt .sidecar [] (performSidecarHandshake rt identity) := by
  refine contains_readPayload fun mainHelloRaw mainHello _ _ => ?_
  refine contains_checked (by simp) fun _ _ => ?_
  refine contains_checked (by simp) fun sessionId _ => ?_
  refine contains_checked (by simp) fun nonce _ => ?_
  refine contains_checked (by simp) fun encoded _ => ?_
  refine contains_checked (by simp) fun sessionSecret _ => ?_
  refine contains_checked (by simp) fun productBuildId _ => ?_
  refine contains_checked (by simp) fun _ _ => ?_
  refine contains_checked (by simp) fun mainApplicationBuildId _ => ?_
  refine contains_checked (by simp) fun _ _ => ?_
  refine contains_checked (onlyReadiness_withProof hrt (within_unsignedSidecarHello _ _ _) _ _ _)
    fun sidecarHello hhello => ?_
  refine contains_writeHandshake hrt
    (within_of_withProof hhello (within_unsignedSidecarHello _ _ _))
    fun sidecarHelloRaw => ?_
  refine contains_readPayload fun mainReadyRaw mainReady hloads hversion => ?_
  refine contains_checked (by simp) fun _ htype => ?_
  refine contains_checked (by simp) fun _ hshared => ?_
  refine contains_requireProof (within_ready rfl hversion htype hshared) fun hverified => ?_
  refine contains_checked (onlyReadiness_withProof hrt (within_unsignedReady _ _) _ _ _)
    fun sidecarReady hready => ?_
  refine follows_perform trivial fun _ _ _ => ?_
  refine contains_writeHandshake hrt (within_of_withProof hready (within_unsignedReady _ _))
    fun sidecarReadyRaw => ?_
  refine follows_perform ⟨_, _, _, _, rfl, ?_⟩ fun _ _ _ => onlyReadiness_ok _
  simpa using hverified mainReadyRaw hloads
    [.cleanBoundary, .writeRaw (lengthPrefix sidecarReadyRaw)]

/-- A handshake whose operations are allowed meets its contract exactly if they are harmless. -/
theorem contained_iff_harmless (hrt : rt.WritesShallow) {handshake : HandshakeM HandshakeMaterial}
    (h : Contains rt role [] handshake) (t : Transport) :
    rt.Contained role (handshakeCourse rt handshake t) ↔
      ∀ step ∈ (handshakeCourse rt handshake t).steps, rt.Harmless step.op := by
  have hended : (handshakeCourse rt handshake t).Ended rt.exec .error (recorded (rt.Allowed role))
      (fun _ => OnlyReadiness) [] := h.ended t []
  generalize handshakeCourse rt handshake t = course at hended
  have hallowed : ∀ before op after, course.ops = before ++ op :: after →
      rt.Allowed role before op := by
    intro before op after hops
    cases hended with
    | returned hphases => exact allowed_of_recorded (hops ▸ hphases)
    | raised hphases => exact allowed_of_recorded (hops ▸ hphases)
  constructor
  · rintro ⟨hresult, -⟩ step hstep
    by_contra hharm
    obtain ⟨e, he, hescapes⟩ := escapes_of_not_harmless hharm step.before
    cases hended with
    | returned _ hsteps => exact hsteps step hstep ⟨e, he⟩
    | @raised _ e' steps last _ hlast hearlier hraised herror =>
      rw [hlast] at hstep
      obtain hstep | hstep := List.mem_append.mp hstep
      · exact hearlier step hstep ⟨e, he⟩
      · obtain rfl := List.mem_singleton.mp hstep
        obtain rfl : e = e' := Except.error.inj (he.symm.trans hraised)
        exact hescapes (hresult e herror)
  · intro hharmless
    refine ⟨fun e he => ?_, fun before sessionSecret sessionId transcript after hops =>
      hallowed before _ after hops⟩
    cases hended with
    | returned _ _ hends => exact hends e he
    | @raised _ e' steps last _ hlast _ hraised herror =>
      obtain rfl : e' = e := Except.error.inj (herror.symm.trans he)
      have hops : course.ops = steps.map (·.op) ++ [last.op] := by
        rw [Course.ops, hlast, List.map_append, List.map_singleton]
      refine isReadiness_of_harmless hrt (hharmless last (by simp [hlast])) ?_ hraised
      intro payload sessionSecret stage transcript hop
      have hdepth := hallowed _ _ [] hops
      rw [hop] at hdepth
      exact hdepth

/-- Both handshakes meet their contract, whatever the peer sends and whenever the transport fails,
exactly if none of the operations that they come to raises an exception of Python. -/
theorem handshake_contained_iff (hrt : rt.WritesShallow) (identity : SidecarHandshakeIdentity)
    (productBuildId mainApplicationBuildId : String) (draws : HelloDraws) (t : Transport) :
    (rt.Contained .main (handshakeCourse rt
        (performMainHandshake rt identity productBuildId mainApplicationBuildId draws) t) ↔
      ∀ step ∈ (handshakeCourse rt
        (performMainHandshake rt identity productBuildId mainApplicationBuildId draws) t).steps,
        rt.Harmless step.op) ∧
    (rt.Contained .sidecar (handshakeCourse rt (performSidecarHandshake rt identity) t) ↔
      ∀ step ∈ (handshakeCourse rt (performSidecarHandshake rt identity) t).steps,
        rt.Harmless step.op) :=
  ⟨contained_iff_harmless hrt (contains_performMainHandshake hrt _ _ _ _) t,
    contained_iff_harmless hrt (contains_performSidecarHandshake hrt _) t⟩

end Courses

/-! ## A proof beyond ASCII -/

/-- The reference runtime, with stack enough. -/
def handshakeReference : HandshakeRuntime where
  toWireRuntime := referenceRuntime
  scannerRecurses _ := false
  validatorRecurses _ := false

/-- The reference writer never runs out of stack. -/
lemma writesShallow_reference : handshakeReference.WritesShallow := by
  intro payload _ h
  have hwritten : referenceRuntime.canonicalJsonBytes payload = .error .recursion := h
  unfold referenceRuntime at hwritten
  dsimp only at hwritten
  split at hwritten <;> cases hwritten

/-- A sidecar. -/
def handshakeIdentity : SidecarHandshakeIdentity where
  productBuildId := "product"
  sidecarBuildId := "sidecar"
  protocolId := "protocol"
  protocolMajor := 1
  protocolMinMinor := 0
  protocolMaxMinor := 0
  protocolCapabilities := []
  expectedMainApplicationBuildId := "main"

/-- Draws of zeros. -/
def zeroDraws : HelloDraws where
  sessionSecret := List.replicate 32 0
  sessionBytes := List.replicate 16 0
  nonceBytes := List.replicate 32 0
  secret_length := rfl
  session_length := rfl
  nonce_length := rfl

/-- The answer to the hello of these draws, with the letter "é" for its proof. -/
def accentedHello : Bytes :=
  ["\x7b\"handshake_version\":1,", "\"message_type\":", "\"sidecar_hello\",",
    "\"nonce\":\"AAAAAAAAAAAA", "AAAAAAAAAAAAAAAAAAAA", "AAAAAAAAAAA=\",",
    "\"product_build_id\":", "\"product\",\"proof\":\"é\",", "\"protocol\":\x7b",
    "\"capabilities\":[],", "\"major\":1,\"max_minor\":0,", "\"min_minor\":0,",
    "\"protocol_id\":\"protocol\"\x7d,", "\"session_id\":\"000000000",
    "00000000000000000000000\",", "\"sidecar_build_id\":", "\"sidecar\"\x7d"].flatMap encodeUtf8

/-- A boundary at which nothing is seen. -/
def quietSight : BoundarySight where
  exitedBefore := false
  timedOut := false
  ended := false
  failed := false
  pending := false
  exitedAfter := false

/-- The transport of a main process whose peer sends that answer. -/
def accentedTransport : Transport where
  buffer := []
  arrivals := [.chunk (lengthPrefix accentedHello)]
  writes := []
  sight := quietSight

/-- The comparison of the proof raises `TypeError`. -/
lemma accented_result : (handshakeCourse handshakeReference
    (performMainHandshake handshakeReference handshakeIdentity "product" "main" zeroDraws)
    accentedTransport).result = .error .typeError := by
  decide +kernel

/-- So the main process does not contain it. -/
theorem accented_escapes : ¬handshakeReference.Contained .main (handshakeCourse handshakeReference
    (performMainHandshake handshakeReference handshakeIdentity "product" "main" zeroDraws)
    accentedTransport) :=
  fun h => h.1 _ accented_result

/-- Both contracts against that peer: the main process reads a hello whose proof is not of its
alphabet, and the sidecar a hello that is not of a main process. -/
theorem handshake_contained_sample :
    (handshakeReference.Contained .main (handshakeCourse handshakeReference
        (performMainHandshake handshakeReference handshakeIdentity "product" "main" zeroDraws)
        accentedTransport) ↔
      ∀ step ∈ (handshakeCourse handshakeReference
        (performMainHandshake handshakeReference handshakeIdentity "product" "main" zeroDraws)
        accentedTransport).steps, handshakeReference.Harmless step.op) ∧
    (handshakeReference.Contained .sidecar (handshakeCourse handshakeReference
        (performSidecarHandshake handshakeReference handshakeIdentity)
        accentedTransport) ↔
      ∀ step ∈ (handshakeCourse handshakeReference
        (performSidecarHandshake handshakeReference handshakeIdentity)
        accentedTransport).steps, handshakeReference.Harmless step.op) :=
  handshake_contained_iff writesShallow_reference _ _ _ _ _

end SeekTalent.SourcePort
