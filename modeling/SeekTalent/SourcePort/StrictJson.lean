import SeekTalent.Foundation.JsonText
import SeekTalent.SourcePort.WirePrimitives
import Mathlib.Algebra.Order.Monoid.Unbundled.Pow

/-!
# Strict JSON objects

The two readers of wire bodies, `strict_canonical_json_object` (`authenticated_frame_core.py`) and
`strict_json_object_loads` (`strict_json.py`), each `json.loads` with its own hooks.  The first
counts the digits of an integer before it converts it; the second one has the limit of `int`.

The writer of canonical text is a third-party package (`rfc8785`), so it is a function of
`WireRuntime`, together with HMAC and SHA-256.
-/

namespace SeekTalent.SourcePort

open Foundation

/-- An integer the wire admits: in the JSON-safe range. -/
def isJsonSafe (value : Int) : Bool :=
  -jsonSafeInteger ≤ value && value ≤ jsonSafeInteger

/-- Why `canonical_json_bytes` fails. -/
inductive CanonicalJsonFailure where
  | invalid
  | recursion
  deriving DecidableEq

/-- The functions of the wire that are not part of the repository. -/
structure WireRuntime where
  /-- `canonical_json_bytes` on a dictionary, which calls `rfc8785.dumps`. -/
  canonicalJsonBytes : JsonDict → Except CanonicalJsonFailure Bytes
  /-- `hmac.new(key, message, sha256).digest()`. -/
  hmacSha256 : Bytes → Bytes → Bytes
  /-- `sha256(message).digest()`. -/
  sha256 : Bytes → Bytes

/-- A digit of `bytes.hex()`. -/
def hexDigit (value : Nat) : Char :=
  if value < 10 then Char.ofNat (48 + value) else Char.ofNat (87 + value)

/-- `digest.hex()`. -/
def hexdigest (digest : Bytes) : String :=
  String.ofList
    (digest.flatMap (fun byte => [hexDigit (byte.toNat / 16), hexDigit (byte.toNat % 16)]))

/-- A digest of 32 bytes is written as a SHA-256 digest is. -/
lemma isSha256_hexdigest {digest : Bytes} (h : digest.length = 32) :
    isSha256 (hexdigest digest) = true := by
  have hdigits : ∀ value < 16, isHexDigit (hexDigit value) = true := by decide
  have hlength : ∀ bytes : Bytes, (bytes.flatMap (fun byte =>
      [hexDigit (byte.toNat / 16), hexDigit (byte.toNat % 16)])).length = 2 * bytes.length := by
    intro bytes
    induction bytes with
    | nil => rfl
    | cons byte rest ih =>
      rw [List.flatMap_cons, List.length_append, ih]
      simp only [List.length_cons, List.length_nil]
      omega
  have hall : ∀ character ∈ digest.flatMap (fun byte =>
      [hexDigit (byte.toNat / 16), hexDigit (byte.toNat % 16)]), isHexDigit character = true := by
    intro character hmem
    obtain ⟨byte, -, hbyte⟩ := List.mem_flatMap.mp hmem
    have hbound : byte.toNat < 256 := byte.toNat_lt
    rcases List.mem_cons.mp hbyte with rfl | hlow
    · exact hdigits _ (by omega)
    · obtain rfl := List.mem_singleton.mp hlow
      exact hdigits _ (by omega)
  unfold isSha256 hexdigest
  rw [String.toList_ofList, hlength, h, List.all_eq_true.mpr hall]
  rfl

/-- `value.to_bytes(width, "big")`. -/
def toBytesBig : Nat → Nat → Bytes
  | 0, _ => []
  | width + 1, value => toBytesBig width (value / 256) ++ [UInt8.ofNat (value % 256)]

/-- `int.from_bytes(value, "big")`. -/
def fromBytesBig (value : Bytes) : Nat :=
  value.foldl (fun number byte => number * 256 + byte.toNat) 0

/-- `length_prefix(value)`. -/
def lengthPrefix (value : Bytes) : Bytes :=
  toBytesBig 4 value.length ++ value

@[simp] theorem length_toBytesBig (width value : Nat) :
    (toBytesBig width value).length = width := by
  induction width generalizing value with
  | zero => rfl
  | succ width ih => simp [toBytesBig, ih]

/-- Reading a number that fits back from its bytes. -/
theorem fromBytesBig_toBytesBig {width value : Nat} (h : value < 256 ^ width) :
    fromBytesBig (toBytesBig width value) = value := by
  induction width generalizing value with
  | zero =>
    have hzero : value = 0 := by simpa using h
    rw [hzero]
    rfl
  | succ width ih =>
    have hhigh : value / 256 < 256 ^ width := by
      rw [Nat.div_lt_iff_lt_mul (by decide)]
      rwa [pow_succ] at h
    have hrest := ih hhigh
    unfold fromBytesBig at hrest ⊢
    rw [toBytesBig, List.foldl_append, hrest]
    have hbyte : (UInt8.ofNat (value % 256)).toNat = value % 256 := by
      rw [UInt8.toNat_ofNat']
      omega
    rw [List.foldl_cons, List.foldl_nil, hbyte]
    omega

/-- Numbers that fit are told apart by their bytes. -/
theorem toBytesBig_inj {width a b : Nat} (ha : a < 256 ^ width) (hb : b < 256 ^ width)
    (h : toBytesBig width a = toBytesBig width b) : a = b := by
  rw [← fromBytesBig_toBytesBig ha, h, fromBytesBig_toBytesBig hb]

/-! ## The reader of frames -/

/-- `parse_integer` of `strict_canonical_json_object`. -/
def parseFrameInteger (text : List Nat) : Except String Int :=
  if text = [45, 48] then .error "source_port_illegal_number"
  else if 16 < (text.filter isDecimalDigit).length then .error "source_port_illegal_number"
  else if isJsonSafe (decimalValue text) then .ok (decimalValue text)
  else .error "source_port_illegal_number"

/-- The hooks of `strict_canonical_json_object`. -/
def frameHooks : JsonHooks String where
  parseInteger := parseFrameInteger
  illegalNumber := "source_port_illegal_number"
  duplicateKey := "source_port_duplicate_key"
  invalidJson := "source_port_invalid_json"

/-- `strict_canonical_json_object`: exactly one JSON object in its canonical bytes. -/
def strictCanonicalJsonObject (rt : WireRuntime) (body : Bytes) : Except String JsonDict :=
  match decodeUtf8 body with
  | none => .error "source_port_invalid_utf8"
  | some text =>
    if text.head? = some 0xfeff then .error "source_port_bom_forbidden"
    else
      match jsonLoads frameHooks text with
      | .error reason => .error reason
      | .ok (.obj members) =>
        match membersToJson members with
        | none => .error "source_port_invalid_unicode"
        | some decoded =>
          let payload := JsonDict.ofMembers decoded
          match rt.canonicalJsonBytes payload with
          | .error .recursion => .error "source_port_invalid_json"
          | .error .invalid => .error "source_port_invalid_unicode"
          | .ok canonical =>
            if canonical = body then .ok payload else .error "source_port_non_canonical_body"
      | .ok _ => .error "source_port_root_not_object"

/-- An accepted body is the canonical text of the object read from it. -/
theorem canonicalJsonBytes_of_strict {rt : WireRuntime} {body : Bytes} {payload : JsonDict}
    (h : strictCanonicalJsonObject rt body = .ok payload) :
    rt.canonicalJsonBytes payload = .ok body := by
  unfold strictCanonicalJsonObject at h
  cases htext : decodeUtf8 body with
  | none => simp [htext] at h
  | some text =>
    simp only [htext] at h
    by_cases hmark : text.head? = some 0xfeff
    · simp [hmark] at h
    · rw [if_neg hmark] at h
      split at h
      · cases h
      · split at h
        · cases h
        · split at h
          · cases h
          · cases h
          · rename_i canonical hcanonical
            by_cases hsame : canonical = body
            · rw [if_pos hsame] at h
              cases h
              rw [hcanonical, hsame]
            · rw [if_neg hsame] at h
              cases h
      · cases h

/-! ## The reader of handshakes -/

/-- `StrictJsonReason`. -/
inductive StrictJsonReason where
  | invalidUtf8
  | invalidJson
  | duplicateKey
  | illegalNumber
  | invalidUnicode
  | rootNotObject
  deriving DecidableEq

/-- What `strict_json_object_loads` raises. -/
inductive StrictLoadsFailure where
  | strict (reason : StrictJsonReason)
  | valueError
  deriving DecidableEq

/-- When the interpreter runs out of stack: in `json.loads`, and in `_validate_json_value` before it
finds a surrogate. -/
structure InterpreterStack where
  scannerRecurses : List Nat → Bool
  validatorRecurses : List (List Nat × JsonText) → Bool

/-- `sys.int_info.default_max_str_digits`. -/
def maxStrDigits : Nat := 4300

/-- The integers that `int` converts. -/
def convertible (text : List Nat) : Bool :=
  (text.filter isDecimalDigit).length ≤ maxStrDigits

/-- `parse_integer` of `strict_json_object_loads`, with the limit of `int`. -/
def parseConvertibleInteger (text : List Nat) : Except StrictLoadsFailure Int :=
  if text = [45, 48] then .error (.strict .illegalNumber)
  else if convertible text then
    if isJsonSafe (decimalValue text) then .ok (decimalValue text)
    else .error (.strict .illegalNumber)
  else .error .valueError

/-- The hooks of `strict_json_object_loads`. -/
def strictLoadsHooks : JsonHooks StrictLoadsFailure where
  parseInteger := parseConvertibleInteger
  illegalNumber := .strict .illegalNumber
  duplicateKey := .strict .duplicateKey
  invalidJson := .strict .invalidJson

/-- `strict_json_object_loads`. -/
def InterpreterStack.strictLoads (stack : InterpreterStack) (raw : Bytes) :
    Except StrictLoadsFailure JsonDict :=
  match decodeUtf8 raw with
  | none => .error (.strict .invalidUtf8)
  | some text =>
    if text.head? = some 0xfeff then .error (.strict .invalidUtf8)
    else if stack.scannerRecurses text then .error (.strict .invalidJson)
    else
      match jsonLoads strictLoadsHooks text with
      | .error e => .error e
      | .ok (.obj members) =>
        if stack.validatorRecurses members then .error (.strict .invalidJson)
        else
          match membersToJson members with
          | none => .error (.strict .invalidUnicode)
          | some decoded => .ok (JsonDict.ofMembers decoded)
      | .ok _ => .error (.strict .rootNotObject)

end SeekTalent.SourcePort
