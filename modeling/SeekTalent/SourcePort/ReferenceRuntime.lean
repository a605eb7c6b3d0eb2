import SeekTalent.Foundation.JsonRoundTrip
import SeekTalent.Foundation.Sha256
import SeekTalent.SourcePort.StrictJson

/-!
# A runtime of the wire

A writer of canonical JSON that agrees with `rfc8785` on dictionaries without floating-point numbers
and with keys of the basic plane, and HMAC-SHA256.  Both strict readers read its texts back, so what
a protocol assumes of its packages can be met.
-/

namespace SeekTalent.SourcePort

open Foundation

variable {d : JsonDict} {body : Bytes}

/-- A runtime that can be run. -/
def referenceRuntime : WireRuntime where
  canonicalJsonBytes d :=
    match writeValue (.obj d.members) with
    | some text => .ok (text.flatMap encodePoint)
    | none => .error .invalid
  hmacSha256 := hmacSha256
  sha256 := sha256

/-- What canonical bytes are. -/
lemma referenceRuntime_eq_ok :
    referenceRuntime.canonicalJsonBytes d = .ok body ↔
      ∃ text, writeValue (.obj d.members) = some text ∧ body = text.flatMap encodePoint := by
  unfold referenceRuntime
  dsimp only
  cases writeValue (.obj d.members) with
  | none => simp
  | some text => simp [eq_comm]

/-! ## Integers -/

/-- Reading the text of an integer back. -/
lemma decimalValue_writeInteger (value : Int) : decimalValue (writeInteger value) = value := by
  have hfold := foldl_decimalDigits value.natAbs
  unfold writeInteger
  by_cases hneg : value < 0
  · rw [if_pos hneg, decimalValue, hfold]
    omega
  · rw [if_neg hneg, decimalValue.eq_def]
    split
    · rename_i digits hdigits
      -- No digit is a minus sign.
      have hminus : isDecimalDigit 45 = true := isDecimalDigit_of_mem (hdigits ▸ List.mem_cons_self)
      cases hminus
    · rw [hfold]
      omega

/-- No integer is written as a negative zero. -/
lemma writeInteger_ne_negativeZero (value : Int) : writeInteger value ≠ [45, 48] := by
  intro h
  have hvalue := decimalValue_writeInteger value
  rw [h] at hvalue
  obtain rfl : value = 0 := hvalue.symm
  exact absurd h (by decide)

/-- A safe integer has at most sixteen digits. -/
lemma length_filter_writeInteger {value : Int} (hlow : -maxSafeInteger ≤ value)
    (hhigh : value ≤ maxSafeInteger) :
    ((writeInteger value).filter isDecimalDigit).length ≤ 16 := by
  have hdigits : (decimalDigits value.natAbs).length ≤ 16 := by
    refine length_decimalDigits_le (by decide) ?_
    unfold maxSafeInteger at hlow hhigh
    omega
  have hfilter := List.length_filter_le isDecimalDigit (decimalDigits value.natAbs)
  unfold writeInteger
  by_cases hneg : value < 0
  · have hminus : ¬ isDecimalDigit 45 = true := by decide
    rw [if_pos hneg, List.filter_cons_of_neg hminus]
    omega
  · rw [if_neg hneg]
    omega

/-- A safe integer of the writer is one of the wire. -/
lemma isJsonSafe_of_bounds {value : Int} (hlow : -maxSafeInteger ≤ value)
    (hhigh : value ≤ maxSafeInteger) : isJsonSafe value = true := by
  simp only [isJsonSafe, Bool.and_eq_true, decide_eq_true_eq]
  exact ⟨hlow, hhigh⟩

/-- The reader of frames reads integers. -/
lemma readsIntegers_frameHooks : frameHooks.ReadsIntegers := by
  intro value hlow hhigh
  have hdigits := length_filter_writeInteger hlow hhigh
  show parseFrameInteger (writeInteger value) = .ok value
  rw [parseFrameInteger, if_neg (writeInteger_ne_negativeZero value), if_neg (by omega),
    decimalValue_writeInteger, if_pos (isJsonSafe_of_bounds hlow hhigh)]

/-! ## Dictionaries -/

/-- What a canonical text of a dictionary decodes to. -/
lemma decode_reference {text : List Nat} (h : writeValue (.obj d.members) = some text) :
    decodeUtf8 (text.flatMap encodePoint) = some text ∧ text.head? ≠ some 0xfeff ∧
      membersToJson (scannedMembers d.members) = some d.members ∧
      JsonDict.ofMembers d.members = d := by
  refine ⟨decodeUtf8_encode (isScalar_write _ text h), ?_, ?_, ?_⟩
  · rw [writeValue, Option.map_eq_some_iff] at h
    obtain ⟨texts, -, rfl⟩ := h
    simp
  · have hfree : (Json.obj d.members).FloatFree := floatFree_of_write _ text h
    exact membersToJson_scanned d.members hfree
  · ext1
    exact Json.normalizeMembers_of_normal d.members d.normal

/-- The reader of frames reads a canonical text back. -/
theorem strictCanonicalJsonObject_reference (h : referenceRuntime.canonicalJsonBytes d = .ok body) :
    strictCanonicalJsonObject referenceRuntime body = .ok d := by
  obtain ⟨text, htext, rfl⟩ := referenceRuntime_eq_ok.mp h
  obtain ⟨hdecode, hmark, hmembers, hdict⟩ := decode_reference htext
  unfold strictCanonicalJsonObject
  rw [hdecode]
  dsimp only
  rw [if_neg hmark, jsonLoads_write readsIntegers_frameHooks
    (Json.distinctMembers_of_normal _ d.normal) htext]
  dsimp only
  rw [hmembers]
  dsimp only
  rw [hdict, h]
  exact if_pos rfl

/-- A dictionary that can be written is written, within four times its bound. -/
theorem exists_reference (h : WritableMembers d.members) :
    ∃ body, referenceRuntime.canonicalJsonBytes d = .ok body ∧
      body.length ≤ 4 * (writeBoundMembers d.members + 2) := by
  obtain ⟨text, htext, hlength⟩ := exists_write (.obj d.members) h
  have hbytes := length_flatMap_encodePoint_le text
  refine ⟨_, referenceRuntime_eq_ok.mpr ⟨text, htext, rfl⟩, ?_⟩
  rw [writeBound] at hlength
  omega

/-! ## Tags -/

/-- A code point that has no escape. -/
lemma escapePoint_plain {point : Nat} (hquote : point ≠ 34) (hescape : point ≠ 92)
    (hprint : 32 ≤ point) : escapePoint point = [point] := by
  unfold escapePoint
  split_ifs <;> first
    | omega
    | rfl

/-- The text of a digest has one byte for each digit. -/
lemma length_encode_sha256 {tag : String} (h : isSha256 tag = true) :
    ((writeString (pointsOf tag)).flatMap encodePoint).length = 65 := by
  simp only [isSha256, Bool.and_eq_true, beq_iff_eq, List.all_eq_true] at h
  obtain ⟨hlength, hdigits⟩ := h
  have hone : ∀ digits : List Char, (∀ digit ∈ digits, isHexDigit digit = true) →
      (((digits.map Char.toNat).flatMap escapePoint).flatMap encodePoint).length =
        digits.length := by
    intro digits hdigits
    induction digits with
    | nil => rfl
    | cons digit rest ih =>
      have hdigit := hdigits digit List.mem_cons_self
      simp only [isHexDigit, Bool.or_eq_true, Bool.and_eq_true, decide_eq_true_eq] at hdigit
      have hplain : escapePoint digit.toNat = [digit.toNat] :=
        escapePoint_plain (by omega) (by omega) (by omega)
      have hbyte : (encodePoint digit.toNat).length = 1 := by
        rw [encodePoint, if_pos (by omega)]
        rfl
      rw [List.map_cons, List.flatMap_cons, List.flatMap_append, hplain, List.flatMap_singleton,
        List.length_append, hbyte,
        ih fun other hother => hdigits other (List.mem_cons_of_mem _ hother), List.length_cons]
      omega
  rw [writeString, List.flatMap_append, List.length_append, pointsOf, hone _ hdigits, hlength]
  rfl

/-- The keys of a dictionary that was written down. -/
lemma exists_of_mem_normalizeMembers {members : List (String × Json)} {member : String × Json}
    (h : member ∈ Json.normalizeMembers members) : ∃ given ∈ members, given.1 = member.1 := by
  induction members with
  | nil => cases h
  | cons head rest ih =>
    obtain ⟨key, value⟩ := head
    rw [Json.normalizeMembers] at h
    rcases Json.mem_putMember h with rfl | hrest
    · exact ⟨(key, value), List.mem_cons_self, rfl⟩
    · obtain ⟨given, hgiven, hkey⟩ := ih hrest
      exact ⟨given, List.mem_cons_of_mem _ hgiven, hkey⟩

/-- Canonical texts that differ in the digest under a first key have the same length. -/
theorem length_insert_sha256 {key tag other : String} {text : Bytes}
    (hbelow : ∀ member ∈ d.members, key < member.1) (htag : isSha256 tag = true)
    (hother : isSha256 other = true)
    (hbody : referenceRuntime.canonicalJsonBytes (d.insert key (.str tag)) = .ok body)
    (htext : referenceRuntime.canonicalJsonBytes (d.insert key (.str other)) = .ok text) :
    body.length = text.length := by
  have hfirst : ∀ {digest : String} {bytes : Bytes}, isSha256 digest = true →
      referenceRuntime.canonicalJsonBytes (d.insert key (.str digest)) = .ok bytes →
      ∃ texts, writeMembers d.members = some texts ∧ bytes.length =
        ((123 :: 34 :: (writeString (pointsOf key) ++ [58, 34])).flatMap encodePoint).length + 65 +
          ((if texts = [] then [125] else 44 :: joinTexts 125 texts).flatMap
            encodePoint).length := by
    intro digest bytes hdigest hbytes
    obtain ⟨text, hwritten, rfl⟩ := referenceRuntime_eq_ok.mp hbytes
    have hmembers : (d.insert key (.str digest)).members = (key, .str digest) :: d.members :=
      Json.putMember_of_below hbelow
    rw [hmembers, writeValue, Option.map_eq_some_iff] at hwritten
    obtain ⟨joined, hjoined, rfl⟩ := hwritten
    obtain ⟨value, texts, hvalue, htexts, rfl⟩ := writeMembers_cons hjoined
    rw [writeValue] at hvalue
    cases hvalue
    have hsha := length_encode_sha256 hdigest
    refine ⟨texts, htexts, ?_⟩
    rw [joinTexts_cons]
    simp only [List.cons_append, List.append_assoc, List.flatMap_cons, List.flatMap_append,
      List.length_append, hsha, List.flatMap_nil, List.length_nil]
    omega
  obtain ⟨texts, htexts, hlength⟩ := hfirst htag hbody
  obtain ⟨more, hmore, hsame⟩ := hfirst hother htext
  rw [htexts] at hmore
  cases hmore
  omega

end SeekTalent.SourcePort
