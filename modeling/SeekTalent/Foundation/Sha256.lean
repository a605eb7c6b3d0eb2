import Mathlib.Algebra.Group.Nat.Defs
import Mathlib.Data.List.Basic

/-!
# SHA-256 and HMAC

The hash function on lists of bytes and the keyed hash over it.  Nothing is proved of them but the
length of a digest; they are here so that a protocol that is parametric in its hash functions can be
run.
-/

namespace Foundation

/-- The round constants. -/
def sha256Constants : List UInt32 := [
  0x428a2f98, 0x71374491, 0xb5c0fbcf, 0xe9b5dba5, 0x3956c25b, 0x59f111f1, 0x923f82a4, 0xab1c5ed5,
  0xd807aa98, 0x12835b01, 0x243185be, 0x550c7dc3, 0x72be5d74, 0x80deb1fe, 0x9bdc06a7, 0xc19bf174,
  0xe49b69c1, 0xefbe4786, 0x0fc19dc6, 0x240ca1cc, 0x2de92c6f, 0x4a7484aa, 0x5cb0a9dc, 0x76f988da,
  0x983e5152, 0xa831c66d, 0xb00327c8, 0xbf597fc7, 0xc6e00bf3, 0xd5a79147, 0x06ca6351, 0x14292967,
  0x27b70a85, 0x2e1b2138, 0x4d2c6dfc, 0x53380d13, 0x650a7354, 0x766a0abb, 0x81c2c92e, 0x92722c85,
  0xa2bfe8a1, 0xa81a664b, 0xc24b8b70, 0xc76c51a3, 0xd192e819, 0xd6990624, 0xf40e3585, 0x106aa070,
  0x19a4c116, 0x1e376c08, 0x2748774c, 0x34b0bcb5, 0x391c0cb3, 0x4ed8aa4a, 0x5b9cca4f, 0x682e6ff3,
  0x748f82ee, 0x78a5636f, 0x84c87814, 0x8cc70208, 0x90befffa, 0xa4506ceb, 0xbef9a3f7, 0xc67178f2]

/-- The chaining value: eight words. -/
structure Sha256State where
  a : UInt32
  b : UInt32
  c : UInt32
  d : UInt32
  e : UInt32
  f : UInt32
  g : UInt32
  h : UInt32

/-- The initial chaining value. -/
def Sha256State.initial : Sha256State where
  a := 0x6a09e667
  b := 0xbb67ae85
  c := 0x3c6ef372
  d := 0xa54ff53a
  e := 0x510e527f
  f := 0x9b05688c
  g := 0x1f83d9ab
  h := 0x5be0cd19

/-- Rotation to the right. -/
def rotateRight (word : UInt32) (count : UInt32) : UInt32 :=
  (word >>> count) ||| (word <<< (32 - count))

/-- A word of four bytes, the highest first. -/
def wordOfBytes : List UInt8 → List UInt32
  | a :: b :: c :: d :: rest =>
    ((a.toUInt32 <<< 24) ||| (b.toUInt32 <<< 16) ||| (c.toUInt32 <<< 8) ||| d.toUInt32) ::
      wordOfBytes rest
  | _ => []

/-- The bytes of a word, the highest first. -/
def bytesOfWord (word : UInt32) : List UInt8 :=
  [(word >>> 24).toUInt8, (word >>> 16).toUInt8, (word >>> 8).toUInt8, word.toUInt8]

/-- The next words of the message schedule, from the last sixteen (the newest first). -/
def extendSchedule : Nat → List UInt32 → List UInt32
  | 0, schedule => schedule
  | rounds + 1, schedule =>
    let back (count : Nat) : UInt32 := schedule.getD (count - 1) 0
    let low := back 15
    let high := back 2
    let sigma0 := rotateRight low 7 ^^^ rotateRight low 18 ^^^ (low >>> 3)
    let sigma1 := rotateRight high 17 ^^^ rotateRight high 19 ^^^ (high >>> 10)
    extendSchedule rounds ((back 16 + sigma0 + back 7 + sigma1) :: schedule)

/-- One round. -/
def Sha256State.round (s : Sha256State) (constant word : UInt32) : Sha256State :=
  let sum1 := rotateRight s.e 6 ^^^ rotateRight s.e 11 ^^^ rotateRight s.e 25
  let choice := (s.e &&& s.f) ^^^ ((~~~ s.e) &&& s.g)
  let temp1 := s.h + sum1 + choice + constant + word
  let sum0 := rotateRight s.a 2 ^^^ rotateRight s.a 13 ^^^ rotateRight s.a 22
  let majority := (s.a &&& s.b) ^^^ (s.a &&& s.c) ^^^ (s.b &&& s.c)
  { a := temp1 + (sum0 + majority)
    b := s.a
    c := s.b
    d := s.c
    e := s.d + temp1
    f := s.e
    g := s.f
    h := s.g }

/-- One block of sixty-four bytes. -/
def Sha256State.block (s : Sha256State) (bytes : List UInt8) : Sha256State :=
  let schedule := (extendSchedule 48 (wordOfBytes bytes).reverse).reverse
  let t := (sha256Constants.zip schedule).foldl (fun state pair => state.round pair.1 pair.2) s
  { a := s.a + t.a
    b := s.b + t.b
    c := s.c + t.c
    d := s.d + t.d
    e := s.e + t.e
    f := s.f + t.f
    g := s.g + t.g
    h := s.h + t.h }

/-- The padded message: a set bit, zeros up to a whole block, and the length in bits. -/
def padMessage (message : List UInt8) : List UInt8 :=
  let zeros := (119 - message.length % 64) % 64
  let bits := 8 * message.length
  message ++ 0x80 :: List.replicate zeros 0 ++
    ((List.range 8).map (fun index => UInt8.ofNat (bits / 256 ^ (7 - index))))

/-- The blocks of a padded message. -/
def Sha256State.blocks : Nat → Sha256State → List UInt8 → Sha256State
  | 0, s, _ => s
  | count + 1, s, bytes => Sha256State.blocks count (s.block (bytes.take 64)) (bytes.drop 64)

/-- The digest of a chaining value. -/
def Sha256State.digest (s : Sha256State) : List UInt8 :=
  [s.a, s.b, s.c, s.d, s.e, s.f, s.g, s.h].flatMap bytesOfWord

/-- SHA-256. -/
def sha256 (message : List UInt8) : List UInt8 :=
  let padded := padMessage message
  (Sha256State.blocks (padded.length / 64) .initial padded).digest

/-- HMAC-SHA256. -/
def hmacSha256 (key message : List UInt8) : List UInt8 :=
  let short := if 64 < key.length then sha256 key else key
  let block := short ++ List.replicate (64 - short.length) 0
  sha256 (block.map (· ^^^ 0x5c) ++ sha256 (block.map (· ^^^ 0x36) ++ message))

/-- A digest has thirty-two bytes. -/
@[simp] lemma length_sha256 (message : List UInt8) : (sha256 message).length = 32 := rfl

/-- A keyed digest has thirty-two bytes. -/
@[simp] lemma length_hmacSha256 (key message : List UInt8) : (hmacSha256 key message).length = 32 :=
    rfl

end Foundation
