import Mathlib.Data.List.Basic
import Mathlib.Data.List.DropRight

/-!
# Strict source-port scalars

The scalar types that every field of a journal fact is validated against (`wire_primitives.py`):
bounded opaque text, lowercase SHA-256 digests and JSON-safe integers.  A scalar check is a `Bool`
valued predicate, as a field of a strict model either validates or does not.

`PythonRuntime` collects the two functions of the Python standard library whose tables are not part
of the repository: full Unicode case folding and SHA-256.  Every result of the development holds for
each value of them.
-/

namespace SeekTalent

/-- A `bytes` value. -/
abbrev Bytes := List UInt8

/-- Standard-library functions the journal code calls. -/
structure PythonRuntime where
  /-- `str.casefold`. -/
  casefold : String → String
  /-- `sha256(value).hexdigest()`. -/
  sha256Hexdigest : Bytes → String

namespace SourcePort

/-- `2**53 - 1`. -/
def jsonSafeInteger : Int := 9007199254740991

/-- `2**63 - 1`. -/
def sqliteMaxInteger : Int := 9223372036854775807

/-- `PositiveJsonInteger`: a strict integer between one and the JSON-safe bound. -/
def positiveJsonInteger (value : Int) : Bool :=
  1 ≤ value && value ≤ jsonSafeInteger

/-- `NonNegativeJsonInteger`: a strict integer between zero and the JSON-safe bound. -/
def nonNegativeJsonInteger (value : Int) : Bool :=
  0 ≤ value && value ≤ jsonSafeInteger

/-- `unicodedata.category(character) == "Cc"`. -/
def isControlCharacter (character : Char) : Bool :=
  character.toNat ≤ 0x1f || (0x7f ≤ character.toNat && character.toNat ≤ 0x9f)

/-- `_bounded_text`: non-empty, free of control characters and at most `maxBytes` of UTF-8. -/
def boundedText (maxBytes : Nat) (value : String) : Bool :=
  value.toList ≠ [] && value.toList.all (fun character => !isControlCharacter character) &&
    value.utf8ByteSize ≤ maxBytes

/-- `Opaque96`. -/
def opaque96 : String → Bool := boundedText 96

/-- `Opaque128`. -/
def opaque128 : String → Bool := boundedText 128

/-- `Opaque256`. -/
def opaque256 : String → Bool := boundedText 256

/-- A lowercase hexadecimal digit, `[0-9a-f]`. -/
def isHexDigit (character : Char) : Bool :=
  (48 ≤ character.toNat && character.toNat ≤ 57) ||
    (97 ≤ character.toNat && character.toNat ≤ 102)

/-- `Sha256`: exactly sixty-four lowercase hexadecimal digits. -/
def isSha256 (value : String) : Bool :=
  value.toList.length == 64 && value.toList.all isHexDigit

/-- `OperationKind`. -/
def isOperationKind (value : String) : Bool :=
  value ∈ ["verify_session", "search", "cards", "details", "continuation", "cleanup"]

/-- Python's notion of a whitespace character, as used by `str.strip`. -/
def isPythonSpace (character : Char) : Bool :=
  let code := character.toNat
  (0x09 ≤ code && code ≤ 0x0d) || (0x1c ≤ code && code ≤ 0x20) || code == 0x85 || code == 0xa0 ||
    code == 0x1680 || (0x2000 ≤ code && code ≤ 0x200a) || code == 0x2028 || code == 0x2029 ||
    code == 0x202f || code == 0x205f || code == 0x3000

/-- `value.strip()`. -/
def stripText (value : String) : String :=
  String.ofList ((value.toList.dropWhile isPythonSpace).rdropWhile isPythonSpace)

/-- `value.split()`. -/
def splitText (value : String) : List String :=
  ((value.toList.splitOnP isPythonSpace).filter (· ≠ [])).map String.ofList

/-- `value == value.strip()` for a non-empty value: it neither starts nor ends with a space. -/
def isStripped (value : String) : Bool :=
  !(value.toList.head?.any isPythonSpace) && !(value.toList.getLast?.any isPythonSpace)

/-- `text.startswith(start)`. -/
def startsWithText (text start : String) : Bool :=
  start.toList.isPrefixOf text.toList

/-- `needle in text`. -/
def containsText (text needle : String) : Bool :=
  text.toList.tails.any (fun rest => needle.toList.isPrefixOf rest)

variable (py : PythonRuntime)

/-- `_non_bearer_retry_ref`: stripped text that does not look like an authorization header. -/
def nonBearerRetryRef (value : String) : Bool :=
  let lowered := py.casefold value
  isStripped value &&
    !(["bearer ", "basic ", "authorization:", "authorization="].any (startsWithText lowered)) &&
    !containsText lowered "authorization="

/-- `SafeRetryCommitRef`. -/
def safeRetryCommitRef (value : String) : Bool :=
  opaque256 value && nonBearerRetryRef py value

end SourcePort

end SeekTalent
