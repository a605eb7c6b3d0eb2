import SeekTalent.Foundation.Json

/-!
# Scanning JSON text

The grammar of `json.loads`, over the code points of a text.  The scanner calls its hooks where
`json.loads` does: on the text of an integer, on a fraction, an exponent or one of the constants
that are not JSON, and on the members of an object once it is closed.  A string is scanned to code
points, since an escape may name a lone surrogate, and `JsonText.toJson` is the document of a
scanned tree that has none.
-/

namespace Foundation

/-- A scanned document: strings are code points and members are in the order of the text. -/
inductive JsonText where
  | null
  | bool (value : Bool)
  | int (value : Int)
  | str (points : List Nat)
  | arr (items : List JsonText)
  | obj (members : List (List Nat × JsonText))

/-- The callbacks of `json.loads`, and the reason it gives when the text is not JSON. -/
structure JsonHooks (ε : Type) where
  /-- `parse_int`, on the text of the integer. -/
  parseInteger : List Nat → Except ε Int
  /-- `parse_float` and `parse_constant`, where no such number is admitted. -/
  illegalNumber : ε
  /-- `object_pairs_hook`, on a key that occurs twice. -/
  duplicateKey : ε
  /-- `json.JSONDecodeError`. -/
  invalidJson : ε

/-! ## Lexemes -/

/-- Space, tab, line feed and carriage return. -/
def isJsonSpace (point : Nat) : Bool :=
  point == 32 || point == 9 || point == 10 || point == 13

/-- Skip whitespace. -/
def skipSpace (text : List Nat) : List Nat :=
  text.dropWhile isJsonSpace

/-- The value of a hexadecimal digit of either case. -/
def hexDigitValue (point : Nat) : Option Nat :=
  if 48 ≤ point ∧ point ≤ 57 then some (point - 48)
  else if 97 ≤ point ∧ point ≤ 102 then some (point - 87)
  else if 65 ≤ point ∧ point ≤ 70 then some (point - 55)
  else none

/-- The code unit of four hexadecimal digits. -/
def codeUnit (a b c d : Nat) : Option Nat := do
  let first ← hexDigitValue a
  let second ← hexDigitValue b
  let third ← hexDigitValue c
  let fourth ← hexDigitValue d
  return ((first * 16 + second) * 16 + third) * 16 + fourth

/-- The character of a one-letter escape: the quote, the backslash, the slash and b, f, n, r, t. -/
def simpleEscape (point : Nat) : Option Nat :=
  match point with
  | 34 => some 34
  | 92 => some 92
  | 47 => some 47
  | 98 => some 8
  | 102 => some 12
  | 110 => some 10
  | 114 => some 13
  | 116 => some 9
  | _ => none

/-- Prepend a code point to a scanned string. -/
def consPoint (point : Nat) (scanned : Option (List Nat × List Nat)) :
    Option (List Nat × List Nat) :=
  scanned.map (fun result => (point :: result.1, result.2))

/-- Scan a string from behind its opening quote (34) to behind its closing one.  A backslash (92)
opens an escape, with four hexadecimal digits after a `u` (117). -/
def scanString : List Nat → Option (List Nat × List Nat)
  | [] => none
  | 34 :: rest => some ([], rest)
  | 92 :: 117 :: a :: b :: c :: d :: rest =>
    match codeUnit a b c d with
    | none => none
    | some unit =>
      -- A high surrogate is joined with the low surrogate that follows it, if one does.
      if 0xd800 ≤ unit ∧ unit ≤ 0xdbff then
        match rest with
        | 92 :: 117 :: e :: f :: g :: h :: more =>
          match codeUnit e f g h with
          | none => none
          | some low =>
            if 0xdc00 ≤ low ∧ low ≤ 0xdfff then
              consPoint (0x10000 + (unit - 0xd800) * 0x400 + (low - 0xdc00)) (scanString more)
            else consPoint unit (scanString (92 :: 117 :: e :: f :: g :: h :: more))
        | other => consPoint unit (scanString other)
      else consPoint unit (scanString rest)
  | 92 :: escape :: rest =>
    match simpleEscape escape with
    | none => none
    | some point => consPoint point (scanString rest)
  | point :: rest => if point < 32 then none else consPoint point (scanString rest)

/-- A decimal digit. -/
def isDecimalDigit (point : Nat) : Bool :=
  48 ≤ point && point ≤ 57

/-- The digits of an integer and what follows them: a zero (48) stands alone. -/
def scanDigits : List Nat → Option (List Nat × List Nat)
  | [] => none
  | 48 :: rest => some ([48], rest)
  | first :: rest =>
    if isDecimalDigit first then
      some (first :: rest.takeWhile isDecimalDigit, rest.dropWhile isDecimalDigit)
    else none

/-- The text of an integer, with its minus sign (45), and what follows it. -/
def scanInteger : List Nat → Option (List Nat × List Nat)
  | 45 :: rest => (scanDigits rest).map (fun result => (45 :: result.1, result.2))
  | text => scanDigits text

/-- A fraction (after 46) or an exponent (after 69 or 101, with an optional sign 43 or 45)
follows. -/
def continuesAsFloat : List Nat → Bool
  | 46 :: digit :: _ => isDecimalDigit digit
  | mark :: sign :: rest =>
    (mark == 69 || mark == 101) &&
      (isDecimalDigit sign || ((sign == 43 || sign == 45) && rest.head?.any isDecimalDigit))
  | _ => false

/-- What follows a literal at the head of a text. -/
def afterLiteral : List Nat → List Nat → Option (List Nat)
  | [], text => some text
  | _ :: _, [] => none
  | expected :: literal, point :: text =>
    if expected = point then afterLiteral literal text else none

/-- `null`. -/
def nullLiteral : List Nat := [110, 117, 108, 108]

/-- `true`. -/
def trueLiteral : List Nat := [116, 114, 117, 101]

/-- `false`. -/
def falseLiteral : List Nat := [102, 97, 108, 115, 101]

/-- `NaN`, `Infinity` and `-Infinity`, which `json.loads` hands to `parse_constant`. -/
def constantLiterals : List (List Nat) :=
  [[78, 97, 78], [73, 110, 102, 105, 110, 105, 116, 121],
    [45, 73, 110, 102, 105, 110, 105, 116, 121]]

section Scanner

variable {ε : Type} (hooks : JsonHooks ε)

/-- Scan a number. -/
def scanNumber (text : List Nat) : Except ε (JsonText × List Nat) :=
  match scanInteger text with
  | none => .error hooks.invalidJson
  | some (digits, rest) =>
    if continuesAsFloat rest then .error hooks.illegalNumber
    else (hooks.parseInteger digits).map (fun value => (.int value, rest))

/-- Scan a value that is neither a string nor a container. -/
def scanAtom (text : List Nat) : Except ε (JsonText × List Nat) :=
  match afterLiteral nullLiteral text, afterLiteral trueLiteral text,
    afterLiteral falseLiteral text with
  | some rest, _, _ => .ok (.null, rest)
  | _, some rest, _ => .ok (.bool true, rest)
  | _, _, some rest => .ok (.bool false, rest)
  | none, none, none =>
    if constantLiterals.any (fun literal => (afterLiteral literal text).isSome) then
      .error hooks.illegalNumber
    else scanNumber hooks text

/-- The dictionary of the scanned members, unless a key occurs twice. -/
def rejectDuplicates (members : List (List Nat × JsonText)) : Except ε JsonText :=
  if (members.map Prod.fst).Nodup then .ok (.obj members) else .error hooks.duplicateKey

mutual

/-- Scan one value.  The counter bounds the depth of the scan, which the length of the text does. -/
def scanValue : Nat → List Nat → Except ε (JsonText × List Nat)
  | 0, _ => .error hooks.invalidJson
  | _ + 1, 34 :: rest =>
    match scanString rest with
    | none => .error hooks.invalidJson
    | some (points, after) => .ok (.str points, after)
  | fuel + 1, 123 :: rest =>
    match skipSpace rest with
    | 125 :: after => .ok (.obj [], after)
    | start =>
      match scanMembers fuel start with
      | .error reason => .error reason
      | .ok (members, after) => (rejectDuplicates hooks members).map (fun value => (value, after))
  | fuel + 1, 91 :: rest =>
    match skipSpace rest with
    | 93 :: after => .ok (.arr [], after)
    | start => (scanItems fuel start).map (fun result => (.arr result.1, result.2))
  | _ + 1, text => scanAtom hooks text

/-- Scan the items of an array that is not empty, and its closing bracket (93). -/
def scanItems : Nat → List Nat → Except ε (List JsonText × List Nat)
  | 0, _ => .error hooks.invalidJson
  | fuel + 1, text =>
    match scanValue fuel text with
    | .error reason => .error reason
    | .ok (item, after) =>
      match skipSpace after with
      | 93 :: rest => .ok ([item], rest)
      | 44 :: rest =>
        (scanItems fuel (skipSpace rest)).map (fun result => (item :: result.1, result.2))
      | _ => .error hooks.invalidJson

/-- Scan the members of an object that is not empty, and its closing brace (125). -/
def scanMembers : Nat → List Nat → Except ε (List (List Nat × JsonText) × List Nat)
  | 0, _ => .error hooks.invalidJson
  | fuel + 1, 34 :: rest =>
    match scanString rest with
    | none => .error hooks.invalidJson
    | some (key, after) =>
      match skipSpace after with
      | 58 :: start =>
        match scanValue fuel (skipSpace start) with
        | .error reason => .error reason
        | .ok (value, after) =>
          match skipSpace after with
          | 125 :: rest => .ok ([(key, value)], rest)
          | 44 :: rest =>
            (scanMembers fuel (skipSpace rest)).map
              (fun result => ((key, value) :: result.1, result.2))
          | _ => .error hooks.invalidJson
      | _ => .error hooks.invalidJson
  | _ + 1, _ => .error hooks.invalidJson

end

/-- `json.loads`: one value with nothing but whitespace around it. -/
def jsonLoads (text : List Nat) : Except ε JsonText :=
  match scanValue hooks (2 * text.length + 1) (skipSpace text) with
  | .error reason => .error reason
  | .ok (value, after) => if skipSpace after = [] then .ok value else .error hooks.invalidJson

end Scanner

/-! ## Documents -/

/-- The decimal value of the text of an integer. -/
def decimalValue (text : List Nat) : Int :=
  match text with
  | 45 :: digits => -(digits.foldl (fun value digit => value * 10 + (digit - 48)) 0 : Nat)
  | digits => (digits.foldl (fun value digit => value * 10 + (digit - 48)) 0 : Nat)

/-- The string of code points that are Unicode scalar values. -/
def scalarString (points : List Nat) : Option String :=
  if points.all (fun point => !(0xd800 ≤ point && point ≤ 0xdfff)) then
    some (String.ofList (points.map Char.ofNat))
  else none

mutual

/-- The document of a scanned tree, unless one of its strings has a surrogate. -/
def JsonText.toJson : JsonText → Option Json
  | .null => some .null
  | .bool value => some (.bool value)
  | .int value => some (.int value)
  | .str points => (scalarString points).map .str
  | .arr items => (itemsToJson items).map .arr
  | .obj members => (membersToJson members).map .obj

/-- The documents of scanned items. -/
def itemsToJson : List JsonText → Option (List Json)
  | [] => some []
  | item :: rest => do
    let value ← item.toJson
    let values ← itemsToJson rest
    return value :: values

/-- The documents of scanned members, with their keys. -/
def membersToJson : List (List Nat × JsonText) → Option (List (String × Json))
  | [] => some []
  | (points, item) :: rest => do
    let key ← scalarString points
    let value ← item.toJson
    let members ← membersToJson rest
    return (key, value) :: members

end

/-! ## UTF-8 -/

/-- Prepend a code point to a decoded text. -/
def consDecoded (point : Nat) (decoded : Option (List Nat)) : Option (List Nat) :=
  decoded.map (point :: ·)

/-- A continuation byte. -/
def isTail (byte : UInt8) : Bool :=
  128 ≤ byte.toNat && byte.toNat < 192

/-- Decode UTF-8: the shortest form of each scalar value, and nothing else. -/
def decodeUtf8 : List UInt8 → Option (List Nat)
  | [] => some []
  | a :: rest =>
    if a.toNat < 128 then consDecoded a.toNat (decodeUtf8 rest)
    else
      match rest with
      | [] => none
      | b :: rest =>
        if !isTail b then none
        else if 194 ≤ a.toNat ∧ a.toNat < 224 then
          consDecoded ((a.toNat - 192) * 64 + (b.toNat - 128)) (decodeUtf8 rest)
        else
          match rest with
          | [] => none
          | c :: rest =>
            if !isTail c then none
            else if 224 ≤ a.toNat ∧ a.toNat < 240 then
              let point := (a.toNat - 224) * 4096 + (b.toNat - 128) * 64 + (c.toNat - 128)
              if point < 2048 ∨ (0xd800 ≤ point ∧ point ≤ 0xdfff) then none
              else consDecoded point (decodeUtf8 rest)
            else
              match rest with
              | [] => none
              | d :: rest =>
                if !isTail d then none
                else if 240 ≤ a.toNat ∧ a.toNat < 245 then
                  let point := (a.toNat - 240) * 262144 + (b.toNat - 128) * 4096 +
                    (c.toNat - 128) * 64 + (d.toNat - 128)
                  if point < 65536 ∨ 0x10ffff < point then none
                  else consDecoded point (decodeUtf8 rest)
                else none

/-- Encode one code point. -/
def encodePoint (point : Nat) : List UInt8 :=
  if point < 128 then [UInt8.ofNat point]
  else if point < 2048 then [UInt8.ofNat (192 + point / 64), UInt8.ofNat (128 + point % 64)]
  else if point < 65536 then
    [UInt8.ofNat (224 + point / 4096), UInt8.ofNat (128 + point / 64 % 64),
      UInt8.ofNat (128 + point % 64)]
  else
    [UInt8.ofNat (240 + point / 262144), UInt8.ofNat (128 + point / 4096 % 64),
      UInt8.ofNat (128 + point / 64 % 64), UInt8.ofNat (128 + point % 64)]

/-- The code points of a string. -/
def pointsOf (text : String) : List Nat :=
  text.toList.map Char.toNat

/-- `text.encode("utf-8")`. -/
def encodeUtf8 (text : String) : List UInt8 :=
  (pointsOf text).flatMap encodePoint

end Foundation
