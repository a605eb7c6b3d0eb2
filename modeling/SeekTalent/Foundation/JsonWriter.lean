import Mathlib.Data.Nat.Digits.Lemmas
import SeekTalent.Foundation.JsonText

/-!
# Canonical JSON text

The writer of canonical text (no whitespace, members in their order, shortest escapes) for documents
whose numbers are safe integers, and the scanner on what it writes: `scanValue_write` scans a
written value to its tree, whatever closes behind it.
-/

namespace Foundation

/-! ## The writer -/

/-- The shortest escape of a code point. -/
def escapePoint (point : Nat) : List Nat :=
  if point = 34 then [92, 34]
  else if point = 92 then [92, 92]
  else if point = 8 then [92, 98]
  else if point = 9 then [92, 116]
  else if point = 10 then [92, 110]
  else if point = 12 then [92, 102]
  else if point = 13 then [92, 114]
  else if point < 32 then
    [92, 117, 48, 48, 48 + point / 16, if point % 16 < 10 then 48 + point % 16 else 87 + point % 16]
  else [point]

/-- A string behind its opening quote, with its closing one. -/
def writeString (points : List Nat) : List Nat :=
  points.flatMap escapePoint ++ [34]

/-- The digits of a natural number. -/
def decimalDigits (value : Nat) : List Nat :=
  if value = 0 then [48] else (Nat.digits 10 value).reverse.map (48 + ·)

/-- The text of an integer. -/
def writeInteger (value : Int) : List Nat :=
  if value < 0 then 45 :: decimalDigits value.natAbs else decimalDigits value.natAbs

/-- Texts with a comma (44) between them and a closing bracket or brace behind them. -/
def joinTexts (closing : Nat) : List (List Nat) → List Nat
  | [] => [closing]
  | [text] => text ++ [closing]
  | text :: rest => text ++ 44 :: joinTexts closing rest

mutual

/-- The text of a document, unless it has a number that is not a safe integer. -/
def writeValue : Json → Option (List Nat)
  | .null => some nullLiteral
  | .bool value => some (if value then trueLiteral else falseLiteral)
  | .int value =>
    if -maxSafeInteger ≤ value ∧ value ≤ maxSafeInteger then some (writeInteger value) else none
  | .float _ => none
  | .str value => some (34 :: writeString (pointsOf value))
  | .arr items => (writeItems items).map (fun texts => 91 :: joinTexts 93 texts)
  | .obj members => (writeMembers members).map (fun texts => 123 :: joinTexts 125 texts)

/-- The texts of items. -/
def writeItems : List Json → Option (List (List Nat))
  | [] => some []
  | item :: rest => do
    let text ← writeValue item
    let texts ← writeItems rest
    return text :: texts

/-- The texts of members. -/
def writeMembers : List (String × Json) → Option (List (List Nat))
  | [] => some []
  | (key, value) :: rest => do
    let text ← writeValue value
    let texts ← writeMembers rest
    return (34 :: (writeString (pointsOf key) ++ 58 :: text)) :: texts

end

mutual

/-- The scanned tree of a document. -/
def scanned : Json → JsonText
  | .null => .null
  | .bool value => .bool value
  | .int value => .int value
  -- A floating-point number is not scanned to a tree.
  | .float _ => .null
  | .str value => .str (pointsOf value)
  | .arr items => .arr (scannedItems items)
  | .obj members => .obj (scannedMembers members)

/-- The scanned trees of items. -/
def scannedItems : List Json → List JsonText
  | [] => []
  | item :: rest => scanned item :: scannedItems rest

/-- The scanned trees of members. -/
def scannedMembers : List (String × Json) → List (List Nat × JsonText)
  | [] => []
  | (key, value) :: rest => (pointsOf key, scanned value) :: scannedMembers rest

end

/-! ## Strings -/

/-- A code point that is written as it is. -/
lemma scanString_plain {point : Nat} (hquote : point ≠ 34) (hescape : point ≠ 92)
    (hprint : 32 ≤ point)
    (rest : List Nat) : scanString (point :: rest) = consPoint point (scanString rest) := by
  rw [scanString.eq_def]
  split
  · simp_all
  · simp_all
  · simp_all
  · simp_all
  · rename_i h
    obtain ⟨rfl, rfl⟩ := List.cons.inj h
    rw [if_neg (by omega)]

/-- A control character that has no escape of its own. -/
lemma scanString_control {point : Nat} (hcontrol : point < 32) (rest : List Nat) :
    scanString (92 :: 117 :: 48 :: 48 :: (48 + point / 16) ::
      (if point % 16 < 10 then 48 + point % 16 else 87 + point % 16) :: rest) =
      consPoint point (scanString rest) := by
  have hunit : ∀ point < 32, codeUnit 48 48 (48 + point / 16)
      (if point % 16 < 10 then 48 + point % 16 else 87 + point % 16) = some point := by decide
  rw [scanString, hunit point hcontrol]
  dsimp only
  rw [if_neg (by omega)]

/-- An escaped code point. -/
lemma scanString_escape (point : Nat) (rest : List Nat) :
    scanString (escapePoint point ++ rest) = consPoint point (scanString rest) := by
  unfold escapePoint
  by_cases h34 : point = 34
  · subst h34
    rfl
  by_cases h92 : point = 92
  · subst h92
    rfl
  by_cases h8 : point = 8
  · subst h8
    rfl
  by_cases h9 : point = 9
  · subst h9
    rfl
  by_cases h10 : point = 10
  · subst h10
    rfl
  by_cases h12 : point = 12
  · subst h12
    rfl
  by_cases h13 : point = 13
  · subst h13
    rfl
  simp only [h34, h92, h8, h9, h10, h12, h13, if_false]
  by_cases hcontrol : point < 32
  · rw [if_pos hcontrol]
    exact scanString_control hcontrol rest
  · rw [if_neg hcontrol]
    exact scanString_plain h34 h92 (by omega) rest

/-- A written string is scanned to its code points. -/
theorem scanString_write (points tail : List Nat) :
    scanString (writeString points ++ tail) = some (points, tail) := by
  unfold writeString
  induction points with
  | nil => rfl
  | cons point rest ih =>
    rw [List.append_assoc] at ih
    rw [List.flatMap_cons, List.append_assoc, List.append_assoc, scanString_escape, ih]
    rfl

/-! ## Integers -/

/-- The digits are decimal digits. -/
lemma isDecimalDigit_of_mem {value digit : Nat} (h : digit ∈ decimalDigits value) :
    isDecimalDigit digit = true := by
  unfold decimalDigits at h
  by_cases hzero : value = 0
  · rw [if_pos hzero, List.mem_singleton] at h
    rw [h]
    rfl
  · rw [if_neg hzero] at h
    obtain ⟨small, hsmall, rfl⟩ := List.mem_map.mp h
    have hlt : small < 10 := Nat.digits_lt_base (by decide) (List.mem_reverse.mp hsmall)
    simp only [isDecimalDigit, Bool.and_eq_true, decide_eq_true_eq]
    omega

/-- Reading the digits back. -/
lemma foldl_decimalDigits (value : Nat) :
    (decimalDigits value).foldl (fun number digit => number * 10 + (digit - 48)) 0 = value := by
  unfold decimalDigits
  by_cases hzero : value = 0
  · simp [hzero]
  · rw [if_neg hzero, List.foldl_map, List.foldl_reverse]
    have hfold := Nat.ofDigits_eq_foldr 10 (Nat.digits 10 value)
    rw [Nat.ofDigits_digits] at hfold
    conv_rhs => rw [hfold]
    congr 1
    funext digit number
    simp only [Nat.cast_id]
    omega

/-- A number of at most sixteen digits. -/
lemma length_decimalDigits_le {value width : Nat} (hwidth : 0 < width) (h : value < 10 ^ width) :
    (decimalDigits value).length ≤ width := by
  unfold decimalDigits
  by_cases hzero : value = 0
  · rw [if_pos hzero]
    exact hwidth
  · rw [if_neg hzero, List.length_map, List.length_reverse]
    exact (Nat.digits_length_le_iff (by decide) value).mpr h

/-- The first digit of a number other than zero is not a zero. -/
lemma decimalDigits_cons {value : Nat} (h : value ≠ 0) :
    ∃ first rest, decimalDigits value = first :: rest ∧ first ≠ 48 := by
  unfold decimalDigits
  rw [if_neg h]
  have hne : Nat.digits 10 value ≠ [] := Nat.digits_ne_nil_iff_ne_zero.mpr h
  have hlast := Nat.getLast_digit_ne_zero 10 h
  refine ⟨48 + (Nat.digits 10 value).getLast hne,
    ((Nat.digits 10 value).dropLast.reverse).map (48 + ·), ?_, by omega⟩
  conv_lhs => rw [← List.dropLast_append_getLast hne]
  rw [List.reverse_append, List.map_append]
  rfl

/-- A number has a digit. -/
lemma decimalDigits_ne_nil (value : Nat) : decimalDigits value ≠ [] := by
  by_cases hzero : value = 0
  · simp [decimalDigits, hzero]
  · obtain ⟨first, rest, hdigits, -⟩ := decimalDigits_cons hzero
    simp [hdigits]

/-- What may follow a value: the end, a comma, a bracket or a brace. -/
def Closes (tail : List Nat) : Prop :=
  tail = [] ∨ ∃ mark rest, tail = mark :: rest ∧ (mark = 44 ∨ mark = 93 ∨ mark = 125)

/-- No digit follows a value. -/
lemma Closes.span {digits tail : List Nat} (htail : Closes tail)
    (hdigits : ∀ digit ∈ digits, isDecimalDigit digit = true) :
    (digits ++ tail).takeWhile isDecimalDigit = digits ∧
      (digits ++ tail).dropWhile isDecimalDigit = tail := by
  have hstop : tail.takeWhile isDecimalDigit = [] ∧ tail.dropWhile isDecimalDigit = tail := by
    obtain rfl | ⟨mark, rest, rfl, rfl | rfl | rfl⟩ := htail <;> exact ⟨rfl, rfl⟩
  constructor
  · rw [List.takeWhile_append_of_pos hdigits, hstop.1, List.append_nil]
  · rw [List.dropWhile_append_of_pos hdigits, hstop.2]

/-- The digits of a number are scanned. -/
lemma scanDigits_write (value : Nat) {tail : List Nat} (htail : Closes tail) :
    scanDigits (decimalDigits value ++ tail) = some (decimalDigits value, tail) := by
  by_cases hzero : value = 0
  · subst hzero
    rfl
  · obtain ⟨first, rest, hdigits, hfirst⟩ := decimalDigits_cons hzero
    have hall : ∀ digit ∈ first :: rest, isDecimalDigit digit = true := by
      rw [← hdigits]
      exact fun digit h => isDecimalDigit_of_mem h
    obtain ⟨htake, hdrop⟩ := htail.span (fun digit h => hall digit (List.mem_cons_of_mem first h))
    rw [hdigits, List.cons_append, scanDigits.eq_def]
    split
    · rename_i h
      cases h
    · rename_i h
      exact absurd (List.cons.inj h).1 hfirst
    · rename_i h
      obtain ⟨rfl, rfl⟩ := List.cons.inj h
      rw [if_pos (hall first List.mem_cons_self), htake, hdrop]

/-- An integer is scanned. -/
lemma scanInteger_write (value : Int) {tail : List Nat} (htail : Closes tail) :
    scanInteger (writeInteger value ++ tail) = some (writeInteger value, tail) := by
  unfold writeInteger
  by_cases hneg : value < 0
  · rw [if_pos hneg, List.cons_append, scanInteger, scanDigits_write _ htail]
    rfl
  · rw [if_neg hneg, scanInteger.eq_def]
    split
    · rename_i h
      -- No digit is a minus sign.
      exfalso
      obtain ⟨first, rest, hdigits⟩ :=
        List.exists_cons_of_ne_nil (decimalDigits_ne_nil value.natAbs)
      rw [hdigits] at h
      have hfirst : isDecimalDigit first = true :=
        isDecimalDigit_of_mem (hdigits ▸ List.mem_cons_self)
      rw [(List.cons.inj h).1] at hfirst
      exact absurd hfirst (by decide)
    · exact scanDigits_write _ htail

/-! ## Values -/

section Scan

variable {ε : Type} {hooks : JsonHooks ε}
variable {tail text : List Nat} {fuel : Nat} {item : JsonText}

/-- The text of an integer starts with a minus sign and a digit, or with a digit. -/
lemma writeInteger_cons (value : Int) : ∃ first rest, writeInteger value = first :: rest ∧
    (isDecimalDigit first = true ∨ (first = 45 ∧ ∃ digit more, rest = digit :: more ∧
      isDecimalDigit digit = true)) := by
  obtain ⟨first, rest, hdigits⟩ := List.exists_cons_of_ne_nil (decimalDigits_ne_nil value.natAbs)
  have hfirst : isDecimalDigit first = true := isDecimalDigit_of_mem (hdigits ▸ List.mem_cons_self)
  unfold writeInteger
  by_cases hneg : value < 0
  · rw [if_pos hneg]
    exact ⟨45, _, rfl, Or.inr ⟨rfl, first, rest, hdigits, hfirst⟩⟩
  · rw [if_neg hneg]
    exact ⟨first, rest, hdigits, Or.inl hfirst⟩

/-- A literal does not start with a digit. -/
lemma afterLiteral_digit {expected first : Nat} {literal : List Nat}
    (hfirst : isDecimalDigit first = true) (hexpected : isDecimalDigit expected = false) :
    afterLiteral (expected :: literal) (first :: text) = none := by
  rw [afterLiteral, if_neg]
  rintro rfl
  rw [hfirst] at hexpected
  cases hexpected

/-- The text of an integer is none of the literals. -/
lemma afterLiteral_writeInteger (value : Int) (tail : List Nat) :
    afterLiteral nullLiteral (writeInteger value ++ tail) = none ∧
      afterLiteral trueLiteral (writeInteger value ++ tail) = none ∧
      afterLiteral falseLiteral (writeInteger value ++ tail) = none ∧
      constantLiterals.any (fun literal =>
        (afterLiteral literal (writeInteger value ++ tail)).isSome) = false := by
  obtain ⟨first, rest, htext, hfirst | ⟨rfl, digit, more, rfl, hdigit⟩⟩ := writeInteger_cons value
  · rw [htext, List.cons_append]
    refine ⟨afterLiteral_digit hfirst rfl, afterLiteral_digit hfirst rfl,
      afterLiteral_digit hfirst rfl, ?_⟩
    simp only [constantLiterals, List.any_cons, List.any_nil,
      afterLiteral_digit hfirst (show isDecimalDigit 78 = false from rfl),
      afterLiteral_digit hfirst (show isDecimalDigit 73 = false from rfl),
      afterLiteral_digit hfirst (show isDecimalDigit 45 = false from rfl)]
    rfl
  · rw [htext, List.cons_append, List.cons_append]
    refine ⟨rfl, rfl, rfl, ?_⟩
    have hminus : afterLiteral [45, 73, 110, 102, 105, 110, 105, 116, 121]
      (45 :: digit :: (more ++ tail)) =
        none := by
      rw [afterLiteral, if_pos rfl]
      exact afterLiteral_digit hdigit rfl
    simp only [constantLiterals, List.any_cons, List.any_nil, hminus]
    rfl

/-- An integer is scanned to its value. -/
lemma scanAtom_writeInteger {value : Int} (htail : Closes tail)
    (hparse : hooks.parseInteger (writeInteger value) = .ok value) :
    scanAtom hooks (writeInteger value ++ tail) = .ok (.int value, tail) := by
  obtain ⟨hnull, htrue, hfalse, hconstants⟩ := afterLiteral_writeInteger value tail
  have hfloat : continuesAsFloat tail = false := by
    obtain rfl | ⟨mark, rest, rfl, hmark⟩ := htail
    · rfl
    · rcases rest with _ | ⟨sign, rest⟩
      · rcases hmark with rfl | rfl | rfl <;> rfl
      · rcases hmark with rfl | rfl | rfl <;> rfl
  rw [scanAtom, hnull, htrue, hfalse]
  dsimp only
  rw [hconstants, if_neg Bool.false_ne_true, scanNumber, scanInteger_write value htail]
  dsimp only
  rw [hfloat, if_neg Bool.false_ne_true, hparse]
  rfl

/-- A value that starts with neither a quote nor a brace nor a bracket is an atom. -/
lemma scanValue_atom {first : Nat} (h34 : first ≠ 34) (h123 : first ≠ 123)
    (h91 : first ≠ 91) : scanValue hooks (fuel + 1) (first :: text) = scanAtom hooks
    (first :: text) := by
  rw [scanValue.eq_def]
  split
  · rename_i h
    cases h
  · rename_i h
    exact absurd (List.cons.inj h).1 h34
  · rename_i h
    exact absurd (List.cons.inj h).1 h123
  · rename_i h
    exact absurd (List.cons.inj h).1 h91
  · rename_i hfuel _ _ _
    cases hfuel
    rfl

/-- A written value starts neither with space nor with a closing bracket or brace. -/
lemma writeValue_cons {j : Json} (h : writeValue j = some text) :
    ∃ first rest, text = first :: rest ∧ isJsonSpace first = false ∧ first ≠ 93 ∧ first ≠ 125 := by
  cases j with
  | null =>
    cases h
    exact ⟨110, _, rfl, rfl, by decide, by decide⟩
  | bool value =>
    cases value <;> cases h
    · exact ⟨102, _, rfl, rfl, by decide, by decide⟩
    · exact ⟨116, _, rfl, rfl, by decide, by decide⟩
  | int value =>
    rw [writeValue] at h
    by_cases hsafe : -maxSafeInteger ≤ value ∧ value ≤ maxSafeInteger
    · rw [if_pos hsafe] at h
      cases h
      obtain ⟨first, rest, htext, hfirst | ⟨rfl, -⟩⟩ := writeInteger_cons value
      · refine ⟨first, rest, htext, ?_⟩
        simp only [isDecimalDigit, Bool.and_eq_true, decide_eq_true_eq] at hfirst
        simp only [isJsonSpace, Bool.or_eq_false_iff, beq_eq_false_iff_ne]
        omega
      · exact ⟨45, rest, htext, rfl, by decide, by decide⟩
    · rw [if_neg hsafe] at h
      cases h
  | float value => cases h
  | str value =>
    cases h
    exact ⟨34, _, rfl, rfl, by decide, by decide⟩
  | arr items =>
    rw [writeValue, Option.map_eq_some_iff] at h
    obtain ⟨texts, -, rfl⟩ := h
    exact ⟨91, _, rfl, rfl, by decide, by decide⟩
  | obj members =>
    rw [writeValue, Option.map_eq_some_iff] at h
    obtain ⟨texts, -, rfl⟩ := h
    exact ⟨123, _, rfl, rfl, by decide, by decide⟩

/-- Nothing is skipped before a written value. -/
lemma skipSpace_write {j : Json} (h : writeValue j = some text) (tail : List Nat) :
    skipSpace (text ++ tail) = text ++ tail := by
  obtain ⟨first, rest, rfl, hspace, -⟩ := writeValue_cons h
  simp [skipSpace, hspace]

/-- The text of items starts with that of the first one. -/
lemma writeItems_cons {item : Json} {rest : List Json} {texts : List (List Nat)}
    (h : writeItems (item :: rest) = some texts) : ∃ text more, writeValue item = some text ∧
      writeItems rest = some more ∧ texts = text :: more := by
  simp only [writeItems, Option.bind_eq_bind, Option.bind_eq_some_iff] at h
  obtain ⟨text, htext, more, hmore, heq⟩ := h
  cases heq
  exact ⟨text, more, htext, hmore, rfl⟩

/-- The text of members starts with that of the first one. -/
lemma writeMembers_cons {key : String} {value : Json} {rest : List (String × Json)}
    {texts : List (List Nat)} (h : writeMembers ((key, value) :: rest) = some texts) :
    ∃ text more, writeValue value = some text ∧ writeMembers rest = some more ∧
      texts = (34 :: (writeString (pointsOf key) ++ 58 :: text)) :: more := by
  simp only [writeMembers, Option.bind_eq_bind, Option.bind_eq_some_iff] at h
  obtain ⟨text, htext, more, hmore, heq⟩ := h
  cases heq
  exact ⟨text, more, htext, hmore, rfl⟩

/-- Joined texts begin with the first one. -/
lemma joinTexts_cons (closing : Nat) (text : List Nat) (rest : List (List Nat)) :
    joinTexts closing (text :: rest) =
      text ++ (if rest = [] then [closing] else 44 :: joinTexts closing rest) := by
  cases rest <;> rfl

/-- Items are written to as many texts. -/
lemma writeItems_eq_nil {items : List Json} (h : writeItems items = some []) : items = [] := by
  cases items with
  | nil => rfl
  | cons item rest =>
    obtain ⟨_, _, -, -, htexts⟩ := writeItems_cons h
    cases htexts

/-- Members are written to as many texts. -/
lemma writeMembers_eq_nil {members : List (String × Json)} (h : writeMembers members = some []) :
    members = [] := by
  cases members with
  | nil => rfl
  | cons member rest =>
    obtain ⟨_, _, -, -, htexts⟩ := writeMembers_cons h
    cases htexts

/-- The code points of a string determine it. -/
lemma pointsOf_injective : Function.Injective pointsOf := by
  intro a b h
  have hpoints : Function.Injective Char.toNat := fun _ _ => Char.toNat_inj.mp
  exact String.toList_injective (List.map_injective_iff.mpr hpoints h)

/-- The scanned keys of an object are its keys. -/
lemma fst_scannedMembers (members : List (String × Json)) :
    (scannedMembers members).map Prod.fst = (members.map Prod.fst).map pointsOf := by
  induction members with
  | nil => rfl
  | cons member rest ih =>
    obtain ⟨key, value⟩ := member
    simp [scannedMembers, ih]

/-- An object that is not empty. -/
lemma scanValue_object {start after : List Nat} {members : List (List Nat × JsonText)}
    (h : scanMembers hooks fuel (34 :: start) = .ok (members, after))
    (hkeys : (members.map Prod.fst).Nodup) :
    scanValue hooks (fuel + 1) (123 :: 34 :: start) = .ok (.obj members, after) := by
  have hskip : skipSpace (34 :: start) = 34 :: start := rfl
  rw [scanValue, hskip]
  simp [h, rejectDuplicates, hkeys, Except.map]

/-- The last item of an array. -/
lemma scanItems_last (h : scanValue hooks fuel text = .ok (item, 93 :: tail)) :
    scanItems hooks (fuel + 1) text = .ok ([item], tail) := by
  rw [scanItems, h]
  rfl

/-- An item of an array with others behind it. -/
lemma scanItems_more {next : List Nat} {items : List JsonText}
    (h : scanValue hooks fuel text = .ok (item, 44 :: next)) (hskip : skipSpace next = next)
    (hrest : scanItems hooks fuel next = .ok (items, tail)) :
    scanItems hooks (fuel + 1) text = .ok (item :: items, tail) := by
  have hcomma : skipSpace (44 :: next) = 44 :: next := rfl
  rw [scanItems, h]
  simp [hcomma, hskip, hrest, Except.map]

/-- The last member of an object. -/
lemma scanMembers_last {value key : List Nat}
    (hkey : scanString text = some (key, 58 :: value)) (hskip : skipSpace value = value)
    (h : scanValue hooks fuel value = .ok (item, 125 :: tail)) :
    scanMembers hooks (fuel + 1) (34 :: text) = .ok ([(key, item)], tail) := by
  have hcolon : skipSpace (58 :: value) = 58 :: value := rfl
  have hbrace : skipSpace (125 :: tail) = 125 :: tail := rfl
  rw [scanMembers, hkey]
  simp [hcolon, hskip, h, hbrace]

/-- A member of an object with others behind it. -/
lemma scanMembers_more {value next key : List Nat}
    {members : List (List Nat × JsonText)} (hkey : scanString text = some (key, 58 :: value))
    (hskip : skipSpace value = value) (h : scanValue hooks fuel value = .ok (item, 44 :: next))
    (hnext : skipSpace next = next) (hrest : scanMembers hooks fuel next = .ok (members, tail)) :
    scanMembers hooks (fuel + 1) (34 :: text) = .ok ((key, item) :: members, tail) := by
  have hcolon : skipSpace (58 :: value) = 58 :: value := rfl
  have hcomma : skipSpace (44 :: next) = 44 :: next := rfl
  rw [scanMembers, hkey]
  simp [hcolon, hskip, h, hcomma, hnext, hrest, Except.map]

/-- The hook of integers reads the text of a safe integer. -/
def JsonHooks.ReadsIntegers (hooks : JsonHooks ε) : Prop :=
  ∀ value, -maxSafeInteger ≤ value → value ≤ maxSafeInteger →
    hooks.parseInteger (writeInteger value) = .ok value

mutual

/-- A written value is scanned, whatever closes behind it. -/
theorem scanValue_write (hparse : hooks.ReadsIntegers) : (j : Json) → j.Distinct →
    ∀ text tail fuel, writeValue j = some text → Closes tail → 2 * text.length ≤ fuel + 1 →
    scanValue hooks fuel (text ++ tail) = .ok (scanned j, tail)
  | .null, _, text, tail, fuel, h, _, hfuel => by
    cases h
    obtain ⟨fuel, rfl⟩ : ∃ more, fuel = more + 1 := Nat.exists_eq_add_one.mpr (by
      simp [nullLiteral] at hfuel; omega)
    rfl
  | .bool value, _, text, tail, fuel, h, _, hfuel => by
    obtain ⟨fuel, rfl⟩ : ∃ more, fuel = more + 1 := by
      refine Nat.exists_eq_add_one.mpr ?_
      cases value <;> cases h <;> simp [trueLiteral, falseLiteral] at hfuel <;> omega
    cases value <;> cases h <;> rfl
  | .int value, _, text, tail, fuel, h, htail, hfuel => by
    rw [writeValue] at h
    by_cases hsafe : -maxSafeInteger ≤ value ∧ value ≤ maxSafeInteger
    · rw [if_pos hsafe] at h
      cases h
      have hatom := scanAtom_writeInteger htail (hparse value hsafe.1 hsafe.2)
      obtain ⟨first, rest, htext, hfirst⟩ := writeInteger_cons value
      rw [htext] at hfuel hatom ⊢
      obtain ⟨fuel, rfl⟩ : ∃ more, fuel = more + 1 := Nat.exists_eq_add_one.mpr (by
        simp at hfuel; omega)
      have hdigit : first = 45 ∨ (48 ≤ first ∧ first ≤ 57) := by
        rcases hfirst with hfirst | ⟨hminus, -⟩
        · simp only [isDecimalDigit, Bool.and_eq_true, decide_eq_true_eq] at hfirst
          exact Or.inr hfirst
        · exact Or.inl hminus
      rw [List.cons_append] at hatom ⊢
      rw [scanValue_atom (by omega) (by omega) (by omega), hatom]
      rfl
    · rw [if_neg hsafe] at h
      cases h
  | .float _, _, _, _, _, h, _, _ => by cases h
  | .str value, _, text, tail, fuel, h, _, hfuel => by
    cases h
    obtain ⟨fuel, rfl⟩ : ∃ more, fuel = more + 1 := Nat.exists_eq_add_one.mpr (by
      simp at hfuel; omega)
    rw [List.cons_append, scanValue, scanString_write]
    rfl
  | .arr items, hdistinct, text, tail, fuel, h, _, hfuel => by
    rw [writeValue, Option.map_eq_some_iff] at h
    obtain ⟨texts, htexts, rfl⟩ := h
    obtain ⟨fuel, rfl⟩ : ∃ more, fuel = more + 1 := Nat.exists_eq_add_one.mpr (by
      simp at hfuel; omega)
    rw [List.length_cons] at hfuel
    rw [List.cons_append, scanValue]
    rcases items with _ | ⟨item, rest⟩
    · cases htexts
      rfl
    · have hitems :=
        scanItems_write hparse (item :: rest) hdistinct (by simp) texts tail fuel htexts (by omega)
      obtain ⟨text, more, htext, -, rfl⟩ := writeItems_cons htexts
      obtain ⟨first, start, rfl, hspace, hclose, -⟩ := writeValue_cons htext
      rw [joinTexts_cons, List.cons_append, List.cons_append] at hitems ⊢
      have hskip : ∀ back, skipSpace (first :: back) = first :: back := by
        intro back
        simp [skipSpace, hspace]
      rw [hskip]
      split
      · rename_i heq
        exact absurd (List.cons.inj heq).1 hclose
      · rw [hitems]
        rfl
  | .obj members, hdistinct, text, tail, fuel, h, _, hfuel => by
    rw [writeValue, Option.map_eq_some_iff] at h
    obtain ⟨texts, htexts, rfl⟩ := h
    obtain ⟨fuel, rfl⟩ : ∃ more, fuel = more + 1 := Nat.exists_eq_add_one.mpr (by
      simp at hfuel; omega)
    rw [List.length_cons] at hfuel
    rw [List.cons_append, scanValue]
    rcases members with _ | ⟨⟨key, value⟩, rest⟩
    · cases htexts
      rfl
    · have hmembers :=
        scanMembers_write hparse ((key, value) :: rest) hdistinct (by simp) texts tail fuel htexts
        (by omega)
      obtain ⟨text, more, htext, -, rfl⟩ := writeMembers_cons htexts
      have hkeys : ((scannedMembers ((key, value) :: rest)).map Prod.fst).Nodup := by
        rw [fst_scannedMembers]
        exact (Json.distinctMembers_iff.mp hdistinct).1.map pointsOf_injective
      rw [joinTexts_cons, List.cons_append, List.cons_append] at hmembers ⊢
      exact scanValue_object hmembers hkeys

/-- Written items are scanned. -/
theorem scanItems_write (hparse : hooks.ReadsIntegers) : (items : List Json) →
    Json.DistinctItems items → items ≠ [] → ∀ texts tail fuel, writeItems items = some texts →
    2 * (joinTexts 93 texts).length ≤ fuel →
    scanItems hooks fuel (joinTexts 93 texts ++ tail) = .ok (scannedItems items, tail)
  | [], _, hne, _, _, _, _, _ => absurd rfl hne
  | item :: rest, hdistinct, _, texts, tail, fuel, h, hfuel => by
    obtain ⟨text, more, htext, hmore, rfl⟩ := writeItems_cons h
    rw [joinTexts_cons] at hfuel ⊢
    obtain ⟨fuel, rfl⟩ : ∃ less, fuel = less + 1 := Nat.exists_eq_add_one.mpr (by
      by_cases hnil : more = [] <;> simp [hnil] at hfuel <;> omega)
    by_cases hnil : more = []
    · subst hnil
      obtain rfl := writeItems_eq_nil hmore
      rw [if_pos rfl] at hfuel ⊢
      rw [List.length_append, List.length_singleton] at hfuel
      have hvalue := scanValue_write hparse item hdistinct.1 text ([93] ++ tail) fuel htext
        (Or.inr ⟨93, tail, rfl, by simp⟩) (by omega)
      rw [List.append_assoc]
      exact scanItems_last hvalue
    · rw [if_neg hnil] at hfuel ⊢
      rw [List.length_append, List.length_cons] at hfuel
      have hvalue :=
        scanValue_write hparse item hdistinct.1 text (44 :: (joinTexts 93 more ++ tail)) fuel htext
        (Or.inr ⟨44, _, rfl, by simp⟩) (by omega)
      have hrest : rest ≠ [] := by
        rintro rfl
        cases hmore
        exact hnil rfl
      have hitems := scanItems_write hparse rest hdistinct.2 hrest more tail fuel hmore (by omega)
      have hskip : skipSpace (joinTexts 93 more ++ tail) = joinTexts 93 more ++ tail := by
        obtain ⟨next, later, rfl⟩ := List.exists_cons_of_ne_nil hrest
        obtain ⟨start, texts, hstart, -, rfl⟩ := writeItems_cons hmore
        rw [joinTexts_cons, List.append_assoc]
        exact skipSpace_write hstart _
      rw [List.append_assoc]
      exact scanItems_more hvalue hskip hitems

/-- Written members are scanned. -/
theorem scanMembers_write (hparse : hooks.ReadsIntegers) : (members : List (String × Json)) →
    Json.DistinctMembers members → members ≠ [] → ∀ texts tail fuel,
      writeMembers members = some texts →
    2 * (joinTexts 125 texts).length ≤ fuel →
    scanMembers hooks fuel (joinTexts 125 texts ++ tail) = .ok (scannedMembers members, tail)
  | [], _, hne, _, _, _, _, _ => absurd rfl hne
  | (key, value) :: rest, hdistinct, _, texts, tail, fuel, h, hfuel => by
    obtain ⟨text, more, htext, hmore, rfl⟩ := writeMembers_cons h
    obtain ⟨hvalueDistinct, -, hrestDistinct⟩ := hdistinct
    rw [joinTexts_cons, List.cons_append] at hfuel ⊢
    obtain ⟨fuel, rfl⟩ : ∃ less, fuel = less + 1 := Nat.exists_eq_add_one.mpr (by
      simp at hfuel; omega)
    rw [List.cons_append, List.append_assoc, List.append_assoc, List.cons_append]
    by_cases hnil : more = []
    · subst hnil
      obtain rfl := writeMembers_eq_nil hmore
      rw [if_pos rfl] at hfuel ⊢
      simp only [List.length_cons, List.length_append, List.length_nil] at hfuel
      have hvalue := scanValue_write hparse value hvalueDistinct text ([125] ++ tail) fuel htext
        (Or.inr ⟨125, tail, rfl, by simp⟩) (by omega)
      exact scanMembers_last (scanString_write _ _) (skipSpace_write htext _) hvalue
    · rw [if_neg hnil] at hfuel ⊢
      simp only [List.length_cons, List.length_append] at hfuel
      have hvalue :=
        scanValue_write hparse value hvalueDistinct text (44 :: (joinTexts 125 more ++ tail)) fuel
        htext (Or.inr ⟨44, _, rfl, by simp⟩) (by omega)
      have hrest : rest ≠ [] := by
        rintro rfl
        cases hmore
        exact hnil rfl
      have hmembers :=
        scanMembers_write hparse rest hrestDistinct hrest more tail fuel hmore (by omega)
      have hskip : skipSpace (joinTexts 125 more ++ tail) = joinTexts 125 more ++ tail := by
        obtain ⟨⟨next, held⟩, later, rfl⟩ := List.exists_cons_of_ne_nil hrest
        obtain ⟨start, texts, -, -, rfl⟩ := writeMembers_cons hmore
        rw [joinTexts_cons]
        rfl
      exact scanMembers_more (scanString_write _ _) (skipSpace_write htext _) hvalue hskip hmembers

end

/-- The text of an object is read as that object, by any reader of integers. -/
theorem jsonLoads_write (hparse : hooks.ReadsIntegers) {members : List (String × Json)}
    (hdistinct : Json.DistinctMembers members) (h : writeValue (.obj members) = some text) :
    jsonLoads hooks text = .ok (.obj (scannedMembers members)) := by
  have hskip := skipSpace_write h []
  have hvalue := scanValue_write hparse (.obj members) hdistinct text [] (2 * text.length + 1) h
    (Or.inl rfl) (by omega)
  rw [List.append_nil] at hskip hvalue
  rw [jsonLoads, hskip, hvalue]
  rfl

end Scan

end Foundation
