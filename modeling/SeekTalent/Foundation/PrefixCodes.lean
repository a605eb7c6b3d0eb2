import Mathlib.Data.List.Basic
import Mathlib.Data.Nat.Basic
import Mathlib.Algebra.Group.Nat.Defs

/-!
# Texts that can be told apart from the left

A prefix code writes values such that a value can be read off the front of a text, whatever follows
it.  Words of a prefix code are told apart in a sequence of them as well, if the sequence is closed
by a symbol with which no word begins.

The texts in quotes that `json.dumps` writes when it is told to write ASCII only are a prefix code,
and so are its lists of them.
-/

namespace Foundation

variable {α β : Type*}

/-! ## Prefix codes -/

/-- Whatever follows, what is written first can be told. -/
def PrefixCode (write : α → List β) : Prop :=
  ∀ a b r r', write a ++ r = write b ++ r' → a = b ∧ r = r'

/-- The symbols with which no word of a code begins. -/
def NeverFirst (write : α → List β) (symbol : β) : Prop :=
  ∀ a r r', write a ++ r ≠ symbol :: r'

section Codes

variable {write : α → List β}

/-- What is written in a prefix code determines what it was written for. -/
lemma PrefixCode.injective (h : PrefixCode write) : Function.Injective write := fun a b heq =>
  (h a b [] [] (by rw [heq])).1

/-- A code that can be read is a prefix code. -/
lemma PrefixCode.of_read {read : List β → Option (α × List β)}
    (h : ∀ a r, read (write a ++ r) = some (a, r)) : PrefixCode write := fun a b r r' heq => by
  have hread := h a r
  rw [heq, h b r', Option.some.injEq, Prod.mk.injEq] at hread
  exact ⟨hread.1.symm, hread.2.symm⟩

/-- The same in front of every word changes nothing. -/
lemma PrefixCode.behind (h : PrefixCode write) (front : List β) : PrefixCode fun a =>
    front ++ write a :=
  fun a b r r' heq => by
    rw [List.append_assoc, List.append_assoc] at heq
    exact h a b r r' (List.append_cancel_left heq)

/-- Words in a row, closed by a symbol with which none of them begins. -/
lemma PrefixCode.flatMap (h : PrefixCode write) {stop : β} (hstop : NeverFirst write stop) :
    PrefixCode fun words : List α => words.flatMap write ++ [stop] := by
  intro words
  induction words with
  | nil =>
    intro others r r' heq
    cases others with
    | nil => exact ⟨rfl, List.tail_eq_of_cons_eq heq⟩
    | cons b others =>
      simp only [List.flatMap_nil, List.nil_append, List.singleton_append, List.flatMap_cons,
        List.append_assoc] at heq
      exact absurd heq.symm (hstop b _ _)
  | cons a words ih =>
    intro others r r' heq
    cases others with
    | nil =>
      simp only [List.flatMap_nil, List.nil_append, List.singleton_append, List.flatMap_cons,
        List.append_assoc] at heq
      exact absurd heq (hstop a _ _)
    | cons b others =>
      simp only [List.flatMap_cons, List.append_assoc] at heq
      obtain ⟨rfl, hrest⟩ := h a b _ _ heq
      obtain ⟨rfl, htail⟩ := ih others r r' (by simpa only [List.append_assoc] using hrest)
      exact ⟨rfl, htail⟩

/-- Words with a separator between them: the first one, and each of the others behind a
separator. -/
def separated (separator : β) (write : α → List β) : List α → List β
  | [] => []
  | first :: rest => write first ++ rest.flatMap fun a => separator :: write a

/-- Words with a separator between them, closed by another symbol with which none of them begins. -/
lemma PrefixCode.separated (h : PrefixCode write) {separator stop : β} (hne : separator ≠ stop)
    (hstop : NeverFirst write stop) :
    PrefixCode fun words : List α => Foundation.separated separator write words ++ [stop] := by
  have hrest : PrefixCode fun words : List α =>
    (words.flatMap fun a => separator :: write a) ++ [stop] :=
    PrefixCode.flatMap (h.behind [separator]) fun a r r' heq => hne (List.head_eq_of_cons_eq heq)
  intro words others r r' heq
  cases words with
  | nil =>
    cases others with
    | nil => exact ⟨rfl, List.tail_eq_of_cons_eq heq⟩
    | cons b others =>
      simp only [Foundation.separated, List.nil_append, List.singleton_append,
        List.append_assoc] at heq
      exact absurd heq.symm (hstop b _ _)
  | cons a words =>
    cases others with
    | nil =>
      simp only [Foundation.separated, List.nil_append, List.singleton_append,
        List.append_assoc] at heq
      exact absurd heq (hstop a _ _)
    | cons b others =>
      simp only [Foundation.separated, List.append_assoc] at heq
      obtain ⟨rfl, htail⟩ := h a b _ _ heq
      obtain ⟨rfl, hr⟩ := hrest words others r r' (by simpa only [List.append_assoc] using htail)
      exact ⟨rfl, hr⟩

end Codes

/-! ## JSON texts in ASCII -/

/-- A hexadecimal digit. -/
def hexSymbol (value : Nat) : Char :=
  Char.ofNat (if value < 10 then 48 + value else 87 + value)

/-- What a hexadecimal digit stands for. -/
def hexValue (digit : Char) : Nat :=
  if digit.toNat < 58 then digit.toNat - 48 else digit.toNat - 87

/-- `'\\u{0:04x}'`. -/
def writeUnit (unit : Nat) : List Char :=
  ['\\', 'u', hexSymbol (unit / 4096 % 16), hexSymbol (unit / 256 % 16), hexSymbol (unit / 16 % 16),
    hexSymbol (unit % 16)]

/-- A character of a text, as `json.dumps` with `ensure_ascii` writes it. -/
def writeAscii (c : Char) : List Char :=
  if c = '"' then ['\\', '"']
  else if c = '\\' then ['\\', '\\']
  else if c = '\n' then ['\\', 'n']
  else if c = '\r' then ['\\', 'r']
  else if c = '\t' then ['\\', 't']
  else if c.toNat = 12 then ['\\', 'f']
  else if c.toNat = 8 then ['\\', 'b']
  else if 32 ≤ c.toNat ∧ c.toNat ≤ 126 then [c]
  else if c.toNat < 65536 then writeUnit c.toNat
  else
    writeUnit (55296 + (c.toNat - 65536) / 1024) ++ writeUnit (56320 + (c.toNat - 65536) % 1024)

/-- A text in quotes, as `json.dumps` with `ensure_ascii` writes it. -/
def writeAsciiText (text : String) : List Char :=
  '"' :: (text.toList.flatMap writeAscii ++ ['"'])

lemma hexValue_hexSymbol {value : Nat} (h : value < 16) : hexValue (hexSymbol value) = value := by
  have hall : ∀ value : Fin 16, hexValue (hexSymbol value) = value := by decide
  exact hall ⟨value, h⟩

/-- The unit that four hexadecimal digits spell. -/
def readUnit (a b c d : Char) : Nat :=
  hexValue a * 4096 + hexValue b * 256 + hexValue c * 16 + hexValue d

lemma readUnit_writeUnit {unit : Nat} (h : unit < 65536) :
    readUnit (hexSymbol (unit / 4096 % 16)) (hexSymbol (unit / 256 % 16))
      (hexSymbol (unit / 16 % 16))
      (hexSymbol (unit % 16)) = unit := by
  unfold readUnit
  rw [hexValue_hexSymbol (Nat.mod_lt _ (by decide)), hexValue_hexSymbol (Nat.mod_lt _ (by decide)),
    hexValue_hexSymbol (Nat.mod_lt _ (by decide)), hexValue_hexSymbol (Nat.mod_lt _ (by decide))]
  omega

/-- The character at the front of an ASCII text. -/
def readAscii : List Char → Option (Char × List Char)
  | '\\' :: 'u' :: a :: b :: c :: d :: rest =>
      if 55296 ≤ readUnit a b c d ∧ readUnit a b c d < 56320 then
        match rest with
        | '\\' :: 'u' :: a' :: b' :: c' :: d' :: rest =>
            some (Char.ofNat
              (65536 + (readUnit a b c d - 55296) * 1024 + (readUnit a' b' c' d' - 56320)), rest)
        | _ => none
      else some (Char.ofNat (readUnit a b c d), rest)
  | '\\' :: 'n' :: rest => some ('\n', rest)
  | '\\' :: 'r' :: rest => some ('\r', rest)
  | '\\' :: 't' :: rest => some ('\t', rest)
  | '\\' :: 'f' :: rest => some (Char.ofNat 12, rest)
  | '\\' :: 'b' :: rest => some (Char.ofNat 8, rest)
  | '\\' :: c :: rest => some (c, rest)
  | c :: rest => some (c, rest)
  | [] => none

lemma readAscii_plain {c : Char} (h : c ≠ '\\') (rest : List Char) :
    readAscii (c :: rest) = some (c, rest) := by
  unfold readAscii
  split <;> simp_all

lemma readAscii_writeUnit {unit : Nat} (h : unit < 65536) (hplain : ¬(55296 ≤ unit ∧ unit < 56320))
    (rest : List Char) : readAscii (writeUnit unit ++ rest) = some (Char.ofNat unit, rest) := by
  simp only [writeUnit, List.cons_append, List.nil_append, readAscii, readUnit_writeUnit h,
    if_neg hplain]

lemma readAscii_writeUnits {high low : Nat} (hhigh : 55296 ≤ high ∧ high < 56320)
    (hlow : low < 65536) (rest : List Char) :
    readAscii (writeUnit high ++ (writeUnit low ++ rest)) =
      some (Char.ofNat (65536 + (high - 55296) * 1024 + (low - 56320)), rest) := by
  have hunit : high < 65536 := by omega
  simp only [writeUnit, List.cons_append, List.nil_append, readAscii, readUnit_writeUnit hunit,
    if_pos hhigh, readUnit_writeUnit hlow]

/-- A character that was written is read back. -/
lemma readAscii_writeAscii (c : Char) (rest : List Char) : readAscii (writeAscii c ++ rest) = some
    (c, rest) := by
  have hvalid : c.toNat < 55296 ∨ (57343 < c.toNat ∧ c.toNat < 1114112) := c.valid
  unfold writeAscii
  split_ifs with hquote hslash hnewline hreturn htab hfeed hback hprintable hunit
  · rw [hquote]; rfl
  · rw [hslash]; rfl
  · rw [hnewline]; rfl
  · rw [hreturn]; rfl
  · rw [htab]; rfl
  · rw [← Char.ofNat_toNat c, hfeed]; rfl
  · rw [← Char.ofNat_toNat c, hback]; rfl
  · exact readAscii_plain hslash rest
  · rw [readAscii_writeUnit hunit (by omega), Char.ofNat_toNat]
  · rw [List.append_assoc, readAscii_writeUnits (by omega) (by omega)]
    have hcode : 65536 + (55296 + (c.toNat - 65536) / 1024 - 55296) * 1024 +
        (56320 + (c.toNat - 65536) % 1024 - 56320) = c.toNat := by omega
    rw [hcode, Char.ofNat_toNat]

/-- No character is written with a quote in front. -/
lemma neverFirst_writeAscii : NeverFirst writeAscii '"' := by
  intro c r r' heq
  unfold writeAscii writeUnit at heq
  split_ifs at heq <;> simp_all

/-- Quoted texts are a prefix code. -/
lemma prefixCode_writeAsciiText : PrefixCode writeAsciiText := fun a b r r' heq => by
  obtain ⟨htext, hrest⟩ :=
    ((PrefixCode.of_read readAscii_writeAscii).flatMap neverFirst_writeAscii).behind ['"']
    a.toList b.toList r r' heq
  exact ⟨String.toList_injective htext, hrest⟩

end Foundation
