import SeekTalent.Foundation.JsonGrammar
import SeekTalent.Foundation.JsonRoundTrip
import SeekTalent.SourcePort.StrictJson

/-!
# What comes of the bytes of a strict document

`strict_json_object_loads` with the limits of the interpreter: `int` converts at most `maxStrDigits`
digits and raises a plain `ValueError` beyond them, which neither handler of the loader catches. 
The reader of frames counts the digits before it converts them (`strictCanonicalJsonObject`).

`Settles` is the contract: a document whose text is spelled by the strict grammar, or a
`StrictJsonError`.
-/

namespace SeekTalent.SourcePort

open Foundation

/-! ## The contract -/

/-- The integers of a strict document: safe ones, and no negative zero. -/
def ReadsStrictly (text : List Nat) (value : Int) : Prop :=
  text ≠ [45, 48] ∧ value = decimalValue text ∧ isJsonSafe value = true

/-- The bytes are the UTF-8 text, without a byte order mark, of an object of the strict grammar: no
key occurs twice in an object of it, its numbers are safe integers, its strings have no surrogate,
and there is nothing but whitespace around it. -/
def StrictDocument (raw : Bytes) (document : JsonDict) : Prop :=
  ∃ text members decoded, decodeUtf8 raw = some text ∧ text.head? ≠ some 0xfeff ∧
    DocumentText ReadsStrictly text (.obj members) ∧ membersToJson members = some decoded ∧
      document = JsonDict.ofMembers decoded

namespace InterpreterStack

variable {stack : InterpreterStack} {raw : Bytes}

/-- The bytes come to `json.loads`, and it does not run out of stack on their text. -/
def Scans (stack : InterpreterStack) (raw : Bytes) (text : List Nat) : Prop :=
  decodeUtf8 raw = some text ∧ text.head? ≠ some 0xfeff ∧ stack.scannerRecurses text = false

/-- The loader returns a strict document or raises a `StrictJsonError`. -/
def Settles (stack : InterpreterStack) (raw : Bytes) : Prop :=
  match stack.strictLoads raw with
  | .ok document => StrictDocument raw document
  | .error (.strict _) => True
  | .error .valueError => False

/-- The integers that the loader returns are those of a strict document. -/
lemma readsStrictly_of_parse {text : List Nat} {value : Int}
    (h : strictLoadsHooks.parseInteger text = .ok value) : ReadsStrictly text value := by
  have hparse : parseConvertibleInteger text = .ok value := h
  unfold parseConvertibleInteger at hparse
  split_ifs at hparse with hzero hshort hsafe
  obtain rfl : decimalValue text = value := Except.ok.inj hparse
  exact ⟨hzero, rfl, hsafe⟩

/-- A document that is returned is strict. -/
theorem strictDocument_of_loads {document : JsonDict} (h : stack.strictLoads raw = .ok document) :
    StrictDocument raw document := by
  unfold strictLoads at h
  split at h
  · cases h
  · rename_i text htext
    split_ifs at h with hmark hdeep
    split at h
    · cases h
    · rename_i members hloads
      split_ifs at h with hlong
      split at h
      · cases h
      · rename_i decoded hdecoded
        have hgrammar := jsonLoads_sound (fun _ _ => readsStrictly_of_parse) hloads
        exact ⟨text, members, decoded, htext, hmark, hgrammar, hdecoded, (Except.ok.inj h).symm⟩
    · cases h

/-- Only `int` raises `ValueError`. -/
lemma parseInteger_valueError {number : List Nat} :
    strictLoadsHooks.parseInteger number = .error .valueError ↔ convertible number = false := by
  show parseConvertibleInteger number = .error .valueError ↔ _
  unfold parseConvertibleInteger
  by_cases hzero : number = [45, 48]
  · rw [if_pos hzero, hzero]
    decide
  · rw [if_neg hzero]
    by_cases hshort : convertible number = true
    · rw [if_pos hshort, hshort]
      split <;> simp
    · rw [if_neg hshort]
      simpa using hshort

/-- `ValueError` comes out exactly when the scanner reaches an integer of too many digits. -/
theorem strictLoads_valueError : stack.strictLoads raw = .error .valueError ↔
    ∃ text number, stack.Scans raw text ∧ strictLoadsHooks.Reaches text number ∧
      convertible number = false := by
  have hscan : ∀ text, jsonLoads strictLoadsHooks text = .error .valueError ↔
      ∃ number, strictLoadsHooks.Reaches text number ∧ convertible number = false := by
    intro text
    have hother : ∀ reason, StrictLoadsFailure.valueError ≠ .strict reason := nofun
    rw [jsonLoads_error_iff strictLoadsHooks (hother _) (hother _) (hother _)]
    exact exists_congr fun number => and_congr_right fun _ => parseInteger_valueError
  constructor
  · intro h
    unfold strictLoads at h
    split at h
    · cases h
    · rename_i text htext
      split_ifs at h with hmark hdeep
      · cases h
      · cases h
      · split at h
        · rename_i failed hfailed
          obtain rfl : failed = .valueError := Except.error.inj h
          obtain ⟨number, hnumber⟩ := (hscan text).mp hfailed
          exact ⟨text, number, ⟨htext, hmark, by simpa using hdeep⟩, hnumber⟩
        · split at h
          · cases h
          · split at h <;> cases h
        · cases h
  · rintro ⟨text, number, ⟨htext, hmark, hdeep⟩, hnumber⟩
    have hfailed := (hscan text).mpr ⟨number, hnumber⟩
    unfold strictLoads
    rw [htext]
    dsimp only
    rw [if_neg hmark, hdeep, if_neg Bool.false_ne_true, hfailed]

/-- The loader settles bytes exactly when no integer that `json.loads` hands to `int` has more
digits than `int` converts. -/
theorem settles_iff (stack : InterpreterStack) (raw : Bytes) :
    stack.Settles raw ↔
      ∀ text number, stack.Scans raw text → strictLoadsHooks.Reaches text number →
        convertible number = true := by
  have hvalue : stack.Settles raw ↔ stack.strictLoads raw ≠ .error .valueError := by
    unfold Settles
    split
    · rename_i document hloads
      exact iff_of_true (strictDocument_of_loads hloads) (by simp [hloads])
    · rename_i reason hloads
      exact iff_of_true trivial (by simp [hloads])
    · rename_i hloads
      exact iff_of_false id (by simp [hloads])
  rw [hvalue, Ne, strictLoads_valueError]
  push Not
  simp only [Bool.not_eq_false]

/-! ## A long integer -/

/-- A stack that is never exhausted. -/
def deepStack : InterpreterStack where
  scannerRecurses _ := false
  validatorRecurses _ := false

/-- The text of the object whose one member has the key `n` and the number. -/
def singleNumber (number : List Nat) : List Nat :=
  123 :: 34 :: 110 :: 34 :: 58 :: (number ++ [125])

/-- The scanner stops at an integer that it is told to stop at. -/
lemma scanAtom_stopAt {ε : Type} (hooks : JsonHooks ε) {first : Nat} {digits : List Nat}
    (hfirst : 49 ≤ first ∧ first ≤ 57) (hdigits : ∀ digit ∈ digits, isDecimalDigit digit = true) :
    scanAtom (hooks.stopAt (first :: digits)) (first :: digits ++ [125]) = .error none := by
  have hdigit : isDecimalDigit first = true := by
    simp only [isDecimalDigit, Bool.and_eq_true, decide_eq_true_eq]
    omega
  have hscan : scanInteger (first :: digits ++ [125]) = some (first :: digits, [125]) := by
    rw [List.cons_append, scanInteger, scanDigits, if_pos hdigit,
      List.takeWhile_append_of_pos hdigits, List.dropWhile_append_of_pos hdigits]
    · simp [isDecimalDigit]
    · intro hzero
      omega
    · intro rest hminus
      have hsign := (List.cons.inj hminus).1
      omega
  have hconstants : constantLiterals.any (fun literal =>
      (afterLiteral literal (first :: digits ++ [125])).isSome) = false := by
    simp only [constantLiterals, List.any_cons, List.any_nil, List.cons_append,
      afterLiteral_digit hdigit (show isDecimalDigit 78 = false from rfl),
      afterLiteral_digit hdigit (show isDecimalDigit 73 = false from rfl),
      afterLiteral_digit hdigit (show isDecimalDigit 45 = false from rfl)]
    rfl
  have hnone : ∀ {expected literal}, isDecimalDigit expected = false →
      afterLiteral (expected :: literal) (first :: digits ++ [125]) = none :=
    fun hexpected => afterLiteral_digit hdigit hexpected
  rw [scanAtom, nullLiteral, trueLiteral, falseLiteral, hnone rfl, hnone rfl, hnone rfl]
  dsimp only
  rw [hconstants, if_neg Bool.false_ne_true, scanNumber, hscan]
  simp [continuesAsFloat, JsonHooks.stopAt, Except.map]

/-- The scanner of a single number gets to its digits. -/
lemma reaches_singleNumber {ε : Type} (hooks : JsonHooks ε) {first : Nat} {digits : List Nat}
    (hfirst : 49 ≤ first ∧ first ≤ 57) (hdigits : ∀ digit ∈ digits, isDecimalDigit digit = true) :
    hooks.Reaches (singleNumber (first :: digits)) (first :: digits) := by
  have hvalue : ∀ fuel,
    scanValue (hooks.stopAt (first :: digits)) (fuel + 1) (first :: digits ++ [125]) =
      .error none := by
    intro fuel
    rw [List.cons_append, scanValue_atom (by omega) (by omega) (by omega), ← List.cons_append,
      scanAtom_stopAt hooks hfirst hdigits]
  have hskip : skipSpace (first :: digits ++ [125]) = first :: digits ++ [125] := by
    have hplain : isJsonSpace first = false := by
      simp only [isJsonSpace, Bool.or_eq_false_iff, beq_eq_false_iff_ne]
      omega
    rw [List.cons_append, skipSpace, List.dropWhile_cons_of_neg (by simp [hplain])]
  have hmembers : ∀ fuel, scanMembers (hooks.stopAt (first :: digits)) (fuel + 2)
      (34 :: 110 :: 34 :: 58 :: (first :: digits ++ [125])) = .error none := by
    intro fuel
    have hkey : scanString (110 :: 34 :: 58 :: (first :: digits ++ [125])) =
        some ([110], 58 :: (first :: digits ++ [125])) := rfl
    have hcolon : skipSpace (58 :: (first :: digits ++ [125])) = 58 :: (first :: digits ++ [125]) :=
      rfl
    rw [scanMembers, hkey]
    simp only [hcolon, hskip, hvalue fuel]
  have hobject : ∀ fuel, scanValue (hooks.stopAt (first :: digits)) (fuel + 3)
      (singleNumber (first :: digits)) = .error none := by
    intro fuel
    have hquote : skipSpace (34 :: 110 :: 34 :: 58 :: (first :: digits ++ [125])) =
        34 :: 110 :: 34 :: 58 :: (first :: digits ++ [125]) := rfl
    rw [singleNumber, scanValue, hquote]
    simp only [hmembers fuel]
  have hfuel : 2 * (singleNumber (first :: digits)).length + 1 =
      2 * (singleNumber (first :: digits)).length - 2 + 3 := by
    simp only [singleNumber, List.length_cons]
    omega
  unfold JsonHooks.Reaches jsonLoads
  rw [show skipSpace (singleNumber (first :: digits)) = singleNumber (first :: digits) from rfl,
    hfuel, hobject]

/-- One digit more than `int` converts. -/
def longInteger : List Nat := 49 :: List.replicate maxStrDigits 49

/-- The long integer is not converted. -/
lemma convertible_longInteger : convertible longInteger = false := by
  have hdigits : longInteger.filter isDecimalDigit = longInteger :=
    List.filter_eq_self.mpr fun digit hdigit => by
      rw [longInteger, ← List.replicate_succ] at hdigit
      rw [List.eq_of_mem_replicate hdigit]
      decide
  unfold convertible
  rw [hdigits, longInteger, List.length_cons, List.length_replicate]
  simp

/-- A `ValueError` escapes on the object whose one member is an integer of 4301 digits. -/
theorem longInteger_escapes :
    ¬deepStack.Settles ((singleNumber longInteger).flatMap encodePoint) := by
  have hones : ∀ digit ∈ List.replicate maxStrDigits 49, digit = 49 := fun _ =>
    List.eq_of_mem_replicate
  have hscalar : ∀ point ∈ singleNumber longInteger, IsScalar point := by
    intro point hpoint
    have hsmall : point < 128 := by
      simp only [singleNumber, longInteger, List.mem_cons, List.mem_append,
        List.not_mem_nil] at hpoint
      have hdigit := hones point
      grind
    exact .inl (by omega)
  rw [settles_iff]
  intro hsettles
  have hdigits : ∀ digit ∈ List.replicate maxStrDigits 49, isDecimalDigit digit = true := by
    intro digit hdigit
    rw [hones digit hdigit]
    decide
  have hreaches : strictLoadsHooks.Reaches (singleNumber longInteger) longInteger :=
    reaches_singleNumber strictLoadsHooks (by omega) hdigits
  have hshort :=
    hsettles _ longInteger ⟨decodeUtf8_encode hscalar, by simp [singleNumber], rfl⟩ hreaches
  exact (nomatch hshort.symm.trans convertible_longInteger)

end InterpreterStack

end SeekTalent.SourcePort
