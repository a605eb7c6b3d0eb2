import SeekTalent.Foundation.JsonWriter

/-!
# The round trip of canonical JSON

A scanned document is the document that was written (`toJson_scanned`), its bytes are decoded to its
text (`decodeUtf8_encode`), and it has no more bytes than `writeBound` says.
-/

namespace Foundation

variable {a : UInt8} {rest : List UInt8} {point : Nat}

/-! ## Documents -/

/-- A string is made of scalar values. -/
lemma scalarString_pointsOf (text : String) : scalarString (pointsOf text) = some text := by
  have hscalar : ∀ character : Char, ¬(0xd800 ≤ character.toNat ∧ character.toNat ≤ 0xdfff) := by
    intro character hsurrogate
    have hvalid := character.valid
    unfold UInt32.isValidChar Nat.isValidChar at hvalid
    have hnat : character.toNat = character.val.toNat := rfl
    omega
  unfold scalarString pointsOf
  rw [if_pos]
  · rw [List.map_map]
    have hback : (Char.ofNat ∘ Char.toNat) = id := by
      funext character
      exact Char.ofNat_toNat character
    rw [hback, List.map_id, String.ofList_toList]
  · rw [List.all_eq_true]
    intro point hpoint
    obtain ⟨character, -, rfl⟩ := List.mem_map.mp hpoint
    have hcharacter := hscalar character
    simp only [Bool.not_eq_true', Bool.and_eq_false_iff, decide_eq_false_iff_not]
    omega

mutual

/-- The scanned tree of a document is that document. -/
theorem toJson_scanned : (j : Json) → j.FloatFree → (scanned j).toJson = some j
  | .null, _ => rfl
  | .bool _, _ => rfl
  | .int _, _ => rfl
  | .str value, _ => by simp [scanned, JsonText.toJson, scalarString_pointsOf]
  | .arr items, h => by simp [scanned, JsonText.toJson, itemsToJson_scanned items h]
  | .obj members, h => by simp [scanned, JsonText.toJson, membersToJson_scanned members h]

/-- The scanned trees of items are those items. -/
theorem itemsToJson_scanned : (items : List Json) → Json.FloatFreeItems items →
    itemsToJson (scannedItems items) = some items
  | [], _ => rfl
  | item :: rest, h => by
    simp [scannedItems, itemsToJson, toJson_scanned item h.1, itemsToJson_scanned rest h.2]

/-- The scanned trees of members are those members. -/
theorem membersToJson_scanned : (members : List (String × Json)) → Json.FloatFreeMembers members →
    membersToJson (scannedMembers members) = some members
  | [], _ => rfl
  | (key, value) :: rest, h => by
    simp [scannedMembers, membersToJson, scalarString_pointsOf, toJson_scanned value h.1,
      membersToJson_scanned rest h.2]

end

mutual

/-- What is written has no floating-point number. -/
theorem floatFree_of_write : (j : Json) → ∀ text, writeValue j = some text → j.FloatFree
  | .null, _, _ => trivial
  | .bool _, _, _ => trivial
  | .int _, _, _ => trivial
  | .str _, _, _ => trivial
  | .arr items, text, h => by
    rw [writeValue, Option.map_eq_some_iff] at h
    obtain ⟨texts, htexts, -⟩ := h
    exact floatFreeItems_of_write items texts htexts
  | .obj members, text, h => by
    rw [writeValue, Option.map_eq_some_iff] at h
    obtain ⟨texts, htexts, -⟩ := h
    exact floatFreeMembers_of_write members texts htexts

/-- What is written of items has no floating-point number. -/
theorem floatFreeItems_of_write : (items : List Json) → ∀ texts, writeItems items = some texts →
    Json.FloatFreeItems items
  | [], _, _ => trivial
  | item :: rest, _, h => by
    obtain ⟨text, more, htext, hmore, -⟩ := writeItems_cons h
    exact ⟨floatFree_of_write item text htext, floatFreeItems_of_write rest more hmore⟩

/-- What is written of members has no floating-point number. -/
theorem floatFreeMembers_of_write : (members : List (String × Json)) → ∀ texts,
    writeMembers members = some texts → Json.FloatFreeMembers members
  | [], _, _ => trivial
  | (_, value) :: rest, _, h => by
    obtain ⟨text, more, htext, hmore, -⟩ := writeMembers_cons h
    exact ⟨floatFree_of_write value text htext, floatFreeMembers_of_write rest more hmore⟩

end

/-! ## Bytes -/

/-- A Unicode scalar value. -/
def IsScalar (point : Nat) : Prop :=
  point < 0xd800 ∨ (0xdfff < point ∧ point < 0x110000)

/-- The number of a byte that fits. -/
lemma toNat_ofNat_of_lt {value : Nat} (h : value < 256) : (UInt8.ofNat value).toNat = value := by
  rw [UInt8.toNat_ofNat']
  omega

/-- A continuation byte is one. -/
lemma isTail_ofNat (value : Nat) : isTail (UInt8.ofNat (128 + value % 64)) = true := by
  rw [isTail, toNat_ofNat_of_lt (by omega)]
  simp only [Bool.and_eq_true, decide_eq_true_eq]
  omega

/-- A code point in one byte. -/
lemma decodeUtf8_one (ha : a.toNat < 128) :
    decodeUtf8 (a :: rest) = consDecoded a.toNat (decodeUtf8 rest) := by
  rw [decodeUtf8.eq_def]
  simp only [if_pos ha]

/-- A code point in two bytes. -/
lemma decodeUtf8_two {b : UInt8} (ha : 194 ≤ a.toNat ∧ a.toNat < 224) (hb : isTail b = true) :
    decodeUtf8 (a :: b :: rest) =
      consDecoded ((a.toNat - 192) * 64 + (b.toNat - 128)) (decodeUtf8 rest) := by
  have hwide : ¬ a.toNat < 128 := by omega
  rw [decodeUtf8.eq_def]
  simp only [if_neg hwide, hb, if_pos ha, Bool.not_true, Bool.false_eq_true, if_false]

/-- A code point in three bytes. -/
lemma decodeUtf8_three {b c : UInt8}
    (ha : 224 ≤ a.toNat ∧ a.toNat < 240) (hb : isTail b = true) (hc : isTail c = true)
    (hpoint : (a.toNat - 224) * 4096 + (b.toNat - 128) * 64 + (c.toNat - 128) = point)
    (hscalar : ¬(point < 2048 ∨ (0xd800 ≤ point ∧ point ≤ 0xdfff))) :
    decodeUtf8 (a :: b :: c :: rest) = consDecoded point (decodeUtf8 rest) := by
  have hwide : ¬ a.toNat < 128 := by omega
  have hlong : ¬(194 ≤ a.toNat ∧ a.toNat < 224) := by omega
  rw [decodeUtf8.eq_def]
  simp only [if_neg hwide, hb, hc, if_neg hlong, if_pos ha, Bool.not_true, Bool.false_eq_true,
    if_false, hpoint, if_neg hscalar]

/-- A code point in four bytes. -/
lemma decodeUtf8_four {b c d : UInt8}
    (ha : 240 ≤ a.toNat ∧ a.toNat < 245) (hb : isTail b = true) (hc : isTail c = true)
    (hd : isTail d = true)
    (hpoint : (a.toNat - 240) * 262144 + (b.toNat - 128) * 4096 + (c.toNat - 128) * 64 +
      (d.toNat - 128) = point)
    (hscalar : ¬(point < 65536 ∨ 0x10ffff < point)) :
    decodeUtf8 (a :: b :: c :: d :: rest) = consDecoded point (decodeUtf8 rest) := by
  have hwide : ¬ a.toNat < 128 := by omega
  have hlong : ¬(194 ≤ a.toNat ∧ a.toNat < 224) := by omega
  have hlonger : ¬(224 ≤ a.toNat ∧ a.toNat < 240) := by omega
  rw [decodeUtf8.eq_def]
  simp only [if_neg hwide, hb, hc, hd, if_neg hlong, if_neg hlonger, if_pos ha, Bool.not_true,
    Bool.false_eq_true, if_false, hpoint, if_neg hscalar]

/-- An encoded code point is decoded, whatever follows. -/
lemma decodeUtf8_encodePoint (h : IsScalar point) (rest : List UInt8) :
    decodeUtf8 (encodePoint point ++ rest) = consDecoded point (decodeUtf8 rest) := by
  unfold IsScalar at h
  have hbyte : ∀ value, (UInt8.ofNat (128 + value % 64)).toNat = 128 + value % 64 :=
    fun value => toNat_ofNat_of_lt (by omega)
  unfold encodePoint
  by_cases h1 : point < 128
  · have hlead : (UInt8.ofNat point).toNat = point := toNat_ofNat_of_lt (by omega)
    rw [if_pos h1, List.singleton_append, decodeUtf8_one (by omega), hlead]
  by_cases h2 : point < 2048
  · have hlead : (UInt8.ofNat (192 + point / 64)).toNat = 192 + point / 64 :=
      toNat_ofNat_of_lt (by omega)
    have hpoint : (192 + point / 64 - 192) * 64 + (128 + point % 64 - 128) = point := by omega
    rw [if_neg h1, if_pos h2, List.cons_append, List.singleton_append,
      decodeUtf8_two (by omega) (isTail_ofNat _), hlead, hbyte, hpoint]
  by_cases h3 : point < 65536
  · have hlead : (UInt8.ofNat (224 + point / 4096)).toNat = 224 + point / 4096 :=
      toNat_ofNat_of_lt (by omega)
    rw [if_neg h1, if_neg h2, if_pos h3, List.cons_append, List.cons_append, List.singleton_append]
    refine decodeUtf8_three (by omega) (isTail_ofNat _) (isTail_ofNat _) ?_ (by omega)
    rw [hlead, hbyte, hbyte]
    omega
  · have hlead : (UInt8.ofNat (240 + point / 262144)).toNat = 240 + point / 262144 :=
      toNat_ofNat_of_lt (by omega)
    rw [if_neg h1, if_neg h2, if_neg h3, List.cons_append, List.cons_append, List.cons_append,
      List.singleton_append]
    refine decodeUtf8_four (by omega) (isTail_ofNat _) (isTail_ofNat _) (isTail_ofNat _) ?_
      (by omega)
    rw [hlead, hbyte, hbyte, hbyte]
    omega

/-- A text of scalar values is decoded from its bytes. -/
theorem decodeUtf8_encode {text : List Nat} (h : ∀ point ∈ text, IsScalar point) :
    decodeUtf8 (text.flatMap encodePoint) = some text := by
  induction text with
  | nil => rfl
  | cons point rest ih =>
    rw [List.flatMap_cons, decodeUtf8_encodePoint (h point List.mem_cons_self),
      ih (fun other hother => h other (List.mem_cons_of_mem _ hother))]
    rfl

/-- The code points of a string are scalar values. -/
lemma isScalar_of_mem_pointsOf {text : String} (h : point ∈ pointsOf text) :
    IsScalar point := by
  obtain ⟨character, -, rfl⟩ := List.mem_map.mp h
  have hvalid := character.valid
  unfold UInt32.isValidChar Nat.isValidChar at hvalid
  have hnat : character.toNat = character.val.toNat := rfl
  unfold IsScalar
  omega

/-- An escape is made of scalar values. -/
lemma isScalar_of_mem_escapePoint {other : Nat} (hpoint : IsScalar point)
    (h : other ∈ escapePoint point) : IsScalar other := by
  unfold escapePoint at h
  have hsmall : ∀ {value}, value < 128 → IsScalar value := fun hvalue => Or.inl (by omega)
  split_ifs at h
  all_goals first
    | exact List.mem_singleton.mp h ▸ hpoint
    | (simp only [List.mem_cons, List.not_mem_nil, or_false] at h
       exact hsmall (by omega))

/-- A written string is made of scalar values. -/
lemma isScalar_of_mem_writeString {text : String}
    (h : point ∈ writeString (pointsOf text)) : IsScalar point := by
  rcases List.mem_append.mp h with h | h
  · obtain ⟨source, hsource, hpoint⟩ := List.mem_flatMap.mp h
    exact isScalar_of_mem_escapePoint (isScalar_of_mem_pointsOf hsource) hpoint
  · obtain rfl := List.mem_singleton.mp h
    exact Or.inl (by decide)

/-- A written integer is made of scalar values. -/
lemma isScalar_of_mem_writeInteger {value : Int} (h : point ∈ writeInteger value) :
    IsScalar point := by
  have hdigit : ∀ {number digit}, digit ∈ decimalDigits number → IsScalar digit := by
    intro number digit hdigit
    have hdecimal := isDecimalDigit_of_mem hdigit
    simp only [isDecimalDigit, Bool.and_eq_true, decide_eq_true_eq] at hdecimal
    exact Or.inl (by omega)
  unfold writeInteger at h
  by_cases hneg : value < 0
  · rw [if_pos hneg] at h
    rcases List.mem_cons.mp h with rfl | h
    · exact Or.inl (by decide)
    · exact hdigit h
  · rw [if_neg hneg] at h
    exact hdigit h

/-- Joined texts are made of scalar values when each of them is. -/
lemma isScalar_of_mem_joinTexts {closing : Nat} (hclosing : IsScalar closing)
    {texts : List (List Nat)} (htexts : ∀ text ∈ texts, ∀ point ∈ text, IsScalar point) :
    ∀ point ∈ joinTexts closing texts, IsScalar point := by
  induction texts with
  | nil =>
    intro point h
    exact List.mem_singleton.mp h ▸ hclosing
  | cons text rest ih =>
    intro point h
    have hrest := ih fun other hother => htexts other (List.mem_cons_of_mem text hother)
    rw [joinTexts_cons] at h
    rcases List.mem_append.mp h with h | h
    · exact htexts text List.mem_cons_self point h
    · by_cases hnil : rest = []
      · rw [if_pos hnil] at h
        exact List.mem_singleton.mp h ▸ hclosing
      · rw [if_neg hnil] at h
        rcases List.mem_cons.mp h with rfl | h
        · exact Or.inl (by decide)
        · exact hrest point h

mutual

/-- What is written is made of scalar values. -/
theorem isScalar_write : (j : Json) → ∀ text, writeValue j = some text → ∀ point ∈ text,
    IsScalar point
  | .null, text, h => by
    cases h
    exact fun point hpoint => Or.inl (by revert point; decide)
  | .bool value, text, h => by
    cases value <;> cases h <;> exact fun point hpoint => Or.inl (by revert point; decide)
  | .int value, text, h => by
    rw [writeValue] at h
    by_cases hsafe : -maxSafeInteger ≤ value ∧ value ≤ maxSafeInteger
    · rw [if_pos hsafe] at h
      cases h
      exact fun point hpoint => isScalar_of_mem_writeInteger hpoint
    · rw [if_neg hsafe] at h
      cases h
  | .float _, _, h => by cases h
  | .str value, text, h => by
    cases h
    intro point hpoint
    rcases List.mem_cons.mp hpoint with rfl | hpoint
    · exact Or.inl (by decide)
    · exact isScalar_of_mem_writeString hpoint
  | .arr items, text, h => by
    rw [writeValue, Option.map_eq_some_iff] at h
    obtain ⟨texts, htexts, rfl⟩ := h
    intro point hpoint
    rcases List.mem_cons.mp hpoint with rfl | hpoint
    · exact Or.inl (by decide)
    · exact isScalar_of_mem_joinTexts (Or.inl (by decide)) (isScalar_writeItems items texts htexts)
        point hpoint
  | .obj members, text, h => by
    rw [writeValue, Option.map_eq_some_iff] at h
    obtain ⟨texts, htexts, rfl⟩ := h
    intro point hpoint
    rcases List.mem_cons.mp hpoint with rfl | hpoint
    · exact Or.inl (by decide)
    · exact isScalar_of_mem_joinTexts (Or.inl (by decide))
        (isScalar_writeMembers members texts htexts) point hpoint

/-- What is written of items is made of scalar values. -/
theorem isScalar_writeItems : (items : List Json) → ∀ texts, writeItems items = some texts →
    ∀ text ∈ texts, ∀ point ∈ text, IsScalar point
  | [], texts, h => by
    cases h
    exact fun _ hmem => absurd hmem List.not_mem_nil
  | item :: rest, texts, h => by
    obtain ⟨first, more, hfirst, hmore, rfl⟩ := writeItems_cons h
    intro text htext
    rcases List.mem_cons.mp htext with rfl | htext
    · exact isScalar_write item text hfirst
    · exact isScalar_writeItems rest more hmore text htext

/-- What is written of members is made of scalar values. -/
theorem isScalar_writeMembers : (members : List (String × Json)) → ∀ texts,
    writeMembers members = some texts → ∀ text ∈ texts, ∀ point ∈ text, IsScalar point
  | [], texts, h => by
    cases h
    exact fun _ hmem => absurd hmem List.not_mem_nil
  | (key, value) :: rest, texts, h => by
    obtain ⟨first, more, hfirst, hmore, rfl⟩ := writeMembers_cons h
    intro text htext
    rcases List.mem_cons.mp htext with rfl | htext
    · intro point hpoint
      rcases List.mem_cons.mp hpoint with rfl | hpoint
      · exact Or.inl (by decide)
      rcases List.mem_append.mp hpoint with hpoint | hpoint
      · exact isScalar_of_mem_writeString hpoint
      rcases List.mem_cons.mp hpoint with rfl | hpoint
      · exact Or.inl (by decide)
      · exact isScalar_write value first hfirst point hpoint
    · exact isScalar_writeMembers rest more hmore text htext

end

/-- A code point has at most four bytes. -/
lemma length_encodePoint_le (point : Nat) : (encodePoint point).length ≤ 4 := by
  unfold encodePoint
  split_ifs <;> simp

/-- A text has at most four bytes for each code point. -/
lemma length_flatMap_encodePoint_le (text : List Nat) :
    (text.flatMap encodePoint).length ≤ 4 * text.length := by
  induction text with
  | nil => exact Nat.le_refl 0
  | cons point rest ih =>
    have hpoint := length_encodePoint_le point
    rw [List.flatMap_cons, List.length_append, List.length_cons]
    omega

/-! ## Size -/

mutual

/-- A document that can be written: its numbers are safe integers. -/
def Writable : Json → Prop
  | .float _ => False
  | .int value => -maxSafeInteger ≤ value ∧ value ≤ maxSafeInteger
  | .arr items => WritableItems items
  | .obj members => WritableMembers members
  | .null | .bool _ | .str _ => True

/-- Items that can be written. -/
def WritableItems : List Json → Prop
  | [] => True
  | item :: rest => Writable item ∧ WritableItems rest

/-- Members that can be written. -/
def WritableMembers : List (String × Json) → Prop
  | [] => True
  | (_, value) :: rest => Writable value ∧ WritableMembers rest

end

mutual

/-- A bound on the length of the text of a document. -/
def writeBound : Json → Nat
  | .null => 4
  | .bool _ => 5
  | .int _ => 17
  | .float _ => 0
  | .str value => 6 * value.length + 2
  | .arr items => writeBoundItems items + 2
  | .obj members => writeBoundMembers members + 2

/-- A bound on the length of the text of items. -/
def writeBoundItems : List Json → Nat
  | [] => 0
  | item :: rest => writeBound item + 1 + writeBoundItems rest

/-- A bound on the length of the text of members. -/
def writeBoundMembers : List (String × Json) → Nat
  | [] => 0
  | (key, value) :: rest => 6 * key.length + 4 + writeBound value + writeBoundMembers rest

end

/-- The text of a string. -/
lemma length_writeString_le (text : String) :
    (writeString (pointsOf text)).length ≤ 6 * text.length + 1 := by
  have hescape : ∀ point, (escapePoint point).length ≤ 6 := by
    intro point
    unfold escapePoint
    split_ifs <;> simp
  have hpoints : ∀ points : List Nat, (points.flatMap escapePoint).length ≤ 6 * points.length := by
    intro points
    induction points with
    | nil => exact Nat.le_refl 0
    | cons point rest ih =>
      have hpoint := hescape point
      rw [List.flatMap_cons, List.length_append, List.length_cons]
      omega
  have hlength : (pointsOf text).length = text.length := by
    rw [pointsOf, List.length_map, String.length_toList]
  have htext := hpoints (pointsOf text)
  rw [writeString, List.length_append, List.length_singleton]
  omega

/-- The text of a safe integer. -/
lemma length_writeInteger_le {value : Int}
    (h : -maxSafeInteger ≤ value ∧ value ≤ maxSafeInteger) : (writeInteger value).length ≤ 17 := by
  have hdigits : (decimalDigits value.natAbs).length ≤ 16 := by
    refine length_decimalDigits_le (by decide) ?_
    unfold maxSafeInteger at h
    omega
  unfold writeInteger
  by_cases hneg : value < 0
  · rw [if_pos hneg, List.length_cons]
    omega
  · rw [if_neg hneg]
    omega

/-- Joined texts. -/
lemma length_joinTexts_le (closing : Nat) (texts : List (List Nat)) :
    (joinTexts closing texts).length ≤ (texts.map (fun text => text.length + 1)).sum + 1 := by
  induction texts with
  | nil => exact Nat.le_refl 1
  | cons text rest ih =>
    rw [joinTexts_cons, List.length_append, List.map_cons, List.sum_cons]
    by_cases hnil : rest = []
    · subst hnil
      simp
    · rw [if_neg hnil, List.length_cons]
      omega

mutual

/-- A document that can be written is written within its bound. -/
theorem exists_write : (j : Json) → Writable j →
    ∃ text, writeValue j = some text ∧ text.length ≤ writeBound j
  | .null, _ => ⟨_, rfl, by decide⟩
  | .bool value, _ => ⟨_, rfl, by cases value <;> decide⟩
  | .int value, h => by
    have hsafe : -maxSafeInteger ≤ value ∧ value ≤ maxSafeInteger := h
    refine ⟨writeInteger value, ?_, length_writeInteger_le hsafe⟩
    rw [writeValue, if_pos hsafe]
  | .float _, h => h.elim
  | .str value, _ => by
    have hlength := length_writeString_le value
    refine ⟨_, rfl, ?_⟩
    rw [List.length_cons, writeBound]
    omega
  | .arr items, h => by
    obtain ⟨texts, htexts, hlength⟩ := exists_writeItems items h
    have hjoin := length_joinTexts_le 93 texts
    refine ⟨91 :: joinTexts 93 texts, by rw [writeValue, htexts]; rfl, ?_⟩
    rw [List.length_cons, writeBound]
    omega
  | .obj members, h => by
    obtain ⟨texts, htexts, hlength⟩ := exists_writeMembers members h
    have hjoin := length_joinTexts_le 125 texts
    refine ⟨123 :: joinTexts 125 texts, by rw [writeValue, htexts]; rfl, ?_⟩
    rw [List.length_cons, writeBound]
    omega

/-- Items that can be written are written within their bound. -/
theorem exists_writeItems : (items : List Json) → WritableItems items →
    ∃ texts, writeItems items = some texts ∧
      (texts.map (fun text => text.length + 1)).sum ≤ writeBoundItems items
  | [], _ => ⟨[], rfl, Nat.le_refl 0⟩
  | item :: rest, h => by
    obtain ⟨text, htext, hlength⟩ := exists_write item h.1
    obtain ⟨texts, htexts, hrest⟩ := exists_writeItems rest h.2
    refine ⟨text :: texts, by rw [writeItems, htext, htexts]; rfl, ?_⟩
    rw [List.map_cons, List.sum_cons, writeBoundItems]
    omega

/-- Members that can be written are written within their bound. -/
theorem exists_writeMembers : (members : List (String × Json)) → WritableMembers members →
    ∃ texts, writeMembers members = some texts ∧
      (texts.map (fun text => text.length + 1)).sum ≤ writeBoundMembers members
  | [], _ => ⟨[], rfl, Nat.le_refl 0⟩
  | (key, value) :: rest, h => by
    obtain ⟨text, htext, hlength⟩ := exists_write value h.1
    obtain ⟨texts, htexts, hrest⟩ := exists_writeMembers rest h.2
    have hkey := length_writeString_le key
    refine ⟨(34 :: (writeString (pointsOf key) ++ 58 :: text)) :: texts,
      by rw [writeMembers, htext, htexts]; rfl, ?_⟩
    rw [List.map_cons, List.sum_cons, writeBoundMembers, List.length_cons, List.length_append,
      List.length_cons]
    omega

end

/-- Putting a member that can be written. -/
lemma writable_putMember (key : String) {value : Json} (hvalue : Writable value)
    {members : List (String × Json)} (h : WritableMembers members) :
    WritableMembers (Json.putMember key value members) ∧
      writeBoundMembers (Json.putMember key value members) ≤
        6 * key.length + 4 + writeBound value + writeBoundMembers members := by
  induction members with
  | nil => exact ⟨⟨hvalue, trivial⟩, Nat.le_refl _⟩
  | cons head rest ih =>
    obtain ⟨other, held⟩ := head
    obtain ⟨hheld, hrest⟩ := h
    obtain ⟨hwritable, hbound⟩ := ih hrest
    unfold Json.putMember
    by_cases hlt : key < other
    · rw [if_pos hlt]
      exact ⟨⟨hvalue, hheld, hrest⟩, Nat.le_refl _⟩
    · by_cases heq : key = other
      · rw [if_neg hlt, if_pos heq]
        refine ⟨⟨hvalue, hrest⟩, ?_⟩
        simp only [writeBoundMembers]
        omega
      · rw [if_neg hlt, if_neg heq]
        refine ⟨⟨hheld, hwritable⟩, ?_⟩
        simp only [writeBoundMembers]
        omega

mutual

/-- Normalizing keeps a document writable and adds nothing to its bound. -/
theorem writable_normalize : (j : Json) → Writable j →
    Writable j.normalize ∧ writeBound j.normalize ≤ writeBound j
  | .float _, h => h.elim
  | .int _, h => ⟨h, Nat.le_refl _⟩
  | .null, _ => ⟨trivial, Nat.le_refl _⟩
  | .bool _, _ => ⟨trivial, Nat.le_refl _⟩
  | .str _, _ => ⟨trivial, Nat.le_refl _⟩
  | .arr items, h => by
    obtain ⟨hitems, hbound⟩ := writable_normalizeItems items h
    exact ⟨hitems, Nat.add_le_add_right hbound 2⟩
  | .obj members, h => by
    obtain ⟨hmembers, hbound⟩ := writable_normalizeMembers members h
    exact ⟨hmembers, Nat.add_le_add_right hbound 2⟩

/-- Normalizing keeps items writable and adds nothing to their bound. -/
theorem writable_normalizeItems : (items : List Json) → WritableItems items →
    WritableItems (Json.normalizeItems items) ∧
      writeBoundItems (Json.normalizeItems items) ≤ writeBoundItems items
  | [], _ => ⟨trivial, Nat.le_refl _⟩
  | item :: rest, h => by
    obtain ⟨hitem, hbound⟩ := writable_normalize item h.1
    obtain ⟨hrest, hmore⟩ := writable_normalizeItems rest h.2
    refine ⟨⟨hitem, hrest⟩, ?_⟩
    simp only [Json.normalizeItems, writeBoundItems]
    omega

/-- Normalizing keeps members writable and adds nothing to their bound. -/
theorem writable_normalizeMembers : (members : List (String × Json)) → WritableMembers members →
    WritableMembers (Json.normalizeMembers members) ∧
      writeBoundMembers (Json.normalizeMembers members) ≤ writeBoundMembers members
  | [], _ => ⟨trivial, Nat.le_refl _⟩
  | (key, value) :: rest, h => by
    obtain ⟨hvalue, hbound⟩ := writable_normalize value h.1
    obtain ⟨hrest, hmore⟩ := writable_normalizeMembers rest h.2
    obtain ⟨hput, hless⟩ := writable_putMember key hvalue hrest
    refine ⟨hput, ?_⟩
    simp only [Json.normalizeMembers, writeBoundMembers]
    omega

end

end Foundation
