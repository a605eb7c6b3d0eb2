import Mathlib.Data.List.Sort
import SeekTalent.Foundation.JsonRoundTrip

/-!
# The canonical order of members

RFC 8785 writes the members of an object in the order of the UTF-16 code units of their keys, which
is not the order of their code points.  `canonicalOrder` puts a document into that order,
`canonicalText` writes it, and since a normal tree of the same document is the document again
(`normalize_canonicalOrder`), reading the text back loses nothing (`jsonLoads_canonicalText`).
-/

namespace Foundation

/-! ## Code units -/

/-- The UTF-16 code units of a code point. -/
def utf16Point (point : Nat) : List Nat :=
  if point < 0x10000 then [point]
  else [0xd800 + (point - 0x10000) / 0x400, 0xdc00 + (point - 0x10000) % 0x400]

/-- The UTF-16 code units of a string. -/
def utf16Units (text : String) : List Nat :=
  (pointsOf text).flatMap utf16Point

/-- Members in the order of their keys' code units. -/
def sortMembers (members : List (String × Json)) : List (String × Json) :=
  members.insertionSort fun a b => utf16Units a.1 ≤ utf16Units b.1

/-- Sorting keeps the members. -/
lemma sortMembers_perm (members : List (String × Json)) : (sortMembers members).Perm members :=
  List.perm_insertionSort _ members

mutual

/-- A document with its members in the order of their keys' code units. -/
def canonicalOrder : Json → Json
  | .arr items => .arr (canonicalItems items)
  | .obj members => .obj (sortMembers (canonicalMembers members))
  | .null => .null
  | .bool value => .bool value
  | .int value => .int value
  | .float value => .float value
  | .str value => .str value

/-- Items, each in order. -/
def canonicalItems : List Json → List Json
  | [] => []
  | item :: rest => canonicalOrder item :: canonicalItems rest

/-- Members whose values are in order. -/
def canonicalMembers : List (String × Json) → List (String × Json)
  | [] => []
  | (key, value) :: rest => (key, canonicalOrder value) :: canonicalMembers rest

end

/-- Ordering the values leaves the keys as they are. -/
lemma keys_canonicalMembers (members : List (String × Json)) :
    (canonicalMembers members).map Prod.fst = members.map Prod.fst := by
  induction members with
  | nil => rfl
  | cons head rest ih => rw [canonicalMembers, List.map_cons, List.map_cons, ih]

/-- The text of a document in canonical order, unless it has a number that is not a safe integer. -/
def canonicalText (j : Json) : Option (List Nat) :=
  writeValue (canonicalOrder j)

/-! ## Normal trees -/

namespace Json

/-- A key below every key of the members is not there. -/
lemma lookup_of_below {key : String} {members : List (String × Json)}
    (h : ∀ member ∈ members, key < member.1) : members.lookup key = none := by
  rw [List.lookup_eq_none_iff]
  intro member hmember
  simpa using (h member hmember).ne

/-- Normal members are determined by what they hold. -/
theorem NormalMembers.ext {members others : List (String × Json)} (hmembers : NormalMembers members)
    (hothers : NormalMembers others) (h : ∀ key, members.lookup key = others.lookup key) :
    members = others := by
  induction members generalizing others with
  | nil =>
    cases others with
    | nil => rfl
    | cons head rest =>
      have hhead := h head.1
      rw [lookup_member, if_pos rfl] at hhead
      cases hhead
  | cons head rest ih =>
    obtain ⟨key, value⟩ := head
    obtain ⟨-, hbelow, hrest⟩ := hmembers
    cases others with
    | nil =>
      have hhead := h key
      rw [lookup_member, if_pos rfl] at hhead
      cases hhead
    | cons first later =>
      obtain ⟨other, held⟩ := first
      obtain ⟨-, hother, hlater⟩ := hothers
      have hkey : key = other := by
        rcases lt_trichotomy key other with hlt | heq | hlt
        · have hhead := h key
          have hnone : later.lookup key = none :=
            lookup_of_below fun member hmember => hlt.trans (hother member hmember)
          rw [lookup_member, if_pos rfl, lookup_member, if_neg hlt.ne, hnone] at hhead
          cases hhead
        · exact heq
        · have hhead := h other
          have hnone : rest.lookup other = none :=
            lookup_of_below fun member hmember => hlt.trans (hbelow member hmember)
          rw [lookup_member, if_neg hlt.ne, hnone, lookup_member, if_pos rfl] at hhead
          cases hhead
      subst hkey
      have hvalue : value = held := by
        have hhead := h key
        rw [lookup_member, if_pos rfl, lookup_member, if_pos rfl] at hhead
        exact Option.some.inj hhead
      have htail : rest = later := by
        refine ih hrest hlater fun wanted => ?_
        by_cases heq : wanted = key
        · rw [heq, lookup_of_below hbelow, lookup_of_below hother]
        · have hboth := h wanted
          rwa [lookup_member, if_neg heq, lookup_member, if_neg heq] at hboth
      rw [hvalue, htail]

/-- Members under two keys may be put in either order. -/
lemma putMember_comm {key other : String} (hne : key ≠ other) {value held : Json}
    (hvalue : value.Normal) (hheld : held.Normal) {members : List (String × Json)}
    (h : NormalMembers members) :
    putMember key value (putMember other held members) =
      putMember other held (putMember key value members) := by
  refine NormalMembers.ext (normalMembers_putMember hvalue (normalMembers_putMember hheld h))
    (normalMembers_putMember hheld (normalMembers_putMember hvalue h)) fun wanted => ?_
  rw [lookup_putMember, lookup_putMember, lookup_putMember, lookup_putMember]
  by_cases hkey : wanted = key
  · rw [if_pos hkey, if_pos hkey, if_neg]
    rw [hkey]
    exact hne
  · rw [if_neg hkey, if_neg hkey]

/-- The order in which members are written down does not matter when no key occurs twice. -/
theorem normalizeMembers_perm {members others : List (String × Json)} (h : members.Perm others)
    (hkeys : (members.map Prod.fst).Nodup) :
    normalizeMembers members = normalizeMembers others := by
  induction h with
  | nil => rfl
  | cons head _ ih =>
    rw [List.map_cons, List.nodup_cons] at hkeys
    rw [normalizeMembers, normalizeMembers, ih hkeys.2]
  | swap first second rest =>
    rw [List.map_cons, List.map_cons, List.nodup_cons] at hkeys
    have hne : second.1 ≠ first.1 := fun heq => hkeys.1 (heq ▸ List.mem_cons_self)
    simp only [normalizeMembers]
    exact putMember_comm hne (normal_normalize _) (normal_normalize _)
      (normalMembers_normalizeMembers rest)
  | trans hfirst _ ih ih' =>
    rw [ih hkeys, ih' ((hfirst.map Prod.fst).nodup_iff.mp hkeys)]

end Json

mutual

/-- Ordering a normal document and normalizing it again changes nothing. -/
theorem normalize_canonicalOrder : (j : Json) → j.Normal → (canonicalOrder j).normalize = j
  | .null, _ => rfl
  | .bool _, _ => rfl
  | .int _, _ => rfl
  | .str _, _ => rfl
  | .float value, h => Json.normalize_of_normal (.float value) h
  | .arr items, h => by
    rw [canonicalOrder, Json.normalize, normalizeItems_canonicalItems items h]
  | .obj members, h => by
    rw [canonicalOrder, Json.normalize, normalizeMembers_sortMembers members h]

/-- Ordering normal items and normalizing them again changes nothing. -/
theorem normalizeItems_canonicalItems : (items : List Json) → Json.NormalItems items →
    Json.normalizeItems (canonicalItems items) = items
  | [], _ => rfl
  | item :: rest, h => by
    rw [canonicalItems, Json.normalizeItems, normalize_canonicalOrder item h.1,
      normalizeItems_canonicalItems rest h.2]

/-- Ordering the values of normal members and normalizing them again changes nothing. -/
theorem normalizeMembers_canonicalMembers : (members : List (String × Json)) →
    Json.NormalMembers members → Json.normalizeMembers (canonicalMembers members) = members
  | [], _ => rfl
  | (key, value) :: rest, h => by
    obtain ⟨hvalue, hbelow, hrest⟩ := h
    rw [canonicalMembers, Json.normalizeMembers, normalize_canonicalOrder value hvalue,
      normalizeMembers_canonicalMembers rest hrest]
    exact Json.putMember_of_below hbelow

/-- Ordering normal members and normalizing them again changes nothing. -/
theorem normalizeMembers_sortMembers : (members : List (String × Json)) →
    Json.NormalMembers members →
    Json.normalizeMembers (sortMembers (canonicalMembers members)) = members
  | members, h => by
    have hkeys : ((sortMembers (canonicalMembers members)).map Prod.fst).Nodup := by
      rw [((sortMembers_perm _).map Prod.fst).nodup_iff, keys_canonicalMembers]
      exact (Json.distinctMembers_iff.mp (Json.distinctMembers_of_normal members h)).1
    rw [Json.normalizeMembers_perm (sortMembers_perm _) hkeys]
    exact normalizeMembers_canonicalMembers members h

end

/-! ## Reading canonical text -/

mutual

/-- Ordering a document brings no key twice. -/
theorem distinct_canonicalOrder : (j : Json) → j.Distinct → (canonicalOrder j).Distinct
  | .null, _ | .bool _, _ | .int _, _ | .float _, _ | .str _, _ => trivial
  | .arr items, h => distinctItems_canonicalItems items h
  | .obj members, h => distinctMembers_sortMembers members h

/-- Ordering items brings no key twice. -/
theorem distinctItems_canonicalItems : (items : List Json) → Json.DistinctItems items →
    Json.DistinctItems (canonicalItems items)
  | [], _ => trivial
  | item :: rest, h => ⟨distinct_canonicalOrder item h.1, distinctItems_canonicalItems rest h.2⟩

/-- Ordering the values of members brings no key twice. -/
theorem distinctMembers_canonicalMembers : (members : List (String × Json)) →
    Json.DistinctMembers members → Json.DistinctMembers (canonicalMembers members)
  | [], _ => trivial
  | (key, value) :: rest, h => by
    obtain ⟨hvalue, hkey, hrest⟩ := h
    refine ⟨distinct_canonicalOrder value hvalue, ?_, distinctMembers_canonicalMembers rest hrest⟩
    rwa [keys_canonicalMembers]

/-- Ordering members brings no key twice. -/
theorem distinctMembers_sortMembers : (members : List (String × Json)) →
    Json.DistinctMembers members → Json.DistinctMembers (sortMembers (canonicalMembers members))
  | members, h => by
    have hvalues := distinctMembers_canonicalMembers members h
    obtain ⟨hkeys, hbelow⟩ := Json.distinctMembers_iff.mp hvalues
    have hperm := sortMembers_perm (canonicalMembers members)
    refine Json.distinctMembers_iff.mpr ⟨(hperm.map Prod.fst).nodup_iff.mpr hkeys, ?_⟩
    exact fun member hmember => hbelow member (hperm.mem_iff.mp hmember)

end

/-- Members can be written exactly if their values can. -/
lemma writableMembers_iff {members : List (String × Json)} :
    WritableMembers members ↔ ∀ member ∈ members, Writable member.2 := by
  induction members with
  | nil => simp [WritableMembers]
  | cons head rest ih => rw [WritableMembers, ih, List.forall_mem_cons]

mutual

/-- The order does not matter for whether a document can be written. -/
theorem writable_canonicalOrder_iff : (j : Json) → (Writable (canonicalOrder j) ↔ Writable j)
  | .null | .bool _ | .int _ | .float _ | .str _ => Iff.rfl
  | .arr items => writableItems_canonicalItems_iff items
  | .obj members => by
    rw [canonicalOrder, Writable, Writable, writableMembers_iff]
    have hperm := sortMembers_perm (canonicalMembers members)
    have hmem : (∀ member ∈ sortMembers (canonicalMembers members), Writable member.2) ↔
        ∀ member ∈ canonicalMembers members, Writable member.2 :=
      forall_congr' fun member => by rw [hperm.mem_iff]
    rw [hmem, ← writableMembers_iff]
    exact writableMembers_canonicalMembers_iff members

/-- The order does not matter for whether items can be written. -/
theorem writableItems_canonicalItems_iff : (items : List Json) →
    (WritableItems (canonicalItems items) ↔ WritableItems items)
  | [] => Iff.rfl
  | item :: rest =>
    and_congr (writable_canonicalOrder_iff item) (writableItems_canonicalItems_iff rest)

/-- The order does not matter for whether members can be written. -/
theorem writableMembers_canonicalMembers_iff : (members : List (String × Json)) →
    (WritableMembers (canonicalMembers members) ↔ WritableMembers members)
  | [] => Iff.rfl
  | (_, value) :: rest =>
    and_congr (writable_canonicalOrder_iff value) (writableMembers_canonicalMembers_iff rest)

end

mutual

/-- What was written can be written. -/
theorem writable_of_write : (j : Json) → ∀ text, writeValue j = some text → Writable j
  | .null, _, _ => trivial
  | .bool _, _, _ => trivial
  | .str _, _, _ => trivial
  | .float _, _, h => by cases h
  | .int value, _, h => by
    by_cases hsafe : -maxSafeInteger ≤ value ∧ value ≤ maxSafeInteger
    · exact hsafe
    · rw [writeValue, if_neg hsafe] at h
      cases h
  | .arr items, text, h => by
    rw [writeValue, Option.map_eq_some_iff] at h
    obtain ⟨texts, htexts, -⟩ := h
    exact writableItems_of_write items texts htexts
  | .obj members, text, h => by
    rw [writeValue, Option.map_eq_some_iff] at h
    obtain ⟨texts, htexts, -⟩ := h
    exact writableMembers_of_write members texts htexts

/-- Items that were written can be written. -/
theorem writableItems_of_write : (items : List Json) → ∀ texts, writeItems items = some texts →
    WritableItems items
  | [], _, _ => trivial
  | item :: rest, _, h => by
    obtain ⟨text, more, htext, hmore, -⟩ := writeItems_cons h
    exact ⟨writable_of_write item text htext, writableItems_of_write rest more hmore⟩

/-- Members that were written can be written. -/
theorem writableMembers_of_write : (members : List (String × Json)) → ∀ texts,
    writeMembers members = some texts → WritableMembers members
  | [], _, _ => trivial
  | (_, value) :: rest, _, h => by
    obtain ⟨text, more, htext, hmore, -⟩ := writeMembers_cons h
    exact ⟨writable_of_write value text htext, writableMembers_of_write rest more hmore⟩

end

/-- A document has a canonical text exactly if it can be written. -/
theorem exists_canonicalText_iff {j : Json} : (∃ text, canonicalText j = some text) ↔
    Writable j := by
  unfold canonicalText
  rw [← writable_canonicalOrder_iff]
  constructor
  · rintro ⟨text, htext⟩
    exact writable_of_write _ text htext
  · intro h
    obtain ⟨text, htext, -⟩ := exists_write _ h
    exact ⟨text, htext⟩

mutual

/-- A scanned document has no floating-point number. -/
theorem floatFree_of_toJson : (text : JsonText) → ∀ j, text.toJson = some j → j.FloatFree
  | .null, _, h | .bool _, _, h | .int _, _, h => by
    cases h
    trivial
  | .str points, _, h => by
    rw [JsonText.toJson, Option.map_eq_some_iff] at h
    obtain ⟨value, -, rfl⟩ := h
    trivial
  | .arr items, _, h => by
    rw [JsonText.toJson, Option.map_eq_some_iff] at h
    obtain ⟨values, hvalues, rfl⟩ := h
    exact floatFreeItems_of_toJson items values hvalues
  | .obj members, _, h => by
    rw [JsonText.toJson, Option.map_eq_some_iff] at h
    obtain ⟨values, hvalues, rfl⟩ := h
    exact floatFreeMembers_of_toJson members values hvalues

/-- Scanned items have no floating-point number. -/
theorem floatFreeItems_of_toJson : (items : List JsonText) →
    ∀ values, itemsToJson items = some values → Json.FloatFreeItems values
  | [], _, h => by
    cases h
    trivial
  | item :: rest, _, h => by
    simp only [itemsToJson, Option.bind_eq_bind, Option.bind_eq_some_iff, Option.pure_def,
      Option.some.injEq] at h
    obtain ⟨value, hvalue, values, hvalues, rfl⟩ := h
    exact ⟨floatFree_of_toJson item value hvalue, floatFreeItems_of_toJson rest values hvalues⟩

/-- Scanned members have no floating-point number. -/
theorem floatFreeMembers_of_toJson : (members : List (List Nat × JsonText)) → ∀ values,
    membersToJson members = some values → Json.FloatFreeMembers values
  | [], _, h => by
    cases h
    trivial
  | (points, item) :: rest, _, h => by
    simp only [membersToJson, Option.bind_eq_bind, Option.bind_eq_some_iff, Option.pure_def,
      Option.some.injEq] at h
    obtain ⟨key, -, value, hvalue, values, hvalues, rfl⟩ := h
    exact ⟨floatFree_of_toJson item value hvalue, floatFreeMembers_of_toJson rest values hvalues⟩

end

/-- The canonical text of a dictionary, decoded and scanned by any reader of integers, is that
dictionary. -/
theorem jsonLoads_canonicalText {ε : Type} {hooks : JsonHooks ε} (hparse : hooks.ReadsIntegers)
    (d : JsonDict) {text : List Nat} (h : canonicalText (.obj d.members) = some text) :
    decodeUtf8 (text.flatMap encodePoint) = some text ∧ text.head? ≠ some 0xfeff ∧
      ∃ members decoded, jsonLoads hooks text = .ok (.obj members) ∧
        membersToJson members = some decoded ∧ JsonDict.ofMembers decoded = d := by
  have hwrite : writeValue (.obj (sortMembers (canonicalMembers d.members))) = some text := h
  have hdistinct :=
    distinctMembers_sortMembers d.members (Json.distinctMembers_of_normal _ d.normal)
  have hfree : (Json.obj (sortMembers (canonicalMembers d.members))).FloatFree :=
    floatFree_of_write _ text hwrite
  refine ⟨decodeUtf8_encode (isScalar_write _ text hwrite), ?_, _, _,
    jsonLoads_write hparse hdistinct hwrite, membersToJson_scanned _ hfree, ?_⟩
  · rw [writeValue, Option.map_eq_some_iff] at hwrite
    obtain ⟨texts, -, rfl⟩ := hwrite
    simp
  · ext1
    exact normalizeMembers_sortMembers d.members d.normal

end Foundation
