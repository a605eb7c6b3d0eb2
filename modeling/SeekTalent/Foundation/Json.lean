import Mathlib.Data.Rat.Defs
import Mathlib.Data.String.Basic
import Mathlib.Data.List.Basic

/-!
# JSON values and dictionaries

A decoded JSON document, as a program that compares documents sees it.  Two dictionaries are equal
when they hold the same value under each key, whatever the order in which the keys were added, and a
floating-point number is equal to the integer of the same value.  A `Json` tree writes a document
down with its members in some order; `Json.Normal` trees have the members of each object in
ascending key order and an exactly representable integer as an integer, so that equality of normal
trees is equality of documents.

`JsonDict` is an object whose members are normal.  Its operations keep the invariant, and the lemmas
below read an object through its keys only.
-/

namespace Foundation

/-- `2**53 - 1`, the largest integer every IEEE 754 double around it still tells apart. -/
def maxSafeInteger : Int := 9007199254740991

/-- A number that is an integer of at most the safe magnitude. -/
def SafeInteger (value : ℚ) : Prop :=
  value.den = 1 ∧ -maxSafeInteger ≤ value.num ∧ value.num ≤ maxSafeInteger

instance (value : ℚ) : Decidable (SafeInteger value) := by
  unfold SafeInteger
  infer_instance

/-- A JSON document; a finite floating-point number is its exact value. -/
inductive Json where
  | null
  | bool (value : Bool)
  | int (value : Int)
  | float (value : ℚ)
  | str (value : String)
  | arr (items : List Json)
  | obj (members : List (String × Json))

namespace Json

variable {members : List (String × Json)} {key : String} {value : Json}

/-- Put a value under a key of an object whose keys ascend. -/
def putMember (key : String) (value : Json) : List (String × Json) → List (String × Json)
  | [] => [(key, value)]
  | (other, held) :: rest =>
    if key < other then (key, value) :: (other, held) :: rest
    else if key = other then (key, value) :: rest
    else (other, held) :: putMember key value rest

mutual

/-- Ascending keys throughout, and no floating-point number that is a safe integer. -/
def Normal : Json → Prop
  | .float value => ¬ SafeInteger value
  | .arr items => NormalItems items
  | .obj members => NormalMembers members
  | .null | .bool _ | .int _ | .str _ => True

/-- Every item of an array is normal. -/
def NormalItems : List Json → Prop
  | [] => True
  | item :: rest => item.Normal ∧ NormalItems rest

/-- Every member of an object is normal, and the keys ascend. -/
def NormalMembers : List (String × Json) → Prop
  | [] => True
  | (key, value) :: rest =>
    value.Normal ∧ (∀ member ∈ rest, key < member.1) ∧ NormalMembers rest

end

mutual

/-- No object has a key twice. -/
def Distinct : Json → Prop
  | .arr items => DistinctItems items
  | .obj members => DistinctMembers members
  | .null | .bool _ | .int _ | .float _ | .str _ => True

/-- No object of the items has a key twice. -/
def DistinctItems : List Json → Prop
  | [] => True
  | item :: rest => item.Distinct ∧ DistinctItems rest

/-- No key occurs twice, in the members or below them. -/
def DistinctMembers : List (String × Json) → Prop
  | [] => True
  | (key, value) :: rest => value.Distinct ∧ key ∉ rest.map Prod.fst ∧ DistinctMembers rest

end

mutual

/-- A normal document has no key twice. -/
theorem distinct_of_normal : (j : Json) → j.Normal → j.Distinct
  | .null, _ | .bool _, _ | .int _, _ | .float _, _ | .str _, _ => trivial
  | .arr items, h => distinctItems_of_normal items h
  | .obj members, h => distinctMembers_of_normal members h

/-- Normal items have no key twice. -/
theorem distinctItems_of_normal : (items : List Json) → NormalItems items → DistinctItems items
  | [], _ => trivial
  | item :: rest, h => ⟨distinct_of_normal item h.1, distinctItems_of_normal rest h.2⟩

/-- Normal members have no key twice. -/
theorem distinctMembers_of_normal :
    (members : List (String × Json)) → NormalMembers members → DistinctMembers members
  | [], _ => trivial
  | (key, value) :: rest, h => by
    obtain ⟨hvalue, hbelow, hrest⟩ := h
    refine ⟨distinct_of_normal value hvalue, fun hmem => ?_, distinctMembers_of_normal rest hrest⟩
    obtain ⟨other, hother, heq⟩ := List.mem_map.mp hmem
    exact (hbelow other hother).ne heq.symm

end

/-- No key occurs twice among members exactly if the keys differ and none occurs twice below
them. -/
lemma distinctMembers_iff : DistinctMembers members ↔
    (members.map Prod.fst).Nodup ∧ ∀ member ∈ members, member.2.Distinct := by
  induction members with
  | nil => simp [DistinctMembers]
  | cons head rest ih =>
    rw [DistinctMembers, ih, List.map_cons, List.nodup_cons, List.forall_mem_cons]
    tauto

mutual

/-- The normal tree of the same document. -/
def normalize : Json → Json
  | .float value => if SafeInteger value then .int value.num else .float value
  | .arr items => .arr (normalizeItems items)
  | .obj members => .obj (normalizeMembers members)
  | .null => .null
  | .bool value => .bool value
  | .int value => .int value
  | .str value => .str value

/-- The items of an array, each normalized. -/
def normalizeItems : List Json → List Json
  | [] => []
  | item :: rest => item.normalize :: normalizeItems rest

/-- The members of an object, each normalized, in ascending key order. -/
def normalizeMembers : List (String × Json) → List (String × Json)
  | [] => []
  | (key, value) :: rest => putMember key value.normalize (normalizeMembers rest)

end

mutual

/-- A document without a floating-point number. -/
def FloatFree : Json → Prop
  | .float _ => False
  | .arr items => FloatFreeItems items
  | .obj members => FloatFreeMembers members
  | .null | .bool _ | .int _ | .str _ => True

/-- Items without a floating-point number. -/
def FloatFreeItems : List Json → Prop
  | [] => True
  | item :: rest => item.FloatFree ∧ FloatFreeItems rest

/-- Members without a floating-point number. -/
def FloatFreeMembers : List (String × Json) → Prop
  | [] => True
  | (_, value) :: rest => value.FloatFree ∧ FloatFreeMembers rest

end

/-- The keys after a value was put under one. -/
lemma mem_putMember {member : String × Json} (h : member ∈ putMember key value members) :
    member = (key, value) ∨ member ∈ members := by
  induction members with
  | nil => simpa [putMember] using h
  | cons head rest ih =>
    obtain ⟨other, held⟩ := head
    unfold putMember at h
    by_cases hlt : key < other
    · simpa [hlt] using h
    · by_cases heq : key = other
      · rw [if_neg hlt, if_pos heq, List.mem_cons] at h
        exact h.imp_right (List.mem_cons_of_mem _)
      · rw [if_neg hlt, if_neg heq, List.mem_cons] at h
        rcases h with hhead | hrest
        · exact Or.inr (hhead ▸ List.mem_cons_self)
        · exact (ih hrest).imp_right (List.mem_cons_of_mem _)

/-- Putting a normal value keeps the members normal. -/
lemma normalMembers_putMember (hvalue : value.Normal) (h : NormalMembers members) :
    NormalMembers (putMember key value members) := by
  induction members with
  | nil => exact ⟨hvalue, by simp, trivial⟩
  | cons head rest ih =>
    obtain ⟨other, held⟩ := head
    obtain ⟨hheld, hbelow, hrest⟩ := h
    unfold putMember
    by_cases hlt : key < other
    · rw [if_pos hlt]
      refine ⟨hvalue, ?_, hheld, hbelow, hrest⟩
      intro member hmember
      rcases List.mem_cons.mp hmember with rfl | hmember
      · exact hlt
      · exact hlt.trans (hbelow member hmember)
    · by_cases heq : key = other
      · subst heq
        rw [if_neg hlt, if_pos rfl]
        exact ⟨hvalue, hbelow, hrest⟩
      · rw [if_neg hlt, if_neg heq]
        refine ⟨hheld, ?_, ih hrest⟩
        intro member hmember
        rcases mem_putMember hmember with rfl | hmember
        · exact lt_of_le_of_ne (not_lt.mp hlt) (Ne.symm heq)
        · exact hbelow member hmember

mutual

/-- Normalizing gives a normal tree. -/
theorem normal_normalize : (j : Json) → j.normalize.Normal
  | .float value => by
    unfold normalize
    by_cases hsafe : SafeInteger value
    · simp only [if_pos hsafe, Normal]
    · rw [if_neg hsafe]
      exact hsafe
  | .arr items => normalItems_normalizeItems items
  | .obj members => normalMembers_normalizeMembers members
  | .null | .bool _ | .int _ | .str _ => trivial

/-- Normalizing the items gives normal items. -/
theorem normalItems_normalizeItems : (items : List Json) → NormalItems (normalizeItems items)
  | [] => trivial
  | item :: rest => ⟨normal_normalize item, normalItems_normalizeItems rest⟩

/-- Normalizing the members gives normal members. -/
theorem normalMembers_normalizeMembers :
    (members : List (String × Json)) → NormalMembers (normalizeMembers members)
  | [] => trivial
  | (_, value) :: rest =>
    normalMembers_putMember (normal_normalize value) (normalMembers_normalizeMembers rest)

end

/-- Putting a value without floating-point numbers. -/
lemma floatFreeMembers_putMember (hvalue : value.FloatFree) (h : FloatFreeMembers members) :
    FloatFreeMembers (putMember key value members) := by
  induction members with
  | nil => exact ⟨hvalue, trivial⟩
  | cons head rest ih =>
    obtain ⟨other, held⟩ := head
    obtain ⟨hheld, hrest⟩ := h
    unfold putMember
    by_cases hlt : key < other
    · rw [if_pos hlt]
      exact ⟨hvalue, hheld, hrest⟩
    · by_cases heq : key = other
      · rw [if_neg hlt, if_pos heq]
        exact ⟨hvalue, hrest⟩
      · rw [if_neg hlt, if_neg heq]
        exact ⟨hheld, ih hrest⟩

mutual

/-- Normalizing adds no floating-point number. -/
theorem floatFree_normalize : (j : Json) → j.FloatFree → j.normalize.FloatFree
  | .float _, h => h.elim
  | .arr items, h => floatFreeItems_normalizeItems items h
  | .obj members, h => floatFreeMembers_normalizeMembers members h
  | .null, _ | .bool _, _ | .int _, _ | .str _, _ => trivial

/-- Normalizing adds no floating-point number to items. -/
theorem floatFreeItems_normalizeItems :
    (items : List Json) → FloatFreeItems items → FloatFreeItems (normalizeItems items)
  | [], _ => trivial
  | item :: rest, h => ⟨floatFree_normalize item h.1, floatFreeItems_normalizeItems rest h.2⟩

/-- Normalizing adds no floating-point number to members. -/
theorem floatFreeMembers_normalizeMembers : (members : List (String × Json)) →
    FloatFreeMembers members → FloatFreeMembers (normalizeMembers members)
  | [], _ => trivial
  | (_, value) :: rest, h =>
    floatFreeMembers_putMember (floatFree_normalize value h.1)
      (floatFreeMembers_normalizeMembers rest h.2)

end

/-- A key below all others is put first. -/
lemma putMember_of_below (h : ∀ member ∈ members, key < member.1) :
    putMember key value members = (key, value) :: members := by
  cases members with
  | nil => rfl
  | cons head rest => simp [putMember, h head List.mem_cons_self]

mutual

/-- A normal tree is its own normal form. -/
theorem normalize_of_normal : (j : Json) → j.Normal → j.normalize = j
  | .float value, h => by
    have hsafe : ¬ SafeInteger value := h
    simp [normalize, hsafe]
  | .arr items, h => by simp [normalize, normalizeItems_of_normal items h]
  | .obj members, h => by simp [normalize, normalizeMembers_of_normal members h]
  | .null, _ | .bool _, _ | .int _, _ | .str _, _ => rfl

/-- Normal items are their own normal form. -/
theorem normalizeItems_of_normal :
    (items : List Json) → NormalItems items → normalizeItems items = items
  | [], _ => rfl
  | item :: rest, h => by
    simp [normalizeItems, normalize_of_normal item h.1, normalizeItems_of_normal rest h.2]

/-- Normal members are their own normal form. -/
theorem normalizeMembers_of_normal :
    (members : List (String × Json)) → NormalMembers members → normalizeMembers members = members
  | [], _ => rfl
  | (key, value) :: rest, h => by
    obtain ⟨hvalue, hbelow, hrest⟩ := h
    rw [normalizeMembers, normalize_of_normal value hvalue, normalizeMembers_of_normal rest hrest]
    exact putMember_of_below hbelow

end

/-- Looking a key up, one member after the other. -/
lemma lookup_member (key first : String) (value : Json) (rest : List (String × Json)) :
    List.lookup key ((first, value) :: rest) = if key = first then some value else rest.lookup
      key := by
  by_cases heq : key = first
  · subst heq
    rw [List.lookup_cons, beq_self_eq_true, if_pos rfl]
  · have hbeq : (key == first) = false := by simpa using heq
    rw [List.lookup_cons, hbeq, if_neg heq]

/-- What a key holds after a value was put under one. -/
lemma lookup_putMember (key other : String) (value : Json) (members : List (String × Json)) :
    (putMember key value members).lookup other =
      if other = key then some value else members.lookup other := by
  induction members with
  | nil => simp [putMember, lookup_member]
  | cons head rest ih =>
    obtain ⟨first, held⟩ := head
    unfold putMember
    by_cases hlt : key < first
    · simp [hlt, lookup_member]
    · by_cases hfirst : key = first
      · subst hfirst
        by_cases heq : other = key <;> simp [lookup_member, heq]
      · by_cases heq : other = first
        · subst heq
          simp [hlt, hfirst, Ne.symm hfirst]
        · simp [hlt, hfirst, lookup_member, ih, heq]

/-- What a key of a normalized object holds. -/
lemma lookup_normalizeMembers (members : List (String × Json)) (key : String) :
    (normalizeMembers members).lookup key = (members.lookup key).map normalize := by
  induction members with
  | nil => rfl
  | cons head rest ih =>
    obtain ⟨first, value⟩ := head
    rw [normalizeMembers, lookup_putMember, ih, lookup_member]
    by_cases heq : key = first <;> simp [heq]

end Json

/-- A dictionary of JSON values. -/
@[ext] structure JsonDict where
  members : List (String × Json)
  normal : Json.NormalMembers members

namespace JsonDict

variable {members : List (String × Json)} {value : Json} {key : String}

/-- The dictionary of the given members. -/
def ofMembers (members : List (String × Json)) : JsonDict where
  members := Json.normalizeMembers members
  normal := Json.normalMembers_normalizeMembers members

/-- `d.get(key)`. -/
def get? (d : JsonDict) (key : String) : Option Json :=
  d.members.lookup key

/-- `set(d)`. -/
def keys (d : JsonDict) : List String :=
  d.members.map Prod.fst

/-- `{**d, key: value}`. -/
def insert (d : JsonDict) (key : String) (value : Json) : JsonDict where
  members := Json.putMember key value.normalize d.members
  normal := Json.normalMembers_putMember (Json.normal_normalize value) d.normal

/-- A dictionary without a floating-point number. -/
def FloatFree (d : JsonDict) : Prop :=
  Json.FloatFreeMembers d.members

/-- A dictionary written down without floating-point numbers. -/
lemma floatFree_ofMembers (h : Json.FloatFreeMembers members) :
    (ofMembers members).FloatFree :=
  Json.floatFreeMembers_normalizeMembers members h

/-- Inserting a value without floating-point numbers. -/
lemma FloatFree.insert {d : JsonDict} (h : d.FloatFree) (key : String)
    (hvalue : value.FloatFree) : (d.insert key value).FloatFree :=
  Json.floatFreeMembers_putMember (Json.floatFree_normalize value hvalue) h

/-- Removing members keeps the rest normal. -/
lemma normalMembers_filter {p : String × Json → Bool}
    (h : Json.NormalMembers members) : Json.NormalMembers (members.filter p) := by
  induction members with
  | nil => trivial
  | cons head rest ih =>
    obtain ⟨key, value⟩ := head
    obtain ⟨hvalue, hbelow, hrest⟩ := h
    by_cases hkeep : p (key, value)
    · rw [List.filter_cons_of_pos hkeep]
      exact ⟨hvalue, fun member hmember => hbelow member (List.mem_of_mem_filter hmember), ih hrest⟩
    · rw [List.filter_cons_of_neg hkeep]
      exact ih hrest

/-- `d.pop(key)`. -/
def erase (d : JsonDict) (key : String) : JsonDict where
  members := d.members.filter (fun member => member.1 ≠ key)
  normal := normalMembers_filter d.normal

/-- The value under a key after an insertion. -/
@[simp] lemma get?_insert (d : JsonDict) (key other : String) (value : Json) :
    (d.insert key value).get? other = if other = key then some value.normalize else d.get? other :=
  Json.lookup_putMember key other value.normalize d.members

/-- The value under a key of a dictionary that was written down. -/
@[simp] lemma get?_ofMembers (members : List (String × Json)) (key : String) :
    (ofMembers members).get? key = (members.lookup key).map Json.normalize :=
  Json.lookup_normalizeMembers members key

/-- A member lies in ascending position, so removing it and putting it back changes nothing. -/
lemma putMember_filter
    (hnormal : Json.NormalMembers members) (h : members.lookup key = some value) :
    Json.putMember key value (members.filter (fun member => member.1 ≠ key)) = members := by
  induction members with
  | nil => simp at h
  | cons head rest ih =>
    obtain ⟨first, held⟩ := head
    obtain ⟨-, hbelow, hrest⟩ := hnormal
    by_cases heq : key = first
    · subst heq
      obtain rfl : held = value := by simpa [Json.lookup_member] using h
      have hkept : rest.filter (fun member => member.1 ≠ key) = rest := by
        rw [List.filter_eq_self]
        intro member hmember
        simpa using (hbelow member hmember).ne'
      have hdropped : ((key, held) :: rest).filter (fun member => member.1 ≠ key) = rest := by
        rw [List.filter_cons_of_neg (by simp), hkept]
      rw [hdropped, Json.putMember_of_below hbelow]
    · have hlookup : rest.lookup key = some value := by
        simpa [Json.lookup_member, heq] using h
      have hmem : (key, value) ∈ rest := by
        obtain ⟨before, after, rfl, -⟩ := List.lookup_eq_some_iff.mp hlookup
        simp
      have hgt : first < key := hbelow (key, value) hmem
      rw [List.filter_cons_of_pos (by simpa using Ne.symm heq), Json.putMember,
        if_neg hgt.not_gt, if_neg heq, ih hrest hlookup]

/-- The values of normal members are normal. -/
lemma normal_of_lookup
    (hnormal : Json.NormalMembers members) (h : members.lookup key = some value) :
    value.Normal := by
  induction members with
  | nil => simp at h
  | cons head rest ih =>
    obtain ⟨first, held⟩ := head
    obtain ⟨hheld, -, hrest⟩ := hnormal
    by_cases heq : key = first
    · obtain rfl : held = value := by simpa [Json.lookup_member, heq] using h
      exact hheld
    · exact ih hrest (by simpa [Json.lookup_member, heq] using h)

/-- Removing a member and putting it back. -/
theorem insert_erase {d : JsonDict} (h : d.get? key = some value) :
    (d.erase key).insert key value = d := by
  have hvalue : value.normalize = value :=
    Json.normalize_of_normal value (normal_of_lookup d.normal h)
  ext1
  show Json.putMember key value.normalize _ = d.members
  rw [hvalue]
  exact putMember_filter d.normal h

/-- A new member is the only one that removing its key takes out. -/
lemma filter_putMember (h : members.lookup key = none) :
    (Json.putMember key value members).filter (fun member => member.1 ≠ key) = members := by
  have hkeys : ∀ member ∈ members, key ≠ member.1 := by
    intro member hmember
    have hnone := List.lookup_eq_none_iff.mp h member hmember
    simpa using hnone
  have hkept : members.filter (fun member => member.1 ≠ key) = members := by
    rw [List.filter_eq_self]
    intro member hmember
    simpa using Ne.symm (hkeys member hmember)
  clear h
  induction members with
  | nil => simp [Json.putMember]
  | cons head rest ih =>
    obtain ⟨first, held⟩ := head
    have hne : key ≠ first := hkeys (first, held) List.mem_cons_self
    unfold Json.putMember
    by_cases hlt : key < first
    · rw [if_pos hlt, List.filter_cons_of_neg (by simp), hkept]
    · rw [if_neg hlt, if_neg hne]
      have hrest : rest.filter (fun member => member.1 ≠ key) = rest := by
        rw [List.filter_eq_self]
        intro member hmember
        simpa using Ne.symm (hkeys member (List.mem_cons_of_mem _ hmember))
      rw [List.filter_cons_of_pos (by simpa using Ne.symm hne),
        ih (fun member hmember => hkeys member (List.mem_cons_of_mem _ hmember)) hrest]

/-- Adding a member under a new key and removing it. -/
theorem erase_insert {d : JsonDict} (value : Json) (h : d.get? key = none) :
    (d.insert key value).erase key = d := by
  ext1
  exact filter_putMember h

end JsonDict

end Foundation
