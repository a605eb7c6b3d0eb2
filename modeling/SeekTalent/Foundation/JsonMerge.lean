import SeekTalent.Foundation.Json

/-!
# Merging documents, the richer value first

Two observations of one thing are merged by taking the preferred one and filling its gaps from the
other, member by member where both are objects.  What a merge is asked for is that nothing that was
known is lost: that every leaf with something in it is still one.  The leaves of the preferred
document are; a leaf of the other one is, unless the preferred document has a value in its way
(`hides`).
-/

namespace Foundation

namespace Json

variable {value : Json} {key : String} {path : List String} {members : List (String × Json)}
variable {fallback preferred : Json} {others : List (String × Json)}

/-- There is nothing in the value. -/
def isEmpty : Json → Bool
  | .null => true
  | .str value => value == ""
  | .arr items => items.isEmpty
  | .obj members => members.isEmpty
  | _ => false

mutual

/-- The preferred value, filled up from the other. -/
def richer : Json → Json → Json
  | .obj members, fallback =>
    match fallback with
    | .obj others =>
      .obj (richerMembers members others ++
        (others.filter fun other => (members.lookup other.1).isNone).map fun other =>
          (other.1, if other.2.isEmpty then .null else other.2))
    | _ => if members.isEmpty && !fallback.isEmpty then fallback else .obj members
  | .null, fallback => if fallback.isEmpty then .null else fallback
  | .bool value, _ => .bool value
  | .int value, _ => .int value
  | .float value, _ => .float value
  | .str value, fallback => if value == "" && !fallback.isEmpty then fallback else .str value
  | .arr items, fallback => if items.isEmpty && !fallback.isEmpty then fallback else .arr items

/-- The members of the preferred object, each filled up from the other object. -/
def richerMembers : List (String × Json) → List (String × Json) → List (String × Json)
  | [], _ => []
  | (key, value) :: rest, others =>
    (key, value.richer ((others.lookup key).getD .null)) :: richerMembers rest others

end

/-- The value under a path of keys. -/
def valueAt : Json → List String → Option Json
  | value, [] => some value
  | .obj members, key :: path => (members.lookup key).bind fun value => value.valueAt path
  | _, _ :: _ => none

/-- The value is neither an object nor empty. -/
def isFilled : Json → Bool
  | .obj _ => false
  | value => !value.isEmpty

/-- There is a leaf with something in it under the path. -/
def FilledAt (value : Json) (path : List String) : Prop :=
  ∃ leaf, value.valueAt path = some leaf ∧ leaf.isFilled = true

/-- The document has a value in the way of a leaf: a filled leaf above it, or an object in its
place. -/
def hides : Json → List String → Bool
  | .obj members, [] => !members.isEmpty
  | .obj members, key :: path =>
    match members.lookup key with
    | some value => value.hides path
    | none => false
  | _, [] => false
  | value, _ :: _ => !value.isEmpty

/-! ## Leaves -/

lemma lookup_richerMembers (members others : List (String × Json)) (key : String) :
    (richerMembers members others).lookup key =
      (members.lookup key).map fun value => value.richer ((others.lookup key).getD .null) := by
  induction members with
  | nil => rfl
  | cons head rest ih =>
    obtain ⟨other, value⟩ := head
    rw [richerMembers]
    by_cases h : key = other
    · subst h
      simp
    · have hne : (key == other) = false := by simpa using h
      rw [List.lookup_cons, List.lookup_cons, hne]
      exact ih

/-- The members that only the other object has. -/
lemma lookup_filled (members others : List (String × Json)) (key : String)
    (hnone : members.lookup key = none) :
    ((others.filter fun other => (members.lookup other.1).isNone).map fun other =>
      (other.1, if other.2.isEmpty then .null else other.2)).lookup key =
        (others.lookup key).map fun value => if value.isEmpty then .null else value := by
  induction others with
  | nil => rfl
  | cons head rest ih =>
    obtain ⟨other, value⟩ := head
    by_cases h : key = other
    · subst h
      rw [List.filter_cons_of_pos (by simp [hnone])]
      simp
    · have hne : (key == other) = false := by simpa using h
      rw [List.lookup_cons, hne]
      rw [List.filter_cons]
      split
      · rw [List.map_cons, List.lookup_cons, hne]
        exact ih
      · exact ih

lemma lookup_append (first second : List (String × Json)) (key : String) :
    (first ++ second).lookup key = (first.lookup key).or (second.lookup key) := by
  induction first with
  | nil => rfl
  | cons head rest ih =>
    obtain ⟨other, value⟩ := head
    rw [List.cons_append, List.lookup_cons, List.lookup_cons]
    cases key == other with
    | true => rfl
    | false => exact ih

/-- An empty value has no filled leaf. -/
lemma not_filledAt_of_isEmpty (h : value.isEmpty = true) (path : List String) :
    ¬ value.FilledAt path := by
  rintro ⟨leaf, hleaf, hfilled⟩
  cases path with
  | nil =>
    obtain rfl := Option.some.inj hleaf
    cases value <;> simp_all [isFilled]
  | cons key path =>
    cases value with
    | obj members =>
      have hnil : members = [] := by simpa [isEmpty] using h
      rw [valueAt, hnil] at hleaf
      cases hleaf
    | _ => cases hleaf

/-- Only an object has leaves below it. -/
lemma filledAt_cons :
    value.FilledAt (key :: path) ↔
      ∃ members member, value = .obj members ∧ members.lookup key = some member ∧
        member.FilledAt path := by
  constructor
  · rintro ⟨leaf, hleaf, hfilled⟩
    cases value with
    | obj members =>
      obtain ⟨member, hmember, hpath⟩ := Option.bind_eq_some_iff.mp hleaf
      exact ⟨members, member, rfl, hmember, leaf, hpath, hfilled⟩
    | _ => cases hleaf
  · rintro ⟨members, member, rfl, hmember, leaf, hpath, hfilled⟩
    exact ⟨leaf, by rw [valueAt, hmember]; exact hpath, hfilled⟩

@[simp] lemma filledAt_nil : value.FilledAt [] ↔ value.isFilled = true := by
  simp [FilledAt, valueAt]

/-- Unless both are objects, a merge is one of the two values. -/
lemma richer_of_not_obj
    (h : (∀ members, preferred ≠ .obj members) ∨ ∀ others, fallback ≠ .obj others) :
    preferred.richer fallback =
      if preferred.isEmpty = true ∧ fallback.isEmpty = false then fallback else preferred := by
  cases preferred with
  | obj members =>
    cases fallback with
    | obj others =>
      obtain h | h := h
      · exact absurd rfl (h members)
      · exact absurd rfl (h others)
    | _ => simp [richer, isEmpty]
  | null =>
    unfold richer
    cases fallback.isEmpty <;> simp [isEmpty]
  | str value => simp [richer, isEmpty]
  | arr items => simp [richer, isEmpty]
  | bool value => simp [richer, isEmpty]
  | int value => simp [richer, isEmpty]
  | float value => simp [richer, isEmpty]

/-- An empty value is in nothing's way. -/
lemma hides_of_isEmpty (h : value.isEmpty = true) (path : List String) :
    value.hides path = false := by
  cases value with
  | obj members =>
    have hnil : members = [] := by simpa [isEmpty] using h
    subst hnil
    cases path <;> rfl
  | _ => cases path <;> simp_all [hides]

/-- A value with something in it that hides no leaf in its place is one. -/
lemma isFilled_of_hides (hempty : value.isEmpty = false) (h : value.hides [] = false) :
    value.isFilled = true := by
  cases value with
  | obj members =>
    rw [isEmpty] at hempty
    rw [hides, hempty] at h
    cases h
  | _ => simp [isFilled, hempty]

/-- A document is not in the way of its own leaves. -/
lemma hides_of_filledAt : ∀ {value : Json}, value.FilledAt path →
    value.hides path = false := by
  induction path with
  | nil =>
    intro value h
    rw [filledAt_nil] at h
    cases value with
    | obj members => cases h
    | _ => rfl
  | cons key path ih =>
    intro value h
    obtain ⟨members, member, rfl, hmember, hfilled⟩ := filledAt_cons.mp h
    rw [hides, hmember]
    exact ih hfilled

/-- The filled leaves of a merge that takes one of the two values. -/
lemma filledAt_richer_of_not_obj
    (hnot : (∀ members, preferred ≠ .obj members) ∨ ∀ others, fallback ≠ .obj others)
    (path : List String) : (preferred.richer fallback).FilledAt path ↔
      preferred.FilledAt path ∨ fallback.FilledAt path ∧ preferred.hides path = false := by
  rw [richer_of_not_obj hnot]
  cases hempty : preferred.isEmpty with
  | true =>
    have hpreferred := not_filledAt_of_isEmpty hempty path
    have hhides := hides_of_isEmpty hempty path
    cases hfallback : fallback.isEmpty with
    | true =>
      have hnone := not_filledAt_of_isEmpty hfallback path
      simp [hpreferred, hnone]
    | false => simp [hpreferred, hhides]
  | false =>
    rw [if_neg (by simp)]
    refine ⟨.inl, ?_⟩
    rintro (hfilled | ⟨hfilled, hhides⟩)
    · exact hfilled
    · cases path with
      | nil => exact filledAt_nil.mpr (isFilled_of_hides hempty hhides)
      | cons key path =>
        -- The other value has a leaf below it, so it is an object, and the preferred one is none.
        obtain ⟨others, -, rfl, -, -⟩ := filledAt_cons.mp hfilled
        have hpreferred := hnot.resolve_right (fun h => h others rfl)
        cases preferred with
        | obj members => exact absurd rfl (hpreferred members)
        | _ => simp_all [hides]

/-- The value under a key of a merge of two objects. -/
lemma lookup_richer (members others : List (String × Json)) (key : String) :
    ∃ merged, richer (.obj members) (.obj others) = .obj merged ∧
      merged.lookup key =
        ((members.lookup key).map fun value => value.richer ((others.lookup key).getD .null)).or
          (if (members.lookup key).isNone then
            (others.lookup key).map fun value => if value.isEmpty then .null else value
          else none) := by
  refine ⟨_, rfl, ?_⟩
  rw [lookup_append, lookup_richerMembers]
  cases hmember : members.lookup key with
  | some value => rfl
  | none => exact lookup_filled members others key hmember

/-- The filled leaves of a merge of two objects, below one of their keys. -/
lemma filledAt_richer_obj
    (ih : ∀ preferred fallback : Json, (preferred.richer fallback).FilledAt path ↔
      preferred.FilledAt path ∨ fallback.FilledAt path ∧ preferred.hides path = false) :
    (richer (.obj members) (.obj others)).FilledAt (key :: path) ↔
      (Json.obj members).FilledAt (key :: path) ∨
        (Json.obj others).FilledAt (key :: path) ∧ (Json.obj members).hides
        (key :: path) = false := by
  -- A leaf below a key is one of the member under it.
  have hbelow : ∀ object : List (String × Json), (Json.obj object).FilledAt (key :: path) ↔
      ((object.lookup key).getD .null).FilledAt path := by
    intro object
    rw [filledAt_cons]
    constructor
    · rintro ⟨_, member, heq, hlookup, hfilled⟩
      obtain rfl := Json.obj.inj heq
      rw [hlookup]
      exact hfilled
    · intro hfilled
      cases hlookup : object.lookup key with
      | some member =>
        rw [hlookup] at hfilled
        exact ⟨object, member, rfl, hlookup, hfilled⟩
      | none =>
        rw [hlookup] at hfilled
        exact absurd hfilled (not_filledAt_of_isEmpty rfl path)
  obtain ⟨merged, hmerged, hlookup⟩ := lookup_richer members others key
  rw [hmerged, hbelow, hbelow, hbelow, hlookup]
  cases hmember : members.lookup key with
  | some value =>
    rw [hides, hmember]
    exact ih value _
  | none =>
    rw [hides, hmember]
    cases others.lookup key with
    | none => simp
    | some other =>
      have hnull : ¬ Json.null.FilledAt path := not_filledAt_of_isEmpty rfl path
      by_cases hempty : other.isEmpty
      · have hother := not_filledAt_of_isEmpty hempty path
        simp [hempty, hnull, hother]
      · simp [hempty, hnull]

/-- The filled leaves of a merge are those of the preferred document, and those of the other that it
does not hide. -/
theorem filledAt_richer (path : List String) : ∀ preferred fallback : Json,
    (preferred.richer fallback).FilledAt path ↔
      preferred.FilledAt path ∨ fallback.FilledAt path ∧ preferred.hides path = false := by
  induction path with
  | nil =>
    intro preferred fallback
    by_cases hboth : (∃ members, preferred = .obj members) ∧ ∃ others, fallback = .obj others
    · obtain ⟨⟨members, rfl⟩, others, rfl⟩ := hboth
      simp [richer, isFilled]
    · rw [not_and_or, not_exists, not_exists] at hboth
      exact filledAt_richer_of_not_obj hboth []
  | cons key path ih =>
    intro preferred fallback
    by_cases hboth : (∃ members, preferred = .obj members) ∧ ∃ others, fallback = .obj others
    · obtain ⟨⟨members, rfl⟩, others, rfl⟩ := hboth
      exact filledAt_richer_obj ih
    · rw [not_and_or, not_exists, not_exists] at hboth
      exact filledAt_richer_of_not_obj hboth (key :: path)

/-- A merge of two documents that have nothing in the way of a leaf has nothing in its way. -/
lemma hides_richer (path : List String) : ∀ {preferred fallback : Json},
    preferred.hides path = false → fallback.hides path = false →
      (preferred.richer fallback).hides path = false := by
  induction path with
  | nil =>
    intro preferred fallback hpreferred hfallback
    by_cases hboth : (∃ members, preferred = .obj members) ∧ ∃ others, fallback = .obj others
    · obtain ⟨⟨members, rfl⟩, others, rfl⟩ := hboth
      rw [hides, Bool.not_eq_false', List.isEmpty_iff] at hpreferred hfallback
      rw [hpreferred, hfallback]
      rfl
    · rw [not_and_or, not_exists, not_exists] at hboth
      rw [richer_of_not_obj hboth]
      split <;> assumption
  | cons key path ih =>
    intro preferred fallback hpreferred hfallback
    by_cases hboth : (∃ members, preferred = .obj members) ∧ ∃ others, fallback = .obj others
    · obtain ⟨⟨members, rfl⟩, others, rfl⟩ := hboth
      obtain ⟨merged, hmerged, hlookup⟩ := lookup_richer members others key
      rw [hides] at hpreferred hfallback
      rw [hmerged, hides, hlookup]
      have hnull : Json.null.hides path = false := hides_of_isEmpty rfl path
      cases hmember : members.lookup key with
      | some value =>
        rw [hmember] at hpreferred
        cases hother : others.lookup key with
        | none => exact ih hpreferred hnull
        | some other =>
          rw [hother] at hfallback
          exact ih hpreferred hfallback
      | none =>
        cases hother : others.lookup key with
        | none => rfl
        | some other =>
          rw [hother] at hfallback
          by_cases hempty : other.isEmpty
          · simpa [hempty] using hnull
          · simpa [hempty] using hfallback
    · rw [not_and_or, not_exists, not_exists] at hboth
      rw [richer_of_not_obj hboth]
      split <;> assumption

/-! ## Values that are not empty -/

/-- There is something under the path. -/
def HoldsAt (value : Json) (path : List String) : Prop :=
  ∃ held, value.valueAt path = some held ∧ held.isEmpty = false

/-- The document has a value that is neither empty nor an object above the end of the path. -/
def blocks : Json → List String → Bool
  | .obj members, key :: path =>
    match members.lookup key with
    | some value => value.blocks path
    | none => false
  | _, [] => false
  | value, _ :: _ => !value.isEmpty

@[simp] lemma holdsAt_nil : value.HoldsAt [] ↔ value.isEmpty = false := by
  simp [HoldsAt, valueAt]

/-- Only an object holds something below it. -/
lemma holdsAt_cons : value.HoldsAt (key :: path) ↔
    ∃ members member, value = .obj members ∧ members.lookup key = some member ∧
      member.HoldsAt path := by
  constructor
  · rintro ⟨held, hheld, hempty⟩
    cases value with
    | obj members =>
      obtain ⟨member, hmember, hpath⟩ := Option.bind_eq_some_iff.mp hheld
      exact ⟨members, member, rfl, hmember, held, hpath, hempty⟩
    | _ => cases hheld
  · rintro ⟨members, member, rfl, hmember, held, hpath, hempty⟩
    exact ⟨held, by rw [valueAt, hmember]; exact hpath, hempty⟩

/-- An empty value holds nothing. -/
lemma not_holdsAt_of_isEmpty (h : value.isEmpty = true) (path : List String) :
    ¬value.HoldsAt path := by
  cases path with
  | nil => simp [h]
  | cons key path =>
    rintro hholds
    obtain ⟨members, member, rfl, hmember, -⟩ := holdsAt_cons.mp hholds
    have hnil : members = [] := by simpa [isEmpty] using h
    rw [hnil] at hmember
    cases hmember

/-- An empty value blocks nothing. -/
lemma blocks_of_isEmpty (h : value.isEmpty = true) (path : List String) :
    value.blocks path = false := by
  cases value with
  | obj members =>
    have hnil : members = [] := by simpa [isEmpty] using h
    subst hnil
    cases path <;> rfl
  | _ => cases path <;> simp_all [blocks]

/-- What a merge holds that takes one of the two values. -/
lemma holdsAt_richer_of_not_obj
    (hnot : (∀ members, preferred ≠ .obj members) ∨ ∀ others, fallback ≠ .obj others)
    (path : List String) : (preferred.richer fallback).HoldsAt path ↔
      preferred.HoldsAt path ∨ fallback.HoldsAt path ∧ preferred.blocks path = false := by
  rw [richer_of_not_obj hnot]
  cases hempty : preferred.isEmpty with
  | true =>
    have hpreferred := not_holdsAt_of_isEmpty hempty path
    have hblocks := blocks_of_isEmpty hempty path
    cases hfallback : fallback.isEmpty with
    | true =>
      have hnone := not_holdsAt_of_isEmpty hfallback path
      simp [hpreferred, hnone]
    | false => simp [hpreferred, hblocks]
  | false =>
    rw [if_neg (by simp)]
    refine ⟨.inl, ?_⟩
    rintro (hholds | ⟨hholds, hfree⟩)
    · exact hholds
    · cases path with
      | nil => exact holdsAt_nil.mpr hempty
      | cons key path =>
        -- The other value holds something below it, so it is an object, and the preferred one is
        -- none.
        obtain ⟨others, -, rfl, -, -⟩ := holdsAt_cons.mp hholds
        have hpreferred := hnot.resolve_right (fun h => h others rfl)
        cases preferred with
        | obj members => exact absurd rfl (hpreferred members)
        | _ => simp_all [blocks]

/-- What an object holds below a key is what the member under it holds. -/
lemma holdsAt_obj_cons (members : List (String × Json)) (key : String) (path : List String) :
    (Json.obj members).HoldsAt (key :: path) ↔ ((members.lookup key).getD .null).HoldsAt path := by
  rw [holdsAt_cons]
  constructor
  · rintro ⟨_, member, heq, hlookup, hholds⟩
    obtain rfl := Json.obj.inj heq
    rw [hlookup]
    exact hholds
  · intro hholds
    cases hlookup : members.lookup key with
    | some member =>
      rw [hlookup] at hholds
      exact ⟨members, member, rfl, hlookup, hholds⟩
    | none =>
      rw [hlookup] at hholds
      exact absurd hholds (not_holdsAt_of_isEmpty rfl path)

/-- What a merge of two objects holds below one of their keys. -/
lemma holdsAt_richer_obj
    (ih : ∀ preferred fallback : Json, (preferred.richer fallback).HoldsAt path ↔
      preferred.HoldsAt path ∨ fallback.HoldsAt path ∧ preferred.blocks path = false) :
    (richer (.obj members) (.obj others)).HoldsAt (key :: path) ↔
      (Json.obj members).HoldsAt (key :: path) ∨
        (Json.obj others).HoldsAt (key :: path) ∧ (Json.obj members).blocks
        (key :: path) = false := by
  obtain ⟨merged, hmerged, hlookup⟩ := lookup_richer members others key
  rw [hmerged, holdsAt_obj_cons, holdsAt_obj_cons, holdsAt_obj_cons, hlookup, blocks]
  cases members.lookup key with
  | some value => exact ih value _
  | none =>
    cases others.lookup key with
    | none => simp
    | some other =>
      have hnull : ¬ Json.null.HoldsAt path := not_holdsAt_of_isEmpty rfl path
      by_cases hempty : other.isEmpty
      · have hother := not_holdsAt_of_isEmpty hempty path
        simp [hempty, hnull, hother]
      · simp [hempty, hnull]

/-- A merge holds what the preferred document holds, and what the other one holds that it does not
block. -/
theorem holdsAt_richer (path : List String) : ∀ preferred fallback : Json,
    (preferred.richer fallback).HoldsAt path ↔
      preferred.HoldsAt path ∨ fallback.HoldsAt path ∧ preferred.blocks path = false := by
  induction path with
  | nil =>
    intro preferred fallback
    by_cases hboth : (∃ members, preferred = .obj members) ∧ ∃ others, fallback = .obj others
    · obtain ⟨⟨members, rfl⟩, others, rfl⟩ := hboth
      rw [holdsAt_nil, holdsAt_nil, holdsAt_nil]
      cases members with
      | nil => simp [richer, richerMembers, isEmpty, blocks]
      | cons head rest => simp [richer, richerMembers, isEmpty]
    · rw [not_and_or, not_exists, not_exists] at hboth
      exact holdsAt_richer_of_not_obj hboth []
  | cons key path ih =>
    intro preferred fallback
    by_cases hboth : (∃ members, preferred = .obj members) ∧ ∃ others, fallback = .obj others
    · obtain ⟨⟨members, rfl⟩, others, rfl⟩ := hboth
      exact holdsAt_richer_obj ih
    · rw [not_and_or, not_exists, not_exists] at hboth
      exact holdsAt_richer_of_not_obj hboth (key :: path)

/-! ## Merging a document with itself -/

/-- Objects in normal form that hold the same under every key are the same. -/
lemma eq_of_lookup : ∀ {members others : List (String × Json)}, NormalMembers members →
    NormalMembers others → (∀ key, members.lookup key = others.lookup key) → members = others
  | [], [], _, _, _ => rfl
  | [], (key, value) :: _, _, _, h => by
    have hkey := h key
    rw [lookup_member, if_pos rfl] at hkey
    cases hkey
  | (key, value) :: _, [], _, _, h => by
    have hkey := h key
    rw [lookup_member, if_pos rfl] at hkey
    cases hkey
  | (key, value) :: members, (key', value') :: others, ⟨_, hbelow, hmembers⟩, ⟨_, hbelow', hothers⟩,
      h => by
    have hle : ∀ {first second : String} {held held' : Json} {rest rest' : List (String × Json)},
        (∀ member ∈ rest', second < member.1) →
          List.lookup first ((first, held) :: rest) = List.lookup first ((second, held') :: rest') →
            second ≤ first := by
      intro first second held held' rest rest' hrest heq
      rw [lookup_member, if_pos rfl, lookup_member] at heq
      split at heq
      · rename_i hsame
        exact hsame.ge
      · obtain ⟨before, after, rfl, -⟩ := List.lookup_eq_some_iff.mp heq.symm
        exact (hrest (first, held) (by simp)).le
    obtain rfl : key = key' := le_antisymm (hle hbelow (h key').symm) (hle hbelow' (h key))
    have hvalue := h key
    rw [lookup_member, lookup_member, if_pos rfl, if_pos rfl] at hvalue
    have hnone : ∀ {rest : List (String × Json)}, (∀ member ∈ rest, key < member.1) →
        rest.lookup key = none :=
      fun hrest =>
        List.lookup_eq_none_iff.mpr fun member hmember => by simpa using (hrest member hmember).ne
    obtain rfl := Option.some.inj hvalue
    rw [eq_of_lookup hmembers hothers fun other => ?_]
    by_cases hother : other = key
    · rw [hother, hnone hbelow, hnone hbelow']
    · have hrest := h other
      rwa [lookup_member, lookup_member, if_neg hother, if_neg hother] at hrest

/-- A member is smaller than its object. -/
lemma sizeOf_lt_of_lookup
    (h : members.lookup key = some value) : sizeOf value < sizeOf (Json.obj members) := by
  obtain ⟨before, after, rfl, -⟩ := List.lookup_eq_some_iff.mp h
  have hmem : sizeOf (key, value) < sizeOf (before ++ (key, value) :: after) :=
    List.sizeOf_lt_of_mem (by simp)
  simp only [Prod.mk.sizeOf_spec, Json.obj.sizeOf_spec] at hmem ⊢
  omega

/-- Merging two writings of one document writes it down again. -/
theorem normalize_richer (a b : Json) (h : a.normalize = b.normalize) :
    (a.richer b).normalize = a.normalize := by
  by_cases hboth : (∃ members, a = .obj members) ∧ ∃ others, b = .obj others
  · obtain ⟨⟨members, rfl⟩, others, rfl⟩ := hboth
    have hmembers : normalizeMembers members = normalizeMembers others := Json.obj.inj h
    have hsame : ∀ key, (members.lookup key).map normalize = (others.lookup key).map normalize := by
      intro key
      rw [← lookup_normalizeMembers, ← lookup_normalizeMembers, hmembers]
    obtain ⟨merged, hmerged, -⟩ := lookup_richer members others ""
    have hlookup : ∀ key, (normalizeMembers merged).lookup key = (normalizeMembers members).lookup
        key := by
      intro key
      obtain ⟨again, hagain, hkey⟩ := lookup_richer members others key
      obtain rfl := Json.obj.inj (hmerged.symm.trans hagain)
      rw [lookup_normalizeMembers, lookup_normalizeMembers, hkey]
      have hother := hsame key
      cases hvalue : members.lookup key with
      | none =>
        rw [hvalue] at hother
        rw [Option.map_eq_none_iff.mp hother.symm]
        rfl
      | some value =>
        rw [hvalue] at hother
        obtain ⟨other, hheld, hnormal⟩ := Option.map_eq_some_iff.mp hother.symm
        rw [hheld]
        have hsmaller := sizeOf_lt_of_lookup hvalue
        exact congrArg some (normalize_richer value other hnormal.symm)
    rw [hmerged, normalize, normalize,
      eq_of_lookup (normalMembers_normalizeMembers _) (normalMembers_normalizeMembers _) hlookup]
  · rw [not_and_or, not_exists, not_exists] at hboth
    rw [richer_of_not_obj hboth]
    split
    · exact h.symm
    · rfl
termination_by sizeOf a

/-! ## Merging again -/

/-- Objects that are the same under every key are written down the same. -/
lemma normalize_obj_eq
    (h : ∀ key, (members.lookup key).map normalize = (others.lookup key).map normalize) :
    (Json.obj members).normalize = (Json.obj others).normalize := by
  rw [normalize, normalize]
  refine congrArg Json.obj
    (eq_of_lookup (normalMembers_normalizeMembers _) (normalMembers_normalizeMembers _) ?_)
  intro key
  rw [lookup_normalizeMembers, lookup_normalizeMembers, h key]

/-- A value is left as it is by nothing. -/
lemma richer_null : value.richer .null = value := by
  rw [richer_of_not_obj (.inr fun others h => by cases h), if_neg (by simp [isEmpty])]

/-- A merge has nothing to gain from the document that filled it up. -/
theorem normalize_richer_fallback (a b : Json) :
    ((a.richer b).richer b).normalize = (a.richer b).normalize := by
  by_cases hboth : (∃ members, a = .obj members) ∧ ∃ others, b = .obj others
  · obtain ⟨⟨members, rfl⟩, others, rfl⟩ := hboth
    obtain ⟨merged, hmerged, -⟩ := lookup_richer members others ""
    rw [hmerged]
    obtain ⟨again, hagain, -⟩ := lookup_richer merged others ""
    rw [hagain]
    refine normalize_obj_eq fun key => ?_
    obtain ⟨merged', hmerged', hfirst⟩ := lookup_richer members others key
    obtain rfl := Json.obj.inj (hmerged.symm.trans hmerged')
    obtain ⟨again', hagain', hsecond⟩ := lookup_richer merged others key
    obtain rfl := Json.obj.inj (hagain.symm.trans hagain')
    rw [hsecond, hfirst]
    cases hvalue : members.lookup key with
    | some value =>
      have hsmaller := sizeOf_lt_of_lookup hvalue
      exact congrArg some (normalize_richer_fallback value _)
    | none =>
      cases hother : others.lookup key with
      | none => rfl
      | some other =>
        -- What only the other object has is taken as it is, or is empty.
        by_cases hempty : other.isEmpty = true
        · simp [hempty, richer]
        · simp [hempty, normalize_richer other other rfl]
  · rw [not_and_or, not_exists, not_exists] at hboth
    rw [richer_of_not_obj hboth]
    split
    · exact normalize_richer b b rfl
    · rename_i hkept
      rw [richer_of_not_obj hboth, if_neg hkept]
termination_by sizeOf a

/-- A merge has nothing to gain from the document that it filled up. -/
theorem normalize_richer_preferred (a b : Json) :
    ((a.richer b).richer a).normalize = (a.richer b).normalize := by
  by_cases hboth : (∃ members, a = .obj members) ∧ ∃ others, b = .obj others
  · obtain ⟨⟨members, rfl⟩, others, rfl⟩ := hboth
    obtain ⟨merged, hmerged, -⟩ := lookup_richer members others ""
    rw [hmerged]
    obtain ⟨again, hagain, -⟩ := lookup_richer merged members ""
    rw [hagain]
    refine normalize_obj_eq fun key => ?_
    obtain ⟨merged', hmerged', hfirst⟩ := lookup_richer members others key
    obtain rfl := Json.obj.inj (hmerged.symm.trans hmerged')
    obtain ⟨again', hagain', hsecond⟩ := lookup_richer merged members key
    obtain rfl := Json.obj.inj (hagain.symm.trans hagain')
    rw [hsecond, hfirst]
    cases hvalue : members.lookup key with
    | some value =>
      have hsmaller := sizeOf_lt_of_lookup hvalue
      exact congrArg some (normalize_richer_preferred value _)
    | none =>
      cases hother : others.lookup key with
      | none => rfl
      | some other => simp [richer_null]
  · rw [not_and_or, not_exists, not_exists] at hboth
    rw [richer_of_not_obj hboth]
    split
    · rename_i htaken
      rw [richer_of_not_obj hboth.symm, if_neg (by simp [htaken.2])]
    · exact normalize_richer a a rfl
termination_by sizeOf a

end Json

end Foundation
