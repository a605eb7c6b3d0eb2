import Mathlib.Data.List.AList
import Mathlib.Data.List.Dedup
import Mathlib.Data.List.Sort
import Mathlib.Data.String.Basic

/-!
# Dictionaries and sorted sets of texts

A Python `dict` whose order nobody reads is an `AList`.  The operations added here are the ones that
programs use in bulk: assigning one value to many keys, and reading a key that must be there.  A
Python `set` is a list up to order and repetition, and `sortedTexts` is what `sorted` makes of it.
-/

namespace Foundation

/-- A dictionary. -/
abbrev Dict (κ : Type*) (β : Type*) := AList (fun _ : κ => β)

/-- `KeyError`. -/
structure KeyError (κ : Type*) where
  key : κ
  deriving DecidableEq, Repr

namespace Dict

variable {κ β : Type*} [DecidableEq κ]
variable {α : Type*}
variable {ε : Type*}

/-- `d[k]`. -/
def item (d : Dict κ β) (k : κ) : Except (KeyError κ) β :=
  match d.lookup k with
  | some v => .ok v
  | none => .error ⟨k⟩

/-- `for k in keys: d[k] = v`. -/
def insertAll (d : Dict κ β) (keys : List κ) (v : β) : Dict κ β :=
  keys.foldl (fun d k => d.insert k v) d

variable {k : κ} {v : β}

/-- Reading a key succeeds exactly with its value. -/
lemma item_eq_ok {d : Dict κ β} : d.item k = .ok v ↔ d.lookup k = some v := by
  unfold item
  cases hlookup : d.lookup k <;> simp

/-- The value of a key after one assignment. -/
lemma lookup_insert_ite (d : Dict κ β) (k k' : κ) (v : β) :
    (d.insert k v).lookup k' = if k' = k then some v else d.lookup k' := by
  by_cases h : k' = k
  · subst h
    rw [AList.lookup_insert, if_pos rfl]
  · rw [AList.lookup_insert_ne h, if_neg h]

/-- The value of a key after it or another key is removed. -/
lemma lookup_erase_ite (d : Dict κ β) (k k' : κ) :
    (d.erase k).lookup k' = if k' = k then none else d.lookup k' := by
  by_cases h : k' = k
  · subst h
    rw [AList.lookup_erase, if_pos rfl]
  · rw [AList.lookup_erase_ne h, if_neg h]

/-- The value of a key after one value is assigned to many keys. -/
lemma lookup_insertAll (d : Dict κ β) (keys : List κ) (v : β) (k : κ) :
    (d.insertAll keys v).lookup k = if k ∈ keys then some v else d.lookup k := by
  induction keys generalizing d with
  | nil => simp [insertAll]
  | cons first rest ih =>
    have hstep : d.insertAll (first :: rest) v = insertAll (d.insert first v) rest v := rfl
    rw [hstep, ih, lookup_insert_ite]
    by_cases hrest : k ∈ rest <;> by_cases hfirst : k = first <;> simp [hrest, hfirst]

/-- `{k: f(k) for k in keys}`. -/
def tabulate (keys : List κ) (f : κ → β) : Dict κ β :=
  keys.foldl (fun d k => d.insert k (f k)) ∅

/-- `{k: f(k) for k in keys}`, where the function may raise. -/
def tabulateM {ε : Type*} (keys : List κ) (f : κ → Except ε β) : Except ε (Dict κ β) :=
  keys.foldlM (fun d k => (f k).map (d.insert k ·)) ∅

lemma lookup_foldl_insert (keys : List κ) (f : κ → β) (d : Dict κ β) (k : κ) :
    (keys.foldl (fun d k => AList.insert k (f k) d) d).lookup k =
      if k ∈ keys then some (f k) else d.lookup k := by
  induction keys generalizing d with
  | nil => simp
  | cons first rest ih =>
    rw [List.foldl_cons, ih, lookup_insert_ite]
    by_cases hrest : k ∈ rest
    · simp [hrest]
    · by_cases hfirst : k = first
      · subst hfirst
        simp
      · simp [hrest, hfirst]

/-- A tabulated dictionary has the values of the function at the keys. -/
lemma lookup_tabulate (keys : List κ) (f : κ → β) (k : κ) :
    (tabulate keys f).lookup k = if k ∈ keys then some (f k) else none :=
  lookup_foldl_insert keys f ∅ k

lemma lookup_foldlM_insert {f : κ → Except ε β} (keys : List κ) :
    ∀ start d : Dict κ β, keys.foldlM (fun d k => (f k).map (AList.insert k · d)) start = .ok d →
      ∀ k, (k ∈ keys → ∃ v, f k = .ok v ∧ d.lookup k = some v) ∧
        (k ∉ keys → d.lookup k = start.lookup k) := by
  induction keys with
  | nil =>
    intro start d hrun k
    cases hrun
    exact ⟨fun hmem => absurd hmem List.not_mem_nil, fun _ => rfl⟩
  | cons first rest ih =>
    intro start d hrun k
    rw [List.foldlM_cons] at hrun
    cases hfirst : f first with
    | error e =>
      rw [hfirst] at hrun
      cases hrun
    | ok v =>
      rw [hfirst] at hrun
      obtain ⟨hmem, hkept⟩ := ih (start.insert first v) d hrun k
      by_cases hrest : k ∈ rest
      · exact ⟨fun _ => hmem hrest, fun hnot => absurd (List.mem_cons_of_mem _ hrest) hnot⟩
      · rw [lookup_insert_ite] at hkept
        constructor
        · intro hk
          obtain rfl := (List.mem_cons.mp hk).resolve_right hrest
          exact ⟨v, hfirst, by rw [hkept hrest, if_pos rfl]⟩
        · intro hk
          rw [hkept hrest, if_neg (fun heq : k = first => hk (heq ▸ List.mem_cons_self))]

/-- What a tabulation that succeeds contains. -/
lemma lookup_of_tabulateM {keys : List κ} {f : κ → Except ε β} {d : Dict κ β}
    (h : tabulateM keys f = .ok d) (k : κ) :
    (k ∈ keys → ∃ v, f k = .ok v ∧ d.lookup k = some v) ∧ (k ∉ keys → d.lookup k = none) :=
  lookup_foldlM_insert keys ∅ d h k

/-- A tabulation succeeds when its function does at every key. -/
lemma exists_tabulateM {keys : List κ} {f : κ → Except ε β}
    (h : ∀ k ∈ keys, ∃ v, f k = .ok v) : ∃ d, tabulateM keys f = .ok d := by
  unfold tabulateM
  generalize (∅ : Dict κ β) = start
  induction keys generalizing start with
  | nil => exact ⟨start, rfl⟩
  | cons first rest ih =>
    obtain ⟨v, hv⟩ := h first List.mem_cons_self
    obtain ⟨d, hd⟩ := ih (fun k hk => h k (List.mem_cons_of_mem first hk)) (start.insert first v)
    refine ⟨d, ?_⟩
    rw [List.foldlM_cons, hv]
    exact hd

/-- `{key(x): x for x in xs}`. -/
def keyedBy {α : Type*} (key : α → κ) (xs : List α) : Dict κ α :=
  xs.foldl (fun d x => d.insert (key x) x) ∅

variable {key : α → κ} {xs : List α}

lemma lookup_foldl_keyed (hnodup : (xs.map key).Nodup) (d : Dict κ α) (k : κ) :
    (xs.foldl (fun d x => AList.insert (key x) x d) d).lookup k =
      ((xs.find? fun x => key x = k).or (d.lookup k)) := by
  induction xs generalizing d with
  | nil => rfl
  | cons first rest ih =>
    obtain ⟨hfirst, hrest⟩ := List.nodup_cons.mp hnodup
    rw [List.foldl_cons, ih hrest, lookup_insert_ite]
    by_cases hk : key first = k
    · have hnone : (rest.find? fun x => key x = k) = none :=
        List.find?_eq_none.mpr fun x hx => by
          simpa using fun hsame : key x = k => hfirst (hk ▸ hsame ▸ List.mem_map_of_mem hx)
      rw [List.find?_cons_of_pos (by simpa using hk), hnone, if_pos hk.symm]
      rfl
    · rw [List.find?_cons_of_neg (by simpa using hk), if_neg (fun h => hk h.symm)]

/-- The value of a key when no two elements have one key. -/
lemma lookup_keyedBy (hnodup : (xs.map key).Nodup) (k : κ) :
    (keyedBy key xs).lookup k = xs.find? fun x => key x = k := by
  rw [keyedBy, lookup_foldl_keyed hnodup]
  cases xs.find? fun x => key x = k <;> rfl

/-- The value of the key of an element. -/
lemma lookup_keyedBy_of_mem (hnodup : (xs.map key).Nodup) {x : α}
    (hx : x ∈ xs) : (keyedBy key xs).lookup (key x) = some x := by
  rw [lookup_keyedBy hnodup]
  cases hfind : xs.find? fun y => key y = key x with
  | none => exact absurd (List.find?_eq_none.mp hfind x hx) (by simp)
  | some y =>
    have hkey : key y = key x := by simpa using List.find?_some hfind
    exact congrArg some (List.inj_on_of_nodup_map hnodup (List.mem_of_find?_eq_some hfind) hx hkey)

/-- An element that is found under a key has that key. -/
lemma mem_of_lookup_keyedBy {x : α}
    (h : (keyedBy key xs).lookup k = some x) : x ∈ xs ∧ key x = k := by
  have hfold : ∀ (xs : List α) (d : Dict κ α),
    (xs.foldl (fun d x => d.insert (key x) x) d).lookup k = some x →
      (x ∈ xs ∧ key x = k) ∨ d.lookup k = some x := by
    intro xs
    induction xs with
    | nil => exact fun d hfound => .inr hfound
    | cons first rest ih =>
      intro d hfound
      rcases ih _ hfound with ⟨hmem, hkey⟩ | hearlier
      · exact .inl ⟨List.mem_cons_of_mem _ hmem, hkey⟩
      · rw [lookup_insert_ite] at hearlier
        split at hearlier
        · rename_i hkey
          cases hearlier
          exact .inl ⟨List.mem_cons_self, hkey.symm⟩
        · exact .inr hearlier
  rcases hfold xs ∅ h with hfound | hnone
  · exact hfound
  · cases hnone

/-- `{k: f(v) for k, v in d.items()}`. -/
def mapValues {γ : Type*} (f : β → γ) (d : Dict κ β) : Dict κ γ :=
  ⟨d.entries.map (.map id fun _ => f), List.NodupKeys.map₂ (fun _ => f) d.entries d.nodupKeys⟩

/-- The value of a key after a function is applied to all values. -/
@[simp] lemma lookup_mapValues {γ : Type*} (f : β → γ) (d : Dict κ β) (k : κ) :
    (d.mapValues f).lookup k = (d.lookup k).map f :=
  List.dlookup_map₂ k

/-- `d[k] = f(d.get(k, v))`, in a dictionary whose order is read. -/
def updateEntry (k : κ) (v : β) (f : β → β) : List (κ × β) → List (κ × β)
  | [] => [(k, f v)]
  | entry :: rest => if entry.1 = k then (k, f entry.2) :: rest else entry :: updateEntry k v f rest

/-- An update adds its key at the end when it is a new one. -/
lemma keys_updateEntry (k : κ) (v : β) (f : β → β) (entries : List (κ × β)) :
    (updateEntry k v f entries).map Prod.fst =
      if k ∈ entries.map Prod.fst then entries.map Prod.fst else entries.map Prod.fst ++ [k] := by
  induction entries with
  | nil => rfl
  | cons entry rest ih =>
    unfold updateEntry
    by_cases hkey : entry.1 = k
    · simp [hkey]
    · have hne : k ≠ entry.1 := fun h => hkey h.symm
      rw [if_neg hkey, List.map_cons, ih, List.map_cons]
      by_cases hmem : k ∈ rest.map Prod.fst
      · rw [if_pos hmem, if_pos (List.mem_cons_of_mem _ hmem)]
      · rw [if_neg hmem, if_neg (fun h => hmem ((List.mem_cons.mp h).resolve_left hne)),
          List.cons_append]

variable {f : β → β} {entries : List (κ × β)}

/-- A new key comes at the end, with what is made of the default. -/
lemma updateEntry_of_notMem (h : k ∉ entries.map Prod.fst) :
    updateEntry k v f entries = entries ++ [(k, f v)] := by
  induction entries with
  | nil => rfl
  | cons entry rest ih =>
    rw [List.map_cons, List.mem_cons, not_or] at h
    rw [updateEntry, if_neg (Ne.symm h.1), ih h.2, List.cons_append]

/-- An update adds one entry if its key is a new one. -/
lemma length_updateEntry (k : κ) (v : β) (f : β → β) (entries : List (κ × β)) :
    (updateEntry k v f entries).length =
      if k ∈ entries.map Prod.fst then entries.length else entries.length + 1 := by
  have hkeys := congrArg List.length (keys_updateEntry k v f entries)
  rw [List.length_map] at hkeys
  rw [hkeys]
  split <;> simp

/-- No key is there twice after an update if none was before. -/
lemma nodup_keys_updateEntry
    (h : (entries.map Prod.fst).Nodup) : ((updateEntry k v f entries).map Prod.fst).Nodup := by
  rw [keys_updateEntry]
  split
  · exact h
  next hnew => exact List.Nodup.append h (List.nodup_singleton _) (by simpa using hnew)

/-- The entries after an update: the one of the key, which was there or is made of the default, and
the others. -/
lemma mem_updateEntry (hnodup : (entries.map Prod.fst).Nodup) {k' : κ} {w : β} :
    (k', w) ∈ updateEntry k v f entries ↔
      if k' = k then (∃ u, (k, u) ∈ entries ∧ w = f u) ∨ (k ∉ entries.map Prod.fst ∧ w = f v)
      else (k', w) ∈ entries := by
  induction entries with
  | nil => by_cases hk : k' = k <;> simp [updateEntry, hk]
  | cons entry rest ih =>
    obtain ⟨hentry, hnodup⟩ := List.nodup_cons.mp hnodup
    have hrest := ih hnodup
    obtain ⟨k₀, u₀⟩ := entry
    have hnone : ∀ u, (k₀, u) ∉ rest := fun u hu => hentry (List.mem_map.mpr ⟨(k₀, u), hu, rfl⟩)
    unfold updateEntry
    by_cases hkey : k₀ = k
    · subst hkey
      by_cases hk : k' = k₀
      · subst hk
        simp [hnone]
      · simp [hk]
    · have hne : k ≠ k₀ := fun h => hkey h.symm
      rw [if_neg hkey, List.mem_cons, hrest]
      by_cases hk : k' = k
      · subst hk
        simp [hne]
      · simp [hk]

/-- What is true of every entry after an update: of the entry of the key because it is made of the
old one or of the default, and of the others because nothing happens to them. -/
lemma forall_updateEntry {P P' : κ → β → Prop}
    (hnodup : (entries.map Prod.fst).Nodup) (h : ∀ entry ∈ entries, P entry.1 entry.2)
    (hnew : k ∉ entries.map Prod.fst → P k v) (hstep : ∀ u, P k u → P' k (f u))
    (hkept : ∀ k' ≠ k, ∀ u, P k' u → P' k' u) : ∀ entry ∈ updateEntry k v f entries,
      P' entry.1 entry.2 := by
  rintro ⟨k', w⟩ hentry
  rw [mem_updateEntry hnodup] at hentry
  split at hentry
  next hkey =>
    subst hkey
    obtain ⟨u, hmem, rfl⟩ | ⟨hfresh, rfl⟩ := hentry
    · exact hstep u (h (k', u) hmem)
    · exact hstep v (hnew hfresh)
  next hkey => exact hkept k' hkey w (h (k', w) hentry)

/-! ## Pointers

A dictionary may point from things to the owner of each.  `PointsTo` says that it agrees with what
the owners hold; the two lemmas keep the agreement when some owners hand everything over to another,
and when an owner takes in something new. -/

/-- The pointer names the owner of each thing that is owned. -/
def PointsTo (pointer : Dict κ β) (owns : β → κ → Prop) : Prop :=
  ∀ thing owner, pointer.lookup thing = some owner ↔ owns owner thing

variable {pointer : Dict κ β} {target : β}

/-- The pointer still agrees with the owners once one of them takes in things that nobody else
holds. -/
lemma PointsTo.takeIn {pointer' : Dict κ β} {owns owns' : β → κ → Prop} {things : List κ}
    (h : PointsTo pointer owns)
    (hfree : ∀ x ∈ things, ∀ owner, pointer.lookup x = some owner → owner = target)
    (hpointer : ∀ x, pointer'.lookup x = if x ∈ things then some target else pointer.lookup x)
    (howns : ∀ owner x, owns' owner x ↔ owns owner x ∨ (owner = target ∧ x ∈ things)) :
    PointsTo pointer' owns' := by
  intro x owner
  rw [hpointer, howns, ← h x]
  by_cases hmem : x ∈ things
  · simp only [hmem, if_true, Option.some.injEq, and_true]
    constructor
    · rintro rfl
      exact Or.inr rfl
    · rintro (hlookup | rfl)
      · exact (hfree x hmem owner hlookup).symm
      · rfl
  · simp [hmem]

variable [DecidableEq β]

/-- The owner of a thing once the owners `olds` have handed over to `target`. -/
def redirect (olds : List β) (target owner : β) : β :=
  if owner ∈ olds then target else owner

/-- Handing over one owner after another is handing over all of them. -/
lemma redirect_cons (old : β) (olds : List β) (target owner : β) :
    redirect olds target (redirect [old] target owner) = redirect (old :: olds) target owner := by
  by_cases hold : owner = old
  · simp [redirect, hold]
  · simp [redirect, hold]

/-- Pointing everything of the old owner at the target redirects the pointer. -/
lemma lookup_insertAll_redirect {things : List κ} {old : β} {thing : κ}
    (hthings : ∀ x ∈ things, pointer.lookup x = some target ∨ pointer.lookup x = some old)
    (hold : pointer.lookup thing = some old → thing ∈ things) :
    (pointer.insertAll things target).lookup thing =
      (pointer.lookup thing).map (redirect [old] target) := by
  rw [lookup_insertAll]
  by_cases hmem : thing ∈ things
  · rcases hthings thing hmem with htarget | hpoint
    · by_cases heq : target = old
      · simp [hmem, htarget, redirect, heq]
      · simp [hmem, htarget, redirect, heq]
    · simp [hmem, hpoint, redirect]
  · cases hlookup : pointer.lookup thing with
    | none => simp [hmem]
    | some owner =>
      have hne : owner ≠ old := by
        rintro rfl
        exact hmem (hold hlookup)
      simp [hmem, redirect, hne]

/-- The pointer still agrees with the owners once one has handed over to another. -/
lemma PointsTo.redirect {pointer' : Dict κ β} {owns owns' : β → κ → Prop} {old : β}
    (h : PointsTo pointer owns) (hne : old ≠ target)
    (hpointer : ∀ x, pointer'.lookup x = (pointer.lookup x).map (redirect [old] target))
    (howns : ∀ owner x, owns' owner x ↔
      (owner = target ∧ (owns target x ∨ owns old x)) ∨
        (owner ≠ target ∧ owner ≠ old ∧ owns owner x)) :
    PointsTo pointer' owns' := by
  intro x owner
  rw [hpointer, howns, Option.map_eq_some_iff]
  simp only [← h x]
  constructor
  · rintro ⟨before, hbefore, rfl⟩
    by_cases hold : before = old
    · subst hold
      simp [Dict.redirect, hbefore]
    · by_cases htarget : before = target
      · subst htarget
        simp [Dict.redirect, hbefore, hold]
      · simp [Dict.redirect, hbefore, hold, htarget]
  · rintro (⟨rfl, htarget | hold⟩ | ⟨-, hnotOld, howner⟩)
    · exact ⟨owner, htarget, by simp [Dict.redirect]⟩
    · exact ⟨old, hold, by simp [Dict.redirect]⟩
    · exact ⟨owner, howner, by simp [Dict.redirect, hnotOld]⟩

end Dict

/-- `sorted(set(values))`. -/
def sortedTexts (values : List String) : List String :=
  values.dedup.insertionSort (· ≤ ·)

/-- Sorting neither adds nor loses an element. -/
@[simp] lemma mem_sortedTexts {values : List String} {x : String} :
    x ∈ sortedTexts values ↔ x ∈ values := by
  rw [sortedTexts, (List.perm_insertionSort _ _).mem_iff, List.mem_dedup]

/-- A sorted set has no repetitions. -/
lemma nodup_sortedTexts (values : List String) : (sortedTexts values).Nodup :=
  (List.perm_insertionSort _ _).nodup_iff.mpr values.nodup_dedup

/-- The sorted set is determined by the set. -/
lemma sortedTexts_congr {left right : List String} (h : ∀ x, x ∈ left ↔ x ∈ right) :
    sortedTexts left = sortedTexts right := by
  have hperm : (sortedTexts left).Perm (sortedTexts right) :=
    (List.perm_ext_iff_of_nodup (nodup_sortedTexts left) (nodup_sortedTexts right)).mpr
      (fun x => by rw [mem_sortedTexts, mem_sortedTexts, h])
  exact hperm.eq_of_pairwise' (List.pairwise_insertionSort _ _) (List.pairwise_insertionSort _ _)

end Foundation
