import Mathlib.Data.List.MinMax
import Mathlib.Data.List.Nodup

/-!
# Keyed tables

A table is a list of rows in the order of their insertion, and a column (or a tuple of columns) that
identifies a row is a function on rows.  `rowAt` is the lookup by that column, `replaceRow` the
update of one row in place, and appending a row of a new key is the insertion.  The lemmas say what
each of the two writes does to each lookup, so that a proof about a store never unfolds them.
-/

namespace Foundation

variable {α κ : Type*} [DecidableEq κ]

/-- The row with the given key, if there is one. -/
def rowAt (key : α → κ) (rows : List α) (k : κ) : Option α :=
  rows.find? (fun row => key row = k)

/-- The table in which a row takes the place of the row with its key. -/
def replaceRow (key : α → κ) (rows : List α) (row : α) : List α :=
  rows.map (fun stored => if key stored = key row then row else stored)

/-- The table after an `UPDATE` of the rows with a key. -/
def updateRows (key : α → κ) (rows : List α) (k : κ) (set : α → α) : List α :=
  rows.map (fun row => if key row = k then set row else row)

section Lookup

variable {key : α → κ} {rows : List α} {row old : α} {k : κ}

@[simp] theorem rowAt_nil : rowAt key [] k = none := rfl

/-- The first row of the table answers for its key. -/
theorem rowAt_cons :
    rowAt key (row :: rows) k = if key row = k then some row else rowAt key rows k := by
  by_cases hk : key row = k <;> simp [rowAt, hk]

/-- A row that is found is in the table, under its key. -/
theorem mem_of_rowAt (h : rowAt key rows k = some row) : row ∈ rows ∧ key row = k :=
  ⟨List.mem_of_find?_eq_some h, by simpa using List.find?_some h⟩

/-- The key of a row that is found. -/
theorem key_of_rowAt (h : rowAt key rows k = some row) : key row = k :=
  (mem_of_rowAt h).2

/-- No row is found exactly when none has the key. -/
theorem rowAt_eq_none : rowAt key rows k = none ↔ ∀ stored ∈ rows, key stored ≠ k := by
  simp [rowAt]

/-- Where keys are unique, each row is found under its key. -/
theorem rowAt_of_mem (hunique : (rows.map key).Nodup) (hmem : row ∈ rows) :
    rowAt key rows (key row) = some row := by
  cases hfound : rowAt key rows (key row) with
  | none => exact absurd rfl (rowAt_eq_none.mp hfound row hmem)
  | some stored =>
    obtain ⟨hstored, hkey⟩ := mem_of_rowAt hfound
    rw [List.inj_on_of_nodup_map hunique hstored hmem hkey]

/-- Where keys are unique, what is found does not depend on the order of the rows. -/
theorem rowAt_perm {rows' : List α} (hunique : (rows.map key).Nodup) (hperm : rows'.Perm rows) :
    rowAt key rows' k = rowAt key rows k := by
  cases hfound : rowAt key rows' k with
  | none =>
    have hnone := rowAt_eq_none.mp hfound
    exact (rowAt_eq_none.mpr fun stored hstored => hnone stored (hperm.mem_iff.mpr hstored)).symm
  | some row =>
    obtain ⟨hmem, rfl⟩ := mem_of_rowAt hfound
    exact (rowAt_of_mem hunique (hperm.mem_iff.mp hmem)).symm

/-- The row found by a column that the key determines is the row of its key. -/
theorem rowAt_of_column {ι : Type*} [DecidableEq ι] {column : α → ι} {i : ι}
    (hdetermined : ∀ {a b}, key a = key b → column a = column b)
    (h : rowAt column rows i = some row) : rowAt key rows (key row) = some row := by
  induction rows with
  | nil => simp at h
  | cons first rows ih =>
    rw [rowAt_cons] at h ⊢
    by_cases hi : column first = i
    · rw [if_pos hi] at h
      rw [if_pos (congrArg key (Option.some.inj h)), h]
    · rw [if_neg hi] at h
      have hne : key first ≠ key row := by
        intro heq
        exact hi ((hdetermined heq).trans (key_of_rowAt h))
      rw [if_neg hne]
      exact ih h

/-- Inserting a row of a new key makes it the row of its key and leaves the others. -/
theorem rowAt_concat (hnew : rowAt key rows (key row) = none) :
    rowAt key (rows ++ [row]) k = if key row = k then some row else rowAt key rows k := by
  by_cases hk : key row = k
  · subst hk
    have hrows : rows.find? (fun stored => key stored = key row) = none := hnew
    simp [rowAt, List.find?_append, hrows]
  · simp [rowAt, List.find?_append, hk]

/-- A row that is found is found when rows are added behind. -/
theorem rowAt_append (h : rowAt key rows k = some row) (more : List α) :
    rowAt key (rows ++ more) k = some row := by
  have hfound : rows.find? (fun stored => key stored = k) = some row := h
  rw [rowAt, List.find?_append, hfound]
  rfl

end Lookup

section Replace

variable {key : α → κ} {rows : List α} {row old : α} {k : κ}

/-- Replacing a row keeps the keys. -/
@[simp] theorem map_key_replaceRow : (replaceRow key rows row).map key = rows.map key := by
  rw [replaceRow, List.map_map]
  apply List.map_congr_left
  intro stored _
  by_cases hkey : key stored = key row
  · simp [hkey]
  · simp [hkey]

@[simp] theorem replaceRow_nil : replaceRow key [] row = [] := rfl

/-- A replacement goes through the table row by row. -/
theorem replaceRow_cons : replaceRow key (old :: rows) row =
    (if key old = key row then row else old) :: replaceRow key rows row :=
  rfl

/-- The replaced row is found under its key. -/
theorem rowAt_replaceRow_self (hold : rowAt key rows (key row) = some old) :
    rowAt key (replaceRow key rows row) (key row) = some row := by
  induction rows with
  | nil => simp at hold
  | cons stored rows ih =>
    rw [replaceRow_cons, rowAt_cons]
    rw [rowAt_cons] at hold
    by_cases hkey : key stored = key row
    · simp [hkey]
    · simp only [hkey, if_false] at hold ⊢
      exact ih hold

/-- Replacing a row leaves the rows of other keys. -/
theorem rowAt_replaceRow_of_ne (hne : key row ≠ k) :
    rowAt key (replaceRow key rows row) k = rowAt key rows k := by
  induction rows with
  | nil => rfl
  | cons stored rows ih =>
    rw [replaceRow_cons, rowAt_cons, rowAt_cons]
    by_cases hkey : key stored = key row
    · have hstored : key stored ≠ k := hkey ▸ hne
      simp only [hkey, if_true, hne, if_false, ih]
    · simp only [hkey, if_false, ih]

/-- What a lookup finds after a replacement. -/
theorem rowAt_replaceRow (hold : rowAt key rows (key row) = some old) :
    rowAt key (replaceRow key rows row) k = if key row = k then some row else rowAt key rows k := by
  by_cases hk : key row = k
  · subst hk
    simp [rowAt_replaceRow_self hold]
  · simp [hk, rowAt_replaceRow_of_ne hk]

/-- A row of the table after a replacement is the new one, or an old one of another key. -/
theorem mem_replaceRow {stored : α} (h : stored ∈ replaceRow key rows row) :
    stored = row ∨ (stored ∈ rows ∧ key stored ≠ key row) := by
  obtain ⟨other, hother, heq⟩ := List.mem_map.mp h
  by_cases hkey : key other = key row
  · simp only [hkey, if_true] at heq
    exact .inl heq.symm
  · simp only [hkey, if_false] at heq
    exact .inr ⟨heq ▸ hother, heq ▸ hkey⟩

/-- A selection by a condition that the replaced row shares with the row it replaces commutes with
the replacement. -/
theorem filter_replaceRow {p : α → Bool} (hsame : ∀ stored ∈ rows, key stored = key row →
    p stored = p row) :
    (replaceRow key rows row).filter p = replaceRow key (rows.filter p) row := by
  induction rows with
  | nil => rfl
  | cons stored rows ih =>
    have hrest := ih fun other hother => hsame other (List.mem_cons_of_mem stored hother)
    by_cases hkey : key stored = key row
    · have hp := hsame stored List.mem_cons_self hkey
      by_cases hrow : p row = true
      · simp [replaceRow_cons, hkey, hp, hrow, hrest]
      · simp [replaceRow_cons, hkey, hp, hrow, hrest]
    · by_cases hstored : p stored = true
      · simp [replaceRow_cons, hkey, hstored, hrest]
      · simp [replaceRow_cons, hkey, hstored, hrest]

/-- A column on which the new row agrees with the row it replaces is unchanged. -/
theorem map_replaceRow {β : Type*} {f : α → β} (hsame : ∀ stored ∈ rows, key stored = key row →
    f stored = f row) : (replaceRow key rows row).map f = rows.map f := by
  rw [replaceRow, List.map_map]
  apply List.map_congr_left
  intro stored hstored
  by_cases hkey : key stored = key row
  · simp [hkey, hsame stored hstored hkey]
  · simp [hkey]

end Replace

section Update

variable {key : α → κ} {rows : List α} {set : α → α} {k other : κ}

/-- What a lookup finds after an update that keeps the key. -/
theorem rowAt_updateRows (hkey : ∀ row, key (set row) = key row) :
    rowAt key (updateRows key rows k set) other =
      if other = k then (rowAt key rows k).map set else rowAt key rows other := by
  induction rows with
  | nil => simp [updateRows]
  | cons row rows ih =>
    have hcons : updateRows key (row :: rows) k set =
        (if key row = k then set row else row) :: updateRows key rows k set := rfl
    rw [hcons, rowAt_cons, ih, rowAt_cons, rowAt_cons]
    by_cases hrow : key row = k
    · by_cases hother : other = k
      · simp [hrow, hkey, hother]
      · have hne : key row ≠ other := fun heq => hother (heq.symm.trans hrow)
        simp [hrow, hkey, hother, Ne.symm hother]
    · by_cases hother : other = k
      · simp [hrow, hother]
      · simp [hrow, hother]

/-- A lookup by another column that the update keeps finds the same row, updated if it has the
key. -/
theorem rowAt_updateRows_of_column {ι : Type*} [DecidableEq ι] {column : α → ι} {i : ι}
    (hcolumn : ∀ row, column (set row) = column row) :
    rowAt column (updateRows key rows k set) i =
      (rowAt column rows i).map (fun row => if key row = k then set row else row) := by
  induction rows with
  | nil => rfl
  | cons row rows ih =>
    have hcons : updateRows key (row :: rows) k set =
        (if key row = k then set row else row) :: updateRows key rows k set := rfl
    have hsame : column (if key row = k then set row else row) = column row := by
      by_cases hrow : key row = k
      · rw [if_pos hrow, hcolumn]
      · rw [if_neg hrow]
    rw [hcons, rowAt_cons, rowAt_cons, hsame, ih]
    by_cases hi : column row = i
    · simp [hi]
    · simp [hi]

/-- Updates of the rows with the keys of some rows of the table, one after another: each of these
rows is updated. -/
theorem foldl_updateRows [DecidableEq α] {set : α → α → α}
    (hkey : ∀ row old, key (set row old) = key old)
    (hunique : (rows.map key).Nodup) {changes : List α} (hchanges : (changes.map key).Nodup)
    (hmem : ∀ row ∈ changes, row ∈ rows) :
    changes.foldl (fun table row => updateRows key table (key row) (set row)) rows =
      rows.map fun row => if row ∈ changes then set row row else row := by
  have hrowwise : ∀ table : List α,
      changes.foldl (fun table row => updateRows key table (key row) (set row)) table =
        table.map fun row =>
          changes.foldl (fun old row => if key old = key row then set row old else old) row := by
    clear hchanges hmem
    induction changes with
    | nil => simp
    | cons change rest ih =>
      intro table
      rw [List.foldl_cons, ih, updateRows, List.map_map]
      rfl
  rw [hrowwise]
  refine List.map_congr_left fun row hrow => ?_
  -- The first change with the key of a row is that row itself, and no other one has its key.
  clear hrowwise
  have hkept : ∀ later : List α, key row ∉ later.map key → ∀ old, key old = key row →
      later.foldl (fun old row => if key old = key row then set row old else old) old = old := by
    intro later
    induction later with
    | nil => exact fun _ _ _ => rfl
    | cons change rest ih =>
      intro hnot old hold
      rw [List.map_cons, List.mem_cons, not_or] at hnot
      rw [List.foldl_cons, if_neg (hold ▸ hnot.1), ih hnot.2 old hold]
  induction changes with
  | nil => rfl
  | cons change rest ih =>
    obtain ⟨hnew, hrest⟩ := List.nodup_cons.mp hchanges
    have hrestMem : ∀ other ∈ rest, other ∈ rows := fun other hother =>
      hmem other (List.mem_cons_of_mem change hother)
    rw [List.foldl_cons]
    by_cases hchange : key row = key change
    · obtain rfl : row = change :=
        List.inj_on_of_nodup_map hunique hrow (hmem change List.mem_cons_self) hchange
      rw [if_pos rfl, if_pos List.mem_cons_self]
      exact hkept rest hnew _ (hkey row row)
    · have hne : row ≠ change := fun heq => hchange (congrArg key heq)
      rw [if_neg hchange, ih hrest hrestMem]
      simp [hne]

/-- A column that the update keeps is unchanged. -/
theorem map_updateRows {ι : Type*} {column : α → ι}
    (hcolumn : ∀ row, column (set row) = column row) :
    (updateRows key rows k set).map column = rows.map column := by
  rw [updateRows, List.map_map]
  apply List.map_congr_left
  intro row _
  by_cases hrow : key row = k
  · simp [hrow, hcolumn]
  · simp [hrow]

/-- A selection that leaves out the rows with the key, before and after the update, is unchanged. -/
theorem filter_updateRows {p : α → Bool}
    (hout : ∀ row, key row = k → p row = false ∧ p (set row) = false) :
    (updateRows key rows k set).filter p = rows.filter p := by
  induction rows with
  | nil => rfl
  | cons row rows ih =>
    have hcons : updateRows key (row :: rows) k set =
        (if key row = k then set row else row) :: updateRows key rows k set := rfl
    rw [hcons]
    by_cases hrow : key row = k
    · obtain ⟨hbefore, hafter⟩ := hout row hrow
      simp [hrow, hbefore, hafter, ih]
    · rw [if_neg hrow, List.filter_cons, List.filter_cons, ih]

end Update

end Foundation
