import Mathlib.Data.List.Induction
import SeekTalent.Foundation.Checks
import SeekTalent.Foundation.Dicts

/-!
# Merging rows by key

Rows are collected in a dictionary, each merged into the one with its key, and come out sorted by
key. The result of one such pass can be handed to another one, together with further rows.  Whatever
the passes are, the row of a key is the value of a tree of merges over the rows of the key
(`result_trees`), so two ways of passing the same rows differ only as far as merges of the same rows
do (`result_eq`).
-/

namespace Foundation

/-- A tree of merges. -/
inductive MergeTree (α : Type*) where
  | leaf (a : α)
  | node (left right : MergeTree α)

namespace MergeTree

variable {α ε κ ι : Type*}

/-- The rows that are merged, in order. -/
def leaves : MergeTree α → List α
  | leaf a => [a]
  | node left right => left.leaves ++ right.leaves

/-- The value at the root. -/
def eval (merge : α → α → Except ε α) : MergeTree α → Except ε α
  | leaf a => .ok a
  | node left right => do
    let a ← left.eval merge
    let b ← right.eval merge
    merge a b

/-- A property of the tree and of all trees in it. -/
def Every (P : MergeTree α → Prop) : MergeTree α → Prop
  | leaf a => P (leaf a)
  | node left right => left.Every P ∧ right.Every P ∧ P (node left right)

/-- The first row of greatest rank. -/
def best [LinearOrder κ] (rank : α → κ) : MergeTree α → α
  | leaf a => a
  | node left right =>
    if rank (right.best rank) ≤ rank (left.best rank) then left.best rank else right.best rank

/-- The tree of merges of some values one after another. -/
def chained : List (MergeTree α) → Option (MergeTree α)
  | [] => none
  | first :: rest => some (rest.foldl node first)

/-- What holds of every tree holds of the tree itself. -/
lemma Every.root {P : MergeTree α → Prop} {t : MergeTree α} (h : t.Every P) : P t := by
  cases t with
  | leaf a => exact h
  | node left right => exact h.2.2

/-- There is a row in a tree. -/
lemma exists_mem_leaves (t : MergeTree α) : ∃ a, a ∈ t.leaves := by
  induction t with
  | leaf a => exact ⟨a, List.mem_singleton_self a⟩
  | node left right ih _ =>
    obtain ⟨a, ha⟩ := ih
    exact ⟨a, List.mem_append_left _ ha⟩

/-- A merge is of two rows at least. -/
lemma two_le_length_leaves (left right : MergeTree α) : 2 ≤ (node left right).leaves.length := by
  obtain ⟨a, ha⟩ := left.exists_mem_leaves
  obtain ⟨b, hb⟩ := right.exists_mem_leaves
  have hleft := List.length_pos_of_mem ha
  have hright := List.length_pos_of_mem hb
  rw [leaves, List.length_append]
  omega

section Best

variable [LinearOrder κ] (rank : α → κ)

/-- The best row is one of them, and none ranks above it. -/
theorem best_greatest (t : MergeTree α) :
    t.best rank ∈ t.leaves ∧ ∀ a ∈ t.leaves, rank a ≤ rank (t.best rank) := by
  induction t with
  | leaf a => exact ⟨List.mem_singleton_self a, fun b hb => (List.mem_singleton.mp hb) ▸ le_refl _⟩
  | node left right ihleft ihright =>
    rw [best, leaves]
    split
    · rename_i hle
      refine ⟨List.mem_append_left _ ihleft.1, fun a ha => ?_⟩
      obtain ha | ha := List.mem_append.mp ha
      · exact ihleft.2 a ha
      · exact (ihright.2 a ha).trans hle
    · rename_i hlt
      refine ⟨List.mem_append_right _ ihright.1, fun a ha => ?_⟩
      obtain ha | ha := List.mem_append.mp ha
      · exact (ihleft.2 a ha).trans (lt_of_not_ge hlt).le
      · exact ihright.2 a ha

/-- Trees over the same rows have best rows of one rank. -/
lemma rank_best_of_perm {t t' : MergeTree α} (h : t.leaves.Perm t'.leaves) :
    rank (t.best rank) = rank (t'.best rank) := by
  have hbest := best_greatest rank t
  have hbest' := best_greatest rank t'
  exact le_antisymm (hbest'.2 _ (h.mem_iff.mp hbest.1)) (hbest.2 _ (h.mem_iff.mpr hbest'.1))

end Best

section Guarded

/-- Rows merge exactly if they have one identity, which they keep. -/
structure Guarded (merge : α → α → Except ε α) (ident : α → ι) (mismatch : ε) : Prop where
  merged : ∀ a b, ident a = ident b → ∃ c, merge a b = .ok c ∧ ident c = ident a
  refused : ∀ a b, ident a ≠ ident b → merge a b = .error mismatch

variable {merge : α → α → Except ε α} {ident : α → ι} {mismatch : ε}

/-- Merged rows have one identity, and so has the row they merge to. -/
lemma Guarded.ident_of_ok (hguarded : Guarded merge ident mismatch) {a b c : α}
    (h : merge a b = .ok c) : ident a = ident b ∧ ident c = ident a := by
  by_cases hident : ident a = ident b
  · obtain ⟨d, hd, hident'⟩ := hguarded.merged a b hident
    rw [hd] at h
    obtain rfl := Except.ok.inj h
    exact ⟨hident, hident'⟩
  · rw [hguarded.refused a b hident] at h
    cases h

/-- The value of a tree has the identity of all its rows. -/
lemma Guarded.ident_eval (hguarded : Guarded merge ident mismatch) {t : MergeTree α} {a : α}
    (h : t.eval merge = .ok a) : ∀ b ∈ t.leaves, ident b = ident a := by
  induction t generalizing a with
  | leaf c =>
    obtain rfl := Except.ok.inj h
    exact fun b hb => (List.mem_singleton.mp hb) ▸ rfl
  | node left right ihleft ihright =>
    simp only [eval, bind_eq_ok] at h
    obtain ⟨c, hc, d, hd, hmerge⟩ := h
    obtain ⟨hsame, hident⟩ := hguarded.ident_of_ok hmerge
    intro b hb
    obtain hb | hb := List.mem_append.mp hb
    · rw [ihleft hc b hb, hident]
    · rw [ihright hd b hb, hident, hsame]

/-- A tree has a value if all its rows have one identity. -/
lemma Guarded.exists_eval (hguarded : Guarded merge ident mismatch) {t : MergeTree α}
    (h : ∀ a ∈ t.leaves, ∀ b ∈ t.leaves, ident a = ident b) : ∃ a, t.eval merge = .ok a := by
  induction t with
  | leaf a => exact ⟨a, rfl⟩
  | node left right ihleft ihright =>
    obtain ⟨a, ha⟩ := ihleft fun x hx y hy =>
      h x (List.mem_append_left _ hx) y (List.mem_append_left _ hy)
    obtain ⟨b, hb⟩ := ihright fun x hx y hy =>
      h x (List.mem_append_right _ hx) y (List.mem_append_right _ hy)
    obtain ⟨x, hx⟩ := exists_mem_leaves left
    obtain ⟨y, hy⟩ := exists_mem_leaves right
    have hident : ident a = ident b := by
      rw [← hguarded.ident_eval ha x hx, ← hguarded.ident_eval hb y hy]
      exact h x (List.mem_append_left _ hx) y (List.mem_append_right _ hy)
    obtain ⟨c, hc, -⟩ := hguarded.merged a b hident
    exact ⟨c, by simp only [eval, bind_eq_ok]; exact ⟨a, ha, b, hb, hc⟩⟩

end Guarded

end MergeTree

/-! ## One pass -/

section Passes

universe u

variable {α κ : Type u} {ε ι : Type*} [LinearOrder κ] (key : α → κ) (merge : α → α → Except ε α)

/-- A row in the dictionary: merged into the row with its key, or added. -/
def collectRow (collected : Dict κ α) (row : α) : Except ε (Dict κ α) :=
  match collected.lookup (key row) with
  | none => .ok (collected.insert (key row) row)
  | some existing => do
    let merged ← merge existing row
    .ok (collected.insert (key row) merged)

/-- The rows of a dictionary, sorted by key. -/
def sortedRows (collected : Dict κ α) : List α :=
  (collected.keys.insertionSort (· ≤ ·)).filterMap collected.lookup

/-- All rows in a dictionary, each merged into the one with its key, and sorted by key. -/
def mergeByKey (rows : List α) : Except ε (List α) :=
  (rows.foldlM (collectRow key merge) ∅).map sortedRows

/-- The trees have the rows for values. -/
abbrev Values (trees : List (MergeTree α)) (rows : List α) : Prop :=
  List.Forall₂ (fun t a => t.eval merge = .ok a) trees rows

variable {key merge}

/-- A chain grows at its root. -/
lemma MergeTree.chained_concat (trees : List (MergeTree α)) (t : MergeTree α) :
    chained (trees ++ [t]) = some ((chained trees).elim t fun before => node before t) := by
  cases trees with
  | nil => rfl
  | cons first rest => simp [chained]

/-- A chain has the rows of its trees. -/
lemma MergeTree.leaves_chained (trees : List (MergeTree α)) :
    (chained trees).toList.flatMap leaves = trees.flatMap leaves := by
  cases trees with
  | nil => rfl
  | cons first rest =>
    have hgrow : ∀ (trees : List (MergeTree α)) (acc : MergeTree α),
        (trees.foldl node acc).leaves = acc.leaves ++ trees.flatMap leaves := by
      intro trees
      induction trees with
      | nil => exact fun acc => (List.append_nil _).symm
      | cons t trees ih =>
        intro acc
        rw [List.foldl_cons, ih, leaves, List.append_assoc, List.flatMap_cons]
    rw [chained, Option.toList_some, List.flatMap_singleton, hgrow, List.flatMap_cons]

/-- Rows are the values of leaves. -/
lemma values_leaf (rows : List α) : Values merge (rows.map MergeTree.leaf) rows := by
  induction rows with
  | nil => exact .nil
  | cons row rest ih => exact .cons rfl ih

/-- The rows of some leaves. -/
lemma flatMap_leaves_leaf (rows : List α) :
    (rows.map MergeTree.leaf).flatMap MergeTree.leaves = rows := by
  induction rows with
  | nil => rfl
  | cons row rest ih =>
    rw [List.map_cons, List.flatMap_cons, ih, MergeTree.leaves, List.singleton_append]

variable {collected : Dict κ α}

/-- What is collected under a key is the value of a chain over what came with the key. -/
theorem values_collected {rows : List α}
    (h : rows.foldlM (collectRow key merge) ∅ = .ok collected) (k : κ) {trees : List (MergeTree α)}
    (htrees : Values merge trees (rows.filter fun row => key row = k)) :
    Values merge (MergeTree.chained trees).toList (collected.lookup k).toList := by
  induction rows using List.reverseRecOn generalizing collected trees with
  | nil =>
    obtain rfl := Except.ok.inj h
    cases htrees
    exact .nil
  | append_singleton rows row ih =>
    rw [List.foldlM_append] at h
    obtain ⟨before, hbefore, h⟩ := bind_eq_ok.mp h
    obtain ⟨after, hstep, h⟩ := bind_eq_ok.mp h
    obtain rfl := Except.ok.inj h
    rw [List.filter_append] at htrees
    by_cases hk : key row = k
    · subst hk
      rw [List.filter_singleton, decide_eq_true rfl] at htrees
      obtain ⟨earlier, t, rfl, hearlier, ht⟩ : ∃ earlier t, trees = earlier ++ [t] ∧
          Values merge earlier (rows.filter fun other => key other = key row) ∧
            t.eval merge = .ok row := by
        have hdrop := List.forall₂_drop_append trees _ _ htrees
        have htake := List.forall₂_take_append trees _ _ htrees
        obtain ⟨t, rest, ht, hrest, hlast⟩ := List.forall₂_cons_right_iff.mp hdrop
        obtain rfl := List.forall₂_nil_right_iff.mp hrest
        exact ⟨_, t, by rw [← hlast, List.take_append_drop], htake, ht⟩
      rw [MergeTree.chained_concat]
      have hih := ih hbefore hearlier
      unfold collectRow at hstep
      cases hlookup : before.lookup (key row) with
      | none =>
        rw [hlookup] at hstep hih
        obtain rfl := Except.ok.inj hstep
        cases hchained : MergeTree.chained earlier with
        | none =>
          rw [AList.lookup_insert]
          exact .cons ht .nil
        | some acc =>
          rw [hchained] at hih
          cases hih
      | some existing =>
        rw [hlookup] at hstep hih
        obtain ⟨merged, hmerged, hstep⟩ := bind_eq_ok.mp hstep
        obtain rfl := Except.ok.inj hstep
        cases hchained : MergeTree.chained earlier with
        | none =>
          rw [hchained] at hih
          cases hih
        | some acc =>
          rw [hchained] at hih
          obtain ⟨hacc, -⟩ := List.forall₂_cons.mp hih
          rw [AList.lookup_insert]
          refine .cons ?_ .nil
          simp only [Option.elim_some, MergeTree.eval, bind_eq_ok]
          exact ⟨existing, hacc, row, ht, hmerged⟩
    · rw [List.filter_singleton, decide_eq_false hk] at htrees
      rw [cond_false, List.append_nil] at htrees
      have hother : after.lookup k = before.lookup k := by
        unfold collectRow at hstep
        cases hlookup : before.lookup (key row) with
        | none =>
          rw [hlookup] at hstep
          obtain rfl := Except.ok.inj hstep
          exact AList.lookup_insert_ne (Ne.symm hk)
        | some existing =>
          rw [hlookup] at hstep
          obtain ⟨merged, -, hstep⟩ := bind_eq_ok.mp hstep
          obtain rfl := Except.ok.inj hstep
          exact AList.lookup_insert_ne (Ne.symm hk)
      rw [hother]
      exact ih hbefore htrees

/-- The rows come out sorted by key, those of a key as they were collected. -/
lemma mem_sortedRows {row : α} :
    row ∈ sortedRows collected ↔ ∃ k, collected.lookup k = some row := by
  have hkeys : ∀ k, k ∈ collected.keys.insertionSort (· ≤ ·) ↔
      (collected.lookup k).isSome := fun k => by
    rw [(List.perm_insertionSort _ _).mem_iff, AList.lookup_isSome]
    rfl
  rw [sortedRows, List.mem_filterMap]
  constructor
  · rintro ⟨k, -, hk⟩
    exact ⟨k, hk⟩
  · rintro ⟨k, hk⟩
    exact ⟨k, (hkeys k).mpr (by rw [hk]; rfl), hk⟩

/-- Sorted rows have increasing keys, if every row is under its own key. -/
lemma pairwise_sortedRows (hkey : ∀ k row, collected.lookup k = some row → key row = k) :
    (sortedRows collected).Pairwise fun row row' => key row < key row' := by
  have hsorted : (collected.keys.insertionSort (· ≤ ·)).Pairwise (· < ·) := by
    have hle : (collected.keys.insertionSort (· ≤ ·)).Pairwise (· ≤ ·) :=
      List.pairwise_insertionSort _ _
    have hnodup : (collected.keys.insertionSort (· ≤ ·)).Nodup :=
      (List.perm_insertionSort _ _).nodup_iff.mpr collected.nodupKeys
    exact (hle.and hnodup).imp fun h => lt_of_le_of_ne h.1 h.2
  refine List.Pairwise.filterMap _ (fun k k' hlt row hrow row' hrow' => ?_) hsorted
  rw [hkey k row hrow, hkey k' row' hrow']
  exact hlt

/-- Rows in the order of their keys are determined by which rows there are. -/
lemma eq_of_mem_iff {rows rows' : List α} (h : rows.Pairwise fun row row' => key row < key row')
    (h' : rows'.Pairwise fun row row' => key row < key row')
    (hmem : ∀ row, row ∈ rows ↔ row ∈ rows') : rows = rows' := by
  have hnodup : ∀ {rows : List α}, (rows.Pairwise fun row row' => key row < key row') →
      rows.Nodup :=
    fun h => h.imp fun hlt => ne_of_apply_ne key hlt.ne
  refine ((List.perm_ext_iff_of_nodup (hnodup h) (hnodup h')).mpr hmem).eq_of_pairwise ?_ h h'
  exact fun row row' _ _ hlt hlt' => absurd hlt' (lt_asymm hlt)

/-- The rows of a key. -/
lemma filter_sortedRows (hkey : ∀ k row, collected.lookup k = some row → key row = k) (k : κ) :
    ((sortedRows collected).filter fun row => key row = k) = (collected.lookup k).toList := by
  have hsorted : ((sortedRows collected).filter fun row => key row = k).Pairwise
      fun row row' => key row < key row' := (pairwise_sortedRows hkey).filter _
  refine eq_of_mem_iff hsorted ?_ fun row => ?_
  · cases collected.lookup k <;> simp
  · rw [List.mem_filter, mem_sortedRows, decide_eq_true_eq, Option.mem_toList]
    constructor
    · rintro ⟨⟨k', hrow⟩, hk⟩
      rwa [← hk, hkey k' row hrow]
    · exact fun hrow => ⟨⟨k, hrow⟩, hkey k row hrow⟩

section Guarded

variable {ident : α → ι} {mismatch : ε} (hguarded : MergeTree.Guarded merge ident mismatch)
  (hkey : ∀ a b, ident a = ident b → key a = key b)

variable {rows : List α}

include hguarded

/-- A collected row has the identity of one of those that came with its key. -/
lemma ident_of_collected {collected : Dict κ α}
    (h : rows.foldlM (collectRow key merge) ∅ = .ok collected) {k : κ} {row : α}
    (hrow : collected.lookup k = some row) :
    ∃ first ∈ rows, key first = k ∧ ident first = ident row := by
  have hvalues := values_collected h k (values_leaf _)
  have hleaves := MergeTree.leaves_chained ((rows.filter fun row => key row = k).map MergeTree.leaf)
  rw [flatMap_leaves_leaf] at hleaves
  rw [hrow] at hvalues
  obtain ⟨t, rest, heval, hrest, hchained⟩ := List.forall₂_cons_right_iff.mp hvalues
  obtain rfl := List.forall₂_nil_right_iff.mp hrest
  rw [hchained, List.flatMap_singleton] at hleaves
  obtain ⟨first, hfirst⟩ := t.exists_mem_leaves
  have hident := hguarded.ident_eval heval first hfirst
  rw [hleaves, List.mem_filter, decide_eq_true_eq] at hfirst
  exact ⟨first, hfirst.1, hfirst.2, hident⟩

/-- Rows can be collected if those of one key have one identity. -/
lemma exists_collected (h : ∀ a ∈ rows, ∀ b ∈ rows, key a = key b → ident a = ident b) :
    ∃ collected, rows.foldlM (collectRow key merge) ∅ = .ok collected := by
  induction rows using List.reverseRecOn with
  | nil => exact ⟨∅, rfl⟩
  | append_singleton rows row ih =>
    obtain ⟨before, hbefore⟩ := ih fun a ha b hb =>
      h a (List.mem_append_left _ ha) b (List.mem_append_left _ hb)
    obtain ⟨after, hafter⟩ : ∃ after, collectRow key merge before row = .ok after := by
      unfold collectRow
      cases hlookup : before.lookup (key row) with
      | none => exact ⟨_, rfl⟩
      | some existing =>
        obtain ⟨first, hfirst, hk, hident⟩ := ident_of_collected hguarded hbefore hlookup
        have hsame := h first (List.mem_append_left _ hfirst) row (by simp) hk
        obtain ⟨merged, hmerged, -⟩ := hguarded.merged existing row (hident.symm.trans hsame)
        exact ⟨_, bind_eq_ok.mpr ⟨merged, hmerged, rfl⟩⟩
    refine ⟨after, ?_⟩
    rw [List.foldlM_append, hbefore]
    exact bind_eq_ok.mpr ⟨before, rfl, bind_eq_ok.mpr ⟨after, hafter, rfl⟩⟩

/-- Collecting raises what a merge raises. -/
lemma collected_error {collected : Dict κ α} {e : ε}
    (h : rows.foldlM (collectRow key merge) collected = .error e) : e = mismatch := by
  induction rows generalizing collected with
  | nil => cases h
  | cons row rest ih =>
    rw [List.foldlM_cons] at h
    cases hstep : collectRow key merge collected row with
    | ok next =>
      rw [hstep] at h
      exact ih h
    | error e' =>
      rw [hstep] at h
      obtain rfl := Except.error.inj h
      unfold collectRow at hstep
      cases hlookup : collected.lookup (key row) with
      | none =>
        rw [hlookup] at hstep
        cases hstep
      | some existing =>
        rw [hlookup] at hstep
        dsimp only at hstep
        by_cases hident : ident existing = ident row
        · obtain ⟨merged, hmerged, -⟩ := hguarded.merged existing row hident
          rw [hmerged] at hstep
          cases hstep
        · rw [hguarded.refused existing row hident] at hstep
          exact (Except.error.inj hstep).symm

include hkey

/-- One pass gives rows in the order of their keys, and those of a key are the value of a chain. -/
theorem mergeByKey_ok {merged : List α} (h : mergeByKey key merge rows = .ok merged) :
    (merged.Pairwise fun row row' => key row < key row') ∧
      ∀ k trees, Values merge trees (rows.filter fun row => key row = k) →
        Values merge (MergeTree.chained trees).toList (merged.filter fun row => key row = k) := by
  unfold mergeByKey at h
  cases hcollected : rows.foldlM (collectRow key merge) ∅ with
  | error e =>
    rw [hcollected] at h
    cases h
  | ok collected =>
    rw [hcollected] at h
    obtain rfl := Except.ok.inj h
    have hown : ∀ k row, collected.lookup k = some row → key row = k := fun k row hrow => by
      obtain ⟨first, -, hk, hident⟩ := ident_of_collected hguarded hcollected hrow
      rw [← hk]
      exact (hkey _ _ hident).symm
    refine ⟨pairwise_sortedRows hown, fun k trees htrees => ?_⟩
    rw [filter_sortedRows hown]
    exact values_collected hcollected k htrees

end Guarded

/-! ## Passes over passes -/

/-- Rows that are handed over as they came, together with others, or after a pass. -/
inductive Folding (α : Type u) where
  | given (rows : List α)
  | both (left right : Folding α)
  | pass (groups : Folding α)

namespace Folding

variable {f : Folding α} {out : List α}

/-- The rows that are folded, in order. -/
def rows : Folding α → List α
  | given rows => rows
  | both left right => left.rows ++ right.rows
  | pass groups => groups.rows

variable (key merge) in
/-- What is handed over. -/
def result : Folding α → Except ε (List α)
  | given rows => .ok rows
  | both left right => do
    let first ← left.result
    let second ← right.result
    .ok (first ++ second)
  | pass groups => do
    let rows ← groups.result
    mergeByKey key merge rows

variable (key) in
/-- The merges of the rows of a key. -/
def trees (k : κ) : Folding α → List (MergeTree α)
  | given rows => (rows.filter fun row => key row = k).map MergeTree.leaf
  | both left right => left.trees k ++ right.trees k
  | pass groups => (MergeTree.chained (groups.trees k)).toList

/-- The merges of a key are over the rows of the key. -/
lemma leaves_trees (k : κ) (f : Folding α) :
    (f.trees key k).flatMap MergeTree.leaves = f.rows.filter fun row => key row = k := by
  induction f with
  | given rows => exact flatMap_leaves_leaf _
  | both left right ihleft ihright =>
    rw [trees, List.flatMap_append, ihleft, ihright, rows, List.filter_append]
  | pass groups ih => rw [trees, MergeTree.leaves_chained, ih, rows]

/-- A row of a merge is a row of its key. -/
lemma mem_rows_of_mem_leaves {k : κ} {t : MergeTree α} (ht : t ∈ f.trees key k) {row : α}
    (hrow : row ∈ t.leaves) : row ∈ f.rows ∧ key row = k := by
  have hmem : row ∈ (f.trees key k).flatMap MergeTree.leaves := List.mem_flatMap.mpr ⟨t, ht, hrow⟩
  rw [leaves_trees, List.mem_filter, decide_eq_true_eq] at hmem
  exact hmem

variable {ident : α → ι} {mismatch : ε} (hguarded : MergeTree.Guarded merge ident mismatch)
  (hkey : ∀ a b, ident a = ident b → key a = key b)

include hguarded hkey

/-- The rows that are handed over are the values of the merges. -/
theorem result_trees (h : f.result key merge = .ok out) (k : κ) :
    Values merge (f.trees key k) (out.filter fun row => key row = k) := by
  induction f generalizing out with
  | given rows =>
    obtain rfl := Except.ok.inj h
    exact values_leaf _
  | both left right ihleft ihright =>
    obtain ⟨first, hfirst, h⟩ := bind_eq_ok.mp h
    obtain ⟨second, hsecond, h⟩ := bind_eq_ok.mp h
    obtain rfl := Except.ok.inj h
    rw [List.filter_append]
    exact List.rel_append (ihleft hfirst) (ihright hsecond)
  | pass groups ih =>
    obtain ⟨rows, hrows, h⟩ := bind_eq_ok.mp h
    exact (mergeByKey_ok hguarded hkey h).2 k _ (ih hrows)

/-- A row that is handed over has the identity of one of the rows. -/
lemma ident_of_result (h : f.result key merge = .ok out) {row : α}
    (hrow : row ∈ out) : ∃ first ∈ f.rows, ident first = ident row := by
  have hvalues := result_trees hguarded hkey h (key row)
  have hmem : row ∈ out.filter fun other => key other = key row := by simpa using hrow
  obtain ⟨t, ht, heval⟩ : ∃ t ∈ f.trees key (key row), t.eval merge = .ok row := by
    obtain ⟨i, hi, hget⟩ := List.mem_iff_getElem.mp hmem
    have hi' : i < (f.trees key (key row)).length := hvalues.length_eq ▸ hi
    have hboth := (List.forall₂_iff_get.mp hvalues).2 i hi' hi
    rw [List.get_eq_getElem, List.get_eq_getElem, hget] at hboth
    exact ⟨_, List.getElem_mem hi', hboth⟩
  obtain ⟨first, hfirst⟩ := t.exists_mem_leaves
  exact ⟨first, (mem_rows_of_mem_leaves ht hfirst).1, hguarded.ident_eval heval first hfirst⟩

/-- Something is handed over if the rows of one key have one identity. -/
lemma exists_result (h : ∀ a ∈ f.rows, ∀ b ∈ f.rows, key a = key b → ident a = ident b) :
    ∃ out, f.result key merge = .ok out := by
  induction f with
  | given rows => exact ⟨rows, rfl⟩
  | both left right ihleft ihright =>
    obtain ⟨first, hfirst⟩ := ihleft fun a ha b hb =>
      h a (List.mem_append_left _ ha) b (List.mem_append_left _ hb)
    obtain ⟨second, hsecond⟩ := ihright fun a ha b hb =>
      h a (List.mem_append_right _ ha) b (List.mem_append_right _ hb)
    refine ⟨first ++ second, ?_⟩
    simp only [result, bind_eq_ok]
    exact ⟨first, hfirst, second, hsecond, rfl⟩
  | pass groups ih =>
    obtain ⟨rows, hrows⟩ := ih h
    obtain ⟨collected, hcollected⟩ : ∃ collected,
        rows.foldlM (collectRow key merge) ∅ = .ok collected := by
      refine exists_collected hguarded fun a ha b hb hab => ?_
      obtain ⟨a', ha', hidentA⟩ := ident_of_result hguarded hkey hrows ha
      obtain ⟨b', hb', hidentB⟩ := ident_of_result hguarded hkey hrows hb
      rw [← hidentA, ← hidentB]
      exact h a' ha' b' hb' (by rw [hkey a' a hidentA, hkey b' b hidentB, hab])
    refine ⟨sortedRows collected, ?_⟩
    simp only [result, bind_eq_ok]
    exact ⟨rows, hrows, by rw [mergeByKey, hcollected]; rfl⟩

omit hkey in
/-- Folding raises what a merge raises. -/
lemma result_error {e : ε} (h : f.result key merge = .error e) : e = mismatch := by
  induction f with
  | given rows => cases h
  | both left right ihleft ihright =>
    unfold result at h
    cases hleft : left.result key merge with
    | error e' =>
      rw [hleft] at h
      exact ihleft (hleft.trans h)
    | ok first =>
      cases hright : right.result key merge with
      | error e' =>
        rw [hleft, hright] at h
        exact ihright (hright.trans h)
      | ok second =>
        rw [hleft, hright] at h
        cases h
  | pass groups ih =>
    unfold result at h
    cases hgroups : groups.result key merge with
    | error e' =>
      rw [hgroups] at h
      exact ih (hgroups.trans h)
    | ok rows =>
      rw [hgroups] at h
      change mergeByKey key merge rows = .error e at h
      unfold mergeByKey at h
      cases hcollected : rows.foldlM (collectRow key merge) ∅ with
      | error e' =>
        rw [hcollected] at h
        obtain rfl := Except.error.inj h
        exact collected_error hguarded hcollected
      | ok collected =>
        rw [hcollected] at h
        cases h

/-- The rows of one key have one identity if a pass over them hands something over. -/
lemma ident_of_pass (h : (pass f).result key merge = .ok out) :
    ∀ a ∈ f.rows, ∀ b ∈ f.rows, key a = key b → ident a = ident b := by
  intro a ha b hb hab
  have hvalues := result_trees hguarded hkey h (key a)
  have hleaves : ((pass f).trees key (key a)).flatMap MergeTree.leaves =
      f.rows.filter fun row => key row = key a := leaves_trees (key a) (pass f)
  have hmem : ∀ c ∈ f.rows, key c = key a →
      c ∈ ((pass f).trees key (key a)).flatMap MergeTree.leaves := by
    intro c hc hk
    rw [hleaves]
    simpa [hk] using hc
  have ha := hmem a ha rfl
  have hb := hmem b hb hab.symm
  rw [trees] at hvalues ha hb
  cases hchained : MergeTree.chained (f.trees key (key a)) with
  | none =>
    rw [hchained] at ha
    cases ha
  | some t =>
    rw [hchained, Option.toList_some] at hvalues ha hb
    rw [List.flatMap_singleton] at ha hb
    obtain ⟨row, rest, heval, -, -⟩ := List.forall₂_cons_left_iff.mp hvalues
    rw [hguarded.ident_eval heval a ha, hguarded.ident_eval heval b hb]

/-- Two passes over the same rows have the same rows of a key, if the merges that they make of the
key have the same value. -/
lemma filter_pass_eq {f' : Folding α} {out' : List α} (hperm : f.rows.Perm f'.rows)
    (hout : (pass f).result key merge = .ok out) (hout' : (pass f').result key merge = .ok out')
    {k : κ}
    (hsame : ∀ t ∈ (pass f).trees key k, ∀ t' ∈ (pass f').trees key k, t.leaves.Perm t'.leaves →
      ∀ a a', t.eval merge = .ok a → t'.eval merge = .ok a' → a = a') :
    (out.filter fun row => key row = k) = out'.filter fun row => key row = k := by
  have hvalues := result_trees hguarded hkey hout k
  have hvalues' := result_trees hguarded hkey hout' k
  have hboth : (((pass f).trees key k).flatMap MergeTree.leaves).Perm
      (((pass f').trees key k).flatMap MergeTree.leaves) := by
    rw [leaves_trees, leaves_trees]
    exact hperm.filter _
  rw [trees] at hvalues hvalues'
  rw [trees, trees] at hsame hboth
  cases hchained : MergeTree.chained (f.trees key k) with
  | none =>
    cases hchained' : MergeTree.chained (f'.trees key k) with
    | none =>
      rw [hchained] at hvalues
      rw [hchained'] at hvalues'
      rw [List.forall₂_nil_left_iff.mp hvalues, List.forall₂_nil_left_iff.mp hvalues']
    | some t' =>
      obtain ⟨a, ha⟩ := t'.exists_mem_leaves
      rw [hchained, hchained', Option.toList_some, List.flatMap_singleton] at hboth
      exact absurd (hboth.mem_iff.mpr ha) List.not_mem_nil
  | some t =>
    cases hchained' : MergeTree.chained (f'.trees key k) with
    | none =>
      obtain ⟨a, ha⟩ := t.exists_mem_leaves
      rw [hchained, hchained', Option.toList_some, List.flatMap_singleton] at hboth
      exact absurd (hboth.mem_iff.mp ha) List.not_mem_nil
    | some t' =>
      rw [hchained, hchained', Option.toList_some, Option.toList_some, List.flatMap_singleton,
        List.flatMap_singleton] at hboth
      rw [hchained] at hvalues
      rw [hchained'] at hvalues'
      obtain ⟨row, rest, hrow, hrest, hrows⟩ := List.forall₂_cons_left_iff.mp hvalues
      obtain ⟨row', rest', hrow', hrest', hrows'⟩ := List.forall₂_cons_left_iff.mp hvalues'
      rw [hrows, hrows', List.forall₂_nil_left_iff.mp hrest, List.forall₂_nil_left_iff.mp hrest']
      rw [hchained, hchained'] at hsame
      rw [hsame t (by simp) t' (by simp) hboth row row' hrow hrow']

/-- Two passes over the same rows hand over the same, if all merges that they make of one key have
the same value. -/
theorem result_eq {f' : Folding α} (hperm : f.rows.Perm f'.rows)
    (hsame : ∀ k, ∀ t ∈ (pass f).trees key k, ∀ t' ∈ (pass f').trees key k,
      t.leaves.Perm t'.leaves →
      ∀ a a', t.eval merge = .ok a → t'.eval merge = .ok a' → a = a') :
    (pass f).result key merge = (pass f').result key merge := by
  have hrows : ∀ a, a ∈ f.rows ↔ a ∈ f'.rows := fun a => hperm.mem_iff
  cases hresult : (pass f).result key merge with
  | error e =>
    obtain rfl := result_error hguarded hresult
    cases hresult' : (pass f').result key merge with
    | error e' => rw [result_error hguarded hresult']
    | ok out' =>
      have hident := ident_of_pass hguarded hkey hresult'
      obtain ⟨out, hout⟩ := exists_result hguarded hkey (f := pass f) fun a ha b hb =>
        hident a ((hrows a).mp ha) b ((hrows b).mp hb)
      rw [hresult] at hout
      cases hout
  | ok out =>
    have hident := ident_of_pass hguarded hkey hresult
    obtain ⟨out', hresult'⟩ := exists_result hguarded hkey (f := pass f') fun a ha b hb =>
      hident a ((hrows a).mpr ha) b ((hrows b).mpr hb)
    rw [hresult']
    have hsorted : ∀ {f : Folding α} {out : List α}, (pass f).result key merge = .ok out →
        out.Pairwise fun row row' => key row < key row' := by
      intro f out h
      obtain ⟨rows, -, h⟩ := bind_eq_ok.mp h
      exact (mergeByKey_ok hguarded hkey h).1
    have hmem : ∀ {out : List α} {row : α}, row ∈ out ↔
        row ∈ out.filter fun other => key other = key row := by simp
    have heq : out = out' := eq_of_mem_iff (hsorted hresult) (hsorted hresult') fun row => by
      rw [hmem, filter_pass_eq hguarded hkey hperm hresult hresult' (hsame _), ← hmem]
    rw [heq]

end Folding

end Passes

end Foundation
