import Mathlib.Data.List.Basic
import Mathlib.Data.List.Chain
import Mathlib.Data.List.Sort
import Mathlib.Tactic.Ring

/-!
# Numbered and grouped lists

Rows that carry a position `1, 2, ..., n` in one of their columns: reading them back in the order of
that column gives the list in which they were numbered, whatever order they were stored or selected
in.  Consecutive rows are compared with `List.IsChain`.

`groupedBy` puts items under their keys in the order in which they come, as a dictionary of lists
that is filled item by item does.
-/

namespace Foundation

variable {α β : Type*}

/-- The tuple `range(1, n + 1)`. -/
def countFromOne (n : Nat) : List Int :=
  (List.range n).map (fun (index : Nat) => (index : Int) + 1)

@[simp] theorem countFromOne_zero : countFromOne 0 = [] := rfl

@[simp] theorem length_countFromOne (n : Nat) : (countFromOne n).length = n := by
  simp [countFromOne]

/-- Counting one further appends one number. -/
theorem countFromOne_succ (n : Nat) : countFromOne (n + 1) = countFromOne n ++ [(n : Int) + 1] := by
  simp [countFromOne, List.range_succ]

/-- The numbers counted are those between one and the bound. -/
@[simp] theorem mem_countFromOne {n : Nat} {x : Int} :
    x ∈ countFromOne n ↔ 1 ≤ x ∧ x ≤ n := by
  simp only [countFromOne, List.mem_map, List.mem_range]
  constructor
  · rintro ⟨index, hindex, rfl⟩
    omega
  · rintro ⟨hlow, hhigh⟩
    exact ⟨(x - 1).toNat, by omega, by omega⟩

/-- Counting is strictly increasing. -/
theorem countFromOne_pairwise (n : Nat) : (countFromOne n).Pairwise (· < ·) := by
  induction n with
  | zero => simp
  | succ n ih =>
    rw [countFromOne_succ, List.pairwise_append]
    refine ⟨ih, by simp, ?_⟩
    intro a ha b hb
    rw [mem_countFromOne] at ha
    rw [List.mem_singleton] at hb
    omega

/-- The rows in the ascending order of a column (`ORDER BY`, `sorted(key=...)`). -/
def orderBy (key : α → Int) (rows : List α) : List α :=
  rows.insertionSort (fun a b => key a ≤ key b)

/-- Ordering rows permutes them. -/
theorem orderBy_perm (key : α → Int) (rows : List α) : (orderBy key rows).Perm rows :=
  List.perm_insertionSort _ rows

/-- Ordered rows ascend. -/
theorem orderBy_pairwise (key : α → Int) (rows : List α) :
    (orderBy key rows).Pairwise (fun a b => key a ≤ key b) := by
  have htotal : Std.Total (fun a b : α => key a ≤ key b) := ⟨fun a b => le_total (key a) (key b)⟩
  have htrans : IsTrans α (fun a b => key a ≤ key b) := ⟨fun _ _ _ hab hbc => hab.trans hbc⟩
  exact List.pairwise_insertionSort _ rows

section Numbered

variable {f : α → Int} {l g : List α}
variable {n : Nat} {a : α}

/-- A numbered list is strictly increasing in its number. -/
theorem pairwise_of_numbered (h : l.map f = countFromOne n) :
    l.Pairwise (fun a b => f a < f b) := by
  have hmap : (l.map f).Pairwise (· < ·) := h ▸ countFromOne_pairwise n
  exact List.pairwise_map.mp hmap

/-- A number occurs once in a numbered list. -/
theorem eq_of_numbered (h : l.map f = countFromOne n) {b : α} (ha : a ∈ l) (hb : b ∈ l)
    (hab : f a = f b) : a = b := by
  have hnodup : (l.map f).Nodup := h ▸ (countFromOne_pairwise n).imp (fun hlt => ne_of_lt hlt)
  exact List.inj_on_of_nodup_map hnodup ha hb hab

/-- The numbers of a numbered list are those between one and its length. -/
theorem bounds_of_numbered (h : l.map f = countFromOne n) (ha : a ∈ l) :
    1 ≤ f a ∧ f a ≤ n := by
  rw [← mem_countFromOne, ← h]
  exact List.mem_map_of_mem ha

/-- A numbered list has an element for each number up to its length. -/
theorem exists_of_numbered (h : l.map f = countFromOne n) {x : Int} (h1 : 1 ≤ x)
    (h2 : x ≤ n) : ∃ a ∈ l, f a = x := by
  have hx : x ∈ l.map f := h ▸ mem_countFromOne.mpr ⟨h1, h2⟩
  exact List.mem_map.mp hx

/-- Selecting the rows of a numbered list in the order of their number gives the list back. -/
theorem orderBy_of_numbered (h : g.map f = countFromOne n) (hperm : l.Perm g) :
    orderBy f l = g := by
  have hg : g.Pairwise (fun a b => f a ≤ f b) :=
    (pairwise_of_numbered h).imp (fun hlt => le_of_lt hlt)
  have hall : (orderBy f l).Perm g := (orderBy_perm f l).trans hperm
  have hantisymm : ∀ a b, a ∈ orderBy f l → b ∈ g → f a ≤ f b → f b ≤ f a → a = b :=
    fun a b ha hb hab hba => eq_of_numbered h (hall.subset ha) hb (le_antisymm hab hba)
  exact List.Perm.eq_of_pairwise hantisymm (orderBy_pairwise f l) hg hall

/-- Elements with consecutive numbers are consecutive in a numbered list. -/
theorem rel_of_numbered {R : α → α → Prop} (h : l.map f = countFromOne n)
    (hchain : l.IsChain R) {b : α} (ha : a ∈ l) (hb : b ∈ l) (hab : f a + 1 = f b) : R a b := by
  have hnumber : ∀ index (hindex : index < l.length), f l[index] = (index : Int) + 1 := by
    intro index hindex
    have hmap : (l.map f)[index]? = (countFromOne n)[index]? := by rw [h]
    have hlength : l.length = n := by simpa using congrArg List.length h
    rw [List.getElem?_map, List.getElem?_eq_getElem hindex] at hmap
    rw [countFromOne, List.getElem?_map, List.getElem?_range (hlength ▸ hindex)] at hmap
    simpa using hmap
  obtain ⟨i, hi, rfl⟩ := List.mem_iff_getElem.mp ha
  obtain ⟨j, hj, rfl⟩ := List.mem_iff_getElem.mp hb
  have hconsecutive : j = i + 1 := by
    have hfi := hnumber i hi
    have hfj := hnumber j hj
    omega
  subst hconsecutive
  exact List.isChain_iff_getElem.mp hchain i hj

/-- What holds along a numbered list holds of elements in the order of their numbers. -/
theorem rel_of_lt_of_numbered {R : α → α → Prop} (h : l.map f = countFromOne n)
    (hpairwise : l.Pairwise R) {b : α} (ha : a ∈ l) (hb : b ∈ l) (hlt : f a < f b) : R a b := by
  obtain ⟨i, hi, rfl⟩ := List.mem_iff_getElem.mp ha
  obtain ⟨j, hj, rfl⟩ := List.mem_iff_getElem.mp hb
  have hnumbers := List.pairwise_iff_getElem.mp (pairwise_of_numbered h)
  have hij : i < j := by
    rcases lt_trichotomy i j with hij | rfl | hji
    · exact hij
    · exact absurd hlt (lt_irrefl _)
    · exact absurd (hnumbers j i hj hi hji) (lt_asymm hlt)
  exact List.pairwise_iff_getElem.mp hpairwise i j hi hj hij

/-- The last number of a numbered list is its length. -/
theorem getLast_of_numbered (h : l.map f = countFromOne l.length) :
    (l.getLast?.map f).getD 0 = l.length := by
  rw [← List.getLast?_map, h]
  cases hl : l.length with
  | zero => simp
  | succ n => simp [countFromOne_succ]

/-- Appending the next number keeps a list numbered. -/
theorem numbered_concat (h : l.map f = countFromOne l.length) (ha : f a = (l.length : Int) + 1) :
    (l ++ [a]).map f = countFromOne (l ++ [a]).length := by
  simp [countFromOne_succ, h, ha]

end Numbered

/-- Ascending positive numbers are numbered from one exactly when none is left out below another. -/
theorem eq_countFromOne_iff {l : List Int} (hsorted : l.Pairwise (· < ·)) (hpos : ∀ x ∈ l, 1 ≤ x) :
    l = countFromOne l.length ↔ ∀ x ∈ l, ∀ y, 1 ≤ y → y < x → y ∈ l := by
  constructor
  · intro hcount x hx y hlow hlt
    rw [hcount, mem_countFromOne] at hx ⊢
    omega
  · intro hdown
    induction l using List.reverseRecOn with
    | nil => rfl
    | append_singleton l last ih =>
      obtain ⟨hl, -, hbelow⟩ := List.pairwise_append.mp hsorted
      have hlt : ∀ x ∈ l, x < last := fun x hx => hbelow x hx last (List.mem_singleton_self last)
      have hdownL : ∀ x ∈ l, ∀ y, 1 ≤ y → y < x → y ∈ l := by
        intro x hx y hlow hyx
        have hxlast := hlt x hx
        obtain hy | hy := List.mem_append.mp
          (hdown x (List.mem_append_left _ hx) y hlow hyx)
        · exact hy
        · rw [List.mem_singleton] at hy
          omega
      have hcount := ih hl (fun x hx => hpos x (List.mem_append_left _ hx)) hdownL
      have hlast : last = (l.length : Int) + 1 := by
        have hlow := hpos last (List.mem_append_right _ (List.mem_singleton_self last))
        have hnext : ¬ (l.length : Int) + 1 < last := by
          intro hbig
          obtain hmem | hmem := List.mem_append.mp (hdown last
            (List.mem_append_right _ (List.mem_singleton_self last)) (l.length + 1) (by omega) hbig)
          · rw [hcount, mem_countFromOne] at hmem
            simp at hmem
          · rw [List.mem_singleton] at hmem
            omega
        have hover : ¬ last ≤ (l.length : Int) := by
          intro hsmall
          have hmem : last ∈ l := by
            rw [hcount, mem_countFromOne]
            exact ⟨hlow, hsmall⟩
          exact absurd (hlt last hmem) (lt_irrefl _)
        omega
      rw [List.length_append, List.length_singleton, countFromOne_succ, ← hcount, hlast]

/-- Consecutive values increase exactly when the list is a chain for `<`. -/
theorem zip_tail_all_lt_iff {values : List Int} :
    (values.zip values.tail).all (fun pair => decide (pair.1 < pair.2)) = true ↔
      values.IsChain (· < ·) := by
  induction values with
  | nil => simp
  | cons a rest ih =>
    cases rest with
    | nil => simp
    | cons b rest =>
      simp only [List.tail_cons, List.zip_cons_cons, List.all_cons, Bool.and_eq_true,
        decide_eq_true_eq, List.isChain_cons_cons] at ih ⊢
      rw [ih]

/-- A chain with one more element: the old chain, and the last element related to the new one. -/
theorem isChain_concat {R : α → α → Prop} {l : List α} {x : α} :
    (l ++ [x]).IsChain R ↔ l.IsChain R ∧ ∀ y ∈ l.getLast?, R y x := by
  simp [List.isChain_append]

/-- Two lists selected by the same condition keep being permutations of each other. -/
theorem filter_map_perm {f : α → β} {p : β → Bool} {l g : List α} (h : l.Perm g) :
    ((l.map f).filter p).Perm ((g.map f).filter p) :=
  (h.map f).filter p

/-- When a column has no value twice within a group, no group has it twice over the whole list. -/
theorem nodup_map_of_groups {κ : Type*} [BEq κ] [LawfulBEq κ] {group : α → κ} {f : α → β}
    {l : List α} (h : ∀ g, ((l.filter (fun a => group a == g)).map f).Nodup) :
    (l.map (fun a => (group a, f a))).Nodup := by
  induction l with
  | nil => exact List.nodup_nil
  | cons a l ih =>
    have hrest : ∀ g, ((l.filter (fun b => group b == g)).map f).Nodup := by
      intro g
      have hsub : (l.filter (fun b => group b == g)).Sublist
          ((a :: l).filter (fun b => group b == g)) :=
        (List.sublist_cons_self a l).filter _
      exact (h g).sublist (hsub.map f)
    rw [List.map_cons, List.nodup_cons]
    refine ⟨fun hmem => ?_, ih hrest⟩
    obtain ⟨b, hb, hsame⟩ := List.mem_map.mp hmem
    have hgroup : group b = group a := congrArg Prod.fst hsame
    have hvalue : f b = f a := congrArg Prod.snd hsame
    have hhead := h (group a)
    rw [List.filter_cons_of_pos (by simp), List.map_cons, List.nodup_cons] at hhead
    exact hhead.1 (List.mem_map.mpr ⟨b, List.mem_filter.mpr ⟨hb, by simpa using hgroup⟩, hvalue⟩)

section Counting

variable {previous : Int}

/-- The numbers after `previous`. -/
def countAfter (previous : Int) : Nat → List Int
  | 0 => []
  | n + 1 => (previous + 1) :: countAfter (previous + 1) n

@[simp] theorem length_countAfter (previous : Int) (n : Nat) :
    (countAfter previous n).length = n := by
  induction n generalizing previous with
  | zero => rfl
  | succ n ih => rw [countAfter, List.length_cons, ih]

/-- The numbers counted are those up to `n` beyond the given one. -/
theorem mem_countAfter {n : Nat} {x : Int} :
    x ∈ countAfter previous n ↔ previous < x ∧ x ≤ previous + n := by
  induction n generalizing previous with
  | zero =>
    simp only [countAfter, List.not_mem_nil, false_iff]
    omega
  | succ n ih =>
    rw [countAfter, List.mem_cons, ih]
    omega

/-- Counting on is strictly increasing. -/
theorem countAfter_pairwise (previous : Int) (n : Nat) :
    (countAfter previous n).Pairwise (· < ·) := by
  induction n generalizing previous with
  | zero => exact List.Pairwise.nil
  | succ n ih =>
    exact List.pairwise_cons.mpr ⟨fun x hx => (mem_countAfter.mp hx).1, ih _⟩

/-- Strictly ascending numbers that are those between two bounds are counted. -/
theorem eq_countAfter {l : List Int} {n : Nat} (h : l.Pairwise (· < ·))
    (hmem : ∀ x, x ∈ l ↔ previous < x ∧ x ≤ previous + n) : l = countAfter previous n := by
  have hnodup : ∀ {m : List Int}, m.Pairwise (· < ·) → m.Nodup :=
    fun hm => hm.imp (fun hlt => ne_of_lt hlt)
  have hperm : l.Perm (countAfter previous n) :=
    (List.perm_ext_iff_of_nodup (hnodup h) (hnodup (countAfter_pairwise previous n))).mpr
      (fun x => by rw [hmem, mem_countAfter])
  exact List.Perm.eq_of_pairwise (fun a b _ _ hab hba => absurd hab (lt_asymm hba)) h
    (countAfter_pairwise previous n) hperm

/-- Counting on from where a count ends. -/
theorem countAfter_add (previous : Int) (m n : Nat) :
    countAfter previous (m + n) = countAfter previous m ++ countAfter (previous + m) n := by
  induction m generalizing previous with
  | zero => simp [countAfter]
  | succ m ih =>
    have hnext : previous + 1 + (m : Int) = previous + ((m + 1 : Nat) : Int) := by omega
    rw [Nat.add_right_comm, countAfter, countAfter, ih, hnext, List.cons_append]

/-- The last number of a count, or the number before it when nothing is counted. -/
theorem getLast_countAfter (previous : Int) (n : Nat) :
    (countAfter previous n).getLast?.getD previous = previous + n := by
  cases n with
  | zero => simp [countAfter]
  | succ n =>
    rw [countAfter_add previous n 1, countAfter, countAfter, List.getLast?_concat, Option.getD_some]
    omega

/-- A count is told by its last number. -/
theorem eq_countAfter_getLast_iff {l : List Int} {last : Int}
    (hlast : last = l.getLast?.getD previous) :
    (previous ≤ last ∧ l = countAfter previous (last - previous).toNat) ↔
      l = countAfter previous l.length := by
  constructor
  · rintro ⟨-, hl⟩
    have hlength := congrArg List.length hl
    rw [length_countAfter] at hlength
    rw [hlength]
    exact hl
  · intro hl
    have hend : last = previous + l.length := by
      rw [hlast, hl, getLast_countAfter, length_countAfter]
    exact ⟨by omega, by rw [hend, add_sub_cancel_left, Int.toNat_natCast]; exact hl⟩

/-- The first `k` of strictly ascending numbers are counted exactly when no number is left out
before one of them. -/
theorem take_eq_countAfter_iff {l : List Int} {k : Nat} (hsorted : l.Pairwise (· < ·))
    (hlow : ∀ x ∈ l, previous < x) :
    l.take k = countAfter previous (l.take k).length ↔
      ∀ x ∈ l, (l.filter (· < x)).length < k → ∀ n, previous < n → n < x → n ∈ l := by
  induction l generalizing previous k with
  | nil => simp [countAfter]
  | cons first rest ih =>
    obtain ⟨hfirst, hrest⟩ := List.pairwise_cons.mp hsorted
    cases k with
    | zero => simp [countAfter]
    | succ k =>
      have hhead : previous < first := hlow first List.mem_cons_self
      have hbefore : ∀ x ∈ rest, ((first :: rest).filter (· < x)).length =
          (rest.filter (· < x)).length + 1 := fun x hx => by
        rw [List.filter_cons_of_pos (by simpa using hfirst x hx), List.length_cons]
      have hnone : ((first :: rest).filter (· < first)).length = 0 := by
        rw [List.length_eq_zero_iff, List.filter_eq_nil_iff]
        intro x hx
        obtain rfl | hx := List.mem_cons.mp hx
        · simp
        · simpa using (hfirst x hx).le
      rw [List.take_succ_cons, List.length_cons, countAfter, List.cons.injEq]
      constructor
      · rintro ⟨rfl, htail⟩ x hx hfew n hlown hhighn
        by_cases hn : n = previous + 1
        · exact hn ▸ List.mem_cons_self
        obtain rfl | hx := List.mem_cons.mp hx
        · omega
        rw [hbefore x hx] at hfew
        exact List.mem_cons_of_mem _
          ((ih hrest hfirst).mp htail x hx (by omega) n (by omega) hhighn)
      · intro hall
        have heq : first = previous + 1 := by
          by_contra hne
          have hkept :=
            hall first List.mem_cons_self (by omega) (previous + 1) (by omega) (by omega)
          obtain heq | hkept := List.mem_cons.mp hkept
          · exact hne heq.symm
          · exact absurd (hfirst _ hkept) (by omega)
        refine ⟨heq, ?_⟩
        rw [← heq]
        refine (ih hrest hfirst).mpr fun x hx hfew n hlown hhighn => ?_
        have hkept :=
          hall x (List.mem_cons_of_mem first hx) (by rw [hbefore x hx]; omega) n (by omega) hhighn
        exact (List.mem_cons.mp hkept).resolve_left (by omega)

end Counting

section Grouping

variable {κ α : Type*} [DecidableEq κ] {key : α → κ}

/-- Put an item into the group of a key, which is opened at the end when there is none. -/
def insertGrouped (k : κ) (a : α) : List (κ × List α) → List (κ × List α)
  | [] => [(k, [a])]
  | entry :: rest =>
    if entry.1 = k then (entry.1, entry.2 ++ [a]) :: rest else entry :: insertGrouped k a rest

/-- The items under their keys, keys and items in the order in which they come. -/
def groupedBy (key : α → κ) (items : List α) : List (κ × List α) :=
  items.foldl (fun groups a => insertGrouped (key a) a groups) []

/-- An insertion adds the item. -/
theorem insertGrouped_perm (k : κ) (a : α) (groups : List (κ × List α)) :
    ((insertGrouped k a groups).flatMap Prod.snd).Perm (groups.flatMap Prod.snd ++ [a]) := by
  induction groups with
  | nil => exact List.Perm.refl _
  | cons entry rest ih =>
    unfold insertGrouped
    split
    · rw [List.flatMap_cons, List.flatMap_cons, List.append_assoc, List.append_assoc]
      exact List.perm_append_comm.append_left entry.2
    · rw [List.flatMap_cons, List.flatMap_cons, List.append_assoc]
      exact ih.append_left entry.2

/-- A group after an insertion is one from before, or that of the key with the item at its end. -/
theorem mem_insertGrouped {k : κ} {a : α} {groups : List (κ × List α)} {entry : κ × List α}
    (h : entry ∈ insertGrouped k a groups) :
    entry ∈ groups ∨ ∃ g, entry = (k, g ++ [a]) ∧ ((k, g) ∈ groups ∨ g = []) := by
  induction groups with
  | nil => exact .inr ⟨[], List.mem_singleton.mp h, .inr rfl⟩
  | cons first rest ih =>
    unfold insertGrouped at h
    split at h
    next hkey =>
      obtain rfl | hrest := List.mem_cons.mp h
      · refine .inr ⟨first.2, ?_, .inl ?_⟩
        · rw [hkey]
        · rw [← hkey]
          exact List.mem_cons_self
      · exact .inl (List.mem_cons_of_mem _ hrest)
    next =>
      obtain rfl | hrest := List.mem_cons.mp h
      · exact .inl List.mem_cons_self
      · obtain hold | ⟨g, hentry, hg⟩ := ih hrest
        · exact .inl (List.mem_cons_of_mem _ hold)
        · exact .inr ⟨g, hentry, hg.imp_left (List.mem_cons_of_mem _)⟩

/-- Grouping goes item by item. -/
theorem groupedBy_concat (items : List α) (a : α) :
    groupedBy key (items ++ [a]) = insertGrouped (key a) a (groupedBy key items) := by
  unfold groupedBy
  rw [List.foldl_append]
  rfl

/-- Grouping keeps the items. -/
theorem groupedBy_perm (key : α → κ) (items : List α) :
    ((groupedBy key items).flatMap Prod.snd).Perm items := by
  induction items using List.reverseRecOn with
  | nil => exact List.Perm.refl _
  | append_singleton items a ih =>
    rw [groupedBy_concat]
    exact (insertGrouped_perm _ _ _).trans (ih.append_right [a])

/-- The items of a group have its key, and there is at least one. -/
theorem key_of_mem_groupedBy {items : List α} {entry : κ × List α}
    (h : entry ∈ groupedBy key items) : entry.2 ≠ [] ∧ ∀ a ∈ entry.2, key a = entry.1 := by
  induction items using List.reverseRecOn generalizing entry with
  | nil => exact absurd h List.not_mem_nil
  | append_singleton items a ih =>
    rw [groupedBy_concat] at h
    obtain hold | ⟨g, rfl, hg⟩ := mem_insertGrouped h
    · exact ih hold
    · refine ⟨by simp, fun b hb => ?_⟩
      obtain hb | hb := List.mem_append.mp hb
      · obtain hmem | rfl := hg
        · exact (ih hmem).2 b hb
        · exact absurd hb List.not_mem_nil
      · rw [List.mem_singleton.mp hb]

/-- An insertion opens a group only for a key that has none. -/
theorem keys_insertGrouped (k : κ) (a : α) (groups : List (κ × List α)) :
    (insertGrouped k a groups).map Prod.fst =
      if k ∈ groups.map Prod.fst then groups.map Prod.fst else groups.map Prod.fst ++ [k] := by
  induction groups with
  | nil => rfl
  | cons entry rest ih =>
    unfold insertGrouped
    by_cases hkey : entry.1 = k
    · simp [hkey]
    · have hne : k ≠ entry.1 := fun h => hkey h.symm
      rw [if_neg hkey, List.map_cons, ih, List.map_cons]
      by_cases hmem : k ∈ rest.map Prod.fst
      · rw [if_pos hmem, if_pos (List.mem_cons_of_mem _ hmem)]
      · rw [if_neg hmem, if_neg (fun h => hmem ((List.mem_cons.mp h).resolve_left hne)),
          List.cons_append]

/-- No two groups have one key. -/
theorem nodup_keys_groupedBy (key : α → κ) (items : List α) :
    ((groupedBy key items).map Prod.fst).Nodup := by
  induction items using List.reverseRecOn with
  | nil => exact List.nodup_nil
  | append_singleton items a ih =>
    rw [groupedBy_concat, keys_insertGrouped]
    split
    · exact ih
    next hnew => exact List.Nodup.append ih (List.nodup_singleton _) (by simpa using hnew)

end Grouping

/-- Blocks that belong to keys have only elements of these keys. -/
theorem key_mem_of_blocks {κ : Type*} {f : α → κ} {g : β → κ} {heads : List α}
    {blocks : List (List β)}
    (h : List.Forall₂ (fun a block => ∀ x ∈ block, g x = f a) heads blocks) :
    ∀ x ∈ blocks.flatten, g x ∈ heads.map f := by
  induction h with
  | nil => exact fun x hx => absurd hx List.not_mem_nil
  | @cons a block heads blocks hblock _ ih =>
    intro x hx
    rw [List.flatten_cons, List.mem_append] at hx
    obtain hx | hx := hx
    · rw [hblock x hx]
      exact List.mem_cons_self
    · exact List.mem_cons_of_mem _ (ih x hx)

/-- The elements of a block, among those of blocks that belong to different keys. -/
theorem filter_flatten_of_blocks {κ : Type*} [DecidableEq κ] {f : α → κ} {g : β → κ}
    {heads : List α}
    {blocks : List (List β)} (h : List.Forall₂ (fun a block => ∀ x ∈ block, g x = f a) heads blocks)
    (hnodup : (heads.map f).Nodup) :
    List.Forall₂ (fun a block => (blocks.flatten.filter fun x => g x = f a) = block) heads
      blocks := by
  induction h with
  | nil => exact .nil
  | @cons a block heads blocks hblock hrest ih =>
    obtain ⟨ha, hnodup⟩ := List.nodup_cons.mp hnodup
    refine .cons ?_ ?_
    · have hothers : (blocks.flatten.filter fun x => g x = f a) = [] :=
        List.filter_eq_nil_iff.mpr fun x hx => by
          simpa using fun hsame : g x = f a => ha (hsame ▸ key_mem_of_blocks hrest x hx)
      rw [List.flatten_cons, List.filter_append, hothers, List.append_nil]
      exact List.filter_eq_self.mpr fun x hx => by simpa using hblock x hx
    · refine (List.forall₂_iff_get.mpr ⟨hrest.length_eq, fun i hi hi' => ?_⟩)
      have hother : (block.filter fun x => g x = f (heads.get ⟨i, hi⟩)) = [] :=
        List.filter_eq_nil_iff.mpr fun x hx => by
          have hne : f a ≠ f (heads.get ⟨i, hi⟩) := fun hsame =>
            ha (hsame ▸ List.mem_map_of_mem (List.get_mem heads ⟨i, hi⟩))
          rw [hblock x hx]
          simpa using hne
      rw [List.flatten_cons, List.filter_append, hother, List.nil_append]
      exact (List.forall₂_iff_get.mp (ih hnodup)).2 i hi hi'

end Foundation
