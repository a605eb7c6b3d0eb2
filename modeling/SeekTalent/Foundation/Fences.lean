import Mathlib.Data.List.Basic

/-!
# Fencing tokens

A fenced resource is leased to one holder after another, and every lease carries a token.  The
resource itself is a `Fence`: how many leases it gave out and which one is open.  A
`FencingProtocol` says which events open a lease, which ones an open lease lives through and which
ones end it, and `Course` is what a word of events does to a fence.

The rules below hold for every protocol: tokens count the leases, and between two leases the first
one is ended (`Course.ended_between`).
-/

namespace Foundation

/-- A fenced resource. -/
structure Fence (L : Type*) where
  issued : Nat
  opened : Option L
  deriving DecidableEq, Repr

/-- What the events of a fenced resource mean. -/
structure FencingProtocol (L E : Type*) where
  token : L → Nat
  /-- The lease that the event opens. -/
  opens : E → Option L
  /-- The open lease lives through the event, perhaps changed. -/
  keeps : L → E → L → Prop
  /-- The event ends the open lease. -/
  ends : L → E → Prop
  opens_of_keeps : ∀ {e l l'}, keeps l e l' → opens e = none
  opens_of_ends : ∀ {e l}, ends l e → opens e = none

namespace FencingProtocol

variable {L E : Type*} (P : FencingProtocol L E)

/-- One event. -/
inductive Step : Fence L → E → Fence L → Prop
  | opened {n : Nat} {e : E} {l : L} (h : P.opens e = some l) (htoken : P.token l = n + 1) :
      Step ⟨n, none⟩ e ⟨n + 1, some l⟩
  | kept {n : Nat} {e : E} {l l' : L} (h : P.keeps l e l') : Step ⟨n, some l⟩ e ⟨n, some l'⟩
  | ended {n : Nat} {e : E} {l : L} (h : P.ends l e) : Step ⟨n, some l⟩ e ⟨n, none⟩

/-- A word of events. -/
def Course : Fence L → List E → Fence L → Prop
  | f, [], f' => f = f'
  | f, e :: es, f' => ∃ next, P.Step f e next ∧ Course next es f'

variable {P} {f f' : Fence L} {es fs : List E} {e : E} {l l' : L} {n n' : Nat}

/-- A course of two words. -/
lemma course_append : P.Course f (es ++ fs) f' ↔ ∃ middle, P.Course f es middle ∧
    P.Course middle fs f' := by
  induction es generalizing f with
  | nil =>
    constructor
    · exact fun h => ⟨f, rfl, h⟩
    · rintro ⟨middle, rfl, h⟩
      exact h
  | cons e es ih =>
    constructor
    · rintro ⟨next, hstep, hrest⟩
      obtain ⟨middle, hes, hfs⟩ := ih.mp hrest
      exact ⟨middle, ⟨next, hstep, hes⟩, hfs⟩
    · rintro ⟨middle, ⟨next, hstep, hes⟩, hfs⟩
      exact ⟨next, hstep, ih.mpr ⟨middle, hes, hfs⟩⟩

/-- A fence never takes leases back. -/
lemma Step.issued_le (h : P.Step f e f') : f.issued ≤ f'.issued := by
  cases h with
  | opened => exact Nat.le_succ _
  | kept => exact Nat.le_refl _
  | ended => exact Nat.le_refl _

/-- A course that starts with an open lease and ends with none has an event that ended it, when the
lease had changed only as it lives through events. -/
lemma Course.exists_end {R : L → L → Prop} (hrefl : ∀ l, R l l)
    (hkeeps : ∀ l e l' last, P.keeps l e l' → R l' last → R l last)
    (h : P.Course ⟨n, some l⟩ es ⟨n', none⟩) :
    ∃ before e after last, es = before ++ e :: after ∧ R l last ∧ P.ends last e := by
  induction es generalizing l with
  | nil => cases h
  | cons e es ih =>
    obtain ⟨next, hstep, hrest⟩ := h
    cases hstep with
    | kept hkept =>
      obtain ⟨before, x, after, last, rfl, hsame, hends⟩ := ih hrest
      exact ⟨e :: before, x, after, last, rfl, hkeeps _ _ _ _ hkept hsame, hends⟩
    | ended hends => exact ⟨[], e, es, l, rfl, hrefl l, hends⟩

/-- What an event that opens a lease does. -/
lemma Step.of_opens {next : Fence L} (h : P.Step f e next) (hopens : P.opens e = some l) :
    f.opened = none ∧ P.token l = f.issued + 1 ∧ next = ⟨f.issued + 1, some l⟩ := by
  cases h with
  | opened h htoken =>
    obtain rfl : _ = l := Option.some.inj (h.symm.trans hopens)
    exact ⟨rfl, htoken, rfl⟩
  | kept h => exact absurd ((P.opens_of_keeps h).symm.trans hopens) nofun
  | ended h => exact absurd ((P.opens_of_ends h).symm.trans hopens) nofun

/-- A fence has given out as many leases as events opened one. -/
lemma Course.issued_eq (h : P.Course f es f') :
    f'.issued = f.issued + (es.filter fun e => (P.opens e).isSome).length := by
  induction es generalizing f with
  | nil =>
    cases h
    rfl
  | cons e es ih =>
    obtain ⟨next, hstep, hrest⟩ := h
    rw [ih hrest, List.filter_cons]
    cases hstep with
    | opened h =>
      simp only [h, Option.isSome_some, if_true, List.length_cons]
      omega
    | kept h =>
      rw [P.opens_of_keeps h]
      rfl
    | ended h =>
      rw [P.opens_of_ends h]
      rfl

/-- From one lease to the next one: the tokens follow each other, and the first lease was ended in
between, by an event that ends what the lease had become. -/
theorem Course.handover {R : L → L → Prop} (hrefl : ∀ l, R l l)
    (hkeeps : ∀ l e l' last, P.keeps l e l' → R l' last → R l last) {before middle after : List E}
    {first second : E}
    (h : P.Course f (before ++ first :: middle ++ second :: after) f')
    (hfirst : P.opens first = some l)
    (hsecond : P.opens second = some l') (hnone : ∀ e ∈ middle, P.opens e = none) :
    P.token l' = P.token l + 1 ∧ ∃ kept e rest last, middle = kept ++ e :: rest ∧ R l last ∧
      P.ends last e := by
  obtain ⟨end₁, hcourse, end₂, hopened', -⟩ := course_append.mp h
  obtain ⟨start, -, opened, hopened, hmiddle⟩ := course_append.mp hcourse
  obtain ⟨-, htoken, rfl⟩ := hopened.of_opens hfirst
  obtain ⟨hclosed, htoken', -⟩ := hopened'.of_opens hsecond
  have hissued := hmiddle.issued_eq
  have hno : middle.filter (fun e => (P.opens e).isSome) = [] := by
    rw [List.filter_eq_nil_iff]
    intro e hmem
    rw [hnone e hmem]
    exact Bool.false_ne_true
  rw [hno, List.length_nil, Nat.add_zero] at hissued
  refine ⟨by rw [htoken', hissued, htoken], ?_⟩
  obtain ⟨n, opened⟩ := end₁
  obtain rfl : opened = none := hclosed
  exact hmiddle.exists_end hrefl hkeeps

end FencingProtocol

end Foundation
