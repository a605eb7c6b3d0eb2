import Mathlib.Data.List.Basic
import SeekTalent.Wtscli.LifecycleSidecar

/-!
# The daemons of the sidecar

What is known of the processes that the sidecar has spawned: one that runs and was not asked to stop
is the child or about to be stopped, and an ownership record is that of the child or of one about to
be stopped.  Each change of the variables about the daemon keeps this.
-/

namespace SeekTalent.Wtscli

namespace DaemonCustody

/-- The processes are accounted for; `targets` are the children that are being stopped. -/
structure Accounted (o : DaemonCustody) (targets : List Nat) : Prop where
  watched : ∀ k, o.child = some k → ∃ d : DaemonChild, o.children[k]? = some d ∧
    d.listening = true ∧ d.exitReported = false ∧ d.errorReported = false
  unasked : ∀ (k : Nat) (d : DaemonChild), o.children[k]? = some d → d.running = true →
    d.asked = false → o.child = some k ∨ k ∈ targets
  codes : ∀ (k : Nat) (d : DaemonChild), o.children[k]? = some d → d.exitCode.isSome = true →
    d.running = false
  current : ∀ token ∈ o.records, o.daemonToken = some token
  drawn : ∀ (k : Nat) (d : DaemonChild), o.children[k]? = some d → d.token < o.prepared
  kept : ∀ (k : Nat) (d : DaemonChild), o.children[k]? = some d → d.token ∈ o.records →
    o.child = some k ∨ k ∈ targets

/-- Where every record is that of the current token, removing it leaves none. -/
lemma records_removeRecord {o : DaemonCustody}
    (hcurrent : ∀ token ∈ o.records, o.daemonToken = some token) : o.removeRecord.records = [] := by
  unfold removeRecord
  cases htoken : o.daemonToken with
  | none =>
    refine List.eq_nil_iff_forall_not_mem.mpr fun token hmem => ?_
    have hsame := hcurrent token hmem
    rw [htoken] at hsame
    cases hsame
  | some token =>
    refine List.eq_nil_iff_forall_not_mem.mpr fun other hmem => ?_
    obtain ⟨hheld, hne⟩ := List.mem_filter.mp hmem
    have hsame := hcurrent other hheld
    rw [htoken] at hsame
    exact absurd (Option.some.inj hsame).symm (by simpa using hne)

namespace Accounted

variable {o : DaemonCustody} {targets : List Nat}

/-- A change of one child that keeps what is reported of it, and neither wakes it nor takes back
that it was asked to stop. -/
lemma modify (h : o.Accounted targets) (k : Nat) {change : DaemonChild → DaemonChild}
    (hreports : ∀ d, (change d).listening = d.listening ∧ (change d).exitReported = d.exitReported ∧
      (change d).errorReported = d.errorReported)
    (htoken : ∀ d, (change d).token = d.token) (hcode : ∀ d, (change d).exitCode = d.exitCode)
    (hrunning : ∀ d, (change d).running = true → d.running = true)
    (hasked : ∀ d, (change d).asked = false → d.asked = false) :
    ({ o with children := o.children.modify k change } : DaemonCustody).Accounted targets := by
  -- The child at a place, as it was.
  have hbefore : ∀ (j : Nat) (d' : DaemonChild), (o.children.modify k change)[j]? = some d' →
      ∃ d, o.children[j]? = some d ∧ (d' = d ∨ d' = change d) := by
    intro j d' hj
    rw [List.getElem?_modify] at hj
    obtain ⟨d, hd, hchanged⟩ := Option.map_eq_some_iff.mp hj
    refine ⟨d, hd, ?_⟩
    split at hchanged
    · exact .inr hchanged.symm
    · exact .inl hchanged.symm
  refine ⟨fun j hj => ?_, fun j d' hj hruns hfree => ?_, fun j d' hj hexit => ?_, h.current,
    fun j d' hj => ?_, fun j d' hj hrecord => ?_⟩
  · obtain ⟨d, hd, hlistens, hexit, herror⟩ := h.watched j hj
    refine ⟨if k = j then change d else d, ?_, ?_⟩
    · show (o.children.modify k change)[j]? = _
      rw [List.getElem?_modify, hd]
      rfl
    · obtain ⟨hlistening, hexits, herrors⟩ := hreports d
      split
      · exact ⟨hlistening.trans hlistens, hexits.trans hexit, herrors.trans herror⟩
      · exact ⟨hlistens, hexit, herror⟩
  · obtain ⟨d, hd, rfl | rfl⟩ := hbefore j d' hj
    · exact h.unasked j d' hd hruns hfree
    · exact h.unasked j d hd (hrunning d hruns) (hasked d hfree)
  · obtain ⟨d, hd, rfl | rfl⟩ := hbefore j d' hj
    · exact h.codes j d' hd hexit
    · rw [hcode] at hexit
      have hdead := h.codes j d hd hexit
      by_contra hruns
      rw [hrunning d (by simpa using hruns)] at hdead
      cases hdead
  · obtain ⟨d, hd, rfl | rfl⟩ := hbefore j d' hj
    · exact h.drawn j d' hd
    · rw [htoken]
      exact h.drawn j d hd
  · obtain ⟨d, hd, rfl | rfl⟩ := hbefore j d' hj
    · exact h.kept j d' hd hrecord
    · rw [htoken] at hrecord
      exact h.kept j d hd hrecord

/-- A child is asked to stop. -/
lemma ask (h : o.Accounted targets) (k : Nat) : (o.ask k).Accounted targets :=
  h.modify k (fun _ => ⟨rfl, rfl, rfl⟩) (fun _ => rfl) (fun _ => rfl) (fun _ hruns => hruns)
    (fun _ hfree => (nomatch hfree))

/-- A process ends. -/
lemma die (h : o.Accounted targets) (k : Nat) : (o.die k).Accounted targets :=
  h.modify k (fun _ => ⟨rfl, rfl, rfl⟩) (fun _ => rfl) (fun _ => rfl)
    (fun _ hruns => (nomatch hruns)) (fun _ hfree => hfree)

/-- The child is forgotten while it is stopped. -/
lemma release (h : o.Accounted targets) {more : List Nat} (hmore : ∀ k ∈ targets, k ∈ more)
    (hchild : ∀ k, o.child = some k → k ∈ more) : o.release.Accounted more := by
  have htargets : ∀ {k}, o.child = some k ∨ k ∈ targets → k ∈ more := by
    rintro k (hk | hk)
    · exact hchild k hk
    · exact hmore k hk
  exact ⟨fun k hk => (nomatch hk), fun k d hd hruns hfree =>
    .inr (htargets (h.unasked k d hd hruns hfree)), h.codes, h.current,
      h.drawn, fun k d hd hrecord => .inr (htargets (h.kept k d hd hrecord))⟩

/-- Removing the record of the current token leaves none. -/
lemma records_removeRecord (h : o.Accounted targets) : o.removeRecord.records = [] :=
  DaemonCustody.records_removeRecord h.current

/-- The record is removed when every child that runs was asked to stop. -/
lemma removeRecord (h : o.Accounted targets) {fewer : List Nat}
    (hfewer : ∀ k ∈ targets, k ∈ fewer ∨ ∀ d, o.children[k]? = some d → d.running = true →
      d.asked = true) :
    o.removeRecord.Accounted fewer := by
  have hrecords := h.records_removeRecord
  have hsame : o.removeRecord.child = o.child ∧ o.removeRecord.children = o.children ∧
      o.removeRecord.prepared = o.prepared := by
    unfold DaemonCustody.removeRecord
    cases o.daemonToken with
    | none => exact ⟨rfl, rfl, rfl⟩
    | some token => exact ⟨rfl, rfl, rfl⟩
  obtain ⟨hchild, hchildren, hprepared⟩ := hsame
  refine ⟨?_, ?_, ?_, ?_, ?_, ?_⟩
  · rw [hchild, hchildren]
    exact h.watched
  · rw [hchild, hchildren]
    intro k d hd hruns hfree
    obtain hk | hk := h.unasked k d hd hruns hfree
    · exact .inl hk
    · obtain hk | hasked := hfewer k hk
      · exact .inr hk
      · rw [hasked d hd hruns] at hfree
        cases hfree
  · rw [hchildren]
    exact h.codes
  · rw [hrecords]
    exact fun token hmem => absurd hmem List.not_mem_nil
  · rw [hchildren, hprepared]
    exact h.drawn
  · rw [hrecords]
    exact fun k d _ hmem => absurd hmem List.not_mem_nil

/-- A record is prepared where there is none. -/
lemma prepare (h : o.Accounted targets) (hrecords : o.records = []) :
    o.prepare.Accounted targets := by
  refine ⟨h.watched, h.unasked,
    h.codes, fun token hmem => ?_, fun k d hd => ?_, fun k d hd hmem => ?_⟩
  · have hnew : token ∈ o.records ++ [o.prepared] := hmem
    rw [hrecords, List.nil_append] at hnew
    rw [List.mem_singleton.mp hnew]
    rfl
  · exact Nat.lt_succ_of_lt (h.drawn k d hd)
  · have hnew : d.token ∈ o.records ++ [o.prepared] := hmem
    rw [hrecords, List.nil_append] at hnew
    have hlt := h.drawn k d hd
    rw [List.mem_singleton.mp hnew] at hlt
    exact absurd hlt (Nat.lt_irrefl _)

/-- A child of a list to which one was added. -/
lemma getElem?_concat_eq {children : List DaemonChild} {new d : DaemonChild} {k : Nat}
    (h : (children ++ [new])[k]? = some d) :
    children[k]? = some d ∨ k = children.length ∧ d = new := by
  rw [List.getElem?_append] at h
  split at h
  · exact .inl h
  · rename_i hk
    have hlast : k - children.length = 0 := by
      by_contra hne
      rw [List.getElem?_eq_none (by rw [List.length_singleton]; omega)] at h
      cases h
    rw [hlast] at h
    exact .inr ⟨by omega, (Option.some.inj h).symm⟩

/-- A child that was spawned and bound is watched. -/
lemma spawn (h : o.Accounted targets) (hchild : o.child = none)
    (htoken : o.daemonToken.getD 0 < o.prepared) (running owned : Bool) :
    ({ o.spawn true running with daemonOwned := owned } : DaemonCustody).Accounted targets := by
  have hnone : ∀ {k}, ¬ o.child = some k := fun hk => by rw [hchild] at hk; cases hk
  refine ⟨fun k hk => ?_, fun k d hd hruns hfree => ?_, fun k d hd hexit => ?_, h.current,
    fun k d hd => ?_, fun k d hd hmem => ?_⟩
  · obtain rfl : o.children.length = k := Option.some.inj hk
    exact ⟨.spawned (o.daemonToken.getD 0) true running, List.getElem?_concat_length, rfl, rfl, rfl⟩
  · obtain hold | ⟨rfl, -⟩ := getElem?_concat_eq hd
    · exact .inr ((h.unasked k d hold hruns hfree).resolve_left hnone)
    · exact .inl rfl
  · obtain hold | ⟨-, rfl⟩ := getElem?_concat_eq hd
    · exact h.codes k d hold hexit
    · cases hexit
  · obtain hold | ⟨-, rfl⟩ := getElem?_concat_eq hd
    · exact h.drawn k d hold
    · exact htoken
  · obtain hold | ⟨rfl, -⟩ := getElem?_concat_eq hd
    · exact .inr ((h.kept k d hold hmem).resolve_left hnone)
    · exact .inl rfl

/-- A child that was spawned and not bound is stopped. -/
lemma spawn_release (h : o.Accounted targets) (hchild : o.child = none)
    (htoken : o.daemonToken.getD 0 < o.prepared) (listening running : Bool) :
    (o.spawn listening running).release.Accounted (o.children.length :: targets) := by
  have hnone : ∀ {k}, ¬ o.child = some k := fun hk => by rw [hchild] at hk; cases hk
  refine ⟨fun k hk => (nomatch hk), fun k d hd hruns hfree => .inr ?_, fun k d hd hexit => ?_,
    h.current, fun k d hd => ?_, fun k d hd hmem => .inr ?_⟩
  · obtain hold | ⟨rfl, -⟩ := getElem?_concat_eq hd
    · exact List.mem_cons_of_mem _ ((h.unasked k d hold hruns hfree).resolve_left hnone)
    · exact List.mem_cons_self
  · obtain hold | ⟨-, rfl⟩ := getElem?_concat_eq hd
    · exact h.codes k d hold hexit
    · cases hexit
  · obtain hold | ⟨-, rfl⟩ := getElem?_concat_eq hd
    · exact h.drawn k d hold
    · exact htoken
  · obtain hold | ⟨rfl, -⟩ := getElem?_concat_eq hd
    · exact List.mem_cons_of_mem _ ((h.kept k d hold hmem).resolve_left hnone)
    · exact List.mem_cons_self

/-- Something is reported of a child that is not watched. -/
lemma report (h : o.Accounted targets) {k : Nat} {d reported : DaemonChild}
    (hd : o.children[k]? = some d)
    (hchild : o.child ≠ some k) (hruns : reported.running = d.running)
    (hasked : reported.asked = d.asked)
    (htoken : reported.token = d.token)
    (hcode : reported.exitCode.isSome = true → d.running = false) :
    (o.report k reported).Accounted targets := by
  -- The child at a place, as it was.
  have hbefore : ∀ (j : Nat) (d' : DaemonChild), (o.children.set k reported)[j]? = some d' →
      ∃ d, o.children[j]? = some d ∧ d'.running = d.running ∧ d'.asked = d.asked ∧
        d'.token = d.token ∧ (d'.exitCode.isSome = true → d.running = false) := by
    intro j d' hj
    by_cases hsame : k = j
    · subst hsame
      obtain ⟨hlt, -⟩ := List.getElem?_eq_some_iff.mp hd
      rw [List.getElem?_set_self hlt] at hj
      obtain rfl := Option.some.inj hj
      exact ⟨d, hd, hruns, hasked, htoken, hcode⟩
    · rw [List.getElem?_set_ne hsame] at hj
      exact ⟨d', hj, rfl, rfl, rfl, h.codes j d' hj⟩
  refine ⟨fun j hj => ?_, fun j d' hj hrunning hfree => ?_, fun j d' hj hexit => ?_, h.current,
    fun j d' hj => ?_, fun j d' hj hmem => ?_⟩
  · have hne : k ≠ j := fun hsame => hchild (by rw [hsame]; exact hj)
    obtain ⟨d, hd, hlistens⟩ := h.watched j hj
    refine ⟨d, ?_, hlistens⟩
    show (o.children.set k reported)[j]? = some d
    rwa [List.getElem?_set_ne hne]
  · obtain ⟨d, hd, hrun, hask, -⟩ := hbefore j d' hj
    exact h.unasked j d hd (hrun.symm.trans hrunning) (hask.symm.trans hfree)
  · obtain ⟨d, hd, hrun, -, -, hdead⟩ := hbefore j d' hj
    exact hrun.trans (hdead hexit)
  · obtain ⟨d, hd, -, -, htok, -⟩ := hbefore j d' hj
    rw [htok]
    exact h.drawn j d hd
  · obtain ⟨d, hd, -, -, htok, -⟩ := hbefore j d' hj
    rw [htok] at hmem
    exact h.kept j d hd hmem

end Accounted

end DaemonCustody

end SeekTalent.Wtscli
