import Mathlib.Data.List.Induction
import Mathlib.Logic.Function.Basic
import SeekTalent.SourcePort.FrameStream
import SeekTalent.SourcePort.LiepinSourceFrames

/-!
# Tables of pending requests

What a table of pending requests holds is a function of the envelopes: `settle` is the effect of one
envelope on a table, and the table of an endpoint is the effect of the submits it knows and of the
replies it knows, in either order of arrival (`tableOf`).  `settle_of_transition` says so of the
code, and `transition_of_ready` when an envelope is not refused.
-/

namespace SeekTalent.SourcePort

open Foundation

variable {e : LiepinSourceEnvelope} {id : String} {replies submits : List LiepinSourceEnvelope}

/-- A table of pending requests, read through its keys. -/
abbrev PendingTable := String → Option (PendingRequest SourcePending ReplyState)

/-- The effect of an envelope on a table. -/
def settle (table : PendingTable) (e : LiepinSourceEnvelope) : PendingTable :=
  match pendingFromRequest e, e.replyTo with
  | some request, _ => Function.update table e.messageId (some ⟨request, none⟩)
  | none, some replyTo =>
    Function.update table replyTo
      (if e.payload.isAck then
        (table replyTo).map (fun pending => { pending with state := some .acked })
      else none)
  | none, none => table

variable {table : PendingTable}

/-- The effect of a submit. -/
lemma settle_submit {request : SourcePending} (h : pendingFromRequest e = some request) :
    settle table e = Function.update table e.messageId (some ⟨request, none⟩) := by
  rw [settle, h]

/-- The effect of a reply. -/
lemma settle_reply {replyTo : String}
    (h : pendingFromRequest e = none) (hto : e.replyTo = some replyTo) :
    settle table e = Function.update table replyTo
      (if e.payload.isAck then
        (table replyTo).map (fun pending => { pending with state := some .acked })
      else none) := by
  rw [settle, h, hto]

/-- The effect of envelopes on a table, one after the other. -/
def settleAll (table : PendingTable) (envelopes : List LiepinSourceEnvelope) : PendingTable :=
  envelopes.foldl settle table

/-- The table after some submits and some replies to them. -/
def tableOf (submits replies : List LiepinSourceEnvelope) : PendingTable :=
  settleAll (settleAll (fun _ => none) submits) replies

@[simp] lemma settleAll_nil (table : PendingTable) : settleAll table [] = table := rfl

@[simp] lemma settleAll_concat (table : PendingTable) (envelopes : List LiepinSourceEnvelope)
    (e : LiepinSourceEnvelope) :
    settleAll table (envelopes ++ [e]) = settle (settleAll table envelopes) e := by
  simp [settleAll]

lemma settleAll_append (table : PendingTable) (front back : List LiepinSourceEnvelope) :
    settleAll table (front ++ back) = settleAll (settleAll table front) back := by
  simp [settleAll]

/-- The effect on one key depends on what the key held. -/
lemma settle_congr {left right : PendingTable} (h : left id = right id)
    (e : LiepinSourceEnvelope) : settle left e id = settle right e id := by
  unfold settle
  rcases hrequest : pendingFromRequest e with _ | request
  · rcases hreply : e.replyTo with _ | replyTo
    · exact h
    · by_cases heq : id = replyTo
      · subst heq
        simp [h]
      · simp [Function.update_of_ne heq, h]
  · by_cases heq : id = e.messageId <;> simp [heq, h]

/-- The effect on one key depends on what the key held. -/
lemma settleAll_congr {left right : PendingTable} (h : left id = right id)
    (envelopes : List LiepinSourceEnvelope) :
    settleAll left envelopes id = settleAll right envelopes id := by
  induction envelopes generalizing left right with
  | nil => exact h
  | cons e rest ih => exact ih (settle_congr h e)

/-- An envelope that neither opens nor answers a request. -/
def Ignores (id : String) (e : LiepinSourceEnvelope) : Prop :=
  (pendingFromRequest e ≠ none → e.messageId ≠ id) ∧
    (pendingFromRequest e = none → e.replyTo ≠ some id)

/-- An envelope has no effect on a key it does not name. -/
lemma settle_of_ignores (h : Ignores id e) : settle table e id = table id := by
  obtain ⟨hopens, hanswers⟩ := h
  unfold settle
  rcases hrequest : pendingFromRequest e with _ | request
  · rcases hreply : e.replyTo with _ | replyTo
    · rfl
    · have hne : replyTo ≠ id := by
        rintro rfl
        exact hanswers hrequest hreply
      exact Function.update_of_ne hne.symm _ _
  · have hne : e.messageId ≠ id := hopens (by rw [hrequest]; simp)
    exact Function.update_of_ne hne.symm _ _

/-- Envelopes have no effect on a key none of them names. -/
lemma settleAll_of_ignores
    {envelopes : List LiepinSourceEnvelope} (h : ∀ e ∈ envelopes, Ignores id e) :
    settleAll table envelopes id = table id := by
  induction envelopes generalizing table with
  | nil => rfl
  | cons e rest ih =>
    have hrest : settleAll (settle table e) rest id = settle table e id :=
      ih fun other hother => h other (List.mem_cons_of_mem e hother)
    rw [settle_of_ignores (h e List.mem_cons_self)] at hrest
    exact hrest

/-- A reply opens nothing. -/
lemma settle_none
    (hreply : pendingFromRequest e = none) (h : table id = none) : settle table e id = none := by
  unfold settle
  rw [hreply]
  rcases e.replyTo with _ | replyTo
  · exact h
  · by_cases heq : id = replyTo
    · subst heq
      simp [h]
    · exact (Function.update_of_ne heq _ _).trans h

/-- Replies open nothing. -/
lemma settleAll_none (hreplies : ∀ e ∈ replies, pendingFromRequest e = none) (h : table id = none) :
    settleAll table replies id = none := by
  induction replies generalizing table with
  | nil => exact h
  | cons e rest ih =>
    exact ih (fun other hother => hreplies other (List.mem_cons_of_mem e hother))
      (settle_none (hreplies e List.mem_cons_self) h)

/-! ## Submits and replies in either order -/

/-- A submit that no reply names yet opens its request, behind the replies as well as before
them. -/
lemma tableOf_submit {request : SourcePending} (hrequest : pendingFromRequest e = some request)
    (hreplies : ∀ reply ∈ replies, Ignores e.messageId reply) :
    tableOf (submits ++ [e]) replies = settle (tableOf submits replies) e := by
  funext id
  unfold tableOf
  rw [settleAll_concat, settle_submit hrequest, settle_submit hrequest]
  by_cases heq : id = e.messageId
  · subst heq
    rw [settleAll_of_ignores hreplies, Function.update_self, Function.update_self]
  · rw [Function.update_of_ne heq]
    exact settleAll_congr (Function.update_of_ne heq _ _) replies

/-- Submits that no reply names yet open their requests behind the replies as well as before
them. -/
lemma tableOf_submits {later : List LiepinSourceEnvelope}
    (hlater : ∀ e ∈ later, pendingFromRequest e ≠ none)
    (hreplies : ∀ e ∈ later, ∀ reply ∈ replies, Ignores e.messageId reply) :
    tableOf (submits ++ later) replies = settleAll (tableOf submits replies) later := by
  induction later using List.reverseRecOn with
  | nil => rw [List.append_nil, settleAll_nil]
  | append_singleton front e ih =>
    have hmem : e ∈ front ++ [e] := by simp
    obtain ⟨request, hrequest⟩ := Option.ne_none_iff_exists'.mp (hlater e hmem)
    have hfront : ∀ other ∈ front, other ∈ front ++ [e] := fun other h => by simp [h]
    rw [← List.append_assoc, tableOf_submit hrequest (hreplies e hmem), settleAll_concat,
      ih (fun other h => hlater other (hfront other h))
        (fun other h => hreplies other (hfront other h))]

/-- Submits that do not have an id have no effect on it. -/
lemma settleAll_other (hsubmits : ∀ e ∈ submits, pendingFromRequest e ≠ none)
    (hother : ∀ e ∈ submits, e.messageId ≠ id) : settleAll table submits id = table id :=
  settleAll_of_ignores (fun e he => ⟨fun _ => hother e he, fun h => absurd h (hsubmits e he)⟩)

/-- More submits do not change what is known of a request that was submitted before. -/
lemma tableOf_append_of_ne {later : List LiepinSourceEnvelope}
    (hlater : ∀ e ∈ later, pendingFromRequest e ≠ none) (hother : ∀ e ∈ later, e.messageId ≠ id) :
    tableOf (submits ++ later) replies id = tableOf submits replies id := by
  unfold tableOf
  rw [settleAll_append]
  exact settleAll_congr (settleAll_other hlater hother) replies

/-- What is pending was submitted. -/
lemma exists_submit (hsubmits : ∀ e ∈ submits, pendingFromRequest e ≠ none)
    (hreplies : ∀ e ∈ replies, pendingFromRequest e = none)
    (h : tableOf submits replies id ≠ none) : ∃ submit ∈ submits, submit.messageId = id := by
  by_contra hnot
  push Not at hnot
  exact h (settleAll_none hreplies (settleAll_other hsubmits hnot))

/-! ## Replies -/

/-- An envelope that replies to a pending request as the contract wants it. -/
def Answered (table : PendingTable) (e : LiepinSourceEnvelope) : Prop :=
  ∃ replyTo pending reply, e.replyTo = some replyTo ∧ table replyTo = some pending ∧
    validateReply pending.request e pending.state = .ok reply

/-- A valid reply is the acknowledgement of a request without one, or it ends an acknowledged
request. -/
lemma validateReply_eq_ok {pending : SourcePending}
    {state : Option ReplyState} {reply : PendingReply ReplyState}
    (h : validateReply pending e state = .ok reply) :
    e.payload.isSubmit = false ∧
      ((e.payload.isAck = true ∧ state = none ∧ reply = .pending (some .acked)) ∨
        (e.payload.isAck = false ∧ state = some .acked ∧ reply = .terminal)) := by
  have hack : ∀ duplicate, acknowledge state duplicate = .ok reply →
      state = none ∧ reply = .pending (some .acked) := by
    intro duplicate hok
    unfold acknowledge at hok
    rcases state with _ | ⟨⟨⟩⟩
    · cases hok
      exact ⟨rfl, rfl⟩
    · cases hok
  have hend : ∀ missing belongs mismatch, terminate state missing belongs mismatch = .ok reply →
      state = some .acked ∧ reply = .terminal := by
    intro missing belongs mismatch hok
    unfold terminate at hok
    rcases state with _ | ⟨⟨⟩⟩
    · cases hok
    · cases belongs <;> cases hok
      exact ⟨rfl, rfl⟩
  unfold validateReply at h
  by_cases hsubmit : e.payload.isSubmit = true
  · rw [if_pos hsubmit] at h
    cases h
  rw [if_neg hsubmit] at h
  refine ⟨by simpa using hsubmit, ?_⟩
  by_cases hidentity : e.payload.identity ≠ pending.identity
  · rw [if_pos hidentity] at h
    cases h
  rw [if_neg hidentity] at h
  cases hkind : pending.kind <;> cases hpayload : e.payload <;> simp only [hkind, hpayload] at h <;>
    first
      | exact Or.inl ⟨rfl, hack _ h⟩
      | exact Or.inr ⟨rfl, hend _ _ _ h⟩
      | cases h

/-! ## The transition of the code -/

/-- An envelope whose message type is that of its payload. -/
def Typed (e : LiepinSourceEnvelope) : Prop :=
  e.messageType = e.payload.messageType

/-- Submits are the payloads that open a request. -/
lemma pendingFromRequest_isSome (e : LiepinSourceEnvelope) :
    (pendingFromRequest e).isSome = e.payload.isSubmit := by
  unfold pendingFromRequest
  cases e.payload <;> rfl

/-- The message types of requests are those of submits. -/
lemma mem_requestMessageTypes (adapter : LiepinSourceAdapter) (h : Typed e) :
    e.messageType ∈ (liepinSourceContract adapter).requestMessageTypes ↔
      (pendingFromRequest e).isSome := by
  rw [h, pendingFromRequest_isSome]
  cases e.payload <;>
    simp [liepinSourceContract, submitTypes, LiepinSourcePayload.messageType,
      LiepinSourcePayload.isSubmit]

/-- What a table must hold for an envelope to be admitted: room for a submit, the request of a
reply. -/
def Ready (pending : Dict String (PendingRequest SourcePending ReplyState))
    (e : LiepinSourceEnvelope) : Prop :=
  match pendingFromRequest e with
  | some _ => pending.keys.length < 256
  | none => Answered pending.lookup e

section Transition

variable {adapter : LiepinSourceAdapter} {s : LiepinSourceSession} {e : LiepinSourceEnvelope}

/-- An admitted envelope has its effect on the table. -/
theorem settle_of_transition {reply : Option (PendingRequest SourcePending ReplyState ×
      PendingReply ReplyState)} {after : Dict String (PendingRequest SourcePending ReplyState)}
    (htyped : Typed e)
    (hreply : FrameSession.pendingFor (liepinSourceContract adapter) s e = .ok reply)
    (hafter : FrameSession.applyPendingTransition (liepinSourceContract adapter) s e reply =
      .ok after) :
    Ready s.pendingRequests e ∧ after.lookup = settle s.pendingRequests.lookup e := by
  unfold FrameSession.pendingFor at hreply
  unfold FrameSession.applyPendingTransition at hafter
  have hkind := mem_requestMessageTypes adapter htyped
  rcases hrequest : pendingFromRequest e with _ | request
  · rw [hrequest] at hkind
    have hreplies := mt hkind.mp Bool.false_ne_true
    rw [if_neg hreplies] at hreply hafter
    rcases hto : e.replyTo with _ | replyTo
    · simp [hto] at hreply
    simp only [hto] at hreply hafter
    rcases hpending : s.pendingRequests.lookup replyTo with _ | pending
    · simp [hpending] at hreply
    simp only [hpending] at hreply
    unfold FrameSession.validatedReply at hreply
    rcases hvalid : validateReply pending.request e pending.state with failure | decision
    · have hvalid' : (liepinSourceContract adapter).replyValidator pending.request e pending.state =
          .error failure := hvalid
      rw [hvalid'] at hreply
      cases failure <;> cases hreply
    · have hvalid' : (liepinSourceContract adapter).replyValidator pending.request e pending.state =
          .ok decision := hvalid
      rw [hvalid'] at hreply
      cases hreply
      have hready : Ready s.pendingRequests e := by
        rw [Ready, hrequest]
        exact ⟨replyTo, pending, decision, hto, hpending, hvalid⟩
      refine ⟨hready, ?_⟩
      rw [settle_reply hrequest hto]
      obtain ⟨-, ⟨hack, -, rfl⟩ | ⟨hack, -, rfl⟩⟩ := validateReply_eq_ok hvalid
      · simp only [PendingReply.pending, if_true] at hafter
        cases hafter
        funext id
        rw [Dict.lookup_insert_ite, Function.update_apply, hack, if_pos rfl, hpending]
        rfl
      · simp only [PendingReply.terminal, Bool.false_eq_true, if_false] at hafter
        cases hafter
        funext id
        rw [Dict.lookup_erase_ite, Function.update_apply, hack]
        rfl
  · rw [hrequest] at hkind
    have hsubmits := hkind.mpr rfl
    have hrequest' : (liepinSourceContract adapter).pendingFromRequest e = some request := hrequest
    simp only [if_pos hsubmits, bind_eq_ok, require_eq_ok, pure_eq_ok, hrequest'] at hreply hafter
    obtain ⟨_, hroom, rfl⟩ := hreply
    cases hafter
    refine ⟨by rw [Ready, hrequest]; exact hroom, ?_⟩
    funext id
    rw [Dict.lookup_insert_ite, settle_submit hrequest, Function.update_apply]

variable (adapter) in
/-- An envelope that the table is ready for is admitted. -/
theorem transition_of_ready (htyped : Typed e) (hready : Ready s.pendingRequests e) :
    ∃ reply after, FrameSession.pendingFor (liepinSourceContract adapter) s e = .ok reply ∧
      FrameSession.applyPendingTransition (liepinSourceContract adapter) s e reply = .ok after := by
  unfold FrameSession.pendingFor FrameSession.applyPendingTransition
  have hkind := mem_requestMessageTypes adapter htyped
  rcases hrequest : pendingFromRequest e with _ | request
  · rw [hrequest] at hkind
    have hreplies := mt hkind.mp Bool.false_ne_true
    rw [Ready, hrequest] at hready
    obtain ⟨replyTo, pending, decision, hto, hpending, hvalid⟩ := hready
    have hvalid' : (liepinSourceContract adapter).replyValidator pending.request e pending.state =
        .ok decision := hvalid
    simp only [if_neg hreplies, hto, hpending, FrameSession.validatedReply,
      hvalid']
    refine ⟨some (pending, decision), ?_⟩
    cases hkeep : decision.keepPending <;> exact ⟨_, rfl, by simp only [hkeep]; rfl⟩
  · rw [hrequest] at hkind
    have hsubmits := hkind.mpr rfl
    rw [Ready, hrequest] at hready
    have hrequest' : (liepinSourceContract adapter).pendingFromRequest e = some request := hrequest
    simp only [if_pos hsubmits, bind_eq_ok, require_eq_ok, pure_eq_ok, hrequest']
    exact ⟨none, _, ⟨(), hready, rfl⟩, rfl⟩

end Transition

end SeekTalent.SourcePort
