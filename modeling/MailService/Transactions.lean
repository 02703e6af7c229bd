import MailService.Changes
import MailService.Scheduler
import MailService.Worker
import Mathlib.Logic.Relation
/-!
# Every transaction makes such changes

A scheduler run, the claim and the second transaction of a worker: what each
commits is a sequence of `Change`s.
-/
open Text Checks Table

namespace MailService

open Db

variable {L : Libs} {ids : Set Uuid} {now : Time} {read db db' : Db} {r : MessageRow} {m : Message}

/-! ## Fresh events -/

/-- The lifecycle event of a move; its dispatch request has no journal row. -/
theorem Moved.lifecycle (h : Moved now r.message m) :
    ∃ e, lifecycleEvents m.pendingEvents = [e] ∧ m.pendingEvents = e :: dispatchEvents m now ∧
      e.kind = .statusChanged ∧ e.target = m.status := by
  obtain ⟨details, he⟩ := h.events
  refine ⟨changedEvent r.message m now details, ?_, by simpa [MessageRow.message] using he, rfl, rfl⟩
  rw [he]
  unfold dispatchEvents
  split <;> simp [lifecycleEvents, MessageRow.message, changedEvent, dispatchEvent]

namespace Db.Keyed

/-- A journal row with a higher sequence than its message has a new key. -/
theorem journalKey_ne (hk : db.Keyed) (hr : r ∈ db.messages) {e : DeliveryEvent}
    (hid : e.messageID = r.snapshot.id) (hs : r.snapshot.latestSequence < e.sequence) :
    ∀ x ∈ db.events, journalKey x ≠ journalKey e := by
  intro x hx he
  simp only [journalKey, Prod.mk.injEq] at he
  obtain ⟨r', hr', hid', hle⟩ := hk.journal x hx
  obtain rfl : r' = r := List.inj_on_of_nodup_map hk.ids hr' hr (hid'.trans (he.1.trans hid))
  omega

theorem identity_ne (hk : db.Keyed) (hr : r ∈ db.messages) {o : OutboxEvent}
    (hid : o.aggregateID = r.snapshot.id) (hs : r.snapshot.latestSequence < o.aggregateSequence) :
    ∀ x ∈ db.outbox, x.event.identity ≠ o.identity := by
  intro x hx he
  simp only [OutboxEvent.identity, Prod.mk.injEq] at he
  obtain ⟨r', hr', hid', hle, -⟩ := hk.outbox x hx
  obtain rfl : r' = r := List.inj_on_of_nodup_map hk.ids hr' hr (hid'.trans (he.2.1.trans hid))
  omega

end Db.Keyed

theorem uuidColumn_stableID (L : Libs) (e : Event) :
    uuidColumn (stableMessageEventID L e) = some (stableMessageEventID L e) := uuidColumn_text _

/-- The journal rows of mapped events, whose tenant and message ids are stored as given. -/
theorem eventRow_deliveryEventOf {tenantID tenant key : String} {e : Event}
    (ht : uuidColumn tenantID = some tenant) (hm : uuidColumn e.messageID = some e.messageID) :
    eventRow (deliveryEventOf L tenantID key e) =
      some { deliveryEventOf L tenantID key
        e with tenantID := tenant, occurredAt := truncate e.occurredAt } := by
  simp only [eventRow, deliveryEventOf, uuidColumn_stableID, ht, hm]

/-- The outbox events of a move have identities of their own: the kinds differ. -/
theorem Moved.identities_nodup (h : Moved now r.message m) (tenantID : String) :
    ((outboxRows L now tenantID m.pendingEvents).map (·.event.identity)).Nodup := by
  obtain ⟨e, -, hp, hkind, -⟩ := h.lifecycle
  rw [hp]
  unfold dispatchEvents
  split
  · simp [outboxRows, storedOutbox, outboxEventOf, OutboxEvent.identity, dispatchEvent, hkind, EventKind.text]
  · simp [outboxRows]

/-- The moves of one transaction: of different messages, each from the row it has. -/
structure Moves (now : Time) (db : Db) (moves : List (MessageRow × Message)) : Prop where
  mem : ∀ mv ∈ moves, mv.1 ∈ db.messages
  moved : ∀ mv ∈ moves, Moved now mv.1.message mv.2
  nodup : (moves.map (·.1.snapshot.id)).Nodup

/-- What the events of a move are mapped to. -/
def deliveriesOf (L : Libs) (mv : MessageRow × Message) : List DeliveryEvent :=
  (lifecycleEvents mv.2.pendingEvents).map (deliveryEventOf L mv.1.tenantID mv.1.idempotencyKey)

def outboxEventsOf (L : Libs) (mv : MessageRow × Message) : List OutboxEvent :=
  mv.2.pendingEvents.map (outboxEventOf L mv.1.tenantID)

def journalOf (L : Libs) (mv : MessageRow × Message) : List DeliveryEvent :=
  journalRows L mv.1.tenantID mv.1.idempotencyKey mv.2.pendingEvents

def outboxOf (L : Libs) (now : Time) (mv : MessageRow × Message) : List OutboxRow :=
  outboxRows L now mv.1.tenantID mv.2.pendingEvents

namespace Moves

variable {moves : List (MessageRow × Message)}

/-- Every pending event of a move carries the message's id and its new sequence. -/
theorem pending (h : Moves now db moves) {mv : MessageRow × Message} (hmv : mv ∈ moves) :
    ∀ e ∈ mv.2.pendingEvents, e.messageID = mv.1.snapshot.id ∧
      e.sequence = mv.1.snapshot.latestSequence + 1 := by
  intro e he
  have hm := h.moved mv hmv
  rcases hm.pending e he with he | ⟨h1, h2, -⟩
  · simp [MessageRow.message] at he
  · exact ⟨h1.trans hm.id, h2.trans hm.sequence⟩

theorem fresh_journal (h : Moves now db moves) (hk : db.Keyed) :
    Fresh journalKey db.events (moves.flatMap (journalOf L)) := by
  constructor
  · intro j hj
    obtain ⟨mv, hmv, hj⟩ := List.mem_flatMap.1 hj
    obtain ⟨e, he, h1, h2⟩ := mem_journalRows hj
    obtain ⟨h3, h4⟩ := h.pending hmv e he
    exact hk.journalKey_ne (h.mem mv hmv) (h1.trans h3) (by omega)
  · -- each move has one row, and the moves are of different messages
    have hrows : (moves.flatMap (journalOf L)).map journalKey =
        moves.map fun mv => (mv.1.snapshot.id, mv.1.snapshot.latestSequence + 1) := by
      rw [List.map_flatMap, ← List.flatMap_singleton' moves, List.map_flatMap, List.flatMap_singleton']
      refine List.flatMap_congr fun mv hmv => ?_
      obtain ⟨e, hl, hp, -⟩ := (h.moved mv hmv).lifecycle
      obtain ⟨h1, h2⟩ := h.pending hmv e (by simp [hp])
      simp [journalOf, journalRows, hl, journalKey, deliveryEventOf, h1, h2]
    rw [hrows]
    exact List.Nodup.of_map Prod.fst (by simpa [List.map_map, Function.comp_def] using h.nodup)

theorem fresh_outbox (h : Moves now db moves) (hk : db.Keyed) :
    Fresh (·.event.identity) db.outbox (moves.flatMap (outboxOf L now)) := by
  constructor
  · intro o ho
    obtain ⟨mv, hmv, ho⟩ := List.mem_flatMap.1 ho
    obtain ⟨e, he, h1, h2, -⟩ := mem_outboxRows ho
    obtain ⟨h3, h4⟩ := h.pending hmv e he
    exact hk.identity_ne (h.mem mv hmv) (h1.trans h3) (by omega)
  · rw [List.map_flatMap, List.nodup_flatMap]
    refine ⟨fun mv hmv => (h.moved mv hmv).identities_nodup _, ?_⟩
    have hn := h.nodup
    rw [List.Nodup, List.pairwise_map] at hn
    refine hn.imp_of_mem fun {mv mv'} hmv hmv' hne x hx hx' => hne ?_
    obtain ⟨o, ho, rfl⟩ := List.mem_map.1 hx
    obtain ⟨o', ho', he⟩ := List.mem_map.1 hx'
    obtain ⟨e, hmem, h1, -⟩ := mem_outboxRows ho
    obtain ⟨e', hmem', h1', -⟩ := mem_outboxRows ho'
    simp only [OutboxEvent.identity, Prod.mk.injEq] at he
    exact ((h.pending hmv e hmem).1.symm.trans (h1.symm.trans (he.2.1.symm.trans h1'))).trans
      (h.pending hmv' e' hmem').1

/-- How the journal stores what a move was mapped to. -/
theorem eventRow_of_mem (h : Moves now db moves) (hk : db.Keyed) :
    ∀ d ∈ moves.flatMap (deliveriesOf L),
    eventRow d = some { d with occurredAt := truncate d.occurredAt } := by
  intro d hd
  obtain ⟨mv, hmv, hd⟩ := List.mem_flatMap.1 hd
  obtain ⟨e, he, rfl⟩ := List.mem_map.1 hd
  obtain ⟨hid, ht⟩ := hk.canonical mv.1 (h.mem mv hmv)
  obtain ⟨h1, -⟩ := h.pending hmv e (List.mem_of_mem_filter he)
  exact eventRow_deliveryEventOf ht (by rw [h1]; exact hid)

theorem map_stored :
    (moves.flatMap (deliveriesOf L)).map (fun d => { d with occurredAt := truncate d.occurredAt }) =
    moves.flatMap (journalOf L) := by
  simp only [List.map_flatMap, deliveriesOf, List.map_map]
  rfl

theorem canonicalIDs_of_mem (h : Moves now db moves) (hk : db.Keyed) :
    ∀ o ∈ moves.flatMap (outboxEventsOf L), CanonicalIDs o := by
  intro o ho
  obtain ⟨mv, hmv, ho⟩ := List.mem_flatMap.1 ho
  obtain ⟨e, he, rfl⟩ := List.mem_map.1 ho
  obtain ⟨h1, -⟩ := h.pending hmv e he
  exact ⟨uuidColumn_stableID L e, by simpa [outboxEventOf, h1] using (hk.canonical mv.1 (h.mem mv hmv)).1⟩

theorem map_storedOutbox :
    (moves.flatMap (outboxEventsOf L)).map (storedOutbox now) = moves.flatMap (outboxOf L now) := by
  simp only [List.map_flatMap, outboxEventsOf, List.map_map]
  rfl

variable {db₂ db₃ db₄ : Db}

theorem append_eq_ok (h : Moves now db moves) (hk : db.Keyed) (he : db₂.events = db.events)
    (ho : db₂.outbox = db.outbox) (h₃ : db₂.appendDeliveryEvents (moves.flatMap (deliveriesOf L)) = .ok db₃)
    (h₄ : db₃.appendOutbox now (moves.flatMap (outboxEventsOf L)) = .ok db₄) :
    db₄ = { db₂ with
      events := db.events ++ moves.flatMap (journalOf L)
      outbox := db.outbox ++ moves.flatMap (outboxOf L now) } ∧
      Fresh (·.event.id) db.outbox (moves.flatMap (outboxOf L now)) := by
  obtain ⟨rfl, -⟩ := appendDeliveryEvents_eq_ok (h.eventRow_of_mem hk)
    (by rw [map_stored, he]; exact h.fresh_journal hk) h₃
  obtain ⟨hout, hids⟩ := appendOutbox_eq_ok (h.canonicalIDs_of_mem hk)
    (by rw [map_storedOutbox]; exact ho ▸ h.fresh_outbox hk) h₄
  rw [map_storedOutbox] at hids
  rw [hout, map_stored, map_storedOutbox, he]
  exact ⟨by simp only [ho], ho ▸ hids⟩

theorem appendDeliveryEvents_conflictFree (h : Moves now db moves) (hk : db.Keyed)
    (he : db₂.events = db.events) :
    ConflictFree (db₂.appendDeliveryEvents (moves.flatMap (deliveriesOf L))) :=
  Db.appendDeliveryEvents_conflictFree (h.eventRow_of_mem hk) (fun _ _ => rfl)
    (by rw [map_stored, he]; exact h.fresh_journal hk)

end Moves

theorem mapAllMessageEvents_eq_ok {record : MessageRecord} {events : List Event}
    {mapped : MappedMessageEvents} (h : mapAllMessageEvents L record events = .ok mapped) : mapped =
      ⟨events.map (outboxEventOf L record.tenantID),
        (lifecycleEvents events).map (deliveryEventOf L record.tenantID record.idempotencyKey)⟩ := by
  unfold mapAllMessageEvents at h
  split at h
  · simp at h
  · exact (mapEvents_eq_ok.1 h).2

/-! ## Writing a changed message -/

/-- One message moves. -/
theorem Moves.single (hr : r ∈ db.messages) (hm : Moved now r.message m) : Moves now db [(r, m)] :=
  ⟨by simpa using hr, by simpa using hm, by simp⟩

theorem mapAllMessageEvents_move {mapped : MappedMessageEvents}
    (h : mapAllMessageEvents L (r.record.withMessage m) m.pendingEvents = .ok mapped) :
    mapped = ⟨[(r, m)].flatMap (outboxEventsOf L), [(r, m)].flatMap (deliveriesOf L)⟩ := by
  rw [mapAllMessageEvents_eq_ok h]
  simp only [List.flatMap_cons, List.flatMap_nil, List.append_nil]
  rfl

/-- The writes that every change of a message makes, around what it does to the attempts. -/
structure Persisted (L : Libs) (now : Time) (db : Db) (r : MessageRow) (m : Message)
    (attempts : List AttemptRow) (db' : Db) : Prop where
  mem : r ∈ db.messages
  allowed : (updatedRow r m.toSnapshot).Allowed
  result : db' = { db with
    messages := exchange db.messages r (updatedRow r m.toSnapshot)
    attempts := attempts
    events := db.events ++ journalRows L r.tenantID r.idempotencyKey m.pendingEvents
    outbox := db.outbox ++ outboxRows L now r.tenantID m.pendingEvents }
  outboxIDs : Fresh (·.event.id) db.outbox (outboxRows L now r.tenantID m.pendingEvents)

theorem Persisted.advance {attempts : List AttemptRow} (h : Persisted L now db r m attempts db')
    (hm : Moved now r.message m) (ha : AttemptChange db r m attempts) : Advance L now db r m db' where
  mem := h.mem
  moved := hm
  allowed := h.allowed
  attempts := by rw [h.result]; exact ha
  messages := by rw [h.result]
  events := by rw [h.result]
  outbox := by rw [h.result]
  outboxIDs := h.outboxIDs
  tenants := by rw [h.result]

/-- The row that a save under the version of `r` finds. -/
theorem save_read (hk : db.Keyed) (hl : read.Later db) (hr : r ∈ read.messages) (hm : Moved now r.message m)
    (h : db.save m = .ok db') : r ∈ db.messages ∧ (updatedRow r m.toSnapshot).Allowed ∧
      db' = { db with messages := exchange db.messages r (updatedRow r m.toSnapshot) } := by
  have hmid : m.id = r.snapshot.id := hm.id
  obtain ⟨x, hx, hlx⟩ := hl.messages r hr
  have hcanon : uuidColumn m.id = some m.id := by
    rw [hmid, ← hlx.id_eq]
    exact (hk.canonical x hx).1
  obtain ⟨r', hr', hid, hv, hallowed, rfl⟩ := save_eq_ok hk.ids hcanon h
  obtain rfl : r' = r := hl.eq_of_version hk.ids hr hr' (hid.trans hmid) (hv.trans hm.version)
  exact ⟨hr', hallowed, rfl⟩

theorem persist {mapped : MappedMessageEvents} {attempts : List AttemptRow} {db₁ db₃ db₄ : Db} (hk : db.Keyed)
    (hl : read.Later db) (hr : r ∈ read.messages) (hm : Moved now r.message m)
    (hmap : mapAllMessageEvents L (r.record.withMessage m) m.pendingEvents = .ok mapped)
    (h₁ : db.save m = .ok db₁)
    (h₃ : { db₁ with attempts := attempts }.appendDeliveryEvents mapped.delivery = .ok db₃)
    (h₄ : db₃.appendOutbox now mapped.outbox = .ok db₄) : Persisted L now db r m attempts db₄ := by
  obtain ⟨hmem, hallowed, rfl⟩ := save_read hk hl hr hm h₁
  obtain rfl := mapAllMessageEvents_move hmap
  obtain ⟨h₄', hids⟩ := (Moves.single hmem hm).append_eq_ok hk (by rfl) (by rfl) h₃ h₄
  exact ⟨hmem, hallowed, by simpa [journalOf, outboxOf] using h₄', by simpa [outboxOf] using hids⟩

/-! ## Claim -/

/-- The claim that a started attempt leaves its worker with. -/
def claimOf (command : DispatchCommand) (providerKey : String) (attemptID : Uuid)
    (now : Time) (r : MessageRow) (m : Message) : DispatchClaim where
  command := command
  attempt := {
    id := attemptID.text, messageID := command.messageID, attemptNumber := m.attemptCount
    dispatchGeneration := command.dispatchGeneration, providerKey := providerKey, startedAt := now }
  record := (r.record.withMessage m).pulled

/-- What a committed claim of the message read as `r` did. -/
inductive ClaimEffect (L : Libs) (now : Time) (db : Db) (command : DispatchCommand) (providerKey : String)
    (attemptID : Uuid) (r : MessageRow) : Db → ClaimOutcome → Prop
  | stale (behind : command.dispatchGeneration < r.snapshot.dispatchGeneration ∨
        command.aggregateSequence < r.snapshot.latestSequence) :
      ClaimEffect L now db command providerKey attemptID r db (.resolved { disposition := .stale })
  | duplicate (generation : r.snapshot.dispatchGeneration = command.dispatchGeneration)
      (sequence : r.snapshot.latestSequence = command.aggregateSequence)
      (status : r.snapshot.status ≠ .queued) :
      ClaimEffect L now db command providerKey attemptID r db (.resolved { disposition := .duplicate })
  | expired {m : Message} {db' : Db} (sequence : r.snapshot.latestSequence = command.aggregateSequence)
      (source : r.snapshot.status = .queued) (status : m.status = .expired)
      (advance : Advance L now db r m db') :
      ClaimEffect L now db command providerKey attemptID r db' (.resolved { disposition := .expired })
  | started {m : Message} {db' : Db} (sequence : r.snapshot.latestSequence = command.aggregateSequence)
      (source : r.snapshot.status = .queued) (status : m.status = .sending)
      (generation : command.dispatchGeneration = m.dispatchGeneration)
      (deadline : now < r.snapshot.dispatchDeadline) (advance : Advance L now db r m db')
      (fresh : db.FreshAttempt (startedRow attemptID.text r.snapshot.id
        (claimOf command providerKey attemptID now r m).attempt))
      (attempts : db'.attempts = db.attempts ++ [startedRow attemptID.text r.snapshot.id
        (claimOf command providerKey attemptID now r m).attempt])
      (valid : (claimOf command providerKey attemptID now r m).attempt.validate = .ok ())
      (allowed : (startedRow attemptID.text r.snapshot.id
        (claimOf command providerKey attemptID now r m).attempt).Allowed) :
      ClaimEffect L now db command providerKey attemptID r db'
        (.started (claimOf command providerKey attemptID now r m))

section Claim

variable {command : DispatchCommand} {providerKey : String} {attemptID : Uuid} {outcome : ClaimOutcome}

theorem loadForClaim_eq_ok {messageID : String} {record : MessageRecord}
    (h : loadForClaim read messageID = .ok record) :
    read.getByID messageID = .ok record := by
  unfold loadForClaim at h
  split at h
  · simp at h
  · exact h

theorem expireClaimed_effect (hk : db.Keyed) (hl : read.Later db) (hr : r ∈ read.messages)
    (hs : r.snapshot.status = .queued) (hseq : r.snapshot.latestSequence = command.aggregateSequence)
    (h : expireClaimed L now db r.record = .ok (db', outcome)) :
    ClaimEffect L now db command providerKey attemptID r db' outcome := by
  unfold expireClaimed at h
  split at h
  · rename_i m hexp
    obtain ⟨hm, hst, -⟩ := Message.expire_moved hexp
    simp only [bind_eq_ok, saveMessageWithOutbox, pure_eq_ok, Prod.mk.injEq] at h
    obtain ⟨db₄, ⟨mapped, hmap, db₁, h₁, db₃, h₃, h₄⟩, rfl, rfl⟩ := h
    have hp := persist hk hl hr hm hmap h₁ h₃ h₄
    obtain ⟨-, -, rfl⟩ := save_read hk hl hr hm h₁
    exact .expired hseq hs hst (hp.advance hm (.unchanged (by simp [hs]) (.inr hst)))
  · simp at h

theorem startClaimed_effect (hk : db.Keyed) (hl : read.Later db) (hr : r ∈ read.messages)
    (hid : uuidColumn command.messageID = some r.snapshot.id)
    (hseq : r.snapshot.latestSequence = command.aggregateSequence)
    (h : startClaimed L providerKey attemptID now db command r.record = .ok (db', outcome)) :
    ClaimEffect L now db command providerKey attemptID r db' outcome := by
  unfold startClaimed at h
  split at h
  · simp at h
  · rename_i m hst
    obtain ⟨hm, hq, hsend, hgen, hd, hlim⟩ := Message.startSending_moved hst
    have hgen' : m.dispatchGeneration = r.snapshot.dispatchGeneration := by
      cases hm.counts with
      | queued status => simp [hsend] at status
      | started _ _ generation => exact generation
      | kept _ notSending => exact absurd hsend notSending
    simp only [bind_eq_ok, saveMessageWithOutboxAndAttempt, pure_eq_ok, Prod.mk.injEq] at h
    obtain ⟨_, -, db₄, ⟨mapped, hmap, db₁, h₁, db₂, h₂, db₃, h₃, h₄⟩, rfl, rfl⟩ := h
    have hid' : uuidColumn (claimOf command providerKey attemptID now r m).attempt.id = some attemptID.text :=
      uuidColumn_text attemptID
    obtain ⟨hvalid, hallowed, hfresh, -, rfl⟩ := (createStarted_eq_ok hid' hid).1 h₂
    have hp := persist hk hl hr hm hmap h₁ h₃ h₄
    obtain ⟨-, -, rfl⟩ := save_read hk hl hr hm h₁
    refine .started hseq hq hsend (hgen.trans hgen'.symm) hd (hp.advance hm ?_) hfresh
      (by rw [hp.result]) hvalid hallowed
    exact .started hsend rfl rfl (hgen.trans hgen'.symm) rfl (congrArg truncate hm.updatedAt.symm) hfresh
      ((truncate_le now).trans_lt hd)

theorem claim_effect (hk : db.Keyed) (hl : read.Later db)
    (h : claim L providerKey attemptID command read now db = .ok (db', outcome)) :
    ∃ r ∈ read.messages, uuidColumn command.messageID = some r.snapshot.id ∧ r.Loadable ∧
      r.tenantID = command.tenantID ∧ ClaimEffect L now db command providerKey attemptID r db' outcome := by
  simp only [claim, bind_eq_ok, check_eq_ok] at h
  obtain ⟨record, hload, _, htenant, h⟩ := h
  obtain ⟨r, hr, hid, hloadable, rfl⟩ := getByID_eq_ok (loadForClaim_eq_ok hload)
  refine ⟨r, hr, hid, hloadable, htenant, ?_⟩
  split at h
  · rename_i hbehind
    simp only [pure_eq_ok, Prod.mk.injEq] at h
    obtain ⟨rfl, rfl⟩ := h
    exact .stale hbehind
  split at h
  · simp at h
  rename_i hnb hna
  have hgen : r.snapshot.dispatchGeneration = command.dispatchGeneration := by
    simp only [not_or, Nat.not_lt] at hnb hna
    exact Nat.le_antisymm hnb.1 hna.1
  have hseq : r.snapshot.latestSequence = command.aggregateSequence := by
    simp only [not_or, Nat.not_lt] at hnb hna
    exact Nat.le_antisymm hnb.2 hna.2
  split at h
  · rename_i hs
    simp only [pure_eq_ok, Prod.mk.injEq] at h
    obtain ⟨rfl, rfl⟩ := h
    exact .duplicate hgen hseq hs
  rename_i hs
  have hs' : r.snapshot.status = .queued := not_not.1 hs
  split at h
  · exact expireClaimed_effect hk hl hr hs' hseq h
  · exact startClaimed_effect hk hl hr hid hseq h

end Claim

/-! ## Finalize -/

/-- How the message, the attempt and the answer agree with the provider's result. -/
inductive Settled (now : Time) (attemptID : String) (result : ProviderResult) :
    Status → CompleteDeliveryAttempt → DispatchDisposition → Prop
  | accepted (outcome : result.outcome = .accepted) : Settled now attemptID result .providerAccepted
      ⟨attemptID, .providerAccepted, now, result.providerMessageID, none⟩ .providerAccepted
  | unknown {f : Failure} (outcome : result.outcome = .submissionUnknown)
      (failure : result.failure = some f) :
      Settled now attemptID result .submissionUnknown
        ⟨attemptID, .submissionUnknown, now, "", some f⟩ .submissionUnknown
  | permanent {f : Failure} (outcome : result.outcome = .failed) (failure : result.failure = some f)
      (retryable : f.retryable = false) :
      Settled now attemptID result .permanentlyFailed ⟨attemptID, .failed, now, "", some f⟩ .permanentlyFailed
  | retried {f : Failure} (outcome : result.outcome = .failed) (failure : result.failure = some f)
      (retryable : f.retryable = true) :
      Settled now attemptID result .retryScheduled ⟨attemptID, .failed, now, "", some f⟩ .retryScheduled
  | exhausted {f : Failure} (outcome : result.outcome = .failed) (failure : result.failure = some f)
      (retryable : f.retryable = true) :
      Settled now attemptID result .deadLettered ⟨attemptID, .failed, now, "", some f⟩ .deadLettered

section Finalize

variable {result : ProviderResult} {delay : Int} {attempt : StartedDeliveryAttempt}
  {completion : CompleteDeliveryAttempt} {disposition : DispatchDisposition} {c : DispatchClaim}

theorem finishAttempt_eq_ok {α : Type} {step : Message × Except MessageError α} {m : Message}
    {completion' : CompleteDeliveryAttempt} {disposition' : DispatchDisposition}
    (h : finishAttempt step completion' disposition' = .ok (m, completion, disposition)) :
    (∃ a, step = (m, .ok a)) ∧ completion = completion' ∧ disposition = disposition' := by
  unfold finishAttempt at h
  split at h
  · simp only [Except.ok.injEq, Prod.mk.injEq] at h
    obtain ⟨rfl, rfl, rfl⟩ := h
    exact ⟨⟨_, rfl⟩, rfl, rfl⟩
  · simp at h

theorem applyProviderResult_settled {m₀ : Message} (hs : m₀.status = .sending)
    (h : applyProviderResult m₀ attempt result delay now = .ok (m, completion, disposition)) :
    Moved now m₀ m ∧ Settled now attempt.id result m.status completion disposition := by
  unfold applyProviderResult at h
  split at h
  · rename_i ho
    obtain ⟨⟨_, hstep⟩, rfl, rfl⟩ := finishAttempt_eq_ok h
    obtain ⟨hm, hst⟩ := Message.applyDeliveryFact_moved hs hstep
    exact ⟨hm, hst ▸ .accepted ho⟩
  · rename_i failure ho hf
    obtain ⟨⟨_, hstep⟩, rfl, rfl⟩ := finishAttempt_eq_ok h
    obtain ⟨hm, hst⟩ := Message.markSubmissionUnknown_moved hstep
    exact ⟨hm, hst ▸ .unknown ho hf⟩
  · rename_i failure ho hf
    dsimp only at h
    split at h
    · rename_i hret
      obtain ⟨⟨_, hstep⟩, rfl, rfl⟩ := finishAttempt_eq_ok h
      obtain ⟨hm, hst⟩ := Message.markPermanentlyFailed_moved hstep
      exact ⟨hm, hst ▸ .permanent ho hf (by simpa using hret)⟩
    · rename_i hret
      have hret' : failure.retryable = true := by simpa using hret
      split at h
      · split at h
        · simp at h
        · split at h
          · obtain ⟨⟨_, hstep⟩, rfl, rfl⟩ := finishAttempt_eq_ok h
            obtain ⟨hm, hst, -⟩ := Message.scheduleRetry_moved hstep
            exact ⟨hm, hst ▸ .retried ho hf hret'⟩
          · obtain ⟨⟨_, hstep⟩, rfl, rfl⟩ := finishAttempt_eq_ok h
            obtain ⟨hm, hst⟩ := Message.markDeadLettered_moved hstep
            exact ⟨hm, hst ▸ .exhausted ho hf hret'⟩
      · obtain ⟨⟨_, hstep⟩, rfl, rfl⟩ := finishAttempt_eq_ok h
        obtain ⟨hm, hst⟩ := Message.markDeadLettered_moved hstep
        exact ⟨hm, hst ▸ .exhausted ho hf hret'⟩
  · simp at h

/-- What a result says that the message it ends is neither sent nor queued again by it. -/
theorem Settled.facts {status : Status} {attemptID : String}
    (h : Settled now attemptID result status completion disposition) :
    completion.attemptID = attemptID ∧ completion.finishedAt = now ∧ completion.status ≠ .started ∧
      status ≠ .sending ∧ status ≠ .queued ∧ (status = .retryScheduled →
        completion.status = .failed ∧ ∃ f ∈ completion.failure, f.retryable = true) := by
  cases h <;> simp_all

theorem Settled.answer {status : Status} {attemptID : String}
    (h : Settled now attemptID result status completion disposition) :
    completion.status = attemptStatus status := by
  cases h <;> rfl

/-- The attempt that a claim started, as it is stored. -/
structure DispatchClaim.HeldIn (c : DispatchClaim) (db : Db) (a : AttemptRow) : Prop where
  mem : a ∈ db.attempts
  id : a.id = c.attempt.id
  canonical : uuidColumn c.attempt.id = some c.attempt.id
  messageID : uuidColumn c.command.messageID = some a.messageID
  record : c.record.message.id = a.messageID
  attemptNo : a.attemptNo = c.attempt.attemptNumber
  generation : a.dispatchGeneration = c.attempt.dispatchGeneration
  startedAt : a.startedAt = truncate c.attempt.startedAt

/-- What a committed second transaction did for the message read as `r`. -/
inductive FinalizeEffect (L : Libs) (now : Time) (db : Db) (c : DispatchClaim) (result : ProviderResult)
    (r : MessageRow) : Db → DispatchDisposition → Prop
  | duplicate (status : r.snapshot.status ≠ .sending) : FinalizeEffect L now db c result r db .duplicate
  | finished {m : Message} {a : AttemptRow} {completion : CompleteDeliveryAttempt}
      {disposition : DispatchDisposition} {db' : Db} (source : r.snapshot.status = .sending)
      (settled : Settled now c.attempt.id result m.status completion disposition) (held : c.HeldIn db a)
      (started : a.status = .started) (advance : Advance L now db r m db')
      (attempts : db'.attempts = exchange db.attempts a (completedAttempt a completion)) :
      FinalizeEffect L now db c result r db' disposition

theorem finalize_effect {dispatched : DispatchResult} {a : AttemptRow} (hk : db.Keyed) (hl : read.Later db)
    (held : c.HeldIn db a) (h : finalize L c result delay read now db = .ok (db', dispatched)) :
    ∃ r ∈ read.messages, uuidColumn c.command.messageID = some r.snapshot.id ∧
      r.snapshot.dispatchGeneration = c.attempt.dispatchGeneration ∧
      r.snapshot.attemptCount = c.attempt.attemptNumber ∧
      dispatched.attemptID = c.attempt.id ∧ dispatched.attemptNumber = c.attempt.attemptNumber ∧
      FinalizeEffect L now db c result r db' dispatched.disposition := by
  simp only [finalize, bind_eq_ok, check_eq_ok] at h
  obtain ⟨record, hget, _, ⟨hgen, hatt⟩, h⟩ := h
  obtain ⟨r, hr, hid, -, rfl⟩ := getByID_eq_ok hget
  refine ⟨r, hr, hid, hgen, hatt, ?_⟩
  split at h
  · rename_i hs
    simp only [pure_eq_ok, Prod.mk.injEq] at h
    obtain ⟨rfl, rfl⟩ := h
    exact ⟨rfl, rfl, .duplicate hs⟩
  · rename_i hs
    have hs' : r.snapshot.status = .sending := not_not.1 hs
    simp only [bind_eq_ok, mapError_ok_iff, pure_eq_ok, Prod.mk.injEq] at h
    obtain ⟨⟨m, completion, disposition⟩, happly, mapped, hmap, db₁, h₁, db₂, h₂, db₃, h₃,
        db₄, h₄, rfl, rfl⟩ := h
    obtain ⟨hm, hsettled⟩ := applyProviderResult_settled hs' happly
    obtain ⟨hfid, hfat, hfin, hns, hnq, hret⟩ := hsettled.facts
    obtain ⟨hmem, hallowed, rfl⟩ := save_read hk hl hr hm h₁
    obtain ⟨x, hx, hxid, hxs, -, rfl⟩ := complete_eq_ok (by exact hk.attemptIDs) h₂
    -- the attempt that was completed is the one that the claim started
    obtain rfl : x = a := by
      refine List.inj_on_of_nodup_map hk.attemptIDs hx held.mem ?_
      rw [hfid, held.canonical, Option.some.injEq] at hxid
      exact hxid.symm.trans held.id.symm
    have hp := persist hk hl hr hm hmap h₁ h₃ h₄
    refine ⟨rfl, rfl, .finished hs' hsettled held hxs (hp.advance hm ?_) (by rw [hp.result])⟩
    refine .completed hs' hns held.mem ?_ hxs hfin hret hnq hsettled.answer
    exact Option.some.inj (held.messageID.symm.trans hid)

end Finalize

/-! ## Scheduler -/

section Scheduler

/-- The rows that a run locks: due ones of different messages. -/
theorem mem_dueRows {limit : Nat} {locked : String → Bool} {x : MessageRow}
    (h : x ∈ db.dueRows now limit locked) :
    x ∈ db.messages ∧ db.isDue now x = true := by
  have hmem := List.mem_of_mem_take h
  simp only [List.mem_insertionSort, List.mem_filter, Bool.and_eq_true] at hmem
  exact ⟨hmem.1, hmem.2.1⟩

theorem nodup_dueRows (hk : db.Keyed) (limit : Nat) (locked : String → Bool) :
    ((db.dueRows now limit locked).map (·.snapshot.id)).Nodup := by
  have hsub : ((db.messages.filter fun x => db.isDue now x && !locked x.snapshot.id).map
      (·.snapshot.id)).Nodup :=
    hk.ids.sublist (List.filter_sublist.map _)
  have hsort := ((List.perm_insertionSort dueBefore _).map (·.snapshot.id)).nodup_iff.2 hsub
  exact hsort.sublist ((List.take_sublist _ _).map _)

theorem isDue_status {x : MessageRow} (h : db.isDue now x = true) :
    x.snapshot.status = .scheduled ∨ x.snapshot.status = .retryScheduled := by
  simp only [isDue, Bool.and_eq_true, Bool.or_eq_true, decide_eq_true_eq] at h
  tauto

theorem advanceDue_moved {m₀ : Message} {expired : Bool} (h : advanceDue now m₀ = .ok (m, expired)) :
    Moved now m₀ m ∧ (m.status = .queued ∨ m.status = .expired) := by
  unfold advanceDue at h
  split at h
  · split at h
    · simp at h
    · simp at h
    · rename_i m' hexp
      simp only [Except.ok.injEq, Prod.mk.injEq] at h
      obtain ⟨rfl, -⟩ := h
      obtain ⟨hm, hst, -⟩ := Message.expire_moved hexp
      exact ⟨hm, .inr hst⟩
  · split at h
    · simp at h
    · rename_i m' hq
      simp only [Except.ok.injEq, Prod.mk.injEq] at h
      obtain ⟨rfl, -⟩ := h
      obtain ⟨hm, hst, -⟩ := Message.queue_moved hq
      exact ⟨hm, .inl hst⟩

/-- The table of messages after some moves. -/
def movedMessages (messages : List MessageRow) (moves : List (MessageRow × Message)) : List MessageRow :=
  moves.foldl (fun rows mv => exchange rows mv.1 (updatedRow mv.1 mv.2.toSnapshot)) messages

/-- What the loop over a batch did: each message moved once, all events collected. -/
theorem advanceBatch_eq_ok {rows : List MessageRow} {mapped : MappedMessageEvents}
    {result : SchedulerBatchResult} (hn : db.messageIDs.Nodup) (hmem : ∀ x ∈ rows, x ∈ db.messages)
    (hid : ∀ x ∈ rows, uuidColumn x.snapshot.id = some x.snapshot.id)
    (hrows : (rows.map (·.snapshot.id)).Nodup)
    (h : advanceBatch L now db (rows.map (·.record)) = .ok (db', mapped, result)) :
    ∃ moves : List (MessageRow × Message), moves.map Prod.fst = rows ∧
      (∀ mv ∈ moves, Moved now mv.1.message mv.2 ∧ (mv.2.status = .queued ∨ mv.2.status = .expired) ∧
        (updatedRow mv.1 mv.2.toSnapshot).Allowed) ∧
      db' = { db with messages := movedMessages db.messages moves } ∧
      mapped = ⟨moves.flatMap (outboxEventsOf L), moves.flatMap (deliveriesOf L)⟩ := by
  induction rows generalizing db db' mapped result with
  | nil =>
    simp only [List.map_nil, advanceBatch, pure_eq_ok, Prod.mk.injEq] at h
    obtain ⟨rfl, rfl, -⟩ := h
    exact ⟨[], rfl, by simp, rfl, rfl⟩
  | cons x rows ih =>
    simp only [List.map_cons, advanceBatch, bind_eq_ok, pure_eq_ok, Prod.mk.injEq] at h
    obtain ⟨⟨m, expired⟩, hdue, mapped₁, hmap, db₁, h₁, ⟨db₂, rest, result₂⟩, h₂, rfl, rfl, -⟩ := h
    obtain ⟨hm, hst⟩ := advanceDue_moved hdue
    simp only [List.map_cons, List.nodup_cons, List.mem_map, not_exists, not_and] at hrows
    have hx := hmem x (by simp)
    -- the save finds the row itself
    have hmid : m.id = x.snapshot.id := hm.id
    obtain ⟨y, hy, hyid, -, hallowed, rfl⟩ := save_eq_ok hn (by rw [hmid]; exact hid x (by simp)) h₁
    obtain rfl : y = x := List.inj_on_of_nodup_map hn hy hx (hyid.trans hmid)
    have hlater : (updatedRow y m.toSnapshot).snapshot.id = y.snapshot.id := rfl
    obtain ⟨moves, rfl, hall, rfl, rfl⟩ := ih (by
        rw [messageIDs, map_exchange (fun z : MessageRow => z.snapshot.id) _ hlater]
        exact hn)
      (fun z hz => (mem_exchange hx).2 (.inr ⟨hmem z (by simp [hz]), fun he => hrows.1 z hz (by rw [he])⟩))
      (fun z hz => hid z (by simp [hz])) hrows.2 h₂
    obtain rfl := mapAllMessageEvents_eq_ok hmap
    exact ⟨(y, m) :: moves, rfl, by simpa using ⟨⟨hm, hst, hallowed⟩, by simpa using hall⟩, rfl, rfl⟩

/-- One move with its events, as a state. -/
def applyMove (L : Libs) (now : Time) (db : Db) (mv : MessageRow × Message) : Db :=
  { db with
    messages := exchange db.messages mv.1 (updatedRow mv.1 mv.2.toSnapshot)
    events := db.events ++ journalOf L mv
    outbox := db.outbox ++ outboxOf L now mv }

/-- Saving a whole batch and then appending all its events comes to the same as one
move after the other. -/
theorem foldl_applyMove (moves : List (MessageRow × Message)) : moves.foldl (applyMove L now) db =
    { db with
      messages := movedMessages db.messages moves
      events := db.events ++ moves.flatMap (journalOf L)
      outbox := db.outbox ++ moves.flatMap (outboxOf L now) } := by
  induction moves generalizing db with
  | nil => simp [movedMessages]
  | cons mv moves ih => simp [ih, applyMove, movedMessages]

theorem applyMove_change {mv : MessageRow × Message} (hmem : mv.1 ∈ db.messages)
    (hm : Moved now mv.1.message mv.2) (hallowed : (updatedRow mv.1 mv.2.toSnapshot).Allowed)
    (hs : mv.1.snapshot.status ≠ .sending) (ht : mv.2.status = .queued ∨ mv.2.status = .expired)
    (hids : Fresh (·.event.id) db.outbox (outboxOf L now mv)) :
    Change L ids db (applyMove L now db mv) :=
  .advanced (r := mv.1) ⟨hmem, hm, hallowed, .unchanged hs ht, rfl, rfl, rfl, hids, rfl⟩

theorem foldl_applyMove_changes {moves : List (MessageRow × Message)} (h : Moves now db moves)
    (hids : Fresh (·.event.id) db.outbox (moves.flatMap (outboxOf L now)))
    (hall : ∀ mv ∈ moves, (updatedRow mv.1 mv.2.toSnapshot).Allowed ∧ mv.1.snapshot.status ≠ .sending ∧
      (mv.2.status = .queued ∨ mv.2.status = .expired)) :
    Relation.ReflTransGen (Change L ids) db (moves.foldl (applyMove L now) db) := by
  induction moves generalizing db with
  | nil => exact .refl
  | cons mv moves ih =>
    obtain ⟨hallowed, hs, ht⟩ := hall mv (by simp)
    have hn := h.nodup
    simp only [List.map_cons, List.nodup_cons, List.mem_map, not_exists, not_and] at hn
    obtain ⟨hids₁, hids₂⟩ := hids.split
    refine .head (applyMove_change (h.mem mv (by simp)) (h.moved mv (by simp)) hallowed hs ht hids₁)
      (ih ?_ hids₂ fun x hx => hall x (by simp [hx]))
    refine ⟨fun x hx => ?_, fun x hx => h.moved x (by simp [hx]), hn.2⟩
    exact (mem_exchange (h.mem mv (by simp))).2
      (.inr ⟨h.mem x (by simp [hx]), fun he => hn.1 x hx (by rw [he])⟩)

/-- The moves of a batch that was locked and advanced. -/
theorem batch_moves {batchSize : Nat} {locked : String → Bool} {records : List MessageRecord}
    {mapped : MappedMessageEvents} {result : SchedulerBatchResult} (hk : db.Keyed)
    (hscan : (db.dueRows now batchSize locked).mapM scanMessageRecord = .ok records)
    (h : advanceBatch L now db records = .ok (db', mapped, result)) :
    ∃ moves, Moves now db moves ∧
      (∀ mv ∈ moves, (updatedRow mv.1 mv.2.toSnapshot).Allowed ∧ db.isDue now mv.1 = true ∧
        (mv.2.status = .queued ∨ mv.2.status = .expired)) ∧
      db' = { db with messages := movedMessages db.messages moves } ∧
      mapped = ⟨moves.flatMap (outboxEventsOf L), moves.flatMap (deliveriesOf L)⟩ := by
  obtain ⟨rfl, -⟩ := mapM_eq_ok (fun x y h => (scanMessageRecord_eq_ok.1 h).symm) hscan
  obtain ⟨moves, hfst, hall, hdb, hmapped⟩ := advanceBatch_eq_ok hk.ids (fun x hx => (mem_dueRows hx).1)
    (fun x hx => (hk.canonical x (mem_dueRows hx).1).1) (nodup_dueRows hk _ _) h
  have hdue : ∀ mv ∈ moves, mv.1 ∈ db.dueRows now batchSize locked := fun mv hmv =>
    hfst ▸ List.mem_map_of_mem hmv
  have hn : ((db.dueRows now batchSize locked).map (·.snapshot.id)).Nodup := nodup_dueRows hk _ _
  rw [← hfst, List.map_map] at hn
  refine ⟨moves, ⟨fun mv hmv => (mem_dueRows (hdue mv hmv)).1, fun mv hmv => (hall mv hmv).1, hn⟩,
    fun mv hmv => ?_, hdb, hmapped⟩
  exact ⟨(hall mv hmv).2.2, (mem_dueRows (hdue mv hmv)).2, (hall mv hmv).2.1⟩

/-- The moves of a committed run. -/
theorem runOnce_moves {batchSize : Nat} {locked : String → Bool}
    {result : SchedulerBatchResult} (hk : db.Keyed)
    (h : runOnce L batchSize locked now db = .ok (db', result)) :
    ∃ moves, Moves now db moves ∧ db' = moves.foldl (applyMove L now) db ∧
      Fresh (·.event.id) db.outbox (moves.flatMap (outboxOf L now)) ∧
      ∀ mv ∈ moves, (updatedRow mv.1 mv.2.toSnapshot).Allowed ∧ db.isDue now mv.1 = true ∧
        (mv.2.status = .queued ∨ mv.2.status = .expired) := by
  simp only [runOnce, lockDue, bind_eq_ok, pure_eq_ok] at h
  obtain ⟨batch, ⟨_, -, records, hscan, _, -, rfl⟩, h⟩ := h
  split at h
  · simp only [pure_eq_ok, Prod.mk.injEq] at h
    exact ⟨[], ⟨by simp, by simp, by simp⟩, h.1.symm, ⟨by simp, by simp⟩, by simp⟩
  · simp only [bind_eq_ok, pure_eq_ok, Prod.mk.injEq] at h
    obtain ⟨_, -, ⟨db₁, mapped, result₁⟩, h₁, db₃, h₃, db₄, h₄, rfl, -⟩ := h
    obtain ⟨moves, hmoves, hall, rfl, rfl⟩ := batch_moves hk hscan h₁
    obtain ⟨h₄', hids⟩ := hmoves.append_eq_ok hk (by rfl) (by rfl) h₃ h₄
    exact ⟨moves, hmoves, by rw [h₄', foldl_applyMove], hids, hall⟩

theorem runOnce_changes {batchSize : Nat} {locked : String → Bool}
    {result : SchedulerBatchResult} (hk : db.Keyed)
    (h : runOnce L batchSize locked now db = .ok (db', result)) :
    Relation.ReflTransGen (Change L ids) db db' := by
  obtain ⟨moves, hmoves, rfl, hids, hall⟩ := runOnce_moves hk h
  refine foldl_applyMove_changes hmoves hids fun mv hmv => ⟨(hall mv hmv).1, ?_, (hall mv hmv).2.2⟩
  rcases isDue_status (hall mv hmv).2.1 with hs | hs <;> simp [hs]

end Scheduler

end MailService
