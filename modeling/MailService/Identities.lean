import MailService.Acceptance
import MailService.Invariants
/-!
# The ids of events

The id of an outbox event is a hash of its identity. Where the hash has no
collisions on the identities that a run can produce, new identities mean new ids.
-/
open Text Checks Table

namespace MailService

open Db

variable {L : Libs} {ids : Set Uuid} {db : Db} {now : Time} {m : Message}

/-- The names that the events of messages with these ids are hashed under: a
message is queued at most ten times, and its sequence grows with that. -/
def eventIdentities (ids : Set Uuid) : Set String :=
  { name | ∃ u ∈ ids, ∃ kind sequence generation, sequence ≤ 44 ∧ generation ≤ 10 ∧
    name = eventIdentity u.text kind sequence generation }

/-- `uuid.NewSHA1` has no collisions on them. -/
def Libs.CollisionFree (L : Libs) (ids : Set Uuid) : Prop :=
  Set.InjOn (L.newSHA1 deliveryEventNamespace) (eventIdentities ids)

/-- The digits that tell the events of one message apart. -/
def eventDigits (kind : EventKind) (sequence generation : Nat) : Uuid where
  digits := [match kind with | .messageAccepted => 0 | .statusChanged => 1 | .dispatchRequested => 2,
    .ofNat 16 (sequence / 16), .ofNat 16 sequence, .ofNat 16 generation] ++ List.replicate 28 0
  length_digits := by simp

theorem eventDigits_inj {kind kind' : EventKind}
    {sequence sequence' generation generation' : Nat} (hs : sequence ≤ 44)
    (hs' : sequence' ≤ 44) (hg : generation ≤ 10) (hg' : generation' ≤ 10)
    (h : eventDigits kind sequence generation = eventDigits kind' sequence' generation') :
    kind = kind' ∧ sequence = sequence' ∧ generation = generation' := by
  have hdigits := congrArg Uuid.digits h
  simp only [eventDigits, List.cons_append, List.cons.injEq, Fin.ext_iff, Fin.ofNat] at hdigits
  obtain ⟨hkind, hhigh, hlow, hgeneration, -⟩ := hdigits
  refine ⟨?_, by omega, by omega⟩
  cases kind <;> cases kind' <;> first | rfl | exact absurd hkind (by decide)

/-- There are ids enough for the events of a message. -/
theorem exists_collisionFree (u : Uuid) : ∃ hash : String → Uuid, Set.InjOn hash (eventIdentities {u}) := by
  have hname : ∀ name ∈ eventIdentities {u}, ∃ kind sequence generation, sequence ≤ 44 ∧ generation ≤ 10 ∧
      name = eventIdentity u.text kind sequence generation := by
    rintro name ⟨v, hv, h⟩
    rw [← Set.mem_singleton_iff.1 hv]
    exact h
  have : Nonempty EventKind := ⟨.messageAccepted⟩
  choose! kind sequence generation hsequence hgeneration hname using hname
  refine ⟨fun name => eventDigits (kind name) (sequence name) (generation name), fun a ha b hb h => ?_⟩
  obtain ⟨hk, hs, hg⟩ :=
    eventDigits_inj (hsequence a ha) (hsequence b hb) (hgeneration a ha) (hgeneration b hb) h
  rw [hname a ha, hname b hb, hk, hs, hg]

/-- The part of a text before a character that does not occur in it. -/
theorem append_cons_inj {α : Type} {c : α} {front front' back back' : List α}
    (hf : c ∉ front) (hf' : c ∉ front') (h : front ++ c :: back = front' ++ c :: back') :
    front = front' ∧ back = back' := by
  induction front generalizing front' with
  | nil =>
    cases front' with
    | nil => exact ⟨rfl, (List.cons.inj h).2⟩
    | cons x front' => exact absurd (List.mem_cons.2 (.inl (List.cons.inj h).1)) hf'
  | cons x front ih =>
    cases front' with
    | nil => exact absurd (List.mem_cons.2 (.inl (List.cons.inj h).1.symm)) hf
    | cons y front' =>
      obtain ⟨rfl, htail⟩ := List.cons.inj h
      obtain ⟨rfl, hback⟩ :=
        ih (fun hc => hf (List.mem_cons_of_mem _ hc)) (fun hc => hf' (List.mem_cons_of_mem _ hc))
        htail
      exact ⟨rfl, hback⟩

theorem slash_notMem_nat (n : Nat) : '/' ∉ (toString n).toList := by
  rw [toList_toString_nat]
  intro h
  exact absurd (Nat.isDigit_of_mem_toDigits (by omega) (by omega) h) (by decide)

theorem slash_notMem_kind (kind : EventKind) : '/' ∉ kind.text.toList := by
  cases kind <;> decide

theorem toString_nat_inj {m n : Nat} (h : (toString m).toList = (toString n).toList) : m = n := by
  rw [toList_toString_nat, toList_toString_nat] at h
  rw [← @Nat.ofDigitChars_ten_toDigits m, h, Nat.ofDigitChars_ten_toDigits]

theorem toList_eventIdentity (messageID : String) (kind : EventKind) (sequence generation : Nat) :
    (eventIdentity messageID kind sequence generation).toList = "mail-message/".toList ++ (messageID.toList ++
      '/' :: (kind.text.toList ++ '/' ::
        ((toString sequence).toList ++ '/' :: (toString generation).toList))) := by
  unfold eventIdentity
  generalize toString sequence = q
  generalize toString generation = g
  generalize kind.text = k
  generalize "mail-message/" = front
  simp only [String.toList_append, List.append_assoc]
  rfl

/-- A name says which event it is of: no part of it holds a slash. -/
theorem eventIdentity_inj {u v : Uuid} {kind kind' : EventKind}
    {sequence sequence' generation generation' : Nat}
    (h : eventIdentity u.text kind sequence generation =
      eventIdentity v.text kind' sequence' generation') :
    u.text = v.text ∧ kind.text = kind'.text ∧ sequence = sequence' ∧ generation = generation' := by
  have hl := congrArg String.toList h
  rw [toList_eventIdentity, toList_eventIdentity] at hl
  have hl := List.append_cancel_left hl
  obtain ⟨hu, hl⟩ := append_cons_inj (Uuid.slash_notMem_text u) (Uuid.slash_notMem_text v) hl
  obtain ⟨hk, hl⟩ := append_cons_inj (slash_notMem_kind kind) (slash_notMem_kind kind') hl
  obtain ⟨hs, hg⟩ := append_cons_inj (slash_notMem_nat sequence) (slash_notMem_nat sequence') hl
  exact ⟨String.toList_inj.1 hu, String.toList_inj.1 hk, toString_nat_inj hs, toString_nat_inj hg⟩

/-- An event of one of these messages, with the id that its identity gives. -/
structure OutboxEvent.Known (L : Libs) (ids : Set Uuid) (e : OutboxEvent) : Prop where
  derived : e.Derived L
  drawn : ∃ u ∈ ids, e.aggregateID = u.text
  sequence : e.aggregateSequence ≤ 44
  generation : e.dispatchGeneration ≤ 10

/-- Events with the same id are the same event. -/
theorem OutboxEvent.Known.identity_eq {e e' : OutboxEvent} (hc : L.CollisionFree ids) (h : e.Known L ids)
    (h' : e'.Known L ids) (hid : e.id = e'.id) : e.identity = e'.identity := by
  obtain ⟨htype, kind, hkind, he⟩ := h.derived
  obtain ⟨htype', kind', hkind', he'⟩ := h'.derived
  obtain ⟨u, hu, hagg⟩ := h.drawn
  obtain ⟨v, hv, hagg'⟩ := h'.drawn
  rw [he, he', hagg, hagg'] at hid
  have hname := hc ⟨u, hu, kind, _, _, h.sequence, h.generation, rfl⟩
    ⟨v, hv, kind', _, _, h'.sequence, h'.generation, rfl⟩ (Uuid.text_injective hid)
  obtain ⟨h1, h2, h3, h4⟩ := eventIdentity_inj hname
  simp only [OutboxEvent.identity, htype, htype', hagg, hagg', h1, hkind, hkind', h2, h3, h4]

/-- Rows with new identities have new ids. -/
theorem fresh_ids {old new : List OutboxRow} (hc : L.CollisionFree ids)
    (hold : ∀ o ∈ old, o.event.Known L ids) (hnew : ∀ o ∈ new, o.event.Known L ids)
    (h : Fresh (·.event.identity) old new) : Fresh (·.event.id) old new := by
  constructor
  · intro o ho x hx hid
    exact h.absent o ho x hx ((hold x hx).identity_eq hc (hnew o ho) hid)
  · have hn := h.nodup
    rw [List.Nodup, List.pairwise_map] at hn ⊢
    refine hn.imp_of_mem fun {a b} ha hb hne hid => hne ?_
    exact (hnew a ha).identity_eq hc (hnew b hb) hid

/-- What a sound state has in its outbox. -/
theorem Sound.known (hs : Sound L ids db) {o : OutboxRow} (ho : o ∈ db.outbox) : o.event.Known L ids := by
  obtain ⟨r, hr, hid, hseq, hgen⟩ := hs.keyed.outbox o ho
  obtain ⟨u, hu, hdrawn⟩ := hs.drawn r hr
  have hcounted := (hs.rows r hr).counted
  have hle := hcounted.sequence_le
  have hmax := hcounted.generation_le
  have hten := hcounted.maxAttempts_le
  exact ⟨hs.derived o ho, ⟨u, hu, hid.symm.trans hdrawn⟩, by omega, by omega⟩

theorem known_storedOutbox {tenantID : String} {e : Event} (hid : ∃ u ∈ ids, e.messageID = u.text)
    (hseq : e.sequence ≤ 44) (hgen : e.dispatchGeneration ≤ 10) :
    (storedOutbox now (outboxEventOf L tenantID e)).event.Known L ids :=
  ⟨⟨rfl, e.kind, rfl, rfl⟩, hid, hseq, hgen⟩

/-- A row of a move carries the sequence and the generation that its message has moved to. -/
theorem Moves.known {moves : List (MessageRow × Message)} (h : Moves now db moves) (hs : Sound L ids db) :
    ∀ o ∈ moves.flatMap (outboxOf L now), o.event.Known L ids := by
  intro o hmem
  obtain ⟨mv, hmv, hmem⟩ := List.mem_flatMap.1 hmem
  obtain ⟨e, hevent, rfl⟩ := List.mem_map.1 hmem
  have hr := h.mem mv hmv
  have hmoved := h.moved mv hmv
  obtain ⟨u, hu, hdrawn⟩ := hs.drawn mv.1 hr
  have hcounted := hmoved.counted (hs.rows mv.1 hr).counted
  rcases hmoved.pending e hevent with hold | ⟨hid, hseq, hgen⟩
  · simp [MessageRow.message] at hold
  · have hle := hcounted.sequence_le
    have hmax := hcounted.generation_le
    have hten := hcounted.maxAttempts_le
    have hseq' : e.sequence = mv.2.toSnapshot.latestSequence := hseq
    have hgen' : e.dispatchGeneration = mv.2.toSnapshot.dispatchGeneration := hgen
    exact known_storedOutbox ⟨u, hu, (hid.trans hmoved.id).trans hdrawn⟩ (by omega) (by omega)

/-- The events of a new message are of the sequences and generations that a first move gives. -/
theorem known_created {params : NewParams} {tenantID : String}
    (hm : Moved params.now (acceptedMessage params) m) (hid : ∃ u ∈ ids, params.id = u.text)
    (hmax : params.maxAttempts ≠ 0 ∧ params.maxAttempts ≤ 10) :
    ∀ o ∈ outboxRows L params.now tenantID m.pendingEvents, o.event.Known L ids := by
  intro o ho
  obtain ⟨e, he, rfl⟩ := List.mem_map.1 ho
  have hcounted := hm.counted (acceptedMessage_counted hmax.1 hmax.2)
  have hle := hcounted.sequence_le
  have hgen := hcounted.generation_le
  have hten := hcounted.maxAttempts_le
  have hdrawn : ∃ u ∈ ids, e.messageID = u.text := by
    rw [created_messageID hm e he]
    exact hid
  rcases hm.pending e he with hacc | ⟨-, hseq, hgen'⟩
  · simp only [acceptedMessage, List.mem_singleton] at hacc
    subst hacc
    exact known_storedOutbox hdrawn (by simp) (by simp)
  · have hseq' : e.sequence = m.toSnapshot.latestSequence := hseq
    have hgen' : e.dispatchGeneration = m.toSnapshot.dispatchGeneration := hgen'
    exact known_storedOutbox hdrawn (by omega) (by omega)

end MailService
