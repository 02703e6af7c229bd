import MailService.Acceptance
import MailService.Invariants
import MailService.Leases
import MailService.System
/-!
# Every step of the service

What one step does to the database is a sequence of `Change`s or what a relay
does to its rows, so every reachable state is sound. A lane that is in the middle
of a transaction read a state that the current one is later than, and a lane that
holds a claim finds its attempt in the table.
-/
open Runs Checks

namespace MailService

open Db

variable {E : Env} {s s' : System} {db db' : Db} {action : Action} {c : DispatchClaim} {a : AttemptRow}

/-! ## The database -/

/-- What the committed writes of one step come to. -/
inductive Evolves (E : Env) (db db' : Db) : Prop
  | changed (h : Relation.ReflTransGen (Change E.L E.ids) db db')
  | relayed (h : Relayed db db')

theorem Evolves.refl (E : Env) (db : Db) : Evolves E db db := .changed .refl

theorem Evolves.later (h : Evolves E db db') : db.Later db' := by
  cases h with
  | changed h =>
    induction h with
    | refl => exact .refl db
    | tail _ h ih => exact ih.trans h.later
  | relayed h => exact h.later

theorem Evolves.sound (h : Evolves E db db') (hs : Sound E.L E.ids db) : Sound E.L E.ids db' := by
  cases h with
  | changed h =>
    induction h with
    | refl => exact hs
    | tail _ h ih => exact h.sound ih
  | relayed h => exact h.sound hs

theorem ClaimEffect.changes {L : Libs} {ids : Set Uuid} {now : Time} {command : DispatchCommand}
    {providerKey : String} {attemptID : Uuid} {r : MessageRow} {outcome : ClaimOutcome}
    (h : ClaimEffect L now db command providerKey attemptID r db' outcome) :
    Relation.ReflTransGen (Change L ids) db db' := by
  cases h with
  | stale => exact .refl
  | duplicate => exact .refl
  | expired _ _ _ advance => exact .single (.advanced advance)
  | started _ _ _ _ _ advance => exact .single (.advanced advance)

theorem FinalizeEffect.changes {L : Libs} {ids : Set Uuid} {now : Time}
    {result : ProviderResult} {r : MessageRow} {disposition : DispatchDisposition}
    (h : FinalizeEffect L now db c result r db' disposition) :
    Relation.ReflTransGen (Change L ids) db db' := by
  cases h with
  | duplicate => exact .refl
  | finished _ _ _ _ advance => exact .single (.advanced advance)

/-! ## Lanes -/

/-- A claim keeps the attempt it started. -/
theorem DispatchClaim.HeldIn.later (h : c.HeldIn db a) (hl : db.Later db') :
    ∃ a', c.HeldIn db' a' ∧ a'.fixed = a.fixed := by
  obtain ⟨a', ha', hf⟩ := hl.attempts a h.mem
  have hf' := hf
  simp only [AttemptRow.fixed, Prod.mk.injEq] at hf
  obtain ⟨h1, h2, h3, h4, -, h6⟩ := hf
  exact ⟨a', ⟨ha', h1.trans h.id, h.canonical, h2 ▸ h.messageID, h.record.trans h2.symm, h3.trans h.attemptNo,
    h4.trans h.generation, h6.trans h.startedAt⟩, hf'⟩

/-- The attempt that a committed claim leaves. -/
theorem ClaimEffect.held {L : Libs} {now : Time} {command : DispatchCommand}
    {providerKey : String} {attemptID : Uuid} {r : MessageRow}
    (hid : uuidColumn command.messageID = some r.snapshot.id)
    (h : ClaimEffect L now db command providerKey attemptID r db' (.started c)) :
    ∃ a, c.HeldIn db' a ∧ a.messageID = r.snapshot.id ∧ a.status = .started ∧ a.startedAt = truncate now := by
  cases h with
  | @started m _ _ _ _ _ _ advance _ attempts =>
    have hmem : startedRow attemptID.text r.snapshot.id
      (claimOf command providerKey attemptID now r m).attempt
        ∈ db'.attempts := by
      simp [attempts]
    exact ⟨_, ⟨hmem, rfl, uuidColumn_text attemptID, hid, advance.moved.id, rfl, rfl, rfl⟩, rfl, rfl, rfl⟩

/-- What a lane can rely on, as far as it is with its delivery. -/
def Work.Ok (E : Env) (db : Db) : Work → Prop
  | .parsed _ | .processed _ => True
  | .claiming _ read _ => Sound E.L E.ids read ∧ read.Later db
  | .claimed c | .submitting c | .observed c _ => ∃ a, c.HeldIn db a
  | .finalizing c _ read _ => Sound E.L E.ids read ∧ read.Later db ∧ ∃ a, c.HeldIn read a

theorem Work.Ok.later {work : Work} (h : work.Ok E db) (hl : db.Later db') : work.Ok E db' := by
  cases work with
  | parsed => trivial
  | processed => trivial
  | claiming => exact ⟨h.1, h.2.trans hl⟩
  | finalizing => exact ⟨h.1, h.2.1.trans hl, h.2.2⟩
  | claimed => obtain ⟨a, ha⟩ := h; exact (ha.later hl).imp fun _ h => h.1
  | submitting => obtain ⟨a, ha⟩ := h; exact (ha.later hl).imp fun _ h => h.1
  | observed => obtain ⟨a, ha⟩ := h; exact (ha.later hl).imp fun _ h => h.1

structure System.Ok (E : Env) (s : System) : Prop where
  sound : Sound E.L E.ids s.db
  lanes : ∀ i d work, s.lanes i = .holds d work → work.Ok E s.db

theorem System.setLane_self (s : System) (i : Nat) (lane : Lane) : (s.setLane i lane).lanes i = lane := by
  simp [System.setLane]

theorem System.setLane_holds {i j : Nat} {lane : Lane} {d : Delivery} {work : Work}
    (h : (s.setLane i lane).lanes j = .holds d work) :
    j = i ∧ lane = .holds d work ∨ j ≠ i ∧ s.lanes j = .holds d work := by
  by_cases hj : j = i
  · exact .inl ⟨hj, by simpa [System.setLane, hj] using h⟩
  · exact .inr ⟨hj, by simpa [System.setLane, hj] using h⟩

/-- The writes of a step from a state in which all is in order. -/
theorem Step.evolves (h : Step E s action s') (hs : s.Ok E) : Evolves E s.db s'.db := by
  have hk := hs.sound.keyed
  cases h with
  | submit hid h =>
    obtain ⟨p, -, heffect⟩ := submit_effect hk hid h
    exact .changed heffect.changes
  | schedule h => exact .changed (runOnce_changes hk h)
  | claim hlane _ h =>
    obtain ⟨-, hl⟩ := hs.lanes _ _ _ hlane
    obtain ⟨r, -, -, -, -, heffect⟩ := claim_effect hk hl h
    exact .changed heffect.changes
  | finalize hlane h =>
    obtain ⟨-, hl, a, ha⟩ := hs.lanes _ _ _ hlane
    obtain ⟨a', ha', -⟩ := ha.later hl
    obtain ⟨r, -, -, -, -, -, -, heffect⟩ := finalize_effect hk hl ha' h
    exact .changed heffect.changes
  | lease _ _ _ h =>
    obtain ⟨leaseUntil, claimed, hleased⟩ := claimBatch_leased hk.outboxIDs h
    exact .relayed hleased.relayed
  | record _ _ h =>
    obtain ⟨o, hrecorded⟩ := recordCompletion_recorded hk.outboxIDs h
    exact .relayed hrecorded.relayed
  | settle => rename_i answer _; cases answer <;> exact .refl E _
  | _ => exact .refl E _

/-- All stays in order when the lanes that did not move are left alone. -/
theorem System.Ok.step (hs : s.Ok E) (hev : Evolves E s.db s'.db)
    (hl : ∀ i d work, s'.lanes i = .holds d work → s.lanes i = .holds d work ∨ work.Ok E s'.db) :
    s'.Ok E := by
  refine ⟨hev.sound hs.sound, fun i d work hw => ?_⟩
  rcases hl i d work hw with h | h
  · exact (hs.lanes i d work h).later hev.later
  · exact h

/-- The same for a step that moves lane `i`. -/
theorem System.Ok.setLane {i : Nat} {lane : Lane} (hs : s.Ok E) (hev : Evolves E s.db s'.db)
    (hlanes : s'.lanes = s.lanes) (hl : ∀ d work, lane = .holds d work → work.Ok E s'.db) :
    (s'.setLane i lane).Ok E := by
  refine hs.step hev fun j d work hw => ?_
  rcases System.setLane_holds hw with ⟨-, h⟩ | ⟨-, h⟩
  · exact .inr (hl d work h)
  · exact .inl (hlanes ▸ h)

theorem Step.ok (h : Step E s action s') (hs : s.Ok E) : s'.Ok E := by
  have hev := h.evolves hs
  cases h with
  | submit => exact hs.step hev fun _ _ _ hw => .inl hw
  | schedule => exact hs.step hev fun _ _ _ hw => .inl hw
  | arrive => exact hs.step hev fun _ _ _ hw => .inl hw
  | deadLetter => exact hs.step hev fun _ _ _ hw => .inl hw
  | lease => exact hs.step hev fun _ _ _ hw => .inl hw
  | leaseFailed => exact hs.step hev fun _ _ _ hw => .inl hw
  | publish => exact hs.step hev fun _ _ _ hw => .inl hw
  | record => exact hs.step hev fun _ _ _ hw => .inl hw
  | recordFailed => exact hs.step hev fun _ _ _ hw => .inl hw
  | jobLost => exact hs.step hev fun _ _ _ hw => .inl hw
  | deliver =>
    refine hs.setLane hev rfl fun d' work hw => ?_
    cases hw
    unfold received
    split <;> trivial
  | readForClaim =>
    refine hs.setLane hev rfl fun d' work hw => ?_
    cases hw
    exact ⟨hs.sound, .refl _⟩
  | @claim i d command read now providerKey attemptID db' outcome reported hlane _ h =>
    obtain ⟨-, hl⟩ := hs.lanes _ _ _ hlane
    obtain ⟨r, -, hid, -, -, heffect⟩ := claim_effect hs.sound.keyed hl h
    refine hs.setLane hev rfl fun d' work hw => ?_
    cases hw
    cases reported with
    | false => trivial
    | true =>
      cases outcome with
      | resolved => trivial
      | started c => exact (heffect.held hid).imp fun _ h => h.1
  | claimFailed =>
    refine hs.setLane hev rfl fun d' work hw => ?_
    cases hw
    trivial
  | @buildFailed i d c _ _ hlane =>
    have hheld : ∃ a, c.HeldIn s.db a := hs.lanes _ _ _ hlane
    refine hs.setLane hev rfl fun d' work hw => ?_
    cases hw
    exact hheld
  | @callSubmit i d c _ _ hlane =>
    have hheld : ∃ a, c.HeldIn s.db a := hs.lanes _ _ _ hlane
    refine hs.setLane hev rfl fun d' work hw => ?_
    cases hw
    exact hheld
  | @submitReturned i d c _ _ hlane =>
    have hheld : ∃ a, c.HeldIn s.db a := hs.lanes _ _ _ hlane
    refine hs.setLane hev rfl fun d' work hw => ?_
    cases hw
    split
    · exact hheld
    · trivial
  | @readForFinalize i d c _ _ hlane =>
    have hheld : ∃ a, c.HeldIn s.db a := hs.lanes _ _ _ hlane
    refine hs.setLane hev rfl fun d' work hw => ?_
    cases hw
    exact ⟨hs.sound, .refl _, hheld⟩
  | finalize =>
    refine hs.setLane hev rfl fun d' work hw => ?_
    cases hw
    trivial
  | finalizeFailed =>
    refine hs.setLane hev rfl fun d' work hw => ?_
    cases hw
    trivial
  | @settle _ _ answer => cases answer <;> exact hs.setLane hev rfl fun _ _ hw => nomatch hw
  | laneLost => exact hs.setLane hev rfl fun _ _ hw => nomatch hw

theorem Initial.ok (h : Initial s) : s.Ok E := by
  obtain ⟨⟨tenants, hdb⟩, hlanes, -⟩ := h
  refine ⟨?_, fun i d work hw => by simp [hlanes] at hw⟩
  rw [hdb]
  exact ⟨⟨by simp [messageIDs], by simp [attemptIDs], by simp, by simp, by simp, by simp, by simp⟩,
    by simp, by simp, by simp, by simp⟩

theorem Reached.ok {h : History} (hr : Reached E h s) : s.Ok E :=
  hr.invariant (fun _ => Initial.ok) fun _ _ _ hs hstep => hstep.ok hs

/-- The state after a step of a run, and the state that the run has reached since. -/
theorem Reached.later {newer older : History} (hr : Reached E (newer ++ (action, s') :: older) s) :
    s'.db.Later s.db := by
  induction newer generalizing s with
  | nil =>
    cases hr
    exact .refl _
  | cons e newer ih =>
    cases hr with
    | next hr hstep => exact (ih hr).trans (hstep.evolves (Reached.ok hr)).later

/-! ## Terminal messages -/

section Terminal

variable {r : MessageRow}

/-- No move leads on from a terminal status. -/
theorem Change.terminal {L : Libs} {ids : Set Uuid} (h : Change L ids db db') (hr : r ∈ db.messages)
    (ht : r.snapshot.status.terminal = true) : r ∈ db'.messages := by
  cases h with
  | created hcreated =>
    rw [hcreated.messages]
    exact List.mem_append_left _ hr
  | @advanced now x m _ hadvance =>
    have hother : r ≠ x := by
      rintro rfl
      have hedge := hadvance.moved.edge
      have hnone := (Status.terminal_iff (valid_of_edge hedge).1).1 ht m.status
      exact Bool.false_ne_true (hnone.symm.trans hedge)
    rw [hadvance.messages]
    exact (Table.mem_exchange hadvance.mem).2 (.inr ⟨hr, hother⟩)

theorem Evolves.terminal (h : Evolves E db db') (hr : r ∈ db.messages)
    (ht : r.snapshot.status.terminal = true) :
    r ∈ db'.messages := by
  cases h with
  | changed h =>
    induction h with
    | refl => exact hr
    | tail _ h ih => exact h.terminal ih ht
  | relayed h =>
    rw [h.rest]
    exact hr

/-- A message in a terminal status is never changed again. -/
theorem Reached.terminal {newer older : History} (hr : Reached E (newer ++ (action, s') :: older) s)
    (hmem : r ∈ s'.db.messages) (ht : r.snapshot.status.terminal = true) : r ∈ s.db.messages := by
  induction newer generalizing s with
  | nil =>
    cases hr
    exact hmem
  | cons e newer ih =>
    cases hr with
    | next hr hstep => exact (hstep.evolves (Reached.ok hr)).terminal (ih hr) ht

end Terminal

end MailService
