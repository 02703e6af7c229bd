import MailService.Lib.Pool
import MailService.Lib.Runs
import MailService.Wire
/-!
# Lanes of the publisher

`publisher.go`: calls of `Publish` share a pool of lanes. A lane is a channel in confirm
mode and the buffer of one `Return` behind it, and it is used again after most results.
The broker answers in any order between channels; of one publication, a `Return` is
delivered before the confirm.

A call looks for its `Return` only after an ack. So a `Return` that came with a nack stays
in the buffer, and the next call on the lane finds it.
-/
open Runs Pools

namespace MailService

/-! ## State -/

/-- A `Return` in a buffer. The code reads the message's id; which publication it belongs
to is known to the broker only. -/
structure MandatoryReturn where
  messageID : String
  publication : Nat
  deriving DecidableEq, Repr

structure PublisherLane where
  connection : Option Nat
  channel : Option Nat
  deriving DecidableEq, Repr

/-- What the calls share: the pool, the lanes, and the connections and channels. -/
structure PublisherPool where
  lanes : List Nat
  lane : Nat → PublisherLane
  /-- The buffer behind a channel. -/
  returns : Nat → List MandatoryReturn
  channelClosed : Nat → Bool
  nextChannel : Nat
  connection : Option Nat
  connectionClosed : Nat → Bool
  nextConnection : Nat
  closed : Bool

/-- How far a call of `Publish` is. -/
inductive PublishState
  | entered
  | borrowing
  | borrowed (lane : Nat)
  | ready (lane : Nat)
  /-- In `publishBounded`, with its goroutine started. -/
  | publishing (lane : Nat)
  | waiting (lane : Nat)
  | acknowledged (lane : Nat)
  /-- About to give the lane back. -/
  | returning (lane : Nat) (reply : BrokerReply)
  | finished (result : Except PublishError Unit)

structure PublishCall where
  publication : OutboxPublication
  state : PublishState
  /-- The channel that `publishBounded` publishes on. -/
  started : Option Nat
  /-- What the broker did with the publication. -/
  sent : Bool
  returned : Bool
  confirmed : Option Bool

structure Publisher where
  pool : PublisherPool
  calls : Nat → Option PublishCall

namespace PublishState

def lane : PublishState → Option Nat
  | borrowed lane | ready lane | publishing lane | waiting lane | acknowledged lane
  | returning lane _ => some lane
  | entered | borrowing | finished _ => none

/-- The lane of a call whose publication may still be answered. -/
def active : PublishState → Option Nat
  | publishing lane | waiting lane | acknowledged lane => some lane
  | entered | borrowing | borrowed _ | ready _ | returning _ _ | finished _ => none

/-- Before the publication. -/
def early : PublishState → Bool
  | entered | borrowing | borrowed _ | ready _ => true
  | publishing _ | waiting _ | acknowledged _ | returning _ _ | finished _ => false

theorem lane_of_active {state : PublishState} {l : Nat} (h : state.active = some l) :
    state.lane = some l := by
  cases state <;> simp_all [active, lane]

end PublishState

namespace PublisherPool

/-- `forgetConnection`, which `abortConnection` begins with. -/
def forgetConnection (s : PublisherPool) (connection : Option Nat) : PublisherPool :=
  if connection ≠ none ∧ s.connection = connection then { s with connection := none } else s

def resetLane (s : PublisherPool) (lane : Nat) : PublisherPool :=
  { s with lane := Function.update s.lane lane ⟨none, none⟩ }

/-- `abortConnection` and `resetLane`. -/
def abortLane (s : PublisherPool) (lane : Nat) : PublisherPool :=
  (s.forgetConnection (s.lane lane).connection).resetLane lane

/-- `ensureLane` has a connection: the one that is there, or a new one. -/
inductive Connects : PublisherPool → Nat → PublisherPool → Prop
  | existing {s : PublisherPool} {connection : Nat} :
      s.connection = some connection → s.connectionClosed connection = false → Connects s connection s
  | dialed {s : PublisherPool} :
      (∀ connection, s.connection = some connection → s.connectionClosed connection = true) →
      Connects s s.nextConnection { s with
        connection := some s.nextConnection, nextConnection := s.nextConnection + 1
        connectionClosed := Function.update s.connectionClosed s.nextConnection false }

/-- The lane's own channel is still good. -/
def Reusable (s : PublisherPool) (connection lane : Nat) : Prop :=
  (s.lane lane).connection = some connection ∧
    ∃ channel, (s.lane lane).channel = some channel ∧ s.channelClosed channel = false

/-- A new channel with confirms and an empty buffer. -/
def openLane (s : PublisherPool) (connection lane : Nat) : PublisherPool :=
  { s with
    lane := Function.update s.lane lane ⟨some connection, some s.nextChannel⟩
    returns := Function.update s.returns s.nextChannel []
    channelClosed := Function.update s.channelClosed s.nextChannel false
    nextChannel := s.nextChannel + 1 }

end PublisherPool

/-! ## Steps -/

/-- `Publish` gets as far as the pool. -/
def publishable (config : PublisherConfig) (p : OutboxPublication) : Prop :=
  validPublication p = true ∧ config.routes p.event.eventType ≠ none

/-- One atomic step of a call. -/
inductive PublishStep (config : PublisherConfig) :
    PublisherPool → PublishCall → PublisherPool → PublishCall → Prop
  | rejected {s : PublisherPool} {c : PublishCall} {reply : BrokerReply} : c.state = .entered →
      ¬ publishable config c.publication →
      PublishStep config s c s { c with state := .finished (publish config c.publication reply).2 }
  | accepted {s : PublisherPool} {c : PublishCall} : c.state = .entered → publishable config c.publication →
      PublishStep config s c s { c with state := .borrowing }
  -- borrowLane
  | borrowEnded {s : PublisherPool} {c : PublishCall} : c.state = .borrowing →
      PublishStep config s c s { c with state := .finished (publish config c.publication .contextEnded).2 }
  | borrowClosed {s : PublisherPool} {c : PublishCall} : c.state = .borrowing → s.closed = true →
      PublishStep config s c s { c with state := .finished (publish config c.publication .closed).2 }
  | borrow {s : PublisherPool} {c : PublishCall} {lane : Nat} {rest : List Nat} : c.state = .borrowing →
      s.lanes = lane :: rest →
      PublishStep config s c { s with lanes := rest } { c with state := .borrowed lane }
  -- ensureLane
  | ensureClosed {s : PublisherPool} {c : PublishCall} {lane : Nat} : c.state = .borrowed lane →
      s.closed = true →
      PublishStep config s c s { c with state := .returning lane .closed }
  | dialFailed {s : PublisherPool} {c : PublishCall} {lane : Nat} {reply : BrokerReply} :
      c.state = .borrowed lane →
      s.closed = false → (∀ connection, s.connection = some connection →
        s.connectionClosed connection = true) →
      reply = .unavailable ∨ reply = .topology →
      PublishStep config s c s { c with state := .returning lane reply }
  | reused {s s' : PublisherPool} {c : PublishCall} {lane connection : Nat} : c.state = .borrowed lane →
      s.closed = false → s.Connects connection s' → s'.Reusable connection lane →
      PublishStep config s c s' { c with state := .ready lane }
  | openFailed {s s' s'' : PublisherPool} {c : PublishCall} {lane connection : Nat} :
      c.state = .borrowed lane →
      s.closed = false → s.Connects connection s' → ¬ s'.Reusable connection lane →
      s'' = s' ∨ s'' = s'.forgetConnection (some connection) →
      PublishStep config s c s'' { c with state := .returning lane .unavailable }
  | opened {s s' : PublisherPool} {c : PublishCall} {lane connection : Nat} : c.state = .borrowed lane →
      s.closed = false → s.Connects connection s' → ¬ s'.Reusable connection lane →
      PublishStep config s c (s'.openLane connection lane) { c with state := .ready lane }
  -- publishBounded
  | start {s : PublisherPool} {c : PublishCall} {lane channel : Nat} : c.state = .ready lane →
      (s.lane lane).channel = some channel →
      PublishStep config s c s { c with state := .publishing lane, started := some channel }
  | publishEnded {s : PublisherPool} {c : PublishCall} {lane : Nat} : c.state = .publishing lane →
      PublishStep config s c (s.abortLane lane) { c with state := .returning lane .contextEnded }
  | publishFailed {s s' : PublisherPool} {c : PublishCall} {lane : Nat} : c.state = .publishing lane →
      s' = s ∨ s' = s.forgetConnection (s.lane lane).connection →
      PublishStep config s c (s'.resetLane lane) { c with state := .returning lane .publish }
  | noConfirmation {s : PublisherPool} {c : PublishCall} {lane : Nat} : c.state = .publishing lane →
      PublishStep config s c (s.abortLane lane) { c with state := .returning lane .confirmMissing }
  | published {s : PublisherPool} {c : PublishCall} {lane : Nat} : c.state = .publishing lane →
      c.sent = true →
      PublishStep config s c s { c with state := .waiting lane }
  -- WaitContext
  | waitEnded {s : PublisherPool} {c : PublishCall} {lane : Nat} : c.state = .waiting lane →
      PublishStep config s c (s.abortLane lane) { c with state := .returning lane .contextEnded }
  | nacked {s : PublisherPool} {c : PublishCall} {lane : Nat} : c.state = .waiting lane →
      c.confirmed = some false →
      PublishStep config s c s { c with state := .returning lane .nack }
  | acked {s : PublisherPool} {c : PublishCall} {lane : Nat} : c.state = .waiting lane →
      c.confirmed = some true →
      PublishStep config s c s { c with state := .acknowledged lane }
  -- the select on `returns`
  | noReturn {s : PublisherPool} {c : PublishCall} {lane channel : Nat} : c.state = .acknowledged lane →
      (s.lane lane).channel = some channel → s.returns channel = [] →
      PublishStep config s c s { c with state := .returning lane (.ack none) }
  | unroutable {s : PublisherPool} {c : PublishCall} {lane channel : Nat} {r : MandatoryReturn}
      {rest : List MandatoryReturn} : c.state = .acknowledged lane → (s.lane lane).channel = some channel →
      s.returns channel = r :: rest → r.messageID = c.publication.event.id →
      PublishStep config s c { s with returns := Function.update s.returns channel rest }
        { c with state := .returning lane (.ack (some r.messageID)) }
  | mismatched {s : PublisherPool} {c : PublishCall} {lane channel : Nat} {r : MandatoryReturn}
      {rest : List MandatoryReturn} : c.state = .acknowledged lane → (s.lane lane).channel = some channel →
      s.returns channel = r :: rest → r.messageID ≠ c.publication.event.id →
      PublishStep config s c ({ s with returns := Function.update s.returns channel rest }.abortLane lane)
        { c with state := .returning lane (.ack (some r.messageID)) }
  | giveBack {s : PublisherPool} {c : PublishCall} {lane : Nat} {reply : BrokerReply} :
      c.state = .returning lane reply →
      PublishStep config s c { s with lanes := s.lanes ++ [lane] }
        { c with state := .finished (publish config c.publication reply).2 }

inductive Publisher.Action
  | publish (call : Nat)
  | step (call : Nat)
  /-- The goroutine of a call hands its message to the broker. -/
  | transmit (call : Nat)
  | brokerReturns (call : Nat)
  | brokerConfirms (call : Nat) (ack : Bool)
  | channelCloses (channel : Nat)
  | connectionCloses (connection : Nat)
  | close
  deriving DecidableEq, Repr

def Publisher.set (p : Publisher) (i : Nat) (c : PublishCall) : Publisher :=
  { p with calls := Function.update p.calls i (some c) }

inductive Publisher.Step (config : PublisherConfig) : Publisher → Publisher.Action → Publisher → Prop
  | publish {p : Publisher} {i : Nat} {publication : OutboxPublication} : p.calls i = none →
      Step config p (.publish i) (p.set i ⟨publication, .entered, none, false, false, none⟩)
  | step {p : Publisher} {i : Nat} {c c' : PublishCall} {s' : PublisherPool} : p.calls i = some c →
      PublishStep config p.pool c s' c' → Step config p (.step i) ({ p with pool := s' }.set i c')
  | transmit {p : Publisher} {i : Nat} {c : PublishCall} : p.calls i = some c → c.started ≠ none →
      Step config p (.transmit i) (p.set i { c with sent := true })
  /-- The broker returns a message at most once, before its confirm, and waits while the
  buffer is full. -/
  | brokerReturns {p : Publisher} {i channel : Nat} {c : PublishCall} : p.calls i = some c → c.sent = true →
      c.started = some channel → c.returned = false → c.confirmed = none → p.pool.returns channel = [] →
      Step config p (.brokerReturns i)
        ({ p with pool := { p.pool with
            returns := Function.update p.pool.returns channel [⟨c.publication.event.id, i⟩] } }.set i
          { c with returned := true })
  | brokerConfirms {p : Publisher} {i : Nat} {c : PublishCall} {ack : Bool} : p.calls i = some c →
      c.sent = true →
      c.confirmed = none → Step config p (.brokerConfirms i ack) (p.set i { c with confirmed := some ack })
  | channelCloses {p : Publisher} {channel : Nat} : Step config p (.channelCloses channel)
      { p with pool := { p.pool with channelClosed := Function.update p.pool.channelClosed channel true } }
  | connectionCloses {p : Publisher} {connection : Nat} : Step config p (.connectionCloses connection)
      { p with pool := { p.pool with connectionClosed := Function.update p.pool.connectionClosed connection true } }
  | close {p : Publisher} :
      Step config p .close { p with pool := { p.pool with closed := true, connection := none } }

/-- `New`: lanes without a channel. -/
def Publisher.new (poolSize : Nat) : Publisher where
  pool := ⟨List.range poolSize, fun _ => ⟨none, none⟩, fun _ => [], fun _ => false, 0, none,
    fun _ => false, 0, false⟩
  calls _ := none

abbrev Publisher.Reached (config : PublisherConfig) (poolSize : Nat)
    (history : List (Publisher.Action × Publisher)) (p : Publisher) : Prop :=
    Run (· = Publisher.new poolSize) (Publisher.Step config) history p

/-! ## What a step of a call does -/

variable {config : PublisherConfig} {s s' : PublisherPool} {c c' : PublishCall} {p p' : Publisher}
  {i lane channel : Nat}

/-- The parts of the pool that lanes and returns live in. -/
structure PublisherPool.Same (s s' : PublisherPool) : Prop where
  lanes : s'.lanes = s.lanes
  lane : s'.lane = s.lane
  returns : s'.returns = s.returns
  nextChannel : s'.nextChannel = s.nextChannel

theorem PublisherPool.Same.refl (s : PublisherPool) : s.Same s := ⟨rfl, rfl, rfl, rfl⟩

theorem PublisherPool.Same.trans {s'' : PublisherPool} (h : s.Same s') (h' : s'.Same s'') : s.Same s'' :=
  ⟨h'.lanes.trans h.lanes, h'.lane.trans h.lane, h'.returns.trans h.returns,
    h'.nextChannel.trans h.nextChannel⟩

theorem PublisherPool.forgetConnection_same (s : PublisherPool) (connection : Option Nat) :
    s.Same (s.forgetConnection connection) := by
  unfold forgetConnection
  split <;> exact ⟨rfl, rfl, rfl, rfl⟩

theorem PublisherPool.Connects.same {connection : Nat} (h : s.Connects connection s') : s.Same s' := by
  cases h <;> exact ⟨rfl, rfl, rfl, rfl⟩

/-- The call's record, apart from its state. -/
structure PublishCall.SameRecord (c c' : PublishCall) : Prop where
  publication : c'.publication = c.publication
  started : c'.started = c.started
  sent : c'.sent = c.sent
  returned : c'.returned = c.returned
  confirmed : c'.confirmed = c.confirmed

/-- The few kinds of steps. -/
inductive PublishEffect (config : PublisherConfig) (s : PublisherPool) (c : PublishCall) (s' : PublisherPool)
    (c' : PublishCall) : Prop
  /-- Nothing is borrowed, published or answered. -/
  | quiet (pool : s.Same s') (record : c.SameRecord c') (lane : c'.state.lane = c.state.lane)
      (active : c'.state.active = c.state.active) (early : c'.state.early = true → c.state.early = true)
      (acked : ∀ l, c'.state = .acknowledged l → c.confirmed = some true)
      (reply : ∀ l r, c'.state = .returning l r → ∀ id, r ≠ .ack id)
      (result : ∀ r, c'.state = .finished r → r ≠ .ok () ∧ r ≠ .error (.typed "RABBITMQ_UNROUTABLE" false))
  | borrowed (l : Nat) (rest : List Nat) (state : c.state = .borrowing) (lanes : s.lanes = l :: rest)
      (pool : s' = { s with lanes := rest }) (call : c' = { c with state := .borrowed l })
  | gaveBack (l : Nat) (reply : BrokerReply) (state : c.state = .returning l reply)
      (pool : s' = { s with lanes := s.lanes ++ [l] })
      (call : c' = { c with state := .finished (publish config c.publication reply).2 })
  | opened (l connection : Nat) (between : PublisherPool) (state : c.state = .borrowed l)
      (same : s.Same between) (pool : s' = between.openLane connection l)
      (call : c' = { c with state := .ready l })
  | started (l ch : Nat) (state : c.state = .ready l)
      (attached : (s.lane l).channel = some ch) (pool : s' = s)
      (call : c' = { c with state := .publishing l, started := some ch })
  /-- The lane loses its channel. -/
  | detached (l : Nat) (reply : BrokerReply) (active : c.state.active = some l) (between : PublisherPool)
      (lanes : between.lanes = s.lanes) (lane : between.lane = s.lane)
      (nextChannel : between.nextChannel = s.nextChannel)
      (returns : ∀ ch, (s.lane l).channel ≠ some ch → between.returns ch = s.returns ch)
      (pool : s' = between.resetLane l) (call : c' = { c with state := .returning l reply })
      (reply_ne : reply ≠ .ack none ∧ reply ≠ .ack (some c.publication.event.id))
  | nacked (l : Nat) (state : c.state = .waiting l) (confirmed : c.confirmed = some false) (pool : s' = s)
      (call : c' = { c with state := .returning l .nack })
  | clean (l ch : Nat) (state : c.state = .acknowledged l) (attached : (s.lane l).channel = some ch)
      (returns : s.returns ch = []) (pool : s' = s) (call : c' = { c with state := .returning l (.ack none) })
  | unroutable (l ch : Nat) (r : MandatoryReturn) (rest : List MandatoryReturn)
      (state : c.state = .acknowledged l) (attached : (s.lane l).channel = some ch)
      (returns : s.returns ch = r :: rest) (id : r.messageID = c.publication.event.id)
      (pool : s' = { s with returns := Function.update s.returns ch rest })
      (call : c' = { c with state := .returning l (.ack (some r.messageID)) })

theorem publish_ok {p : OutboxPublication} {reply : BrokerReply} (h : (publish config p reply).2 = .ok ()) :
    reply = .ack none := by
  unfold publish at h
  split at h
  · cases h
  split at h
  · cases h
  · unfold publishReply at h
    split at h
    all_goals try cases h
    · rfl
    · split at h <;> cases h

theorem publish_unroutable {p : OutboxPublication} {reply : BrokerReply}
    (h : (publish config p reply).2 = .error (.typed "RABBITMQ_UNROUTABLE" false)) :
    reply = .ack (some p.event.id) := by
  unfold publish at h
  split at h
  · simp at h
  split at h
  · simp at h
  · unfold publishReply at h
    split at h
    all_goals simp at h
    rw [h]

theorem publish_rejected {p : OutboxPublication} (h : ¬ publishable config p) (reply : BrokerReply) :
    (publish config p reply).2 ≠ .ok () ∧
      (publish config p reply).2 ≠ .error (.typed "RABBITMQ_UNROUTABLE" false) := by
  unfold publish
  split
  · simp
  · rename_i hv
    have hroutes : config.routes p.event.eventType = none := by
      by_contra hne
      exact h ⟨by simpa using hv, hne⟩
    rw [hroutes]
    simp

theorem PublishStep.effect (h : PublishStep config s c s' c') : PublishEffect config s c s' c' := by
  cases h with
  | @rejected _ reply hstate hrej =>
    refine .quiet (.refl s) ⟨rfl, rfl, rfl, rfl, rfl⟩ (by simp [hstate, PublishState.lane])
      (by simp [hstate, PublishState.active]) (by simp [PublishState.early]) nofun nofun ?_
    rintro r hr
    cases hr
    exact publish_rejected hrej reply
  | accepted hstate =>
    exact .quiet (.refl s) ⟨rfl, rfl, rfl, rfl, rfl⟩ (by simp [hstate, PublishState.lane])
      (by simp [hstate, PublishState.active]) (by simp [hstate, PublishState.early]) nofun nofun nofun
  | borrowEnded hstate =>
    refine .quiet (.refl s) ⟨rfl, rfl, rfl, rfl, rfl⟩ (by simp [hstate, PublishState.lane])
      (by simp [hstate, PublishState.active]) (by simp [PublishState.early]) nofun nofun ?_
    rintro r hr
    cases hr
    exact ⟨fun h => (nomatch publish_ok h), fun h => (nomatch publish_unroutable h)⟩
  | borrowClosed hstate =>
    refine .quiet (.refl s) ⟨rfl, rfl, rfl, rfl, rfl⟩ (by simp [hstate, PublishState.lane])
      (by simp [hstate, PublishState.active]) (by simp [PublishState.early]) nofun nofun ?_
    rintro r hr
    cases hr
    exact ⟨fun h => (nomatch publish_ok h), fun h => (nomatch publish_unroutable h)⟩
  | borrow hstate hlanes => exact .borrowed _ _ hstate hlanes rfl rfl
  | ensureClosed hstate =>
    refine .quiet (.refl s) ⟨rfl, rfl, rfl, rfl, rfl⟩ (by simp [hstate, PublishState.lane])
      (by simp [hstate, PublishState.active]) (by simp [PublishState.early]) nofun ?_ nofun
    rintro l r hr id
    cases hr
    simp
  | dialFailed hstate _ _ hreply =>
    refine .quiet (.refl s) ⟨rfl, rfl, rfl, rfl, rfl⟩ (by simp [hstate, PublishState.lane])
      (by simp [hstate, PublishState.active]) (by simp [PublishState.early]) nofun ?_ nofun
    rintro l r hr id
    cases hr
    obtain rfl | rfl := hreply <;> simp
  | reused hstate _ hconnects =>
    exact .quiet hconnects.same ⟨rfl, rfl, rfl, rfl, rfl⟩ (by simp [hstate, PublishState.lane])
      (by simp [hstate, PublishState.active]) (by simp [hstate, PublishState.early]) nofun nofun nofun
  | @openFailed between _ _ lane connection hstate _ hconnects _ hpool =>
    have hsame : s.Same s' := by
      obtain rfl | rfl := hpool
      · exact hconnects.same
      · exact hconnects.same.trans (between.forgetConnection_same _)
    refine .quiet hsame ⟨rfl, rfl, rfl, rfl, rfl⟩ (by simp [hstate, PublishState.lane])
      (by simp [hstate, PublishState.active]) (by simp [PublishState.early]) nofun ?_ nofun
    rintro l r hr id
    cases hr
    simp
  | opened hstate _ hconnects => exact .opened _ _ _ hstate hconnects.same rfl rfl
  | start hstate hattached => exact .started _ _ hstate hattached rfl rfl
  | @publishEnded _ lane hstate | @noConfirmation _ lane hstate | @waitEnded _ lane hstate =>
    have hsame := s.forgetConnection_same (s.lane lane).connection
    exact .detached lane _ (by simp [hstate, PublishState.active]) _ hsame.lanes hsame.lane hsame.nextChannel
      (fun ch _ => congrFun hsame.returns ch) rfl rfl (by simp)
  | @publishFailed between _ lane hstate hpool =>
    have hsame : s.Same between := by
      obtain rfl | rfl := hpool
      · exact .refl _
      · exact s.forgetConnection_same _
    exact .detached lane _ (by simp [hstate, PublishState.active]) _ hsame.lanes hsame.lane hsame.nextChannel
      (fun ch _ => congrFun hsame.returns ch) rfl rfl (by simp)
  | published hstate =>
    exact .quiet (.refl s) ⟨rfl, rfl, rfl, rfl, rfl⟩ (by simp [hstate, PublishState.lane])
      (by simp [hstate, PublishState.active]) (by simp [PublishState.early]) nofun nofun nofun
  | nacked hstate hconfirmed => exact .nacked _ hstate hconfirmed rfl rfl
  | acked hstate hconfirmed =>
    exact .quiet (.refl s) ⟨rfl, rfl, rfl, rfl, rfl⟩ (by simp [hstate, PublishState.lane])
      (by simp [hstate, PublishState.active]) (by simp [PublishState.early])
        (fun _ _ => hconfirmed) nofun nofun
  | noReturn hstate hattached hreturns => exact .clean _ _ hstate hattached hreturns rfl rfl
  | unroutable hstate hattached hreturns hid =>
    exact .unroutable _ _ _ _ hstate hattached hreturns hid rfl rfl
  | @mismatched _ lane channel r rest hstate hattached hreturns hid =>
    have hsame := { s with returns := Function.update s.returns channel rest }.forgetConnection_same
      (s.lane lane).connection
    refine .detached lane _ (by simp [hstate, PublishState.active]) _ hsame.lanes hsame.lane
      hsame.nextChannel ?_ rfl
      rfl ⟨by simp, by simpa using hid⟩
    intro ch hch
    rw [hsame.returns]
    refine Function.update_of_ne ?_ _ _
    rintro rfl
    exact hch hattached
  | giveBack hstate => exact .gaveBack _ _ hstate rfl rfl

/-! ## Who a return belongs to -/

namespace Publisher

/-- The lane that a call holds. -/
def held (p : Publisher) (i : Nat) : Option Nat := (p.calls i).bind (·.state.lane)

/-- A message with this id was both returned and nacked. -/
def Leftover (p : Publisher) (id : String) : Prop :=
  ∃ j c, p.calls j = some c ∧ c.publication.event.id = id ∧ c.returned = true ∧ c.confirmed = some false

/-- The channel of a lane: one lane's only, every publication on it but the running one
was answered, and its buffer has the return of the running one or of one that was nacked. -/
structure Attached (p : Publisher) (l ch : Nat) : Prop where
  owned : ∀ l', (p.pool.lane l').channel = some ch → l' = l
  answered : ∀ i c, p.calls i = some c → c.started = some ch → c.state.active = some l ∨ c.confirmed ≠ none
  returns : ∀ r ∈ p.pool.returns ch, ∃ c, p.calls r.publication = some c ∧
    c.started = some ch ∧ c.returned = true ∧
    c.publication.event.id = r.messageID ∧ (c.state.active = some l ∨ c.confirmed = some false)
  capacity : (p.pool.returns ch).length ≤ 1
  own : ∀ i c, p.calls i = some c → c.state.active = some l → c.returned = true →
    ∃ r ∈ p.pool.returns ch, r.publication = i

/-- What a result says: nil that the message was acked and not returned, unroutable that
it was returned or that a return was left over. -/
def Told (p : Publisher) (c : PublishCall) (ok unroutable : Prop) : Prop :=
  (ok → c.confirmed = some true ∧ c.returned = false) ∧
    (unroutable → c.returned = true ∨ p.Leftover c.publication.event.id)

structure CallSound (p : Publisher) (c : PublishCall) : Prop where
  unstarted : c.started = none → c.sent = false ∧ c.returned = false ∧ c.confirmed = none
  early : c.state.early = true → c.started = none
  active : ∀ l, c.state.active = some l → ∃ ch, c.started = some ch ∧ (p.pool.lane l).channel = some ch
  acked : ∀ l, c.state = .acknowledged l → c.confirmed = some true
  reply : ∀ l r, c.state = .returning l r → p.Told c (r = .ack none) (r = .ack (some c.publication.event.id))
  result : ∀ r, c.state = .finished r →
    p.Told c (r = .ok ()) (r = .error (.typed "RABBITMQ_UNROUTABLE" false))

structure Sound (poolSize : Nat) (p : Publisher) : Prop where
  exclusive : Exclusive poolSize p.pool.lanes p.held
  lanesFresh : ∀ l ch, (p.pool.lane l).channel = some ch → ch < p.pool.nextChannel
  callsFresh : ∀ i c ch, p.calls i = some c → c.started = some ch → ch < p.pool.nextChannel
  attached : ∀ l ch, (p.pool.lane l).channel = some ch → p.Attached l ch
  calls : ∀ i c, p.calls i = some c → p.CallSound c

variable {poolSize l ch : Nat}

@[simp] theorem set_calls_self : (p.set i c).calls i = some c := Function.update_self _ _ _

theorem set_calls_of_ne {j : Nat} (h : j ≠ i) : (p.set i c).calls j = p.calls j := Function.update_of_ne h _ _

@[simp] theorem set_pool : (p.set i c).pool = p.pool := rfl

theorem held_set (p : Publisher) (i : Nat) (c : PublishCall) :
    (p.set i c).held = Function.update p.held i c.state.lane := by
  funext j
  by_cases hj : j = i
  · subst hj
    simp [held]
  · rw [Function.update_of_ne hj, held, set_calls_of_ne hj, held]

/-- A call after the change of another. -/
theorem forall_set {P : Nat → PublishCall → Prop} (hi : P i c')
    (hj : ∀ j c, j ≠ i → p.calls j = some c → P j c) :
    ∀ j c, (p.set i c').calls j = some c → P j c := by
  intro j c hc
  by_cases hji : j = i
  · subst hji
    rw [set_calls_self, Option.some.injEq] at hc
    exact hc ▸ hi
  · rw [set_calls_of_ne hji] at hc
    exact hj j c hji hc

/-- What the broker has done stays done. -/
theorem Leftover.set {id : String} (h : p.Leftover id) (hi : p.calls i = some c)
    (hpublication : c'.publication = c.publication) (hreturned : c.returned = true → c'.returned = true)
    (hconfirmed : c.confirmed = some false → c'.confirmed = some false) : (p.set i c').Leftover id := by
  obtain ⟨j, d, hd, hid, hr, hc⟩ := h
  by_cases hj : j = i
  · subst hj
    obtain rfl : c = d := by simpa [hi] using hd
    exact ⟨j, c', set_calls_self, by rw [hpublication, hid], hreturned hr, hconfirmed hc⟩
  · exact ⟨j, d, by rwa [set_calls_of_ne hj], hid, hr, hc⟩

theorem CallSound.other (h : p.CallSound c)
    (hlane : ∀ l, c.state.active = some l → p'.pool.lane l = p.pool.lane l)
    (hleft : ∀ id, p.Leftover id → p'.Leftover id) : p'.CallSound c := by
  refine ⟨h.unstarted, h.early, ?_, h.acked, ?_, ?_⟩
  · intro l hl
    rw [hlane l hl]
    exact h.active l hl
  · exact fun l r hr => ⟨(h.reply l r hr).1, fun hu => ((h.reply l r hr).2 hu).imp_right (hleft _)⟩
  · exact fun r hr => ⟨(h.result r hr).1, fun hu => ((h.result r hr).2 hu).imp_right (hleft _)⟩

/-- A channel that the changed call has nothing to do with. -/
theorem Attached.untouched (h : p.Attached l ch) (hpool : ∀ l', (p'.pool.lane l').channel = some ch → l' = l)
    (hreturns : p'.pool.returns ch = p.pool.returns ch)
    (hcalls : p'.calls = Function.update p.calls i (some c'))
    (hbefore : ∀ c, p.calls i = some c → c.started ≠ some ch) (hafter : c'.started ≠ some ch)
    (hactive : c'.state.active ≠ some l) : p'.Attached l ch := by
  have hall {P : Nat → PublishCall → Prop} (hi : P i c') (hj : ∀ j c, p.calls j = some c → P j c) :
      ∀ j c, p'.calls j = some c → P j c := by
    rw [hcalls]
    exact forall_set (p := p) hi fun j c _ => hj j c
  refine ⟨hpool, hall (fun hs => absurd hs hafter) h.answered, ?_, by rw [hreturns]; exact h.capacity, ?_⟩
  · intro r hr
    rw [hreturns] at hr
    obtain ⟨c, hc, hs, hrest⟩ := h.returns r hr
    refine ⟨c, ?_, hs, hrest⟩
    rw [hcalls, Function.update_of_ne]
    · exact hc
    · rintro rfl
      exact hbefore c hc hs
  · rw [hreturns]
    exact hall (fun ha => absurd ha hactive) h.own

/-- A channel while a call changes that keeps its record and its place. -/
theorem Attached.same (h : p.Attached l ch) (hpool : ∀ l', (p'.pool.lane l').channel = some ch → l' = l)
    (hreturns : p'.pool.returns ch = p.pool.returns ch)
    (hcalls : p'.calls = Function.update p.calls i (some c')) (hi : p.calls i = some c)
    (hpublication : c'.publication = c.publication) (hstarted : c'.started = c.started)
    (hreturned : c'.returned = c.returned) (hconfirmed : c'.confirmed = c.confirmed ∨ c.confirmed = none)
    (hset : c.confirmed ≠ none → c'.confirmed ≠ none) (hactive : c'.state.active = c.state.active) :
    p'.Attached l ch := by
  have hall {P : Nat → PublishCall → Prop} (hi' : P i c → P i c') (hj : ∀ j c, p.calls j = some c → P j c) :
      ∀ j c, p'.calls j = some c → P j c := by
    rw [hcalls]
    exact forall_set (p := p) (hi' (hj i c hi)) fun j c _ => hj j c
  refine ⟨hpool, hall ?_ h.answered, ?_, by rw [hreturns]; exact h.capacity, ?_⟩
  · rw [hstarted, hactive]
    exact fun hold hs => (hold hs).imp_right hset
  · intro r hr
    rw [hreturns] at hr
    obtain ⟨d, hd, hs, hret, hid, hwhy⟩ := h.returns r hr
    by_cases hri : r.publication = i
    · obtain rfl : c = d := by simpa [hri, hi] using hd
      refine ⟨c', by rw [hcalls, hri, Function.update_self], hstarted.trans hs, hreturned.trans hret,
        by rw [hpublication, hid], ?_⟩
      rw [hactive]
      rcases hwhy with hwhy | hwhy
      · exact .inl hwhy
      · refine .inr (hconfirmed.elim (fun he => he.trans hwhy) fun he => ?_)
        rw [he] at hwhy
        cases hwhy
    · exact ⟨d, by rw [hcalls, Function.update_of_ne hri]; exact hd, hs, hret, hid, hwhy⟩
  · rw [hreturns]
    refine hall ?_ h.own
    rw [hactive, hreturned]
    exact id

/-- A channel when the call that ran on it leaves with its answer. -/
theorem Attached.left (h : p.Attached l ch) (hpool : ∀ l', (p'.pool.lane l').channel = some ch → l' = l)
    (hreturns : List.Sublist (p'.pool.returns ch) (p.pool.returns ch))
    (hcalls : p'.calls = Function.update p.calls i (some c')) (hi : p.calls i = some c)
    (hrecord : c.SameRecord c') (hconfirmed : c.confirmed ≠ none)
    (hmine : ∀ r ∈ p'.pool.returns ch, r.publication = i → c.confirmed = some false)
    (halone : ∀ j d, p.calls j = some d → d.state.active = some l → j = i)
    (hactive : c'.state.active ≠ some l) :
    p'.Attached l ch := by
  have hset : ∀ j d, p'.calls j = some d → (j = i ∧ d = c') ∨ (j ≠ i ∧ p.calls j = some d) := by
    rw [hcalls]
    exact forall_set (p := p)
        (P := fun j d => (j = i ∧ d = c') ∨ (j ≠ i ∧ p.calls j = some d)) (.inl ⟨rfl, rfl⟩)
      fun j d hj hd => .inr ⟨hj, hd⟩
  refine ⟨hpool, ?_, ?_, Nat.le_trans hreturns.length_le h.capacity, ?_⟩
  · intro j d hd hs
    rcases hset j d hd with ⟨-, rfl⟩ | ⟨-, hd⟩
    · exact .inr (hrecord.confirmed ▸ hconfirmed)
    · exact h.answered j d hd hs
  · intro r hr
    obtain ⟨d, hd, hs, hret, hid, hwhy⟩ := h.returns r (hreturns.subset hr)
    by_cases hri : r.publication = i
    · obtain rfl : c = d := by simpa [hri, hi] using hd
      exact ⟨c', by rw [hcalls, hri, Function.update_self], hrecord.started.trans hs,
        hrecord.returned.trans hret, by rw [hrecord.publication, hid],
        .inr (hrecord.confirmed.trans (hmine r hr hri))⟩
    · exact ⟨d, by rw [hcalls, Function.update_of_ne hri]; exact hd, hs, hret, hid, hwhy⟩
  · intro j d hd ha
    rcases hset j d hd with ⟨-, rfl⟩ | ⟨hj, hd⟩
    · exact absurd ha hactive
    · exact absurd (halone j d hd ha) hj

/-- Only one call can be active on a lane. -/
theorem Sound.alone (h : p.Sound poolSize) (hi : p.calls i = some c) (hl : c.state.lane = some l) :
    ∀ j d, p.calls j = some d → d.state.active = some l → j = i := by
  intro j d hd ha
  refine h.exclusive.single j i l ?_ ?_
  · simp [held, hd, PublishState.lane_of_active ha]
  · simp [held, hi, hl]

theorem held_of_calls (hi : p.calls i = some c) : p.held i = c.state.lane := by simp [held, hi]

/-- The other calls, when a call moves on without an answer of the broker. -/
theorem Sound.others (h : p.Sound poolSize) (hi : p.calls i = some c) (hrecord : c.SameRecord c')
    (hlane : ∀ j d l, j ≠ i → p.calls j = some d → d.state.active = some l → s'.lane l = p.pool.lane l)
    (hc' : ({ p with pool := s' }.set i c').CallSound c') :
    ∀ j d, ({ p with pool := s' }.set i c').calls j = some d →
      ({ p with pool := s' }.set i c').CallSound d := by
  refine forall_set (p := { p with pool := s' })
      (P := fun _ d => ({ p with pool := s' }.set i c').CallSound d) hc' ?_
  intro j d hj hd
  refine (h.calls j d hd).other (fun l hl => hlane j d l hj hd hl) fun id hleft => ?_
  exact Leftover.set (p := { p with pool := s' }) hleft hi hrecord.publication
    (fun hr => hrecord.returned.trans hr) fun hr => hrecord.confirmed.trans hr

theorem Sound.callsFresh_set (h : p.Sound poolSize) (hle : p.pool.nextChannel ≤ s'.nextChannel)
    (hc' : ∀ ch, c'.started = some ch → ch < s'.nextChannel) :
    ∀ j d ch, ({ p with pool := s' }.set i c').calls j = some d → d.started = some ch →
      ch < s'.nextChannel := by
  intro j d ch hd
  exact forall_set (p := { p with pool := s' })
      (P := fun _ d => d.started = some ch → ch < s'.nextChannel) (hc' ch)
    (fun k d _ hd hs => Nat.lt_of_lt_of_le (h.callsFresh k d ch hd hs) hle) j d hd

theorem Sound.quiet (h : p.Sound poolSize) (hi : p.calls i = some c) (hpool : p.pool.Same s')
    (hrecord : c.SameRecord c') (hlane : c'.state.lane = c.state.lane)
    (hactive : c'.state.active = c.state.active) (hc' : ({ p with pool := s' }.set i c').CallSound c') :
    ({ p with pool := s' }.set i c').Sound poolSize := by
  refine ⟨?_, ?_, ?_, ?_, ?_⟩
  · have hheld : Function.update p.held i c'.state.lane = p.held := by
      rw [hlane, ← held_of_calls hi, Function.update_eq_self]
    rw [held_set]
    change Exclusive poolSize s'.lanes (Function.update p.held i c'.state.lane)
    rw [hheld, hpool.lanes]
    exact h.exclusive
  · intro l ch hl
    change ch < s'.nextChannel
    rw [hpool.nextChannel]
    exact h.lanesFresh l ch (by rw [← hpool.lane]; exact hl)
  · refine h.callsFresh_set (Nat.le_of_eq hpool.nextChannel.symm) fun ch hs => ?_
    rw [hpool.nextChannel]
    exact h.callsFresh i c ch hi (hrecord.started ▸ hs)
  · intro l ch hl
    have hold : (p.pool.lane l).channel = some ch := by rw [← hpool.lane]; exact hl
    refine (h.attached l ch hold).same ?_
      (congrFun hpool.returns ch) rfl hi hrecord.publication hrecord.started
      hrecord.returned (.inl hrecord.confirmed) (by rw [hrecord.confirmed]; exact id) hactive
    intro l' hl'
    exact (h.attached l ch hold).owned l' (by rw [← hpool.lane]; exact hl')
  · exact h.others hi hrecord (fun _ _ l _ _ _ => congrFun hpool.lane l) hc'

theorem Sound.borrowed {rest : List Nat} (h : p.Sound poolSize) (hi : p.calls i = some c)
    (hstate : c.state = .borrowing) (hlanes : p.pool.lanes = l :: rest) :
    ({ p with pool := { p.pool with lanes := rest } }.set i { c with state := .borrowed l }).Sound
      poolSize := by
  have hsound := h.calls i c hi
  refine ⟨?_, h.lanesFresh, ?_, ?_, ?_⟩
  · rw [held_set]
    refine Exclusive.take (hlanes ▸ h.exclusive) ?_
    change p.held i = none
    rw [held_of_calls hi, hstate]
    rfl
  · exact h.callsFresh_set (Nat.le_refl _) fun ch hs => h.callsFresh i c ch hi hs
  · intro l' ch hl
    exact (h.attached l' ch hl).same (h.attached l' ch hl).owned rfl rfl hi rfl rfl rfl (.inl rfl) id
      (by simp [hstate, PublishState.active])
  · exact h.others hi ⟨rfl, rfl, rfl, rfl, rfl⟩ (fun _ _ _ _ _ _ => rfl)
      ⟨hsound.unstarted, fun _ => hsound.early (by simp [hstate, PublishState.early]),
        nofun, nofun, nofun, nofun⟩

theorem Sound.gaveBack {reply : BrokerReply} (h : p.Sound poolSize) (hi : p.calls i = some c)
    (hstate : c.state = .returning l reply) :
    ({ p with pool := { p.pool with lanes := p.pool.lanes ++ [l] } }.set i
      { c with state := .finished (MailService.publish config c.publication reply).2 }).Sound poolSize := by
  have hsound := h.calls i c hi
  refine ⟨?_, h.lanesFresh, ?_, ?_, ?_⟩
  · rw [held_set]
    refine Exclusive.giveBack h.exclusive ?_
    change p.held i = some l
    rw [held_of_calls hi, hstate]
    rfl
  · exact h.callsFresh_set (Nat.le_refl _) fun ch hs => h.callsFresh i c ch hi hs
  · intro l' ch hl
    exact (h.attached l' ch hl).same (h.attached l' ch hl).owned rfl rfl hi rfl rfl rfl (.inl rfl) id
      (by simp [hstate, PublishState.active])
  · refine h.others hi ⟨rfl, rfl, rfl, rfl, rfl⟩ (fun _ _ _ _ _ _ => rfl)
      ⟨hsound.unstarted, nofun, nofun, nofun, nofun, ?_⟩
    rintro r hr
    cases hr
    obtain ⟨hok, hunroutable⟩ := hsound.reply l reply hstate
    refine ⟨fun hres => hok (publish_ok hres), fun hres => ?_⟩
    refine (hunroutable (publish_unroutable hres)).imp_right fun hleft => ?_
    exact Leftover.set (p := { p with pool := _ }) hleft hi rfl id id

theorem Sound.opened {connection : Nat} (h : p.Sound poolSize) (hi : p.calls i = some c)
    (hstate : c.state = .borrowed l) (hsame : p.pool.Same s) :
    ({ p with pool := s.openLane connection l }.set i { c with state := .ready l }).Sound poolSize := by
  have hsound := h.calls i c hi
  have hlaneSelf : ((s.openLane connection l).lane l).channel = some p.pool.nextChannel := by
    simp [PublisherPool.openLane, hsame.nextChannel]
  have hlaneOther {l' : Nat} (hl : l' ≠ l) : (s.openLane connection l).lane l' = p.pool.lane l' := by
    rw [← hsame.lane]
    exact Function.update_of_ne hl _ _
  have hnext : (s.openLane connection l).nextChannel = p.pool.nextChannel + 1 := by
    rw [← hsame.nextChannel]
    rfl
  have halone := h.alone hi (by simp [hstate, PublishState.lane] : c.state.lane = some l)
  -- the call itself is not active yet
  have hnobody {j : Nat} {d : PublishCall} (hd : p.calls j = some d) : d.state.active ≠ some l := by
    intro ha
    obtain rfl := halone j d hd ha
    obtain rfl : c = d := by simpa [hi] using hd
    simp [hstate, PublishState.active] at ha
  refine ⟨?_, ?_, ?_, ?_, ?_⟩
  · rw [held_set]
    change Exclusive poolSize s.lanes (Function.update p.held i (some l))
    have hheld : p.held i = some l := by
      rw [held_of_calls hi, hstate]
      rfl
    rw [← hheld, Function.update_eq_self, hsame.lanes]
    exact h.exclusive
  · intro l' ch hl'
    change ch < (s.openLane connection l).nextChannel
    rw [hnext]
    by_cases hl : l' = l
    · subst hl
      obtain rfl : p.pool.nextChannel = ch := Option.some.inj (hlaneSelf.symm.trans hl')
      exact Nat.lt_succ_self _
    · refine Nat.lt_succ_of_lt (h.lanesFresh l' ch ?_)
      rw [← hlaneOther hl]
      exact hl'
  · refine h.callsFresh_set (by rw [hnext]; exact Nat.le_succ _) fun ch hs => ?_
    rw [hnext]
    exact Nat.lt_succ_of_lt (h.callsFresh i c ch hi hs)
  · intro l' ch hl'
    by_cases hl : l' = l
    · -- the new channel: nobody has used it
      subst hl
      obtain rfl : p.pool.nextChannel = ch := Option.some.inj (hlaneSelf.symm.trans hl')
      have hempty : (s.openLane connection l').returns p.pool.nextChannel = [] := by
        rw [← hsame.nextChannel]
        exact Function.update_self _ _ _
      refine ⟨?_, ?_, ?_, ?_, ?_⟩
      · intro l'' hl''
        by_contra hne
        have hold : (p.pool.lane l'').channel = some p.pool.nextChannel := by
          rw [← hlaneOther hne]
          exact hl''
        exact Nat.lt_irrefl _ (h.lanesFresh l'' _ hold)
      · refine forall_set (P := fun _ d => d.started = some p.pool.nextChannel → _) ?_ ?_
        · exact fun hs => absurd (h.callsFresh i c _ hi hs) (Nat.lt_irrefl _)
        · exact fun j d _ hd hs => absurd (h.callsFresh j d _ hd hs) (Nat.lt_irrefl _)
      · intro r hr
        rw [set_pool, hempty] at hr
        cases hr
      · rw [set_pool, hempty]
        exact Nat.zero_le _
      · refine forall_set (P := fun j d => d.state.active = some l' → _) nofun ?_
        exact fun j d _ hd ha => absurd ha (hnobody hd)
    · have hold : (p.pool.lane l').channel = some ch := by
        rw [← hlaneOther hl]
        exact hl'
      have hne : ch ≠ s.nextChannel := by
        rw [hsame.nextChannel]
        exact Nat.ne_of_lt (h.lanesFresh l' ch hold)
      refine (h.attached l' ch hold).same ?_ ?_ rfl hi rfl rfl rfl (.inl rfl) id
        (by simp [hstate, PublishState.active])
      · intro l'' hl''
        by_cases hl2 : l'' = l
        · subst hl2
          have : p.pool.nextChannel = ch := Option.some.inj (hlaneSelf.symm.trans hl'')
          exact absurd (this.symm.trans hsame.nextChannel.symm) hne
        · exact (h.attached l' ch hold).owned l'' (by rw [← hlaneOther hl2]; exact hl'')
      · rw [← hsame.returns]
        exact Function.update_of_ne hne _ _
  · refine h.others hi ⟨rfl, rfl, rfl, rfl, rfl⟩ ?_
      ⟨hsound.unstarted, fun _ => hsound.early (by simp [hstate, PublishState.early]),
        nofun, nofun, nofun, nofun⟩
    intro j d l' _ hd ha
    refine hlaneOther ?_
    rintro rfl
    exact hnobody hd ha

theorem Sound.started (h : p.Sound poolSize) (hi : p.calls i = some c) (hstate : c.state = .ready l)
    (hattached : (p.pool.lane l).channel = some ch) :
    (p.set i { c with state := .publishing l, started := some ch }).Sound poolSize := by
  have hsound := h.calls i c hi
  have hnone : c.started = none := hsound.early (by simp [hstate, PublishState.early])
  obtain ⟨-, hreturned, -⟩ := hsound.unstarted hnone
  refine ⟨?_, h.lanesFresh, ?_, ?_, ?_⟩
  · have hheld : p.held i = some l := by
      rw [held_of_calls hi, hstate]
      rfl
    rw [held_set]
    change Exclusive poolSize p.pool.lanes (Function.update p.held i (some l))
    rw [← hheld, Function.update_eq_self]
    exact h.exclusive
  · refine h.callsFresh_set (Nat.le_refl _) fun ch' hs => ?_
    obtain rfl : ch = ch' := Option.some.inj hs
    exact h.lanesFresh l ch hattached
  · intro l' ch' hl'
    have hold := h.attached l' ch' hl'
    by_cases hl : l' = l
    · subst hl
      obtain rfl : ch = ch' := Option.some.inj (hattached.symm.trans hl')
      refine ⟨hold.owned, ?_, ?_, hold.capacity, ?_⟩
      · exact forall_set (P := fun _ d => d.started = some ch → _) (fun _ => .inl rfl)
          fun j d _ hd => hold.answered j d hd
      · intro r hr
        obtain ⟨d, hd, hs, hrest⟩ := hold.returns r hr
        refine ⟨d, ?_, hs, hrest⟩
        rw [set_calls_of_ne]
        · exact hd
        · rintro rfl
          obtain rfl : c = d := by simpa [hi] using hd
          rw [hnone] at hs
          cases hs
      · refine forall_set (P := fun j d => d.state.active = some l' → d.returned = true → _) ?_
          fun j d _ hd => hold.own j d hd
        intro _ hr
        rw [hreturned] at hr
        cases hr
    · refine hold.untouched hold.owned rfl rfl ?_ ?_ ?_
      · intro d hd hs
        obtain rfl : c = d := by simpa [hi] using hd
        rw [hnone] at hs
        cases hs
      · intro hs
        obtain rfl : ch = ch' := Option.some.inj hs
        exact hl (hold.owned l hattached).symm
      · intro ha
        exact hl (Option.some.inj ha).symm
  · refine forall_set (P := fun _ d => (p.set i _).CallSound d) ?_ ?_
    · exact ⟨nofun, nofun, fun l' hl' => ⟨ch, rfl, Option.some.inj hl' ▸ hattached⟩, nofun, nofun, nofun⟩
    · intro j d hj hd
      refine (h.calls j d hd).other (fun _ _ => rfl) fun id hleft => ?_
      exact hleft.set hi rfl (fun hr => hr) fun hr => hr

/-- The lane loses its channel: what comes on it later concerns nobody. -/
theorem Sound.detached {between : PublisherPool} {reply : BrokerReply} (h : p.Sound poolSize)
    (hi : p.calls i = some c) (hactive : c.state.active = some l) (hlanes : between.lanes = p.pool.lanes)
    (hlane : between.lane = p.pool.lane) (hnext : between.nextChannel = p.pool.nextChannel)
    (hreturns : ∀ ch, (p.pool.lane l).channel ≠ some ch → between.returns ch = p.pool.returns ch)
    (hreply : reply ≠ .ack none ∧ reply ≠ .ack (some c.publication.event.id)) :
    ({ p with pool := between.resetLane l }.set i { c with state := .returning l reply }).Sound poolSize := by
  have hsound := h.calls i c hi
  have hheldLane := PublishState.lane_of_active hactive
  obtain ⟨own, hown, hchannel⟩ := hsound.active l hactive
  have hlaneSelf : ((between.resetLane l).lane l).channel = none := by simp [PublisherPool.resetLane]
  have hlaneOther {l' : Nat} (hl : l' ≠ l) : (between.resetLane l).lane l' = p.pool.lane l' := by
    rw [← hlane]
    exact Function.update_of_ne hl _ _
  have hold {l' ch' : Nat} (hl' : ((between.resetLane l).lane l').channel = some ch') :
      l' ≠ l ∧ (p.pool.lane l').channel = some ch' := by
    by_cases hl : l' = l
    · rw [hl, hlaneSelf] at hl'
      cases hl'
    · exact ⟨hl, by rw [← hlaneOther hl]; exact hl'⟩
  refine ⟨?_, ?_, ?_, ?_, ?_⟩
  · rw [held_set]
    change Exclusive poolSize between.lanes (Function.update p.held i (some l))
    rw [← hheldLane, ← held_of_calls hi, Function.update_eq_self, hlanes]
    exact h.exclusive
  · intro l' ch' hl'
    change ch' < between.nextChannel
    rw [hnext]
    exact h.lanesFresh l' ch' (hold hl').2
  · refine h.callsFresh_set (Nat.le_of_eq hnext.symm) fun ch' hs => ?_
    change ch' < between.nextChannel
    rw [hnext]
    exact h.callsFresh i c ch' hi hs
  · intro l' ch' hl'
    obtain ⟨hl, hl'⟩ := hold hl'
    have hattached := h.attached l' ch' hl'
    -- the call's channel was this lane's
    have hne : c.started ≠ some ch' := by
      rw [hown]
      intro he
      obtain rfl : own = ch' := Option.some.inj he
      exact hl (hattached.owned l hchannel).symm
    refine hattached.untouched (fun l'' hl'' => hattached.owned l'' (hold hl'').2) ?_ rfl ?_ hne nofun
    · refine hreturns ch' fun he => ?_
      exact hl (hattached.owned l he).symm
    · intro d hd
      obtain rfl : c = d := by simpa [hi] using hd
      exact hne
  · refine h.others hi ⟨rfl, rfl, rfl, rfl, rfl⟩ ?_ ⟨hsound.unstarted, nofun, nofun, nofun, ?_, nofun⟩
    · intro j d l' hj hd ha
      refine hlaneOther ?_
      rintro rfl
      exact hj (h.alone hi hheldLane j d hd ha)
    · rintro l' r hr
      cases hr
      exact ⟨fun he => absurd he hreply.1, fun he => absurd he hreply.2⟩

/-- A call leaves the lane with its answer, and the channel stays. -/
theorem Sound.answered {reply : BrokerReply} (h : p.Sound poolSize) (hi : p.calls i = some c)
    (hactive : c.state.active = some l) (hattached : (p.pool.lane l).channel = some ch)
    (hconfirmed : c.confirmed ≠ none) (hlanes : s'.lanes = p.pool.lanes) (hlane : s'.lane = p.pool.lane)
    (hnext : s'.nextChannel = p.pool.nextChannel)
    (hreturns : ∀ ch', ch' ≠ ch → s'.returns ch' = p.pool.returns ch')
    (hsub : List.Sublist (s'.returns ch) (p.pool.returns ch))
    (hmine : ∀ r ∈ s'.returns ch, r.publication = i → c.confirmed = some false)
    (htold : p.Told c (reply = .ack none) (reply = .ack (some c.publication.event.id))) :
    ({ p with pool := s' }.set i { c with state := .returning l reply }).Sound poolSize := by
  have hsound := h.calls i c hi
  have hheldLane := PublishState.lane_of_active hactive
  have hold {l' ch' : Nat} (hl' : (s'.lane l').channel = some ch') : (p.pool.lane l').channel = some ch' := by
    rw [← hlane]
    exact hl'
  refine ⟨?_, ?_, ?_, ?_, ?_⟩
  · rw [held_set]
    change Exclusive poolSize s'.lanes (Function.update p.held i (some l))
    rw [← hheldLane, ← held_of_calls hi, Function.update_eq_self, hlanes]
    exact h.exclusive
  · intro l' ch' hl'
    change ch' < s'.nextChannel
    rw [hnext]
    exact h.lanesFresh l' ch' (hold hl')
  · refine h.callsFresh_set (Nat.le_of_eq hnext.symm) fun ch' hs => ?_
    rw [hnext]
    exact h.callsFresh i c ch' hi hs
  · intro l' ch' hl'
    have hat := h.attached l' ch' (hold hl')
    by_cases hch : ch' = ch
    · subst hch
      obtain rfl : l = l' := hat.owned l hattached
      exact hat.left (fun l'' hl'' => hat.owned l'' (hold hl'')) hsub rfl hi
        ⟨rfl, rfl, rfl, rfl, rfl⟩ hconfirmed hmine (h.alone hi hheldLane) nofun
    · obtain ⟨own, hown, hchannel⟩ := hsound.active l hactive
      have hne : c.started ≠ some ch' := by
        rw [hown]
        intro he
        exact hch ((Option.some.inj he).symm.trans (Option.some.inj (hchannel.symm.trans hattached)))
      refine hat.untouched (fun l'' hl'' => hat.owned l'' (hold hl'')) (hreturns ch' hch) rfl ?_ hne nofun
      intro d hd
      obtain rfl : c = d := by simpa [hi] using hd
      exact hne
  · refine h.others hi ⟨rfl, rfl, rfl, rfl, rfl⟩ (fun _ _ l' _ _ _ => congrFun hlane l')
      ⟨hsound.unstarted, nofun, nofun, nofun, ?_, nofun⟩
    rintro l' r hr
    cases hr
    refine ⟨htold.1, fun he => (htold.2 he).imp_right fun hleft => ?_⟩
    exact Leftover.set (p := { p with pool := s' }) hleft hi rfl id id

theorem Sound.effect (h : p.Sound poolSize) (hi : p.calls i = some c)
    (he : PublishEffect config p.pool c s' c') :
    ({ p with pool := s' }.set i c').Sound poolSize := by
  have hsound := h.calls i c hi
  cases he with
  | quiet pool record lane active early acked reply result =>
    refine h.quiet hi pool record lane active ⟨?_, ?_, ?_, ?_, ?_, ?_⟩
    · rw [record.started, record.sent, record.returned, record.confirmed]
      exact hsound.unstarted
    · intro he
      rw [record.started]
      exact hsound.early (early he)
    · rw [active, record.started]
      intro l hl
      obtain ⟨ch, hs, hch⟩ := hsound.active l hl
      exact ⟨ch, hs, by rw [← hch]; exact congrArg _ (congrFun pool.lane l)⟩
    · intro l hl
      rw [record.confirmed]
      exact acked l hl
    · exact fun l r hr => ⟨fun he => absurd he (reply l r hr _), fun he => absurd he (reply l r hr _)⟩
    · exact fun r hr => ⟨fun he => absurd he (result r hr).1, fun he => absurd he (result r hr).2⟩
  | borrowed l rest state lanes pool call =>
    subst pool call
    exact h.borrowed hi state lanes
  | gaveBack l reply state pool call =>
    subst pool call
    exact h.gaveBack hi state
  | opened l connection between state same pool call =>
    subst pool call
    exact h.opened hi state same
  | started l ch state attached pool call =>
    subst pool call
    exact h.started hi state attached
  | detached l reply active between lanes lane nextChannel returns pool call reply_ne =>
    subst pool call
    exact h.detached hi active lanes lane nextChannel returns reply_ne
  | nacked l state confirmed pool call =>
    subst pool call
    have hactive : c.state.active = some l := by simp [state, PublishState.active]
    obtain ⟨ch, -, hch⟩ := hsound.active l hactive
    exact h.answered hi hactive hch (by simp [confirmed]) rfl rfl rfl (fun _ _ => rfl) (List.Sublist.refl _)
      (fun _ _ _ => confirmed) ⟨nofun, nofun⟩
  | clean l ch state attached returns pool call =>
    subst pool call
    have hactive : c.state.active = some l := by simp [state, PublishState.active]
    refine h.answered hi hactive attached (by simp [hsound.acked l state]) rfl rfl rfl (fun _ _ => rfl)
      (List.Sublist.refl _) (by simp [returns]) ⟨fun _ => ⟨hsound.acked l state, ?_⟩, nofun⟩
    -- its return would be in the buffer
    by_contra hr
    obtain ⟨r, hmem, -⟩ := (h.attached l ch attached).own i c hi hactive (by simpa using hr)
    simp [returns] at hmem
  | unroutable l ch r rest state attached returns id pool call =>
    subst pool call
    have hactive : c.state.active = some l := by simp [state, PublishState.active]
    have hat := h.attached l ch attached
    have hrest : rest = [] := by
      have hcap := hat.capacity
      rw [returns, List.length_cons] at hcap
      exact List.eq_nil_of_length_eq_zero (by omega)
    subst hrest
    refine h.answered hi hactive attached (by simp [hsound.acked l state]) rfl rfl rfl
      (fun ch' hch => Function.update_of_ne hch _ _) ?_ ?_ ⟨nofun, fun _ => ?_⟩
    · simp only [Function.update_self, List.nil_sublist]
    · simp only [Function.update_self]
      exact nofun
    · obtain ⟨d, hd, -, hret, hid, hwhy⟩ := hat.returns r (by simp [returns])
      rcases hwhy with ha | hnack
      · have hown : r.publication = i := h.alone hi (PublishState.lane_of_active hactive) _ d hd ha
        obtain rfl : c = d := by simpa [hown, hi] using hd
        exact .inl hret
      · exact .inr ⟨_, d, hd, by rw [hid, id], hret, hnack⟩

/-- A new call. -/
theorem Sound.begun {publication : OutboxPublication} (h : p.Sound poolSize) (hi : p.calls i = none) :
    (p.set i ⟨publication, .entered, none, false, false, none⟩).Sound poolSize := by
  refine ⟨?_, h.lanesFresh, ?_, ?_, ?_⟩
  · have hheld : p.held i = none := by simp [held, hi]
    rw [held_set]
    change Exclusive poolSize p.pool.lanes (Function.update p.held i none)
    rw [← hheld, Function.update_eq_self]
    exact h.exclusive
  · exact h.callsFresh_set (Nat.le_refl _) nofun
  · intro l ch hl
    exact (h.attached l ch hl).untouched (h.attached l ch hl).owned rfl rfl (by simp [hi]) nofun nofun
  · refine forall_set (P := fun _ d => (p.set i _).CallSound d) ?_ ?_
    · exact ⟨fun _ => ⟨rfl, rfl, rfl⟩, fun _ => rfl, nofun, nofun, nofun, nofun⟩
    · intro j d hj hd
      refine (h.calls j d hd).other (fun _ _ => rfl) ?_
      rintro id ⟨k, e, he, hrest⟩
      refine ⟨k, e, ?_, hrest⟩
      rw [set_calls_of_ne]
      · exact he
      · rintro rfl
        rw [hi] at he
        cases he

/-- The broker takes a publication, or confirms it. -/
theorem Sound.handled {sent : Bool} {confirmed : Option Bool} (h : p.Sound poolSize) (hi : p.calls i = some c)
    (hstarted : c.started ≠ none) (hconfirmed : confirmed = c.confirmed ∨ c.confirmed = none) :
    (p.set i { c with sent := sent, confirmed := confirmed }).Sound poolSize := by
  have hsound := h.calls i c hi
  have hkept : ∀ b, c.confirmed = some b → confirmed = some b := by
    intro b hb
    rcases hconfirmed with he | he
    · rw [he, hb]
    · rw [he] at hb
      cases hb
  have hleft (id : String) (hleft : p.Leftover id) :
      (p.set i { c with sent := sent, confirmed := confirmed }).Leftover id :=
        hleft.set hi rfl (fun hr => hr) (hkept false)
  refine ⟨?_, h.lanesFresh, ?_, ?_, ?_⟩
  · rw [held_set]
    change Exclusive poolSize p.pool.lanes (Function.update p.held i c.state.lane)
    rw [← held_of_calls hi, Function.update_eq_self]
    exact h.exclusive
  · exact h.callsFresh_set (Nat.le_refl _) fun ch hs => h.callsFresh i c ch hi hs
  · intro l ch hl
    refine (h.attached l ch hl).same (h.attached l ch hl).owned rfl rfl hi rfl rfl rfl hconfirmed ?_ rfl
    intro hne
    obtain ⟨b, hb⟩ := Option.ne_none_iff_exists'.1 hne
    rw [hkept b hb]
    simp
  · refine forall_set (P := fun _ d => (p.set i _).CallSound d) ?_ ?_
    · refine ⟨fun hs => absurd hs hstarted, hsound.early, hsound.active, ?_, ?_, ?_⟩
      · exact fun l hl => hkept true (hsound.acked l hl)
      · intro l r hr
        obtain ⟨hok, hunroutable⟩ := hsound.reply l r hr
        exact ⟨fun he => ⟨hkept true (hok he).1, (hok he).2⟩, fun he => (hunroutable he).imp_right (hleft _)⟩
      · intro r hr
        obtain ⟨hok, hunroutable⟩ := hsound.result r hr
        exact ⟨fun he => ⟨hkept true (hok he).1, (hok he).2⟩, fun he => (hunroutable he).imp_right (hleft _)⟩
    · exact fun j d _ hd => (h.calls j d hd).other (fun _ _ => rfl) hleft

/-- The broker returns a message: it is of the call that runs on the channel. -/
theorem Sound.returned (h : p.Sound poolSize) (hi : p.calls i = some c) (hstarted : c.started = some ch)
    (hconfirmed : c.confirmed = none) :
    ({ p with pool := { p.pool with
        returns := Function.update p.pool.returns ch [⟨c.publication.event.id, i⟩] } }.set i
      { c with returned := true }).Sound poolSize := by
  have hsound := h.calls i c hi
  refine ⟨?_, h.lanesFresh, ?_, ?_, ?_⟩
  · rw [held_set]
    change Exclusive poolSize p.pool.lanes (Function.update p.held i c.state.lane)
    rw [← held_of_calls hi, Function.update_eq_self]
    exact h.exclusive
  · exact h.callsFresh_set (Nat.le_refl _) fun ch hs => h.callsFresh i c ch hi hs
  · intro l' ch' hl'
    have hat := h.attached l' ch' hl'
    by_cases hch : ch' = ch
    · subst hch
      have hactive : c.state.active = some l' :=
        (hat.answered i c hi hstarted).resolve_right (by simp [hconfirmed])
      refine ⟨hat.owned, ?_, ?_, ?_, ?_⟩
      · exact forall_set (P := fun _ d => d.started = some ch' → _) (fun _ => .inl hactive)
          fun j d _ hd => hat.answered j d hd
      · intro r hr
        simp only [set_pool, Function.update_self, List.mem_singleton] at hr
        subst hr
        exact ⟨_, set_calls_self, hstarted, rfl, rfl, .inl hactive⟩
      · simp
      · have hmine : ∃ r ∈ Function.update p.pool.returns ch' [⟨c.publication.event.id, i⟩] ch',
            r.publication = i := by
          simp
        refine forall_set (P := fun j d => d.state.active = some l' → d.returned = true → _)
          (fun _ _ => hmine) ?_
        intro j d hj hd ha
        exact absurd (h.alone hi (PublishState.lane_of_active hactive) j d hd ha) hj
    · have hne : c.started ≠ some ch' := by
        rw [hstarted]
        exact fun he => hch (Option.some.inj he).symm
      refine hat.untouched hat.owned (Function.update_of_ne hch _ _) rfl ?_ hne ?_
      · intro d hd
        obtain rfl : c = d := by simpa [hi] using hd
        exact hne
      · intro ha
        obtain ⟨own, hown, hchannel⟩ := hsound.active l' ha
        exact hne (hown.trans (hchannel.symm.trans hl'))
  · have hunconfirmed {b : Bool} (hb : c.confirmed = some b) : False := by
      rw [hconfirmed] at hb
      cases hb
    refine forall_set (P := fun _ d => (Publisher.set _ i _).CallSound d) ?_ ?_
    · refine ⟨?_, hsound.early, hsound.active, hsound.acked, ?_, ?_⟩
      · intro hs
        exact absurd hs (by simp [hstarted])
      · exact fun l r hr => ⟨fun he => (hunconfirmed ((hsound.reply l r hr).1 he).1).elim, fun _ => .inl rfl⟩
      · exact fun r hr => ⟨fun he => (hunconfirmed ((hsound.result r hr).1 he).1).elim, fun _ => .inl rfl⟩
    · intro j d _ hd
      refine (h.calls j d hd).other (fun _ _ => rfl) fun id hleft => ?_
      exact Leftover.set (p := { p with pool := _ }) hleft hi rfl (fun _ => rfl) fun hr => hr

/-- What happens to connections is nobody's answer. -/
theorem Sound.environment (h : p.Sound poolSize) (hpool : p.pool.Same s') :
    { p with pool := s' }.Sound poolSize := by
  obtain ⟨hlanes, hlane, hreturns, hnext⟩ := hpool
  have hchannel (l : Nat) : (s'.lane l).channel = (p.pool.lane l).channel := by rw [hlane]
  refine ⟨?_, ?_, ?_, ?_, ?_⟩
  · change Exclusive poolSize s'.lanes p.held
    rw [hlanes]
    exact h.exclusive
  · simpa only [hchannel, hnext] using h.lanesFresh
  · simpa only [hnext] using h.callsFresh
  · intro l ch hl
    have hat := h.attached l ch ((hchannel l).symm.trans hl)
    refine ⟨by simpa only [hchannel] using hat.owned, hat.answered, ?_, ?_, ?_⟩
    · simpa only [hreturns] using hat.returns
    · simpa only [hreturns] using hat.capacity
    · simpa only [hreturns] using hat.own
  · exact fun i c hc => (h.calls i c hc).other (fun l _ => congrFun hlane l) fun _ hleft => hleft

theorem Step.sound {action : Publisher.Action} (h : Step config p action p') (hs : p.Sound poolSize) :
    p'.Sound poolSize := by
  cases h with
  | publish hnone => exact hs.begun hnone
  | step hi hstep => exact hs.effect hi hstep.effect
  | transmit hi hstarted => exact hs.handled hi hstarted (.inl rfl)
  | brokerReturns hi _ hstarted _ hconfirmed _ => exact hs.returned hi hstarted hconfirmed
  | @brokerConfirms i c ack hi hsent hconfirmed =>
    refine hs.handled hi ?_ (.inr hconfirmed)
    intro hnone
    have := ((hs.calls i c hi).unstarted hnone).1
    simp [hsent] at this
  | channelCloses | connectionCloses | close => exact hs.environment ⟨rfl, rfl, rfl, rfl⟩

theorem Reached.sound {history : List (Publisher.Action × Publisher)}
    (h : Publisher.Reached config poolSize history p) :
    p.Sound poolSize := by
  refine h.invariant (P := fun p => p.Sound poolSize) ?_ fun _ _ _ hs hstep => hstep.sound hs
  rintro p rfl
  exact ⟨Exclusive.start poolSize, nofun, nofun, nofun, nofun⟩

/-- Lanes are never shared and never lost, and a result is about the call's own message:
nil means acked and not returned, and unroutable means returned, unless a message with
the same id was returned and nacked before. -/
theorem lanes_attributed {history : List (Publisher.Action × Publisher)}
    (h : Publisher.Reached config poolSize history p) :
    (∀ i j c d l, p.calls i = some c → p.calls j = some d → c.state.lane = some l →
      d.state.lane = some l → i = j) ∧
    (p.pool.lanes.Nodup ∧ ∀ l, l < poolSize ↔
      (l ∈ p.pool.lanes ∨ ∃ i c, p.calls i = some c ∧ c.state.lane = some l)) ∧
    (∀ i c l, p.calls i = some c → c.state.lane = some l → l ∉ p.pool.lanes) ∧
    ∀ i c result, p.calls i = some c → c.state = .finished result →
      (result = .ok () → c.confirmed = some true ∧ c.returned = false) ∧
      (result = .error (.typed "RABBITMQ_UNROUTABLE" false) →
        c.returned = true ∨ p.Leftover c.publication.event.id) ∧
      ((∀ j d, p.calls j = some d → d.returned = true → d.confirmed ≠ some false) →
        result = .error (.typed "RABBITMQ_UNROUTABLE" false) → c.returned = true) := by
  have hs := Reached.sound h
  have hheld {i l : Nat} {c : PublishCall} (hc : p.calls i = some c) (hl : c.state.lane = some l) :
      p.held i = some l :=
    (held_of_calls hc).trans hl
  refine ⟨?_, ⟨hs.exclusive.nodup, fun l => ⟨?_, ?_⟩⟩, ?_, ?_⟩
  · intro i j c d l hc hd hcl hdl
    exact hs.exclusive.single i j l (hheld hc hcl) (hheld hd hdl)
  · intro hl
    refine (hs.exclusive.all l hl).imp_right ?_
    rintro ⟨i, hi⟩
    obtain ⟨c, hc, hcl⟩ := Option.bind_eq_some_iff.1 hi
    exact ⟨i, c, hc, hcl⟩
  · rintro (hl | ⟨i, c, hc, hcl⟩)
    · exact hs.exclusive.bound l hl
    · exact (hs.exclusive.apart i l (hheld hc hcl)).1
  · intro i c l hc hcl
    exact (hs.exclusive.apart i l (hheld hc hcl)).2
  · intro i c result hc hresult
    obtain ⟨hok, hunroutable⟩ := (hs.calls i c hc).result result hresult
    refine ⟨hok, hunroutable, fun hbroker hres => ?_⟩
    rcases hunroutable hres with hr | ⟨j, d, hd, -, hr, hn⟩
    · exact hr
    · exact absurd hn (hbroker j d hd hr)

/-- A dispatch request. -/
def sampleEvent : OutboxEvent :=
  ⟨"00000000-0000-4000-8000-000000000001", "EMAIL_MESSAGE", "00000000-0000-4000-8000-000000000002",
    EventKind.dispatchRequested.text, 1, 1, "\x7b\x7d"⟩

theorem sample_publishable {n : Nat} (h : n ≠ 0) : publishable .default ⟨sampleEvent, n⟩ := by
  have hevent : sampleEvent.validate = .ok () := by decide +kernel
  have hcounters : sampleEvent.aggregateSequence ≤ maxInt64 ∧
      sampleEvent.dispatchGeneration ≤ maxInt64 := by decide
  have hroute : PublisherConfig.default.routes sampleEvent.eventType ≠ none := by decide +kernel
  refine ⟨?_, hroute⟩
  rw [validPublication, decide_eq_true_eq]
  exact ⟨hevent, h, hcounters⟩

theorem sample_unroutable {n : Nat} (h : n ≠ 0) :
    (MailService.publish .default ⟨sampleEvent, n⟩ (.ack (some sampleEvent.id))).2 =
      .error (.typed "RABBITMQ_UNROUTABLE" false) := by
  obtain ⟨hvalid, hroute⟩ := sample_publishable h
  obtain ⟨routingKey, hkey⟩ := Option.ne_none_iff_exists'.1 hroute
  simp [MailService.publish, hvalid, hkey, publishReply]

/-- A message that no queue is bound for is returned and acked. -/
theorem lanes_attributed_unroutable :
    ∃ history p c, Publisher.Reached .default 1 history p ∧ p.calls 0 = some c ∧
    c.state = .finished (.error (.typed "RABBITMQ_UNROUTABLE" false)) ∧ c.returned = true := by
  have hpub : publishable .default ⟨sampleEvent, 1⟩ := sample_publishable (by decide)
  have h0 : Publisher.Reached .default 1 [] _ := .start rfl
  have h1 := h0.next (@Step.publish _ _ 0 ⟨sampleEvent, 1⟩ rfl)
  have h2 := h1.next (@Step.step _ _ 0 _ _ _ rfl (.accepted rfl hpub))
  have h3 := h2.next (@Step.step _ _ 0 _ _ _ rfl (.borrow rfl rfl))
  have h4 := h3.next (@Step.step _ _ 0 _ _ _ rfl (.opened rfl rfl (.dialed nofun) (fun hr => nomatch hr.1)))
  have h5 := h4.next (@Step.step _ _ 0 _ _ _ rfl (.start rfl rfl))
  have h6 := h5.next (@Step.transmit _ _ 0 _ rfl nofun)
  have h7 := h6.next (@Step.step _ _ 0 _ _ _ rfl (.published rfl rfl))
  have h8 := h7.next (@Step.brokerReturns _ _ 0 _ _ rfl rfl rfl rfl rfl rfl)
  have h9 := h8.next (@Step.brokerConfirms _ _ 0 _ true rfl rfl rfl)
  have h10 := h9.next (@Step.step _ _ 0 _ _ _ rfl (.acked rfl rfl))
  have h11 := h10.next (@Step.step _ _ 0 _ _ _ rfl (.unroutable rfl rfl rfl rfl))
  have h12 := h11.next (@Step.step _ _ 0 _ _ _ rfl (.giveBack rfl))
  have hresult := sample_unroutable (show 1 ≠ 0 by decide)
  refine ⟨_, _, _, h12, rfl, congrArg _ hresult, ?_⟩
  refine ((lanes_attributed h12).2.2.2 0 _ _ rfl rfl).2.2 ?_ hresult
  exact forall_set (P := fun _ d => d.returned = true → d.confirmed ≠ some false)
      (fun _ => nofun) fun j d hj hd => by
    simp [set, Function.update_of_ne hj, new] at hd

/-- A message is returned and nacked, and published again on the same lane: the broker
acks it without a return, and `Publish` reports the old return as its own. -/
theorem leftover_return_reported : ∃ history p c d, Publisher.Reached .default 1 history p ∧
    p.calls 0 = some c ∧ c.returned = true ∧ c.confirmed = some false ∧
    p.calls 1 = some d ∧ d.state = .finished (.error (.typed "RABBITMQ_UNROUTABLE" false)) ∧
    d.returned = false ∧ d.confirmed = some true := by
  have hpub : publishable .default ⟨sampleEvent, 1⟩ := sample_publishable (by decide)
  have hagain : publishable .default ⟨sampleEvent, 2⟩ := sample_publishable (by decide)
  have h0 : Publisher.Reached .default 1 [] _ := .start rfl
  have h1 := h0.next (@Step.publish _ _ 0 ⟨sampleEvent, 1⟩ rfl)
  have h2 := h1.next (@Step.step _ _ 0 _ _ _ rfl (.accepted rfl hpub))
  have h3 := h2.next (@Step.step _ _ 0 _ _ _ rfl (.borrow rfl rfl))
  have h4 := h3.next (@Step.step _ _ 0 _ _ _ rfl (.opened rfl rfl (.dialed nofun) (fun hr => nomatch hr.1)))
  have h5 := h4.next (@Step.step _ _ 0 _ _ _ rfl (.start rfl rfl))
  have h6 := h5.next (@Step.transmit _ _ 0 _ rfl nofun)
  have h7 := h6.next (@Step.step _ _ 0 _ _ _ rfl (.published rfl rfl))
  have h8 := h7.next (@Step.brokerReturns _ _ 0 _ _ rfl rfl rfl rfl rfl rfl)
  have h9 := h8.next (@Step.brokerConfirms _ _ 0 _ false rfl rfl rfl)
  have h10 := h9.next (@Step.step _ _ 0 _ _ _ rfl (.nacked rfl rfl))
  have h11 := h10.next (@Step.step _ _ 0 _ _ _ rfl (.giveBack rfl))
  have h12 := h11.next (@Step.publish _ _ 1 ⟨sampleEvent, 2⟩ rfl)
  have h13 := h12.next (@Step.step _ _ 1 _ _ _ rfl (.accepted rfl hagain))
  have h14 := h13.next (@Step.step _ _ 1 _ _ _ rfl (.borrow rfl rfl))
  have h15 := h14.next (@Step.step _ _ 1 _ _ _ rfl (.reused rfl rfl (.existing rfl rfl) ⟨rfl, _, rfl, rfl⟩))
  have h16 := h15.next (@Step.step _ _ 1 _ _ _ rfl (.start rfl rfl))
  have h17 := h16.next (@Step.transmit _ _ 1 _ rfl nofun)
  have h18 := h17.next (@Step.step _ _ 1 _ _ _ rfl (.published rfl rfl))
  have h19 := h18.next (@Step.brokerConfirms _ _ 1 _ true rfl rfl rfl)
  have h20 := h19.next (@Step.step _ _ 1 _ _ _ rfl (.acked rfl rfl))
  have h21 := h20.next (@Step.step _ _ 1 _ _ _ rfl (.unroutable rfl rfl rfl rfl))
  have h22 := h21.next (@Step.step _ _ 1 _ _ _ rfl (.giveBack rfl))
  exact ⟨_, _, _, _, h22, rfl, rfl, rfl, rfl, congrArg _ (sample_unroutable (by decide)), rfl, rfl⟩

end Publisher

end MailService
