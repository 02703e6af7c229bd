import MailService.Lib.Runs
import MailService.Scheduler
import MailService.Submission
import MailService.Wire
/-!
# The running service

Submissions, scheduler runs, relays, the broker and any number of consumer lanes
over one database, as one transition system. A transaction commits whole in one
step; a lane that reads in one step and writes in a later one keeps the state it
read. A commit may take effect without being reported, and a lane, a relay or
the broker's connection may fail between any two steps.

Of RabbitMQ it is assumed that a message it confirmed without returning it stays
until a lane acknowledges it, and that a delivery that is refused, or whose lane
fails, goes back to the queue or to the dead-letter queue. Deliveries may also
arrive from elsewhere: a copy that the broker sends twice, or a late one.
-/
open Runs

namespace MailService

/-- What a run does not change: the libraries, the attempts that all relays are
configured with, and the ids that `uuid.NewRandom` may return. -/
structure Env where
  L : Libs
  maxAttempts : Nat
  ids : Set Uuid

/-- How far a lane is with the delivery it holds. -/
inductive Work
  | parsed (command : DispatchCommand)
  /-- The claim transaction began at `now` and has read the message in `read`. -/
  | claiming (command : DispatchCommand) (read : Db) (now : Time)
  | claimed (claim : DispatchClaim)
  /-- `Submit` was called and has not returned. -/
  | submitting (claim : DispatchClaim)
  | observed (claim : DispatchClaim) (result : ProviderResult)
  /-- The second transaction began at `now` and has read the message in `read`. -/
  | finalizing (claim : DispatchClaim) (result : ProviderResult) (read : Db) (now : Time)
  | processed (settlement : Settlement)

inductive Lane
  | idle
  | holds (delivery : Delivery) (work : Work)

/-- A leased event that a relay works on, with the result of `Publish` and of its
context once there is one. -/
structure Job where
  leased : LeasedOutboxEvent
  result : Option (Except PublishError Unit × Option ContextError)

structure System where
  db : Db
  lanes : Nat → Lane
  /-- Messages in the broker's queues, and those it dead-lettered. -/
  queue : List Delivery
  dead : List Delivery
  jobs : List Job
  /-- The lease tokens drawn so far. -/
  tokens : List String

inductive Action
  | submit (command : SubmitEmailCommand) (now : Time) (result : SubmitEmailResult)
  | schedule (now : Time)
  | arrive (delivery : Delivery)
  | deadLetter (delivery : Delivery)
  | deliver (lane : Nat) (delivery : Delivery)
  | readForClaim (lane : Nat) (now : Time)
  /-- A claim committed; `reported` says whether its lane was told. -/
  | claim (lane : Nat) (outcome : ClaimOutcome) (reported : Bool)
  | claimFailed (lane : Nat) (error : Error)
  | buildFailed (lane : Nat)
  | callSubmit (lane : Nat) (claim : DispatchClaim) (request : ProviderRequest)
  | submitReturned (lane : Nat) (claim : DispatchClaim) (result : ProviderResult)
  | readForFinalize (lane : Nat) (now : Time)
  | finalize (lane : Nat) (claim : DispatchClaim) (result : ProviderResult) (reported : Bool)
  | finalizeFailed (lane : Nat) (error : Error)
  | settle (lane : Nat) (delivery : Delivery) (settlement : Settlement)
  | laneLost (lane : Nat)
  | lease (now : Time) (events : List LeasedOutboxEvent) (reported : Bool)
  | leaseFailed
  | publish (leased : LeasedOutboxEvent) (reply : BrokerReply)
  | record (leased : LeasedOutboxEvent) (completion : Completion)
  | recordFailed (leased : LeasedOutboxEvent) (outcome : RelayOutcome)
  | jobLost (leased : LeasedOutboxEvent)

namespace System

/-- Lane `i` goes on with `work`. -/
def setLane (s : System) (i : Nat) (lane : Lane) : System :=
  { s with lanes := Function.update s.lanes i lane }

end System

def isDispatchDelivery (d : Delivery) : Prop :=
  d.exchange = ConsumerConfig.default.exchange ∧ d.routingKey = ConsumerConfig.default.routingKey

/-- What a lane does first with a delivery: an invalid one is dead-lettered. -/
def received (L : Libs) (d : Delivery) : Work :=
  match parseDispatchDelivery L .default d with
  | .ok command => .parsed command
  | .error _ => .processed .deadLetter

/-- Where the lane goes when its claim is reported as committed. -/
def afterClaim : ClaimOutcome → Work
  | .resolved _ => .processed .ack
  | .started c => .claimed c

/-- The error that a transaction ended in: the one its code returned, or one that
redelivery may cure. -/
def Failed {α : Type} (result : Except Error α) (e : Error) : Prop :=
  result = .error e ∨ classifyDispatchError e = .transient

/-- Where a settled delivery goes. -/
def System.returned (s : System) (d : Delivery) : Settlement → System
  | .ack => s
  | .deadLetter => { s with dead := s.dead ++ [d] }
  | .requeue => { s with queue := s.queue ++ [d] }

inductive Step (E : Env) : System → Action → System → Prop
  | submit {s : System} {catalog protector command messageID nonce now db' result} :
      messageID ∈ E.ids →
      MailService.submit E.L catalog protector command messageID nonce now s.db = .ok (db', result) →
      Step E s (.submit command now result) { s with db := db' }
  | schedule {s : System} {batchSize locked now db' result} :
      runOnce E.L batchSize locked now s.db = .ok (db', result) →
      Step E s (.schedule now) { s with db := db' }
  | arrive {s : System} {d} : Step E s (.arrive d) { s with queue := s.queue ++ [d] }
  | deadLetter {s : System} {d before after} : s.queue = before ++ d :: after →
      Step E s (.deadLetter d) { s with queue := before ++ after, dead := s.dead ++ [d] }
  | deliver {s : System} {i d before after} : s.lanes i = .idle → s.queue = before ++ d :: after →
      isDispatchDelivery d →
      Step E s (.deliver i d) ({ s with queue := before ++ after }.setLane i (.holds d (received E.L d)))
  | readForClaim {s : System} {i d command now} : s.lanes i = .holds d (.parsed command) →
      Step E s (.readForClaim i now) (s.setLane i (.holds d (.claiming command s.db now)))
  | claim {s : System} {i d command read now providerKey attemptID db' outcome reported} :
      s.lanes i = .holds d (.claiming command read now) → validateProviderKey providerKey = .ok () →
      MailService.claim E.L providerKey attemptID command read now s.db = .ok (db', outcome) →
      Step E s (.claim i outcome reported) ({ s with db := db' }.setLane i
        (.holds d (if reported then afterClaim outcome else .processed .requeue)))
  | claimFailed {s : System} {i d command read now providerKey attemptID e} :
      s.lanes i = .holds d (.claiming command read now) → validateProviderKey providerKey = .ok () →
      Failed (MailService.claim E.L providerKey attemptID command read now s.db) e →
      Step E s (.claimFailed i e) (s.setLane i (.holds d (.processed (settlement (α := Unit) (.error e)))))
  | buildFailed {s : System} {i d c built result} : s.lanes i = .holds d (.claimed c) →
      prepareRequest c built = .error result →
      Step E s (.buildFailed i) (s.setLane i (.holds d (.observed c result)))
  | callSubmit {s : System} {i d c built request} : s.lanes i = .holds d (.claimed c) →
      prepareRequest c built = .ok request →
      Step E s (.callSubmit i c request) (s.setLane i (.holds d (.submitting c)))
  | submitReturned {s : System} {i d c result contextError} : s.lanes i = .holds d (.submitting c) →
      Step E s (.submitReturned i c result) (s.setLane i (.holds d
        (match observeResult result contextError with
          | .ok observed => .observed c observed
          | .error e => .processed (settlement (α := Unit) (.error e)))))
  | readForFinalize {s : System} {i d c result now} : s.lanes i = .holds d (.observed c result) →
      Step E s (.readForFinalize i now) (s.setLane i (.holds d (.finalizing c result s.db now)))
  | finalize {s : System} {i d c result delay read now db' dispatched reported} :
      s.lanes i = .holds d (.finalizing c result read now) →
      MailService.finalize E.L c result delay read now s.db = .ok (db', dispatched) →
      Step E s (.finalize i c result reported) ({ s with db := db' }.setLane i
        (.holds d (.processed (if reported then .ack else .requeue))))
  | finalizeFailed {s : System} {i d c result delay read now e} :
      s.lanes i = .holds d (.finalizing c result read now) →
      Failed (MailService.finalize E.L c result delay read now s.db) e →
      Step E s (.finalizeFailed i e) (s.setLane i (.holds d (.processed (settlement (α := Unit) (.error e)))))
  | settle {s : System} {i d answer} : s.lanes i = .holds d (.processed answer) →
      Step E s (.settle i d answer) ((s.returned d answer).setLane i .idle)
  | laneLost {s : System} {i d work} : s.lanes i = .holds d work →
      Step E s (.laneLost i) ((s.returned d .requeue).setLane i .idle)
  | lease {s : System} {config run locked now db' events reported} :
      OutboxRelayConfig.valid config = true → config.maxAttempts = E.maxAttempts →
      config.leaseToken run ∉ s.tokens →
      claimBatch config run locked now s.db = .ok (db', events) →
      Step E s (.lease now events reported) { s with
        db := db'
        tokens := config.leaseToken run :: s.tokens
        jobs := s.jobs ++ if reported then events.map (⟨·, none⟩) else [] }
  | leaseFailed {s : System} {token} : Step E s .leaseFailed { s with tokens := token :: s.tokens }
  | publish {s : System} {leased before after reply contextError kept} :
      s.jobs = before ++ ⟨leased, none⟩ :: after → (reply = .ack none → kept = true) →
      Step E s (.publish leased reply) { s with
        queue := s.queue ++
          if kept then (publish .default ⟨leased.event, leased.attemptNumber⟩ reply).1.toList else []
        jobs := before ++
          ⟨leased, some ((publish .default ⟨leased.event, leased.attemptNumber⟩ reply).2,
            contextError)⟩ :: after }
  | record {s : System} {leased published contextError delay completion now db' before after} :
      s.jobs = before ++ ⟨leased, some (published, contextError)⟩ :: after →
      decideCompletion E.maxAttempts leased.attemptNumber published contextError delay = .ok completion →
      recordCompletion leased.reference now s.db completion = .ok db' →
      Step E s (.record leased completion) { s with db := db', jobs := before ++ after }
  | recordFailed {s : System} {leased published contextError delay completion now e before after} :
      s.jobs = before ++ ⟨leased, some (published, contextError)⟩ :: after →
      decideCompletion E.maxAttempts leased.attemptNumber published contextError delay = .ok completion →
      recordCompletion leased.reference now s.db completion = .error e →
      Step E s (.recordFailed leased (completionOutcome (α := Db) completion.success (.error e)))
        { s with jobs := before ++ after }
  | jobLost {s : System} {job before after} : s.jobs = before ++ job :: after →
      Step E s (.jobLost job.leased) { s with jobs := before ++ after }

/-- A fresh installation: tenants, and nothing else. -/
def Initial (s : System) : Prop :=
  (∃ tenants, s.db = ⟨tenants, [], [], [], []⟩) ∧ s.lanes = (fun _ => .idle) ∧ s.queue = [] ∧ s.dead = [] ∧
    s.jobs = [] ∧ s.tokens = []

abbrev History := List (Action × System)

/-- `s` is reached by the run with history `h`. -/
abbrev Reached (E : Env) (h : History) (s : System) : Prop := Run Initial (Step E) h s

end MailService
