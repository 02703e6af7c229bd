import MailService.Ports
import Mathlib.Data.Nat.Digits.Defs
/-!
# The SMTP provider

`internal/provider/smtp`: one exchange with the mail server and the result the
provider makes of its error. The network and the server are a `Session`: what
each step of the exchange returned, and the state of the context when it did.
`Quit` is left out, since its result is dropped, and so are the deadlines, whose
effect is an error of the step they interrupt.

The question is what becomes of a message whose body was already committed. Its
final reply decides between a failure, after which the worker sends again, and
an unknown submission, after which it does not.
-/
open Text Checks

namespace MailService

/-! ## The exchange -/

inductive ExchangePhase
  | connect | tls | greeting | auth | mailFrom | recipient | data | dataWrite | dataCommit
  deriving DecidableEq, Repr

def ExchangePhase.text : ExchangePhase → String
  | connect => "CONNECT"
  | tls => "TLS"
  | greeting => "GREETING"
  | auth => "AUTH"
  | mailFrom => "MAIL_FROM"
  | recipient => "RECIPIENT"
  | data => "DATA"
  | dataWrite => "DATA_WRITE"
  | dataCommit => "DATA_COMMIT"

structure ExchangeError where
  phase : ExchangePhase
  statusCode : Int := 0
  timedOut : Bool := false
  canceled : Bool := false
  network : Bool := false
  protocol : Bool := false
  deriving DecidableEq, Repr

/-- What `exchangeError` reads off an error: the code of a `*textproto.Error`, the
context errors and `ErrAuthMechanismUnavailable` in its chain, and for a `net.Error`
whether it is a timeout. -/
structure StepError where
  replyCode : Option Int := none
  context : Option ContextError := none
  networkTimeout : Option Bool := none
  authMechanismUnavailable : Bool := false
  deriving DecidableEq, Repr

def exchangeError (contextErr : Option ContextError) (phase : ExchangePhase) (err : StepError) :
    ExchangeError where
  phase := phase
  statusCode := err.replyCode.getD 0
  timedOut := contextErr = some .deadlineExceeded ∨ err.context = some .deadlineExceeded ∨
    err.networkTimeout = some true
  canceled := contextErr = some .canceled ∨ err.context = some .canceled
  network := err.networkTimeout.isSome
  protocol := err.authMechanismUnavailable

/-- How the server answered the committed message. -/
inductive Closing
  | answered (code : Int)
  | unanswered (err : StepError)
  deriving DecidableEq, Repr

/-- The reply to the committed message, when there was one. -/
def Closing.reply : Closing → Option Int
  | answered code => some code
  | unanswered _ => none

/-- Closing the `DATA` writer: a reply other than 250 is a `*textproto.Error` with its
code, and an error without a reply is none. -/
def Closing.close : Closing → Option StepError
  | answered code => if code = 250 then none else some { replyCode := some code }
  | unanswered err => some { err with replyCode := none }

/-- One exchange: the error of each step, if it failed, and the context's error on entry
and when a phase failed. -/
structure Session where
  entry : Option ContextError
  contextErr : ExchangePhase → Option ContextError
  dial : Option StepError
  setDeadline : Option StepError
  handshake : Option StepError
  newClient : Option StepError
  auth : Option StepError
  mail : Option StepError
  rcpt : Option StepError
  data : Option StepError
  write : Nat × Option StepError
  closing : Closing

/-- `if err != nil { return exchangeError(ctx, phase, err) }`. -/
def Session.step (s : Session) (phase : ExchangePhase) (err : Option StepError) : Except ExchangeError Unit :=
  match err with
  | none => .ok ()
  | some err => .error (exchangeError (s.contextErr phase) phase err)

/-- `ClientTransport.Deliver`. -/
def ClientTransport.deliver (fromAddress : String) (s : Session) (material : DeliveryMaterial) :
    Except ExchangeError Unit := do
  check (material.validate = .ok () ∧ material.envelopeFrom = fromAddress) { phase := .mailFrom }
  match s.entry with
  | some err => throw (exchangeError (some err) .connect { context := some err })
  | none => pure ()
  s.step .connect s.dial
  s.step .connect s.setDeadline
  s.step .tls s.handshake
  s.step .greeting s.newClient
  s.step .auth s.auth
  s.step .mailFrom s.mail
  s.step .recipient s.rcpt
  s.step .data s.data
  -- `io.ErrShortWrite` when the writer took fewer bytes without an error
  s.step .dataWrite (match s.write with
    | (_, some err) => some err
    | (written, none) => if written ≠ len material.mimeMessage then some {} else none)
  s.step .dataCommit s.closing.close

/-! ## The provider -/

/-- What a `Transport` returns: an `*ExchangeError` in its chain, or not. -/
inductive TransportError
  | exchange (err : ExchangeError)
  | other
  deriving DecidableEq, Repr

namespace Smtp

def failed (category : FailureCategory) (code : String) (retryable : Bool) : ProviderResult where
  outcome := .failed
  providerMessageID := ""
  failure := some { category, code, retryable }

def statusCode (exchange : ExchangeError) : String :=
  "SMTP_" ++ exchange.phase.text ++ "_" ++ toString exchange.statusCode

/-- The category of a 5xx reply, by the command it answers. -/
def permanentCategory : ExchangePhase → FailureCategory
  | .auth => .authentication
  | .mailFrom => .validation
  | .recipient => .recipientRejected
  | .data | .dataCommit => .contentRejected
  | _ => .providerDown

def classifyFailure : TransportError → ProviderResult
  | .other => failed .providerDown "SMTP_TRANSPORT_INTERNAL" true
  | .exchange exchange =>
    if exchange.phase = .dataCommit ∧ exchange.statusCode = 0 then
      { outcome := .submissionUnknown
        providerMessageID := ""
        failure := some ⟨.submissionUnknown, "SMTP_DATA_COMMIT_RESULT_UNKNOWN", false⟩ }
    else if 400 ≤ exchange.statusCode ∧ exchange.statusCode ≤ 499 then
      let category :=
        if exchange.statusCode = 450 ∨ exchange.statusCode = 452 then .rateLimited else .providerDown
      failed category (statusCode exchange) true
    else if exchange.statusCode = 503 then failed .validation "SMTP_PROTOCOL_503" false
    else if 500 ≤ exchange.statusCode ∧ exchange.statusCode ≤ 599 then
      failed (permanentCategory exchange.phase) (statusCode exchange) false
    else if exchange.phase = .auth ∧ exchange.protocol then
      failed .authentication "SMTP_AUTH_MECHANISM_UNAVAILABLE" false
    else if exchange.timedOut then failed .timeoutBeforeSend "SMTP_TIMEOUT_BEFORE_COMMIT" true
    else if exchange.canceled then failed .network "SMTP_CANCELED_BEFORE_COMMIT" true
    else failed .network "SMTP_NETWORK_BEFORE_COMMIT" true

/-- The requests that reach the transport. -/
def sends (fromAddress : String) (request : ProviderRequest) : Prop :=
  request.validate = .ok () ∧ request.material.envelopeFrom = fromAddress

instance (fromAddress : String) (request : ProviderRequest) : Decidable (sends fromAddress request) :=
  inferInstanceAs (Decidable (_ ∧ _))

/-- `Provider.Submit` over any transport. -/
def submit (fromAddress : String) (deliver : DeliveryMaterial → Except TransportError Unit)
    (request : ProviderRequest) : ProviderResult :=
  if sends fromAddress request then
    match deliver request.material with
    | .ok () => { outcome := .accepted, providerMessageID := "smtp/" ++ request.attemptID, failure := none }
    | .error err => classifyFailure err
  else failed .validation "SMTP_REQUEST_INVALID" false

/-- The transport `New` gives the provider. -/
def client (fromAddress : String) (s : Session) (material : DeliveryMaterial) : Except TransportError Unit :=
  (ClientTransport.deliver fromAddress s material).mapError .exchange

/-! ## Every result is valid -/

theorem failed_validate {category : FailureCategory} {code : String} {retryable : Bool}
    (hv : category.valid = true) (hc : category ≠ .submissionUnknown) (ht : trimSpace code ≠ "")
    (hl : len code ≤ 128) :
    (failed category code retryable).validate = .ok () := by
  have hf : (Failure.mk category code retryable).validate = .ok () := by
    simp [Failure.validate, hv, ht, Nat.not_lt.2 hl]
  simp [ProviderResult.validate, failed, onlyFailure, hf, hc, Except.mapError]

/-- The reply rejects the message. -/
def rejects (code : Int) : Prop := 400 ≤ code ∧ code ≤ 599

instance (code : Int) : Decidable (rejects code) := inferInstanceAs (Decidable (_ ∧ _))

theorem len_toString_code {code : Int} (h : rejects code) : len (toString code) ≤ 12 := by
  unfold rejects at h
  obtain ⟨n, rfl⟩ := Int.eq_ofNat_of_zero_le (show 0 ≤ code by omega)
  have hn : (Nat.repr n).length ≤ 3 := Nat.repr_length n 3 (by omega) (by omega)
  calc len (toString (n : Int)) = len (Nat.repr n) := rfl
    _ ≤ 4 * (Nat.repr n).length := len_le_four_mul_runeCount _
    _ ≤ 12 := by omega

theorem statusCode_len {exchange : ExchangeError} (h : rejects exchange.statusCode) :
    len (statusCode exchange) ≤ 128 := by
  have hp : len exchange.phase.text ≤ 11 := by
    generalize exchange.phase = phase
    cases phase <;> decide
  have hn := len_toString_code h
  have h5 : len "SMTP_" = 5 := by decide
  have h1 : len "_" = 1 := by decide
  simp only [statusCode, len_append]
  omega

theorem statusCode_ne_blank (exchange : ExchangeError) : trimSpace (statusCode exchange) ≠ "" :=
  trimSpace_ne_empty (c := 'S') (by simp [statusCode, String.toList_append]) (by decide)

theorem failed_statusCode_validate {exchange : ExchangeError} {category : FailureCategory} {retryable : Bool}
    (h : rejects exchange.statusCode) (hv : category.valid = true) (hc : category ≠ .submissionUnknown) :
    (failed category (statusCode exchange) retryable).validate = .ok () :=
  failed_validate hv hc (statusCode_ne_blank exchange) (statusCode_len h)

theorem classifyFailure_validate (err : TransportError) : (classifyFailure err).validate = .ok () := by
  cases err with
  | other => exact failed_validate rfl (by decide) (by decide) (by decide)
  | exchange exchange =>
    unfold classifyFailure
    dsimp only
    split_ifs with hunknown htemporary hlimited h503 hpermanent hauth htimeout hcanceled
    · rfl
    · exact failed_statusCode_validate ⟨htemporary.1, by omega⟩ rfl (by decide)
    · exact failed_statusCode_validate ⟨htemporary.1, by omega⟩ rfl (by decide)
    · exact failed_validate rfl (by decide) (by decide) (by decide)
    · have hcategory : (permanentCategory exchange.phase).valid = true ∧
          permanentCategory exchange.phase ≠ .submissionUnknown := by
        generalize exchange.phase = phase
        cases phase <;> decide
      exact failed_statusCode_validate ⟨by omega, hpermanent.2⟩ hcategory.1 hcategory.2
    · exact failed_validate rfl (by decide) (by decide) (by decide)
    · exact failed_validate rfl (by decide) (by decide) (by decide)
    · exact failed_validate rfl (by decide) (by decide) (by decide)
    · exact failed_validate rfl (by decide) (by decide) (by decide)

theorem submit_error {fromAddress : String} {deliver : DeliveryMaterial → Except TransportError Unit}
    {request : ProviderRequest} {err : TransportError} (hs : sends fromAddress request)
    (hd : deliver request.material = .error err) :
    submit fromAddress deliver request = classifyFailure err := by
  simp [submit, hs, hd]

/-- A result for a failed exchange passes the check of the port, and so does the refusal
of a request that is never sent. -/
theorem submit_validate {fromAddress : String} {deliver : DeliveryMaterial → Except TransportError Unit}
    {request : ProviderRequest} {err : TransportError} (hd : deliver request.material = .error err) :
    (submit fromAddress deliver request).validate = .ok () := by
  by_cases hs : sends fromAddress request
  · rw [submit_error hs hd]
    exact classifyFailure_validate err
  · simp only [submit, hs, if_false]
    exact failed_validate rfl (by decide) (by decide) (by decide)

/-! ## What the committed message's reply becomes -/

theorem step_phase {s : Session} {phase : ExchangePhase} {err : Option StepError} {e : ExchangeError}
    (h : s.step phase err = .error e) : e.phase = phase := by
  cases err with
  | none => cases h
  | some err =>
    cases h
    rfl

/-- Only the last step fails in the phase of the commit, with the code of the reply. -/
theorem deliver_commit {fromAddress : String} {s : Session} {material : DeliveryMaterial} {e : ExchangeError}
    (h : ClientTransport.deliver fromAddress s material = .error e) (hp : e.phase = .dataCommit) :
    e.statusCode = s.closing.reply.getD 0 ∧ s.closing.reply ≠ some 250 := by
  -- a step before the last one that fails does so in its own phase
  have skip {phase : ExchangePhase} {err : Option StepError} {f : Unit → Except ExchangeError Unit}
      (hne : phase ≠ .dataCommit) (he : (s.step phase err >>= f) = .error e) : f () = .error e := by
    rcases bind_eq_error.1 he with hstep | ⟨_, -, hf⟩
    · exact absurd ((step_phase hstep).symm.trans hp) hne
    · exact hf
  unfold ClientTransport.deliver at h
  rcases check_bind_eq_error.1 h with ⟨-, rfl⟩ | ⟨-, h⟩
  · cases hp
  cases hs : s.entry with
  | some err =>
    simp only [hs] at h
    cases h
    cases hp
  | none =>
    simp only [hs] at h
    iterate 9 replace h := skip (by decide) h
    cases hc : s.closing with
    | unanswered err =>
      simp only [hc, Closing.close, Session.step] at h
      cases h
      exact ⟨rfl, nofun⟩
    | answered code =>
      simp only [hc, Closing.close] at h
      split_ifs at h with h250
      · cases h
      · cases h
        exact ⟨rfl, by simpa [Closing.reply] using h250⟩

/-- No reply, or one that leaves open whether the server took the message, is reported as
an unknown submission, and a failure is only reported for a reply that rejects it. -/
def CommitSafe (exchange : ExchangeError) (r : ProviderResult) : Prop :=
  exchange.phase = .dataCommit →
    (r.outcome = .failed → rejects exchange.statusCode) ∧
    (¬ rejects exchange.statusCode →
      r.outcome = .submissionUnknown ∧ ∃ f, r.failure = some f ∧ f.retryable = false)

theorem classifyFailure_silent {exchange : ExchangeError} (hp : exchange.phase = .dataCommit)
    (h0 : exchange.statusCode = 0) : classifyFailure (.exchange exchange) =
      ⟨.submissionUnknown, "", some ⟨.submissionUnknown, "SMTP_DATA_COMMIT_RESULT_UNKNOWN", false⟩⟩ := by
  simp [classifyFailure, hp, h0]

theorem classifyFailure_failed {exchange : ExchangeError}
    (h : exchange.phase = .dataCommit → exchange.statusCode ≠ 0) :
    (classifyFailure (.exchange exchange)).outcome = .failed := by
  have hne : ¬ (exchange.phase = .dataCommit ∧ exchange.statusCode = 0) := fun ⟨hp, h0⟩ => h hp h0
  simp only [classifyFailure, hne, if_false]
  split_ifs <;> rfl

/-- A committed message's reply is classified by what it leaves open when there is none or
it rejects the message. -/
theorem classifyFailure_commit {exchange : ExchangeError} :
    CommitSafe exchange (classifyFailure (.exchange exchange)) ↔
      (exchange.phase = .dataCommit → exchange.statusCode = 0 ∨ rejects exchange.statusCode) := by
  constructor
  · intro h hp
    by_contra hcode
    obtain ⟨h0, hr⟩ := not_or.1 hcode
    -- any other reply falls through to a failure
    have hfailed := classifyFailure_failed fun _ => h0
    rw [((h hp).2 hr).1] at hfailed
    cases hfailed
  · intro h hp
    rcases h hp with h0 | hr
    · rw [classifyFailure_silent hp h0]
      exact ⟨nofun, fun _ => ⟨rfl, _, rfl, rfl⟩⟩
    · exact ⟨fun _ => hr, fun hn => absurd hr hn⟩

/-- The results of a failed exchange pass the check of the port. For a message that was
committed they say what its reply leaves open exactly when the server gave no reply, or
one in the ranges 4xx and 5xx; and the code of the exchange's error is the server's. -/
theorem submit_commit_safe_iff {fromAddress : String}
    {deliver : DeliveryMaterial → Except TransportError Unit} {request : ProviderRequest}
    {err : TransportError} (hd : deliver request.material = .error err) :
    (submit fromAddress deliver request).validate = .ok () ∧
    ∀ exchange, err = .exchange exchange →
      (sends fromAddress request → (CommitSafe exchange (submit fromAddress deliver request) ↔
        (exchange.phase = .dataCommit → exchange.statusCode = 0 ∨ rejects exchange.statusCode))) ∧
      ∀ s, deliver = client fromAddress s → exchange.phase = .dataCommit →
        exchange.statusCode = s.closing.reply.getD 0 ∧ s.closing.reply ≠ some 250 := by
  refine ⟨submit_validate hd, ?_⟩
  rintro exchange rfl
  constructor
  · intro hs
    rw [submit_error hs hd]
    exact classifyFailure_commit
  · rintro s rfl hp
    have he : ClientTransport.deliver fromAddress s request.material = .error exchange := by
      cases hx : ClientTransport.deliver fromAddress s request.material with
      | ok _ => simp [client, hx, Except.mapError] at hd
      | error e => simpa [client, hx, Except.mapError] using hd
    exact deliver_commit he hp

/-- An exchange in which every step succeeds until the server answers the commit. -/
def answering (code : Int) : Session where
  entry := none
  contextErr := fun _ => none
  dial := none
  setDeadline := none
  handshake := none
  newClient := none
  auth := none
  mail := none
  rcpt := none
  data := none
  write := (7, none)
  closing := .answered code

def sampleRequest : ProviderRequest where
  attemptID := "00000000-0000-4000-8000-000000000001"
  messageID := "00000000-0000-4000-8000-000000000002"
  tenantID := "00000000-0000-4000-8000-000000000003"
  attemptNumber := 1
  dispatchGeneration := 1
  category := .critical
  duplicateRiskPolicy := .avoidDuplicate
  material := { envelopeFrom := "a@b.c", envelopeTo := "d@e.f", mimeMessage := "x\r\n\r\nyz" }

theorem sampleRequest_sends : sends "a@b.c" sampleRequest := by decide +kernel

/-- A server that answers the committed message with 251, a success code, has it sent again. -/
theorem submit_success_reply_retried :
    sends "a@b.c" sampleRequest ∧
    client "a@b.c" (answering 251) sampleRequest.material =
      .error (.exchange { phase := .dataCommit, statusCode := 251 }) ∧
    submit "a@b.c" (client "a@b.c" (answering 251)) sampleRequest =
      failed .network "SMTP_NETWORK_BEFORE_COMMIT" true ∧
    ¬ CommitSafe { phase := .dataCommit, statusCode := 251 }
      (submit "a@b.c" (client "a@b.c" (answering 251)) sampleRequest) := by
  have hd : client "a@b.c" (answering 251) sampleRequest.material =
      .error (.exchange { phase := .dataCommit, statusCode := 251 }) := by decide +kernel
  refine ⟨sampleRequest_sends, hd, ?_⟩
  rw [submit_error sampleRequest_sends hd]
  refine ⟨by decide, fun h => ?_⟩
  exact absurd ((h rfl).1 (by decide)) (by decide)

theorem submit_commit_safe_iff_rejected :
    client "a@b.c" (answering 451) sampleRequest.material =
      .error (.exchange { phase := .dataCommit, statusCode := 451 }) ∧
    CommitSafe { phase := .dataCommit, statusCode := 451 }
      (submit "a@b.c" (client "a@b.c" (answering 451)) sampleRequest) := by
  have hd : client "a@b.c" (answering 451) sampleRequest.material =
      .error (.exchange { phase := .dataCommit, statusCode := 451 }) := by decide +kernel
  refine ⟨hd, ?_⟩
  exact (((submit_commit_safe_iff hd).2 _ rfl).1 sampleRequest_sends).2 fun _ => .inr (by decide)

end Smtp

end MailService
