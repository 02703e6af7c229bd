import MailService.Acceptance
import MailService.Envelope
/-!
# What a submission was checked for

`Submit` before its transaction: what the normalised command, the resolved
template and the sealed payload are known to satisfy, and that the events of the
message it creates can be mapped.
-/
open Text Checks

namespace MailService

variable {L : Libs}

/-! ## The normalised command -/

/-- What `normalizeSubmission` has checked of a command. -/
structure SubmitEmailCommand.Checked (L : Libs) (c : SubmitEmailCommand)
    (email locale templateVariables metadata : String) : Prop where
  tenantID : isUUID c.tenantID = true
  idempotencyKey : idempotencyKeyPattern c.idempotencyKey = true
  recipientEmail : normalizeEmail L c.recipientEmail = .ok email
  recipientDisplayName : runeCount c.recipientDisplayName ≤ 128 ∧ hasLineBreak c.recipientDisplayName = false
  senderIdentityKey : validRegisteredKey c.senderIdentityKey 64 = true
  templateKey : validRegisteredKey c.templateKey 128 = true
  templateVersion : c.templateVersion ≠ some 0
  locale : L.languageParse c.locale = some locale ∧ localePattern c.locale = true ∧ len c.locale ≤ 35
  policy : c.category.valid = true ∧ c.priority ≤ 9 ∧ c.duplicateRiskPolicy.valid = true
  dispatchDeadline : c.dispatchDeadline ≠ 0
  templateVariables : canonicalJSONObject c.templateVariables (16 * 1024) 8 "template variables" =
    .ok templateVariables
  metadata : normalizeMetadata c.metadata = .ok metadata

/-- The command that `normalizeSubmission` returns. -/
def SubmitEmailCommand.normalized (c : SubmitEmailCommand) (email locale templateVariables : String) :
    SubmitEmailCommand :=
  { c with
    recipientEmail := email
    locale := locale
    templateVariables := templateVariables
    dispatchDeadline := truncate c.dispatchDeadline
    scheduledAt := c.scheduledAt.map truncate
    metadata := none }

theorem normalizeSubmission_eq_ok {c normalized : SubmitEmailCommand} {metadata : String} :
    normalizeSubmission L c = .ok (normalized, metadata) ↔ ∃ email locale templateVariables,
      c.Checked L email locale templateVariables metadata ∧
      normalized = c.normalized email locale templateVariables := by
  simp only [normalizeSubmission, bind_eq_ok, check_eq_ok]
  constructor
  · rintro ⟨_, htenant, _, hkey, email, hemail, _, hname, _, hsender, _, htemplate, _, hversion, h⟩
    split at h
    · simp at h
    · rename_i locale hlocale
      simp only [bind_eq_ok, check_eq_ok, pure_eq_ok, Prod.mk.injEq] at h
      obtain ⟨_, hpattern, _, hpolicy, _, hdeadline, templateVariables, hvars, encoded,
          hmetadata, rfl, rfl⟩ := h
      exact ⟨email, locale, templateVariables, ⟨htenant, hkey, hemail, hname, hsender, htemplate, hversion,
        ⟨hlocale, hpattern⟩, hpolicy, hdeadline, hvars, hmetadata⟩, rfl⟩
  · rintro ⟨email, locale, templateVariables, h, rfl⟩
    refine ⟨(), h.tenantID, (), h.idempotencyKey, email, h.recipientEmail, (), h.recipientDisplayName, (),
      h.senderIdentityKey, (), h.templateKey, (), h.templateVersion, ?_⟩
    simp only [h.locale.1, bind_eq_ok, check_eq_ok, pure_eq_ok]
    exact ⟨(), h.locale.2, (), h.policy, (), h.dispatchDeadline, templateVariables,
      h.templateVariables, metadata, h.metadata, rfl⟩

theorem isKeyChar_ascii {c : Char} (h : isKeyChar c = true) : isSpace c = false ∧ c.utf8Size = 1 := by
  have hrange : 32 < c.toNat ∧ c.toNat < 128 := by
    have halpha : c.isAlpha =
        (decide (c.val ≥ 65 ∧ c.val ≤ 90) || (decide (c.val ≥ 97) && decide (c.val ≤ 122))) := rfl
    simp only [isKeyChar, isAlphanumeric, halpha, Char.isDigit, Bool.or_eq_true,
      Bool.and_eq_true, decide_eq_true_eq, UInt32.le_iff_toNat_le, ge_iff_le, List.mem_cons,
      List.not_mem_nil, or_false] at h
    change (((65 ≤ c.toNat ∧ c.toNat ≤ 90) ∨ (97 ≤ c.toNat ∧ c.toNat ≤ 122)) ∨
      (48 ≤ c.toNat ∧ c.toNat ≤ 57)) ∨ _ at h
    rcases h with ((h | h) | h) | rfl | rfl | rfl | rfl
    · omega
    · omega
    · omega
    all_goals decide
  constructor
  · simp only [isSpace, List.mem_cons, List.not_mem_nil, or_false, Bool.or_eq_false_iff,
      decide_eq_false_iff_not, Bool.and_eq_false_iff]
    omega
  · rw [Char.utf8Size_eq_one_iff, UInt32.le_iff_toNat_le]
    change c.toNat ≤ 127
    omega

/-- An idempotency key is a short text without white space. -/
theorem trimmedWithin_of_idempotencyKeyPattern {key : String} (h : idempotencyKeyPattern key = true) :
    trimmedWithin key 255 := by
  simp only [idempotencyKeyPattern, Bool.and_eq_true, decide_eq_true_eq, List.all_eq_true] at h
  obtain ⟨⟨hne, hlength⟩, hchars⟩ := h
  have htrim : trimSpace key = key := trimSpace_of_none_space fun c hc => (isKeyChar_ascii (hchars c hc)).1
  obtain ⟨c, hc⟩ := List.exists_mem_of_ne_nil _ hne
  refine ⟨trimSpace_ne_empty hc (isKeyChar_ascii (hchars c hc)).1, htrim, ?_⟩
  rw [len_eq_utf8Len, Uuid.utf8Len_eq_length fun c hc => (isKeyChar_ascii (hchars c hc)).2]
  omega

/-! ## The payload -/

theorem canonicalJSONObject_eq_ok {raw field canonical : String} {maximum depth : Nat} :
    canonicalJSONObject raw maximum depth field = .ok canonical ↔ (len raw ≠ 0 ∧ len raw ≤ maximum) ∧
      ∃ v, Json.parse raw = some v ∧ Json.depth v ≤ Json.maxNestingDepth ∧
        (Json.canon Json.goOrder v).isObject = true ∧
        Json.depth (Json.canon Json.goOrder v) ≤ depth ∧ len canonical ≤ maximum ∧
        canonical = Json.marshal .go (Json.canon Json.goOrder v) := by
  rw [canonicalJSONObject, check_bind_eq_ok]
  refine and_congr_right fun _ => ?_
  cases Json.parse raw with
  | none => simp
  | some v =>
    simp only [check_bind_eq_ok, pure_eq_ok, Option.some.injEq, exists_eq_left']
    refine and_congr_right fun _ => ?_
    constructor
    · rintro ⟨⟨hobject, hdepth⟩, hlen, rfl⟩
      exact ⟨hobject, hdepth, hlen, rfl⟩
    · rintro ⟨hobject, hdepth, hlen, rfl⟩
      exact ⟨⟨hobject, hdepth⟩, hlen, rfl⟩

/-- What is written from a canonical object is read as that object. -/
theorem canonicalJSONObject_parse {raw field canonical : String} {maximum depth : Nat}
    (h : canonicalJSONObject raw maximum depth field = .ok canonical) :
    Json.parse canonical = (Json.parse raw).map (Json.canon Json.goOrder) := by
  obtain ⟨-, v, hv, -, -, -, -, rfl⟩ := canonicalJSONObject_eq_ok.1 h
  rw [hv, Json.parse_marshal .go (Json.wf_canon v (Json.wf_of_parse_eq hv))]
  rfl

theorem validateResolvedTemplate_eq_ok {c : SubmitEmailCommand} {resolved : ResolvedTemplate} :
    validateResolvedTemplate c resolved = .ok () ↔
      (resolved.key = c.templateKey ∧ resolved.version ≠ 0 ∧ resolved.locale ≠ "") ∧
      (∀ version ∈ c.templateVersion, resolved.version = version) ∧ resolved.locale = c.locale ∧
      ∃ text, resolvedVariables resolved = .ok text := by
  rw [validateResolvedTemplate, check_bind_eq_ok, check_bind_eq_ok, check_bind_eq_ok, bind_eq_ok]
  simp only [pure_eq_ok, and_true]

theorem canonicalSubmissionPayload_eq_ok {c : SubmitEmailCommand} {resolved : ResolvedTemplate}
    {metadata canonical : String} : canonicalSubmissionPayload L c resolved metadata = .ok canonical ↔
      ∃ text templateVariables map scheduledAt dispatchDeadline, resolvedVariables resolved = .ok text ∧
        Json.parse text = some templateVariables ∧ Json.parse metadata = some map ∧
        c.scheduledAt.mapM L.formatTime = some scheduledAt ∧
        L.formatTime c.dispatchDeadline = some dispatchDeadline ∧
        canonical = Json.marshal .go
          (payloadValue c resolved templateVariables map scheduledAt dispatchDeadline) := by
  rw [canonicalSubmissionPayload, bind_eq_ok]
  constructor
  · rintro ⟨text, htext, h⟩
    split at h
    · rename_i v map at' deadline hv hmap hat hdeadline
      exact ⟨text, v, map, at', deadline, htext, hv, hmap, hat, hdeadline, (pure_eq_ok.1 h).symm⟩
    · simp at h
  · rintro ⟨text, v, map, at', deadline, htext, hv, hmap, hat, hdeadline, rfl⟩
    refine ⟨text, htext, ?_⟩
    rw [hv, hmap, hat, hdeadline]
    rfl

/-! ## The prepared submission -/

theorem Protector.sealPayload_eq_ok {p : Protector} {nonce : Nonce} {associatedData plaintext : String}
    {s : ProtectedPayload} :
    p.sealPayload nonce associatedData plaintext = .ok s ↔
      (associatedData ≠ "" ∧ plaintext ≠ "") ∧ s.validate = .ok () ∧
      s = ⟨p.keyID, nonce.bytes ++ p.aeadSeal nonce.bytes plaintext associatedData⟩ := by
  rw [sealPayload, check_bind_eq_ok]
  refine and_congr_right fun _ => ?_
  rw [unit_bind_eq_ok, pure_eq_ok]
  constructor
  · rintro ⟨hvalid, rfl⟩
    exact ⟨hvalid, rfl⟩
  · rintro ⟨hvalid, rfl⟩
    exact ⟨hvalid, rfl⟩

/-- What `Submit` knows when its transaction begins. -/
structure PreparedSubmission.From (p : PreparedSubmission) (L : Libs) (catalog : SubmissionCatalog)
    (protector : Protector) (c : SubmitEmailCommand) (drawn : Uuid) (nonce : Nonce)
    (email locale templateVariables : String) : Prop where
  checked : c.Checked L email locale templateVariables p.metadata
  normalized : p.normalized = c.normalized email locale templateVariables
  authorized : catalog.authorizeSender c.tenantID c.senderIdentityKey = .ok ()
  resolved : catalog.resolve ⟨c.tenantID, c.templateKey, c.templateVersion, locale, templateVariables⟩ =
    .ok p.resolved
  template : validateResolvedTemplate p.normalized p.resolved = .ok ()
  canonical : canonicalSubmissionPayload L p.normalized p.resolved p.metadata = .ok p.canonical
  messageID : p.messageID = drawn.text
  sealedPayload : protector.sealPayload nonce
    (c.tenantID ++ "/" ++ drawn.text) p.canonical = .ok p.sealedPayload
  sealedValid : p.sealedPayload.validate = .ok ()
  fingerprint : p.fingerprint = protector.fingerprint p.canonical

theorem prepareSubmission_eq_ok {catalog : SubmissionCatalog} {protector : Protector} {c : SubmitEmailCommand}
    {messageID : Uuid} {nonce : Nonce} {p : PreparedSubmission} :
    prepareSubmission L catalog protector c messageID nonce = .ok p ↔
      ∃ email locale templateVariables,
      p.From L catalog protector c messageID nonce email locale templateVariables := by
  simp only [prepareSubmission, bind_eq_ok, Prod.exists, normalizeSubmission_eq_ok,
    mapError_ok_iff, pure_eq_ok]
  constructor
  · rintro ⟨_, metadata, ⟨email, locale, templateVariables, hchecked, rfl⟩, _, hauth, resolved,
      hresolve, _, htemplate, canonical, hcanonical, sealedPayload, hseal, _, hvalid, rfl⟩
    exact ⟨email, locale, templateVariables, hchecked, rfl, hauth, hresolve, htemplate, hcanonical,
      rfl, hseal, hvalid, rfl⟩
  · rintro ⟨email, locale, templateVariables, h⟩
    have hn := h.normalized
    refine ⟨p.normalized, p.metadata, ⟨email, locale, templateVariables, h.checked, hn⟩,
      (), by rw [hn]; exact h.authorized, p.resolved, by rw [hn]; exact h.resolved, (), h.template,
      p.canonical, h.canonical, p.sealedPayload, by rw [hn]; exact h.sealedPayload,
      (), h.sealedValid, ?_⟩
    rw [← h.messageID, ← h.fingerprint]

/-- The times of a normalised command are whole microseconds. -/
theorem PreparedSubmission.From.truncated {p : PreparedSubmission} {catalog : SubmissionCatalog}
    {protector : Protector} {c : SubmitEmailCommand} {drawn : Uuid} {nonce : Nonce}
    {email locale templateVariables : String}
    (h : p.From L catalog protector c drawn nonce email locale templateVariables) :
    truncate p.normalized.dispatchDeadline = p.normalized.dispatchDeadline ∧
      p.normalized.scheduledAt.map truncate = p.normalized.scheduledAt := by
  have htwice : truncate ∘ truncate = truncate := funext truncate_truncate
  rw [h.normalized]
  refine ⟨truncate_truncate _, ?_⟩
  change (c.scheduledAt.map truncate).map truncate = c.scheduledAt.map truncate
  rw [Option.map_map, htwice]

/-! ## The events of a new message -/

/-- An event that says nothing but how its message moved. -/
structure Event.Silent (e : Event) : Prop where
  failure : e.failure = .zero
  reasonCode : e.reasonCode = ""
  providerMessageID : e.providerMessageID = ""

theorem Event.Silent.described {e : Event} (h : e.Silent) : e.Described := by
  refine ⟨.inl h.failure, ?_, ?_⟩
  · rw [h.reasonCode]
    decide
  · rw [h.providerMessageID]
    decide

theorem Message.new_silent {params : NewParams} {m : Message} (h : Message.new params = .ok m) :
    ∀ e ∈ m.pendingEvents, e.Silent := by
  obtain ⟨-, rfl⟩ := Message.new_eq_ok.1 h
  intro e he
  unfold routedMessage at he
  split at he
  · simp only [changeStatus, acceptedMessage, List.cons_append, List.nil_append,
      List.mem_cons, List.not_mem_nil, or_false] at he
    rcases he with rfl | rfl <;> exact ⟨rfl, rfl, rfl⟩
  · simp only [queuedMessage, changeStatus, requestDispatch, acceptedMessage, List.cons_append,
      List.nil_append, List.mem_cons, List.not_mem_nil, or_false] at he
    rcases he with rfl | rfl | rfl <;> exact ⟨rfl, rfl, rfl⟩

/-- They can be mapped, all of them. -/
theorem Message.new_proper {params : NewParams} {m : Message} (h : Message.new params = .ok m)
    (hmax : params.maxAttempts ≤ 10) : ∀ e ∈ m.pendingEvents, e.Proper m.id := by
  obtain ⟨hmoved, -, -, -, hpos⟩ := Message.new_moved h
  have hcounted := hmoved.counted (acceptedMessage_counted hpos hmax)
  intro e he
  have hd := (Message.new_silent h e he).described
  rcases hmoved.proper hcounted e he with hold | hnew
  · -- the acceptance itself
    simp only [acceptedMessage, List.mem_singleton] at hold
    subst hold
    have hsequence : 0 < 1 ∧ 1 ≤ maxInt64 := by decide
    have hsource : len (Status.unknown "").text ≤ 32 := by decide
    exact ⟨hd, hmoved.id.symm, hsequence, Nat.zero_le _, by simp, Nat.zero_le _, hsource, rfl⟩
  · exact hnew hd

end MailService
