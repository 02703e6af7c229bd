import MailService.Fingerprint
/-!
# Limits that agree

The same values are checked several times: by `normalizeSubmission`, by the record
before it is stored, by the builder before a delivery and by the MIME encoder. What
one check accepted, a later one should accept; here it is said when it does. Only
what is computed in between can go wrong, a mask or a canonical locale that is
longer than what it was computed from, and a display name that is counted in
characters first and in bytes later.
-/
open Text Checks

namespace MailService

open Db

variable {L : Libs}

/-! ## Addresses -/

/-- A normalised address passed the checks that the provider's envelope makes. -/
theorem normalizeEmail_bare {value email : String} (h : normalizeEmail L value = .ok email) :
    validBareEmailAddress value = true := by
  simp only [normalizeEmail, check_bind_eq_ok] at h
  obtain ⟨⟨hne, htrim, hlen, hline⟩, hbare, -⟩ := h
  exact decide_eq_true ⟨hne, hlen, htrim.symm, hline, hbare⟩

/-- The normalised address: the local part as it was and the domain in its ASCII form. -/
theorem normalizeEmail_split {value email : String} (h : normalizeEmail L value = .ok email) :
    ∃ localPart domain ascii, splitLast '@' value.toList = some (localPart, domain) ∧
      L.idnaToASCII (.ofList domain) = some ascii ∧
      email = .ofList (localPart ++ '@' :: ascii.toList.map Char.toLower) := by
  simp only [normalizeEmail, check_bind_eq_ok] at h
  obtain ⟨-, -, h⟩ := h
  split at h
  · simp at h
  · simp at h
  · simp at h
  · rename_i localPart domain _ _ hsplit
    split at h
    · simp at h
    · rename_i ascii hascii
      simp only [check_bind_eq_ok, pure_eq_ok] at h
      exact ⟨localPart, domain, ascii, hsplit, hascii, h.2.symm⟩

/-- An address without white space whose domain is in its canonical form already. -/
theorem normalizeEmail_ofList {cs localPart domain : List Char} (hspace : ∀ c ∈ cs, isSpace c = false)
    (hlen : String.utf8Len cs ≤ 254) (hbare : Mail.isBareAddress (.ofList cs) = true)
    (hsplit : splitLast '@' cs = some (localPart, domain)) (hlocal : localPart ≠ []) (hdomain : domain ≠ [])
    (hidna : L.idnaToASCII (.ofList domain) = some (.ofList domain))
    (hlower : domain.map Char.toLower = domain) :
    normalizeEmail L (.ofList cs) = .ok (.ofList cs) := by
  have hcs := splitLast_some hsplit
  have htrim : trimSpace (.ofList cs) = .ofList cs := trimSpace_of_none_space (by simpa using hspace)
  have hline : hasLineBreak (.ofList cs) = false := by
    have hbreak : isSpace '\r' = true ∧ isSpace '\n' = true := by decide
    simp only [hasLineBreak, containsAny, String.toList_ofList, List.any_eq_false,
      decide_eq_true_eq, List.mem_cons, List.not_mem_nil, or_false]
    rintro c hc (rfl | rfl)
    · exact Bool.false_ne_true ((hspace _ hc).symm.trans hbreak.1)
    · exact Bool.false_ne_true ((hspace _ hc).symm.trans hbreak.2)
  have hlen' : len (.ofList cs) ≤ 254 := by rwa [len_ofList]
  have hne : String.ofList cs ≠ "" := by
    intro hempty
    have hlist := congrArg String.toList hempty
    rw [String.toList_ofList, hcs] at hlist
    simp at hlist
  rw [normalizeEmail, check_bind ⟨hne, htrim.symm, hlen', hline⟩, check_bind hbare,
    String.toList_ofList, hsplit]
  cases localPart with
  | nil => exact absurd rfl hlocal
  | cons a as =>
    cases domain with
    | nil => exact absurd rfl hdomain
    | cons d ds =>
      simp only [hidna, String.toList_ofList, hlower, ← hcs]
      rw [check_bind hlen']
      rfl

/-- A masked address shows an `@` or asterisks. -/
theorem maskEmail_notBlank (email : String) : trimSpace (maskEmail email) ≠ "" := by
  have hvisible : isSpace '*' = false ∧ isSpace '@' = false := by decide
  unfold maskEmail
  split
  · exact trimSpace_ne_empty (c := '*') (by decide) hvisible.1
  · exact trimSpace_ne_empty (c := '*') (by decide) hvisible.1
  · exact trimSpace_ne_empty (c := '@') (by simp) hvisible.2

/-! ## The record of a submission -/

theorem validRegisteredKey_notBlank {value : String} {maximum : Nat}
    (h : validRegisteredKey value maximum = true) :
    notBlankWithin value maximum := by
  simp only [validRegisteredKey, Bool.and_eq_true, decide_eq_true_eq] at h
  obtain ⟨hlen, hpattern⟩ := h
  unfold registeredKeyPattern at hpattern
  split at hpattern
  · cases hpattern
  · rename_i c cs hlist
    have hc : isKeyChar c = true := by
      simp only [isKeyChar, (Bool.and_eq_true _ _ ▸ hpattern : _ ∧ _).1, Bool.true_or]
    exact ⟨trimSpace_ne_empty (c := c) (by simp [hlist]) (isKeyChar_ascii hc).1, hlen⟩

theorem isJSONObject_parse {text : String} (h : isJSONObject text = true) :
    ∃ v, Json.parse text = some v := by
  unfold isJSONObject at h
  cases hp : Json.parse text with
  | none => simp [hp] at h
  | some v => exact ⟨v, rfl⟩

/-- The metadata of a submission is a JSON object within its limit. -/
theorem normalizeMetadata_valid {metadata : Option StringMap} {text : String}
    (h : normalizeMetadata metadata = .ok text) :
    (len text ≠ 0 ∧ len text ≤ 4 * 1024) ∧ isJSONObject text = true := by
  obtain ⟨htext, hlen⟩ := normalizeMetadata_eq h
  constructor
  · have := Char.utf8Size_pos '{'
    refine ⟨?_, hlen⟩
    rw [htext, Json.marshal, len_ofList, metadataValue_eq, Json.render, String.utf8Len_cons]
    omega
  · rw [isJSONObject, normalizeMetadata_parse h]
    rfl

/-- The errors that say the service produced an invalid record itself. -/
def Error.ownRecord : Error → Bool
  | .submissionInvariant _ | .invalidMessageRecord _ => true
  | _ => false

/-- What `Submit` knows of a submission when it begins to build the record: the parts
passed their own checks. -/
structure PreparedSubmission.Sanctioned (p : PreparedSubmission) (L : Libs)
    (c : SubmitEmailCommand) (now : Time) : Prop where
  normalized : normalizeSubmission L c = .ok (p.normalized, p.metadata)
  template : validateResolvedTemplate p.normalized p.resolved = .ok ()
  sealedPayload : p.sealedPayload.validate = .ok ()
  messageID : ∃ u : Uuid, p.messageID = u.text
  times : validateSubmissionTimes now p.normalized.scheduledAt p.normalized.dispatchDeadline = .ok ()

/-- The derived values that the record's checks can still refuse. -/
def PreparedSubmission.Fits (p : PreparedSubmission) (now : Time) : Prop :=
  now ≠ 0 ∧ notBlankWithin p.resolved.locale 35 ∧ len (maskEmail p.normalized.recipientEmail) ≤ 254

theorem SubmissionDetails.validate_eq_ok {d : SubmissionDetails} : d.validate = .ok () ↔
    notBlankWithin d.senderIdentityKey 64 ∧ notBlankWithin d.templateKey 128 ∧ d.templateVersion ≠ 0 ∧
    notBlankWithin d.locale 35 ∧ notBlankWithin d.recipientMasked 254 ∧ notBlankWithin d.payloadKeyID 128 ∧
    29 ≤ d.encryptedPayload.length ∧
    (len d.metadata ≠ 0 ∧ len d.metadata ≤ 4 * 1024 ∧ (Json.parse d.metadata).isSome) ∧
    isJSONObject d.metadata = true := by
  simp only [SubmissionDetails.validate, check_bind_eq_ok, check_eq_ok]

theorem ProtectedPayload.validate_eq_ok {s : ProtectedPayload} :
    s.validate = .ok () ↔ notBlankWithin s.keyID 128 ∧ 29 ≤ s.ciphertext.length := by
  simp only [ProtectedPayload.validate, check_bind_eq_ok, check_eq_ok]

/-! ### Errors of the transaction -/

/-- Nothing that `x` fails with is about a record of the service's own making. -/
def Outside {α : Type} (x : Except Error α) : Prop := Fails (fun e => e.ownRecord = false) x

theorem outside_check {p : Prop} [Decidable p] {e : Error} (h : e.ownRecord = false) : Outside (check p e) :=
  fails_check.2 (.inr h)

theorem DeliveryEvent.validate_outside (e : DeliveryEvent) : Outside e.validate := by
  unfold DeliveryEvent.validate
  iterate 8 refine Fails.bind (outside_check rfl) fun _ _ => ?_
  split
  · exact fails_mapError.2 fun _ _ => rfl
  · exact fails_pure

theorem appendDeliveryEvents_outside (db : Db) (events : List DeliveryEvent) :
    Outside (db.appendDeliveryEvents events) := by
  refine fails_foldlM fun db event => ?_
  unfold appendDeliveryEvent
  refine Fails.bind event.validate_outside fun _ _ => ?_
  split
  · exact fails_throw.2 rfl
  · refine Fails.bind (outside_check rfl) fun _ _ => ?_
    split
    · exact Fails.bind (outside_check rfl) fun _ _ => fails_pure
    · iterate 3 refine Fails.bind (outside_check rfl) fun _ _ => ?_
      exact fails_pure

theorem OutboxEvent.validate_outside (e : OutboxEvent) : Outside e.validate := by
  unfold OutboxEvent.validate
  iterate 6 refine Fails.bind (outside_check rfl) fun _ _ => ?_
  exact outside_check rfl

theorem appendOutbox_outside (db : Db) (now : Time) (events : List OutboxEvent) :
    Outside (db.appendOutbox now events) := by
  refine Fails.bind (fails_forM fun e => Fails.bind e.validate_outside fun _ _ => outside_check rfl)
    fun _ _ => ?_
  refine fails_foldlM fun db event => ?_
  unfold insertOutboxEvent
  split
  · exact fails_throw.2 rfl
  · refine Fails.bind (outside_check rfl) fun _ _ => ?_
    split
    · exact Fails.bind (outside_check rfl) fun _ _ => fails_pure
    · exact Fails.bind (outside_check rfl) fun _ _ => fails_pure

theorem mapAllMessageEvents_outside (record : MessageRecord) (events : List Event) :
    Outside (mapAllMessageEvents L record events) := by
  have hmap : Outside (mapEvents L record events) := by
    induction events with
    | nil => exact fails_pure
    | cons event events ih =>
      refine Fails.bind ?_ fun _ _ => Fails.bind ?_ fun _ _ => Fails.bind ih fun _ _ => fails_pure
      · unfold mapMessageEvent
        iterate 3 refine Fails.bind (outside_check rfl) fun _ _ => ?_
        split
        · exact fails_throw.2 rfl
        · exact Fails.bind (fails_mapError.2 fun _ _ => rfl) fun _ _ => fails_pure
      · unfold mapDeliveryEvent
        split
        · exact fails_pure
        · exact Fails.bind (fails_mapError.2 fun _ _ => rfl) fun _ _ => fails_pure
  unfold mapAllMessageEvents
  split
  · exact fails_throw.2 rfl
  · exact hmap

/-- A record that passed its check is not refused again. -/
theorem create_outside (db : Db) {record : MessageRecord} (hvalid : record.validateForCreate = .ok ())
    (hcounters : databaseCounters record.message.snapshot = .ok ()) : Outside (db.create record) := by
  have hv := hvalid
  rw [MessageRecord.validateForCreate, unit_bind_eq_ok] at hv
  simp only [MessageRecord.validate, check_bind_eq_ok] at hv
  obtain ⟨⟨htenant, hkey, -⟩, -⟩ := hv
  rw [create, hvalid, ok_bind, hcounters, ok_bind]
  refine Fails.bind ?_ fun inserted _ => ?_
  · unfold insertMessage
    repeat' split
    all_goals simp [Error.ownRecord]
  cases inserted with
  | some db₁ => exact fails_pure
  | none =>
    refine Fails.bind (Fails.bind ?_ fun _ _ => ?_) fun _ _ => fails_pure
    · rw [getByIdempotencyKey, check_bind htenant, check_bind hkey]
      split
      · exact fails_throw.2 rfl
      · unfold scanFound
        split
        · refine (scanMessageRecord_corrupt _).mono ?_
          rintro _ ⟨_, rfl⟩
          rfl
        · exact fails_error.2 rfl
    · exact Fails.bind (outside_check rfl) fun _ _ => fails_pure

/-- What a record is refused with. -/
theorem MessageRecord.validateForCreate_fails (record : MessageRecord) :
    Fails (fun e => e.ownRecord = true) record.validateForCreate := by
  have hcheck {p : Prop} [Decidable p] (detail : String) :
      Fails (fun e => e.ownRecord = true) (check p (Error.invalidMessageRecord detail)) :=
      fails_check.2 (.inr rfl)
  unfold validateForCreate MessageRecord.validate
  refine Fails.bind ?_ fun _ _ => hcheck _
  iterate 5 refine Fails.bind (hcheck _) fun _ _ => ?_
  cases record.submission with
  | none => exact hcheck _
  | some d =>
    refine Fails.bind ?_ fun _ _ => hcheck _
    unfold SubmissionDetails.validate
    iterate 8 refine Fails.bind (hcheck _) fun _ _ => ?_
    exact hcheck _

namespace PreparedSubmission.Sanctioned

variable {p : PreparedSubmission} {c : SubmitEmailCommand} {now : Time} (h : p.Sanctioned L c now)

include h

theorem details_valid_iff : p.details.validate = .ok () ↔
    notBlankWithin p.resolved.locale 35 ∧ len (maskEmail p.normalized.recipientEmail) ≤ 254 := by
  obtain ⟨email, locale, templateVariables, hchecked, hnormalized⟩ := normalizeSubmission_eq_ok.1 h.normalized
  obtain ⟨⟨hkey, hversion, -⟩, -⟩ := validateResolvedTemplate_eq_ok.1 h.template
  obtain ⟨hkeyID, hciphertext⟩ := ProtectedPayload.validate_eq_ok.1 h.sealedPayload
  obtain ⟨hlen, hobject⟩ := normalizeMetadata_valid hchecked.metadata
  have hsender : notBlankWithin p.normalized.senderIdentityKey 64 := by
    rw [hnormalized]
    exact validRegisteredKey_notBlank hchecked.senderIdentityKey
  have htemplateKey : notBlankWithin p.resolved.key 128 := by
    rw [hkey, hnormalized]
    exact validRegisteredKey_notBlank hchecked.templateKey
  obtain ⟨map, hmap⟩ := isJSONObject_parse hobject
  have hparsed : (Json.parse p.metadata).isSome = true := by
    rw [hmap]
    rfl
  constructor
  · intro hvalid
    obtain ⟨-, -, -, hlocale, hmasked, -⟩ := SubmissionDetails.validate_eq_ok.1 hvalid
    exact ⟨hlocale, hmasked.2⟩
  · rintro ⟨hlocale, hmasked⟩
    exact SubmissionDetails.validate_eq_ok.2
      ⟨hsender, htemplateKey, hversion, hlocale, ⟨maskEmail_notBlank _, hmasked⟩, hkeyID, hciphertext,
      ⟨hlen.1, hlen.2, hparsed⟩, hobject⟩

theorem record_valid_iff {m : Message} (hid : m.id = p.messageID) (hversion : m.version = 0) :
    (p.record m).validateForCreate = .ok () ↔ p.details.validate = .ok () := by
  obtain ⟨email, locale, templateVariables, hchecked, hnormalized⟩ := normalizeSubmission_eq_ok.1 h.normalized
  obtain ⟨u, hu⟩ := h.messageID
  have hmessage : isUUID m.id = true := by
    rw [hid, hu]
    exact isUUID_of_uuidColumn (uuidColumn_text u)
  have htenant : isUUID p.normalized.tenantID = true := hnormalized ▸ hchecked.tenantID
  have hkey : trimmedWithin p.normalized.idempotencyKey 255 :=
    hnormalized ▸ trimmedWithin_of_idempotencyKeyPattern hchecked.idempotencyKey
  have hpolicy : p.normalized.category.valid = true ∧ p.normalized.priority ≤ 9 ∧
      p.normalized.duplicateRiskPolicy.valid = true := hnormalized ▸ hchecked.policy
  rw [MessageRecord.validateForCreate, unit_bind_eq_ok]
  simp only [MessageRecord.validate, check_bind_eq_ok]
  constructor
  · rintro ⟨⟨-, -, -, -, -, hdetails⟩, -⟩
    exact (unit_bind_eq_ok.1 hdetails).1
  · intro hdetails
    exact ⟨⟨htenant, hkey, hpolicy.1, hpolicy.2.1, hpolicy.2.2,
      unit_bind_eq_ok.2 ⟨hdetails, check_eq_ok.2 hmessage⟩⟩, check_eq_ok.2 hversion⟩

theorem new_iff : (∃ m, Message.new (submissionParams p now) = .ok m) ↔ now ≠ 0 := by
  obtain ⟨u, hu⟩ := h.messageID
  constructor
  · rintro ⟨m, hm⟩
    exact (Message.new_eq_ok.1 hm).1.now
  · intro hnow
    exact ⟨_, Message.new_eq_ok.2 ⟨PreparedSubmission.params_valid hu h.times hnow, rfl⟩⟩

theorem record_iff :
    (∃ record, submissionRecord p now = .ok record ∧ record.validateForCreate = .ok ()) ↔
    p.Fits now := by
  have hvalid {m : Message} (hm : Message.new (submissionParams p now) = .ok m) :
      (p.record m).validateForCreate = .ok () ↔ p.details.validate = .ok () := by
    obtain ⟨-, rfl⟩ := Message.new_eq_ok.1 hm
    refine h.record_valid_iff ?_ ?_
    · unfold routedMessage
      split <;> rfl
    · unfold routedMessage
      split <;> rfl
  simp only [submissionRecord_eq_ok]
  constructor
  · rintro ⟨record, ⟨-, m, hm, rfl⟩, hrecord⟩
    exact ⟨h.new_iff.1 ⟨m, hm⟩, h.details_valid_iff.1 ((hvalid hm).1 hrecord)⟩
  · rintro ⟨hnow, hderived⟩
    obtain ⟨m, hm⟩ := h.new_iff.2 hnow
    exact ⟨_, ⟨h.times, m, hm, rfl⟩, (hvalid hm).2 (h.details_valid_iff.2 hderived)⟩

theorem canonical_iff :
    (∃ canonical, canonicalSubmissionPayload L p.normalized p.resolved p.metadata = .ok canonical) ↔
    p.normalized.Dated L :=
  Accepted.payload_iff ⟨h.normalized, h.template⟩

/-- The transaction ends in an error about the record exactly if a derived value does not fit. -/
theorem transaction_iff : (∀ db, Outside (submitTransaction L p now db)) ↔ p.Fits now := by
  rw [← h.record_iff]
  constructor
  · intro hout
    obtain ⟨hrecord, hcreate⟩ := fails_bind.1 (hout ⟨[], [], [], [], []⟩)
    cases hr : submissionRecord p now with
    | error e =>
      have hown : e.ownRecord = true := by
        have hfails : Fails (fun e => e.ownRecord = true) (submissionRecord p now) := by
          rw [submissionRecord, h.times, ok_bind]
          exact Fails.bind (fails_mapError.2 fun _ _ => rfl) fun _ _ => fails_pure
        exact hfails e hr
      exact absurd (hrecord e hr) (by simp [hown])
    | ok record =>
      refine ⟨record, rfl, ?_⟩
      have hvalid := (fails_bind.1 (fails_bind.1 (hcreate record hr)).1).1
      cases hv : record.validateForCreate with
      | ok u => rfl
      | error e => exact absurd (hvalid e hv) (by simp [record.validateForCreate_fails e hv])
  · rintro ⟨record, hrecord, hvalid⟩ db
    rw [submitTransaction, hrecord, ok_bind]
    obtain ⟨-, m, hm, rfl⟩ := submissionRecord_eq_ok.1 hrecord
    have hcounters := created_counters (Message.new_moved hm).1
    refine Fails.bind (create_outside db hvalid hcounters) fun created _ => ?_
    obtain ⟨db₁, persisted⟩ := created
    dsimp only
    split
    · exact fails_pure
    · refine Fails.bind (mapAllMessageEvents_outside _ _) fun _ _ => ?_
      refine Fails.bind (appendDeliveryEvents_outside _ _) fun _ _ => ?_
      exact Fails.bind (appendOutbox_outside _ _ _) fun _ _ => fails_pure

end PreparedSubmission.Sanctioned

namespace Sample

/-- Two characters before a domain of 250 bytes. -/
def longAddress : List Char :=
  ['a', 'b', '@'] ++ List.replicate 63 'a' ++ ['.'] ++ List.replicate 63 'a' ++ ['.'] ++
    List.replicate 63 'a' ++ ['.'] ++
    List.replicate 58 'a'

theorem longAddress_normalized (hash : String → Uuid) :
    normalizeEmail (libs hash) (.ofList longAddress) = .ok (.ofList longAddress) := by
  have hspace : longAddress.all (fun c => !isSpace c) = true := by decide +kernel
  have hlen : String.utf8Len longAddress ≤ 254 := by decide +kernel
  have hsplit : splitLast '@' longAddress = some (['a', 'b'], longAddress.drop 3) := by decide +kernel
  have hlower : (longAddress.drop 3).map Char.toLower = longAddress.drop 3 := by decide +kernel
  have hbare : Mail.isBareAddress (.ofList longAddress) = true := by
    rw [Mail.isBareAddress, String.toList_ofList]
    decide +kernel
  refine normalizeEmail_ofList (fun c hc => ?_) hlen hbare hsplit (List.cons_ne_nil _ _)
    (List.cons_ne_nil _ _) rfl hlower
  simpa using List.all_eq_true.1 hspace c hc

theorem longAddress_masked : ¬ notBlankWithin (maskEmail (.ofList longAddress)) 254 := by
  have hsplit : splitLast '@' longAddress = some (['a', 'b'], longAddress.drop 3) := by decide +kernel
  have hlen : ¬ String.utf8Len
      ('a' :: (if ['b'] = [] then [] else "***".toList) ++ '@' :: longAddress.drop 3) ≤ 254 := by
    decide +kernel
  intro h
  have hmasked := h.2
  rw [maskEmail, String.toList_ofList, hsplit, len_ofList] at hmasked
  exact hlen hmasked

/-- The sample's submission to another address. -/
def addressed (email : String) : PreparedSubmission :=
  { prepared none "\x7b\x7d" "" with normalized := { command none none with recipientEmail := email } }

theorem sanctioned (hash : String → Uuid) {email : String}
    (he : normalizeEmail (libs hash) email = .ok email) :
    (addressed email).Sanctioned (libs hash) { command none none with recipientEmail := email } now := by
  obtain ⟨hm, -⟩ := metadata_empty
  have hc := @checked none none _ hash hm
  have hdeadline := (truncated (.inl rfl)).1
  have hvariables : resolvedVariables ⟨"welcome", 1, "en", "\x7b\x7d"⟩ = .ok "\x7b\x7d" := rfl
  have hkey : ("welcome" : String) ≠ "" ∧ "en" ≠ "" := by decide
  constructor
  case normalized =>
    refine normalizeSubmission_eq_ok.2
      ⟨email, "en", "\x7b\x7d", ⟨hc.tenantID, hc.idempotencyKey, he, hc.recipientDisplayName,
      hc.senderIdentityKey, hc.templateKey, hc.templateVersion, hc.locale, hc.policy, hc.dispatchDeadline,
      hc.templateVariables, hm⟩, ?_⟩
    simp [addressed, prepared, SubmitEmailCommand.normalized, command, hdeadline]
  case template =>
    exact validateResolvedTemplate_eq_ok.2
      ⟨⟨rfl, Nat.one_ne_zero, hkey.2⟩, fun _ hv => absurd hv (Option.not_mem_none _), rfl,
      _, hvariables⟩
  case sealedPayload => exact sealed_valid
  case messageID => exact ⟨messageID, rfl⟩
  case times =>
    have hbefore : now < deadline := by decide
    exact check_bind_eq_ok.2 ⟨hbefore, rfl⟩

theorem refused {email : String} {c : SubmitEmailCommand} (hs : (addressed email).Sanctioned L c now)
    (hmasked : ¬ notBlankWithin (maskEmail email) 254) :
    ∃ record, submissionRecord (addressed email) now = .ok record ∧
      record.validateForCreate =
        .error (.invalidMessageRecord "masked recipient must contain 1..254 bytes") := by
  have hclock : now ≠ 0 := by decide
  obtain ⟨m, hm⟩ := hs.new_iff.2 hclock
  have htenant : isUUID tenant.text = true := isUUID_of_uuidColumn (uuidColumn_text tenant)
  have hkeys : trimmedWithin "order-1" 255 ∧ notBlankWithin "noreply" 64 ∧ notBlankWithin "welcome" 128 ∧
      notBlankWithin "en" 35 := by decide
  have hpriority : 5 ≤ 9 := by decide
  have hdetails : (addressed email).details.validate =
      .error (.invalidMessageRecord "masked recipient must contain 1..254 bytes") := by
    rw [SubmissionDetails.validate]
    refine check_bind_eq_error.2 (.inr ⟨hkeys.2.1, check_bind_eq_error.2 (.inr ⟨hkeys.2.2.1, ?_⟩)⟩)
    refine check_bind_eq_error.2 (.inr ⟨Nat.one_ne_zero, check_bind_eq_error.2 (.inr ⟨hkeys.2.2.2, ?_⟩)⟩)
    exact check_bind_eq_error.2 (.inl ⟨hmasked, rfl⟩)
  refine ⟨_, submissionRecord_eq_ok.2 ⟨hs.times, m, hm, rfl⟩, bind_eq_error.2 (.inl ?_)⟩
  rw [MessageRecord.validate]
  refine check_bind_eq_error.2 (.inr ⟨htenant, check_bind_eq_error.2 (.inr ⟨hkeys.1, ?_⟩)⟩)
  refine check_bind_eq_error.2 (.inr ⟨rfl, check_bind_eq_error.2 (.inr ⟨hpriority, ?_⟩)⟩)
  refine check_bind_eq_error.2 (.inr ⟨rfl, ?_⟩)
  exact bind_eq_error.2 (.inl hdetails)

end Sample

/-- What `Submit` accepted it can also encode, turn into a message and store, exactly if
the times have a JSON text, the database clock is not at Go's zero time, the canonical
locale is short and so is the masked address. -/
theorem accepted_record_valid_iff {p : PreparedSubmission} {c : SubmitEmailCommand} {now : Time}
    (h : p.Sanctioned L c now) :
    ((∃ canonical, canonicalSubmissionPayload L p.normalized p.resolved p.metadata = .ok canonical) ∧
      (∃ record, submissionRecord p now = .ok record ∧ record.validateForCreate = .ok ()) ∧
      ∀ db, Outside (submitTransaction L p now db)) ↔ p.normalized.Dated L ∧ p.Fits now := by
  rw [h.canonical_iff, h.record_iff, h.transaction_iff, and_self]

/-- The sample's address fits. -/
theorem accepted_record_valid_iff_short : ∃ L c p now, PreparedSubmission.Sanctioned p L c now ∧
    (∃ record, submissionRecord p now = .ok record ∧
    record.validateForCreate = .ok ()) ∧ ∀ db, Outside (submitTransaction L p now db) := by
  have hs := @Sample.sanctioned (fun _ => Sample.tenant) "ann@example.com" rfl
  have hdated : SubmitEmailCommand.Dated (Sample.addressed "ann@example.com").normalized
      (Sample.libs fun _ => Sample.tenant) := by
    have hformat : (Sample.stamps.lookup Sample.deadline).isSome = true := by decide
    exact ⟨fun t ht => absurd ht (Option.not_mem_none t), hformat⟩
  have hfits : (Sample.addressed "ann@example.com").Fits Sample.now := by
    have hmasked : len (maskEmail "ann@example.com") ≤ 254 := by decide
    exact ⟨by decide, by decide, hmasked⟩
  exact ⟨_, _, _, _, hs, ((accepted_record_valid_iff hs).2 ⟨hdated, hfits⟩).2⟩

/-- Two characters before a long domain: the mask is longer than the address, and the
record that `Submit` builds is refused. -/
theorem accepted_record_refused : ∃ L c p now record, PreparedSubmission.Sanctioned p L c now ∧
    p.normalized.Dated L ∧ submissionRecord p now = .ok record ∧
    record.validateForCreate =
      .error (.invalidMessageRecord "masked recipient must contain 1..254 bytes") := by
  have hs := Sample.sanctioned (fun _ => Sample.tenant) (Sample.longAddress_normalized _)
  have hformat : (Sample.stamps.lookup Sample.deadline).isSome = true := by decide
  obtain ⟨record, hrecord, hrefused⟩ := Sample.refused hs Sample.longAddress_masked
  exact ⟨_, _, _, _, record, hs, ⟨fun t ht => absurd ht (Option.not_mem_none t), hformat⟩, hrecord, hrefused⟩

/-! ## The recipient at delivery -/

/-- The errors of `validateDeliveryPayload` about the recipient. -/
def recipientErrors : List String := ["recipient is not normalized", "recipient display name is invalid"]

theorem validateDeliveryPayload_recipient {record : MessageRecord} {d : SubmissionDetails}
    {payload : CanonicalPayload}
    (hemail : normalizeEmail L payload.recipientEmail = .ok payload.recipientEmail)
    (hname : len payload.recipientDisplayName ≤ 512 ∧ hasLineBreak payload.recipientDisplayName = false) :
    Fails (· ∉ recipientErrors) (validateDeliveryPayload L record d payload) := by
  have herrors : ∀ e ∈ ["encrypted payload does not match persisted safe fields", "template variables are invalid",
      "metadata is invalid", "encrypted metadata does not match persisted safe metadata"],
      e ∉ recipientErrors := by decide
  rw [validateDeliveryPayload, check_bind hemail, check_bind hname]
  refine Fails.bind (fails_check.2 (.inr (herrors _ (by simp)))) fun _ _ => ?_
  refine Fails.bind (fails_mapError.2 fun _ _ => herrors _ (by simp)) fun _ _ => ?_
  refine Fails.bind (fails_mapError.2 fun _ _ => herrors _ (by simp)) fun _ _ => ?_
  exact fails_check.2 (.inr (herrors _ (by simp)))

/-- The recipient of an accepted submission passes every later check exactly if the
display name is at most 256 bytes long. -/
theorem recipient_limits_agree_iff
    (hidempotent : ∀ value email, normalizeEmail L value = .ok email → normalizeEmail L email = .ok email)
    {c normalized : SubmitEmailCommand} {metadata : String}
    (hn : normalizeSubmission L c = .ok (normalized, metadata)) :
    ((∀ record d payload, payload.recipientEmail = normalized.recipientEmail →
        payload.recipientDisplayName = normalized.recipientDisplayName →
        Fails (· ∉ recipientErrors) (validateDeliveryPayload L record d payload)) ∧
      validRecipient normalized.recipientEmail normalized.recipientDisplayName = true ∧
      validBareEmailAddress normalized.recipientEmail = true) ↔ len c.recipientDisplayName ≤ 256 := by
  obtain ⟨email, locale, templateVariables, hchecked, rfl⟩ := normalizeSubmission_eq_ok.1 hn
  have hemail := hidempotent _ _ hchecked.recipientEmail
  have hbare := normalizeEmail_bare hemail
  obtain ⟨hrunes, hline⟩ := hchecked.recipientDisplayName
  have hlen : len c.recipientDisplayName ≤ 512 := by
    have := len_le_four_mul_runeCount c.recipientDisplayName
    omega
  have haddress : Mail.isBareAddress email = true := (of_decide_eq_true hbare).2.2.2.2
  constructor
  · rintro ⟨-, hvalid, -⟩
    simp only [validRecipient, Bool.and_eq_true, decide_eq_true_eq] at hvalid
    exact hvalid.1.1
  · intro hshort
    refine ⟨fun record d payload he hd => ?_, ?_, hbare⟩
    · refine validateDeliveryPayload_recipient (by rw [he]; exact hemail) ?_
      rw [hd]
      exact ⟨hlen, hline⟩
    · change validRecipient email c.recipientDisplayName = true
      simp [validRecipient, hshort, hline, haddress]

namespace Sample

/-- The sample's libraries with one domain. -/
def domainLibs (hash : String → Uuid) : Libs :=
  { libs hash with idnaToASCII := fun d => if d = "example.com" then some d else none }

theorem domainLibs_idempotent {hash : String → Uuid} {value email : String}
    (h : normalizeEmail (domainLibs hash) value = .ok email) :
    normalizeEmail (domainLibs hash) email = .ok email := by
  obtain ⟨localPart, domain, ascii, hsplit, hascii, hemail⟩ := normalizeEmail_split h
  have hlower : "example.com".toList.map Char.toLower = "example.com".toList := by decide
  obtain ⟨hdomain, rfl⟩ : String.ofList domain = "example.com" ∧ String.ofList domain = ascii := by
    simpa [domainLibs] using hascii
  -- nothing of the address changes
  have hsame : email = value := by
    rw [hemail, hdomain, hlower, ← hdomain, String.toList_ofList, ← splitLast_some hsplit,
      String.ofList_toList]
  rwa [← hsame] at h

theorem domainLibs_address (hash : String → Uuid) :
    normalizeEmail (domainLibs hash) "ann@example.com" = .ok "ann@example.com" := rfl

theorem named_accepted {name : String} (hname : runeCount name ≤ 128 ∧ hasLineBreak name = false) :
    normalizeSubmission (domainLibs fun _ => tenant) { command none none with recipientDisplayName := name } =
      .ok ({ command none none with recipientDisplayName := name }, "\x7b\x7d") := by
  obtain ⟨hm, -⟩ := metadata_empty
  have hc := @checked none none _ (fun _ => tenant) hm
  have hdeadline := (truncated (.inl rfl)).1
  have haddress := domainLibs_address fun _ => tenant
  refine normalizeSubmission_eq_ok.2
    ⟨"ann@example.com", "en", "\x7b\x7d", ⟨hc.tenantID, hc.idempotencyKey, haddress, hname,
    hc.senderIdentityKey, hc.templateKey, hc.templateVersion, hc.locale, hc.policy, hc.dispatchDeadline,
    hc.templateVariables, hm⟩, ?_⟩
  simp [SubmitEmailCommand.normalized, command, hdeadline]

def longName : String := .ofList (List.replicate 86 '中')

theorem longName_length : runeCount longName = 86 := by
  unfold runeCount longName
  simp only [String.length_ofList, List.length_replicate]

theorem longName_line : hasLineBreak longName = false := by
  unfold hasLineBreak containsAny longName
  rw [String.toList_ofList]
  decide +kernel

theorem longName_long : ¬ len longName ≤ 256 := by
  unfold longName
  rw [len_ofList]
  decide +kernel

end Sample

theorem recipient_limits_agree_iff_short : ∃ L c normalized metadata,
    normalizeSubmission L c = .ok (normalized, metadata) ∧
    validRecipient normalized.recipientEmail normalized.recipientDisplayName = true := by
  have hname : runeCount "Ann" ≤ 128 ∧ hasLineBreak "Ann" = false := by decide
  have hn := Sample.named_accepted hname
  have hshort : len "Ann" ≤ 256 := by decide
  exact ⟨_, _, _, _, hn,
    ((recipient_limits_agree_iff (fun _ _ => Sample.domainLibs_idempotent) hn).2 hshort).2.1⟩

/-- A name of 86 characters is accepted, and no delivery of the message can succeed. -/
theorem recipient_limits_disagree : ∃ L c normalized metadata,
    (∀ value email, normalizeEmail L value = .ok email → normalizeEmail L email = .ok email) ∧
    normalizeSubmission L c = .ok (normalized, metadata) ∧ runeCount c.recipientDisplayName = 86 ∧
    ∀ write request, request.recipientAddress = normalized.recipientEmail →
      request.recipientDisplayName = normalized.recipientDisplayName →
      isUUID request.attemptID = true ∧ request.date ≠ 0 →
      request.sender.validate = .ok () → request.content.validate = .ok () →
      (Builder.encode write request).mapError classifyEncodeError =
        .error (.material "MIME_BUILD_FAILED" false) := by
  have hname : runeCount Sample.longName ≤ 128 := by
    rw [Sample.longName_length]
    decide
  refine ⟨_, _, _, _, fun _ _ => Sample.domainLibs_idempotent,
    Sample.named_accepted ⟨hname, Sample.longName_line⟩, Sample.longName_length,
    fun write request haddress hdisplay hattempt hsender hcontent => ?_⟩
  have hrefused : ¬ validRecipient request.recipientAddress request.recipientDisplayName = true := by
    intro hvalid
    simp only [validRecipient, Bool.and_eq_true, decide_eq_true_eq, hdisplay] at hvalid
    exact Sample.longName_long hvalid.1.1
  have hencode : Builder.encode write request = .error (.invalidDeliveryMaterial "recipient is invalid") := by
    rw [Builder.encode, check_bind hattempt, hsender, ok_bind, hcontent, ok_bind]
    exact check_bind_eq_error.2 (.inl ⟨hrefused, rfl⟩)
  rw [hencode]
  rfl

end MailService
