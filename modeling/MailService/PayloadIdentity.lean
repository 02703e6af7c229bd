import MailService.Canonical
import MailService.Storage
/-!
# The two copies of a submission

Ten fields of a submission are stored in columns and once more inside the sealed payload,
and `validateDeliveryPayload` compares them before a delivery. Nine of them always agree. The
metadata is compared as bytes, after one copy has been through a `jsonb` column: it agrees
only when there is none.
-/
open Text Checks Table Runs

namespace MailService

open Db

/-! ## Opening the payload -/

/-- AES-GCM opens what it sealed. -/
def Protector.Faithful (p : Protector) : Prop :=
  ∀ nonce plaintext associatedData,
    p.aeadOpen nonce (p.aeadSeal nonce plaintext associatedData) associatedData = some plaintext

theorem Protector.openPayload_sealed {p : Protector} (hf : p.Faithful) {nonce : Nonce}
    {associatedData plaintext : String} {s : ProtectedPayload}
    (h : p.sealPayload nonce associatedData plaintext = .ok s) :
    p.openPayload associatedData s = .ok plaintext := by
  obtain ⟨⟨hdata, -⟩, hvalid, rfl⟩ := Protector.sealPayload_eq_ok.1 h
  have hlong := (ProtectedPayload.validate_eq_ok.1 hvalid).2
  have hnonce := nonce.length_bytes
  have hlength : 12 < (nonce.bytes ++ p.aeadSeal nonce.bytes plaintext associatedData).length :=
    lt_of_lt_of_le (by decide : 12 < 29) hlong
  have hmapped := mapError_ok_iff (f := fun _ => Error.payloadAuthentication) |>.2 hvalid
  rw [openPayload, check_bind hdata, hmapped, ok_bind, check_bind rfl, check_bind hlength]
  dsimp only
  rw [List.take_left' hnonce, List.drop_left' hnonce, hf]
  rfl

/-! ## Comparing the copies -/

section Compare

variable {L : Libs} {record : MessageRecord} {d : SubmissionDetails} {payload : CanonicalPayload}

theorem validateDeliveryPayload_eq_ok : validateDeliveryPayload L record d payload = .ok () ↔
    normalizeEmail L payload.recipientEmail = .ok payload.recipientEmail ∧
    (len payload.recipientDisplayName ≤ 512 ∧ hasLineBreak payload.recipientDisplayName = false) ∧
    payload.Matches record d ∧
    (∃ text, canonicalJSONObject payload.templateVariables (16 * 1024) 8 "template variables" = .ok text) ∧
    (∃ text, canonicalJSONObject payload.metadata (4 * 1024) 8 "metadata" = .ok text) ∧
      payload.metadata = d.metadata := by
  rw [validateDeliveryPayload, check_bind_eq_ok, check_bind_eq_ok, check_bind_eq_ok]
  simp only [bind_eq_ok, mapError_ok_iff, check_eq_ok, exists_and_right]

/-- The object that is written for a map: its members in order, one for each entry, with texts for values. -/
theorem metadataValue_members (metadata : Option StringMap) :
    ∃ members, metadataValue metadata = .obj members ∧
    Json.Sorted Json.goOrder members ∧ members.length = (metadataEntries metadata).length ∧
    ∀ m ∈ members, ∃ text, m.2 = .str text := by
  have hlength := (@Json.sortMembers_perm _ Json.goOrder _ _ (nodup_metadataMembers metadata)).length_eq
  refine ⟨_, metadataValue_eq metadata, Json.sorted_sortMembers _,
    hlength.trans (List.length_map _), fun m hm => ?_⟩
  obtain ⟨e, -, rfl⟩ := List.mem_map.1 (Json.mem_sortMembers hm)
  exact ⟨e.2, rfl⟩

/-- The metadata of a submission is canonical as it is written. -/
theorem canonicalJSONObject_metadata {metadata : Option StringMap} {text : String}
    (h : normalizeMetadata metadata = .ok text) (field : String) :
    canonicalJSONObject text (4 * 1024) 8 field = .ok text := by
  obtain ⟨hlen, -⟩ := normalizeMetadata_valid h
  obtain ⟨members, hvalue, hsorted, -, htexts⟩ := metadataValue_members metadata
  have hstrings : ∀ m ∈ members, Json.canon Json.goOrder m.2 = m.2 ∧ Json.depth m.2 = 0 := by
    intro m hm
    obtain ⟨text, htext⟩ := htexts m hm
    rw [htext]
    exact ⟨rfl, rfl⟩
  have hcanon : Json.canon Json.goOrder (.obj members) = .obj members := by
    rw [Json.canon, Json.canonMembers_eq_map,
      (List.map_congr_left fun m hm => by rw [(hstrings m hm).1]; rfl).trans (List.map_id _),
      Json.sortMembers_of_sorted hsorted]
  have hdepth : Json.depth (.obj members) = 1 := by
    rw [Json.depth]
    rcases Json.depthMembers_eq members with hone | ⟨m, hm, hdepth⟩
    · exact hone
    · rw [hdepth, (hstrings m hm).2]
  refine canonicalJSONObject_eq_ok.2 ⟨hlen, _, normalizeMetadata_parse h, ?_⟩
  rw [hvalue, hcanon, hdepth, ← hvalue]
  exact ⟨by decide, by rw [hvalue]; rfl, by decide, hlen.2, (normalizeMetadata_eq h).1⟩

/-- The column returns the metadata's text as it was written exactly if there is no entry. -/
theorem metadata_stored_iff {metadata : Option StringMap} {text stored : String}
    (h : normalizeMetadata metadata = .ok text) (hstored : jsonbColumn text = some stored) :
    text = stored ↔ metadataEntries metadata = [] := by
  obtain ⟨v, hv, -, rfl⟩ := jsonbColumn_eq_some.1 hstored
  rw [normalizeMetadata_parse h, Option.bind_some, numeric_metadataValue] at hv
  obtain rfl : metadataValue metadata = v := Option.some.inj hv
  obtain ⟨members, hvalue, hsorted, hlength, -⟩ := metadataValue_members metadata
  have hwf := wf_metadataValue metadata
  rw [hvalue, Json.wf, Json.wfMembers_iff] at hwf
  rw [(normalizeMetadata_eq h).1, hvalue]
  cases members with
  | nil =>
    have hnone : metadataEntries metadata = [] := List.eq_nil_of_length_eq_zero hlength.symm
    exact ⟨fun _ => hnone, fun _ => rfl⟩
  | cons m members =>
    have hsome : metadataEntries metadata ≠ [] := fun hnone => by simp [hnone] at hlength
    refine ⟨fun heq => ?_, fun hnone => absurd hnone hsome⟩
    -- both texts have a first member
    rw [Json.canon, Json.canonMembers_eq_map] at heq
    have hperm := @Json.sortMembers_perm _ Json.jsonbOrder _
      ((m :: members).map fun m => (m.1, Json.canon Json.jsonbOrder m.2))
      (by rw [List.map_map]; exact Json.nodup_of_sorted hsorted)
    cases hjsonb : Json.sortMembers Json.jsonbOrder
      ((m :: members).map fun m => (m.1, Json.canon Json.jsonbOrder m.2)) with
    | nil =>
      rw [hjsonb] at hperm
      cases hperm.length_eq
    | cons m' members' =>
      rw [hjsonb] at heq
      exact absurd heq (Json.marshal_ne_of_spaced rfl rfl (hwf m List.mem_cons_self))

end Compare

/-! ## Delivering what was submitted -/

/-- After the comparison no step of `Build` reports a mismatch. -/
theorem DeliveryMaterialService.buildFrom_fails (service : DeliveryMaterialService) (tenantID : String)
    (attempt : StartedDeliveryAttempt) (payload : CanonicalPayload) :
    Fails (· ≠ .material "PAYLOAD_IDENTITY_MISMATCH" false) (service.buildFrom tenantID attempt payload) := by
  have hrender (e : BuildError) :
      classifyTemplateRenderError e ≠ .material "PAYLOAD_IDENTITY_MISMATCH" false := by
    unfold classifyTemplateRenderError
    split <;> simp
  have hsender (e : BuildError) : classifySenderError e ≠ .material "PAYLOAD_IDENTITY_MISMATCH" false := by
    unfold classifySenderError
    split <;> simp
  have hencode (e : BuildError) : classifyEncodeError e ≠ .material "PAYLOAD_IDENTITY_MISMATCH" false := by
    unfold classifyEncodeError
    split <;> simp
  refine Fails.bind (fails_mapError.2 fun e _ => hrender e) fun _ _ => ?_
  refine Fails.bind (fails_mapError.2 fun _ _ => by simp) fun _ _ => ?_
  refine Fails.bind (fails_mapError.2 fun e _ => hsender e) fun _ _ => ?_
  refine Fails.bind (fails_mapError.2 fun e _ => hencode e) fun _ _ => ?_
  exact Fails.bind (fails_mapError.2 fun _ _ => by simp) fun _ _ => fails_pure

/-- The attempt is one of the record's message. -/
def StartedDeliveryAttempt.Of (attempt : StartedDeliveryAttempt) (record : MessageRecord) : Prop :=
  attempt.validate = .ok () ∧ attempt.messageID = record.message.id ∧
    attempt.attemptNumber = record.message.attemptCount ∧
    attempt.dispatchGeneration = record.message.dispatchGeneration

/-- `Build` on a record whose payload can be opened and decoded. -/
theorem DeliveryMaterialService.build_opened {L : Libs} {service : DeliveryMaterialService}
    {record : MessageRecord} {attempt : StartedDeliveryAttempt} {d : SubmissionDetails}
    {plaintext : String} {payload : CanonicalPayload} (hrecord : record.validate = .ok ())
    (hd : record.submission = some d) (hattempt : attempt.Of record)
    (hopen : service.openPayload (record.tenantID ++ "/" ++ record.message.id)
      ⟨d.payloadKeyID, d.encryptedPayload⟩ =
      .ok plaintext) (hdecode : decodeCanonicalPayload L plaintext = some payload) :
    service.build L record attempt = (do
      (validateDeliveryPayload L record d payload).mapError fun _ =>
      .material "PAYLOAD_IDENTITY_MISMATCH" false
      service.buildFrom record.tenantID attempt payload) := by
  unfold StartedDeliveryAttempt.Of at hattempt
  rw [build, mapError_ok_iff.2 hrecord, ok_bind, hd]
  dsimp only
  rw [check_bind hattempt, mapError_ok_iff.2 hopen, ok_bind, hdecode]

/-- The row goes back to this submission, which a faithful protector sealed under the tenant id that
PostgreSQL returns. -/
inductive MessageRow.SealedBy (L : Libs) (protector : Protector) (c : SubmitEmailCommand)
    (p : PreparedSubmission) (r : MessageRow) : Prop
  | intro {catalog drawn nonce now m row}
      (submitted : Submitted L catalog protector c drawn nonce now p m row)
      (descends : row.Descends r) (faithful : protector.Faithful)
      (tenant : uuidColumn c.tenantID = some c.tenantID)

section Identity

variable {E : Env} {h : History} {s : System} {r row : MessageRow} {catalog : SubmissionCatalog}
  {protector : Protector}
  {c : SubmitEmailCommand} {drawn : Uuid} {nonce : Nonce} {now : Time} {p : PreparedSubmission} {m : Message}

theorem PreparedSubmission.From.accepted {L : Libs} {email locale templateVariables : String}
    (h : p.From L catalog protector c drawn nonce email locale templateVariables) :
    Accepted L c p.normalized p.metadata p.resolved :=
  ⟨normalizeSubmission_eq_ok.2 ⟨email, locale, templateVariables, h.checked, h.normalized⟩, h.template⟩

/-- The payload that a delivery decodes, against the row: everything agrees but perhaps the metadata. -/
theorem Submitted.payload_valid_iff {tenant stored : String}
    (hs : Submitted E.L catalog protector c drawn nonce now p m row) (hholds : r.Holds p tenant stored)
    (hstored : jsonbColumn p.metadata = some stored)
    (hidempotent : ∀ value email, normalizeEmail E.L value = .ok email → normalizeEmail E.L email = .ok email)
    {templateVariables : String} (hvariables : resolvedVariables p.resolved = .ok templateVariables) :
    validateDeliveryPayload E.L r.record { p.details with metadata := stored }
      (encodedPayload p.normalized p.resolved templateVariables p.metadata) = .ok () ↔
        metadataEntries c.metadata = [] := by
  obtain ⟨email, locale, variables', hfrom⟩ := prepareSubmission_eq_ok.1 hs.prepared
  obtain ⟨hdeadline, hscheduled⟩ := hfrom.truncated
  have hemail : normalizeEmail E.L p.normalized.recipientEmail = .ok p.normalized.recipientEmail := by
    rw [hfrom.normalized]
    exact hidempotent _ _ hfrom.checked.recipientEmail
  have hname : len p.normalized.recipientDisplayName ≤ 512 ∧
      hasLineBreak p.normalized.recipientDisplayName = false := by
    rw [hfrom.normalized]
    obtain ⟨hrunes, hline⟩ := hfrom.checked.recipientDisplayName
    have hbytes := len_le_four_mul_runeCount c.recipientDisplayName
    exact ⟨hbytes.trans (by omega), hline⟩
  have hmatches : (encodedPayload p.normalized p.resolved templateVariables p.metadata).Matches r.record
      { p.details with metadata := stored } :=
    ⟨rfl, rfl, rfl, rfl, rfl, hholds.category.symm, hholds.priority.symm, hholds.duplicateRiskPolicy.symm,
      hdeadline.symm.trans hholds.dispatchDeadline.symm, hscheduled.symm.trans hholds.scheduledAt.symm⟩
  have hcanonical := canonicalJSONObject_idem (mapError_ok_iff.1 hvariables) "template variables"
  rw [validateDeliveryPayload_eq_ok, ← metadata_stored_iff hfrom.checked.metadata hstored]
  constructor
  · exact fun hvalid => hvalid.2.2.2.2.2
  · exact fun hsame =>
      ⟨hemail, hname, hmatches, ⟨_, hcanonical⟩,
      ⟨_, canonicalJSONObject_metadata hfrom.checked.metadata _⟩, hsame⟩

/-- Its payload is opened and decoded, and compared with the row. -/
theorem MessageRow.SealedBy.opened {db : Db} (hby : r.SealedBy E.L protector c p) (hsound : r.SoundIn db)
    (hinverse : ∀ t text, E.L.formatTime t = some text → E.L.parseTime text = some t)
    (hidempotent : ∀ value email, normalizeEmail E.L value = .ok email →
      normalizeEmail E.L email = .ok email) :
    ∃ d payload, r.submission = some d ∧
      protector.openPayload (r.tenantID ++ "/" ++ r.snapshot.id)
        ⟨d.payloadKeyID, d.encryptedPayload⟩ = .ok p.canonical ∧
      decodeCanonicalPayload E.L p.canonical = some payload ∧
      (validateDeliveryPayload E.L r.record d payload = .ok () ↔ metadataEntries c.metadata = []) := by
  obtain ⟨hs, hd, hf, htenant⟩ := hby
  obtain ⟨tenant, stored, hcolumn, hstored, hholds⟩ := hs.holds hd
  obtain ⟨email, locale, variables', hfrom⟩ := prepareSubmission_eq_ok.1 hs.prepared
  obtain rfl : c.tenantID = tenant := by
    rw [hfrom.normalized] at hcolumn
    exact Option.some.inj (htenant.symm.trans hcolumn)
  have hversion : p.resolved.version < 2 ^ 32 := by
    obtain ⟨-, -, -, -, -, -, hcolumns⟩ := hsound.allowed
    obtain ⟨-, -, ⟨-, hversion⟩, -⟩ := hcolumns _ hholds.submission
    exact lt_of_le_of_lt hversion (by decide)
  have hopen := Protector.openPayload_sealed hf hfrom.sealedPayload
  obtain ⟨templateVariables, hvariables, hdecode⟩ := hfrom.accepted.decoded hinverse hversion hfrom.canonical
  rw [← hfrom.messageID, ← hholds.id, ← hholds.tenantID] at hopen
  exact ⟨_, _, hholds.submission, hopen, hdecode, hs.payload_valid_iff hholds hstored hidempotent hvariables⟩

/-! ## The claims of a run -/

/-- What `Build` is given for a claim: the row's record with the message moved on, and an attempt of it. -/
structure DispatchClaim.Of (claimed : DispatchClaim) (r : MessageRow) : Prop where
  record : ∃ now m, Moved now r.message m ∧ claimed.record = (r.record.withMessage m).pulled
  loadable : r.Loadable
  attempt : claimed.attempt.messageID = claimed.record.message.id → claimed.attempt.Of claimed.record

theorem Step.claim_of {s' : System} {i : Nat} {claimed : DispatchClaim} {reported : Bool}
    (hstep : Step E s (.claim i (.started claimed) reported) s') (hs : s.Ok E) :
    ∃ r ∈ s.db.messages, claimed.Of r := by
  cases hstep with
  | @claim _ d command read now providerKey attemptID db' _ _ hlane _ hclaim =>
    obtain ⟨-, hl⟩ := hs.lanes _ _ _ hlane
    obtain ⟨r, -, -, hload, -, heffect⟩ := claim_effect hs.sound.keyed hl hclaim
    cases heffect with
    | started _ _ _ generation _ advance _ _ valid =>
      exact ⟨r, advance.mem, ⟨_, _, advance.moved, rfl⟩, hload, fun hid => ⟨valid, hid, rfl, generation⟩⟩

/-- A move changes nothing that the payload is compared with. -/
theorem validateDeliveryPayload_moved {L : Libs} {m' : Message} {d : SubmissionDetails}
    {payload : CanonicalPayload} (hm : Moved now r.message m') :
    validateDeliveryPayload L (r.record.withMessage m').pulled d payload =
      validateDeliveryPayload L r.record d payload := by
  have hdeadline : (r.record.withMessage m').pulled.message.dispatchDeadline =
      r.record.message.dispatchDeadline :=
    hm.dispatchDeadline
  have hscheduled : (r.record.withMessage m').pulled.message.scheduledAt =
      r.record.message.scheduledAt := hm.scheduledAt
  have hmatches : payload.Matches (r.record.withMessage m').pulled d ↔ payload.Matches r.record d := by
    unfold CanonicalPayload.Matches
    rw [hdeadline, hscheduled]
    exact Iff.rfl
  unfold validateDeliveryPayload
  simp only [hmatches]

/-- `Build` opens the payload with the protector. -/
def DeliveryMaterialService.Opens (service : DeliveryMaterialService) (protector : Protector) : Prop :=
  ∀ data x, service.openPayload data x = (protector.openPayload data x).mapError .returned

theorem DispatchClaim.Of.build_mismatch_iff {db : Db} {claimed : DispatchClaim}
    {service : DeliveryMaterialService} (hclaimed : claimed.Of r)
    (hid : claimed.attempt.messageID = claimed.record.message.id) (hsound : r.SoundIn db)
    (hinverse : ∀ t text, E.L.formatTime t = some text → E.L.parseTime text = some t)
    (hidempotent : ∀ value email, normalizeEmail E.L value = .ok email → normalizeEmail E.L email = .ok email)
    (hby : r.SealedBy E.L protector c p) (hopens : service.Opens protector) :
    service.build E.L claimed.record claimed.attempt = .error (.material "PAYLOAD_IDENTITY_MISMATCH" false) ↔
      metadataEntries c.metadata ≠ [] := by
  obtain ⟨d, payload, hsubmission, hopen, hdecode, hvalid⟩ := hby.opened hsound hinverse hidempotent
  obtain ⟨now, m', hm, hrecord⟩ := hclaimed.record
  have hattempt := hclaimed.attempt hid
  have hmessage : claimed.record.message.id = r.snapshot.id := by
    rw [hrecord]
    exact hm.id
  have hchecked : claimed.record.validate = .ok () := by
    have hload := hclaimed.loadable.record
    simp only [MessageRecord.validate, check_bind_eq_ok] at hload ⊢
    rw [hmessage]
    rw [hrecord]
    exact hload
  have hopened : service.openPayload (claimed.record.tenantID ++ "/" ++ claimed.record.message.id)
      ⟨d.payloadKeyID, d.encryptedPayload⟩ = .ok p.canonical := by
    rw [hopens, hmessage, hrecord]
    exact mapError_ok_iff.2 hopen
  have hd : claimed.record.submission = some d := by
    rw [hrecord]
    exact hsubmission
  rw [DeliveryMaterialService.build_opened hchecked hd hattempt hopened hdecode]
  rw [← validateDeliveryPayload_moved hm, ← hrecord] at hvalid
  constructor
  · intro herror hnone
    rw [hvalid.2 hnone] at herror
    exact service.buildFrom_fails _ _ _ _ herror rfl
  · intro hsome
    cases hresult : validateDeliveryPayload E.L claimed.record d payload with
    | ok u => exact absurd (hvalid.1 hresult) hsome
    | error e => rfl

theorem MessageRow.Origin.mono {older : History} (ho : r.Origin E older) (hsub : older ⊆ h) :
    r.Origin E h := by
  obtain ⟨hsubmitted, hid, hin, hdescends⟩ := ho
  exact ⟨hsubmitted, hid, hsub hin, hdescends⟩

/-- What a submission sealed and what its row holds agree at delivery exactly if the submission has
no metadata: the payload of every stored message is opened and decoded, and with metadata every
`Build` reports a mismatch. -/
theorem payload_identity_iff (hr : Reached E h s)
    (hinverse : ∀ t text, E.L.formatTime t = some text → E.L.parseTime text = some t)
    (hidempotent : ∀ value email, normalizeEmail E.L value = .ok email →
      normalizeEmail E.L email = .ok email) :
    (∀ r ∈ s.db.messages, r.Origin E h ∧ ∀ protector c p, r.SealedBy E.L protector c p → ∃ d payload,
      r.submission = some d ∧
      protector.openPayload (r.tenantID ++ "/" ++ r.snapshot.id)
        ⟨d.payloadKeyID, d.encryptedPayload⟩ = .ok p.canonical ∧
      decodeCanonicalPayload E.L p.canonical = some payload ∧
      (validateDeliveryPayload E.L r.record d payload = .ok () ↔ metadataEntries c.metadata = [])) ∧
    ∀ i claimed reported s₁, (Action.claim i (.started claimed) reported, s₁) ∈ h →
      claimed.attempt.messageID = claimed.record.message.id → ∃ r, claimed.Of r ∧ r.Origin E h ∧
        ∀ protector c p (service : DeliveryMaterialService), r.SealedBy E.L protector c p →
        service.Opens protector →
          (service.build E.L claimed.record claimed.attempt =
            .error (.material "PAYLOAD_IDENTITY_MISMATCH" false) ↔
            metadataEntries c.metadata ≠ []) := by
  refine ⟨fun r hmem => ⟨Reached.origin hr hmem, fun protector c p hby => ?_⟩,
    fun i claimed reported s₁ hin hid => ?_⟩
  · exact hby.opened ((Reached.ok hr).sound.rows r hmem) hinverse hidempotent
  · obtain ⟨newer, older, rfl⟩ := List.append_of_mem hin
    obtain ⟨s₀, hr₀, hstep, -⟩ := hr.split
    obtain ⟨r, hmem, hclaimed⟩ := hstep.claim_of (Reached.ok hr₀)
    have hsub : older ⊆ newer ++ (Action.claim i (.started claimed) reported, s₁) :: older :=
      fun _ he => List.mem_append_right _ (List.mem_cons_of_mem _ he)
    exact ⟨r, hclaimed, (Reached.origin hr₀ hmem).mono hsub, fun protector c p service hby hopens =>
      hclaimed.build_mismatch_iff hid ((Reached.ok hr₀).sound.rows r hmem) hinverse hidempotent hby hopens⟩

end Identity

namespace Sample

/-- A protector that opens what it sealed. -/
def vault : Protector where
  keyID := "k1"
  aeadSeal _ plaintext _ := List.replicate 17 0 ++ plaintext.toByteArray.data.toList
  aeadOpen _ ciphertext _ := String.fromUTF8? ⟨(ciphertext.drop 17).toArray⟩
  hmac _ := 0

theorem vault_faithful : vault.Faithful := by
  intro nonce plaintext data
  have hbytes : (⟨((List.replicate 17 0 ++ plaintext.toByteArray.data.toList).drop 17).toArray⟩ : ByteArray) =
      plaintext.toByteArray := by
    rw [List.drop_left' List.length_replicate]
  refine (congrArg String.fromUTF8? hbytes).trans ?_
  rw [String.fromUTF8?, dif_pos plaintext.isValidUTF8]
  rfl

def vaultEnv (hash : String → Uuid) : Env := ⟨domainLibs hash, 3, {messageID}⟩

theorem reached_vault (hash : String → Uuid) : Reached (vaultEnv hash) [] start :=
  .start ⟨⟨_, rfl⟩, rfl, rfl, rfl, rfl, rfl⟩

/-- What `vault` makes of a text. -/
def vaulted (plaintext : String) : ProtectedPayload :=
  ⟨"k1", nonce.bytes ++ (List.replicate 17 0 ++ plaintext.toByteArray.data.toList)⟩

theorem vaulted_length (plaintext : String) : 29 ≤ (vaulted plaintext).ciphertext.length := by
  simp only [vaulted, List.length_append, nonce.length_bytes, List.length_replicate]
  omega

theorem vaulted_valid (plaintext : String) : (vaulted plaintext).validate = .ok () :=
  ProtectedPayload.validate_eq_ok.2 ⟨(by decide : notBlankWithin "k1" 128), vaulted_length plaintext⟩

variable {scheduledAt : Option Time} {metadata : Option StringMap} {text canonical stored : String}

theorem vault_prepared (hash : String → Uuid)
    (hp : prepareSubmission (libs hash) catalog protector (command scheduledAt metadata) messageID nonce =
      .ok (prepared scheduledAt text canonical)) (hm : normalizeMetadata metadata = .ok text)
      (hs : Choice scheduledAt) :
    prepareSubmission (domainLibs hash) catalog vault (command scheduledAt metadata) messageID nonce =
      .ok { prepared scheduledAt text canonical with sealedPayload := vaulted canonical } := by
  obtain ⟨_, _, _, hfrom⟩ := prepareSubmission_eq_ok.1 hp
  have hc := @checked scheduledAt metadata _ hash hm
  obtain ⟨hplain, -⟩ := Protector.sealPayload_eq_ok.1 hfrom.sealedPayload
  refine prepareSubmission_eq_ok.2 ⟨_, _, _, ⟨hc.tenantID, hc.idempotencyKey, domainLibs_address hash,
    hc.recipientDisplayName, hc.senderIdentityKey, hc.templateKey, hc.templateVersion, hc.locale, hc.policy,
    hc.dispatchDeadline, hc.templateVariables, hc.metadata⟩, (normalized hs).symm, rfl, rfl, hfrom.template,
    hfrom.canonical, rfl, Protector.sealPayload_eq_ok.2 ⟨hplain, vaulted_valid _, rfl⟩, vaulted_valid _, rfl⟩

theorem vault_storable (h : (prepared scheduledAt text canonical).Storable tenant.text stored) :
    { prepared scheduledAt text canonical with sealedPayload := vaulted canonical }.Storable
      tenant.text stored := by
  have hlong := vaulted_length canonical
  obtain ⟨htenant, hkey, hpolicy, hdeadline, hscheduled, hdetails, hmetadata, hcolumns⟩ := h
  refine ⟨htenant, hkey, hpolicy, hdeadline, hscheduled, ?_, hmetadata, ?_⟩
  · simp only [SubmissionDetails.validate, check_bind_eq_ok, check_eq_ok] at hdetails ⊢
    obtain ⟨h₁, h₂, h₃, h₄, h₅, h₆, -, h₈⟩ := hdetails
    exact ⟨h₁, h₂, h₃, h₄, h₅, h₆, hlong, h₈⟩
  · obtain ⟨h₁, h₂, h₃, h₄, h₅, h₆, -, h₈⟩ := hcolumns
    exact ⟨h₁, h₂, h₃, h₄, h₅, h₆, hlong, h₈⟩

/-- A message that is to be sent at once is accepted under `vault`. -/
theorem exists_vaulted (hm : normalizeMetadata metadata = .ok text)
    (hlen : len text ≠ 0 ∧ len text ≤ 4 * 1024) (hobject : isJSONObject text = true)
    (hstored : jsonbColumn text = some stored) : ∃ hash p m row,
      Submitted (domainLibs hash) catalog vault (command none metadata) messageID nonce now p m row ∧
      m.status = .queued ∧ row.tenantID = p.normalized.tenantID ∧
      row.submission = some { p.details with metadata := stored } ∧
      now < row.snapshot.dispatchDeadline ∧
      Acceptable (domainLibs hash) {messageID} now start.db p m row := by
  obtain ⟨hash, hc⟩ := exists_collisionFree messageID
  obtain ⟨canonical, hp⟩ := submission_prepared hash (.inl rfl) hm hobject
  obtain ⟨⟨hzero, hformat⟩, hplain⟩ := stores hash now (by simp)
  have htimes : validateSubmissionTimes now none deadline = .ok () := by decide
  have hstorable : { prepared none text canonical with sealedPayload := vaulted canonical }.Storable
      tenant.text stored :=
    vault_storable (storable (.inl rfl) hlen hobject hstored)
  have ha := hstorable.acceptable (L := domainLibs hash) (Reached.ok (reached_vault hash)).sound hc
    ⟨messageID, rfl, rfl⟩ htimes ⟨_, List.mem_singleton.2 rfl, rfl⟩ rfl List.not_mem_nil
    ⟨⟨hzero, hformat⟩, hplain⟩
  have hdeadline : now < truncate deadline := by decide
  refine ⟨hash, _, _, _, ⟨vault_prepared hash hp hm (.inl rfl), ha.times, ha.new, ?_, ha.stored⟩, rfl,
    rfl, rfl, hdeadline, ha⟩
  rw [MessageRecord.validateForCreate, ha.valid, ok_bind, check_eq_ok]
  exact ha.moved.version

/-- One entry. -/
def entry : StringMap := ⟨[("k", "v")], by decide⟩

theorem entry_stored : normalizeMetadata (some entry) = .ok "\x7b\"k\":\"v\"\x7d" ∧
    (len "\x7b\"k\":\"v\"\x7d" ≠ 0 ∧ len "\x7b\"k\":\"v\"\x7d" ≤ 4 * 1024) ∧
    isJSONObject "\x7b\"k\":\"v\"\x7d" = true ∧
    jsonbColumn "\x7b\"k\":\"v\"\x7d" = some "\x7b\"k\": \"v\"\x7d" :=
  ⟨by decide +kernel, by decide, by decide +kernel, by decide +kernel⟩

end Sample

/-- A message without metadata is accepted, and its payload agrees with its row. -/
theorem payload_identity_iff_empty : ∃ E h s r d payload canonical, Reached E h s ∧ r ∈ s.db.messages ∧
    r.submission = some d ∧
    Sample.vault.openPayload (r.tenantID ++ "/" ++ r.snapshot.id) ⟨d.payloadKeyID, d.encryptedPayload⟩ =
      .ok canonical ∧ decodeCanonicalPayload E.L canonical = some payload ∧
    validateDeliveryPayload E.L r.record d payload = .ok () := by
  obtain ⟨hm, hlen, hobject, hstored⟩ := Sample.metadata_empty
  obtain ⟨hash, p, m, row, hs, -, -, -, -, ha⟩ := Sample.exists_vaulted hm hlen hobject hstored
  have hr := Reached.accepts (Sample.reached_vault hash) rfl hs.prepared ha
  have hby : row.SealedBy (Sample.domainLibs hash) Sample.vault (Sample.command none none) p :=
    ⟨hs, .refl row, Sample.vault_faithful, uuidColumn_text Sample.tenant⟩
  obtain ⟨hrows, -⟩ :=
    payload_identity_iff hr (Sample.parse_format hash) fun _ _ => Sample.domainLibs_idempotent
  obtain ⟨d, payload, hd, hopen, hdecode, hvalid⟩ := (hrows row mem_acceptedDb).2 _ _ _ hby
  exact ⟨_, _, _, row, d, payload, _, hr, mem_acceptedDb, hd, hopen, hdecode, hvalid.2 rfl⟩

/-- A message with one entry of metadata is accepted and claimed, and every `Build` reports a mismatch. -/
theorem payload_identity_mismatch : ∃ E h s s₁ s₂ now claimed record c, Reached E h s ∧
    (Action.submit c now ⟨.accepted, record⟩, s₁) ∈ h ∧ (Action.claim 0 (.started claimed) true, s₂) ∈ h ∧
    c.metadata = some Sample.entry ∧ record.message.id = claimed.record.message.id ∧
    (∀ t text, E.L.formatTime t = some text → E.L.parseTime text = some t) ∧
    (∀ value email, normalizeEmail E.L value = .ok email → normalizeEmail E.L email = .ok email) ∧
    Sample.vault.Faithful ∧ ∀ service : DeliveryMaterialService, service.Opens Sample.vault →
      service.build E.L claimed.record claimed.attempt =
        .error (.material "PAYLOAD_IDENTITY_MISMATCH" false) := by
  obtain ⟨hm, hlen, hobject, hstored⟩ := Sample.entry_stored
  obtain ⟨hash, p, m, row, hs, hq, htenant, hsubmission, hdeadline, ha⟩ :=
    Sample.exists_vaulted hm hlen hobject hstored
  have haccepted := Reached.accepts (Sample.reached_vault hash) rfl hs.prepared ha
  have hload : row.Loadable := (Reached.loadable_iff haccepted Sample.precise mem_acceptedDb).2 fun d hd => by
    have hshort : len "\x7b\"k\": \"v\"\x7d" ≤ 4 * 1024 := by decide
    rw [hsubmission] at hd
    rw [← Option.mem_some_iff.1 hd]
    exact hshort
  obtain ⟨leased, d, claimed, request, s₁, s₂, s₃, s₄, s₅, s₆, s₇, s₈, hr, ⟨id, m', hmoved, hclaimed⟩, -⟩ :=
    Sample.delivered (Sample.reached_vault hash) rfl rfl hs.prepared ha hq htenant hload hdeadline
  have hsplit : Reached _
      ([(.callSubmit 0 claimed request, s₈)] ++ (.claim 0 (.started claimed) true, s₇) :: _) s₈ := hr
  obtain ⟨s₀, hr₀, hstep, -⟩ := hsplit.split
  obtain ⟨r, -, hof⟩ := hstep.claim_of (Reached.ok hr₀)
  have hid : claimed.record.message.id = row.snapshot.id := by
    rw [hclaimed]
    exact hmoved.id
  have hattempt : claimed.attempt.messageID = claimed.record.message.id := by
    rw [hid, hclaimed]
    exact ha.messageID.2.trans ha.messageID.1.symm
  have hofRow : claimed.Of row := ⟨⟨_, m', hmoved, by rw [hclaimed]; rfl⟩, hload, hof.attempt⟩
  have hby : row.SealedBy (Sample.domainLibs hash) Sample.vault (Sample.command none (some Sample.entry)) p :=
    ⟨hs, .refl row, Sample.vault_faithful, uuidColumn_text Sample.tenant⟩
  refine ⟨Sample.vaultEnv hash, _, s₈, s₁, s₇, Sample.now, claimed, (p.record m).pulled,
    Sample.command none (some Sample.entry), hr, by simp, by simp, rfl, ?_, Sample.parse_format hash,
    fun _ _ => Sample.domainLibs_idempotent, Sample.vault_faithful, fun service hopens => ?_⟩
  · exact (ha.messageID.2.trans ha.messageID.1.symm).trans hid.symm
  · exact (hofRow.build_mismatch_iff (E := Sample.vaultEnv hash) hattempt
      ((Reached.ok haccepted).sound.rows row mem_acceptedDb) (Sample.parse_format hash)
      (fun _ _ => Sample.domainLibs_idempotent) hby hopens).2 (List.cons_ne_nil _ _)

end MailService
