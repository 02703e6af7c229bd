import MailService.Agreement
import MailService.Catalog
import MailService.Query
import MailService.Storage
/-!
# One tenant, several spellings

`uuid.Parse` reads a tenant id in upper case, without hyphens, in braces or as a URN, and
`Submit` uses the text as it came: in the dispatch request, in the associated data of the
payload, and in its queries. A `uuid` column returns one spelling only, and what is loaded is
compared with what was sent as text.
-/
open Text Checks Table Runs

namespace MailService

open Db

/-- The tenant is spelled as a `uuid` column returns it. -/
def SubmitEmailCommand.Canonical (c : SubmitEmailCommand) : Prop := uuidColumn c.tenantID = some c.tenantID

section Spelling

variable {E : Env} {h : History} {s : System} {catalog : SubmissionCatalog} {protector : Protector}
  {c : SubmitEmailCommand}
  {drawn : Uuid} {nonce : Nonce} {now : Time} {p : PreparedSubmission} {m : Message}
  {row r : MessageRow} {e : Event}

section Submitted

variable {L : Libs} (hs : Submitted L catalog protector c drawn nonce now p m row)

include hs

theorem Submitted.normalized_tenant : isUUID c.tenantID = true ∧ p.normalized.tenantID = c.tenantID := by
  obtain ⟨email, locale, templateVariables, hfrom⟩ := prepareSubmission_eq_ok.1 hs.prepared
  refine ⟨hfrom.checked.tenantID, ?_⟩
  rw [hfrom.normalized]
  rfl

/-- The tenant that is loaded is the one that was sent exactly if it was sent in canonical form. -/
theorem Submitted.tenant_iff (hd : row.Descends r) : r.tenantID = c.tenantID ↔ c.Canonical := by
  obtain ⟨tenant, stored, hcolumn, -, hholds⟩ := hs.holds hd
  rw [hs.normalized_tenant.2] at hcolumn
  rw [SubmitEmailCommand.Canonical, hcolumn, hholds.tenantID, Option.some.injEq]

theorem Submitted.id_eq (hd : row.Descends r) : r.snapshot.id = drawn.text := by
  obtain ⟨tenant, stored, -, -, hholds⟩ := hs.holds hd
  exact hholds.id.trans (prepareSubmission_messageID hs.prepared)

end Submitted

/-- A request of the submission, in the text it was mapped to or the text a `jsonb` column returns
for it, is read back under the tenant that was sent. -/
theorem Submitted.request_parsed
    (hs : Submitted E.L catalog protector c drawn nonce now p m row) (hr : Reached E h s)
    (hdrawn : drawn ∈ E.ids) (hclock : E.L.Encodes now) (he : e ∈ m.pendingEvents)
    (hk : e.kind = .dispatchRequested) : ∃ o, mapMessageEvent E.L (p.record m) e = .ok o ∧
      ∀ body n reply, Carried o.payload body → 0 < n →
      ∃ d, (publish .default ⟨{ o with payload := body }, n⟩ reply).1 = some d ∧
        parseDispatchDelivery E.L .default d =
          .ok ⟨o.id, c.tenantID, drawn.text, e.sequence, e.dispatchGeneration⟩ := by
  obtain ⟨huuid, htenant⟩ := hs.normalized_tenant
  have hemit : Emits E s (p.record m) :=
    .submitted hdrawn hs.prepared (submissionRecord_eq_ok.2 ⟨hs.times, m, hs.new, rfl⟩)
  have haddressed : isUUID (p.record m).tenantID = true := by
    change isUUID p.normalized.tenantID = true
    rw [htenant, huuid]
  obtain ⟨ha, hproper⟩ := hemit.proper hr haddressed
  have hp := hproper e he
  have hid : (p.record m).message.id = drawn.text :=
    ((Message.new_moved hs.new).1.id).trans (prepareSubmission_messageID hs.prepared)
  have hencodes : E.L.Encodes e.occurredAt := by
    rw [Message.new_occurredAt hs.new e he]
    exact hclock
  refine ⟨_, hp.mapped ha hencodes, fun body n reply hbody hn => ?_⟩
  obtain ⟨d, hd, hparsed⟩ := dispatch_agreement ha hp hencodes hk hn hbody reply
  refine ⟨d, hd, hparsed.trans ?_⟩
  rw [hid, ← htenant]
  rfl

/-- A command under another spelling of the tenant than the loaded one is refused. -/
theorem claim_foreign (hk : s.db.Keyed) (hmem : r ∈ s.db.messages) (hload : r.Loadable)
    {command : DispatchCommand} (hid : command.messageID = r.snapshot.id)
    (htenant : r.tenantID ≠ command.tenantID) (key : String) (attemptID : Uuid)
    (now : Time) : claim E.L key attemptID command s.db now s.db =
      .error (.dispatchInvariant "dispatch tenant does not own message") := by
  have hloaded : loadForClaim s.db command.messageID = .ok r.record := by
    rw [loadForClaim, hid, getByID_eq_scan hk hmem, scanMessageRecord_eq_ok.2 ⟨hload, rfl⟩]
  rw [claim, hloaded, ok_bind]
  exact check_bind_eq_error.2 (.inl ⟨htenant, rfl⟩)

/-- A query by id compares the tenants of the record it read. -/
theorem get_byID_eq (hk : s.db.Keyed) (hmem : r ∈ s.db.messages) {tenantID : String}
    (htenant : isUUID tenantID = true) :
    EmailQueryService.get s.db ⟨tenantID, r.snapshot.id, ""⟩ = (do
      let record ← scanMessageRecord r
      check (record.tenantID = tenantID) .messageNotFound
      pure record) := by
  obtain ⟨hid, -⟩ := hk.canonical r hmem
  obtain ⟨u, hu⟩ := exists_text_of_uuidColumn hid
  have hne : r.snapshot.id ≠ "" := by
    rw [hu]
    exact Uuid.text_ne_empty u
  have hbyID : decide (r.snapshot.id ≠ "") ≠ decide ("" ≠ "") := by simp [hne]
  have htrim : trimSpace r.snapshot.id = r.snapshot.id := by
    rw [hu]
    exact Uuid.trimSpace_text u
  rw [EmailQueryService.get, check_bind htenant]
  dsimp only
  rw [check_bind hbyID, if_neg (by simp), check_bind htrim, check_bind (isUUID_of_uuidColumn hid),
    getByID_eq_scan hk hmem]

/-- It finds the message exactly if it can be read and the query spells its tenant as it is loaded. -/
theorem get_byID_iff (hk : s.db.Keyed) (hmem : r ∈ s.db.messages) {tenantID : String}
    (htenant : isUUID tenantID = true) :
    EmailQueryService.get s.db ⟨tenantID, r.snapshot.id, ""⟩ = .ok r.record ↔
    r.Loadable ∧ r.tenantID = tenantID := by
  rw [get_byID_eq hk hmem htenant]
  constructor
  · intro hget
    obtain ⟨record, hscan, hrest⟩ := bind_eq_ok.1 hget
    obtain ⟨hload, rfl⟩ := scanMessageRecord_eq_ok.1 hscan
    exact ⟨hload, (check_bind_eq_ok.1 hrest).1⟩
  · rintro ⟨hload, heq⟩
    rw [scanMessageRecord_eq_ok.2 ⟨hload, rfl⟩, ok_bind]
    exact check_bind_eq_ok.2 ⟨heq, rfl⟩

/-- Whatever a claim loads under the id of a stored message is the record of that message. -/
theorem loadForClaim_record (hk : s.db.Keyed) (hmem : r ∈ s.db.messages) {record : MessageRecord}
    (hload : loadForClaim s.db r.snapshot.id = .ok record) : record = r.record := by
  rw [loadForClaim, getByID_eq_scan hk hmem] at hload
  cases hscan : scanMessageRecord r with
  | error e => cases e <;> simp [hscan] at hload
  | ok loaded =>
    simp only [hscan, Except.ok.injEq] at hload
    rw [← hload, (scanMessageRecord_eq_ok.1 hscan).2]

/-- A message of the configured tenant can be dispatched and queried exactly if the tenant is
spelled in canonical form: its request passes the tenant check of the claim, its payload is opened
with the data it was sealed with, the catalog and the sender are there for the loaded tenant, and a
query under the tenant finds it. -/
theorem tenant_spelling_iff (hr : Reached E h s) (hprecise : Precise h) (deployment : Deployment)
    (hmem : r ∈ s.db.messages) (hdrawn : drawn ∈ E.ids)
    (hs : Submitted E.L catalog protector c drawn nonce now p m row) (hd : row.Descends r)
    (htenant : c.tenantID = deployment.config.developmentTenantID) (hclock : E.L.Encodes now) :
    (∀ e ∈ m.pendingEvents, e.kind = .dispatchRequested → ∃ o, mapMessageEvent E.L (p.record m) e = .ok o ∧
      ∀ body n reply, Carried o.payload body → 0 < n → ∃ d command,
        (publish .default ⟨{ o with payload := body }, n⟩ reply).1 = some d ∧
        parseDispatchDelivery E.L .default d = .ok command ∧ command.messageID = r.snapshot.id ∧
        (∀ record, loadForClaim s.db command.messageID = .ok record →
          (record.tenantID = command.tenantID ↔ c.Canonical)) ∧
        (¬ c.Canonical → r.Short → ∀ key attemptID now, claim E.L key attemptID command s.db now s.db =
          .error (.dispatchInvariant "dispatch tenant does not own message"))) ∧
    (protector.sealPayload nonce (c.tenantID ++ "/" ++ drawn.text) p.canonical = .ok p.sealedPayload ∧
      (r.tenantID ++ "/" ++ r.snapshot.id = c.tenantID ++ "/" ++ drawn.text ↔ c.Canonical)) ∧
    (∀ request resolved, deployment.catalog.resolve request = .ok resolved →
      ((∃ rendered, deployment.catalog.renderDelivery
        ⟨r.tenantID, resolved.key, resolved.version, resolved.locale, resolved.templateVariables⟩ =
          .ok rendered) ↔
          c.Canonical)) ∧
    ((∃ sender, deployment.resolver.resolveSender r.tenantID deployment.identity.key = .ok sender) ↔
      c.Canonical) ∧
    (EmailQueryService.get s.db ⟨c.tenantID, r.snapshot.id, ""⟩ = .ok r.record ↔ c.Canonical ∧ r.Short) := by
  have hk := (Reached.ok hr).sound.keyed
  have hload : r.Loadable ↔ r.Short := Reached.loadable_iff hr hprecise hmem
  have hspelled : r.tenantID = c.tenantID ↔ c.Canonical := hs.tenant_iff hd
  have hconfigured : r.tenantID = deployment.config.developmentTenantID ↔
      c.Canonical := by rw [← htenant, hspelled]
  obtain ⟨email, locale, templateVariables, hfrom⟩ := prepareSubmission_eq_ok.1 hs.prepared
  refine ⟨fun e he hkind => ?_, ⟨hfrom.sealedPayload, ?_⟩, fun request resolved hresolved => ?_, ?_, ?_⟩
  · obtain ⟨o, hmapped, hparsed⟩ := hs.request_parsed hr hdrawn hclock he hkind
    refine ⟨o, hmapped, fun body n reply hbody hn => ?_⟩
    obtain ⟨d, hpublished, hcommand⟩ := hparsed body n reply hbody hn
    have hid : drawn.text = r.snapshot.id := (hs.id_eq hd).symm
    refine ⟨d, _, hpublished, hcommand, hid, fun record hrecord => ?_,
      fun hforeign hshort key attemptID now => ?_⟩
    · change loadForClaim s.db drawn.text = _ at hrecord
      rw [hid] at hrecord
      rw [loadForClaim_record hk hmem hrecord]
      exact hspelled
    · exact claim_foreign hk hmem (hload.2 hshort) hid (mt hspelled.1 hforeign) key attemptID now
  · rw [hs.id_eq hd, String.append_left_inj, String.append_left_inj, hspelled]
  · rw [Catalog.renderDelivery_resolved hresolved]
    exact hconfigured
  · rw [Resolver.resolveSender_iff deployment.resolves]
    exact hconfigured
  · rw [get_byID_iff hk hmem hs.normalized_tenant.1, hload, hspelled, and_comm]

end Spelling

/-! ## A tenant without hyphens -/

namespace Sample

variable {spelling : String}

/-- The message of the other samples, with the tenant in another spelling. -/
def spelledCommand (spelling : String) : SubmitEmailCommand := { command none none with tenantID := spelling }

def spelledPrepared (spelling canonical : String) : PreparedSubmission :=
  { prepared none "\x7b\x7d" canonical with normalized := spelledCommand spelling }

theorem spelled_prepared (hash : String → Uuid) (huuid : isUUID spelling = true) : ∃ canonical,
    prepareSubmission (libs hash) catalog protector (spelledCommand spelling) messageID nonce =
      .ok (spelledPrepared spelling canonical) := by
  obtain ⟨hm, -, hobject, -⟩ := metadata_empty
  obtain ⟨canonical, hp⟩ := submission_prepared hash (.inl rfl) hm hobject
  obtain ⟨_, _, _, hfrom⟩ := prepareSubmission_eq_ok.1 hp
  have hc := @checked none none _ hash hm
  have hnormalized : spelledCommand spelling =
      (spelledCommand spelling).normalized "ann@example.com" "en" "\x7b\x7d" := by
    obtain ⟨hdeadline, hscheduled⟩ := truncated (.inl rfl : Choice none)
    simp [SubmitEmailCommand.normalized, spelledCommand, command, hdeadline]
  obtain ⟨⟨-, hplain⟩, hvalid, hpayload⟩ := Protector.sealPayload_eq_ok.1 hfrom.sealedPayload
  have hseal : protector.sealPayload nonce (spelling ++ "/" ++ messageID.text) canonical =
      .ok ⟨"k1", List.replicate 29 0⟩ :=
    Protector.sealPayload_eq_ok.2 ⟨⟨by simp, hplain⟩, sealed_valid, rfl⟩
  exact ⟨canonical, prepareSubmission_eq_ok.2
    ⟨_, _, _, ⟨huuid, hc.idempotencyKey, hc.recipientEmail, hc.recipientDisplayName,
    hc.senderIdentityKey, hc.templateKey, hc.templateVersion, hc.locale, hc.policy, hc.dispatchDeadline,
    hc.templateVariables, hc.metadata⟩, hnormalized, rfl, rfl, hfrom.template, hfrom.canonical, rfl,
    hseal, sealed_valid, rfl⟩⟩

/-- The message is accepted in every spelling that the database reads. -/
theorem exists_spelled (huuid : isUUID spelling = true) (hcolumn : uuidColumn spelling = some tenant.text) :
    ∃ hash p m row, Submitted (libs hash) catalog protector
      (spelledCommand spelling) messageID nonce now p m row ∧
      m.status = .queued ∧ row.Short ∧ row.snapshot.id = messageID.text ∧
      Acceptable (libs hash) {messageID} now start.db p m row := by
  obtain ⟨hm, hlen, hobject, hstored⟩ := metadata_empty
  obtain ⟨hash, hc⟩ := exists_collisionFree messageID
  obtain ⟨canonical, hp⟩ := spelled_prepared hash huuid
  have htimes : validateSubmissionTimes now none deadline = .ok () := by decide
  obtain ⟨-, hkey, hpolicy, hdeadline, hscheduled, hdetails, hmetadata, hcolumns⟩ :=
    @storable none _ canonical _ (.inl rfl) hlen hobject hstored
  have hstorable : (spelledPrepared spelling canonical).Storable tenant.text "\x7b\x7d" :=
    ⟨⟨huuid, hcolumn⟩, hkey, hpolicy, hdeadline, hscheduled, hdetails, hmetadata, hcolumns⟩
  have ha := hstorable.acceptable (L := libs hash) (Reached.ok (reached_start hash)).sound hc
    ⟨messageID, rfl, rfl⟩ htimes ⟨_, List.mem_singleton.2 rfl, rfl⟩ rfl List.not_mem_nil
    (stores hash now (by simp))
  refine ⟨hash, _, _, _, ⟨hp, ha.times, ha.new, ?_, ha.stored⟩, rfl, fun d hd => ?_, rfl, ha⟩
  · rw [MessageRecord.validateForCreate, ha.valid, ok_bind, check_eq_ok]
    exact ha.moved.version
  · rw [← Option.mem_some_iff.1 hd]
    exact hlen.2

def identity : SenderIdentity := ⟨aiNexusSenderIdentityKey, "noreply@example.com", "AI Nexus"⟩

/-- The settings of a process for the tenant. -/
def deployment (spelling : String) (huuid : isUUID spelling = true) : Deployment where
  config := ⟨true, spelling, "k1", List.replicate 32 0, List.replicate 32 1⟩
  valid := by
    have hkey : notBlankWithin "k1" 128 ∧ hasLineBreak "k1" = false := by decide
    have hkeys : List.replicate 32 (0 : UInt8) ≠ List.replicate 32 1 := by decide
    simp only [SubmissionSecurityConfig.validate, check_bind_eq_ok, check_eq_ok]
    exact ⟨trivial, huuid, hkey, List.length_replicate, List.length_replicate, hkeys⟩
  identity := identity
  resolver := ⟨spelling, identity⟩
  resolves := by
    have hidentity : identity.validate = .ok () := check_eq_ok.2 (by decide)
    rw [Resolver.new, check_bind huuid, hidentity]
    rfl

/-- The digits of the tenant without hyphens. -/
def bare : String := "00000000000000000000000000000001"

theorem bare_read : isUUID bare = true ∧ uuidColumn bare = some tenant.text ∧ tenant.text ≠ bare := by decide

end Sample

/-- A message of a tenant in canonical form is found by a query. -/
theorem tenant_spelling_iff_canonical :
    ∃ E h s r c, Reached E h s ∧ r ∈ s.db.messages ∧ SubmitEmailCommand.Canonical c ∧
    EmailQueryService.get s.db ⟨c.tenantID, r.snapshot.id, ""⟩ = .ok r.record := by
  have huuid := isUUID_of_uuidColumn (uuidColumn_text Sample.tenant)
  obtain ⟨hash, p, m, row, hs, -, hshort, -, ha⟩ :=
    Sample.exists_spelled huuid (uuidColumn_text Sample.tenant)
  have hr := Reached.accepts (Sample.reached_start hash) rfl hs.prepared ha
  obtain ⟨-, -, -, -, hget⟩ :=
    tenant_spelling_iff hr Sample.precise (Sample.deployment _ huuid) mem_acceptedDb rfl hs
    (.refl row) rfl (Sample.stores hash Sample.now (by simp)).toEncodes
  exact ⟨_, _, _, row, Sample.spelledCommand Sample.tenant.text, hr, mem_acceptedDb,
    uuidColumn_text Sample.tenant, hget.2 ⟨uuidColumn_text Sample.tenant, hshort⟩⟩

/-- A tenant configured without hyphens: its message is accepted, its own dispatch request is
refused by every claim, its payload is opened with other data than it was sealed with, no template
and no sender is there for it, and a query under the tenant does not find it. -/
theorem tenant_spelling_refused : ∃ E h s s₁ r c now record, ∃ deployment : Deployment, Reached E h s ∧
    (Action.submit c now ⟨.accepted, record⟩, s₁) ∈ h ∧ c.tenantID = deployment.config.developmentTenantID ∧
    r ∈ s.db.messages ∧ r.snapshot.id = record.message.id ∧
    (∃ o d command, o ∈ s.db.outbox ∧ (publish .default ⟨o.event, 1⟩ (.ack none)).1 = some d ∧
      parseDispatchDelivery E.L .default d = .ok command ∧ ∀ key attemptID now,
        claim E.L key attemptID command s.db now s.db =
          .error (.dispatchInvariant "dispatch tenant does not own message")) ∧
    r.tenantID ++ "/" ++ r.snapshot.id ≠ c.tenantID ++ "/" ++ record.message.id ∧
    (∀ request : RenderDeliveryRequest,
      deployment.catalog.renderDelivery { request with tenantID := r.tenantID } =
      .error (.returned .templateNotAllowed)) ∧
    (∀ key, deployment.resolver.resolveSender r.tenantID key = .error (.returned .senderIdentityNotAllowed)) ∧
    EmailQueryService.get s.db ⟨c.tenantID, r.snapshot.id, ""⟩ = .error .messageNotFound := by
  obtain ⟨huuid, hcolumn, hother⟩ := Sample.bare_read
  obtain ⟨hash, p, m, row, hs, hq, hshort, hid, ha⟩ := Sample.exists_spelled huuid hcolumn
  have hr := Reached.accepts (Sample.reached_start hash) rfl hs.prepared ha
  have hk := (Reached.ok hr).sound.keyed
  have hload := (Reached.loadable_iff hr Sample.precise mem_acceptedDb).2 hshort
  have htenant : row.tenantID = Sample.tenant.text := by
    have hstored := ha.column
    rw [hs.normalized_tenant.2] at hstored
    exact Option.some.inj (hstored.symm.trans hcolumn)
  have hforeign : row.tenantID ≠ Sample.bare := by rwa [htenant]
  have hmessage : row.snapshot.id = m.id := ha.messageID.1.trans ha.messageID.2.symm
  refine ⟨_, _, _, _, row, _, _, (p.record m).pulled, Sample.deployment Sample.bare huuid, hr,
    List.mem_singleton.2 rfl, rfl, mem_acceptedDb, hmessage, ?_, fun hdata => ?_,
    fun request => ?_, fun key => ?_, ?_⟩
  · obtain ⟨d, hpublished, -, id, hparsed⟩ := ha.published hq
    refine ⟨_, d, _, ha.dispatchRow_mem hq, congrArg Prod.fst hpublished, hparsed,
      fun key attemptID now => ?_⟩
    refine claim_foreign (E := Sample.env hash) hk mem_acceptedDb hload hmessage.symm ?_ key attemptID now
    rw [hs.normalized_tenant.2]
    exact hforeign
  · change row.tenantID ++ "/" ++ row.snapshot.id = Sample.bare ++ "/" ++ m.id at hdata
    rw [hmessage, String.append_left_inj, String.append_left_inj] at hdata
    exact hforeign hdata
  · have hrefused : (Sample.deployment Sample.bare huuid).catalog.resolve
        ⟨row.tenantID, request.templateKey, some request.templateVersion, request.locale,
          request.templateVariables⟩ =
          .error .templateNotAllowed := check_bind_eq_error.2 (.inl ⟨hforeign, rfl⟩)
    rw [Catalog.renderDelivery, hrefused]
    rfl
  · exact check_bind_eq_error.2 (.inl ⟨fun hsame => hforeign hsame.1, rfl⟩)
  · change EmailQueryService.get _ ⟨Sample.bare, _, _⟩ = _
    rw [get_byID_eq (s := ⟨_, _, _, _, _, _⟩) hk mem_acceptedDb huuid,
      scanMessageRecord_eq_ok.2 ⟨hload, rfl⟩, ok_bind]
    exact check_bind_eq_error.2 (.inl ⟨hforeign, rfl⟩)

end MailService
