import MailService.Material
import MailService.Preparation
/-!
# Templates and senders

`template/catalog`, `sender/static` and the submission settings of `bootstrap`: one tenant
with one template and one sender. The catalog accepts the variables of a verification mail
in any spelling and returns them in its own, and a delivery renders what it returned.
-/
open Text Checks

namespace MailService

/-! ## Variables -/

/-- `verificationVariables`. -/
structure VerificationVariables where
  code : String
  purpose : String
  validForSeconds : Nat
  deriving DecidableEq, Repr

def verificationVariablesFields : List String := ["code", "purpose", "valid_for_seconds"]

/-- The decoder of the struct; `strict` is `DisallowUnknownFields`. -/
def decodeVerificationVariables (strict : Bool) (raw : String) : Option VerificationVariables := do
  let members ← Json.structMembers verificationVariablesFields strict raw
  let code ← Json.field Json.asString "" "code" members
  let purpose ← Json.field Json.asString "" "purpose" members
  let validForSeconds ← Json.field (Json.asUint (2 ^ 32)) 0 "valid_for_seconds" members
  pure ⟨code, purpose, validForSeconds⟩

def VerificationVariables.members (v : VerificationVariables) : List (String × Json.Value) :=
  [("code", .str v.code), ("purpose", .str v.purpose), ("valid_for_seconds", natValue v.validForSeconds)]

/-- `json.Marshal`. -/
def VerificationVariables.text (v : VerificationVariables) : String := Json.marshal .go (.obj v.members)

def sixDigits (code : String) : Bool := code.length = 6 && code.toList.all Char.isDigit

/-- `purposeLabels`. -/
def purposeLabels : List (String × String) :=
  [("REGISTER", "注册"), ("RESET_PASSWORD", "重置密码"), ("LOGIN", "登录")]

def validPurpose (purpose : String) : Bool :=
  purpose = "REGISTER" || purpose = "RESET_PASSWORD" || purpose = "LOGIN"

/-- What the schema of the template asks of its variables. -/
structure VerificationVariables.Valid (v : VerificationVariables) : Prop where
  code : sixDigits v.code = true
  purpose : validPurpose v.purpose = true
  validForSeconds : 60 ≤ v.validForSeconds ∧ v.validForSeconds ≤ 1800

instance (v : VerificationVariables) : Decidable v.Valid :=
  decidable_of_iff (sixDigits v.code = true ∧ validPurpose v.purpose = true ∧ 60 ≤ v.validForSeconds ∧
    v.validForSeconds ≤ 1800)
    ⟨fun h => ⟨h.1, h.2.1, h.2.2⟩, fun h => ⟨h.code, h.purpose, h.validForSeconds⟩⟩

def validateVerificationVariables (raw : String) : Except Error String :=
  match decodeVerificationVariables true raw with
  | none => .error .templateVariables
  | some decoded => do
    check decoded.Valid .templateVariables
    pure decoded.text

/-! ## The catalog -/

def verificationCodeTemplateKey : String := "verification_code.v1"
def aiNexusSenderIdentityKey : String := "ainexus.default"

structure Catalog where
  tenantID : String

def Catalog.resolve (c : Catalog) (request : ResolveTemplateRequest) : Except Error ResolvedTemplate := do
  check (request.tenantID = c.tenantID) .templateNotAllowed
  check (request.templateKey = verificationCodeTemplateKey ∧ request.locale = "zh-CN") .templateNotFound
  check (∀ version ∈ request.requestedVersion, version = 1) .templateNotFound
  let templateVariables ← validateVerificationVariables request.templateVariables
  pure ⟨verificationCodeTemplateKey, 1, "zh-CN", templateVariables⟩

def Catalog.authorizeSender (c : Catalog) (tenantID senderKey : String) : Except Error Unit :=
  check (tenantID = c.tenantID ∧ senderKey = aiNexusSenderIdentityKey) .senderIdentityNotAllowed

/-- The catalog as `Submit` uses it. -/
def Catalog.port (c : Catalog) : SubmissionCatalog := ⟨c.authorizeSender, c.resolve⟩

/-- `verificationView`. -/
structure VerificationView where
  code : String
  purpose : String
  validForSeconds : Nat

def VerificationVariables.view (v : VerificationVariables) : VerificationView :=
  ⟨v.code, (purposeLabels.lookup v.purpose).getD "", v.validForSeconds⟩

/-- A parsed template: text, and the fields of the view that it names. -/
inductive TemplateNode
  | text (value : String)
  | code
  | purpose
  | validForSeconds

def TemplateNode.write (v : VerificationView) : TemplateNode → String
  | .text value => value
  | .code => v.code
  | .purpose => v.purpose
  | .validForSeconds => toString v.validForSeconds

/-- `Execute`. The values have passed the schema, so the escaping of `html/template` leaves them as
they are. -/
def VerificationView.execute (v : VerificationView) : List TemplateNode → String
  | [] => ""
  | node :: template => node.write v ++ v.execute template

def verificationTextTemplate : List TemplateNode :=
  [.text "您的 AI Nexus ", .purpose, .text "验证码是：", .code, .text "\n\n验证码将在 ", .validForSeconds,
    .text " 秒内有效。请勿向任何人透露此验证码。\n如果这不是您的操作，请忽略本邮件。"]

def verificationHTMLTemplate : List TemplateNode :=
  [.text "<!doctype html>\n<html lang=\"zh-CN\">\n",
    .text "<head><meta charset=\"UTF-8\"><title>AI Nexus 验证码</title></head>\n",
    .text "<body>\n  <main>\n    <h1>AI Nexus ", .purpose, .text "验证</h1>\n    <p>您的验证码是：</p>\n",
    .text "    <p style=\"font-size: 28px; font-weight: bold; letter-spacing: 6px;\">", .code, .text "</p>\n",
    .text "    <p>验证码将在 ", .validForSeconds, .text " 秒内有效。请勿向任何人透露此验证码。</p>\n",
    .text "    <p>如果这不是您的操作，请忽略本邮件。</p>\n  </main>\n</body>\n</html>"]

def VerificationView.rendered (v : VerificationView) : RenderedEmail where
  subject := "AI Nexus " ++ v.purpose ++ "验证码"
  textBody := v.execute verificationTextTemplate
  htmlBody := v.execute verificationHTMLTemplate

def Catalog.renderDelivery (c : Catalog) (request : RenderDeliveryRequest) :
    Except BuildError RenderedEmail := do
  let resolved ← (c.resolve {
    tenantID := request.tenantID
    templateKey := request.templateKey
    requestedVersion := some request.templateVersion
    locale := request.locale
    templateVariables := request.templateVariables }).mapError .returned
  match decodeVerificationVariables false resolved.templateVariables with
  | none => throw (.returned .templateVariables)
  | some decoded =>
    decoded.view.rendered.validate
    pure decoded.view.rendered

/-! ## The sender -/

/-- `static.Resolver`. -/
structure Resolver where
  tenantID : String
  identity : SenderIdentity
  deriving DecidableEq, Repr

def Resolver.new (tenantID : String) (identity : SenderIdentity) : Except BuildError Resolver := do
  check (isUUID tenantID) (.invalidSenderIdentity "tenant id must be a UUID")
  identity.validate
  pure ⟨tenantID, identity⟩

def Resolver.resolveSender (r : Resolver) (tenantID senderKey : String) :
    Except BuildError SenderIdentity := do
  check (tenantID = r.tenantID ∧ senderKey = r.identity.key) (.returned .senderIdentityNotAllowed)
  pure r.identity

/-! ## Settings -/

structure SubmissionSecurityConfig where
  allowInsecureGRPC : Bool
  developmentTenantID : String
  payloadKeyID : String
  encryptionKey : List UInt8
  fingerprintKey : List UInt8
  deriving DecidableEq, Repr

/-- `SubmissionSecurityConfig.Validate`, with the text of `invalidConfig`. -/
def SubmissionSecurityConfig.validate (c : SubmissionSecurityConfig) : Except String Unit := do
  check (c.allowInsecureGRPC = true)
    "MAIL_GRPC_ALLOW_INSECURE must be explicitly true until TLS is implemented"
  check (isUUID c.developmentTenantID) "MAIL_DEV_TENANT_ID must be a UUID"
  check (notBlankWithin c.payloadKeyID 128 ∧ hasLineBreak c.payloadKeyID = false)
    "MAIL_PAYLOAD_KEY_ID must contain 1..128 safe bytes"
  check (c.encryptionKey.length = 32) "MAIL_PAYLOAD_ENCRYPTION_KEY_BASE64 must decode to 32 bytes"
  check (c.fingerprintKey.length = 32) "MAIL_PAYLOAD_FINGERPRINT_KEY_BASE64 must decode to 32 bytes"
  check (c.encryptionKey ≠ c.fingerprintKey) "payload encryption and fingerprint keys must be different"

/-- What `bootstrap` builds from settings that are valid. -/
structure Deployment where
  config : SubmissionSecurityConfig
  valid : config.validate = .ok ()
  identity : SenderIdentity
  resolver : Resolver
  resolves : Resolver.new config.developmentTenantID identity = .ok resolver

def Deployment.catalog (deployment : Deployment) : Catalog := ⟨deployment.config.developmentTenantID⟩

/-! ## What was resolved can be rendered -/

namespace VerificationVariables

variable {v : VerificationVariables}

theorem wf_members (v : VerificationVariables) : Json.wfMembers v.members = true := by
  simp only [members, Json.wfMembers, wf_natValue, Json.wf, Bool.and_self]

/-- The text of the variables is read back as the variables, strictly or not. -/
theorem decode_text (h : v.validForSeconds < 2 ^ 32) (strict : Bool) :
    decodeVerificationVariables strict v.text = some v := by
  have hknown : ∀ m ∈ v.members, m.1 ∈ verificationVariablesFields := by
    simp [members, verificationVariablesFields]
  have hkeys : (v.members.map Prod.fst).Nodup := by
    simp [members]
  have hone : ∀ name ∈ verificationVariablesFields, ∀ m ∈ v.members,
      Json.fieldNamed verificationVariablesFields m.1 = some name → m.1 = name := by
    intro name _ m hm hnamed
    rw [Json.fieldNamed, if_pos (hknown m hm)] at hnamed
    exact Option.some.inj hnamed
  have hcode : Json.field Json.asString "" "code"
      (Json.fieldTexts .go verificationVariablesFields v.members) = some v.code :=
    Json.field_marshal .go v.wf_members hkeys (by decide) (v := .str v.code) (by simp [members])
      (hone _ (by decide)) (by simp) rfl
  have hpurpose : Json.field Json.asString "" "purpose"
    (Json.fieldTexts .go verificationVariablesFields v.members) =
      some v.purpose :=
    Json.field_marshal .go v.wf_members hkeys (by decide) (v := .str v.purpose)
      (by simp [members]) (hone _ (by decide))
      (by simp) rfl
  have hseconds : Json.field (Json.asUint (2 ^ 32)) 0 "valid_for_seconds"
      (Json.fieldTexts .go verificationVariablesFields v.members) = some v.validForSeconds :=
    Json.field_marshal .go v.wf_members hkeys (by decide)
      (v := natValue v.validForSeconds) (by simp [members])
      (hone _ (by decide)) (by simp [natValue]) (Json.asUint_toString h)
  simp only [decodeVerificationVariables, text,
    Json.structMembers_of_known hknown .go strict v.wf_members, hcode, hpurpose, hseconds,
    Option.bind_eq_bind, Option.bind_some, Option.pure_def]

/-- The values that a template fills in are short. -/
theorem Valid.short (h : v.Valid) : v.view.purpose ∈ ["注册", "重置密码", "登录"] ∧ len v.view.code ≤ 24 ∧
    len (toString v.view.validForSeconds) ≤ 16 := by
  obtain ⟨hcode, hpurpose, -, hseconds⟩ := h
  refine ⟨?_, ?_, ?_⟩
  · simp only [validPurpose, Bool.or_eq_true, decide_eq_true_eq] at hpurpose
    have hlabels : ∀ purpose ∈ ["REGISTER", "RESET_PASSWORD", "LOGIN"],
        (purposeLabels.lookup purpose).getD "" ∈ ["注册", "重置密码", "登录"] := by decide
    exact hlabels v.purpose (by simpa [or_assoc] using hpurpose)
  · simp only [sixDigits, Bool.and_eq_true, decide_eq_true_eq] at hcode
    exact (len_le_four_mul_runeCount _).trans (Nat.mul_le_mul_left 4 hcode.1.le)
  · have hdigits : runeCount (toString v.validForSeconds) ≤ 4 := Nat.repr_length _ 4 (by omega) (by omega)
    exact (len_le_four_mul_runeCount _).trans (Nat.mul_le_mul_left 4 hdigits)

end VerificationVariables

namespace VerificationView

/-- The size of a template whose fields are filled in with at most 24 bytes each. -/
def templateSize : List TemplateNode → Nat
  | [] => 0
  | .text value :: template => len value + templateSize template
  | _ :: template => 24 + templateSize template

theorem len_execute_le {v : VerificationView} (hcode : len v.code ≤ 24) (hpurpose : len v.purpose ≤ 24)
    (hseconds : len (toString v.validForSeconds) ≤ 24) (template : List TemplateNode) :
    len (v.execute template) ≤ templateSize template := by
  induction template with
  | nil => exact Nat.zero_le _
  | cons node template ih =>
    rw [execute, len_append]
    cases node with
    | text value => exact Nat.add_le_add_left ih _
    | code => exact Nat.add_le_add hcode ih
    | purpose => exact Nat.add_le_add hpurpose ih
    | validForSeconds => exact Nat.add_le_add hseconds ih

/-- A template that begins with text gives a body that is not blank. -/
theorem notBlankWithin_execute {v : VerificationView} {value : String} {template : List TemplateNode}
    {limit : Nat} {c : Char} (hc : c ∈ value.toList) (hs : isSpace c = false)
    (hlen : len (v.execute (.text value :: template)) ≤ limit) :
    notBlankWithin (v.execute (.text value :: template)) limit := by
  refine ⟨trimSpace_ne_empty (c := c) ?_ hs, hlen⟩
  rw [execute, String.toList_append]
  exact List.mem_append_left _ hc

end VerificationView

/-- A mail with valid variables is within the limits of a rendered mail. -/
theorem VerificationVariables.Valid.rendered {v : VerificationVariables} (h : v.Valid) :
    v.view.rendered.validate = .ok () := by
  obtain ⟨hpurpose, hcode, hseconds⟩ := h.short
  have hsubject : ∀ label ∈ ["注册", "重置密码", "登录"], len label ≤ 24 ∧
      (notBlankWithin ("AI Nexus " ++ label ++ "验证码") 998 ∧
        hasLineBreak ("AI Nexus " ++ label ++ "验证码") = false) := by
    decide
  obtain ⟨hlabel, hsubject⟩ := hsubject _ hpurpose
  have hlen := VerificationView.len_execute_le hcode hlabel (hseconds.trans (by decide))
  have hfixed : VerificationView.templateSize verificationTextTemplate ≤ 256 * 1024 ∧
      VerificationView.templateSize verificationHTMLTemplate ≤ 512 * 1024 := by decide +kernel
  simp only [RenderedEmail.validate, check_bind_eq_ok, check_eq_ok]
  refine ⟨hsubject, ?_, ?_⟩
  · exact VerificationView.notBlankWithin_execute (c := '您') (by decide) (by decide) ((hlen _).trans hfixed.1)
  · exact VerificationView.notBlankWithin_execute (c := '<') (by decide) (by decide) ((hlen _).trans hfixed.2)

theorem validateVerificationVariables_eq_ok {raw text : String} :
    validateVerificationVariables raw = .ok text ↔
    ∃ v, decodeVerificationVariables true raw = some v ∧ v.Valid ∧ text = v.text := by
  unfold validateVerificationVariables
  cases decodeVerificationVariables true raw with
  | none => simp
  | some v =>
    simp only [check_bind_eq_ok, pure_eq_ok, Option.some.injEq, exists_eq_left']
    exact and_congr_right fun _ => eq_comm

theorem Catalog.resolve_eq_ok {c : Catalog} {request : ResolveTemplateRequest} {resolved : ResolvedTemplate} :
    c.resolve request = .ok resolved ↔ request.tenantID = c.tenantID ∧
      (request.templateKey = verificationCodeTemplateKey ∧ request.locale = "zh-CN") ∧
      (∀ version ∈ request.requestedVersion, version = 1) ∧ ∃ v,
        decodeVerificationVariables true request.templateVariables = some v ∧ v.Valid ∧
        resolved = ⟨verificationCodeTemplateKey, 1, "zh-CN", v.text⟩ := by
  simp only [resolve, check_bind_eq_ok]
  refine and_congr_right fun _ => and_congr_right fun _ => and_congr_right fun _ => ?_
  simp only [bind_eq_ok, validateVerificationVariables_eq_ok, pure_eq_ok]
  constructor
  · rintro ⟨_, ⟨v, hdecode, hvalid, rfl⟩, rfl⟩
    exact ⟨v, hdecode, hvalid, rfl⟩
  · rintro ⟨v, hdecode, hvalid, rfl⟩
    exact ⟨_, ⟨v, hdecode, hvalid, rfl⟩, rfl⟩

/-- A template that was resolved is rendered for its tenant, and for no other. -/
theorem Catalog.renderDelivery_resolved {c : Catalog} {request : ResolveTemplateRequest}
    {resolved : ResolvedTemplate} (h : c.resolve request = .ok resolved) (tenantID : String) :
    (∃ rendered, c.renderDelivery
      ⟨tenantID, resolved.key, resolved.version, resolved.locale, resolved.templateVariables⟩ =
      .ok rendered) ↔ tenantID = c.tenantID := by
  obtain ⟨-, -, -, v, -, hvalid, rfl⟩ := Catalog.resolve_eq_ok.1 h
  have hdecode := v.decode_text (by have := hvalid.validForSeconds; omega)
  constructor
  · rintro ⟨rendered, hrendered⟩
    obtain ⟨_, hresolved, -⟩ := bind_eq_ok.1 hrendered
    exact (Catalog.resolve_eq_ok.1 (mapError_ok_iff.1 hresolved)).1
  · intro htenant
    have hresolved : c.resolve ⟨tenantID, verificationCodeTemplateKey, some 1, "zh-CN", v.text⟩ =
        .ok ⟨verificationCodeTemplateKey, 1, "zh-CN", v.text⟩ :=
      Catalog.resolve_eq_ok.2
        ⟨htenant, ⟨rfl, rfl⟩, fun _ hone => (Option.mem_some_iff.1 hone).symm, v,
        hdecode true, hvalid, rfl⟩
    refine ⟨v.view.rendered, ?_⟩
    rw [renderDelivery, mapError_ok_iff.2 hresolved, ok_bind]
    dsimp only
    rw [hdecode false]
    dsimp only
    rw [hvalid.rendered]
    rfl

/-- What `Submit` accepts under the catalog is of its tenant and its sender, and can be rendered. -/
theorem Catalog.prepared_rendered {L : Libs} {c : Catalog} {protector : Protector}
    {command : SubmitEmailCommand} {drawn : Uuid} {nonce : Nonce} {p : PreparedSubmission}
    (hp : prepareSubmission L c.port protector command drawn nonce = .ok p) :
    command.tenantID = c.tenantID ∧ command.senderIdentityKey = aiNexusSenderIdentityKey ∧
    ∃ rendered, c.renderDelivery ⟨command.tenantID, p.resolved.key, p.resolved.version, p.resolved.locale,
      p.resolved.templateVariables⟩ = .ok rendered := by
  obtain ⟨email, locale, templateVariables, hfrom⟩ := prepareSubmission_eq_ok.1 hp
  obtain ⟨htenant, hsender⟩ := check_eq_ok.1 hfrom.authorized
  exact ⟨htenant, hsender, (Catalog.renderDelivery_resolved hfrom.resolved _).2 htenant⟩

theorem Resolver.resolveSender_iff {resolver : Resolver} {tenantID : String} {identity : SenderIdentity}
    (h : Resolver.new tenantID identity = .ok resolver) (loaded : String) :
    (∃ sender, resolver.resolveSender loaded identity.key = .ok sender) ↔ loaded = tenantID := by
  simp only [Resolver.new, unit_bind_eq_ok, pure_eq_ok] at h
  obtain ⟨-, -, rfl⟩ := h
  simp only [resolveSender, check_bind_eq_ok, pure_eq_ok, and_true, exists_and_left, exists_eq']

end MailService
