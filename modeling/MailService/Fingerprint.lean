import MailService.Dispatching
import MailService.Material
/-!
# What a fingerprint stands for

The canonical payload of a submission is the text that is sealed and whose HMAC tells
a repeated request from a conflicting one. It can be read back field by field, so
that two requests have the same text exactly if they agree on what was asked for.
-/
open Text Checks

namespace MailService

variable {L : Libs}

/-! ## Metadata -/

/-- The pairs of a metadata map; a nil map has none. -/
def metadataEntries (metadata : Option StringMap) : List (String × String) :=
  (metadata.map (·.entries)).getD []

/-- The object that is written for a map; a nil map is written as an empty one. -/
def metadataValue (metadata : Option StringMap) : Json.Value := (metadata.getD .empty).value

theorem metadataValue_eq (metadata : Option StringMap) : metadataValue metadata =
    .obj (Json.sortMembers Json.goOrder ((metadataEntries metadata).map fun (k, v) => (k, .str v))) := by
  cases metadata <;> rfl

theorem wf_metadataValue (metadata : Option StringMap) : Json.wf (metadataValue metadata) = true := by
  rw [metadataValue_eq, Json.wf, Json.wfMembers_iff]
  intro x hx
  obtain ⟨e, -, rfl⟩ := List.mem_map.1 (Json.mem_sortMembers hx)
  rfl

/-- It holds no number. -/
theorem numeric_metadataValue (metadata : Option StringMap) :
    Json.numeric (metadataValue metadata) = some (metadataValue metadata) := by
  rw [metadataValue_eq, Json.numeric, Json.numericMembers_eq_self, Option.map_some]
  intro m hm
  obtain ⟨e, -, rfl⟩ := List.mem_map.1 (Json.mem_sortMembers hm)
  rfl

theorem normalizeMetadata_eq {metadata : Option StringMap} {text : String}
    (h : normalizeMetadata metadata = .ok text) :
    text = Json.marshal .go (metadataValue metadata) ∧ len text ≤ 4 * 1024 := by
  cases metadata with
  | none =>
    cases h
    exact ⟨rfl, by decide⟩
  | some m =>
    simp only [normalizeMetadata, check_bind_eq_ok, pure_eq_ok] at h
    obtain ⟨-, -, hlen, rfl⟩ := h
    exact ⟨rfl, hlen⟩

theorem normalizeMetadata_parse {metadata : Option StringMap} {text : String}
    (h : normalizeMetadata metadata = .ok text) :
    Json.parse text = some (metadataValue metadata) := by
  rw [(normalizeMetadata_eq h).1]
  exact Json.parse_marshal .go (wf_metadataValue metadata)

theorem nodup_metadataMembers (metadata : Option StringMap) :
    (((metadataEntries metadata).map fun (k, v) => (k, Json.Value.str v)).map Prod.fst).Nodup := by
  rw [List.map_map]
  cases metadata with
  | none => exact List.nodup_nil
  | some m => exact m.nodup

/-- Equal maps, in whatever order they are listed, are written alike, and only equal ones. -/
theorem metadataValue_inj {m₁ m₂ : Option StringMap} :
    metadataValue m₁ = metadataValue m₂ ↔ ∀ e, e ∈ metadataEntries m₁ ↔ e ∈ metadataEntries m₂ := by
  have hinj : Function.Injective fun e : String × String => (e.1, Json.Value.str e.2) := by
    rintro ⟨k, v⟩ ⟨k', v'⟩ h
    simpa using h
  have hp (m : Option StringMap) := @Json.sortMembers_perm _ Json.goOrder _ _ (nodup_metadataMembers m)
  constructor
  · intro h e
    rw [metadataValue_eq, metadataValue_eq] at h
    have hmembers := Json.Value.obj.inj h
    have hperm := ((hp m₁).symm.trans (hmembers ▸ .refl _)).trans (hp m₂)
    rw [← List.mem_map_of_injective hinj, ← List.mem_map_of_injective hinj]
    exact hperm.mem_iff
  · intro h
    have hnodup (m : Option StringMap) : (metadataEntries m).Nodup := by
      have hkeys := nodup_metadataMembers m
      rw [List.map_map] at hkeys
      exact hkeys.of_map _
    have hperm : (metadataEntries m₁).Perm (metadataEntries m₂) :=
      (List.perm_ext_iff_of_nodup (hnodup m₁) (hnodup m₂)).2 h
    rw [metadataValue_eq, metadataValue_eq, Json.sortMembers_congr (nodup_metadataMembers m₁) (hperm.map _)]

/-! ## Reading the payload back -/

/-- The payload as its struct. -/
def encodedPayload (c : SubmitEmailCommand) (resolved : ResolvedTemplate)
    (templateVariables metadata : String) :
    CanonicalPayload where
  recipientEmail := c.recipientEmail
  recipientDisplayName := c.recipientDisplayName
  senderIdentityKey := c.senderIdentityKey
  templateKey := resolved.key
  templateVersion := resolved.version
  locale := resolved.locale
  templateVariables := templateVariables
  category := c.category
  priority := c.priority
  scheduledAt := c.scheduledAt
  dispatchDeadline := c.dispatchDeadline
  duplicateRiskPolicy := c.duplicateRiskPolicy
  metadata := metadata

theorem EmailCategory.ofText_text {category : EmailCategory} (h : category.valid = true) :
    EmailCategory.ofText category.text = category := by
  cases category <;> first | rfl | simp [valid] at h

theorem DuplicateRiskPolicy.ofText_text {policy : DuplicateRiskPolicy} (h : policy.valid = true) :
    DuplicateRiskPolicy.ofText policy.text = policy := by
  cases policy <;> first | rfl | simp [valid] at h

/-- The members that no `omitempty` leaves out. -/
def requiredMembers (c : SubmitEmailCommand) (resolved : ResolvedTemplate)
    (templateVariables metadata : Json.Value) (dispatchDeadline : String) : List (String × Json.Value) :=
  [("recipient_email", .str c.recipientEmail), ("sender_identity_key", .str c.senderIdentityKey),
    ("template_key", .str resolved.key), ("template_version", natValue resolved.version),
      ("locale", .str resolved.locale),
    ("variables", templateVariables), ("category", .str c.category.text), ("priority", natValue c.priority),
    ("dispatch_deadline", .str dispatchDeadline), ("duplicate_risk_policy", .str c.duplicateRiskPolicy.text),
    ("metadata", metadata)]

/-- The members of a payload. -/
structure PayloadMembers (c : SubmitEmailCommand) (resolved : ResolvedTemplate)
    (templateVariables metadata : Json.Value) (scheduledAt : Option String) (dispatchDeadline : String)
    (members : List (String × Json.Value)) : Prop where
  eq : payloadValue c resolved templateVariables metadata scheduledAt dispatchDeadline = .obj members
  wf : Json.wfMembers members = true
  names : (members.map Prod.fst).Sublist canonicalPayloadFields

theorem payload_members {c : SubmitEmailCommand} {resolved : ResolvedTemplate}
    {templateVariables metadata : Json.Value} {scheduledAt : Option String} {dispatchDeadline : String}
    (hv : Json.wf templateVariables = true) (hm : Json.wf metadata = true) :
    ∃ members, PayloadMembers c resolved templateVariables metadata scheduledAt dispatchDeadline members := by
  have hnumber (n : Nat) : Json.wf (natValue n) = true := Json.validNumber_toString n
  have hstr (s : String) : Json.wf (.str s) = true := rfl
  refine ⟨_, rfl, ?_, ?_⟩
  · by_cases hname : c.recipientDisplayName = "" <;> cases scheduledAt <;>
      simp [omitEmpty, hname, Json.wfMembers, hstr, hnumber, hv, hm]
  · by_cases hname : c.recipientDisplayName = "" <;> cases scheduledAt <;> simp [omitEmpty, hname] <;> decide

namespace PayloadMembers

variable {c : SubmitEmailCommand} {resolved : ResolvedTemplate} {templateVariables metadata : Json.Value}
  {scheduledAt : Option String} {dispatchDeadline : String} {members : List (String × Json.Value)}
  (h : PayloadMembers c resolved templateVariables metadata scheduledAt dispatchDeadline members)

include h

theorem known : ∀ m ∈ members, m.1 ∈ canonicalPayloadFields :=
  fun _ hm => h.names.subset (List.mem_map_of_mem hm)

theorem nodup : (members.map Prod.fst).Nodup := by
  have hfields : canonicalPayloadFields.Nodup := by decide
  exact hfields.sublist h.names

theorem mem {m : String × Json.Value} :
    m ∈ members ↔ m ∈ requiredMembers c resolved templateVariables metadata dispatchDeadline ∨
      (c.recipientDisplayName ≠ "" ∧ m = ("recipient_display_name", .str c.recipientDisplayName)) ∨
      ∃ t ∈ scheduledAt, m = ("scheduled_at", .str t) := by
  -- the optional members stand between three groups that are always there
  have hgroups {α : Type} (m : α) (first name second time third : List α) :
      m ∈ first ++ name ++ second ++ time ++ third ↔ m ∈ first ++ second ++ third ∨ m ∈ name ∨ m ∈ time := by
    simp only [List.mem_append]
    tauto
  have hname : m ∈ omitEmpty "recipient_display_name" c.recipientDisplayName ↔
      c.recipientDisplayName ≠ "" ∧ m = ("recipient_display_name", .str c.recipientDisplayName) := by
    unfold omitEmpty
    split <;> simp_all
  have htime : m ∈ (scheduledAt.map fun t => ("scheduled_at", Json.Value.str t)).toList ↔
      ∃ t ∈ scheduledAt, m = ("scheduled_at", .str t) := by
    cases scheduledAt <;> simp
  rw [← Json.Value.obj.inj h.eq, hgroups, hname, htime]
  rfl

/-- A field of the struct is read from its member. -/
theorem field {α : Type} (f : Json.Value → Option α) (zero : α) {name : String} {v : Json.Value} {a : α}
    (hmem : (name, v) ∈ members) (hnull : v ≠ .null) (hf : f v = some a) :
    Json.field f zero name (Json.fieldTexts .go canonicalPayloadFields members) = some a := by
  refine Json.field_marshal .go h.wf h.nodup (h.known _ hmem) hmem (fun m hm hnamed => ?_) hnull hf
  rw [Json.fieldNamed, if_pos (h.known m hm)] at hnamed
  exact Option.some.inj hnamed

theorem required {name : String} {v : Json.Value}
    (hin : (name, v) ∈ requiredMembers c resolved templateVariables metadata dispatchDeadline) :
    (name, v) ∈ members :=
  h.mem.2 (.inl hin)

/-- An optional member that was left out is not there under another name. -/
theorem optional_absent {m : String × Json.Value} (hm : m ∈ members) :
    (c.recipientDisplayName = "" → m.1 ≠ "recipient_display_name") ∧
    (scheduledAt = none → m.1 ≠ "scheduled_at") := by
  have hnames : ∀ name ∈ ["recipient_email", "sender_identity_key", "template_key", "template_version", "locale",
      "variables", "category", "priority", "dispatch_deadline", "duplicate_risk_policy", "metadata"],
      name ≠ "recipient_display_name" ∧ name ≠ "scheduled_at" := by decide
  rcases h.mem.1 hm with hin | ⟨hne, rfl⟩ | ⟨t, ht, rfl⟩
  · obtain ⟨hname, hat⟩ := hnames m.1 (List.mem_map_of_mem hin)
    exact ⟨fun _ => hname, fun _ => hat⟩
  · exact ⟨fun hempty => absurd hempty hne, fun _ => by simp⟩
  · refine ⟨fun _ => by simp, fun hnone => ?_⟩
    rw [hnone] at ht
    cases ht

theorem recipientDisplayName :
    Json.field Json.asString "" "recipient_display_name"
      (Json.fieldTexts .go canonicalPayloadFields members) =
      some c.recipientDisplayName := by
  by_cases hempty : c.recipientDisplayName = ""
  · rw [hempty]
    refine Json.field_absent .go _ fun m hm hnamed => (h.optional_absent hm).1 hempty ?_
    rw [Json.fieldNamed, if_pos (h.known m hm)] at hnamed
    exact Option.some.inj hnamed
  · exact h.field _ _ (h.mem.2 (.inr (.inl ⟨hempty, rfl⟩))) Json.Value.noConfusion rfl

theorem scheduledAt_read {time : Option Time} (ht : scheduledAt.mapM L.parseTime = some time) :
    Json.pointerField (asTime L) "scheduled_at"
      (Json.fieldTexts .go canonicalPayloadFields members) = some time := by
  cases hat : scheduledAt with
  | none =>
    rw [hat] at ht
    cases ht
    exact Json.pointerField_absent h.known .go fun m hm => (h.optional_absent hm).2 hat
  | some text =>
    obtain ⟨t, hparse, rfl⟩ : ∃ t, L.parseTime text = some t ∧ some t = time := by
      rw [hat] at ht
      simpa [Option.mapM_some] using ht
    exact Json.pointerField_marshal h.known .go h.nodup (h.mem.2 (.inr (.inr ⟨text, hat, rfl⟩))) rfl
      Json.Value.noConfusion hparse

/-- What was written is read back, field by field. -/
theorem decode (hversion : resolved.version < 2 ^ 32) (hpriority : c.priority ≤ 9)
    (hcategory : c.category.valid = true) (hpolicy : c.duplicateRiskPolicy.valid = true)
    (hdeadline : L.parseTime dispatchDeadline = some c.dispatchDeadline)
    (hscheduled : scheduledAt.mapM L.parseTime = some c.scheduledAt) :
    decodeCanonicalPayload L (Json.marshal .go (.obj members)) =
      some (encodedPayload c resolved (Json.marshal .go templateVariables) (Json.marshal .go metadata)) := by
  have hstring (name value : String)
      (hin : (name, .str value) ∈ requiredMembers c resolved templateVariables metadata dispatchDeadline) :
      Json.field Json.asString "" name (Json.fieldTexts .go canonicalPayloadFields members) = some value :=
    h.field _ _ (h.required hin) Json.Value.noConfusion rfl
  have hraw (name : String) (v : Json.Value)
      (hin : (name, v) ∈ requiredMembers c resolved templateVariables metadata dispatchDeadline) :
      Json.rawField name (Json.fieldTexts .go canonicalPayloadFields members) = some (Json.marshal .go v) :=
    Json.rawField_marshal h.known .go h.nodup (h.required hin)
  have hnumber (name : String) {n bound : Nat} (hn : n < bound)
      (hin : (name, natValue n) ∈ requiredMembers c resolved templateVariables metadata dispatchDeadline) :
      Json.field (Json.asUint bound) 0 name (Json.fieldTexts .go canonicalPayloadFields members) = some n :=
    h.field _ _ (h.required hin) Json.Value.noConfusion (Json.asUint_toString hn)
  have htime : Json.field (asTime L) 0 "dispatch_deadline"
    (Json.fieldTexts .go canonicalPayloadFields members) =
      some c.dispatchDeadline := by
    have hin : ("dispatch_deadline", .str dispatchDeadline) ∈
        requiredMembers c resolved templateVariables metadata dispatchDeadline := by simp [requiredMembers]
    exact h.field _ _ (h.required hin) Json.Value.noConfusion hdeadline
  have hpriority' : c.priority < 2 ^ 8 := by omega
  refine Option.bind_eq_some_iff.2 ⟨_, Json.structMembers_of_known h.known .go true h.wf, ?_⟩
  refine Option.bind_eq_some_iff.2
    ⟨_, hstring "recipient_email" c.recipientEmail (by simp [requiredMembers]), ?_⟩
  refine Option.bind_eq_some_iff.2 ⟨_, h.recipientDisplayName, ?_⟩
  refine Option.bind_eq_some_iff.2
    ⟨_, hstring "sender_identity_key" c.senderIdentityKey (by simp [requiredMembers]), ?_⟩
  refine Option.bind_eq_some_iff.2 ⟨_, hstring "template_key" resolved.key (by simp [requiredMembers]), ?_⟩
  refine Option.bind_eq_some_iff.2 ⟨_, hnumber "template_version" hversion (by simp [requiredMembers]), ?_⟩
  refine Option.bind_eq_some_iff.2 ⟨_, hstring "locale" resolved.locale (by simp [requiredMembers]), ?_⟩
  refine Option.bind_eq_some_iff.2 ⟨_, hstring "category" c.category.text (by simp [requiredMembers]), ?_⟩
  refine Option.bind_eq_some_iff.2 ⟨_, hnumber "priority" hpriority' (by simp [requiredMembers]), ?_⟩
  refine Option.bind_eq_some_iff.2 ⟨_, h.scheduledAt_read hscheduled, ?_⟩
  refine Option.bind_eq_some_iff.2 ⟨_, htime, ?_⟩
  refine Option.bind_eq_some_iff.2 ⟨_, hstring "duplicate_risk_policy" c.duplicateRiskPolicy.text
    (by simp [requiredMembers]), ?_⟩
  rw [hraw "variables" templateVariables (by simp [requiredMembers]),
    hraw "metadata" metadata (by simp [requiredMembers]), EmailCategory.ofText_text hcategory,
    DuplicateRiskPolicy.ofText_text hpolicy]
  rfl

end PayloadMembers

/-! ## Requests -/

/-- The times of the command have a JSON text. -/
def SubmitEmailCommand.Dated (c : SubmitEmailCommand) (L : Libs) : Prop :=
  (∀ t ∈ c.scheduledAt, (L.formatTime t).isSome = true) ∧ (L.formatTime c.dispatchDeadline).isSome = true

/-- A command that `normalizeSubmission` accepted with a resolved template that was
accepted. -/
structure Accepted (L : Libs) (c normalized : SubmitEmailCommand) (metadata : String)
    (resolved : ResolvedTemplate) : Prop where
  checked : normalizeSubmission L c = .ok (normalized, metadata)
  template : validateResolvedTemplate normalized resolved = .ok ()

namespace Accepted

variable {c normalized : SubmitEmailCommand} {metadata : String} {resolved : ResolvedTemplate}
  (h : Accepted L c normalized metadata resolved)

include h

theorem metadata_eq : metadata = Json.marshal .go (metadataValue c.metadata) ∧
    Json.parse metadata = some (metadataValue c.metadata) := by
  obtain ⟨_, _, _, hchecked, -⟩ := normalizeSubmission_eq_ok.1 h.checked
  exact ⟨(normalizeMetadata_eq hchecked.metadata).1, normalizeMetadata_parse hchecked.metadata⟩

/-- The variables of the template are written in canonical form. -/
theorem variables_eq : ∃ v, (Json.parse resolved.templateVariables).map (Json.canon Json.goOrder) = some v ∧
    Json.wf v = true ∧ resolvedVariables resolved = .ok (Json.marshal .go v) := by
  obtain ⟨-, -, -, text, htext⟩ := validateResolvedTemplate_eq_ok.1 h.template
  obtain ⟨-, v, hv, -, -, -, -, rfl⟩ := canonicalJSONObject_eq_ok.1 (mapError_ok_iff.1 htext)
  exact ⟨_, by rw [hv]; rfl, Json.wf_canon v (Json.wf_of_parse_eq hv), htext⟩

/-- The payload of an accepted command. -/
theorem payload_eq_ok {canonical v}
    (hv : (Json.parse resolved.templateVariables).map (Json.canon Json.goOrder) = some v) :
    canonicalSubmissionPayload L normalized resolved metadata = .ok canonical ↔
      ∃ scheduledAt dispatchDeadline, normalized.scheduledAt.mapM L.formatTime = some scheduledAt ∧
        L.formatTime normalized.dispatchDeadline = some dispatchDeadline ∧
        canonical = Json.marshal .go
          (payloadValue normalized resolved v (metadataValue c.metadata) scheduledAt
          dispatchDeadline) := by
  obtain ⟨w, hw, hwf, htext⟩ := h.variables_eq
  obtain rfl : w = v := Option.some.inj (hw.symm.trans hv)
  rw [canonicalSubmissionPayload_eq_ok]
  constructor
  · rintro ⟨text, v', map, at', deadline, htext', hv', hmap, hat, hdeadline, rfl⟩
    obtain rfl : Json.marshal .go w = text := Except.ok.inj (htext.symm.trans htext')
    rw [Json.parse_marshal .go hwf] at hv'
    rw [h.metadata_eq.2] at hmap
    cases hv'
    cases hmap
    exact ⟨at', deadline, hat, hdeadline, rfl⟩
  · rintro ⟨at', deadline, hat, hdeadline, rfl⟩
    exact ⟨_, w, _, at', deadline, htext, Json.parse_marshal .go hwf, h.metadata_eq.2, hat, hdeadline, rfl⟩

theorem payload_iff :
    (∃ canonical, canonicalSubmissionPayload L normalized resolved metadata = .ok canonical) ↔
    normalized.Dated L := by
  obtain ⟨v, hv, -⟩ := h.variables_eq
  simp only [h.payload_eq_ok hv]
  constructor
  · rintro ⟨canonical, at', deadline, hat, hdeadline, -⟩
    refine ⟨fun t ht => ?_, by rw [hdeadline]; rfl⟩
    rw [Option.mem_def.1 ht] at hat
    cases hf : L.formatTime t with
    | none => simp [Option.mapM_some, hf] at hat
    | some text => rfl
  · rintro ⟨hscheduled, hdeadline⟩
    obtain ⟨deadline, hdeadline⟩ := Option.isSome_iff_exists.1 hdeadline
    obtain ⟨at', hat⟩ : ∃ at', normalized.scheduledAt.mapM L.formatTime = some at' := by
      cases hs : normalized.scheduledAt with
      | none => exact ⟨none, rfl⟩
      | some t =>
        obtain ⟨text, hf⟩ := Option.isSome_iff_exists.1 (hscheduled t hs)
        exact ⟨some text, by simp [Option.mapM_some, hf]⟩
    exact ⟨_, at', deadline, hat, hdeadline, rfl⟩

theorem policy : normalized.category.valid = true ∧ normalized.priority ≤ 9 ∧
    normalized.duplicateRiskPolicy.valid = true := by
  obtain ⟨_, _, _, hchecked, rfl⟩ := normalizeSubmission_eq_ok.1 h.checked
  exact hchecked.policy

/-- The payload can be read back; `hversion` is the range of the version's type. -/
theorem decoded (hinv : ∀ t text, L.formatTime t = some text → L.parseTime text = some t)
    (hversion : resolved.version < 2 ^ 32) {canonical : String}
    (hp : canonicalSubmissionPayload L normalized resolved metadata = .ok canonical) :
    ∃ templateVariables, resolvedVariables resolved = .ok templateVariables ∧
      decodeCanonicalPayload L canonical =
        some (encodedPayload normalized resolved templateVariables metadata) := by
  obtain ⟨v, hv, hwf, htext⟩ := h.variables_eq
  obtain ⟨at', deadline, hat, hdeadline, rfl⟩ := (h.payload_eq_ok hv).1 hp
  obtain ⟨hcategory, hpriority, hpolicy⟩ := h.policy
  obtain ⟨members, hmembers⟩ :=
    @payload_members normalized resolved v _ at' deadline hwf (wf_metadataValue c.metadata)
  have hscheduled : at'.mapM L.parseTime = some normalized.scheduledAt := by
    cases hs : normalized.scheduledAt with
    | none =>
      rw [hs] at hat
      cases hat
      rfl
    | some t =>
      rw [hs] at hat
      obtain ⟨text, hformat, rfl⟩ : ∃ text, L.formatTime t = some text ∧ some text = at' := by
        simpa [Option.mapM_some] using hat
      simp [Option.mapM_some, hinv t text hformat]
  refine ⟨_, htext, ?_⟩
  rw [hmembers.eq, hmembers.decode hversion hpriority hcategory hpolicy
    (hinv _ _ hdeadline) hscheduled, ← h.metadata_eq.1]

end Accepted

/-- Two requests that ask for the same. -/
structure SameRequest (L : Libs) (c₁ c₂ : SubmitEmailCommand) (resolved₁ resolved₂ : ResolvedTemplate) :
    Prop where
  recipientEmail : normalizeEmail L c₁.recipientEmail = normalizeEmail L c₂.recipientEmail
  recipientDisplayName : c₁.recipientDisplayName = c₂.recipientDisplayName
  senderIdentityKey : c₁.senderIdentityKey = c₂.senderIdentityKey
  templateKey : c₁.templateKey = c₂.templateKey
  templateVersion : resolved₁.version = resolved₂.version
  locale : L.languageParse c₁.locale = L.languageParse c₂.locale
  templateVariables : (Json.parse resolved₁.templateVariables).map (Json.canon Json.goOrder) =
    (Json.parse resolved₂.templateVariables).map (Json.canon Json.goOrder)
  category : c₁.category = c₂.category
  priority : c₁.priority = c₂.priority
  scheduledAt : c₁.scheduledAt.map truncate = c₂.scheduledAt.map truncate
  dispatchDeadline : truncate c₁.dispatchDeadline = truncate c₂.dispatchDeadline
  duplicateRiskPolicy : c₁.duplicateRiskPolicy = c₂.duplicateRiskPolicy
  metadata : ∀ e, e ∈ metadataEntries c₁.metadata ↔ e ∈ metadataEntries c₂.metadata

section Same

variable {c₁ c₂ n₁ n₂ : SubmitEmailCommand} {metadata₁ metadata₂ canonical₁ canonical₂ : String}
  {resolved₁ resolved₂ : ResolvedTemplate} (h₁ : Accepted L c₁ n₁ metadata₁ resolved₁)
  (h₂ : Accepted L c₂ n₂ metadata₂ resolved₂)
  (hp₁ : canonicalSubmissionPayload L n₁ resolved₁ metadata₁ = .ok canonical₁)
  (hp₂ : canonicalSubmissionPayload L n₂ resolved₂ metadata₂ = .ok canonical₂)

include h₁ h₂ hp₁ hp₂

theorem SameRequest.canonical_eq (hs : SameRequest L c₁ c₂ resolved₁ resolved₂) :
    canonical₁ = canonical₂ := by
  obtain ⟨v, hv, -⟩ := h₁.variables_eq
  obtain ⟨at₁, deadline₁, hat₁, hdeadline₁, rfl⟩ := (h₁.payload_eq_ok hv).1 hp₁
  obtain ⟨at₂, deadline₂, hat₂, hdeadline₂, rfl⟩ := (h₂.payload_eq_ok (hs.templateVariables ▸ hv)).1 hp₂
  obtain ⟨⟨hkey₁, -⟩, -, hlocale₁, -⟩ := validateResolvedTemplate_eq_ok.1 h₁.template
  obtain ⟨⟨hkey₂, -⟩, -, hlocale₂, -⟩ := validateResolvedTemplate_eq_ok.1 h₂.template
  obtain ⟨email₁, locale₁, variables₁, hc₁, rfl⟩ := normalizeSubmission_eq_ok.1 h₁.checked
  obtain ⟨email₂, locale₂, variables₂, hc₂, rfl⟩ := normalizeSubmission_eq_ok.1 h₂.checked
  obtain rfl : email₁ = email₂ :=
    Except.ok.inj (hc₁.recipientEmail.symm.trans (hs.recipientEmail.trans hc₂.recipientEmail))
  obtain rfl : locale₁ = locale₂ := Option.some.inj (hc₁.locale.1.symm.trans (hs.locale.trans hc₂.locale.1))
  have hat : at₁ = at₂ := by
    have htimes : (c₁.normalized email₁ locale₁ variables₁).scheduledAt =
        (c₂.normalized email₁ locale₁ variables₂).scheduledAt :=
      hs.scheduledAt
    rw [htimes] at hat₁
    exact Option.some.inj (hat₁.symm.trans hat₂)
  have hdeadline : deadline₁ = deadline₂ := by
    have htimes : (c₁.normalized email₁ locale₁ variables₁).dispatchDeadline =
        (c₂.normalized email₁ locale₁ variables₂).dispatchDeadline := hs.dispatchDeadline
    rw [htimes] at hdeadline₁
    exact Option.some.inj (hdeadline₁.symm.trans hdeadline₂)
  have hkey : resolved₁.key = resolved₂.key := hkey₁.trans (hs.templateKey.trans hkey₂.symm)
  have hlocale : resolved₁.locale = resolved₂.locale := hlocale₁.trans hlocale₂.symm
  rw [hat, hdeadline, metadataValue_inj.2 hs.metadata]
  simp only [payloadValue, SubmitEmailCommand.normalized, hkey, hlocale, hs.templateVersion,
    hs.recipientDisplayName, hs.senderIdentityKey, hs.category, hs.priority, hs.duplicateRiskPolicy]

theorem Accepted.same_of_canonical_eq
    (hinv : ∀ t text, L.formatTime t = some text → L.parseTime text = some t)
    (hversion₁ : resolved₁.version < 2 ^ 32) (hversion₂ : resolved₂.version < 2 ^ 32)
    (heq : canonical₁ = canonical₂) : SameRequest L c₁ c₂ resolved₁ resolved₂ := by
  obtain ⟨text₁, htext₁, hd₁⟩ := h₁.decoded hinv hversion₁ hp₁
  obtain ⟨text₂, htext₂, hd₂⟩ := h₂.decoded hinv hversion₂ hp₂
  have hpayload : encodedPayload n₁ resolved₁ text₁ metadata₁ =
      encodedPayload n₂ resolved₂ text₂ metadata₂ := by
    rw [heq] at hd₁
    exact Option.some.inj (hd₁.symm.trans hd₂)
  obtain ⟨v₁, hv₁, hwf₁, hmarshal₁⟩ := h₁.variables_eq
  obtain ⟨v₂, hv₂, hwf₂, hmarshal₂⟩ := h₂.variables_eq
  have hm₁ := h₁.metadata_eq.2
  have hm₂ := h₂.metadata_eq.2
  obtain ⟨⟨hkey₁, -⟩, -, hlocale₁, -⟩ := validateResolvedTemplate_eq_ok.1 h₁.template
  obtain ⟨⟨hkey₂, -⟩, -, hlocale₂, -⟩ := validateResolvedTemplate_eq_ok.1 h₂.template
  obtain ⟨email₁, locale₁, variables₁, hc₁, rfl⟩ := normalizeSubmission_eq_ok.1 h₁.checked
  obtain ⟨email₂, locale₂, variables₂, hc₂, rfl⟩ := normalizeSubmission_eq_ok.1 h₂.checked
  simp only [encodedPayload, CanonicalPayload.mk.injEq, SubmitEmailCommand.normalized] at hpayload
  obtain ⟨hemail, hname, hsender, hkey, hversion, hlocale, hvariables, hcategory, hpriority,
    hscheduled, hdeadline, hpolicy, hmetadata⟩ := hpayload
  constructor
  case recipientEmail => rw [hc₁.recipientEmail, hc₂.recipientEmail, hemail]
  case recipientDisplayName => exact hname
  case senderIdentityKey => exact hsender
  case templateKey => exact hkey₁.symm.trans (hkey.trans hkey₂)
  case templateVersion => exact hversion
  case locale =>
    have hsame : locale₁ = locale₂ := hlocale₁.symm.trans (hlocale.trans hlocale₂)
    rw [hc₁.locale.1, hc₂.locale.1, hsame]
  case templateVariables =>
    -- the two texts are the same and each is read as what it was written for
    have htext : Json.marshal .go v₁ = Json.marshal .go v₂ :=
      (Except.ok.inj (hmarshal₁.symm.trans htext₁)).trans
        (hvariables.trans (Except.ok.inj (htext₂.symm.trans hmarshal₂)))
    have hparse := Json.parse_marshal .go hwf₁
    rw [htext, Json.parse_marshal .go hwf₂] at hparse
    rw [hv₁, hv₂, hparse]
  case category => exact hcategory
  case priority => exact hpriority
  case scheduledAt => exact hscheduled
  case dispatchDeadline => exact hdeadline
  case duplicateRiskPolicy => exact hpolicy
  case metadata =>
    rw [hmetadata, hm₂] at hm₁
    exact metadataValue_inj.1 (Option.some.inj hm₁).symm

end Same

namespace Sample

theorem parse_format (hash : String → Uuid) (t : Time) (text : String)
    (h : (libs hash).formatTime t = some text) :
    (libs hash).parseTime text = some t := by
  have hstamps : ∀ stamp ∈ stamps, (stamps.find? (·.2 = stamp.2)).map Prod.fst = some stamp.1 := by decide
  obtain ⟨before, after, hmem, -⟩ := List.lookup_eq_some_iff.1 h
  exact hstamps (t, text) (hmem ▸ by simp)

theorem accepted (hash : String → Uuid) {email : String}
    (he : normalizeEmail (libs hash) email = .ok "ann@example.com") :
    Accepted (libs hash) { command none none with recipientEmail := email } (command none none) "\x7b\x7d"
      ⟨"welcome", 1, "en", "\x7b\x7d"⟩ := by
  obtain ⟨hm, -⟩ := metadata_empty
  have hc := @checked none none _ hash hm
  have hdeadline := (truncated (.inl rfl)).1
  have hvariables : resolvedVariables ⟨"welcome", 1, "en", "\x7b\x7d"⟩ = .ok "\x7b\x7d" := rfl
  have hlocale : ("en" : String) ≠ "" := by decide
  constructor
  case checked =>
    refine normalizeSubmission_eq_ok.2
      ⟨"ann@example.com", "en", "\x7b\x7d", ⟨hc.tenantID, hc.idempotencyKey, he,
      hc.recipientDisplayName, hc.senderIdentityKey, hc.templateKey, hc.templateVersion, hc.locale, hc.policy,
      hc.dispatchDeadline, hc.templateVariables, hm⟩, ?_⟩
    simp [SubmitEmailCommand.normalized, command, hdeadline]
  case template =>
    exact validateResolvedTemplate_eq_ok.2 ⟨⟨rfl, Nat.one_ne_zero, hlocale⟩,
      fun _ hv => absurd hv (Option.not_mem_none _), rfl, _, hvariables⟩

theorem dated (hash : String → Uuid) : (command none none).Dated (libs hash) := by
  have hformat : (stamps.lookup deadline).isSome = true := by decide
  exact ⟨fun t ht => absurd ht (Option.not_mem_none t), hformat⟩

end Sample

/-- A fingerprint captures exactly the normalised request: the payload of an accepted
command is written whenever its times have a JSON text, it is read back field by field,
and two commands have the same payload, and the same fingerprint, exactly if they ask
for the same. -/
theorem fingerprint_exact (hinv : ∀ t text, L.formatTime t = some text → L.parseTime text = some t) :
    (∀ {c normalized metadata resolved}, Accepted L c normalized metadata resolved →
      resolved.version < 2 ^ 32 →
      ((∃ canonical, canonicalSubmissionPayload L normalized resolved metadata = .ok canonical) ↔
        normalized.Dated L) ∧
      ∀ canonical, canonicalSubmissionPayload L normalized resolved metadata = .ok canonical →
        ∃ templateVariables, resolvedVariables resolved = .ok templateVariables ∧
          decodeCanonicalPayload L canonical =
            some (encodedPayload normalized resolved templateVariables metadata)) ∧
    ∀ {c₁ n₁ metadata₁ resolved₁ canonical₁ c₂ n₂ metadata₂ resolved₂ canonical₂},
      Accepted L c₁ n₁ metadata₁ resolved₁ → Accepted L c₂ n₂ metadata₂ resolved₂ →
      resolved₁.version < 2 ^ 32 → resolved₂.version < 2 ^ 32 →
      canonicalSubmissionPayload L n₁ resolved₁ metadata₁ = .ok canonical₁ →
      canonicalSubmissionPayload L n₂ resolved₂ metadata₂ = .ok canonical₂ →
      (canonical₁ = canonical₂ ↔ SameRequest L c₁ c₂ resolved₁ resolved₂) ∧
      ∀ protector : Protector, Set.InjOn protector.fingerprint {canonical₁, canonical₂} →
        (protector.fingerprint canonical₁ = protector.fingerprint canonical₂ ↔
          SameRequest L c₁ c₂ resolved₁ resolved₂) := by
  refine ⟨fun h hversion => ⟨h.payload_iff, fun canonical hp => h.decoded hinv hversion hp⟩,
    fun h₁ h₂ hversion₁ hversion₂ hp₁ hp₂ => ?_⟩
  have hcanonical : _ = _ ↔ SameRequest L _ _ _ _ :=
    ⟨Accepted.same_of_canonical_eq h₁ h₂ hp₁ hp₂ hinv hversion₁ hversion₂,
      SameRequest.canonical_eq h₁ h₂ hp₁ hp₂⟩
  exact ⟨hcanonical, fun protector hfree => (hfree.eq_iff (by simp) (by simp)).trans hcanonical⟩

/-- The case of the domain does not change the fingerprint. -/
theorem fingerprint_exact_domain : ∃ L c₁ c₂ n₁ n₂ metadata₁ metadata₂ resolved₁ resolved₂ canonical,
    c₁.recipientEmail ≠ c₂.recipientEmail ∧ Accepted L c₁ n₁ metadata₁ resolved₁ ∧
    Accepted L c₂ n₂ metadata₂ resolved₂ ∧
    canonicalSubmissionPayload L n₁ resolved₁ metadata₁ = .ok canonical ∧
    canonicalSubmissionPayload L n₂ resolved₂ metadata₂ = .ok canonical := by
  have hash : String → Uuid := fun _ => Sample.tenant
  have hlower : normalizeEmail (Sample.libs hash) "ann@example.com" = .ok "ann@example.com" := rfl
  have hupper : normalizeEmail (Sample.libs hash) "ann@EXAMPLE.com" = .ok "ann@example.com" := rfl
  have hne : "ann@example.com" ≠ "ann@EXAMPLE.com" := by decide
  have hversion : 1 < 2 ^ 32 := by decide
  have h₁ := Sample.accepted hash hlower
  have h₂ := Sample.accepted hash hupper
  obtain ⟨hwritten, hsame⟩ := fingerprint_exact (Sample.parse_format hash)
  obtain ⟨canonical₁, hp₁⟩ := (hwritten h₁ hversion).1.2 (Sample.dated hash)
  obtain ⟨canonical₂, hp₂⟩ := (hwritten h₂ hversion).1.2 (Sample.dated hash)
  obtain rfl := (hsame h₁ h₂ hversion hversion hp₁ hp₂).1.2
    ⟨hlower.trans hupper.symm, rfl, rfl, rfl, rfl, rfl, rfl, rfl, rfl, rfl, rfl, rfl,
    fun _ => .rfl⟩
  exact ⟨_, _, _, _, _, _, _, _, _, canonical₁, hne, h₁, h₂, hp₁, hp₂⟩

end MailService
