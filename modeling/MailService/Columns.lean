import MailService.Mapping
/-!
# Rows and their columns

A row of the database model is a row of columns. The insert and the update do to the
columns what `createRow` and `updatedRow` do to the row, the CHECK constraints on the
columns are the model's `Allowed`, and scanning the columns is reading the row.
-/
open Text Checks Sql

namespace MailService

open Db

/-! ## Rows and columns -/

/-- The columns of a row. -/
def MessageRow.columns (r : MessageRow) : Row MessageColumn
  | .id => .text r.snapshot.id
  | .tenantID => .text r.tenantID
  | .idempotencyKey => .text r.idempotencyKey
  | .payloadFingerprint => .bytes r.payloadFingerprint.bytes
  | .category => .text r.category.text
  | .priority => .int2 (Int16.ofNat r.priority)
  | .duplicateRiskPolicy => .text r.duplicateRiskPolicy.text
  | .status => .text r.snapshot.status.text
  | .scheduledAt => nullableTime r.snapshot.scheduledAt
  | .dispatchDeadline => .time r.snapshot.dispatchDeadline
  | .nextAttemptAt => nullableTime r.snapshot.nextAttemptAt
  | .dispatchGeneration => .int8 (Int64.ofNat r.snapshot.dispatchGeneration)
  | .attemptCount => .int4 (Int32.ofNat r.snapshot.attemptCount)
  | .maxAttempts => .int4 (Int32.ofNat r.snapshot.maxAttempts)
  | .providerAcceptedAt => nullableTime r.snapshot.providerAcceptedAt
  | .providerMessageID => nullableString r.snapshot.providerMessageID
  | .latestSequence => .int8 (Int64.ofNat r.snapshot.latestSequence)
  | .version => .int8 (Int64.ofNat r.snapshot.version)
  | .lastErrorCategory => (failureArguments r.snapshot.lastFailure).category
  | .lastErrorCode => (failureArguments r.snapshot.lastFailure).code
  | .lastErrorRetryable => (failureArguments r.snapshot.lastFailure).retryable
  | .acceptedAt => .time r.snapshot.acceptedAt
  | .updatedAt => .time r.snapshot.updatedAt
  | .senderIdentityKey => (submissionArguments r.submission).senderIdentityKey
  | .templateKey => (submissionArguments r.submission).templateKey
  | .templateVersion => (submissionArguments r.submission).templateVersion
  | .locale => (submissionArguments r.submission).locale
  | .recipientMasked => (submissionArguments r.submission).recipientMasked
  | .payloadKeyID => (submissionArguments r.submission).payloadKeyID
  | .encryptedPayload => (submissionArguments r.submission).encryptedPayload
  | .submissionMetadata => (submissionArguments r.submission).metadata

/-- A record as a row, before any column converts its argument. -/
def MessageRecord.row (record : MessageRecord) : MessageRow where
  tenantID := record.tenantID
  idempotencyKey := record.idempotencyKey
  payloadFingerprint := record.payloadFingerprint
  category := record.category
  priority := record.priority
  duplicateRiskPolicy := record.duplicateRiskPolicy
  snapshot := record.message.snapshot
  submission := record.submission

section Positions

variable {r : MessageRow} {record : MessageRecord} {s : Snapshot}
  {f row stored : Row MessageColumn} {args : List Value}

/-- Every argument of the insert stands at the position of its column. -/
theorem createArguments_eq : createArguments record = (do
    databaseCounters record.message.snapshot
    pure (select messageColumns record.row.columns)) := by
  simp only [createArguments, persistedCounters, bind_assoc, pure_bind]
  rfl

/-- The columns of a snapshot, without a row's others. -/
def Snapshot.columns (s : Snapshot) : Row MessageColumn :=
  MessageRow.columns {
    tenantID := ""
    idempotencyKey := ""
    payloadFingerprint := 0
    category := .unknown ""
    priority := 0
    duplicateRiskPolicy := .unknown ""
    snapshot := s
    submission := none }

/-- Every argument of the update stands at the position of its column, before the id and the version. -/
theorem updateArguments_eq : updateArguments s = (do
    check (s.version < maxInt64) (.invalidMessageRecord "message version cannot be incremented in PostgreSQL")
    databaseCounters s
    pure (select updateColumns s.columns ++ [.text s.id, .int8 (Int64.ofNat s.version)])) := by
  simp only [updateArguments, persistedCounters, bind_assoc, pure_bind]
  rfl

theorem insertMessageQuery_select :
    insertMessageQuery (select messageColumns f) = some row ↔
    ∀ c : MessageColumn, c.store (f c) = some (row c) := by
  rw [insertMessageQuery, Option.map_eq_some_iff]
  constructor
  · rintro ⟨values, hvalues, rfl⟩ c
    obtain ⟨g, heach, rfl⟩ := storeAll_select.1 hvalues
    rw [assign_select (mem_messageColumns c)]
    exact heach c (mem_messageColumns c)
  · intro h
    refine ⟨_, storeAll_select.2 ⟨row, fun c _ => h c, rfl⟩, ?_⟩
    funext c
    exact assign_select (mem_messageColumns c)

theorem updateMessageQuery_select {id version : Value} :
    updateMessageQuery (select updateColumns f ++ [id, version]) stored = some row ↔
      (∀ c ∈ updateColumns, c.store (f c) = some (row c)) ∧
        nextVersion (stored .version) = some (row .version) ∧
        ∀ c, c ∉ updateColumns → c ≠ .version → row c = stored c := by
  have htake : (select updateColumns f ++ [id, version]).take 14 = select updateColumns f := rfl
  have hversion : MessageColumn.version ∉ updateColumns := by decide
  simp only [updateMessageQuery, htake, Option.bind_eq_bind, Option.bind_eq_some_iff, Option.some.injEq]
  constructor
  · rintro ⟨values, hvalues, next, hnext, rfl⟩
    obtain ⟨g, heach, rfl⟩ := storeAll_select.1 hvalues
    refine ⟨fun c hc => ?_, ?_, fun c hc hne => ?_⟩
    · have hne : c ≠ .version := fun h => hversion (h ▸ hc)
      rw [Function.update_of_ne hne, assign_select hc]
      exact heach c hc
    · rw [Function.update_self]
      exact hnext
    · rw [Function.update_of_ne hne]
      exact assign_of_notMem hc
  · rintro ⟨heach, hnext, hkept⟩
    refine ⟨_, storeAll_select.2 ⟨row, heach, rfl⟩, _, hnext, ?_⟩
    funext c
    by_cases hc : c = .version
    · subst hc
      exact Function.update_self _ _ _
    rw [Function.update_of_ne hc]
    by_cases hmem : c ∈ updateColumns
    · exact assign_select hmem
    · rw [assign_of_notMem hmem]
      exact (hkept c hmem hc).symm

end Positions

/-! ## Storing -/

section Storing

variable {c : MessageColumn} {n : Nat} {t : Option Time} {text : String} {v : Value} {f : Option Failure}

theorem store_null (hn : c.nullable = true) : c.store .null = some .null := by
  rw [MessageColumn.store, if_pos rfl, if_pos hn]

theorem store_of_ne (hv : v ≠ .null) : c.store v = c.type.store v := if_neg hv

theorem store_varchar (hc : c.type = .varchar n) :
    c.store (.text text) = some v ↔ varchar n text ∧ .text text = v := by
  have hne : Value.text text ≠ .null := by simp
  rw [store_of_ne hne, hc, ColumnType.store]
  split <;> simp_all

theorem store_nullableTime (hc : c.type = .timestamptz) (hn : c.nullable = true) :
    c.store (nullableTime t) = some (nullableTime (t.map truncate)) := by
  cases t with
  | none => exact store_null hn
  | some t =>
    have hne : Value.time t ≠ .null := by simp
    rw [nullableTime, store_of_ne hne, hc]
    rfl

theorem store_nullableString (hc : c.type = .varchar n) (hn : c.nullable = true) :
    c.store (nullableString text) = some v ↔ varchar n text ∧ nullableString text = v := by
  unfold nullableString
  split
  · rename_i hempty
    have hfits : varchar n text := by
      rw [hempty]
      exact ⟨List.not_mem_nil, Nat.zero_le n⟩
    rw [store_null hn, Option.some.injEq, and_iff_right hfits]
  · exact store_varchar hc

theorem Status.varchar_text {status : Status} (h : status.valid = true) : varchar 32 status.text := by
  cases status <;> first | decide | cases h

theorem FailureCategory.varchar_text {category : FailureCategory} (h : category.valid = true) :
    varchar 32 category.text := by
  cases category <;> first | decide | cases h

theorem EmailCategory.varchar_text {category : EmailCategory} (h : category.valid = true) :
    varchar 32 category.text := by
  cases category <;> first | decide | cases h

theorem DuplicateRiskPolicy.varchar_text {policy : DuplicateRiskPolicy} (h : policy.valid = true) :
    varchar 32 policy.text := by
  cases policy <;> first | decide | cases h

/-- The texts of a row are within the limits of their columns. -/
structure MessageRow.Held (r : MessageRow) : Prop where
  idempotencyKey : varchar 255 r.idempotencyKey
  category : varchar 32 r.category.text
  duplicateRiskPolicy : varchar 32 r.duplicateRiskPolicy.text
  status : varchar 32 r.snapshot.status.text
  providerMessageID : varchar 512 r.snapshot.providerMessageID
  failure : ∀ f ∈ r.snapshot.lastFailure, varchar 32 f.category.text ∧ varchar 128 f.code
  submission : ∀ d ∈ r.submission, varchar 64 d.senderIdentityKey ∧ varchar 128 d.templateKey ∧
    varchar 35 d.locale ∧
    varchar 254 d.recipientMasked ∧ varchar 128 d.payloadKeyID

/-- The lifecycle columns hold the snapshot, with its times truncated. -/
theorem store_lifecycle {r r' : MessageRow} {id : String} {acceptedAt : Time} {version : Nat}
    (hr : r'.snapshot = { r.snapshot.truncated with id := id, acceptedAt := acceptedAt, version := version })
    (hheld : r'.Held) : ∀ c ∈ updateColumns, c.store (r.columns c) = some (r'.columns c) := by
  have hstatus : varchar 32 r.snapshot.status.text := by
    have h := hheld.status
    rwa [hr] at h
  have hprovider : varchar 512 r.snapshot.providerMessageID := by
    have h := hheld.providerMessageID
    rwa [hr] at h
  have hfailure : ∀ f ∈ r.snapshot.lastFailure, varchar 32 f.category.text ∧ varchar 128 f.code := by
    have h := hheld.failure
    rwa [hr] at h
  intro c hc
  simp only [updateColumns, List.mem_cons, List.not_mem_nil, or_false] at hc
  rcases hc with rfl | rfl | rfl | rfl | rfl | rfl | rfl | rfl | rfl | rfl | rfl | rfl | rfl | rfl <;>
    simp only [MessageRow.columns, hr]
  · exact (store_varchar rfl).2 ⟨hstatus, rfl⟩
  · exact store_nullableTime rfl rfl
  · rfl
  · exact store_nullableTime rfl rfl
  · rfl
  · rfl
  · rfl
  · exact store_nullableTime rfl rfl
  · exact (store_nullableString rfl rfl).2 ⟨hprovider, rfl⟩
  · rfl
  · change MessageColumn.lastErrorCategory.store (failureArguments r.snapshot.lastFailure).category =
      some (failureArguments r.snapshot.lastFailure).category
    cases hf : r.snapshot.lastFailure with
    | none => rfl
    | some f => exact (store_varchar rfl).2 ⟨(hfailure f hf).1, rfl⟩
  · change MessageColumn.lastErrorCode.store (failureArguments r.snapshot.lastFailure).code =
      some (failureArguments r.snapshot.lastFailure).code
    cases hf : r.snapshot.lastFailure with
    | none => rfl
    | some f => exact (store_varchar rfl).2 ⟨(hfailure f hf).2, rfl⟩
  · change MessageColumn.lastErrorRetryable.store (failureArguments r.snapshot.lastFailure).retryable =
      some (failureArguments r.snapshot.lastFailure).retryable
    cases r.snapshot.lastFailure <;> rfl
  · rfl

/-- The columns that no update sets. -/
def identityColumns : List MessageColumn :=
  [.id, .tenantID, .idempotencyKey, .payloadFingerprint, .category, .priority, .duplicateRiskPolicy,
    .version, .acceptedAt]

def submissionColumnList : List MessageColumn :=
  [.senderIdentityKey, .templateKey, .templateVersion, .locale, .recipientMasked,
    .payloadKeyID, .encryptedPayload, .submissionMetadata]

theorem mem_columns (c : MessageColumn) :
    c ∈ updateColumns ∨ c ∈ identityColumns ∨ c ∈ submissionColumnList := by
  cases c <;> decide

theorem store_uuid (hc : c.type = .uuid) :
    c.store (.text text) = some v ↔ ∃ stored, uuidColumn text = some stored ∧ .text stored = v := by
  have hne : Value.text text ≠ .null := by simp
  rw [store_of_ne hne, hc, ColumnType.store, Option.map_eq_some_iff]

theorem store_jsonb (hc : c.type = .jsonb) :
    c.store (.text text) = some v ↔ ∃ stored, jsonbColumn text = some stored ∧ .text stored = v := by
  have hne : Value.text text ≠ .null := by simp
  rw [store_of_ne hne, hc, ColumnType.store, Option.map_eq_some_iff]

variable {record : MessageRecord} {r : MessageRow}

theorem store_identity (hrow : createRow record = some r) (hheld : r.Held) :
    ∀ c ∈ identityColumns, c.store (record.row.columns c) = some (r.columns c) := by
  obtain ⟨hid, htenant, hkey, hfingerprint, hsnapshot⟩ := createRow_eq_some hrow
  obtain ⟨hcategory, hpriority, hpolicy, -⟩ := createRow_policy hrow
  have hversion : r.snapshot.version = record.message.version := by
    rw [hsnapshot]
    rfl
  have haccepted : r.snapshot.acceptedAt = truncate record.message.acceptedAt := by
    rw [hsnapshot]
    rfl
  intro c hc
  simp only [identityColumns, List.mem_cons, List.not_mem_nil, or_false] at hc
  rcases hc with rfl | rfl | rfl | rfl | rfl | rfl | rfl | rfl |
    rfl <;> simp only [MessageRow.columns, MessageRecord.row]
  · exact (store_uuid rfl).2 ⟨_, hid, rfl⟩
  · exact (store_uuid rfl).2 ⟨_, htenant, rfl⟩
  · rw [← hkey]
    exact (store_varchar rfl).2 ⟨hheld.idempotencyKey, rfl⟩
  · rw [hfingerprint]
    rfl
  · rw [← hcategory]
    exact (store_varchar rfl).2 ⟨hheld.category, rfl⟩
  · rw [hpriority]
    rfl
  · rw [← hpolicy]
    exact (store_varchar rfl).2 ⟨hheld.duplicateRiskPolicy, rfl⟩
  · rw [hversion]
    rfl
  · rw [haccepted]
    rfl

theorem store_submission (hrow : createRow record = some r) (hheld : r.Held) :
    ∀ c ∈ submissionColumnList, c.store (record.row.columns c) = some (r.columns c) := by
  obtain ⟨-, -, -, hstored⟩ := createRow_policy hrow
  intro c hc
  simp only [submissionColumnList, List.mem_cons, List.not_mem_nil, or_false] at hc
  cases hd : record.submission with
  | none =>
    rw [hd] at hstored
    have hnone : r.submission = none := (Option.some.inj hstored).symm
    rcases hc with rfl | rfl | rfl | rfl | rfl | rfl | rfl | rfl <;>
      simp only [MessageRow.columns, MessageRecord.row, hd, hnone] <;> rfl
  | some d =>
    simp only [hd, Option.mapM_some, Option.map_eq_map, Option.map_map, Option.map_eq_some_iff] at hstored
    obtain ⟨text, htext, hsome⟩ := hstored
    have hsome' : r.submission = some { d with metadata := text } := hsome.symm
    obtain ⟨hsender, htemplate, hlocale, hmasked, hkeyID⟩ := hheld.submission _ hsome'
    rcases hc with rfl | rfl | rfl | rfl | rfl | rfl | rfl | rfl <;>
      simp only [MessageRow.columns, MessageRecord.row, hd, hsome', submissionArguments]
    · exact (store_varchar rfl).2 ⟨hsender, rfl⟩
    · exact (store_varchar rfl).2 ⟨htemplate, rfl⟩
    · rfl
    · exact (store_varchar rfl).2 ⟨hlocale, rfl⟩
    · exact (store_varchar rfl).2 ⟨hmasked, rfl⟩
    · exact (store_varchar rfl).2 ⟨hkeyID, rfl⟩
    · rfl
    · exact (store_jsonb rfl).2 ⟨_, htext, rfl⟩

/-- What `createRow` says of a record is what its columns hold. -/
theorem store_created (hrow : createRow record = some r) (hheld : r.Held) (c : MessageColumn) :
    c.store (record.row.columns c) = some (r.columns c) := by
  obtain ⟨-, -, -, -, hsnapshot⟩ := createRow_eq_some hrow
  rcases mem_columns c with hc | hc | hc
  · have hlifecycle : r.snapshot = { record.row.snapshot.truncated with
        id := r.snapshot.id, acceptedAt := truncate record.message.acceptedAt,
          version := record.message.version } := hsnapshot
    exact store_lifecycle hlifecycle hheld c hc
  · exact store_identity hrow hheld c hc
  · exact store_submission hrow hheld c hc

/-- The texts of a row that was stored are within the limits of their columns. -/
theorem held_lifecycle {row : Row MessageColumn}
    (h : ∀ c ∈ updateColumns, c.store (r.columns c) = some (row c)) :
    varchar 32 r.snapshot.status.text ∧ varchar 512 r.snapshot.providerMessageID ∧
      ∀ f ∈ r.snapshot.lastFailure, varchar 32 f.category.text ∧ varchar 128 f.code := by
  refine ⟨?_, ?_, fun f hf => ?_⟩
  · exact ((store_varchar rfl).1 (h .status (by decide))).1
  · exact ((store_nullableString rfl rfl).1 (h .providerMessageID (by decide))).1
  · have hcategory := h .lastErrorCategory (by decide)
    have hcode := h .lastErrorCode (by decide)
    simp only [MessageRow.columns, Option.mem_def.1 hf, failureArguments] at hcategory hcode
    exact ⟨((store_varchar rfl).1 hcategory).1, ((store_varchar rfl).1 hcode).1⟩

/-- A record whose columns can be stored has a row. -/
theorem createRow_of_stored {row : Row MessageColumn}
    (h : ∀ c : MessageColumn, c.store (record.row.columns c) = some (row c)) :
    ∃ r, createRow record = some r ∧ r.Held := by
  obtain ⟨hstatus, hprovider, hfailure⟩ := held_lifecycle (r := record.row) fun c _ => h c
  obtain ⟨id, hid, -⟩ := (store_uuid rfl).1 (h .id)
  obtain ⟨tenant, htenant, -⟩ := (store_uuid rfl).1 (h .tenantID)
  have hkey := ((store_varchar rfl).1 (h .idempotencyKey)).1
  have hcategory := ((store_varchar rfl).1 (h .category)).1
  have hpolicy := ((store_varchar rfl).1 (h .duplicateRiskPolicy)).1
  have hid' : uuidColumn record.message.id = some id := hid
  have htenant' : uuidColumn record.tenantID = some tenant := htenant
  obtain ⟨submission, hsubmission, hfits⟩ : ∃ submission,
    record.submission.mapM (fun d => (jsonbColumn d.metadata).map
      fun metadata => { d with metadata := metadata }) = some submission ∧
      ∀ d ∈ submission, varchar 64 d.senderIdentityKey ∧ varchar 128 d.templateKey ∧ varchar 35 d.locale ∧
        varchar 254 d.recipientMasked ∧ varchar 128 d.payloadKeyID := by
    cases hd : record.submission with
    | none => exact ⟨none, rfl, fun d hmem => by cases hmem⟩
    | some d =>
      have hsender := h .senderIdentityKey
      have htemplate := h .templateKey
      have hlocale := h .locale
      have hmasked := h .recipientMasked
      have hkeyID := h .payloadKeyID
      have hmetadata := h .submissionMetadata
      simp only [MessageRow.columns, MessageRecord.row, hd, submissionArguments]
        at hsender htemplate hlocale hmasked hkeyID hmetadata
      obtain ⟨metadata, hmetadata, -⟩ := (store_jsonb rfl).1 hmetadata
      refine ⟨some { d with metadata := metadata }, by rw [Option.mapM_some, hmetadata]; rfl,
        fun d' hmem => ?_⟩
      obtain rfl := Option.some.inj hmem
      exact ⟨((store_varchar rfl).1 hsender).1, ((store_varchar rfl).1 htemplate).1,
        ((store_varchar rfl).1 hlocale).1, ((store_varchar rfl).1 hmasked).1,
        ((store_varchar rfl).1 hkeyID).1⟩
  have hrow : createRow record = some { record.row with
      tenantID := tenant, snapshot := { record.message.snapshot.truncated with id := id },
        submission := submission } := by
    rw [createRow, hid', htenant', hsubmission]
    rfl
  exact ⟨_, hrow, hkey, hcategory, hpolicy, hstatus, hprovider, hfailure, hfits⟩

theorem toInt_bigint {n : Nat} (h : n ≤ maxInt64) : (Int64.ofNat n).toInt = n :=
  Int64.toInt_ofNat_of_lt (lt_of_le_of_lt h (by decide))

theorem toInt_integer {n : Nat} (h : n ≤ maxInt32) : (Int32.ofNat n).toInt = n :=
  Int32.toInt_ofNat_of_lt (lt_of_le_of_lt h (by decide))

theorem toInt_smallint {n : Nat} (h : n ≤ 9) : (Int16.ofNat n).toInt = n :=
  Int16.toInt_ofNat_of_lt (lt_of_le_of_lt h (by decide))

theorem nextVersion_ofNat {n : Nat} (h : n < maxInt64) :
    nextVersion (.int8 (Int64.ofNat n)) = some (.int8 (Int64.ofNat (n + 1))) := by
  have hne : Int64.ofNat n ≠ Int64.maxValue := by
    intro heq
    have hvalue := congrArg Int64.toInt heq
    rw [toInt_bigint h.le, show Int64.maxValue.toInt = maxInt64 from rfl] at hvalue
    omega
  rw [nextVersion, if_neg hne, Int64.ofNat_add]
  rfl

/-- What `updatedRow` says of a snapshot is what its columns hold, and the other columns are kept. -/
theorem updateMessageQuery_updated {s : Snapshot} {id version : Value} (hheld : (updatedRow r s).Held)
    (hversion : r.snapshot.version < maxInt64) :
    updateMessageQuery (select updateColumns { r with snapshot := s }.columns ++ [id, version]) r.columns =
      some (updatedRow r s).columns := by
  refine updateMessageQuery_select.2 ⟨fun c hc => ?_, nextVersion_ofNat hversion, fun c hc hne => ?_⟩
  · have hlifecycle : (updatedRow r s).snapshot = { { r with snapshot := s }.snapshot.truncated with
        id := r.snapshot.id, acceptedAt := r.snapshot.acceptedAt, version := r.snapshot.version + 1 } := rfl
    exact store_lifecycle hlifecycle hheld c hc
  · cases c <;> first | rfl | exact absurd rfl hne | exact absurd (by decide) hc

end Storing

/-! ## Constraints on rows -/

theorem Status.ofText_text {status : Status} (h : status.valid = true) :
    Status.ofText status.text = status := by
  cases status <;> first | decide | cases h

theorem FailureCategory.ofText_text {category : FailureCategory} (h : category.valid = true) :
    FailureCategory.ofText category.text = category := by
  cases category <;> first | decide | cases h

/-- The values of a snapshot are values of the source's types: an enumeration's `unknown` is no text
of the enumeration. -/
structure Snapshot.Typed (s : Snapshot) : Prop where
  status : Status.ofText s.status.text = s.status
  failure : ∀ f ∈ s.lastFailure, FailureCategory.ofText f.category.text = f.category

/-- The values of a row are values of the source's types; a template's version is a `uint32`. -/
structure MessageRow.Typed (r : MessageRow) : Prop where
  snapshot : r.snapshot.Typed
  category : EmailCategory.ofText r.category.text = r.category
  duplicateRiskPolicy : DuplicateRiskPolicy.ofText r.duplicateRiskPolicy.text = r.duplicateRiskPolicy
  priority : r.priority < 2 ^ 8
  templateVersion : ∀ d ∈ r.submission, d.templateVersion < 2 ^ 32

/-- What a constraint says of a row. -/
def MessageConstraint.meaning (r : MessageRow) : MessageConstraint → Prop
  | idempotencyKeyNotBlank => notBtrimEmpty r.idempotencyKey
  | payloadFingerprintSha256 => True
  | categoryValid => r.category.valid = true
  | priorityValid => r.priority ≤ 9
  | duplicateRiskPolicyValid => r.duplicateRiskPolicy.valid = true
  | statusValid => r.snapshot.status.valid = true
  | scheduleBeforeDeadline => ∀ t ∈ r.snapshot.scheduledAt, t < r.snapshot.dispatchDeadline
  | retryBeforeDeadline => ∀ t ∈ r.snapshot.nextAttemptAt, t < r.snapshot.dispatchDeadline
  | deadlineAfterAcceptance => r.snapshot.acceptedAt < r.snapshot.dispatchDeadline
  | timestampsOrdered => r.snapshot.acceptedAt ≤ r.snapshot.updatedAt
  | attemptsValid => 0 < r.snapshot.maxAttempts ∧ r.snapshot.attemptCount ≤ r.snapshot.maxAttempts
  | countersNonnegative => 0 < r.snapshot.latestSequence
  | retryTimePresent => r.snapshot.status = .retryScheduled → r.snapshot.nextAttemptAt ≠ none
  | dispatchGenerationPresent => requiresDispatchGeneration r.snapshot.status →
      0 < r.snapshot.dispatchGeneration
  | attemptPresent => requiresAttempt r.snapshot.status → 0 < r.snapshot.attemptCount
  | failureFieldsConsistent => ∀ f ∈ r.snapshot.lastFailure, notBtrimEmpty f.code
  | failureCategoryValid => ∀ f ∈ r.snapshot.lastFailure, f.category.valid = true
  | submissionFieldsConsistent => ∀ d ∈ r.submission,
    notBtrimEmpty d.senderIdentityKey ∧ notBtrimEmpty d.templateKey ∧
      (0 < d.templateVersion ∧ d.templateVersion ≤ maxInt32) ∧
      notBtrimEmpty d.locale ∧ notBtrimEmpty d.recipientMasked ∧ notBtrimEmpty d.payloadKeyID ∧
      29 ≤ d.encryptedPayload.length ∧ isJSONObject d.metadata = true

section Constraints

variable {r : MessageRow}

theorem Status.mem_texts {status : Status} (h : Status.ofText status.text = status) :
    status.text ∈ statusTexts ↔ status.valid = true := by
  cases status with
  | unknown value =>
    refine ⟨fun hmem => ?_, fun hvalid => by cases hvalid⟩
    simp only [Status.text, statusTexts, List.mem_cons, List.not_mem_nil, or_false] at hmem
    rcases hmem with rfl | rfl | rfl | rfl | rfl | rfl | rfl | rfl | rfl | rfl | rfl |
      rfl | rfl | rfl | rfl <;>
      exact absurd h (by decide)
  | _ => decide

theorem attempted_subset : attemptedTexts ⊆ statusTexts := by decide

theorem Status.mem_attemptedTexts {status : Status} (h : Status.ofText status.text = status) :
    status.text ∈ attemptedTexts ↔ requiresAttempt status = true := by
  cases status with
  | unknown value =>
    refine ⟨fun hmem => ?_, fun hrequired => ?_⟩
    · cases (Status.mem_texts h).1 (attempted_subset hmem)
    · simp [requiresAttempt, oneOf] at hrequired
  | _ => decide

theorem Status.mem_generationTexts {status : Status} (h : Status.ofText status.text = status) :
    status.text ∈ "QUEUED" :: attemptedTexts ↔ requiresDispatchGeneration status = true := by
  have hsubset : "QUEUED" :: attemptedTexts ⊆ statusTexts := by decide
  cases status with
  | unknown value =>
    refine ⟨fun hmem => ?_, fun hrequired => ?_⟩
    · cases (Status.mem_texts h).1 (hsubset hmem)
    · simp [requiresDispatchGeneration, oneOf] at hrequired
  | _ => decide

theorem Status.text_eq_retryScheduled {status : Status} (h : Status.ofText status.text = status) :
    status.text = "RETRY_SCHEDULED" ↔ status = .retryScheduled := by
  constructor
  · intro htext
    rw [← h, htext]
    decide
  · rintro rfl
    rfl

theorem FailureCategory.mem_texts {category : FailureCategory}
    (h : FailureCategory.ofText category.text = category) :
    category.text ∈ failureCategoryTexts ↔ category.valid = true := by
  cases category with
  | unknown value =>
    refine ⟨fun hmem => ?_, fun hvalid => by cases hvalid⟩
    simp only [FailureCategory.text, failureCategoryTexts, List.mem_cons, List.not_mem_nil, or_false] at hmem
    rcases hmem with rfl | rfl | rfl | rfl | rfl | rfl | rfl | rfl | rfl | rfl <;> exact absurd h (by decide)
  | _ => decide

theorem EmailCategory.mem_texts {category : EmailCategory}
    (h : EmailCategory.ofText category.text = category) :
    category.text ∈ ["CRITICAL", "TRANSACTIONAL", "NOTIFICATION", "BULK"] ↔ category.valid = true := by
  cases category with
  | unknown value =>
    refine ⟨fun hmem => ?_, fun hvalid => by cases hvalid⟩
    simp only [EmailCategory.text, List.mem_cons, List.not_mem_nil, or_false] at hmem
    rcases hmem with rfl | rfl | rfl | rfl <;> exact absurd h (by decide)
  | _ => decide

theorem DuplicateRiskPolicy.mem_texts {policy : DuplicateRiskPolicy}
    (h : DuplicateRiskPolicy.ofText policy.text = policy) :
    policy.text ∈ ["AVOID_DUPLICATE", "PREFER_DELIVERY"] ↔ policy.valid = true := by
  cases policy with
  | unknown value =>
    refine ⟨fun hmem => ?_, fun hvalid => by cases hvalid⟩
    simp only [DuplicateRiskPolicy.text, List.mem_cons, List.not_mem_nil, or_false] at hmem
    rcases hmem with rfl | rfl <;> exact absurd h (by decide)
  | _ => decide

theorem length_bytesOf (n k : Nat) : (bytesOf n k).length = n := by
  induction n generalizing k with
  | zero => rfl
  | succ n ih => rw [bytesOf, List.length_cons, ih]

theorem numberOf_bytesOf {n k : Nat} (h : k < 256 ^ n) : numberOf (bytesOf n k) = k := by
  induction n generalizing k with
  | zero =>
    rw [pow_zero, Nat.lt_one_iff] at h
    rw [h]
    rfl
  | succ n ih =>
    have hrest : k / 256 < 256 ^ n := Nat.div_lt_of_lt_mul (by rwa [pow_succ, mul_comm] at h)
    rw [bytesOf, numberOf, ih hrest, UInt8.toNat_ofNat']
    exact Nat.mod_add_div k 256

theorem Fingerprint.ofBytes_bytes (f : Fingerprint) : Fingerprint.ofBytes f.bytes = f := by
  have hlt : f.toNat < 256 ^ 32 := f.isLt
  rw [Fingerprint.ofBytes, Fingerprint.bytes, numberOf_bytesOf hlt, BitVec.ofNat_toNat, BitVec.setWidth_eq]

/-- The counters that `databaseCounters` lets through. -/
theorem databaseCounters_eq_ok {s : Snapshot} : databaseCounters s = .ok () ↔
    s.dispatchGeneration ≤ maxInt64 ∧ s.latestSequence ≤ maxInt64 ∧ s.version ≤ maxInt64 ∧
      s.attemptCount ≤ maxInt32 ∧
      s.maxAttempts ≤ maxInt32 := check_eq_ok

theorem nullableTime_eq_null {t : Option Time} : nullableTime t = .null ↔ t = none := by
  cases t <;> simp [nullableTime]

theorem passes_before {t : Option Time} {deadline : Time} :
    (Cond.or (nullableTime t).isNull ((nullableTime t).less (.time deadline))).Passes ↔
    ∀ v ∈ t, v < deadline := by
  cases t <;> simp [nullableTime, Value.isNull, Value.less]

/-- The wrapped version of a template is positive exactly if it did not wrap. -/
theorem positive_version {n : Nat} (h : n < 2 ^ 32) : 0 < (Int32.ofNat n).toInt ↔ 0 < n ∧ n ≤ maxInt32 := by
  have hmax : maxInt32 = 2 ^ 31 - 1 := rfl
  by_cases hle : n ≤ maxInt32
  · rw [toInt_integer hle]
    omega
  · have hwrapped : (Int32.ofNat n).toInt = (n : Int) - 2 ^ 32 := by
      rw [Int32.toInt_ofNat', Int.bmod_def]
      have hsize : Int32.size = 4294967296 := rfl
      rw [hsize]
      split <;> omega
    omega

/-- A constraint's condition on the columns of a row says of the row what it should. -/
theorem MessageConstraint.passes_iff (h : r.Typed) (hc : databaseCounters r.snapshot = .ok ())
    (c : MessageConstraint) :
    (c.condition r.columns).Passes ↔ c.meaning r := by
  obtain ⟨hg, hs, hv, ha, hm⟩ := databaseCounters_eq_ok.1 hc
  have hpriority : (Int16.ofNat r.priority).toInt = r.priority :=
    Int16.toInt_ofNat_of_lt (h.priority.trans (by decide))
  have hzero : (0 : Int64).toInt = 0 ∧ (0 : Int32).toInt = 0 ∧ (0 : Int16).toInt = 0 ∧
      (9 : Int16).toInt = 9 := by decide
  cases c with
  | idempotencyKeyNotBlank => exact Cond.passes_some.trans decide_eq_true_iff
  | payloadFingerprintSha256 =>
    exact iff_of_true (Cond.passes_some.2 (beq_iff_eq.2 (length_bytesOf 32 _))) trivial
  | categoryValid =>
    exact (Cond.passes_some.trans decide_eq_true_iff).trans (EmailCategory.mem_texts h.category)
  | priorityValid =>
    simp only [condition, MessageRow.columns, Value.atMost, hpriority, hzero.2.2.1,
      hzero.2.2.2, Cond.and_some, Cond.passes_some, Bool.and_eq_true, decide_eq_true_iff, meaning]
    omega
  | duplicateRiskPolicyValid =>
    exact (Cond.passes_some.trans decide_eq_true_iff).trans
      (DuplicateRiskPolicy.mem_texts h.duplicateRiskPolicy)
  | statusValid =>
    exact (Cond.passes_some.trans decide_eq_true_iff).trans (Status.mem_texts h.snapshot.status)
  | scheduleBeforeDeadline => exact passes_before
  | retryBeforeDeadline => exact passes_before
  | deadlineAfterAcceptance => exact Cond.passes_some.trans decide_eq_true_iff
  | timestampsOrdered => exact Cond.passes_some.trans decide_eq_true_iff
  | attemptsValid =>
    simp only [condition, MessageRow.columns, Value.atMost, Value.less, toInt_integer ha,
      toInt_integer hm, hzero.2.1, Cond.all, List.foldr_cons, List.foldr_nil, Cond.and_some,
      Cond.passes_some, Bool.and_eq_true, Bool.and_true, decide_eq_true_iff, meaning]
    omega
  | countersNonnegative =>
    simp only [condition, MessageRow.columns, Value.atMost, Value.less, toInt_bigint hg,
      toInt_bigint hs, toInt_bigint hv, hzero.1, Cond.all, List.foldr_cons, List.foldr_nil,
      Cond.and_some, Cond.passes_some, Bool.and_eq_true, Bool.and_true,
      decide_eq_true_iff, meaning]
    omega
  | retryTimePresent =>
    simp only [condition, MessageRow.columns, Value.oneOf, List.mem_singleton, notNull,
      Value.isNull, Cond.not_some, Cond.or_some, Cond.passes_some,
      Status.text_eq_retryScheduled h.snapshot.status, nullableTime_eq_null, meaning]
    by_cases hwaiting : r.snapshot.status = .retryScheduled <;> simp [hwaiting]
  | dispatchGenerationPresent =>
    simp only [condition, MessageRow.columns, Value.oneOf, Value.less, toInt_bigint hg,
      hzero.1, Cond.not_some, Cond.or_some, Cond.passes_some,
      Status.mem_generationTexts h.snapshot.status, meaning]
    by_cases hrequired : requiresDispatchGeneration r.snapshot.status = true <;> simp [hrequired]
  | attemptPresent =>
    simp only [condition, MessageRow.columns, Value.oneOf, Value.less, toInt_integer ha,
      hzero.2.1, Cond.not_some, Cond.or_some, Cond.passes_some,
      Status.mem_attemptedTexts h.snapshot.status, meaning]
    by_cases hrequired : requiresAttempt r.snapshot.status = true <;> simp [hrequired]
  | failureFieldsConsistent =>
    cases hf : r.snapshot.lastFailure <;>
      simp [condition, meaning, MessageRow.columns, hf, failureArguments, notNull, notBlank,
        Value.isNull, Value.ofText, Cond.all]
  | failureCategoryValid =>
    cases hf : r.snapshot.lastFailure with
    | none => simp [condition, meaning, MessageRow.columns, hf, failureArguments, Value.isNull]
    | some f =>
      simp [condition, meaning, MessageRow.columns, hf, failureArguments, Value.isNull, Value.oneOf,
        FailureCategory.mem_texts (h.snapshot.failure f hf)]
  | submissionFieldsConsistent =>
    cases hd : r.submission with
    | none => simp [condition, meaning, MessageRow.columns, hd, submissionArguments, Value.isNull, Cond.all]
    | some d =>
      have hversion := positive_version (h.templateVersion d hd)
      simp only [condition, meaning, MessageRow.columns, hd, submissionArguments, notNull,
        notBlank, jsonObject, Value.isNull, Value.ofText, Value.less, Value.octetLength, Cond.all,
        List.foldr_cons, List.foldr_nil, Cond.not_some, Cond.and_some, Cond.or_some, Cond.passes_some,
        reduceCtorEq, decide_false, Bool.not_false, Bool.false_and, Bool.true_and, Bool.and_true,
        Bool.false_or, Bool.and_eq_true, decide_eq_true_iff, hzero.2.1,
        hversion, Option.mem_some_iff, forall_eq']

end Constraints

/-! ## Scanning a row -/

section Scanning

variable {r : MessageRow} {f : Option Failure} {d : Option SubmissionDetails}

theorem scan_nullableTime (t : Option Time) : Scan.nullable Scan.time (nullableTime t) = .ok t := by
  cases t <;> rfl

theorem scan_nullableString (text : String) :
    Scan.nullable Scan.text (nullableString text) = .ok (if text = "" then none else some text) := by
  unfold nullableString
  split <;> rfl

theorem scan_failure : Scan.nullable Scan.text (failureArguments f).category = .ok (f.map (·.category.text)) ∧
    Scan.nullable Scan.text (failureArguments f).code = .ok (f.map (·.code)) ∧
    Scan.nullable Scan.bool (failureArguments f).retryable = .ok (f.map (·.retryable)) := by
  cases f <;> exact ⟨rfl, rfl, rfl⟩

/-- What is scanned of the submission's columns. -/
def scannedSubmission (d : Option SubmissionDetails) : ScannedSubmission where
  senderIdentityKey := d.map (·.senderIdentityKey)
  templateKey := d.map (·.templateKey)
  templateVersion := d.map fun d => Int32.ofNat d.templateVersion
  locale := d.map (·.locale)
  recipientMasked := d.map (·.recipientMasked)
  payloadKeyID := d.map (·.payloadKeyID)
  encryptedPayload := d.map (·.encryptedPayload)
  metadata := d.map (·.metadata)

theorem scan_submission :
    Scan.nullable Scan.text (submissionArguments d).senderIdentityKey =
      .ok (scannedSubmission d).senderIdentityKey ∧
    Scan.nullable Scan.text (submissionArguments d).templateKey = .ok (scannedSubmission d).templateKey ∧
    Scan.nullable Scan.int4 (submissionArguments d).templateVersion =
      .ok (scannedSubmission d).templateVersion ∧
    Scan.nullable Scan.text (submissionArguments d).locale = .ok (scannedSubmission d).locale ∧
    Scan.nullable Scan.text (submissionArguments d).recipientMasked =
      .ok (scannedSubmission d).recipientMasked ∧
    Scan.nullable Scan.text (submissionArguments d).payloadKeyID = .ok (scannedSubmission d).payloadKeyID ∧
    Scan.nullable Scan.bytes (submissionArguments d).encryptedPayload =
      .ok (scannedSubmission d).encryptedPayload ∧
    Scan.nullable Scan.text (submissionArguments d).metadata = .ok (scannedSubmission d).metadata := by
  cases d <;> exact ⟨rfl, rfl, rfl, rfl, rfl, rfl, rfl, rfl⟩

/-- What is scanned of a row. -/
def MessageRow.scanned (r : MessageRow) : Scanned where
  messageID := r.snapshot.id
  tenantID := r.tenantID
  idempotencyKey := r.idempotencyKey
  fingerprint := some r.payloadFingerprint.bytes
  category := r.category.text
  priority := Int16.ofNat r.priority
  duplicateRiskPolicy := r.duplicateRiskPolicy.text
  status := r.snapshot.status.text
  scheduledAt := r.snapshot.scheduledAt
  dispatchDeadline := r.snapshot.dispatchDeadline
  nextAttemptAt := r.snapshot.nextAttemptAt
  dispatchGeneration := Int64.ofNat r.snapshot.dispatchGeneration
  attemptCount := Int32.ofNat r.snapshot.attemptCount
  maxAttempts := Int32.ofNat r.snapshot.maxAttempts
  providerAcceptedAt := r.snapshot.providerAcceptedAt
  providerMessageID := if r.snapshot.providerMessageID = "" then none else some r.snapshot.providerMessageID
  latestSequence := Int64.ofNat r.snapshot.latestSequence
  version := Int64.ofNat r.snapshot.version
  lastErrorCategory := r.snapshot.lastFailure.map (·.category.text)
  lastErrorCode := r.snapshot.lastFailure.map (·.code)
  lastErrorRetryable := r.snapshot.lastFailure.map (·.retryable)
  acceptedAt := r.snapshot.acceptedAt
  updatedAt := r.snapshot.updatedAt
  submission := scannedSubmission r.submission

/-- Every destination takes the value of its own column. -/
theorem scanRow_select (r : MessageRow) : scanRow (select messageColumns r.columns) = .ok r.scanned := by
  obtain ⟨hcategory, hcode, hretryable⟩ := scan_failure (f := r.snapshot.lastFailure)
  obtain ⟨h₁, h₂, h₃, h₄, h₅, h₆, h₇, h₈⟩ := scan_submission (d := r.submission)
  simp only [select, messageColumns, List.map_cons, List.map_nil, MessageRow.columns,
    scanRow, scan_nullableTime, scan_nullableString, hcategory, hcode, hretryable, h₁, h₂, h₃, h₄,
    h₅, h₆, h₇, h₈, ok_bind]
  rfl

theorem scanFailure_stored (h : ∀ failure ∈ f, failure.category.valid = true) :
    scanFailure (f.map (·.category.text)) (f.map (·.code)) (f.map (·.retryable)) = .ok f := by
  cases f with
  | none => rfl
  | some failure =>
    simp only [Option.map_some, scanFailure, FailureCategory.ofText_text (h failure rfl)]

theorem scanSubmission_stored {details : SubmissionDetails} (hpos : 0 < details.templateVersion)
    (hle : details.templateVersion ≤ maxInt32) :
    scanSubmission (scannedSubmission (some details)) = (do
      details.validate.mapError fun _ => Error.corruptMessageRecord "persisted submission is invalid"
      pure (some details)) := by
  have hvalue := toInt_integer hle
  have hpositive : 0 < (Int32.ofNat details.templateVersion).toInt := by
    rw [hvalue]
    exact_mod_cast hpos
  simp only [scannedSubmission, Option.map_some, scanSubmission]
  rw [check_bind hpositive]
  simp only [hvalue, Int.toNat_natCast]

/-- Scanning the columns of a row is reading the row. -/
theorem scanMessageColumns_select (h : r.Allowed) (hc : databaseCounters r.snapshot = .ok ()) :
    scanMessageColumns (select messageColumns r.columns) = scanMessageRecord r := by
  obtain ⟨-, -, hcategory, hpriority, hpolicy, hsnapshot, hsubmission⟩ := h
  obtain ⟨hstatus, -, -, -, -, -, -, -, -, -, -, hfailure⟩ := hsnapshot
  obtain ⟨hg, hs, hv, ha, hm⟩ := databaseCounters_eq_ok.1 hc
  have hlength : (r.scanned.fingerprint.getD []).length = 32 := length_bytesOf 32 _
  have hrange : 0 ≤ r.scanned.priority.toInt ∧ r.scanned.priority.toInt ≤ 9 ∧
    0 ≤ r.scanned.dispatchGeneration.toInt ∧
      0 ≤ r.scanned.attemptCount.toInt ∧ 0 ≤ r.scanned.maxAttempts.toInt ∧
      0 ≤ r.scanned.latestSequence.toInt ∧
      0 ≤ r.scanned.version.toInt := by
    simp only [MessageRow.scanned, toInt_smallint hpriority, toInt_bigint hg,
      toInt_integer ha, toInt_integer hm, toInt_bigint hs, toInt_bigint hv]
    omega
  have hfailed : scanFailure r.scanned.lastErrorCategory r.scanned.lastErrorCode
    r.scanned.lastErrorRetryable =
      .ok r.snapshot.lastFailure := scanFailure_stored fun f hf => (hfailure f hf).1
  have hprovider : (if r.snapshot.providerMessageID = "" then none else
    some r.snapshot.providerMessageID).getD "" =
      r.snapshot.providerMessageID := by
    split <;> simp_all
  rw [scanMessageColumns, scanRow_select, ok_bind, Scanned.record, check_bind hlength,
    check_bind hrange, hfailed, ok_bind, scanMessageRecord, check_bind hpriority]
  simp only [MessageRow.scanned, toInt_smallint hpriority, toInt_bigint hg,
    toInt_integer ha, toInt_integer hm, toInt_bigint hs, toInt_bigint hv, Int.toNat_natCast, hprovider,
    Status.ofText_text hstatus, EmailCategory.ofText_text hcategory,
    DuplicateRiskPolicy.ofText_text hpolicy, Option.getD_some, Fingerprint.ofBytes_bytes]
  cases hd : r.submission with
  | none => rfl
  | some d =>
    obtain ⟨hpos, hle⟩ := (hsubmission d hd).2.2.1
    rw [scanSubmission_stored hpos hle]
    simp only [bind_assoc, pure_bind]

end Scanning

/-! ## Refinement -/

section Refinement

variable {r : MessageRow} {record : MessageRecord} {s : Snapshot}
  {row : Row MessageColumn} {args : List Value}

theorem MessageRow.Allowed.held (h : r.Allowed) : r.Held := by
  obtain ⟨-, hkey, hcategory, -, hpolicy, hsnapshot, hsubmission⟩ := h
  obtain ⟨hstatus, -, -, -, -, -, -, -, -, -, hprovider, hfailure⟩ := hsnapshot
  refine ⟨hkey, EmailCategory.varchar_text hcategory, DuplicateRiskPolicy.varchar_text hpolicy,
    Status.varchar_text hstatus, hprovider,
    fun f hf => ⟨FailureCategory.varchar_text (hfailure f hf).1, (hfailure f hf).2.2⟩, fun d hd => ?_⟩
  obtain ⟨⟨-, hsender⟩, ⟨-, htemplate⟩, -, ⟨-, hlocale⟩, ⟨-, hmasked⟩, ⟨-, hkeyID⟩, -⟩ := hsubmission d hd
  exact ⟨hsender, htemplate, hlocale, hmasked, hkeyID⟩

theorem MessageRow.Allowed.typed (h : r.Allowed) : r.Typed := by
  obtain ⟨-, -, hcategory, hpriority, hpolicy, hsnapshot, hsubmission⟩ := h
  obtain ⟨hstatus, -, -, -, -, -, -, -, -, -, -, hfailure⟩ := hsnapshot
  refine ⟨⟨Status.ofText_text hstatus, fun f hf => FailureCategory.ofText_text (hfailure f hf).1⟩,
    EmailCategory.ofText_text hcategory, DuplicateRiskPolicy.ofText_text hpolicy,
    hpriority.trans_lt (by decide), fun d hd => ?_⟩
  obtain ⟨-, -, ⟨-, hle⟩, -⟩ := hsubmission d hd
  exact hle.trans_lt (by decide)

/-- The model allows exactly the rows whose texts fit and whose columns satisfy every CHECK constraint. -/
theorem MessageRow.Typed.allowed_iff (h : r.Typed) (hc : databaseCounters r.snapshot = .ok ()) :
    r.Allowed ↔ r.Held ∧ Satisfies r.columns := by
  have hmeaning : Satisfies r.columns ↔ ∀ c : MessageConstraint, c.meaning r :=
    forall_congr' fun c => c.passes_iff h hc
  rw [hmeaning]
  constructor
  · intro hallowed
    refine ⟨hallowed.held, fun c => ?_⟩
    obtain ⟨hkey, -, hcategory, hpriority, hpolicy, hsnapshot, hsubmission⟩ := hallowed
    obtain ⟨hstatus, hscheduled, hnext, hdeadline, hupdated, hattempts, hsequence, hretry,
      hgeneration, hattempt, -, hfailure⟩ := hsnapshot
    cases c with
    | idempotencyKeyNotBlank => exact hkey
    | payloadFingerprintSha256 => exact trivial
    | categoryValid => exact hcategory
    | priorityValid => exact hpriority
    | duplicateRiskPolicyValid => exact hpolicy
    | statusValid => exact hstatus
    | scheduleBeforeDeadline => exact hscheduled
    | retryBeforeDeadline => exact hnext
    | deadlineAfterAcceptance => exact hdeadline
    | timestampsOrdered => exact hupdated
    | attemptsValid => exact hattempts
    | countersNonnegative => exact hsequence
    | retryTimePresent => exact hretry
    | dispatchGenerationPresent => exact hgeneration
    | attemptPresent => exact hattempt
    | failureFieldsConsistent => exact fun f hf => (hfailure f hf).2.1
    | failureCategoryValid => exact fun f hf => (hfailure f hf).1
    | submissionFieldsConsistent =>
      intro d hd
      obtain ⟨⟨hsender, -⟩, ⟨htemplate, -⟩, hversion, ⟨hlocale, -⟩, ⟨hmasked, -⟩, ⟨hkeyID, -⟩,
          hpayload, hobject⟩ :=
        hsubmission d hd
      exact ⟨hsender, htemplate, hversion, hlocale, hmasked, hkeyID, hpayload, hobject⟩
  · rintro ⟨hheld, hall⟩
    refine ⟨hall .idempotencyKeyNotBlank, hheld.idempotencyKey, hall .categoryValid, hall .priorityValid,
      hall .duplicateRiskPolicyValid, ?_, fun d hd => ?_⟩
    · exact ⟨hall .statusValid, hall .scheduleBeforeDeadline, hall .retryBeforeDeadline,
        hall .deadlineAfterAcceptance, hall .timestampsOrdered, hall .attemptsValid,
        hall .countersNonnegative, hall .retryTimePresent, hall .dispatchGenerationPresent,
        hall .attemptPresent, hheld.providerMessageID,
        fun f hf => ⟨hall .failureCategoryValid f hf, hall .failureFieldsConsistent f hf,
        (hheld.failure f hf).2⟩⟩
    · obtain ⟨hsender, htemplate, hversion, hlocale, hmasked, hkeyID, hpayload, hobject⟩ :=
        hall .submissionFieldsConsistent d hd
      obtain ⟨hsender', htemplate', hlocale', hmasked', hkeyID'⟩ := hheld.submission d hd
      exact ⟨⟨hsender, hsender'⟩, ⟨htemplate, htemplate'⟩, hversion, ⟨hlocale, hlocale'⟩, ⟨hmasked, hmasked'⟩,
        ⟨hkeyID, hkeyID'⟩, hpayload, hobject⟩

/-- The columns convert nothing that a row's types depend on. -/
theorem MessageRow.Typed.created (h : record.row.Typed) (hrow : createRow record = some r) : r.Typed := by
  obtain ⟨-, -, -, -, hsnapshot⟩ := createRow_eq_some hrow
  obtain ⟨hcategory, hpriority, hpolicy, -⟩ := createRow_policy hrow
  refine ⟨?_, ?_, ?_, ?_, fun d hd => ?_⟩
  · rw [hsnapshot]
    exact ⟨h.snapshot.status, h.snapshot.failure⟩
  · rw [hcategory]
    exact h.category
  · rw [hpolicy]
    exact h.duplicateRiskPolicy
  · rw [hpriority]
    exact h.priority
  · obtain ⟨original, horiginal, text, -, rfl⟩ := createRow_submission hrow d hd
    exact h.templateVersion original horiginal

theorem createRow_counters (hrow : createRow record = some r)
    (hc : databaseCounters record.message.snapshot = .ok ()) :
    databaseCounters r.snapshot = .ok () := by
  obtain ⟨-, -, -, -, hsnapshot⟩ := createRow_eq_some hrow
  rw [hsnapshot]
  exact hc

theorem insert_refines (h : record.row.Typed) (hc : databaseCounters record.message.snapshot = .ok ()) :
    insertMessageQuery (select messageColumns record.row.columns) = some row ∧ Satisfies row ↔
      ∃ r, createRow record = some r ∧ r.Allowed ∧ row = r.columns := by
  rw [insertMessageQuery_select]
  constructor
  · rintro ⟨hstored, hsatisfies⟩
    obtain ⟨r, hrow, hheld⟩ := createRow_of_stored hstored
    have hcolumns : row = r.columns := by
      funext c
      exact Option.some.inj ((hstored c).symm.trans (store_created hrow hheld c))
    subst hcolumns
    exact ⟨r, hrow, ((h.created hrow).allowed_iff (createRow_counters hrow hc)).2 ⟨hheld, hsatisfies⟩, rfl⟩
  · rintro ⟨r, hrow, hallowed, rfl⟩
    obtain ⟨hheld, hsatisfies⟩ := ((h.created hrow).allowed_iff (createRow_counters hrow hc)).1 hallowed
    exact ⟨store_created hrow hheld, hsatisfies⟩

theorem update_refines {id version : Value} (hr : r.Allowed) (h : s.Typed) (hc : databaseCounters s = .ok ())
    (hversion : r.snapshot.version < maxInt64) :
    updateMessageQuery (select updateColumns { r with snapshot := s }.columns ++ [id, version])
      r.columns = some row ∧
        Satisfies row ↔
      (updatedRow r s).Allowed ∧ row = (updatedRow r s).columns := by
  have htyped : (updatedRow r s).Typed :=
    ⟨⟨h.status, h.failure⟩, hr.typed.category, hr.typed.duplicateRiskPolicy, hr.typed.priority,
      hr.typed.templateVersion⟩
  have hcounters : databaseCounters (updatedRow r s).snapshot = .ok () := by
    obtain ⟨hg, hs, -, ha, hm⟩ := databaseCounters_eq_ok.1 hc
    exact databaseCounters_eq_ok.2 ⟨hg, hs, hversion, ha, hm⟩
  constructor
  · rintro ⟨hupdated, hsatisfies⟩
    obtain ⟨hstored, -, -⟩ := updateMessageQuery_select.1 hupdated
    obtain ⟨hstatus, hprovider, hfailure⟩ := held_lifecycle hstored
    have hheld : (updatedRow r s).Held :=
      ⟨hr.held.idempotencyKey, hr.held.category, hr.held.duplicateRiskPolicy, hstatus, hprovider, hfailure,
        hr.held.submission⟩
    have hcolumns : row = (updatedRow r s).columns :=
      Option.some.inj (hupdated.symm.trans (updateMessageQuery_updated hheld hversion))
    subst hcolumns
    exact ⟨(htyped.allowed_iff hcounters).2 ⟨hheld, hsatisfies⟩, rfl⟩
  · rintro ⟨hallowed, rfl⟩
    obtain ⟨hheld, hsatisfies⟩ := (htyped.allowed_iff hcounters).1 hallowed
    exact ⟨updateMessageQuery_updated hheld hversion, hsatisfies⟩

end Refinement

end MailService
