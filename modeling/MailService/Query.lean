import MailService.Submission
import MailService.Postgres.Effects
/-!
# Status queries

`EmailQueryService.Get` over the message repository, and the code with which
`publicError` reports its errors. A query by id reads the row of that id
whoever owns it, and compares the tenants after the row has been decoded. So
another tenant's row is as good as absent only if it can be decoded:
`get_agrees_iff` says exactly when two databases that hold the same rows of a
tenant answer its query alike.
-/
open Text Checks Table

namespace MailService

structure GetEmailQuery where
  tenantID : String
  messageID : String
  idempotencyKey : String
  deriving DecidableEq, Repr

/-- `EmailQueryService.Get`. -/
def EmailQueryService.get (db : Db) (query : GetEmailQuery) : Except Error MessageRecord := do
  check (isUUID query.tenantID) (.invalidEmailQuery "tenant identity is invalid")
  let byID := decide (query.messageID ≠ "")
  let byKey := decide (query.idempotencyKey ≠ "")
  check (byID ≠ byKey) (.invalidEmailQuery "provide exactly one selector")
  if byKey then
    check (idempotencyKeyPattern query.idempotencyKey)
      (.invalidEmailQuery "idempotency key has invalid format")
    db.getByIdempotencyKey query.tenantID query.idempotencyKey
  else
    check (trimSpace query.messageID = query.messageID)
      (.invalidEmailQuery "message id has surrounding whitespace")
    check (isUUID query.messageID) (.invalidEmailQuery "message id is invalid")
    let record ← db.getByID query.messageID
    check (record.tenantID = query.tenantID) .messageNotFound
    pure record

/-- The status codes of `google.golang.org/grpc/codes` that `publicError` uses. -/
inductive Code
  | canceled | deadlineExceeded | invalidArgument | permissionDenied | notFound | alreadyExists
  | unavailable | internal
  deriving DecidableEq, Repr

/-- The errors of a request that is not valid. -/
def Error.invalidRequest : Error → Bool
  | .invalidSubmission _ | .invalidEmailQuery _ | .invalidMessageRecord _ | .templateVariables => true
  | _ => false

/-- The errors of storage that `publicError` lists. -/
def Error.unavailable : Error → Bool
  | .transaction _ | .messageRepository _ => true
  | _ => false

/-- `publicError` of joined errors, among which `errors.Is` looks for each kind in turn. -/
def publicErrors (errors : List Error) : Code × String :=
  if .context .canceled ∈ errors then (.canceled, "request canceled")
  else if .context .deadlineExceeded ∈ errors then (.deadlineExceeded, "request deadline exceeded")
  else if errors.any Error.invalidRequest then (.invalidArgument, "request validation failed")
  else if .templateNotAllowed ∈ errors ∨ .senderIdentityNotAllowed ∈ errors then
    (.permissionDenied, "template is not allowed")
  else if .templateNotFound ∈ errors ∨ .messageNotFound ∈ errors then
    (.notFound, "requested resource was not found")
  else if .idempotencyConflict ∈ errors then
    (.alreadyExists, "idempotency key is already bound to another payload")
  else if errors.any Error.unavailable then (.unavailable, "service storage is temporarily unavailable")
  else (.internal, "internal service error")

def publicError (e : Error) : Code × String := publicErrors [e]

/-- The constraints of `mail_messages` and its reference to `tenants`; a `uuid` column
holds canonical texts. -/
structure Db.Constraints (db : Db) : Prop where
  allowed : ∀ r ∈ db.messages, r.Allowed
  uuids : ∀ r ∈ db.messages, ∃ id tenantID : Uuid, r.snapshot.id = id.text ∧ r.tenantID = tenantID.text
  ids : db.messageIDs.Nodup
  keys : (db.messages.map fun r => (r.tenantID, r.idempotencyKey)).Nodup
  tenants : ∀ r ∈ db.messages, ∃ t ∈ db.tenants, t.id = r.tenantID

/-- Two databases hold the same messages of a tenant. -/
def Db.AgreeOn (T : Uuid) (db₁ db₂ : Db) : Prop :=
  ∀ r : MessageRow, r.tenantID = T.text → (r ∈ db₁.messages ↔ r ∈ db₂.messages)

/-- The id that a query which passes the checks of `get` reads. -/
def GetEmailQuery.selected (query : GetEmailQuery) : Option String :=
  if isUUID query.tenantID ∧ query.messageID ≠ "" ∧ query.idempotencyKey = "" ∧
      trimSpace query.messageID = query.messageID ∧ isUUID query.messageID then
    uuidColumn query.messageID
  else none

/-- The row of another tenant that the query reads. -/
def Db.foreignRow (db : Db) (T : Uuid) (query : GetEmailQuery) : Option MessageRow :=
  query.selected.bind fun id => db.messages.find? fun r => r.snapshot.id = id ∧ r.tenantID ≠ T.text

/-- The error with which decoding that row fails. -/
def Db.foreignFailure (db : Db) (T : Uuid) (query : GetEmailQuery) : Option Error :=
  (db.foreignRow T query).bind fun r =>
    match scanMessageRecord r with
    | .error e => some e
    | .ok _ => none

namespace EmailQueryService

variable {db db₁ db₂ : Db} {T : Uuid} {query : GetEmailQuery}

/-! ## Queries that read no other tenant's row -/

theorem findKey_agree (h₁ : db₁.Constraints) (h₂ : db₂.Constraints)
    (h : Db.AgreeOn T db₁ db₂) (key : String) :
    db₁.findKey T.text key = db₂.findKey T.text key := by
  have hiff {db : Db} (hc : db.Constraints) (r : MessageRow) :
      db.findKey T.text key = some r ↔ r ∈ db.messages ∧ r.tenantID = T.text ∧ r.idempotencyKey = key := by
    rw [Db.findKey, find?_eq_some_iff _ hc.keys]
    · simp
    · intro x y hx hy
      simp only [decide_eq_true_eq] at hx hy
      rw [hx.1, hx.2, hy.1, hy.2]
  ext r
  rw [hiff h₁, hiff h₂]
  constructor
  · rintro ⟨hr, ht, hk⟩
    exact ⟨(h r ht).1 hr, ht, hk⟩
  · rintro ⟨hr, ht, hk⟩
    exact ⟨(h r ht).2 hr, ht, hk⟩

/-- The tenant that `get` checks is the one the database reads, when it can read it. -/
theorem uuidColumn_of_parse {s : String} (hs : Uuid.parse s = some T) :
    uuidColumn s = none ∨ uuidColumn s = some T.text := by
  cases hp : Uuid.postgresIn s with
  | none => exact .inl (by simp [uuidColumn, hp])
  | some u => exact .inr (by simp [uuidColumn, hp, Uuid.eq_of_parse_of_postgresIn hs hp])

theorem getByIdempotencyKey_agree (h₁ : db₁.Constraints) (h₂ : db₂.Constraints) (h : Db.AgreeOn T db₁ db₂)
    {tenantID : String} (ht : Uuid.parse tenantID = some T) (key : String) :
    db₁.getByIdempotencyKey tenantID key = db₂.getByIdempotencyKey tenantID key := by
  unfold Db.getByIdempotencyKey
  rcases uuidColumn_of_parse ht with hc | hc
  · simp only [hc]
  · simp only [hc, findKey_agree h₁ h₂ h]

/-- A query that selects no id is answered from the tenant's own rows. -/
theorem get_agree_of_not_selected (h₁ : db₁.Constraints) (h₂ : db₂.Constraints) (h : Db.AgreeOn T db₁ db₂)
    (ht : Uuid.parse query.tenantID = some T) (hs : query.selected = none) :
    get db₁ query = get db₂ query := by
  have htenant : isUUID query.tenantID = true := by simp [isUUID, ht]
  unfold get
  rw [getByIdempotencyKey_agree h₁ h₂ h ht]
  by_cases hk : query.idempotencyKey = ""
  · by_cases hm : query.messageID = ""
    · simp [hk, hm, check]
    · -- by id: one of the two checks fails, or the database cannot read the id
      by_cases hv : trimSpace query.messageID = query.messageID ∧ isUUID query.messageID = true
      · have hid : uuidColumn query.messageID = none := by
          simpa [GetEmailQuery.selected, htenant, hk, hm, hv.1, hv.2] using hs
        simp [hk, Db.getByID, hid]
      · rcases not_and_or.1 hv with hv | hv
        · simp [hk, check, hv]
        · simp [hk, check, hv]
  · simp [hk]

/-! ## Queries by id -/

theorem get_of_selected {id : String} (hs : query.selected = some id) :
    get db query = (do
      let record ← Db.scanFound (db.messages.find? fun r => r.snapshot.id = id)
      check (record.tenantID = query.tenantID) .messageNotFound
      pure record) := by
  unfold GetEmailQuery.selected at hs
  split at hs
  · rename_i hv
    obtain ⟨htenant, hm, hk, htrim, huuid⟩ := hv
    simp [get, htenant, hm, hk, htrim, huuid, Db.getByID, hs]
  · cases hs

/-- The row that a query by id finds, whoever owns it. -/
theorem find_id_iff (hc : db.Constraints) {id : String} {r : MessageRow} :
    db.messages.find? (fun r => decide (r.snapshot.id = id)) = some r ↔
    r ∈ db.messages ∧ r.snapshot.id = id := by
  rw [find?_eq_some_iff _ hc.ids]
  · simp
  · intro x y hx hy
    exact (of_decide_eq_true hx).trans (of_decide_eq_true hy).symm

theorem foreignRow_iff (hc : db.Constraints) {id : String} (hs : query.selected = some id) {r : MessageRow} :
    db.foreignRow T query = some r ↔ r ∈ db.messages ∧ r.snapshot.id = id ∧ r.tenantID ≠ T.text := by
  rw [Db.foreignRow, hs, Option.bind_some, find?_eq_some_iff _ hc.ids]
  · simp
  · intro x y hx hy
    exact (of_decide_eq_true hx).1.trans (of_decide_eq_true hy).1.symm

/-- The answer for the tenant's own row does not depend on the rest of the database. -/
theorem get_of_own (hc : db.Constraints) {id : String} (hs : query.selected = some id) {r : MessageRow}
    (hr : r ∈ db.messages) (hid : r.snapshot.id = id) :
    get db query = (do
      let record ← scanMessageRecord r
      check (record.tenantID = query.tenantID) .messageNotFound
      pure record) := by
  rw [get_of_selected hs, (find_id_iff hc).2 ⟨hr, hid⟩]
  rfl

/-- Without a row of its own a tenant gets the failure to decode another tenant's row,
and otherwise learns that there is no such message. -/
theorem get_of_not_own (hc : db.Constraints) (ht : Uuid.parse query.tenantID = some T) {id : String}
    (hs : query.selected = some id) (hno : ∀ r ∈ db.messages, r.snapshot.id = id → r.tenantID ≠ T.text) :
    get db query = .error ((db.foreignFailure T query).getD .messageNotFound) := by
  cases hf : db.messages.find? (fun r => decide (r.snapshot.id = id)) with
  | none =>
    have hforeign : db.foreignRow T query = none := by
      cases hr : db.foreignRow T query with
      | none => rfl
      | some r =>
        have hr := (foreignRow_iff hc hs).1 hr
        rw [(find_id_iff hc).2 ⟨hr.1, hr.2.1⟩] at hf
        cases hf
    simp [get_of_selected hs, hf, Db.scanFound, Db.foreignFailure, hforeign]
  | some r =>
    obtain ⟨hr, hid⟩ := (find_id_iff hc).1 hf
    have hforeign := (foreignRow_iff hc hs).2 ⟨hr, hid, hno r hr hid⟩
    rw [get_of_own hc hs hr hid, Db.foreignFailure, hforeign, Option.bind_some]
    cases hscan : scanMessageRecord r with
    | error e => rfl
    | ok record =>
      -- the query's text is the owner's only if it names the owner
      have hne : record.tenantID ≠ query.tenantID := by
        rw [(scanMessageRecord_eq_ok.1 hscan).2]
        intro he
        obtain ⟨-, tenant, -, htenant⟩ := hc.uuids r hr
        have hrec : r.tenantID = query.tenantID := he
        rw [← hrec, htenant, Uuid.parse_text] at ht
        exact hno r hr hid (htenant.trans (congrArg Uuid.text (Option.some.inj ht)))
      simp [check, hne]

/-- Decoding never fails as a missing message does. -/
theorem foreignFailure_ne_notFound : db.foreignFailure T query ≠ some .messageNotFound := by
  intro h
  obtain ⟨r, -, hr⟩ := Option.bind_eq_some_iff.1 h
  split at hr
  · rename_i e hscan
    obtain ⟨detail, he⟩ := scanMessageRecord_corrupt r e hscan
    rw [he] at hr
    cases hr
  · cases hr

/-- An id has one row, so where the tenant owns it no other tenant does. -/
theorem not_own_of_foreignRow (hc : db.Constraints) {id : String}
    (hs : query.selected = some id) {r : MessageRow} (hr : db.foreignRow T query = some r) :
    ∀ x ∈ db.messages, x.snapshot.id = id → x.tenantID ≠ T.text := by
  obtain ⟨hmem, hid, hne⟩ := (foreignRow_iff hc hs).1 hr
  intro x hx hxid
  rwa [List.inj_on_of_nodup_map hc.ids hx hmem (hxid.trans hid.symm)]

theorem foreignFailure_of_own (hc : db.Constraints) {id : String}
    (hs : query.selected = some id) {x : MessageRow} (hx : x ∈ db.messages) (hid : x.snapshot.id = id)
    (ht : x.tenantID = T.text) :
    db.foreignFailure T query = none := by
  cases hr : db.foreignRow T query with
  | none => simp [Db.foreignFailure, hr]
  | some r => exact absurd ht (not_own_of_foreignRow hc hs hr x hx hid)

theorem get_eq_iff_of_selected (h₁ : db₁.Constraints) (h₂ : db₂.Constraints) (h : Db.AgreeOn T db₁ db₂)
    (ht : Uuid.parse query.tenantID = some T) {id : String} (hs : query.selected = some id) :
    get db₁ query = get db₂ query ↔ db₁.foreignFailure T query = db₂.foreignFailure T query := by
  by_cases hown : ∃ r ∈ db₁.messages, r.snapshot.id = id ∧ r.tenantID = T.text
  · obtain ⟨r, hr, hid, htr⟩ := hown
    have hr₂ := (h r htr).1 hr
    rw [get_of_own h₁ hs hr hid, get_of_own h₂ hs hr₂ hid, foreignFailure_of_own h₁ hs hr hid htr,
      foreignFailure_of_own h₂ hs hr₂ hid htr]
    exact ⟨fun _ => rfl, fun _ => rfl⟩
  · have hno₁ : ∀ r ∈ db₁.messages, r.snapshot.id = id → r.tenantID ≠ T.text :=
      fun r hr hid htr => hown ⟨r, hr, hid, htr⟩
    have hno₂ : ∀ r ∈ db₂.messages, r.snapshot.id = id → r.tenantID ≠ T.text :=
      fun r hr hid htr => hown ⟨r, (h r htr).2 hr, hid, htr⟩
    rw [get_of_not_own h₁ ht hs hno₁, get_of_not_own h₂ ht hs hno₂]
    have hne₁ := @foreignFailure_ne_notFound db₁ T query
    have hne₂ := @foreignFailure_ne_notFound db₂ T query
    cases hf₁ : db₁.foreignFailure T query <;> cases hf₂ : db₂.foreignFailure T query
    · simp
    · rw [hf₂] at hne₂
      simpa using fun he => hne₂ (congrArg some he.symm)
    · rw [hf₁] at hne₁
      simpa using fun he => hne₁ (congrArg some he)
    · simp

/-- What a tenant is told of an id that another tenant owns. -/
theorem get_of_foreignRow (hc : db.Constraints) (ht : Uuid.parse query.tenantID = some T) {r : MessageRow}
    (hr : db.foreignRow T query = some r) :
    get db query = .error (match scanMessageRecord r with
      | .error e => e
      | .ok _ => .messageNotFound) := by
  cases hs : query.selected with
  | none => simp [Db.foreignRow, hs] at hr
  | some id =>
    rw [get_of_not_own hc ht hs (not_own_of_foreignRow hc hs hr), Db.foreignFailure, hr, Option.bind_some]
    cases scanMessageRecord r <;> rfl

/-- Two databases with the same rows of a tenant answer its query alike exactly when they
fail alike on the other tenant's row it reads. Such a row looks absent exactly when it
can be decoded; if it cannot, the caller is told of an internal error. -/
theorem get_agrees_iff (h₁ : db₁.Constraints) (h₂ : db₂.Constraints) (h : Db.AgreeOn T db₁ db₂)
    (ht : Uuid.parse query.tenantID = some T) :
    (get db₁ query = get db₂ query ↔ db₁.foreignFailure T query = db₂.foreignFailure T query) ∧
    ∀ r, db₁.foreignRow T query = some r →
      (get db₁ query = .error .messageNotFound ↔ ∃ record, scanMessageRecord r = .ok record) ∧
      ((¬ ∃ record, scanMessageRecord r = .ok record) →
        ∃ e, get db₁ query = .error e ∧ publicError e = (.internal, "internal service error")) := by
  constructor
  · cases hs : query.selected with
    | none =>
      rw [get_agree_of_not_selected h₁ h₂ h ht hs]
      simp [Db.foreignFailure, Db.foreignRow, hs]
    | some id => exact get_eq_iff_of_selected h₁ h₂ h ht hs
  · intro r hr
    rw [get_of_foreignRow h₁ ht hr]
    cases hscan : scanMessageRecord r with
    | ok record => simp
    | error e =>
      obtain ⟨detail, rfl⟩ := scanMessageRecord_corrupt r e hscan
      simp [publicError, publicErrors, Error.invalidRequest, Error.unavailable]

/-! ## A row that another tenant's query discloses -/

/-- The UUID with a last digit and zeros before it. -/
def sampleUuid (d : Fin 16) : Uuid := ⟨List.replicate 31 0 ++ [d], by simp⟩

def sampleSnapshot : Snapshot where
  id := (sampleUuid 3).text
  status := .canceled
  scheduledAt := none
  dispatchDeadline := 2
  nextAttemptAt := none
  attemptCount := 0
  maxAttempts := 1
  dispatchGeneration := 0
  providerAcceptedAt := none
  providerMessageID := ""
  latestSequence := 1
  version := 0
  acceptedAt := 1
  updatedAt := 1
  lastFailure := none

theorem sampleSnapshot_columns : snapshotColumns sampleSnapshot := by decide +kernel

/-- A database with one message, of the second tenant. -/
def holding (key : String) : Db where
  tenants := [⟨(sampleUuid 1).text, .active⟩, ⟨(sampleUuid 2).text, .active⟩]
  messages := [{
    tenantID := (sampleUuid 2).text
    idempotencyKey := key
    payloadFingerprint := 0
    category := .critical
    priority := 0
    duplicateRiskPolicy := .avoidDuplicate
    snapshot := sampleSnapshot
    submission := none }]
  attempts := []
  events := []
  outbox := []

theorem holding_constraints {key : String} (hb : notBtrimEmpty key) (hv : varchar 255 key) :
    (holding key).Constraints where
  allowed r hr := by
    rw [List.mem_singleton.1 hr]
    exact ⟨hb, hv, rfl, Nat.zero_le _, rfl, sampleSnapshot_columns, nofun⟩
  uuids r hr := ⟨sampleUuid 3, sampleUuid 2, by rw [List.mem_singleton.1 hr]; exact ⟨rfl, rfl⟩⟩
  ids := List.nodup_singleton _
  keys := List.nodup_singleton _
  tenants r hr := ⟨_, List.mem_cons_of_mem _ (List.mem_singleton_self _), by rw [List.mem_singleton.1 hr]⟩

theorem agreeOn_holding (key key' : String) : Db.AgreeOn (sampleUuid 1) (holding key) (holding key') := by
  have hno {key : String} {r : MessageRow} (ht : r.tenantID = (sampleUuid 1).text) :
      r ∉ (holding key).messages := by
    intro hr
    rw [List.mem_singleton.1 hr] at ht
    exact absurd (Uuid.text_injective ht) (by decide)
  intro r ht
  exact ⟨fun hr => absurd hr (hno ht), fun hr => absurd hr (hno ht)⟩

/-- The first tenant asks for the second one's message. -/
def foreignQuery : GetEmailQuery := ⟨(sampleUuid 1).text, (sampleUuid 3).text, ""⟩

/-- The table allows an idempotency key with a leading blank, which the decoder refuses. -/
theorem get_discloses_foreign_row :
    (holding " a").Constraints ∧ (holding "a").Constraints ∧
    Db.AgreeOn (sampleUuid 1) (holding " a") (holding "a") ∧
    Uuid.parse foreignQuery.tenantID = some (sampleUuid 1) ∧
    get (holding " a") foreignQuery = .error (.corruptMessageRecord "persisted metadata is invalid") ∧
    get (holding "a") foreignQuery = .error .messageNotFound :=
  ⟨holding_constraints (by decide) (by decide), holding_constraints (by decide) (by decide),
    agreeOn_holding _ _, Uuid.parse_text _, by decide +kernel, by decide +kernel⟩

theorem get_agrees_iff_decodable : get (holding "a") foreignQuery = get (holding "b") foreignQuery :=
  (get_agrees_iff (holding_constraints (by decide) (by decide)) (holding_constraints (by decide) (by decide))
    (agreeOn_holding _ _) (Uuid.parse_text _)).1.2 (by decide +kernel)

end EmailQueryService

end MailService
