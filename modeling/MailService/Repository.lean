import Mathlib.Data.List.Find
import MailService.Columns
/-!
# The repository over columns

`MessageRepository` as the statements see it: a table whose rows are columns, the
arguments and destinations by position. Its operations compute what the operations of
the database model compute on rows. The two checks of a returned version never fail.
-/
open Text Checks Sql Table Runs

namespace MailService

open Db

/-! ## The table -/

abbrev MessageTable := List (Row MessageColumn)

/-- The table of a state's messages. -/
def Db.columns (db : Db) : MessageTable := db.messages.map (·.columns)

def MessageConstraint.all : List MessageConstraint :=
  [.idempotencyKeyNotBlank, .payloadFingerprintSha256, .categoryValid, .priorityValid,
    .duplicateRiskPolicyValid, .statusValid, .scheduleBeforeDeadline, .retryBeforeDeadline,
    .deadlineAfterAcceptance, .timestampsOrdered, .attemptsValid, .countersNonnegative,
    .retryTimePresent, .dispatchGenerationPresent, .attemptPresent, .failureFieldsConsistent,
    .failureCategoryValid, .submissionFieldsConsistent]

theorem MessageConstraint.mem_all (c : MessageConstraint) : c ∈ all := by cases c <;> decide

instance (row : Row MessageColumn) : Decidable (Satisfies row) :=
  decidable_of_iff (∀ c ∈ MessageConstraint.all, (c.condition row).Passes)
    ⟨fun h c => h c c.mem_all, fun h c _ => h c⟩

namespace MessageTable

/-- `MessageRepository.get`. -/
def get (table : MessageTable) (selects : Row MessageColumn → Bool) : Except Error MessageRecord :=
  match table.find? selects with
  | some row => scanMessageColumns (select messageColumns row)
  | none => .error .messageNotFound

def getByID (table : MessageTable) (messageID : String) : Except Error MessageRecord := do
  check (isUUID messageID) (.invalidMessageRecord "message id must be a UUID")
  match uuidColumn messageID with
  | none => throw (.messageRepository "read message")
  | some id => table.get fun row => row .id = .text id

def getByIdempotencyKey (table : MessageTable) (tenantID idempotencyKey : String) :
    Except Error MessageRecord := do
  check (isUUID tenantID) (.invalidMessageRecord "tenant id must be a UUID")
  check (trimmedWithin idempotencyKey 255)
    (.invalidMessageRecord "idempotency key must contain 1..255 bytes without surrounding whitespace")
  match uuidColumn tenantID with
  | none => throw (.messageRepository "read message")
  | some tenant =>
    table.get fun row => row .tenantID = .text tenant ∧ row .idempotencyKey = .text idempotencyKey

/-- The table after `insertMessageQuery`, with the version it returns; no row if the idempotency key
is taken. -/
def insert (table : MessageTable) (tenants : List TenantRow) (arguments : List Value) :
    Except Error (Option (MessageTable × Value)) :=
  match insertMessageQuery arguments with
  | none => .error (.messageRepository "create message")
  | some row =>
    if ¬ Satisfies row then .error (.messageRepository "create message")
    else if table.any fun x => x .tenantID = row .tenantID ∧
      x .idempotencyKey = row .idempotencyKey then .ok none
    else if table.any fun x => x .id = row .id then .error .messageIDConflict
    else if ¬ tenants.any fun t => .text t.id = row .tenantID then
      .error (.messageRepository "create message")
    else .ok (some (table ++ [row], row .version))

/-- `MessageRepository.Create`. -/
def create (table : MessageTable) (tenants : List TenantRow) (record : MessageRecord) :
    Except Error (MessageTable × CreateMessageResult) := do
  record.validateForCreate
  let arguments ← createArguments record
  match ← table.insert tenants arguments with
  | some inserted =>
    check (inserted.2 = .int8 0) (.corruptMessageRecord "created message version is not zero")
    pure (inserted.1, ⟨.created, record⟩)
  | none =>
    let result ← resolveDuplicate record (table.getByIdempotencyKey record.tenantID record.idempotencyKey)
    pure (table, result)

/-- The table after `updateMessageQuery`, with the version it returns; no row if none is selected. -/
def update (table : MessageTable) (arguments : List Value) : Except Error (Option (MessageTable × Value)) :=
  if arguments[14]?.bind MessageColumn.id.store = none then .error (.messageRepository "save message")
  else
    match table.find? fun row => updateSelects arguments row with
    | none => .ok none
    | some row =>
      match updateMessageQuery arguments row with
      | none => .error (.messageRepository "save message")
      | some updated =>
        if ¬ Satisfies updated then .error (.messageRepository "save message")
        else .ok (some (table.map fun x => if updateSelects arguments x then updated else
          x, updated .version))

/-- `MessageRepository.Save`, with the version it returns. -/
def save (table : MessageTable) (m : Message) : Except Error (MessageTable × Nat) := do
  check (isUUID m.id) (.invalidMessageRecord "message id must be a UUID")
  let arguments ← updateArguments m.snapshot
  match ← table.update arguments with
  | none => throw .concurrentUpdate
  | some updated =>
    let persistedVersion ← Scan.int8 updated.2
    check (0 ≤ persistedVersion.toInt) (.corruptMessageRecord "negative version returned after save")
    check (persistedVersion.toInt.toNat = m.version + 1)
      (.corruptMessageRecord "unexpected version returned after save")
    pure (updated.1, persistedVersion.toInt.toNat)

end MessageTable

/-! ## Refinement -/

section Refinement

variable {db : Db} {record : MessageRecord} {m : Message} {r : MessageRow}

/-- The rows of a table are within their columns. -/
def Db.InColumns (db : Db) : Prop := ∀ r ∈ db.messages, r.Allowed ∧ databaseCounters r.snapshot = .ok ()

theorem find?_columns {p : Row MessageColumn → Bool} : db.columns.find? p =
    (db.messages.find? fun r => p r.columns).map (·.columns) := by
  rw [Db.columns, List.find?_map]
  rfl

theorem any_columns {p : Row MessageColumn → Bool} :
    db.columns.any p = db.messages.any fun r => p r.columns := by
  rw [Db.columns, List.any_map]
  rfl

theorem get_columns (h : db.InColumns) {p : Row MessageColumn → Bool} {q : MessageRow → Bool}
    (hpq : ∀ r, p r.columns = q r) : db.columns.get p = scanFound (db.messages.find? q) := by
  have hfun : (fun r : MessageRow => p r.columns) = q := funext hpq
  rw [MessageTable.get, find?_columns, hfun]
  cases hfound : db.messages.find? q with
  | none => rfl
  | some r =>
    obtain ⟨hallowed, hcounters⟩ := h r (List.mem_of_find?_eq_some hfound)
    exact scanMessageColumns_select hallowed hcounters

theorem getByID_columns (h : db.InColumns) (messageID : String) :
    db.columns.getByID messageID = db.getByID messageID := by
  unfold MessageTable.getByID getByID
  congr 1
  funext _
  cases uuidColumn messageID with
  | none => rfl
  | some id =>
    refine get_columns h fun r => ?_
    simp [MessageRow.columns]

theorem getByIdempotencyKey_columns (h : db.InColumns) (tenantID idempotencyKey : String) :
    db.columns.getByIdempotencyKey tenantID idempotencyKey =
      db.getByIdempotencyKey tenantID idempotencyKey := by
  unfold MessageTable.getByIdempotencyKey getByIdempotencyKey
  congr 1
  funext _
  congr 1
  funext _
  cases uuidColumn tenantID with
  | none => rfl
  | some tenant =>
    refine get_columns h fun r => ?_
    simp [MessageRow.columns]

theorem insert_columns (h : record.row.Typed) (hc : databaseCounters record.message.snapshot = .ok ()) :
    db.columns.insert db.tenants (select messageColumns record.row.columns) =
      (db.insertMessage record).map fun inserted =>
        inserted.map fun db' => (db'.columns, .int8 (Int64.ofNat record.message.version)) := by
  unfold MessageTable.insert insertMessage
  cases hquery : insertMessageQuery (select messageColumns record.row.columns) with
  | none =>
    cases hrow : createRow record with
    | none => rfl
    | some r =>
      have hnot : ¬ r.Allowed := by
        intro hallowed
        have := ((insert_refines h hc).2 ⟨r, hrow, hallowed, rfl⟩).1
        simp [hquery] at this
      simp only [hnot, not_false_eq_true, if_true]
      rfl
  | some row =>
    by_cases hsatisfies : Satisfies row
    · obtain ⟨r, hrow, hallowed, rfl⟩ := (insert_refines h hc).1 ⟨hquery, hsatisfies⟩
      obtain ⟨-, -, -, -, hsnapshot⟩ := createRow_eq_some hrow
      have hversion : r.columns .version = .int8 (Int64.ofNat record.message.version) := by
        rw [MessageRow.columns, hsnapshot]
        rfl
      have hkeys : (db.columns.any fun x => x .tenantID = r.columns .tenantID ∧
          x .idempotencyKey = r.columns .idempotencyKey) =
            (db.findKey r.tenantID r.idempotencyKey).isSome := by
        rw [any_columns, findKey, Bool.eq_iff_iff, List.any_eq_true, List.find?_isSome]
        simp [MessageRow.columns]
      have hids : (db.columns.any fun x => x .id = r.columns .id) =
          db.messages.any fun x => x.snapshot.id = r.snapshot.id := by
        rw [any_columns]
        simp [MessageRow.columns]
      have htenants : (db.tenants.any fun t => .text t.id = r.columns .tenantID) =
          db.tenants.any fun t => t.id = r.tenantID := by
        simp [MessageRow.columns]
      simp only [hrow, hsatisfies, hallowed, hkeys, hids, htenants, hversion]
      split_ifs <;> simp [Except.map, Db.columns]
    · simp only [hsatisfies, not_false_eq_true, if_true]
      cases hrow : createRow record with
      | none => rfl
      | some r =>
        have hnot : ¬ r.Allowed := by
          intro hallowed
          obtain ⟨hstored, hsat⟩ := (insert_refines h hc).2 ⟨r, hrow, hallowed, rfl⟩
          exact hsatisfies (Option.some.inj (hstored.symm.trans hquery) ▸ hsat)
        simp only [hnot, not_false_eq_true, if_true]
        rfl

theorem create_columns (hin : db.InColumns) (h : record.row.Typed) :
    db.columns.create db.tenants record = (db.create record).map fun created =>
    (created.1.columns, created.2) := by
  refine bind_map_congr fun _ hvalid => ?_
  have hversion : record.message.version = 0 := by
    simp only [MessageRecord.validateForCreate, unit_bind_eq_ok, check_eq_ok] at hvalid
    exact hvalid.2
  rw [createArguments_eq, bind_assoc]
  refine bind_map_congr fun _ hcounters => ?_
  rw [pure_bind, insert_columns h hcounters, hversion, getByIdempotencyKey_columns hin]
  cases db.insertMessage record with
  | error e => rfl
  | ok inserted =>
    cases inserted with
    | some db' => rfl
    | none =>
      show (resolveDuplicate record _ >>= _) = (resolveDuplicate record _ >>= _).map _
      exact bind_map_congr fun _ _ => rfl

/-- The arguments of an update, by position. -/
def Message.arguments (m : Message) : List Value :=
  select updateColumns m.snapshot.columns ++ [.text m.id, .int8 (Int64.ofNat m.version)]

/-- The update selects the row of the message, if it has the version the message was loaded with. -/
theorem updateSelects_columns {id : String} (hid : uuidColumn m.id = some id) (hm : m.version < maxInt64)
    (hr : databaseCounters r.snapshot = .ok ()) :
    updateSelects m.arguments r.columns ↔ r.snapshot.id = id ∧ r.snapshot.version = m.version := by
  have hstore : MessageColumn.id.store (.text m.id) = some (.text id) := (store_uuid rfl).2 ⟨id, hid, rfl⟩
  have hselect : updateSelects m.arguments r.columns ↔
      MessageColumn.id.store (.text m.id) = some (.text r.snapshot.id) ∧
        some (Value.int8 (Int64.ofNat m.version)) = some (.int8 (Int64.ofNat r.snapshot.version)) := Iff.rfl
  rw [hselect, hstore]
  have hle := (databaseCounters_eq_ok.1 hr).2.2.1
  constructor
  · rintro ⟨htext, hnumber⟩
    refine ⟨by simpa using htext.symm, ?_⟩
    have hsame : (Int64.ofNat m.version).toInt = (Int64.ofNat r.snapshot.version).toInt := by
      rw [Value.int8.inj (Option.some.inj hnumber)]
    rw [toInt_bigint hm.le, toInt_bigint hle] at hsame
    omega
  · rintro ⟨rfl, hversion⟩
    exact ⟨rfl, by rw [hversion]⟩

section Update

variable {id : String} (hin : db.InColumns) (hid : uuidColumn m.id = some id) (hlt : m.version < maxInt64)

include hin hid hlt

theorem find?_updateSelects : (db.columns.find? fun row => updateSelects m.arguments row) =
    (db.messages.find? fun r => r.snapshot.id = id ∧ r.snapshot.version = m.version).map (·.columns) := by
  rw [find?_columns]
  congr 1
  exact List.find?_congr fun r hr => decide_eq_decide.2 (updateSelects_columns hid hlt (hin r hr).2)

/-- The update gives the selected row its columns, and no other row: ids are unique. -/
theorem map_updateSelects (hn : db.messageIDs.Nodup) (hr : r ∈ db.messages) (hrid : r.snapshot.id = id) :
    (db.columns.map fun x => if updateSelects m.arguments x then (updatedRow r m.snapshot).columns else x) =
      (db.messages.map fun x => if x.snapshot.id = id ∧ x.snapshot.version = m.version
        then updatedRow x m.snapshot else x).map (·.columns) := by
  rw [Db.columns, List.map_map, List.map_map]
  refine List.map_congr_left fun x hx => ?_
  have hselects := updateSelects_columns hid hlt (hin x hx).2
  by_cases hsame : x.snapshot.id = id ∧ x.snapshot.version = m.version
  · obtain rfl : x = r := List.inj_on_of_nodup_map hn hx hr (hsame.1.trans hrid.symm)
    simp [hselects, hsame]
  · simp [hselects, hsame]

theorem update_of_none
    (hrow : (db.messages.find? fun r => r.snapshot.id = id ∧ r.snapshot.version = m.version) = none) :
    db.columns.update m.arguments = .ok none := by
  have hstore : m.arguments[14]?.bind MessageColumn.id.store = some (.text id) :=
    (store_uuid rfl).2 ⟨id, hid, rfl⟩
  simp only [MessageTable.update, hstore, find?_updateSelects hin hid hlt, hrow, Option.map_none,
    reduceCtorEq, if_false]

theorem update_of_some (hn : db.messageIDs.Nodup) (h : m.snapshot.Typed)
    (hc : databaseCounters m.snapshot = .ok ())
    (hrow : (db.messages.find? fun r => r.snapshot.id = id ∧ r.snapshot.version = m.version) = some r) :
    db.columns.update m.arguments = if (updatedRow r m.snapshot).Allowed then
      .ok (some ((db.messages.map fun x => if x.snapshot.id = id ∧ x.snapshot.version = m.version
        then updatedRow x m.snapshot else x).map (·.columns), .int8 (Int64.ofNat (m.version + 1))))
      else .error (.messageRepository "save message") := by
  have hstore : m.arguments[14]?.bind MessageColumn.id.store = some (.text id) :=
    (store_uuid rfl).2 ⟨id, hid, rfl⟩
  obtain ⟨hrid, hv⟩ : r.snapshot.id = id ∧
      r.snapshot.version = m.version := by simpa using List.find?_some hrow
  have hmem : r ∈ db.messages := List.mem_of_find?_eq_some hrow
  have hupdate {row : Row MessageColumn} :
      updateMessageQuery m.arguments r.columns = some row ∧ Satisfies row ↔
        (updatedRow r m.snapshot).Allowed ∧ row = (updatedRow r m.snapshot).columns :=
    update_refines (hin r hmem).1 h hc (hv ▸ hlt)
  have hversion : (updatedRow r m.snapshot).columns .version = .int8 (Int64.ofNat (m.version + 1)) := by
    rw [← hv]
    rfl
  simp only [MessageTable.update, hstore, find?_updateSelects hin hid hlt, hrow, Option.map_some,
    reduceCtorEq, if_false]
  cases hquery : updateMessageQuery m.arguments r.columns with
  | none =>
    have hnot : ¬ (updatedRow r m.snapshot).Allowed := by
      intro hallowed
      have hsome := (hupdate.2 ⟨hallowed, rfl⟩).1
      rw [hquery] at hsome
      cases hsome
    simp [hnot]
  | some row =>
    by_cases hsatisfies : Satisfies row
    · obtain ⟨hallowed, rfl⟩ := hupdate.1 ⟨hquery, hsatisfies⟩
      simp [hsatisfies, hallowed, hversion, map_updateSelects hin hid hlt hn hmem hrid]
    · have hnot : ¬ (updatedRow r m.snapshot).Allowed := by
        intro hallowed
        obtain ⟨hsome, hsat⟩ := hupdate.2 ⟨hallowed, rfl⟩
        exact hsatisfies (Option.some.inj (hsome.symm.trans hquery) ▸ hsat)
      simp [hsatisfies, hnot]

end Update

theorem save_columns (hin : db.InColumns) (hn : db.messageIDs.Nodup) (h : m.snapshot.Typed) :
    db.columns.save m = (db.save m).map fun db' => (db'.columns, m.version + 1) := by
  refine bind_map_congr fun _ _ => ?_
  rw [updateArguments_eq, bind_assoc]
  refine bind_map_congr fun _ hlt => ?_
  rw [check_eq_ok] at hlt
  rw [bind_assoc]
  refine bind_map_congr fun _ hcounters => ?_
  rw [pure_bind]
  change (db.columns.update m.arguments >>= _) = _
  cases hid : uuidColumn m.id with
  | none =>
    have hstore : m.arguments[14]?.bind MessageColumn.id.store = none := by
      refine Option.eq_none_iff_forall_ne_some.2 fun v hv => ?_
      obtain ⟨id, hsome, -⟩ := (store_uuid rfl).1 (show MessageColumn.id.store (.text m.id) = some v from hv)
      rw [hid] at hsome
      cases hsome
    rw [MessageTable.update, if_pos hstore]
    rfl
  | some id =>
    cases hrow : db.messages.find? fun r => r.snapshot.id = id ∧ r.snapshot.version = m.version with
    | none =>
      rw [update_of_none hin hid hlt hrow]
      simp only [hrow]
      rfl
    | some r =>
      have hnumber : (Int64.ofNat (m.version + 1)).toInt = (m.version + 1 : Nat) := toInt_bigint hlt
      have hnonneg : 0 ≤ (Int64.ofNat (m.version + 1)).toInt := by omega
      have hnext : (Int64.ofNat (m.version + 1)).toInt.toNat = m.version + 1 := by omega
      rw [update_of_some hin hid hlt hn h hcounters hrow]
      simp only [hrow]
      split_ifs with hallowed
      · simp only [ok_bind, Scan.int8, check_bind hnonneg, check_bind hallowed, hnext]
        rfl
      · simp only [check, hallowed, if_false]
        rfl

/-- The rows of a reached state are within their columns. -/
theorem Reached.inColumns {E : Env} {h : History} {s : System} (hr : Reached E h s) : s.db.InColumns := by
  intro r hmem
  have hsound := (Reached.ok hr).sound.rows r hmem
  obtain ⟨hsequence, hgeneration, hattempts⟩ := hsound.counted.fits
  have hversion := hsound.version
  have hmax := hsound.counted.maxAttempts_le
  have h32 : 100 ≤ maxInt32 := by decide
  exact ⟨hsound.allowed, databaseCounters_eq_ok.2 ⟨hgeneration, hsequence, by omega, hattempts, by omega⟩⟩

section New

variable {p : PreparedSubmission} {m : Message} {now : Time}
  (hm : Message.new (submissionParams p now) = .ok m)

include hm

/-- A new message has no failure. -/
theorem Message.new_failure : ∀ f ∈ m.lastFailure, f.validate = .ok () := by
  intro f hf
  exact ((Message.new_moved hm).1.lastFailure f hf).resolve_left (Option.not_mem_none f)

/-- The record of a new message holds values of the source's types. -/
theorem PreparedSubmission.record_typed (hvalid : (p.record m).validate = .ok ())
    (hversion : p.resolved.version < 2 ^ 32) : (p.record m).row.Typed := by
  obtain ⟨-, -, hcategory, hpriority, hpolicy, -, -⟩ := record_validate_eq_ok.1 hvalid
  refine ⟨⟨Status.ofText_text (valid_of_edge (Message.new_moved hm).1.edge).2, fun f hf => ?_⟩,
    EmailCategory.ofText_text hcategory, DuplicateRiskPolicy.ofText_text hpolicy,
    hpriority.trans_lt (by decide), fun d hd => ?_⟩
  · exact FailureCategory.ofText_text (Failure.validate_eq_ok.1 (Message.new_failure hm f hf)).1
  · obtain rfl : p.details = d := Option.some.inj hd
    exact hversion

end New

/-- In every state that the service reaches, the statements over columns do what the operations on rows do. -/
theorem repository_refines {E : Env} {h : History} {s : System} (hr : Reached E h s) :
    (∀ record : MessageRecord, record.row.Typed → s.db.columns.create s.db.tenants record =
        (s.db.create record).map fun created => (created.1.columns, created.2)) ∧
      (∀ messageID, s.db.columns.getByID messageID = s.db.getByID messageID) ∧
      (∀ tenantID idempotencyKey, s.db.columns.getByIdempotencyKey tenantID idempotencyKey =
        s.db.getByIdempotencyKey tenantID idempotencyKey) ∧
      ∀ m : Message, m.snapshot.Typed → s.db.columns.save m =
        (s.db.save m).map fun db => (db.columns, m.version + 1) := by
  have hin := Reached.inColumns hr
  have hids : s.db.messageIDs.Nodup := (Reached.ok hr).sound.keyed.ids
  exact ⟨fun _ h => create_columns hin h, getByID_columns hin, getByIdempotencyKey_columns hin,
    fun _ h => save_columns hin hids h⟩

/-- A message is created in the columns, and is read back from them once it is accepted. -/
theorem repository_refines_accepted : ∃ E h s created record, Reached E h s ∧
    s.db.columns.create s.db.tenants record = .ok (Db.columns created, ⟨.created, record⟩) ∧
    ∃ h' s', Reached E h' s' ∧ s'.db.columns = created.columns ∧
      s'.db.columns.getByID record.message.id = s'.db.getByID record.message.id := by
  obtain ⟨hm, hlen, hobject, hstored⟩ := Sample.metadata_empty
  obtain ⟨hash, canonical, m, row, -, -, -, hp, ha⟩ :=
    Sample.exists_accepted (.inr rfl) hm hlen hobject hstored
  have htyped := PreparedSubmission.record_typed ha.new ha.valid (by decide : 1 < 2 ^ 32)
  have hcreate := (repository_refines (Sample.reached_start hash)).1 _ htyped
  rw [ha.created] at hcreate
  have hr := Reached.accepts (Sample.reached_start hash) rfl hp ha
  exact ⟨_, _, _, _, _, Sample.reached_start hash, hcreate, _, _, hr, rfl, (repository_refines hr).2.1 _⟩

end Refinement

end MailService
