import MailService.Limits
import MailService.Origins
/-!
# What comes back from storage

A `jsonb` column gives an object back with its own order and spacing. The metadata that
`Submit` wrote compactly is longer when it is read: at the edge of its limit, reading
refuses what writing accepted.
-/
open Text Checks Table Runs

namespace MailService

open Db

/-! ## Reading a message -/

/-- The text that the metadata's column returns is within the limit that reading checks. -/
def MessageRow.Short (r : MessageRow) : Prop := ∀ d ∈ r.submission, len d.metadata ≤ 4 * 1024

section Reading

variable {E : Env} {h : History} {s : System} {r : MessageRow} {now : Time} {batchSize : Nat}
  {locked : String → Bool}

/-- The idempotency key of a stored message finds its row. -/
theorem Reached.getByIdempotencyKey_eq_scan (hr : Reached E h s) (hmem : r ∈ s.db.messages) :
    s.db.getByIdempotencyKey r.tenantID r.idempotencyKey = scanMessageRecord r := by
  have hsound := (Reached.ok hr).sound
  obtain ⟨-, htenant⟩ := hsound.keyed.canonical r hmem
  have hkey := (hsound.rows r hmem).checked.idempotencyKey
  rw [getByIdempotencyKey, check_bind (isUUID_of_uuidColumn htenant), check_bind hkey, htenant]
  exact congrArg scanFound (findKey_of_mem (Reached.keys hr) hmem)

theorem scanMessageRecord_iff : (∃ record, scanMessageRecord r = .ok record) ↔ r.Loadable := by
  simp only [scanMessageRecord_eq_ok, exists_and_left, exists_eq, and_true]

theorem scanMessageRecord_eq_error (hload : ¬ r.Loadable) :
    ∃ detail, scanMessageRecord r = .error (.corruptMessageRecord detail) := by
  cases hscan : scanMessageRecord r with
  | ok record => exact absurd (scanMessageRecord_iff.1 ⟨record, hscan⟩) hload
  | error e =>
    obtain ⟨detail, rfl⟩ := scanMessageRecord_corrupt r e hscan
    exact ⟨detail, rfl⟩

/-- A batch is locked exactly if each of its rows can be read. -/
theorem lockDue_iff {db : Db} (hnow : now ≠ 0) (hsize : batchSize ≠ 0 ∧ batchSize ≤ 1000) :
    (∃ batch, db.lockDue now batchSize locked = .ok batch) ↔
    ∀ r ∈ db.dueRows now batchSize locked, r.Loadable := by
  rw [lockDue, check_bind hsize]
  constructor
  · rintro ⟨batch, hbatch⟩
    obtain ⟨records, hrecords, -⟩ := bind_eq_ok.1 hbatch
    exact (mapM_eq_ok (fun _ _ hscan => (scanMessageRecord_eq_ok.1 hscan).symm) hrecords).2
  · intro hload
    rw [mapM_of_forall fun r hr => scanMessageRecord_eq_ok.2 ⟨hload r hr, rfl⟩, ok_bind,
      check_bind (.inr hnow)]
    exact ⟨_, rfl⟩

/-- A row that cannot be read ends the run with an error that ends the process. -/
theorem runOnce_corrupt {L : Libs} {db : Db} (hnow : now ≠ 0) (hsize : batchSize ≠ 0 ∧ batchSize ≤ 1000)
    (hmem : r ∈ db.dueRows now batchSize locked) (hload : ¬ r.Loadable) :
    ∃ detail, runOnce L batchSize locked now db = .error (.corruptMessageRecord detail) := by
  have hlock := mt (lockDue_iff hnow hsize).1 fun hall => hload (hall r hmem)
  have hfails : Fails (fun e => ∃ detail, e = Error.corruptMessageRecord detail)
      (db.lockDue now batchSize locked) := by
    rw [lockDue, check_bind hsize]
    refine Fails.bind (fails_mapM scanMessageRecord_corrupt) fun _ _ => ?_
    rw [check_bind (.inr hnow)]
    exact fails_pure
  cases hresult : db.lockDue now batchSize locked with
  | ok batch => exact absurd ⟨batch, hresult⟩ hlock
  | error e =>
    obtain ⟨detail, rfl⟩ := hfails e hresult
    rw [runOnce, hresult]
    exact ⟨detail, rfl⟩

/-- A stored message can be read exactly if the text that its metadata's column returns is within
the limit; a message above it ends every scheduler run that finds it due, and nothing else does. -/
theorem stored_message_readable_iff (hr : Reached E h s) (hprecise : Precise h)
    (hc : E.L.CollisionFree E.ids) :
    (∀ r ∈ s.db.messages, ((∃ record, s.db.getByID r.snapshot.id = .ok record) ∧
        (∃ record, s.db.getByIdempotencyKey r.tenantID r.idempotencyKey = .ok record) ∧
        ∃ record, scanMessageRecord r = .ok record) ↔ r.Short) ∧
    ∀ now batchSize locked, E.L.Stores now → batchSize ≠ 0 ∧ batchSize ≤ 1000 →
      ((∃ batch, s.db.lockDue now batchSize locked = .ok batch) ↔
        ∀ r ∈ s.db.dueRows now batchSize locked, r.Short) ∧
      ((∃ e, runOnce E.L batchSize locked now s.db = .error e ∧ isFatalSchedulerError e = true) ↔
        ∃ r ∈ s.db.dueRows now batchSize locked, ¬ r.Short) := by
  have hload : ∀ r ∈ s.db.messages, r.Loadable ↔ r.Short :=
    fun r hmem => Reached.loadable_iff hr hprecise hmem
  refine ⟨fun r hmem => ?_, fun now batchSize locked hclock hsize => ?_⟩
  · rw [getByID_eq_scan (Reached.ok hr).sound.keyed hmem, Reached.getByIdempotencyKey_eq_scan hr hmem,
      scanMessageRecord_iff, hload r hmem, and_self, and_self]
  have hdue : ∀ r ∈ s.db.dueRows now batchSize locked, r.Loadable ↔ r.Short :=
    fun r hin => hload r (mem_dueRows hin).1
  constructor
  · rw [lockDue_iff hclock.notZero hsize]
    exact forall₂_congr hdue
  · constructor
    · -- a batch whose rows can all be read is advanced
      rintro ⟨e, hrun, -⟩
      by_contra hnone
      have hshort : ∀ r ∈ s.db.dueRows now batchSize locked, r.Loadable :=
        fun r hin => (hdue r hin).2 (by_contra fun hlong => hnone ⟨r, hin, hlong⟩)
      rw [runOnce_writable (Reached.ok hr).sound hc hclock.notZero hsize hshort fun r hin =>
        Reached.due_writable hr hc hclock (mem_dueRows hin).1 (mem_dueRows hin).2] at hrun
      cases hrun
    · rintro ⟨r, hin, hlong⟩
      obtain ⟨detail, hrun⟩ := runOnce_corrupt hclock.notZero hsize hin (mt (hdue r hin).1 hlong)
      exact ⟨_, hrun, rfl⟩

end Reading

/-! ## A message that cannot be read -/

namespace Sample

theorem precise {c : SubmitEmailCommand} {result : SubmitEmailResult} {s : System} :
    Precise [(.submit c now result, s)] := by
  have hnow : truncate now = now := by decide
  intro _ _ _ _ hmem
  rcases List.mem_singleton.1 hmem with ⟨rfl, rfl⟩
  exact hnow

theorem newRow_short {p : PreparedSubmission} {m : Message} {row : MessageRow} {id stored : String}
    (hrow : row = p.newRow m id stored) (hlen : len stored ≤ 4 * 1024) : row.Short := by
  intro d hd
  rw [hrow] at hd
  rw [← Option.mem_some_iff.1 hd]
  exact hlen

def letters : List String :=
  ["a", "b", "c", "d", "e", "f", "g", "h", "i", "j", "k", "l", "m", "n", "o", "p"]

def wideText : String := .ofList (List.replicate 248 'v')

/-- As many entries as are allowed, just within the limit of their text. -/
def wide : StringMap := ⟨letters.map fun k => (k, wideText), by rw [List.map_map]; decide⟩

def wideMembers : List (String × Json.Value) := letters.map fun k => (k, .str wideText)

theorem wideText_plain : len wideText = 248 ∧ hasLineBreak wideText = false ∧ '\x00' ∉ wideText.toList := by
  unfold hasLineBreak containsAny wideText
  rw [len_ofList, String.toList_ofList]
  have hchars : (List.replicate 248 'v').all (fun c => c ≠ '\x00') = true := by decide +kernel
  refine ⟨by decide +kernel, by decide +kernel, fun hzero => ?_⟩
  simpa using List.all_eq_true.1 hchars _ hzero

theorem quote_wideText {st : Json.Style} (hst : Json.escapeChar st 'v' = ['v']) :
    String.utf8Len (Json.quote st wideText) = 250 := by
  have hchars : ∀ c ∈ wideText.toList, c = 'v' := by
    intro c hc
    unfold wideText at hc
    rw [String.toList_ofList] at hc
    exact List.eq_of_mem_replicate hc
  have hescape : Json.escape st wideText.toList = wideText.toList :=
    Json.escape_eq_self fun c hc => hchars c hc ▸ hst
  have hquote : '"'.utf8Size = 1 := by decide
  rw [Json.quote, hescape, String.utf8Len_cons, String.utf8Len_append, ← len_eq_utf8Len, wideText_plain.1,
    String.utf8Len_cons, String.utf8Len_nil, hquote]

/-- The length of the object's text, in whatever order its members are written. -/
theorem len_wide {st : Json.Style} {members : List (String × Json.Value)} (hp : members.Perm wideMembers)
    (hst : Json.escapeChar st 'v' = ['v']) (hletters : ∀ k ∈ letters, String.utf8Len (Json.quote st k) = 3) :
    len (Json.marshal st (.obj members)) + String.utf8Len (Json.separator st ',') =
      16 * (253 + String.utf8Len (Json.separator st ':') + String.utf8Len (Json.separator st ',')) + 2 := by
  have hlength : members.length = 16 := hp.length_eq
  have huniform := @Json.utf8Len_renderMembers_uniform st 3 250 members
      (by rintro rfl; cases hlength) fun m hm => by
    obtain ⟨k, hk, rfl⟩ := List.mem_map.1 (hp.mem_iff.1 hm)
    exact ⟨hletters k hk, quote_wideText hst⟩
  have hbrace : '{'.utf8Size = 1 := by decide
  rw [hlength] at huniform
  rw [Json.marshal, len_ofList, Json.render, String.utf8Len_cons, hbrace]
  omega

theorem wide_nodup : (wideMembers.map Prod.fst).Nodup := by
  rw [wideMembers, List.map_map]
  decide

theorem wide_value : wide.value = .obj (Json.sortMembers Json.goOrder wideMembers) := by
  rw [StringMap.value, wide, List.map_map]
  rfl

/-- The object is accepted with 4081 bytes, and its column returns 4112. -/
theorem wide_stored :
    ∃ text stored, normalizeMetadata (some wide) = .ok text ∧ (len text ≠ 0 ∧ len text ≤ 4 * 1024) ∧
    isJSONObject text = true ∧ jsonbColumn text = some stored ∧ ¬ len stored ≤ 4 * 1024 := by
  have hletters : ∀ k ∈ letters, validRegisteredKey k 64 = true ∧ String.utf8Len (Json.quote .go k) = 3 ∧
      String.utf8Len (Json.quote .jsonb k) = 3 ∧ '\x00' ∉ k.toList := by decide
  have hchars : Json.escapeChar .go 'v' = ['v'] ∧ Json.escapeChar .jsonb 'v' = ['v'] := by decide
  have hseparators : String.utf8Len (Json.separator .go ',') = 1 ∧
    String.utf8Len (Json.separator .go ':') = 1 ∧
      String.utf8Len (Json.separator .jsonb ',') = 2 ∧
      String.utf8Len (Json.separator .jsonb ':') = 2 := by decide
  have hgo := len_wide (@Json.sortMembers_perm _ Json.goOrder _ _ wide_nodup) hchars.1
    fun k hk => (hletters k hk).2.1
  have hmetadata : normalizeMetadata (some wide) = .ok (Json.marshal .go wide.value) := by
    have hentries : ∀ e ∈ wide.entries, validRegisteredKey e.1 64 ∧ len e.2 ≤ 256 ∧
        hasLineBreak e.2 = false := by
      intro e he
      obtain ⟨k, hk, rfl⟩ := List.mem_map.1 he
      exact ⟨(hletters k hk).1, by rw [wideText_plain.1]; decide, wideText_plain.2.1⟩
    have hcount : wide.entries.length ≤ 16 := by simp [wide, letters]
    simp only [normalizeMetadata, check_bind_eq_ok, pure_eq_ok, and_true]
    refine ⟨hcount, hentries, ?_⟩
    rw [wide_value]
    omega
  obtain ⟨hlen, hobject⟩ := normalizeMetadata_valid hmetadata
  have hparse := normalizeMetadata_parse hmetadata
  have hnumeric : (Json.parse (Json.marshal .go wide.value)).bind Json.numeric =
      some (metadataValue (some wide)) := by
    rw [hparse, Option.bind_some, numeric_metadataValue]
  have hvalue : metadataValue (some wide) = .obj (Json.sortMembers Json.goOrder wideMembers) := wide_value
  have hplain : Json.anyString (·.toList.contains '\x00') (metadataValue (some wide)) = false := by
    rw [hvalue, Json.anyString, anyStringMembers_eq_false]
    intro m hm
    obtain ⟨k, hk, rfl⟩ := List.mem_map.1 (Json.mem_sortMembers hm)
    exact ⟨by simpa using (hletters k hk).2.2.2, by simpa [Json.anyString] using wideText_plain.2.2⟩
  refine ⟨_, _, hmetadata, hlen, hobject, jsonbColumn_eq_some.2 ⟨_, hnumeric, hplain, rfl⟩, ?_⟩
  -- the column lists the same members, each one blank longer
  have hcanon : Json.canon Json.jsonbOrder (metadataValue (some wide)) =
    .obj (Json.sortMembers Json.jsonbOrder
      (Json.sortMembers Json.goOrder wideMembers)) := by
    rw [hvalue, Json.canon, Json.canonMembers_eq_map,
      (List.map_congr_left fun m hm => ?_).trans (List.map_id _)]
    obtain ⟨k, -, rfl⟩ := List.mem_map.1 (Json.mem_sortMembers hm)
    rfl
  have hperm := @Json.sortMembers_perm _ Json.goOrder _ _ wide_nodup
  have hjsonb := len_wide
    ((@Json.sortMembers_perm _ Json.jsonbOrder _ _ ((hperm.map Prod.fst).nodup_iff.2 wide_nodup)).trans
    hperm) hchars.2 fun k hk => (hletters k hk).2.2.1
  rw [hcanon]
  omega

end Sample

/-- A message whose time has come, with little metadata. -/
theorem stored_message_readable_iff_empty :
    ∃ E h s, Reached E h s ∧ Precise h ∧ (∃ r ∈ s.db.messages, r.Short ∧
    ∃ record, s.db.getByID r.snapshot.id = .ok record) := by
  obtain ⟨hm, hlen, hobject, hstored⟩ := Sample.metadata_empty
  obtain ⟨hash, canonical, m, row, hc, -, hrow, hp, ha⟩ :=
    Sample.exists_accepted (.inr rfl) hm hlen hobject hstored
  have hr := Reached.accepts (Sample.reached_start hash) rfl hp ha
  have hshort : row.Short := fun d hd => by
    rw [hrow] at hd
    rw [← Option.mem_some_iff.1 hd]
    exact hlen.2
  exact ⟨_, _, _, hr, Sample.precise, row, mem_acceptedDb, hshort,
    (((stored_message_readable_iff hr Sample.precise hc).1 row mem_acceptedDb).2 hshort).1⟩

/-- A submission whose metadata is 4081 bytes is accepted; the row can then be read in no way, and
ends the scheduler. -/
theorem stored_message_unreadable :
    ∃ E h s now r, Reached E h s ∧ Precise h ∧ E.L.CollisionFree E.ids ∧ E.L.Stores now ∧
    r ∈ s.db.messages ∧ (∃ detail, scanMessageRecord r = .error (.corruptMessageRecord detail)) ∧
    (∃ detail, s.db.getByID r.snapshot.id = .error (.corruptMessageRecord detail)) ∧
    ∃ e, runOnce E.L 10 (fun _ => false) now s.db = .error e ∧ isFatalSchedulerError e = true := by
  obtain ⟨text, stored, hm, hlen, hobject, hstored, hlong⟩ := Sample.wide_stored
  obtain ⟨hash, canonical, m, row, hc, hmessage, hrow, hp, ha⟩ :=
    Sample.exists_accepted (.inr rfl) hm hlen hobject hstored
  have hr := Reached.accepts (Sample.reached_start hash) rfl hp ha
  have hclock := Sample.stores hash Sample.later (by simp)
  have hload : ¬ row.Loadable := fun hload => by
    have hshort := (Reached.loadable_iff hr Sample.precise mem_acceptedDb).1 hload
    rw [hrow] at hshort
    exact hlong (hshort _ rfl)
  have hscan := scanMessageRecord_eq_error hload
  have hdue : (acceptedDb (Sample.libs hash) Sample.now Sample.start.db
    (Sample.prepared (some Sample.later) text canonical) m
      row).isDue Sample.later row = true := by
    have htime : truncate Sample.later ≤ Sample.later := by decide
    rw [hrow, hmessage]
    exact isDue_iff.2 ⟨⟨_, List.mem_singleton.2 rfl, rfl, rfl⟩, .inl ⟨rfl, _, rfl, htime⟩⟩
  have hmem : row ∈ (acceptedDb (Sample.libs hash) Sample.now Sample.start.db
      (Sample.prepared (some Sample.later) text canonical) m row).dueRows Sample.later 10 fun _ => false := by
    rw [dueRows_singleton rfl hdue]
    exact List.mem_singleton.2 rfl
  have hsize : 10 ≠ 0 ∧ 10 ≤ 1000 := by decide
  obtain ⟨detail, hrun⟩ := @runOnce_corrupt _ _ _ _ (Sample.libs hash) _ hclock.notZero hsize hmem hload
  refine ⟨_, _, _, Sample.later, row, hr, Sample.precise, hc, hclock, mem_acceptedDb, hscan, ?_, _, hrun, rfl⟩
  rw [getByID_eq_scan (Reached.ok hr).sound.keyed mem_acceptedDb]
  exact hscan

end MailService
