import MailService.Postgres.Tables
/-!
# Transactions

`TransactionManager.WithinTransaction` over a database that may fail at any point:
it stores what its callback made of the database or leaves it as it was. An error
does not tell which, since a commit may take effect without being reported.
-/
open Checks

namespace MailService

/-- `mapStorageError`; `cause` is the context error found in what the driver returned. -/
def mapStorageError (contextError : Option ContextError) (kind : String → Error) (operation : String)
    (cause : Option ContextError) : Error :=
  match contextError.or cause with
  | some e => .context e
  | none => kind operation

/-- The errors it returns for a statement of a callback, a begin or a commit. -/
def Error.ofStorage : Error → Bool
  | .context _ | .transaction _ | .transactionClock _ | .messageRepository _ | .deliveryAttemptRepository _
  | .deliveryEventRepository _ | .outboxRepository _ | .dueMessageRepository _
  | .outboxDeliveryRepository _ => true
  | _ => false

/-- What the deferred rollback joins to the error, if it fails; it has a context of its own. -/
def rollbackErrors : Option (Option ContextError) → List Error
  | none => []
  | some cause => [mapStorageError none .transaction "rollback" cause]

/-- What `WithinTransaction` may come to, with the state it leaves and the errors that
`errors.Join` collects. -/
inductive WithinTransaction {α : Type} (db : Db) (callback : Except Error (Db × α)) :
    Db → Except (List Error) α → Prop
  | committed {db' : Db} {a : α} : callback = .ok (db', a) → WithinTransaction db callback db' (.ok a)
  -- the connection was lost after the server had committed
  | unreported {db' : Db} {a : α} {contextError cause : Option ContextError}
      {rollback : Option (Option ContextError)} :
      callback = .ok (db', a) → WithinTransaction db callback db'
        (.error (mapStorageError contextError .transaction "commit" cause :: rollbackErrors rollback))
  | refused {error : Error} {rollback : Option (Option ContextError)} : callback = .error error →
      WithinTransaction db callback db (.error (error :: rollbackErrors rollback))
  -- the begin, a statement or the commit failed and nothing was stored
  | interrupted {cause : Error} {rollback : Option (Option ContextError)} : cause.ofStorage = true →
      WithinTransaction db callback db (.error (cause :: rollbackErrors rollback))

/-- A `ports.Transactor`. -/
structure Transactor (α : Type) where
  run : (Db → Except Error (Db × α)) → Db → Db × Except (List Error) α
  within : ∀ callback db, WithinTransaction db (callback db) (run callback db).1 (run callback db).2

/-- A begin, a commit and a rollback fail with `ErrTransaction` or with the context's error. -/
theorem mapStorageError_transaction (contextError : Option ContextError) (operation : String)
    (cause : Option ContextError) :
    mapStorageError contextError .transaction operation cause = .transaction operation ∨
      ∃ e, mapStorageError contextError .transaction operation cause = .context e := by
  unfold mapStorageError
  split
  · exact .inr ⟨_, rfl⟩
  · exact .inl rfl

theorem mem_rollbackErrors {rollback : Option (Option ContextError)} {e : Error}
    (h : e ∈ rollbackErrors rollback) :
    (∃ operation, e = .transaction operation) ∨ ∃ c, e = .context c := by
  cases rollback with
  | none => cases h
  | some cause =>
    obtain rfl := List.mem_singleton.1 h
    exact (mapStorageError_transaction none "rollback" cause).imp_left fun heq => ⟨_, heq⟩

namespace WithinTransaction

variable {α : Type} {db db' : Db} {callback : Except Error (Db × α)}

/-- The errors are of the database, but for what the callback returned. -/
theorem errors {errors : List Error} (h : WithinTransaction db callback db' (.error errors)) :
    ∀ e ∈ errors, e.ofStorage = true ∨ callback = .error e := by
  have hofStorage {e : Error} (he : (∃ operation, e = .transaction operation) ∨ ∃ c, e = .context c) :
      e.ofStorage = true := by
    obtain ⟨_, rfl⟩ | ⟨_, rfl⟩ := he <;> rfl
  have hjoined {cause : Error} {rollback : Option (Option ContextError)}
      (hcause : cause.ofStorage = true ∨ callback = .error cause) :
      ∀ e ∈ cause :: rollbackErrors rollback, e.ofStorage = true ∨ callback = .error e := by
    intro e he
    rcases List.mem_cons.1 he with rfl | he
    · exact hcause
    · exact .inl (hofStorage (mem_rollbackErrors he))
  cases h with
  | @unreported _ _ contextError cause _ _ =>
    exact hjoined (.inl (hofStorage
      ((mapStorageError_transaction contextError "commit" cause).imp_left fun h => ⟨_, h⟩)))
  | refused herror => exact hjoined (.inr herror)
  | interrupted hcause => exact hjoined (.inl hcause)

/-- A transaction leaves the state as it was, or as its callback made it. -/
theorem state {result : Except (List Error) α} (h : WithinTransaction db callback db' result) :
    db' = db ∨ ∃ a, callback = .ok (db', a) := by
  cases h with
  | committed hok => exact .inr ⟨_, hok⟩
  | unreported hok => exact .inr ⟨_, hok⟩
  | refused => exact .inl rfl
  | interrupted => exact .inl rfl

end WithinTransaction

/-- A transaction in which nothing fails. -/
def undisturbed {α : Type} (callback : Db → Except Error (Db × α)) (db : Db) : Db × Except (List Error) α :=
  match callback db with
  | .ok (db', a) => (db', .ok a)
  | .error e => (db, .error [e])

theorem within_undisturbed {α : Type} (callback : Db → Except Error (Db × α)) (db : Db) :
    WithinTransaction db (callback db) (undisturbed callback db).1 (undisturbed callback db).2 := by
  unfold undisturbed
  split
  · rename_i hok
    exact .committed hok
  · rename_i herror
    exact @WithinTransaction.refused _ _ _ _ none herror

/-- The transactor of a database that does not fail. -/
def Transactor.reliable {α : Type} : Transactor α := ⟨undisturbed, within_undisturbed⟩

end MailService
