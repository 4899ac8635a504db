import InternalTransfers.Models.Errors
import InternalTransfers.Models.Records
import Mathlib.Logic.Function.Basic

/-! # The PostgreSQL store as the repositories use it

Committed rows, the row locks of `SELECT ... FOR UPDATE` held by each session until its
commit or rollback, the writes each open transaction has made, and the `transaction_id`
sequence. Reads inside a transaction see the committed rows with the session's own writes
on top (READ COMMITTED). The CHECK and FOREIGN KEY constraints are not enforced here: the
invariants of the ledger are proved from the service's own checks, and `Ledger.Constrained`
shows that no statement of the service breaks them.

Every statement takes an `Outcome` chosen by the environment: it runs, or the driver
returns an error instead. `lost` is a statement the server carried out before the error
reached the client; it matters for a commit and for an insert outside a transaction, where
no rollback follows.
-/
namespace InternalTransfers

/-- The committed contents of the `accounts` and `transactions` tables. -/
structure Ledger where
  accounts : Int → Option ℚ
  transactions : List Transaction

/-- The writes of one open transaction, in statement order. -/
structure TxWrites where
  balances : List (Int × ℚ)
  inserted : List Transaction

def TxWrites.empty : TxWrites := ⟨[], []⟩

def Ledger.apply (L : Ledger) (w : TxWrites) : Ledger where
  accounts := w.balances.foldl (fun acc p => Function.update acc p.1 (some p.2)) L.accounts
  transactions := L.transactions ++ w.inserted

@[simp] theorem Ledger.apply_empty (L : Ledger) : L.apply .empty = L := by
  simp [Ledger.apply, TxWrites.empty]

structure Db where
  ledger : Ledger
  locks : Int → Option Nat
  pending : Nat → TxWrites
  nextID : Int

/-- The store of a fresh database: no rows, no open transaction, the sequence at 1. -/
def Db.empty : Db := ⟨⟨fun _ => none, []⟩, fun _ => none, fun _ => .empty, 1⟩

inductive Outcome
  | ok
  | fail (e : GoError)
  | lost (e : GoError)
  deriving DecidableEq, Repr

def Outcome.failure : Outcome → Option GoError
  | .ok => none
  | .fail e => some e
  | .lost e => some e

namespace Db

/-- What session `me` reads: the committed rows under its own writes. -/
def view (db : Db) (me : Nat) : Ledger := db.ledger.apply (db.pending me)

def heldByOther (db : Db) (me : Nat) (id : Int) : Bool :=
  match db.locks id with
  | some j => j != me
  | none => false

def lock (db : Db) (me : Nat) (id : Int) : Db :=
  { db with locks := Function.update db.locks id (some me) }

def write (db : Db) (me : Nat) (id : Int) (b : ℚ) : Db :=
  { db with
    pending := Function.update db.pending me ⟨(db.pending me).balances ++ [(id, b)], (db.pending me).inserted⟩ }

def insert (db : Db) (me : Nat) (t : Transaction) : Db :=
  { db with
    pending := Function.update db.pending me ⟨(db.pending me).balances, (db.pending me).inserted ++ [t]⟩ }

/-- The end of a transaction: its row locks are released and its writes dropped. -/
def release (db : Db) (me : Nat) : Db :=
  { db with locks := fun id => if db.locks id = some me then none else db.locks id
            pending := Function.update db.pending me .empty }

/-- `tx.Commit` applied by the server. -/
def commit (db : Db) (me : Nat) : Db :=
  { db.release me with ledger := db.ledger.apply (db.pending me) }

variable (db : Db) (me : Nat)

@[simp] theorem lock_ledger (id : Int) : (db.lock me id).ledger = db.ledger := rfl
@[simp] theorem lock_pending (id : Int) : (db.lock me id).pending = db.pending := rfl
@[simp] theorem lock_nextID (id : Int) : (db.lock me id).nextID = db.nextID := rfl
@[simp] theorem write_ledger (id : Int) (b : ℚ) : (db.write me id b).ledger = db.ledger := rfl
@[simp] theorem write_locks (id : Int) (b : ℚ) : (db.write me id b).locks = db.locks := rfl
@[simp] theorem write_nextID (id : Int) (b : ℚ) : (db.write me id b).nextID = db.nextID := rfl
@[simp] theorem insert_ledger (t : Transaction) : (db.insert me t).ledger = db.ledger := rfl
@[simp] theorem insert_locks (t : Transaction) : (db.insert me t).locks = db.locks := rfl
@[simp] theorem insert_nextID (t : Transaction) : (db.insert me t).nextID = db.nextID := rfl
@[simp] theorem release_ledger : (db.release me).ledger = db.ledger := rfl
@[simp] theorem release_nextID : (db.release me).nextID = db.nextID := rfl
@[simp] theorem commit_ledger : (db.commit me).ledger = db.ledger.apply (db.pending me) := rfl
@[simp] theorem commit_locks : (db.commit me).locks = (db.release me).locks := rfl
@[simp] theorem commit_pending : (db.commit me).pending = (db.release me).pending := rfl
@[simp] theorem commit_nextID : (db.commit me).nextID = db.nextID := rfl

@[simp] theorem release_locks (id : Int) :
    (db.release me).locks id = if db.locks id = some me then none else db.locks id := rfl

theorem release_locks_ne (id : Int) : (db.release me).locks id ≠ some me := by
  simp only [release_locks]
  split <;> simp_all

@[simp] theorem release_pending_self : (db.release me).pending me = .empty := by
  simp [release]

@[simp] theorem commit_pending_self : (db.commit me).pending me = .empty :=
  release_pending_self db me

@[simp] theorem heldByOther_lock_self (id : Int) : (db.lock me id).heldByOther me id = false := by
  simp [heldByOther, lock]

theorem heldByOther_lock_of_ne {id id' : Int} (h : id' ≠ id) :
    (db.lock me id).heldByOther me id' = db.heldByOther me id' := by
  simp [heldByOther, lock, Function.update_noteq h]

theorem heldByOther_lock {x : Int} (h : db.heldByOther me x = false) :
    (db.lock me x).heldByOther me = db.heldByOther me := by
  funext z
  by_cases hz : z = x
  · subst hz; rw [heldByOther_lock_self, h]
  · exact heldByOther_lock_of_ne _ _ hz

theorem heldByOther_lock_eq_false {x z : Int} (h : z = x ∨ db.heldByOther me z = false) :
    (db.lock me x).heldByOther me z = false := by
  rcases h with rfl | h
  · exact db.heldByOther_lock_self me z
  · by_cases hzx : z = x
    · subst hzx; exact db.heldByOther_lock_self me z
    · rw [heldByOther_lock_of_ne _ _ hzx, h]

theorem release_lock {x : Int} (h : db.heldByOther me x = false) :
    (db.lock me x).release me = db.release me := by
  have hx : db.locks x = none ∨ db.locks x = some me := by
    unfold heldByOther at h; split at h <;> simp_all
  simp only [release, lock, Db.mk.injEq, and_true, true_and]
  funext z
  by_cases hz : z = x
  · subst hz; rcases hx with hx | hx <;> simp [hx]
  · simp [Function.update_noteq hz]

@[simp] theorem write_pending_self (id : Int) (b : ℚ) :
    (db.write me id b).pending me = ⟨(db.pending me).balances ++ [(id, b)], (db.pending me).inserted⟩ := by
  simp [write]

@[simp] theorem insert_pending_self (t : Transaction) :
    (db.insert me t).pending me = ⟨(db.pending me).balances, (db.pending me).inserted ++ [t]⟩ := by
  simp [insert]

@[simp] theorem heldByOther_release : (db.release me).heldByOther me = db.heldByOther me := by
  funext z
  simp only [heldByOther, release_locks]
  rcases h : db.locks z with _ | j
  · simp
  · by_cases hj : j = me <;> simp [hj]

@[simp] theorem heldByOther_commit : (db.commit me).heldByOther me = db.heldByOther me :=
  heldByOther_release db me

@[simp] theorem heldByOther_write (id : Int) (b : ℚ) :
    (db.write me id b).heldByOther = db.heldByOther := rfl

@[simp] theorem heldByOther_insert (t : Transaction) :
    (db.insert me t).heldByOther = db.heldByOther := rfl

@[simp] theorem view_lock (id : Int) (me' : Nat) : (db.lock me id).view me' = db.view me' := rfl

theorem view_write (id : Int) (b : ℚ) :
    (db.write me id b).view me = ⟨Function.update (db.view me).accounts id (some b), (db.view me).transactions⟩ := by
  simp [view, write, Ledger.apply, List.foldl_append]

theorem view_insert (t : Transaction) :
    (db.insert me t).view me = ⟨(db.view me).accounts, (db.view me).transactions ++ [t]⟩ := by
  simp [view, insert, Ledger.apply]

theorem view_of_empty (h : db.pending me = .empty) : db.view me = db.ledger := by
  simp [view, h]

end Db

namespace AccountRepository

/-- `AccountRepository.GetByIDForUpdate` in session `me`'s transaction; `none` while another session holds the row. -/
def getByIDForUpdate (db : Db) (me : Nat) (accountID : Int) (o : Outcome) :
    Option (Except GoError Account × Db) :=
  if db.heldByOther me accountID then none else some <|
  match o.failure, (db.view me).accounts accountID with
  | some e, _ => (.error (.wrapped ("get account " ++ toString accountID ++ " for update") e), db)
  | none, none => (.error errAccountNotFound, db)
  | none, some b => (.ok ⟨accountID, b⟩, db.lock me accountID)

/-- `AccountRepository.UpdateBalance`; the row lock is taken (or kept) by the UPDATE. -/
def updateBalance (db : Db) (me : Nat) (accountID : Int) (newBalance : ℚ) (o : Outcome) :
    Option (Option GoError × Db) :=
  if db.heldByOther me accountID then none else some <|
  match o.failure with
  | some e => (some (.wrapped ("update balance for account " ++ toString accountID) e), db)
  | none =>
    let rowsAffected : ℕ := if ((db.view me).accounts accountID).isSome then 1 else 0
    if rowsAffected = 0 then (some errAccountNotFound, db)
    else if rowsAffected ≠ 1 then
      (some (.text ("expected 1 row affected, got " ++ toString rowsAffected ++ " for account "
        ++ toString accountID)), db)
    else (none, (db.lock me accountID).write me accountID newBalance)

/-- `AccountRepository.Exists`, outside any transaction. -/
def «exists» (db : Db) (accountID : Int) (o : Outcome) : Except GoError Bool :=
  match o.failure with
  | some e => .error (.wrapped ("check account " ++ toString accountID ++ " exists") e)
  | none => .ok (db.ledger.accounts accountID).isSome

/-- `AccountRepository.GetByID`, outside any transaction: the committed row, whatever transaction holds it. -/
def getByID (db : Db) (accountID : Int) (o : Outcome) : Except GoError Account :=
  match o.failure with
  | some e => .error (.wrapped ("get account " ++ toString accountID) e)
  | none => match db.ledger.accounts accountID with
    | none => .error errAccountNotFound
    | some b => .ok ⟨accountID, b⟩

theorem getByIDForUpdate_found {db : Db} {me : Nat} {id : Int} {b : ℚ}
    (hfree : db.heldByOther me id = false) (hb : (db.view me).accounts id = some b) :
    getByIDForUpdate db me id .ok = some (.ok ⟨id, b⟩, db.lock me id) := by
  simp [getByIDForUpdate, hfree, hb, Outcome.failure]

theorem getByIDForUpdate_missing {db : Db} {me : Nat} {id : Int}
    (hfree : db.heldByOther me id = false) (hb : (db.view me).accounts id = none) :
    getByIDForUpdate db me id .ok = some (.error errAccountNotFound, db) := by
  simp [getByIDForUpdate, hfree, hb, Outcome.failure]

theorem updateBalance_found {db : Db} {me : Nat} {id : Int} {b : ℚ}
    (hfree : db.heldByOther me id = false) (hb : ((db.view me).accounts id).isSome) :
    updateBalance db me id b .ok = some (none, (db.lock me id).write me id b) := by
  simp [updateBalance, hfree, hb, Outcome.failure]

/-- Everything `GetByIDForUpdate` can do: wait on another session, fail, find no row, or lock and read it. -/
theorem getByIDForUpdate_eq_some {db db' : Db} {me : Nat} {id : Int} {o : Outcome}
    {r : Except GoError Account} (h : getByIDForUpdate db me id o = some (r, db')) :
    db.heldByOther me id = false ∧
      ((∃ e, o.failure = some e ∧ r = .error (.wrapped ("get account " ++ toString id ++ " for update") e) ∧
          db' = db) ∨
        (o.failure = none ∧ (db.view me).accounts id = none ∧ r = .error errAccountNotFound ∧ db' = db) ∨
        ∃ b, o.failure = none ∧ (db.view me).accounts id = some b ∧ r = .ok ⟨id, b⟩ ∧ db' = db.lock me id) := by
  unfold getByIDForUpdate at h
  split at h
  · cases h
  · rename_i hfree
    refine ⟨Bool.eq_false_iff.mpr hfree, ?_⟩
    simp only [Option.some.injEq] at h
    split at h <;> cases h <;> simp_all

theorem updateBalance_eq_some {db db' : Db} {me : Nat} {id : Int} {b : ℚ} {o : Outcome}
    {r : Option GoError} (h : updateBalance db me id b o = some (r, db')) :
    db.heldByOther me id = false ∧
      ((∃ e, o.failure = some e ∧ r = some (.wrapped ("update balance for account " ++ toString id) e) ∧
          db' = db) ∨
        (o.failure = none ∧ (db.view me).accounts id = none ∧ r = some errAccountNotFound ∧ db' = db) ∨
        (o.failure = none ∧ ((db.view me).accounts id).isSome ∧ r = none ∧ db' = (db.lock me id).write me id b)) := by
  unfold updateBalance at h
  split at h
  · cases h
  · rename_i hfree
    refine ⟨Bool.eq_false_iff.mpr hfree, ?_⟩
    simp only [Option.some.injEq] at h
    split at h
    · cases h; simp_all
    · rcases hv : (db.view me).accounts id with _ | b0 <;> simp [hv] at h <;> obtain ⟨rfl, rfl⟩ := h <;> simp_all

/-- The error the driver returns for an insert that hits the primary key. -/
def duplicateKeyError : GoError :=
  .text "ERROR: duplicate key value violates unique constraint \"accounts_pkey\" (SQLSTATE 23505)"

/-- `AccountRepository.Create`: one INSERT in its own transaction. -/
def create (db : Db) (account : Account) (o : Outcome) : Option GoError × Db :=
  let err (e : GoError) : GoError := .wrapped ("insert account " ++ toString account.accountID) e
  let inserted : Db :=
    { db with ledger := { db.ledger with
        accounts := Function.update db.ledger.accounts account.accountID (some account.balance) } }
  match o, db.ledger.accounts account.accountID with
  | .fail e, _ => (some (err e), db)
  | _, some _ => (some (err duplicateKeyError), db)
  | .ok, none => (none, inserted)
  | .lost e, none => (some (err e), inserted)

end AccountRepository

/-- `TransactionRepository.Create`: the next id of the sequence; its foreign keys wait on a held account row. -/
def TransactionRepository.create (db : Db) (me : Nat) (t : Transaction) (o : Outcome) :
    Option (Except GoError Transaction × Db) :=
  if db.heldByOther me t.sourceAccountID || db.heldByOther me t.destinationAccountID then none
  else some <|
  match o.failure with
  | some e => (.error (.wrapped "insert transaction" e), db)
  | none =>
    let t' := { t with transactionID := db.nextID }
    (.ok t', { db.insert me t' with nextID := db.nextID + 1 })

theorem TransactionRepository.create_ok {db : Db} {me : Nat} {t : Transaction}
    (hs : db.heldByOther me t.sourceAccountID = false) (hd : db.heldByOther me t.destinationAccountID = false) :
    TransactionRepository.create db me t .ok =
      some (.ok { t with transactionID := db.nextID },
        { db.insert me { t with transactionID := db.nextID } with nextID := db.nextID + 1 }) := by
  simp [TransactionRepository.create, hs, hd, Outcome.failure]

theorem TransactionRepository.create_eq_some {db db' : Db} {me : Nat} {t : Transaction} {o : Outcome}
    {r : Except GoError Transaction} (h : TransactionRepository.create db me t o = some (r, db')) :
    db.heldByOther me t.sourceAccountID = false ∧ db.heldByOther me t.destinationAccountID = false ∧
      ((∃ e, o.failure = some e ∧ r = .error (.wrapped "insert transaction" e) ∧ db' = db) ∨
        (o.failure = none ∧ r = .ok { t with transactionID := db.nextID } ∧
          db' = { db.insert me { t with transactionID := db.nextID } with nextID := db.nextID + 1 })) := by
  unfold TransactionRepository.create at h
  split at h
  · cases h
  · rename_i hfree
    simp only [Bool.or_eq_true, not_or, Bool.not_eq_true] at hfree
    refine ⟨hfree.1, hfree.2, ?_⟩
    simp only [Option.some.injEq] at h
    split at h <;> cases h <;> simp_all

/-- `TransactionRepository.GetByID`, outside any transaction: the committed row with the id, if any. -/
def TransactionRepository.getByID (db : Db) (transactionID : Int) (o : Outcome) : Except GoError Transaction :=
  match o.failure with
  | some e => .error (.wrapped ("get transaction " ++ toString transactionID) e)
  | none => match db.ledger.transactions.find? (·.transactionID == transactionID) with
    | none => .error errTransferNotFound
    | some t => .ok t

/-- `AccountRepository.BeginTx`. -/
def AccountRepository.beginTx (o : Outcome) : Option GoError :=
  o.failure.map (.wrapped "begin transaction")

end InternalTransfers
