import InternalTransfers.Store.Database

/-! # One attempt: `TransferService.executeTransfer`

An attempt is the sequence of its store statements, one stage each. A stage step is one
statement of session `me`, with the deferred `Rollback` taken at once when the attempt
returns an error: nothing of the session runs between the two. The concurrent store runs
the same steps interleaved; `executeTransfer` runs them alone.
-/
namespace InternalTransfers

/-- Where an attempt stands: before the statement of a stage, or ended with its result. -/
inductive Stage
  | begin
  | lockFirst
  | lockSecond (first : Account)
  | updateSource (source dest : Account)
  | updateDest (dest : Account)
  | insert
  | commit (t : Transaction)
  | ended (r : Except GoError Transaction)

def Stage.index : Stage → ℕ
  | .begin => 0
  | .lockFirst => 1
  | .lockSecond _ => 2
  | .updateSource _ _ => 3
  | .updateDest _ => 4
  | .insert => 5
  | .commit _ => 6
  | .ended _ => 7

def dbErr (message : String) (e : GoError) : Except GoError Transaction :=
  .error (wrapError .databaseError message (some e))

/-- Lines 219-224: the two locked rows back in the roles of source and destination. -/
def TransferArgs.roles (a : TransferArgs) (first second : Account) : Account × Account :=
  if a.firstID = a.sourceID then (first, second) else (second, first)

/-- One statement of `executeTransfer` (lines 194-257) by session `me`. -/
def stageStep (a : TransferArgs) (me : Nat) (db : Db) (o : Outcome) : Stage → Option (Stage × Db)
  | .begin => match AccountRepository.beginTx o with
    | some e => some (.ended (dbErr "failed to begin transaction" e), db)
    | none => some (.lockFirst, db)
  | .lockFirst => match AccountRepository.getByIDForUpdate db me a.firstID o with
    | none => none
    | some (.error e, db) => some (.ended (.error e), db.release me)
    | some (.ok first, db) => some (.lockSecond first, db)
  | .lockSecond first => match AccountRepository.getByIDForUpdate db me a.secondID o with
    | none => none
    | some (.error e, db) => some (.ended (.error e), db.release me)
    | some (.ok second, db) =>
      if (a.roles first second).1.balance < a.amount then
        some (.ended (.error errInsufficientBalance), db.release me)
      else some (.updateSource (a.roles first second).1 (a.roles first second).2, db)
  | .updateSource source dest =>
    match AccountRepository.updateBalance db me source.accountID (source.balance - a.amount) o with
    | none => none
    | some (some e, db) => some (.ended (dbErr "failed to update source balance" e), db.release me)
    | some (none, db) => some (.updateDest dest, db)
  | .updateDest dest =>
    match AccountRepository.updateBalance db me dest.accountID (dest.balance + a.amount) o with
    | none => none
    | some (some e, db) => some (.ended (dbErr "failed to update destination balance" e), db.release me)
    | some (none, db) => some (.insert, db)
  | .insert => match TransactionRepository.create db me ⟨0, a.sourceID, a.destID, a.amount⟩ o with
    | none => none
    | some (.error e, db) => some (.ended (dbErr "failed to create transaction record" e), db.release me)
    | some (.ok t, db) => some (.commit t, db)
  | .commit t => match o with
    | .ok => some (.ended (.ok t), db.commit me)
    | .fail e => some (.ended (dbErr "failed to commit transaction" e), db.release me)
    | .lost e => some (.ended (dbErr "failed to commit transaction" e), db.commit me)
  | .ended _ => none

/-- The stages of one attempt in order; statement `k` meets outcome `f k`. -/
def runStages (a : TransferArgs) (me : Nat) (f : ℕ → Outcome) : ℕ → Stage × Db → Option (Stage × Db)
  | 0, s => some s
  | n + 1, (st, db) => match st with
    | .ended r => some (.ended r, db)
    | st => (stageStep a me db (f st.index) st).bind (runStages a me f n)

/-- `executeTransfer` by session `me`, no other session between its statements; `none` while it waits on a lock. -/
def executeTransfer (a : TransferArgs) (me : Nat) (f : ℕ → Outcome) (db : Db) :
    Option (Except GoError Transaction × Db) :=
  match runStages a me f 7 (.begin, db) with
  | some (.ended r, db) => some (r, db)
  | _ => none

section Inversion
variable {a : TransferArgs} {me : Nat} {db db' : Db} {o : Outcome} {st' : Stage}

theorem stageStep_begin (h : stageStep a me db o .begin = some (st', db')) : db' = db ∧
    ((∃ e, o.failure = some e ∧ st' = .ended (dbErr "failed to begin transaction" (.wrapped "begin transaction" e))) ∨
      o.failure = none ∧ st' = .lockFirst) := by
  simp only [stageStep, AccountRepository.beginTx] at h
  cases hf : o.failure <;> simp only [hf, Option.map_none', Option.map_some'] at h <;> cases h <;> simp

theorem stageStep_lockFirst (h : stageStep a me db o .lockFirst = some (st', db')) :
    db.heldByOther me a.firstID = false ∧
      ((∃ e, st' = .ended (.error e) ∧ db' = db.release me ∧
          (o = .ok → e = errAccountNotFound ∧ (db.view me).accounts a.firstID = none)) ∨
        ∃ b, o = .ok ∧ (db.view me).accounts a.firstID = some b ∧ st' = .lockSecond ⟨a.firstID, b⟩ ∧
          db' = db.lock me a.firstID) := by
  simp only [stageStep] at h
  split at h
  · cases h
  · rename_i e db1 hg
    cases h
    obtain ⟨hfree, ⟨e', he, -, rfl⟩ | ⟨-, hv, he', rfl⟩ | ⟨b, -, -, h, -⟩⟩ :=
      AccountRepository.getByIDForUpdate_eq_some hg
    · exact ⟨hfree, .inl ⟨_, rfl, rfl, fun ho => by simp [ho, Outcome.failure] at he⟩⟩
    · cases he'
      exact ⟨hfree, .inl ⟨_, rfl, rfl, fun _ => ⟨rfl, hv⟩⟩⟩
    · cases h
  · rename_i first db1 hg
    cases h
    obtain ⟨hfree, ⟨e, -, h, -⟩ | ⟨-, -, h, -⟩ | ⟨b, he, hv, h, rfl⟩⟩ :=
      AccountRepository.getByIDForUpdate_eq_some hg
    · cases h
    · cases h
    · cases h
      exact ⟨hfree, .inr ⟨b, by cases o <;> simp_all [Outcome.failure], hv, rfl, rfl⟩⟩

theorem stageStep_lockSecond {first : Account} (h : stageStep a me db o (.lockSecond first) = some (st', db')) :
    db.heldByOther me a.secondID = false ∧
      ((∃ e, st' = .ended (.error e) ∧ db' = db.release me ∧
          (o = .ok → e = errAccountNotFound ∧ (db.view me).accounts a.secondID = none ∨
            ∃ b, (db.view me).accounts a.secondID = some b ∧ e = errInsufficientBalance ∧
              (a.roles first ⟨a.secondID, b⟩).1.balance < a.amount)) ∨
        ∃ b, o = .ok ∧ (db.view me).accounts a.secondID = some b ∧
          ¬ (a.roles first ⟨a.secondID, b⟩).1.balance < a.amount ∧
          st' = .updateSource (a.roles first ⟨a.secondID, b⟩).1 (a.roles first ⟨a.secondID, b⟩).2 ∧
          db' = db.lock me a.secondID) := by
  simp only [stageStep] at h
  split at h
  · cases h
  · rename_i e db1 hg
    cases h
    obtain ⟨hfree, ⟨e', he, -, rfl⟩ | ⟨-, hv, he', rfl⟩ | ⟨b, -, -, h, -⟩⟩ :=
      AccountRepository.getByIDForUpdate_eq_some hg
    · exact ⟨hfree, .inl ⟨_, rfl, rfl, fun ho => by simp [ho, Outcome.failure] at he⟩⟩
    · cases he'
      exact ⟨hfree, .inl ⟨_, rfl, rfl, fun _ => .inl ⟨rfl, hv⟩⟩⟩
    · cases h
  · rename_i second db1 hg
    obtain ⟨hfree, ⟨e, -, h', -⟩ | ⟨-, -, h', -⟩ | ⟨b, he, hv, h', rfl⟩⟩ :=
      AccountRepository.getByIDForUpdate_eq_some hg
    · cases h'
    · cases h'
    · cases h'
      have ho : o = .ok := by cases o <;> simp_all [Outcome.failure]
      split at h <;> cases h
      · exact ⟨hfree, .inl ⟨_, rfl, Db.release_lock _ _ hfree, fun _ => .inr ⟨b, hv, rfl, ‹_›⟩⟩⟩
      · exact ⟨hfree, .inr ⟨b, ho, hv, ‹_›, rfl, rfl⟩⟩

theorem stageStep_updateSource {source dest : Account}
    (h : stageStep a me db o (.updateSource source dest) = some (st', db')) :
    db.heldByOther me source.accountID = false ∧
      ((∃ e, st' = .ended (.error e) ∧ db' = db.release me) ∨
        o = .ok ∧ ((db.view me).accounts source.accountID).isSome ∧ st' = .updateDest dest ∧
          db' = (db.lock me source.accountID).write me source.accountID (source.balance - a.amount)) := by
  simp only [stageStep] at h
  split at h
  · cases h
  · rename_i e db1 hg
    cases h
    obtain ⟨hfree, ⟨-, -, -, rfl⟩ | ⟨-, -, -, rfl⟩ | ⟨-, -, h, -⟩⟩ := AccountRepository.updateBalance_eq_some hg
    · exact ⟨hfree, .inl ⟨_, rfl, rfl⟩⟩
    · exact ⟨hfree, .inl ⟨_, rfl, rfl⟩⟩
    · cases h
  · rename_i db1 hg
    cases h
    obtain ⟨hfree, ⟨_, _, h, _⟩ | ⟨_, _, h, _⟩ | ⟨he, hv, -, rfl⟩⟩ := AccountRepository.updateBalance_eq_some hg
    · cases h
    · cases h
    · exact ⟨hfree, .inr ⟨by cases o <;> simp_all [Outcome.failure], hv, rfl, rfl⟩⟩

theorem stageStep_updateDest {dest : Account} (h : stageStep a me db o (.updateDest dest) = some (st', db')) :
    db.heldByOther me dest.accountID = false ∧
      ((∃ e, st' = .ended (.error e) ∧ db' = db.release me) ∨
        o = .ok ∧ ((db.view me).accounts dest.accountID).isSome ∧ st' = .insert ∧
          db' = (db.lock me dest.accountID).write me dest.accountID (dest.balance + a.amount)) := by
  simp only [stageStep] at h
  split at h
  · cases h
  · rename_i e db1 hg
    cases h
    obtain ⟨hfree, ⟨-, -, -, rfl⟩ | ⟨-, -, -, rfl⟩ | ⟨-, -, h, -⟩⟩ := AccountRepository.updateBalance_eq_some hg
    · exact ⟨hfree, .inl ⟨_, rfl, rfl⟩⟩
    · exact ⟨hfree, .inl ⟨_, rfl, rfl⟩⟩
    · cases h
  · rename_i db1 hg
    cases h
    obtain ⟨hfree, ⟨_, _, h, _⟩ | ⟨_, _, h, _⟩ | ⟨he, hv, -, rfl⟩⟩ := AccountRepository.updateBalance_eq_some hg
    · cases h
    · cases h
    · exact ⟨hfree, .inr ⟨by cases o <;> simp_all [Outcome.failure], hv, rfl, rfl⟩⟩

theorem stageStep_insert (h : stageStep a me db o .insert = some (st', db')) :
    db.heldByOther me a.sourceID = false ∧ db.heldByOther me a.destID = false ∧
      ((∃ e, st' = .ended (.error e) ∧ db' = db.release me ∧ o ≠ .ok) ∨
        o = .ok ∧ st' = .commit ⟨db.nextID, a.sourceID, a.destID, a.amount⟩ ∧
          db' = { db.insert me ⟨db.nextID, a.sourceID, a.destID, a.amount⟩ with nextID := db.nextID + 1 }) := by
  simp only [stageStep] at h
  split at h
  · cases h
  · rename_i e db1 hg
    cases h
    obtain ⟨hs, hd, ⟨e', he, -, rfl⟩ | ⟨-, h, -⟩⟩ := TransactionRepository.create_eq_some hg
    · exact ⟨hs, hd, .inl ⟨_, rfl, rfl, fun ho => by simp [ho, Outcome.failure] at he⟩⟩
    · cases h
  · rename_i t db1 hg
    cases h
    obtain ⟨hs, hd, ⟨e', -, h, -⟩ | ⟨he, h, rfl⟩⟩ := TransactionRepository.create_eq_some hg
    · cases h
    · cases h
      exact ⟨hs, hd, .inr ⟨by cases o <;> simp_all [Outcome.failure], rfl, rfl⟩⟩

theorem stageStep_commit {t : Transaction} (h : stageStep a me db o (.commit t) = some (st', db')) :
    (o = .ok ∧ st' = .ended (.ok t) ∧ db' = db.commit me) ∨
      (∃ e, o = .fail e ∧ st' = .ended (dbErr "failed to commit transaction" e) ∧ db' = db.release me) ∨
      ∃ e, o = .lost e ∧ st' = .ended (dbErr "failed to commit transaction" e) ∧ db' = db.commit me := by
  simp only [stageStep] at h
  split at h <;> cases h <;> simp

variable {st : Stage}

theorem stageStep_ended_ok {t : Transaction} (h : stageStep a me db o st = some (.ended (.ok t), db')) :
    st = .commit t ∧ o = .ok ∧ db' = db.commit me := by
  cases st with
  | begin => obtain ⟨-, ⟨_, -, h⟩ | ⟨-, h⟩⟩ := stageStep_begin h <;> cases h
  | lockFirst => obtain ⟨-, ⟨_, h, -⟩ | ⟨_, -, -, h, -⟩⟩ := stageStep_lockFirst h <;> cases h
  | lockSecond _ => obtain ⟨-, ⟨_, h, -⟩ | ⟨_, -, -, -, h, -⟩⟩ := stageStep_lockSecond h <;> cases h
  | updateSource _ _ => obtain ⟨-, ⟨_, h, -⟩ | ⟨-, -, h, -⟩⟩ := stageStep_updateSource h <;> cases h
  | updateDest _ => obtain ⟨-, ⟨_, h, -⟩ | ⟨-, -, h, -⟩⟩ := stageStep_updateDest h <;> cases h
  | insert => obtain ⟨-, -, ⟨_, h, -⟩ | ⟨-, h, -⟩⟩ := stageStep_insert h <;> cases h
  | commit _ =>
    rcases stageStep_commit h with ⟨rfl, h, rfl⟩ | ⟨_, -, h, -⟩ | ⟨_, -, h, -⟩ <;> cases h
    exact ⟨rfl, rfl, rfl⟩
  | ended _ => cases h

theorem stageStep_to_commit {t : Transaction} (h : stageStep a me db o st = some (.commit t, db')) :
    st = .insert ∧ t = ⟨db.nextID, a.sourceID, a.destID, a.amount⟩ := by
  cases st with
  | begin => obtain ⟨-, ⟨_, -, h⟩ | ⟨-, h⟩⟩ := stageStep_begin h <;> cases h
  | lockFirst => obtain ⟨-, ⟨_, h, -⟩ | ⟨_, -, -, h, -⟩⟩ := stageStep_lockFirst h <;> cases h
  | lockSecond _ => obtain ⟨-, ⟨_, h, -⟩ | ⟨_, -, -, -, h, -⟩⟩ := stageStep_lockSecond h <;> cases h
  | updateSource _ _ => obtain ⟨-, ⟨_, h, -⟩ | ⟨-, -, h, -⟩⟩ := stageStep_updateSource h <;> cases h
  | updateDest _ => obtain ⟨-, ⟨_, h, -⟩ | ⟨-, -, h, -⟩⟩ := stageStep_updateDest h <;> cases h
  | insert =>
    obtain ⟨-, -, ⟨_, h, -⟩ | ⟨-, h, -⟩⟩ := stageStep_insert h <;> cases h
    exact ⟨rfl, rfl⟩
  | commit _ => rcases stageStep_commit h with ⟨-, h, -⟩ | ⟨_, -, h, -⟩ | ⟨_, -, h, -⟩ <;> cases h
  | ended _ => cases h

theorem stageStep_failure (ho : o ≠ .ok) (h : stageStep a me db o st = some (st', db')) :
    ∃ e, st' = .ended (.error e) := by
  cases st with
  | begin =>
    obtain ⟨-, ⟨_, _, rfl⟩ | ⟨hf, -⟩⟩ := stageStep_begin h
    · exact ⟨_, rfl⟩
    · cases o <;> simp_all [Outcome.failure]
  | lockFirst => obtain ⟨-, ⟨_, rfl, _⟩ | ⟨_, h, _⟩⟩ := stageStep_lockFirst h <;> simp_all
  | lockSecond _ => obtain ⟨-, ⟨_, rfl, _⟩ | ⟨_, h, _⟩⟩ := stageStep_lockSecond h <;> simp_all
  | updateSource _ _ => obtain ⟨-, ⟨_, rfl, _⟩ | ⟨h, _⟩⟩ := stageStep_updateSource h <;> simp_all
  | updateDest _ => obtain ⟨-, ⟨_, rfl, _⟩ | ⟨h, _⟩⟩ := stageStep_updateDest h <;> simp_all
  | insert => obtain ⟨-, -, ⟨_, rfl, _⟩ | ⟨h, _⟩⟩ := stageStep_insert h <;> simp_all
  | commit _ =>
    rcases stageStep_commit h with ⟨h, -⟩ | ⟨_, _, rfl, _⟩ | ⟨_, _, rfl, _⟩
    exacts [absurd h ho, ⟨_, rfl⟩, ⟨_, rfl⟩]
  | ended _ => cases h

theorem stageStep_ok_advance (h : stageStep a me db .ok st = some (st', db')) :
    (∃ e, st' = .ended (.error e)) ∨ (∃ t, st = .commit t ∧ st' = .ended (.ok t)) ∨
      st'.index = st.index + 1 := by
  cases st with
  | begin => obtain ⟨-, ⟨_, h, -⟩ | ⟨-, rfl⟩⟩ := stageStep_begin h <;> simp_all [Outcome.failure, Stage.index]
  | lockFirst => obtain ⟨-, ⟨_, rfl, _⟩ | ⟨_, _, _, rfl, _⟩⟩ := stageStep_lockFirst h <;> simp [Stage.index]
  | lockSecond _ => obtain ⟨-, ⟨_, rfl, _⟩ | ⟨_, _, _, _, rfl, _⟩⟩ := stageStep_lockSecond h <;> simp [Stage.index]
  | updateSource _ _ => obtain ⟨-, ⟨_, rfl, _⟩ | ⟨_, _, rfl, _⟩⟩ := stageStep_updateSource h <;> simp [Stage.index]
  | updateDest _ => obtain ⟨-, ⟨_, rfl, _⟩ | ⟨_, _, rfl, _⟩⟩ := stageStep_updateDest h <;> simp [Stage.index]
  | insert => obtain ⟨-, -, ⟨_, rfl, _⟩ | ⟨_, rfl, _⟩⟩ := stageStep_insert h <;> simp [Stage.index]
  | commit t => rcases stageStep_commit h with ⟨-, rfl, -⟩ | ⟨_, h, -⟩ | ⟨_, h, -⟩ <;> simp_all
  | ended _ => cases h

end Inversion

theorem runStages_invariant {a : TransferArgs} {me : Nat} {f : ℕ → Outcome} (P : Stage × Db → Prop)
    (hstep : ∀ st db st' db', P (st, db) → stageStep a me db (f st.index) st = some (st', db') → P (st', db')) :
    ∀ n s s', P s → runStages a me f n s = some s' → P s'
  | 0, s, s', hs, h => by cases h; exact hs
  | n + 1, (st, db), s', hs, h => by
    simp only [runStages] at h
    split at h
    · cases h; exact hs
    · obtain ⟨s1, h1, h2⟩ := Option.bind_eq_some.mp h
      exact runStages_invariant P hstep n s1 s' (hstep _ _ _ _ hs h1) h2

theorem executeTransfer_eq_some {a : TransferArgs} {me : Nat} {f : ℕ → Outcome} {db db' : Db}
    {r : Except GoError Transaction} (h : executeTransfer a me f db = some (r, db')) :
    runStages a me f 7 (.begin, db) = some (.ended r, db') := by
  unfold executeTransfer at h
  split at h <;> cases h
  assumption

theorem getByIDForUpdate_db {db db' : Db} {me : Nat} {id : Int} {o : Outcome}
    {r : Except GoError Account} (h : AccountRepository.getByIDForUpdate db me id o = some (r, db')) :
    db' = db ∨ db.heldByOther me id = false ∧ db' = db.lock me id := by
  unfold AccountRepository.getByIDForUpdate at h
  split at h
  · cases h
  · simp only [Option.some.injEq] at h
    split at h <;> obtain ⟨-, rfl⟩ := Prod.mk.inj h <;> simp_all

theorem updateBalance_db {db db' : Db} {me : Nat} {id : Int} {b : ℚ} {o : Outcome}
    {r : Option GoError} (h : AccountRepository.updateBalance db me id b o = some (r, db')) :
    db' = db ∨ db.heldByOther me id = false ∧ db' = (db.lock me id).write me id b := by
  unfold AccountRepository.updateBalance at h
  split at h
  · cases h
  · simp only [Option.some.injEq] at h
    split at h
    · obtain ⟨-, rfl⟩ := Prod.mk.inj h; simp
    · split_ifs at h <;> obtain ⟨-, rfl⟩ := Prod.mk.inj h <;> simp_all

theorem create_db {db db' : Db} {me : Nat} {t : Transaction} {o : Outcome}
    {r : Except GoError Transaction} (h : TransactionRepository.create db me t o = some (r, db')) :
    db' = db ∨ db' = { db.insert me { t with transactionID := db.nextID } with nextID := db.nextID + 1 } := by
  unfold TransactionRepository.create at h
  split at h
  · cases h
  · simp only [Option.some.injEq] at h
    split at h <;> obtain ⟨-, rfl⟩ := Prod.mk.inj h <;> simp

theorem getByIDForUpdate_ledger {db db' : Db} {me : Nat} {id : Int} {o : Outcome}
    {r : Except GoError Account} (h : AccountRepository.getByIDForUpdate db me id o = some (r, db')) :
    db'.ledger = db.ledger := by
  rcases getByIDForUpdate_db h with rfl | ⟨-, rfl⟩ <;> rfl

theorem updateBalance_ledger {db db' : Db} {me : Nat} {id : Int} {b : ℚ} {o : Outcome}
    {r : Option GoError} (h : AccountRepository.updateBalance db me id b o = some (r, db')) :
    db'.ledger = db.ledger := by
  rcases updateBalance_db h with rfl | ⟨-, rfl⟩ <;> rfl

theorem create_ledger {db db' : Db} {me : Nat} {t : Transaction} {o : Outcome}
    {r : Except GoError Transaction} (h : TransactionRepository.create db me t o = some (r, db')) :
    db'.ledger = db.ledger := by
  rcases create_db h with rfl | rfl <;> rfl

/-- At each stage: nothing committed before the commit, and no lock held before the first lock or after an error. -/
def Untouched (L : Ledger) (me : Nat) : Stage × Db → Prop
  | (.begin, db) => db.ledger = L ∧ ∀ id, db.locks id ≠ some me
  | (.ended (.ok _), _) => True
  | (.ended (.error _), db) => db.ledger = L ∧ ∀ id, db.locks id ≠ some me
  | (_, db) => db.ledger = L

theorem Untouched.ledger {L : Ledger} {me : Nat} {st : Stage} {db : Db} (h : Untouched L me (st, db))
    (hst : ∀ t, st ≠ .ended (.ok t)) : db.ledger = L := by
  rcases st with _ | _ | _ | _ | _ | _ | _ | (_ | _)
  all_goals first | exact h | exact h.1 | exact absurd rfl (hst _)

theorem untouched_released {L : Ledger} {me : Nat} {db : Db} (hL : db.ledger = L)
    (r : GoError) : Untouched L me (.ended (.error r), db.release me) :=
  ⟨hL, db.release_locks_ne me⟩

theorem stageStep_untouched {a : TransferArgs} {me : Nat} {L : Ledger} {db db' : Db} {o : Outcome}
    {st st' : Stage} (hst : Untouched L me (st, db)) (hcommit : ∀ t e, st = .commit t → o ≠ .lost e)
    (h : stageStep a me db o st = some (st', db')) : Untouched L me (st', db') := by
  cases st with
  | begin =>
    simp only [stageStep] at h
    split at h <;> cases h
    exacts [hst, hst.1]
  | lockFirst =>
    simp only [stageStep] at h
    split at h <;> cases h <;> rename_i h1
    all_goals have hL := (getByIDForUpdate_ledger h1).trans hst
    exacts [untouched_released hL _, hL]
  | lockSecond first =>
    simp only [stageStep] at h
    split at h <;> [cases h; (cases h; rename_i h1); rename_i h1]
    all_goals have hL := (getByIDForUpdate_ledger h1).trans hst
    · exact untouched_released hL _
    · split at h <;> cases h
      exacts [untouched_released hL _, hL]
  | updateSource source dest =>
    simp only [stageStep] at h
    split at h <;> cases h <;> rename_i h1
    all_goals have hL := (updateBalance_ledger h1).trans hst
    exacts [untouched_released hL _, hL]
  | updateDest dest =>
    simp only [stageStep] at h
    split at h <;> cases h <;> rename_i h1
    all_goals have hL := (updateBalance_ledger h1).trans hst
    exacts [untouched_released hL _, hL]
  | insert =>
    simp only [stageStep] at h
    split at h <;> cases h <;> rename_i h1
    all_goals have hL := (create_ledger h1).trans hst
    exacts [untouched_released hL _, hL]
  | commit t =>
    simp only [stageStep] at h
    split at h <;> cases h
    · trivial
    · exact untouched_released hst _
    · exact absurd rfl (hcommit t _ rfl)
  | ended r => cases h

theorem runStages_untouched {a : TransferArgs} {me : Nat} {f : ℕ → Outcome} {L : Ledger}
    (hcommit : ∀ e, f 6 ≠ .lost e) :
    ∀ n s s', Untouched L me s → runStages a me f n s = some s' → Untouched L me s' := by
  intro n
  induction n with
  | zero => intro s s' hs h; cases h; exact hs
  | succ n ih =>
    rintro ⟨st, db⟩ s' hs h
    simp only [runStages] at h
    split at h
    · cases h; exact hs
    · obtain ⟨s1, h1, h2⟩ := Option.bind_eq_some.mp h
      exact ih s1 s' (stageStep_untouched hs (fun t e ht => ht ▸ hcommit e) h1) h2

/-- An attempt returning an error, with no lock held before and no lost commit, commits nothing and holds no lock. -/
theorem executeTransfer_error_rolls_back (a : TransferArgs) (me : Nat) (f : ℕ → Outcome)
    (db db' : Db) (e : GoError) (hfree : ∀ id, db.locks id ≠ some me)
    (hcommit : ∀ e, f 6 ≠ .lost e) (h : executeTransfer a me f db = some (.error e, db')) :
    db'.ledger = db.ledger ∧ ∀ id, db'.locks id ≠ some me := by
  unfold executeTransfer at h
  split at h
  · rename_i r db1 hrun
    cases h
    exact runStages_untouched hcommit 7 _ _ (show Untouched db.ledger me (.begin, db) from ⟨rfl, hfree⟩) hrun
  · cases h

def unitTransfer : TransferArgs := ⟨1, 2, 1, by decide, zero_lt_one⟩

/-- Account 1 holding 1000 and account 2 holding 0, with no transaction open. -/
def twoAccounts : Db :=
  ⟨⟨fun z => if z = 1 then some 1000 else if z = 2 then some 0 else none, []⟩, fun _ => none, fun _ => .empty, 1⟩

def destUpdateFails (j : ℕ) : Outcome :=
  if j = 4 then .fail (.text "read: connection reset by peer") else .ok

theorem executeTransfer_error_rolls_back_dest_update :
    ∃ db', (∀ id, twoAccounts.locks id ≠ some 0) ∧ (∀ e, destUpdateFails 6 ≠ .lost e) ∧
      executeTransfer unitTransfer 0 destUpdateFails twoAccounts =
        some (dbErr "failed to update destination balance"
          (.wrapped "update balance for account 2" (.text "read: connection reset by peer")), db') ∧
      db'.ledger = twoAccounts.ledger ∧ ∀ id, db'.locks id ≠ some 0 := by
  have h : executeTransfer unitTransfer 0 destUpdateFails twoAccounts = some (dbErr "failed to update destination balance"
      (.wrapped "update balance for account 2" (.text "read: connection reset by peer")), _) := rfl
  exact ⟨_, fun _ => Option.noConfusion, fun _ => Outcome.noConfusion, h,
    executeTransfer_error_rolls_back unitTransfer 0 destUpdateFails twoAccounts _ _ (fun _ => Option.noConfusion)
      (fun _ => Outcome.noConfusion) h⟩

/-- A transfer run alone on the committed tables with a store that never fails: what the service is for. -/
def serialTransfer (a : TransferArgs) (id : Int) (L : Ledger) : Except GoError Transaction × Ledger :=
  match L.accounts a.sourceID, L.accounts a.destID with
  | some bs, some bd =>
    if bs < a.amount then (.error errInsufficientBalance, L)
    else
      let t : Transaction := ⟨id, a.sourceID, a.destID, a.amount⟩
      (.ok t, ⟨Function.update (Function.update L.accounts a.sourceID (some (bs - a.amount))) a.destID
        (some (bd + a.amount)), L.transactions ++ [t]⟩)
  | _, _ => (.error errAccountNotFound, L)

section NoFailure
variable {a : TransferArgs} {me : Nat} {db : Db}

theorem serialTransfer_cases (id : Int) (L : Ledger) :
    (∃ e, (serialTransfer a id L).1 = .error e ∧ (e = errAccountNotFound ∨ e = errInsufficientBalance) ∧
      (serialTransfer a id L).2 = L) ∨
    (serialTransfer a id L).1 = .ok ⟨id, a.sourceID, a.destID, a.amount⟩ := by
  unfold serialTransfer
  split
  · split_ifs <;> simp
  · simp

theorem serialTransfer_ok {id : Int} {L : Ledger} {bs bd : ℚ} (hs : L.accounts a.sourceID = some bs)
    (hd : L.accounts a.destID = some bd) (h : a.amount ≤ bs) :
    serialTransfer a id L = (.ok ⟨id, a.sourceID, a.destID, a.amount⟩,
      ⟨Function.update (Function.update L.accounts a.sourceID (some (bs - a.amount))) a.destID
        (some (bd + a.amount)), L.transactions ++ [⟨id, a.sourceID, a.destID, a.amount⟩]⟩) := by
  simp [serialTransfer, hs, hd, not_lt.mpr h]

theorem stageStep_lockFirst_found {b : ℚ} (hfree : db.heldByOther me a.firstID = false)
    (hb : (db.view me).accounts a.firstID = some b) :
    stageStep a me db .ok .lockFirst = some (.lockSecond ⟨a.firstID, b⟩, db.lock me a.firstID) := by
  simp [stageStep, AccountRepository.getByIDForUpdate_found hfree hb]

theorem stageStep_lockFirst_missing (hfree : db.heldByOther me a.firstID = false)
    (hb : (db.view me).accounts a.firstID = none) :
    stageStep a me db .ok .lockFirst = some (.ended (.error errAccountNotFound), db.release me) := by
  simp [stageStep, AccountRepository.getByIDForUpdate_missing hfree hb]

theorem stageStep_lockSecond_found {first : Account} {b : ℚ} (hfree : db.heldByOther me a.secondID = false)
    (hb : (db.view me).accounts a.secondID = some b) :
    stageStep a me db .ok (.lockSecond first) =
      if (a.roles first ⟨a.secondID, b⟩).1.balance < a.amount then
        some (.ended (.error errInsufficientBalance), (db.lock me a.secondID).release me)
      else some (.updateSource (a.roles first ⟨a.secondID, b⟩).1 (a.roles first ⟨a.secondID, b⟩).2,
        db.lock me a.secondID) := by
  simp [stageStep, AccountRepository.getByIDForUpdate_found hfree hb]

theorem stageStep_lockSecond_missing {first : Account} (hfree : db.heldByOther me a.secondID = false)
    (hb : (db.view me).accounts a.secondID = none) :
    stageStep a me db .ok (.lockSecond first) = some (.ended (.error errAccountNotFound), db.release me) := by
  simp [stageStep, AccountRepository.getByIDForUpdate_missing hfree hb]

theorem stageStep_updateSource_ok {source dest : Account} (hfree : db.heldByOther me source.accountID = false)
    (hb : ((db.view me).accounts source.accountID).isSome) :
    stageStep a me db .ok (.updateSource source dest) =
      some (.updateDest dest, (db.lock me source.accountID).write me source.accountID (source.balance - a.amount)) := by
  simp [stageStep, AccountRepository.updateBalance_found hfree hb]

theorem stageStep_updateDest_ok {dest : Account} (hfree : db.heldByOther me dest.accountID = false)
    (hb : ((db.view me).accounts dest.accountID).isSome) :
    stageStep a me db .ok (.updateDest dest) =
      some (.insert, (db.lock me dest.accountID).write me dest.accountID (dest.balance + a.amount)) := by
  simp [stageStep, AccountRepository.updateBalance_found hfree hb]

theorem stageStep_insert_ok (hs : db.heldByOther me a.sourceID = false) (hd : db.heldByOther me a.destID = false) :
    stageStep a me db .ok .insert = some (.commit ⟨db.nextID, a.sourceID, a.destID, a.amount⟩,
      { db.insert me ⟨db.nextID, a.sourceID, a.destID, a.amount⟩ with nextID := db.nextID + 1 }) := by
  have h := @TransactionRepository.create_ok db me ⟨0, a.sourceID, a.destID, a.amount⟩ hs hd
  simp [stageStep, h]

theorem stageStep_commit_ok {t : Transaction} :
    stageStep a me db .ok (.commit t) = some (.ended (.ok t), db.commit me) := rfl

theorem runStages_step {f : ℕ → Outcome} {o : Outcome} {n : ℕ} {st st' : Stage} {db' : Db}
    (hne : st.index < 7) (ho : f st.index = o) (h : stageStep a me db o st = some (st', db')) :
    runStages a me f (n + 1) (st, db) = runStages a me f n (st', db') := by
  subst ho
  cases st <;> simp_all [runStages, Stage.index]

theorem runStages_ended {f : ℕ → Outcome} {r : Except GoError Transaction} :
    ∀ n, runStages a me f n (.ended r, db) = some (.ended r, db)
  | 0 => rfl
  | _ + 1 => rfl

theorem TransferArgs.first_second (a : TransferArgs) :
    a.firstID = a.sourceID ∧ a.secondID = a.destID ∨ a.firstID = a.destID ∧ a.secondID = a.sourceID := by
  unfold TransferArgs.firstID TransferArgs.secondID
  split <;> simp

theorem TransferArgs.roles_of (a : TransferArgs) (g : Int → ℚ) :
    a.roles ⟨a.firstID, g a.firstID⟩ ⟨a.secondID, g a.secondID⟩ =
      (⟨a.sourceID, g a.sourceID⟩, ⟨a.destID, g a.destID⟩) := by
  have := a.distinct
  unfold TransferArgs.roles TransferArgs.firstID TransferArgs.secondID
  split_ifs <;> first | rfl | omega

theorem serialTransfer_missing {id : Int} {L : Ledger}
    (h : L.accounts a.firstID = none ∨ L.accounts a.secondID = none) :
    serialTransfer a id L = (.error errAccountNotFound, L) := by
  unfold serialTransfer
  rcases a.first_second with ⟨h1, h2⟩ | ⟨h1, h2⟩ <;> rw [h1, h2] at h <;>
    rcases h with h | h <;> simp [h]

theorem runStages_writes {f : ℕ → Outcome} {bs bd : ℚ} (hf : ∀ k, 3 ≤ k → k < 6 → f k = .ok)
    (hs : db.heldByOther me a.sourceID = false) (hd : db.heldByOther me a.destID = false)
    (hsrc : (db.view me).accounts a.sourceID = some bs) (hdst : (db.view me).accounts a.destID = some bd)
    (hle : a.amount ≤ bs) (n : ℕ) :
    ∃ db', runStages a me f (n + 3) (.updateSource ⟨a.sourceID, bs⟩ ⟨a.destID, bd⟩, db) =
        runStages a me f n (.commit ⟨db.nextID, a.sourceID, a.destID, a.amount⟩, db') ∧
      db'.ledger = db.ledger ∧ db'.nextID = db.nextID + 1 ∧ db'.heldByOther me = db.heldByOther me ∧
      db'.view me = (serialTransfer a db.nextID (db.view me)).2 := by
  have hne := a.distinct
  have hu1 := @stageStep_updateSource_ok a me db ⟨a.sourceID, bs⟩ ⟨a.destID, bd⟩ hs (by simp [hsrc])
  set db1 := (db.lock me a.sourceID).write me a.sourceID (bs - a.amount)
  have hh1 : db1.heldByOther me = db.heldByOther me := by
    simp only [db1, Db.heldByOther_write, Db.heldByOther_lock _ _ hs]
  have hu2 := @stageStep_updateDest_ok a me db1 ⟨a.destID, bd⟩ (by rw [hh1]; exact hd)
    (by simp [db1, Db.view_write, Function.update_noteq hne.symm, hdst])
  set db2 := (db1.lock me a.destID).write me a.destID (bd + a.amount)
  have hh2 : db2.heldByOther me = db.heldByOther me := by
    simp only [db2, Db.heldByOther_write, Db.heldByOther_lock _ _ (show db1.heldByOther me a.destID = false by
      rw [hh1]; exact hd), hh1]
  have hins := @stageStep_insert_ok a me db2 (by rw [hh2]; exact hs) (by rw [hh2]; exact hd)
  refine ⟨{ db2.insert me ⟨db.nextID, a.sourceID, a.destID, a.amount⟩ with nextID := db.nextID + 1 }, ?_, rfl, rfl,
    hh2, ?_⟩
  · rw [runStages_step (by simp [Stage.index]) (hf 3 le_rfl (by decide)) hu1,
      runStages_step (by simp [Stage.index]) (hf 4 (by decide) (by decide)) hu2,
      runStages_step (by simp [Stage.index]) (hf 5 (by decide) (by decide)) hins]
    rfl
  · show (db2.insert me _).view me = _
    simp [db2, db1, Db.view_insert, Db.view_write, serialTransfer, hsrc, hdst, not_lt.mpr hle]

end NoFailure

/-- Alone, every statement before the commit succeeding: `serialTransfer`, except as the commit's outcome says. -/
theorem executeTransfer_reaching_commit (a : TransferArgs) (me : Nat) (f : ℕ → Outcome) (db : Db)
    (hf : ∀ k < 6, f k = .ok) (hp : db.pending me = .empty)
    (hs : db.heldByOther me a.sourceID = false) (hd : db.heldByOther me a.destID = false) :
    ∃ r db', executeTransfer a me f db = some (r, db') ∧ db'.pending me = .empty ∧
      db'.heldByOther me = db.heldByOther me ∧
      (∀ e, (serialTransfer a db.nextID db.ledger).1 = .error e →
        r = .error e ∧ db'.ledger = db.ledger ∧ db'.nextID = db.nextID) ∧
      (∀ t, (serialTransfer a db.nextID db.ledger).1 = .ok t → db'.nextID = db.nextID + 1 ∧
        (f 6 = .ok → r = .ok t ∧ db'.ledger = (serialTransfer a db.nextID db.ledger).2) ∧
        (∀ e, f 6 = .fail e → r = dbErr "failed to commit transaction" e ∧ db'.ledger = db.ledger) ∧
        (∀ e, f 6 = .lost e → r = dbErr "failed to commit transaction" e ∧
          db'.ledger = (serialTransfer a db.nextID db.ledger).2)) := by
  have hv : db.view me = db.ledger := db.view_of_empty me hp
  have hfree : ∀ z, z = a.sourceID ∨ z = a.destID → db.heldByOther me z = false := by
    rintro z (rfl | rfl) <;> assumption
  have hf1 := hfree a.firstID (by rcases a.first_second with h | h <;> simp [h.1])
  have hf2 := hfree a.secondID (by rcases a.first_second with h | h <;> simp [h.2])
  have hbegin : stageStep a me db .ok .begin = some (.lockFirst, db) := rfl
  rcases h1 : db.ledger.accounts a.firstID with _ | b1
  · have hser : serialTransfer a db.nextID db.ledger = _ := serialTransfer_missing (Or.inl h1)
    refine ⟨.error errAccountNotFound, db.release me, ?_, by simp, by simp, by simp [hser], by simp [hser]⟩
    rw [executeTransfer, runStages_step (by simp [Stage.index]) (hf 0 (by decide)) hbegin,
      runStages_step (by simp [Stage.index]) (hf 1 (by decide))
        (stageStep_lockFirst_missing hf1 (by rw [hv]; exact h1)), runStages_ended]
  have hl1 : stageStep a me db .ok .lockFirst = some (.lockSecond ⟨a.firstID, b1⟩, db.lock me a.firstID) :=
    stageStep_lockFirst_found hf1 (by rw [hv]; exact h1)
  have hf2' : (db.lock me a.firstID).heldByOther me a.secondID = false :=
    Db.heldByOther_lock_eq_false _ _ (Or.inr hf2)
  rcases h2 : db.ledger.accounts a.secondID with _ | b2
  · have hser : serialTransfer a db.nextID db.ledger = _ := serialTransfer_missing (Or.inr h2)
    refine ⟨.error errAccountNotFound, (db.lock me a.firstID).release me, ?_, by simp, ?_, by simp [hser],
      by simp [hser]⟩
    · rw [executeTransfer, runStages_step (by simp [Stage.index]) (hf 0 (by decide)) hbegin,
        runStages_step (by simp [Stage.index]) (hf 1 (by decide)) hl1,
        runStages_step (by simp [Stage.index]) (hf 2 (by decide))
          (stageStep_lockSecond_missing hf2' (by rw [Db.view_lock, hv]; exact h2)), runStages_ended]
    · simp [Db.heldByOther_lock _ _ hf1]
  set g : Int → ℚ := fun z => (db.ledger.accounts z).getD 0
  have hroles := a.roles_of g
  rw [show g a.firstID = b1 by simp [g, h1], show g a.secondID = b2 by simp [g, h2]] at hroles
  have hsome : ∀ z, z = a.sourceID ∨ z = a.destID → db.ledger.accounts z = some (g z) := by
    rintro z (rfl | rfl) <;> rcases a.first_second with ⟨e1, e2⟩ | ⟨e1, e2⟩ <;>
      first | (rw [← e1]; simp [g, h1]) | (rw [← e2]; simp [g, h2])
  have hsrc := hsome a.sourceID (Or.inl rfl)
  have hdst := hsome a.destID (Or.inr rfl)
  set db2 := (db.lock me a.firstID).lock me a.secondID
  have hheld2 : db2.heldByOther me = db.heldByOther me := by
    simp only [db2, Db.heldByOther_lock _ _ hf2', Db.heldByOther_lock _ _ hf1]
  have hv2 : db2.view me = db.ledger := hv
  have hl2 := @stageStep_lockSecond_found a me (db.lock me a.firstID) ⟨a.firstID, b1⟩ b2 hf2'
    (by rw [Db.view_lock, hv]; exact h2)
  rw [hroles] at hl2
  have hpre : ∀ st d, stageStep a me (db.lock me a.firstID) .ok (.lockSecond ⟨a.firstID, b1⟩) = some (st, d) →
      runStages a me f 7 (.begin, db) = runStages a me f 4 (st, d) := fun st d h => by
    rw [runStages_step (by simp [Stage.index]) (hf 0 (by decide)) hbegin,
      runStages_step (by simp [Stage.index]) (hf 1 (by decide)) hl1,
      runStages_step (by simp [Stage.index]) (hf 2 (by decide)) h]
  by_cases hlow : g a.sourceID < a.amount
  · rw [if_pos hlow] at hl2
    refine ⟨.error errInsufficientBalance, db2.release me, ?_, by simp, by simp [hheld2],
      by simp [db2, serialTransfer, hsrc, hdst, hlow], by simp [serialTransfer, hsrc, hdst, hlow]⟩
    rw [executeTransfer, hpre _ _ hl2, runStages_ended]
  rw [if_neg hlow] at hl2
  obtain ⟨db5, hw, hl5, hn5, hh5, hv5⟩ := runStages_writes (fun k _ hk => hf k hk) (by rw [hheld2]; exact hs)
    (by rw [hheld2]; exact hd) (by rw [hv2]; exact hsrc) (by rw [hv2]; exact hdst) (not_lt.mp hlow) 1
  rw [show db2.nextID = db.nextID from rfl, hv2] at hv5
  rw [show db2.nextID = db.nextID from rfl] at hw hn5
  set t : Transaction := ⟨db.nextID, a.sourceID, a.destID, a.amount⟩
  have hrun : ∀ o r d, stageStep a me db5 o (.commit t) = some (.ended r, d) → f 6 = o →
      executeTransfer a me f db = some (r, d) := fun o r d h ho => by
    rw [executeTransfer, hpre _ _ hl2, hw, runStages_step (by simp [Stage.index]) ho h, runStages_ended]
  have ht : ∀ t', (serialTransfer a db.nextID db.ledger).1 = .ok t' → t' = t := fun t' h => by
    simp [serialTransfer, hsrc, hdst, hlow] at h; exact h.symm
  have hok : (serialTransfer a db.nextID db.ledger).1 = .ok t := by simp [serialTransfer, hsrc, hdst, hlow, t]
  rcases hc : f 6 with _ | e | e
  · refine ⟨.ok t, db5.commit me, hrun .ok _ _ rfl hc, by simp, by simp [hh5, hheld2], by simp [hok], ?_⟩
    rintro t' h; obtain rfl := ht t' h
    exact ⟨hn5, fun _ => ⟨rfl, hv5⟩, fun _ h => Outcome.noConfusion h, fun _ h => Outcome.noConfusion h⟩
  · refine ⟨dbErr "failed to commit transaction" e, db5.release me, hrun (.fail e) _ _ rfl hc, by simp,
      by simp [hh5, hheld2], by simp [hok], ?_⟩
    rintro t' h; obtain rfl := ht t' h
    exact ⟨hn5, fun h => Outcome.noConfusion h, fun _ h => by cases h; exact ⟨rfl, hl5⟩,
      fun _ h => Outcome.noConfusion h⟩
  · refine ⟨dbErr "failed to commit transaction" e, db5.commit me, hrun (.lost e) _ _ rfl hc, by simp,
      by simp [hh5, hheld2], by simp [hok], ?_⟩
    rintro t' h; obtain rfl := ht t' h
    exact ⟨hn5, fun h => Outcome.noConfusion h, fun _ h => Outcome.noConfusion h,
      fun _ h => by cases h; exact ⟨rfl, hv5⟩⟩

section Attempt
variable {a : TransferArgs} {me : Nat} {f : ℕ → Outcome} {db db' : Db} {r : Except GoError Transaction}

theorem executeTransfer_ok_record {t : Transaction} (h : executeTransfer a me f db = some (.ok t, db')) :
    t = ⟨t.transactionID, a.sourceID, a.destID, a.amount⟩ := by
  refine runStages_invariant
    (fun s => ∀ t, (s.1 = .commit t ∨ s.1 = .ended (.ok t)) → t = ⟨t.transactionID, a.sourceID, a.destID, a.amount⟩)
    (fun st _ _ _ hs h t ht => ?_) 7 (.begin, db) _ (by rintro t (h | h) <;> cases h) (executeTransfer_eq_some h) t
    (.inr rfl)
  rcases ht with ht | ht <;> dsimp only at ht <;> subst ht
  · obtain ⟨-, rfl⟩ := stageStep_to_commit h
    rfl
  · exact hs t (.inl (stageStep_ended_ok h).1)

theorem executeTransfer_beginTx_failure {e : GoError} (he : (f 0).failure = some e) :
    executeTransfer a me f db =
      some (dbErr "failed to begin transaction" (.wrapped "begin transaction" e), db) := by
  have hs : stageStep a me db (f 0) .begin =
      some (.ended (dbErr "failed to begin transaction" (.wrapped "begin transaction" e)), db) := by
    simp [stageStep, AccountRepository.beginTx, he]
  rw [executeTransfer, runStages_step (by decide) rfl hs, runStages_ended]

section Alone
variable (hp : db.pending me = .empty) (hs : db.heldByOther me a.sourceID = false)
  (hd : db.heldByOther me a.destID = false)
include hp hs hd

end Alone

end Attempt

end InternalTransfers
