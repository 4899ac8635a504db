import InternalTransfers.Concurrent.Serializable
import InternalTransfers.Service.Listing

/-! # The `transactions` table under every interleaving

`transaction_id` is a `BIGSERIAL`: every insert takes the sequence's next value, and an insert
rolled back burns it. Every store a run reaches from the empty one keeps the ids of its records
apart, committed or written by an open transaction (`Db.IdsFresh`), so `GetTransaction` finds
each committed record under its id; and a transfer that returned a record has it committed.
Over the same runs the records `GetAccountTransactions` lists for an account, page by page,
account for the balance `GetAccount` reads.
-/
namespace InternalTransfers

/-- The ids of a store's records, committed or pending: positive, below the sequence's next value, no two alike. -/
structure Db.IdsFresh (db : Db) : Prop where
  nextID_pos : 0 < db.nextID
  committed : ∀ t ∈ db.ledger.transactions, 0 < t.transactionID ∧ t.transactionID < db.nextID
  pending : ∀ i, ∀ t ∈ (db.pending i).inserted, 0 < t.transactionID ∧ t.transactionID < db.nextID
  committed_nodup : (db.ledger.transactions.map (·.transactionID)).Nodup
  pending_nodup : ∀ i, ((db.pending i).inserted.map (·.transactionID)).Nodup
  pending_committed : ∀ i, ∀ t ∈ (db.pending i).inserted, ∀ t' ∈ db.ledger.transactions,
    t.transactionID ≠ t'.transactionID
  pending_pending : ∀ i j, i ≠ j → ∀ t ∈ (db.pending i).inserted, ∀ t' ∈ (db.pending j).inserted,
    t.transactionID ≠ t'.transactionID

namespace Db.IdsFresh
variable {db db' : Db}

theorem empty : Db.empty.IdsFresh :=
  ⟨by decide, fun _ h => (by cases h), fun _ _ h => (by cases h), List.nodup_nil, fun _ => List.nodup_nil,
    fun _ _ h => (by cases h), fun _ _ _ _ h => (by cases h)⟩

theorem of_sublist (hI : db.IdsFresh) (hL : db'.ledger.transactions = db.ledger.transactions)
    (hn : db'.nextID = db.nextID) (hp : ∀ i, (db'.pending i).inserted.Sublist (db.pending i).inserted) :
    db'.IdsFresh where
  nextID_pos := hn ▸ hI.nextID_pos
  committed t ht := hn ▸ hI.committed t (hL ▸ ht)
  pending i t ht := hn ▸ hI.pending i t ((hp i).subset ht)
  committed_nodup := hL ▸ hI.committed_nodup
  pending_nodup i := ((hp i).map _).nodup (hI.pending_nodup i)
  pending_committed i t ht t' ht' := hI.pending_committed i t ((hp i).subset ht) t' (hL ▸ ht')
  pending_pending i j hij t ht t' ht' := hI.pending_pending i j hij t ((hp i).subset ht) t' ((hp j).subset ht')

theorem lock (hI : db.IdsFresh) (me : Nat) (x : Int) : (db.lock me x).IdsFresh :=
  hI.of_sublist rfl rfl fun _ => .refl _

theorem write (hI : db.IdsFresh) (me : Nat) (x : Int) (b : ℚ) : (db.write me x b).IdsFresh :=
  hI.of_sublist rfl rfl fun i => by
    by_cases hi : i = me
    · subst hi; simp
    · simp [Db.write, Function.update_noteq hi]

theorem release (hI : db.IdsFresh) (me : Nat) : (db.release me).IdsFresh :=
  hI.of_sublist rfl rfl fun i => by
    by_cases hi : i = me
    · subst hi; simp [TxWrites.empty]
    · simp [Db.release, Function.update_noteq hi]

theorem commit (hI : db.IdsFresh) (me : Nat) : (db.commit me).IdsFresh := by
  have hp : ∀ i, ((db.commit me).pending i).inserted = if i = me then [] else (db.pending i).inserted := fun i => by
    by_cases hi : i = me
    · subst hi; simp [TxWrites.empty]
    · simp [Db.release, Function.update_noteq hi, hi]
  have hL : (db.commit me).ledger.transactions = db.ledger.transactions ++ (db.pending me).inserted := rfl
  refine ⟨hI.nextID_pos, fun t ht => ?_, fun i t ht => ?_, ?_, fun i => ?_, fun i t ht t' ht' => ?_,
    fun i j hij t ht t' ht' => ?_⟩
  · rw [hL, List.mem_append] at ht
    exact ht.elim (hI.committed t) (hI.pending me t)
  · rw [hp] at ht
    split_ifs at ht
    · cases ht
    · exact hI.pending i t ht
  · rw [hL, List.map_append, List.nodup_append]
    refine ⟨hI.committed_nodup, hI.pending_nodup me, fun _ h1 h2 => ?_⟩
    obtain ⟨t', ht', rfl⟩ := List.mem_map.mp h1
    obtain ⟨t, ht, he⟩ := List.mem_map.mp h2
    exact hI.pending_committed me t ht t' ht' he
  · rw [hp]; split_ifs; exacts [List.nodup_nil, hI.pending_nodup i]
  · rw [hp] at ht
    split_ifs at ht with hi
    · cases ht
    · rw [hL, List.mem_append] at ht'
      exact ht'.elim (hI.pending_committed i t ht t') (hI.pending_pending i me hi t ht t')
  · rw [hp] at ht ht'
    split_ifs at ht ht' <;> first | cases ht | cases ht' | exact hI.pending_pending i j hij t ht t' ht'

theorem insertNext (hI : db.IdsFresh) (me : Nat) (t : Transaction) :
    ({ db.insert me { t with transactionID := db.nextID } with nextID := db.nextID + 1 } : Db).IdsFresh := by
  set t' : Transaction := { t with transactionID := db.nextID }
  have hp : ∀ i, (({ db.insert me t' with nextID := db.nextID + 1 } : Db).pending i).inserted =
      if i = me then (db.pending me).inserted ++ [t'] else (db.pending i).inserted := fun i => by
    by_cases hi : i = me
    · subst hi; simp
    · simp [Db.insert, Function.update_noteq hi, hi]
  have hmem : ∀ i x, x ∈ (({ db.insert me t' with nextID := db.nextID + 1 } : Db).pending i).inserted ↔
      x ∈ (db.pending i).inserted ∨ (i = me ∧ x = t') := fun i x => by
    rw [hp]
    split_ifs with hi <;> simp [hi]
  have hfresh : ∀ i, ∀ x ∈ (db.pending i).inserted, x.transactionID < t'.transactionID := fun i x hx =>
    (hI.pending i x hx).2
  refine ⟨by simp only; have := hI.nextID_pos; omega, fun x hx => ?_, fun i x hx => ?_, hI.committed_nodup,
    fun i => ?_, fun i x hx x' hx' => ?_, fun i j hij x hx x' hx' => ?_⟩
  · have := hI.committed x hx; simp only; omega
  · rcases (hmem i x).mp hx with hx | ⟨-, rfl⟩
    · have := hI.pending i x hx; simp only; omega
    · have := hI.nextID_pos; simp only [t']; omega
  · rw [hp]
    split_ifs with hi
    · rw [List.map_append, List.nodup_append]
      refine ⟨hI.pending_nodup me, by simp, fun _ h1 h2 => ?_⟩
      obtain ⟨x, hx, rfl⟩ := List.mem_map.mp h1
      rw [List.map_singleton, List.mem_singleton] at h2
      exact ne_of_lt (hfresh me x hx) h2
    · exact hI.pending_nodup i
  · rcases (hmem i x).mp hx with hx | ⟨-, rfl⟩
    · exact hI.pending_committed i x hx x' hx'
    · exact ne_of_gt (hI.committed x' hx').2
  · rcases (hmem i x).mp hx with hold | ⟨rfl, rfl⟩ <;> rcases (hmem j x').mp hx' with hold' | ⟨rfl, rfl⟩
    · exact hI.pending_pending i j hij x hold x' hold'
    · exact ne_of_lt (hfresh i x hold)
    · exact ne_of_gt (hfresh j x' hold')
    · exact absurd rfl hij

theorem create (hI : db.IdsFresh) (acc : Account) (o : Outcome) : (AccountRepository.create db acc o).2.IdsFresh := by
  rcases create_db_cases db acc o with h | ⟨-, h⟩ <;> rw [h]
  exacts [hI, hI.of_sublist rfl rfl fun _ => .refl _]

end Db.IdsFresh

theorem AccountRepository.create_transactions (db : Db) (acc : Account) (o : Outcome) :
    (AccountRepository.create db acc o).2.ledger.transactions = db.ledger.transactions := by
  rcases create_db_cases db acc o with h | ⟨-, h⟩ <;> rw [h]

section Step
variable {a : TransferArgs} {me : Nat} {db db' : Db} {o : Outcome} (P : Db → Prop)

/-- A store property kept by locks, writes, next-id inserts, rollbacks and commits is kept by every statement. -/
theorem stageStep_preserves (hlock : ∀ d x, P d → P (d.lock me x)) (hwrite : ∀ d x b, P d → P (d.write me x b))
    (hinsert : ∀ d (t : Transaction), P d →
      P { d.insert me { t with transactionID := d.nextID } with nextID := d.nextID + 1 })
    (hrelease : ∀ d, P d → P (d.release me)) (hcommit : ∀ d, P d → P (d.commit me)) (hP : P db)
    {st st' : Stage} (h : stageStep a me db o st = some (st', db')) : P db' := by
  have hget : ∀ {id r db1}, AccountRepository.getByIDForUpdate db me id o = some (r, db1) → P db1 :=
    fun h1 => by rcases getByIDForUpdate_db h1 with rfl | ⟨-, rfl⟩; exacts [hP, hlock _ _ hP]
  have hupd : ∀ {id b r db1}, AccountRepository.updateBalance db me id b o = some (r, db1) → P db1 :=
    fun h1 => by rcases updateBalance_db h1 with rfl | ⟨-, rfl⟩; exacts [hP, hwrite _ _ _ (hlock _ _ hP)]
  have hins : ∀ {t r db1}, TransactionRepository.create db me t o = some (r, db1) → P db1 :=
    fun h1 => by rcases create_db h1 with rfl | rfl; exacts [hP, hinsert _ _ hP]
  cases st with
  | begin => rw [(stageStep_begin h).1]; exact hP
  | lockFirst =>
    simp only [stageStep] at h
    split at h <;> cases h <;> rename_i h1
    exacts [hrelease _ (hget h1), hget h1]
  | lockSecond _ =>
    simp only [stageStep] at h
    split at h
    · cases h
    · cases h; rename_i h1; exact hrelease _ (hget h1)
    · rename_i h1
      split at h <;> cases h
      exacts [hrelease _ (hget h1), hget h1]
  | updateSource _ _ | updateDest _ =>
    simp only [stageStep] at h
    split at h <;> cases h <;> rename_i h1
    exacts [hrelease _ (hupd h1), hupd h1]
  | insert =>
    simp only [stageStep] at h
    split at h <;> cases h <;> rename_i h1
    exacts [hrelease _ (hins h1), hins h1]
  | commit _ =>
    rcases stageStep_commit h with ⟨-, -, rfl⟩ | ⟨_, -, -, rfl⟩ | ⟨_, -, -, rfl⟩
    exacts [hcommit _ hP, hrelease _ hP, hcommit _ hP]
  | ended _ => cases h

end Step

section Call
variable {cfg : TransferServiceConfig} {P : Db → Prop}
  (hlock : ∀ d me x, P d → P (d.lock me x)) (hwrite : ∀ d me x b, P d → P (d.write me x b))
  (hinsert : ∀ d me (t : Transaction), P d →
    P { d.insert me { t with transactionID := d.nextID } with nextID := d.nextID + 1 })
  (hrelease : ∀ d me, P d → P (d.release me)) (hcommit : ∀ d me, P d → P (d.commit me))
  (hcreate : ∀ d acc o, P d → P (AccountRepository.create d acc o).2)
include hlock hwrite hinsert hrelease hcommit hcreate

theorem callStep_preserves {i : Nat} {db db' : Db} {o : Outcome} {c c' : Call} (hP : P db)
    (h : callStep cfg i db o c = some (c', db')) : P db' := by
  cases c with
  | transfer a p =>
    cases p with
    | running n st =>
      obtain ⟨⟨st', db1⟩, h1, h2⟩ := Option.map_eq_some'.mp h
      cases h2
      exact stageStep_preserves P (hlock · i) (hwrite · i) (hinsert · i) (hrelease · i) (hcommit · i) hP h1
    | backoff n => simp only [callStep] at h; obtain ⟨-, rfl⟩ := Prod.mk.inj (Option.some.inj h); exact hP
    | finished r => cases h
  | createAccount n p =>
    cases p with
    | checkExists => simp only [callStep] at h; obtain ⟨-, rfl⟩ := Prod.mk.inj (Option.some.inj h); exact hP
    | insert =>
      simp only [callStep] at h
      split at h <;> cases h <;> rename_i hc <;> simpa only [hc] using hcreate db n.account o hP
    | finished r => cases h
  | returned e => cases h

theorem reaches_preserves {allowed : Outcome → Prop} {s0 s : Sys} {h : List Event} (hP : P s0.db)
    (hr : Reaches cfg allowed s0 s h) : P s.db := by
  induction hr with
  | init => exact hP
  | step _ _ hs ih =>
    obtain ⟨c, c', db', -, hstep, rfl⟩ := Sys.step_eq_some hs
    exact callStep_preserves hlock hwrite hinsert hrelease hcommit hcreate ih hstep

end Call

/-- Every store a run reaches from one whose ids are apart keeps them apart. -/
theorem reaches_idsFresh {cfg : TransferServiceConfig} {allowed : Outcome → Prop} {s0 s : Sys} {h : List Event}
    (h0 : s0.db.IdsFresh) (hr : Reaches cfg allowed s0 s h) : s.db.IdsFresh :=
  reaches_preserves (P := Db.IdsFresh) (fun _ me x hd => hd.lock me x) (fun _ me x b hd => hd.write me x b)
    (fun _ me t hd => hd.insertNext me t) (fun _ me hd => hd.release me) (fun _ me hd => hd.commit me)
    (fun _ acc o hd => hd.create acc o) h0 hr

/-- Every call that returned a record has it among the committed ones. -/
def RecordsCommitted (s : Sys) : Prop :=
  ∀ (i : Nat) (a : TransferArgs) (t : Transaction), s.calls[i]? = some (.transfer a (.finished (.ok t))) →
    t ∈ s.db.ledger.transactions

theorem afterStage_finished_ok {cfg : TransferServiceConfig} {n : BitVec 64} {st : Stage} {t : Transaction}
    (h : TransferPhase.afterStage cfg n st = .finished (.ok t)) : st = .ended (.ok t) := by
  unfold TransferPhase.afterStage at h
  split at h
  · rename_i r
    split at h
    · rename_i r' hr
      cases h
      cases r with
      | ok t' => cases hr; rfl
      | error e => obtain ⟨_, h⟩ := afterAttempt_error_finish cfg hr; cases h
    · split_ifs at h
  · cases h

theorem callStep_finished_ok {cfg : TransferServiceConfig} {i : Nat} {db db' : Db} {o : Outcome} {c : Call}
    {a : TransferArgs} {t : Transaction} (hI : CallInv i db c)
    (h : callStep cfg i db o c = some (.transfer a (.finished (.ok t)), db')) : t ∈ db'.ledger.transactions := by
  match c, hI with
  | .transfer a' (.running n st), hI =>
    obtain ⟨⟨st', db1⟩, h1, h2⟩ := Option.map_eq_some'.mp h
    simp only [Prod.mk.injEq, Call.transfer.injEq] at h2
    obtain ⟨⟨rfl, h2⟩, rfl⟩ := h2
    rw [afterStage_finished_ok h2] at h1
    obtain ⟨rfl, -, rfl⟩ := stageStep_ended_ok h1
    obtain ⟨-, -, bs, bd, -, hp⟩ := hI.1
    simp [Ledger.apply, hp]
  | .transfer _ (.backoff _), _ =>
    simp only [callStep] at h
    split at h <;> cases h
  | .transfer _ (.finished _), _ => cases h
  | .createAccount _ _, _ | .returned _, _ => cases callStep_args h

theorem callStep_transactions {cfg : TransferServiceConfig} {i : Nat} {db db' : Db} {o : Outcome} {c c' : Call}
    (h : callStep cfg i db o c = some (c', db')) : db.ledger.transactions <+: db'.ledger.transactions :=
  callStep_preserves (P := fun d => db.ledger.transactions <+: d.ledger.transactions) (fun _ _ _ h => h)
    (fun _ _ _ _ h => h) (fun _ _ _ h => h) (fun _ _ h => h) (fun _ _ h => h.trans (List.prefix_append _ _))
    (fun d acc o (h : _ <+: _) => show _ <+: _ by rw [AccountRepository.create_transactions]; exact h)
    (List.prefix_refl _) h

theorem recordsCommitted_step {cfg : TransferServiceConfig} {s0 s s' : Sys} {h : List Event} {i : Nat}
    {o : Outcome} (hI : Inv s0 s h) (hR : RecordsCommitted s) (hs : s.step cfg i o = some s') :
    RecordsCommitted s' := by
  obtain ⟨c, c', db', hc, hstep, rfl⟩ := Sys.step_eq_some hs
  intro j a t hj
  simp only at hj ⊢
  by_cases hji : i = j
  · subst hji
    rw [List.getElem?_set_self (List.getElem?_eq_some_iff.mp hc).1] at hj
    cases hj
    exact callStep_finished_ok (hI.calls i c hc) hstep
  · rw [List.getElem?_set_ne hji] at hj
    exact (callStep_transactions hstep).subset (hR j a t hj)

theorem Call.start_outcomeEvent_none {cfg : TransferServiceConfig} {newFromString : String → Option ℚ}
    {r : Request} {a : TransferArgs} {res : Except GoError Transaction} :
    Call.start cfg newFromString r ≠ .transfer a (.finished res) := fun h => by
  have : (Call.start cfg newFromString r).outcomeEvent 0 = none := Call.start_outcomeEvent 0 r
  rw [h] at this
  cases this

theorem reaches_recordsCommitted {cfg : TransferServiceConfig} {allowed : Outcome → Prop}
    {newFromString : String → Option ℚ} {db0 : Db} {reqs : List Request} {s : Sys} {h : List Event}
    (hidle : db0.Idle) (hr : Reaches cfg allowed (Sys.init cfg newFromString db0 reqs) s h) : RecordsCommitted s := by
  induction hr with
  | init =>
    intro i a t hi
    simp only [Sys.init, List.getElem?_map, Option.map_eq_some'] at hi
    obtain ⟨r, -, hr⟩ := hi
    exact absurd hr Call.start_outcomeEvent_none
  | step hr' _ hs ih => exact recordsCommitted_step (reaches_inv hidle hr') ih hs

theorem find?_transactionID : ∀ {l : List Transaction}, (l.map (·.transactionID)).Nodup → ∀ t ∈ l,
    l.find? (·.transactionID == t.transactionID) = some t
  | [], _, t, ht => absurd ht (List.not_mem_nil t)
  | x :: l, hnd, t, ht => by
    rw [List.map_cons, List.nodup_cons] at hnd
    rcases List.mem_cons.mp ht with rfl | ht
    · simp
    · have hne : x.transactionID ≠ t.transactionID := fun h => hnd.1 (h ▸ List.mem_map_of_mem _ ht)
      simp [hne, find?_transactionID hnd.2 t ht]

/-- From the empty store: ids distinct, positive, below the sequence; each readable by id; returned ones committed. -/
theorem transaction_ids_unique_and_durable (cfg : TransferServiceConfig) (newFromString : String → Option ℚ)
    (reqs : List Request) (s : Sys) (h : List Event)
    (hr : Reaches cfg (fun _ => True) (Sys.init cfg newFromString Db.empty reqs) s h) :
    (s.db.ledger.transactions.map (·.transactionID)).Nodup ∧
    (∀ t ∈ s.db.ledger.transactions, 0 < t.transactionID ∧ t.transactionID < s.db.nextID ∧
      TransactionRepository.getByID s.db t.transactionID .ok = .ok t) ∧
    ∀ (i : Nat) (a : TransferArgs) (t : Transaction), s.calls[i]? = some (.transfer a (.finished (.ok t))) →
      TransactionRepository.getByID s.db t.transactionID .ok = .ok t := by
  have hF := reaches_idsFresh Db.IdsFresh.empty hr
  have hget : ∀ t ∈ s.db.ledger.transactions, TransactionRepository.getByID s.db t.transactionID .ok = .ok t :=
    fun t ht => by simp [TransactionRepository.getByID, Outcome.failure, find?_transactionID hF.committed_nodup t ht]
  exact ⟨hF.committed_nodup, fun t ht => ⟨(hF.committed t ht).1, (hF.committed t ht).2, hget t ht⟩,
    fun i a t hi => hget t (reaches_recordsCommitted Db.empty_idle hr i a t hi)⟩

theorem transaction_ids_unique_and_durable_open_and_transfer :
    ∃ s h, Reaches defaultTransferConfig (fun _ => True)
        (Sys.init defaultTransferConfig decimalOfString Db.empty openAndTransfer) s h ∧
      (s.db.ledger.transactions.map (·.transactionID)).Nodup ∧
      (∀ t ∈ s.db.ledger.transactions, 0 < t.transactionID ∧ t.transactionID < s.db.nextID ∧
        TransactionRepository.getByID s.db t.transactionID .ok = .ok t) ∧
      ∀ (i : Nat) (a : TransferArgs) (t : Transaction), s.calls[i]? = some (.transfer a (.finished (.ok t))) →
        TransactionRepository.getByID s.db t.transactionID .ok = .ok t := by
  obtain ⟨s, hr⟩ := openAndTransfer_reaches
  exact ⟨s, _, hr, transaction_ids_unique_and_durable _ _ _ _ _ hr⟩

/-- What a listed record does to the balance of `accountID`. -/
def TransactionRow.net (accountID : Int) (row : TransactionRow) : ℚ :=
  (if row.txn.destinationAccountID = accountID then row.txn.amount else 0) -
    (if row.txn.sourceAccountID = accountID then row.txn.amount else 0)

theorem sum_net_filter_touches (accountID : Int) : ∀ rows : List TransactionRow,
    ((rows.filter (·.touches accountID)).map (·.net accountID)).sum = (rows.map (·.net accountID)).sum
  | [] => rfl
  | r :: rows => by
    by_cases hr : r.touches accountID = true
    · simp [List.filter_cons, hr, sum_net_filter_touches accountID rows]
    · have h0 : r.net accountID = 0 := by
        simp only [TransactionRow.touches, Bool.or_eq_true, beq_iff_eq, not_or] at hr
        simp [TransactionRow.net, hr.1, hr.2]
      simp [List.filter_cons, hr, h0, sum_net_filter_touches accountID rows]

theorem sum_net_stamped (createdAt : Transaction → Int) (accountID : Int) : ∀ T : List Transaction,
    ((T.map fun t => (⟨t, createdAt t⟩ : TransactionRow)).map (·.net accountID)).sum =
      ((T.filter (·.destinationAccountID = accountID)).map (·.amount)).sum -
        ((T.filter (·.sourceAccountID = accountID)).map (·.amount)).sum
  | [] => by simp
  | t :: T => by
    have ih := sum_net_stamped createdAt accountID T
    simp only [List.map_cons, List.sum_cons, List.filter_cons] at ih ⊢
    rw [ih]
    by_cases hd : t.destinationAccountID = accountID <;> by_cases hs : t.sourceAccountID = accountID <;>
      simp [TransactionRow.net, hd, hs] <;> ring

/-- From the empty store, ties ordered alike: the account's pages up to the first empty one account for its balance. -/
theorem account_history_accounts_for_balance (cfg : TransferServiceConfig) (newFromString : String → Option ℚ)
    (reqs : List Request) (s : Sys) (h : List Event)
    (hr : Reaches cfg (fun _ => True) (Sys.init cfg newFromString Db.empty reqs) s h)
    (createdAt : Transaction → Int) (scans : ℕ → List TransactionRow)
    (hscan : ∀ k, (scans k).Perm (s.db.ledger.transactions.map fun t => ⟨t, createdAt t⟩))
    (accountID : Int) (b : ℚ) (hb : AccountRepository.getByID s.db accountID .ok = .ok ⟨accountID, b⟩)
    (hties : (∀ k, selectByAccount (scans k) accountID = selectByAccount (scans 0) accountID) ∨
      (((s.db.ledger.transactions.map fun t => (⟨t, createdAt t⟩ : TransactionRow)).filter
        (·.touches accountID)).map (·.createdAt)).Nodup)
    (L : ℕ) (hL : 1 ≤ L ∧ L ≤ 100) (pages : ℕ → List TransactionRow)
    (hpages : ∀ k : ℕ, getAccountTransactions (scans k) .ok accountID L (k * L) = .ok (pages k))
    (m : ℕ) (hm : pages m = []) :
    ∃ b0, opened h accountID = some b0 ∧ b = b0 + (((List.range m).flatMap pages).map (·.net accountID)).sum := by
  have hacc : s.db.ledger.accounts accountID = some b := by
    simp only [AccountRepository.getByID, Outcome.failure] at hb
    split at hb <;> cases hb
    assumption
  obtain ⟨b0, ho, hbal⟩ := (ledgerInv_replay h (reaches_inv Db.empty_idle hr).replay).balance accountID b hacc
  have hrows := selectByAccount_eq_of_ties hscan hties
  set rows := selectByAccount (scans 0) accountID
  have hpage : ∀ k, pages k = (rows.drop (k * L)).take L := fun k => by
    have hk := getAccountTransactions_page (scans k) accountID hL k
    rw [hrows k, hpages k] at hk
    exact Except.ok.inj hk
  have hlen : rows.length ≤ m * L := by
    have h0 := hpage m
    rw [hm, eq_comm, List.take_eq_nil_iff] at h0
    rcases h0 with h0 | h0
    · omega
    · exact List.drop_eq_nil_iff.mp h0
  have hall : (List.range m).flatMap pages = rows := by
    rw [show pages = fun k => (rows.drop (k * L)).take L from funext hpage, flatMap_pages,
      List.take_of_length_le hlen]
  refine ⟨b0, ho, ?_⟩
  rw [hall, ((selectByAccount_perm (hscan 0) accountID).map _).sum_eq, sum_net_filter_touches, sum_net_stamped, hbal,
    inflow, outflow]
  ring

theorem account_history_accounts_for_balance_open_and_transfer :
    ∃ s h b, Reaches defaultTransferConfig (fun _ => True)
        (Sys.init defaultTransferConfig decimalOfString Db.empty openAndTransfer) s h ∧
      AccountRepository.getByID s.db 1 .ok = .ok ⟨1, b⟩ ∧
      ∃ (pages : ℕ → List TransactionRow) (m : ℕ),
        (∀ k : ℕ, getAccountTransactions (s.db.ledger.transactions.map fun t => ⟨t, t.transactionID⟩) .ok 1
          (1 : ℕ) (k * (1 : ℕ)) = .ok (pages k)) ∧ pages m = [] ∧
        ∃ b0, opened h 1 = some b0 ∧ b = b0 + (((List.range m).flatMap pages).map (·.net 1)).sum := by
  obtain ⟨s, hr⟩ := openAndTransfer_reaches
  have hI := ledgerInv_replay _ (reaches_inv Db.empty_idle hr).replay
  obtain ⟨b, hb⟩ := Option.isSome_iff_exists.mp (hI.opened_isSome 1 (by simp [opened, Event.opening, openOne]))
  have hget : AccountRepository.getByID s.db 1 .ok = .ok ⟨1, b⟩ := by
    simp [AccountRepository.getByID, Outcome.failure, hb]
  set scan := s.db.ledger.transactions.map fun t => (⟨t, t.transactionID⟩ : TransactionRow)
  set rows := selectByAccount scan 1
  have hm : (rows.drop (rows.length * 1)).take 1 = [] := by simp
  exact ⟨s, _, b, hr, hget, _, rows.length, getAccountTransactions_page scan 1 (by decide), hm,
    account_history_accounts_for_balance _ _ _ _ _ hr _ (fun _ => scan) (fun _ => List.Perm.refl _) 1 b hget
      (.inl fun _ => rfl) 1 (by decide) _ (getAccountTransactions_page scan 1 (by decide)) _ hm⟩

end InternalTransfers
