import InternalTransfers.Models.Errors
import InternalTransfers.Models.Records
import Mathlib.Data.List.Sort

/-! # An account's transactions, page by page

`TransferService.GetAccountTransactions` clamps its page and calls
`TransactionRepository.GetByAccountID`, whose query is

    SELECT ... FROM transactions
    WHERE source_account_id = $1 OR destination_account_id = $1
    ORDER BY created_at DESC LIMIT $2 OFFSET $3

`created_at` is the `NOW()` of the transaction that inserted the row, and the order has no
second key: rows with the same `created_at` come back in whatever order the query's plan
produces, and every query is planned anew. A query is modelled as the order its plan scans the
table in, any permutation of the rows, followed by a stable sort on `created_at`; these give
exactly the orders SQL allows (`selectByAccount_iff`).
-/
namespace InternalTransfers

/-- A row of the `transactions` table as the query reads it: the record and its `created_at`. -/
structure TransactionRow where
  txn : Transaction
  createdAt : Int
  deriving DecidableEq, Repr

/-- `source_account_id = $1 OR destination_account_id = $1`. -/
def TransactionRow.touches (accountID : Int) (row : TransactionRow) : Bool :=
  row.txn.sourceAccountID == accountID || row.txn.destinationAccountID == accountID

/-- `ORDER BY created_at DESC`: `x` may stand before `y`. -/
def TransactionRow.NotOlder (x y : TransactionRow) : Prop := y.createdAt ≤ x.createdAt

instance instDecidableRelNotOlder : DecidableRel TransactionRow.NotOlder :=
  fun x y => Int.decLe y.createdAt x.createdAt

instance instIsTotalNotOlder : IsTotal TransactionRow TransactionRow.NotOlder :=
  ⟨fun x y => Int.le_total y.createdAt x.createdAt⟩

instance instIsTransNotOlder : IsTrans TransactionRow TransactionRow.NotOlder :=
  ⟨fun _ _ _ h1 h2 => Int.le_trans h2 h1⟩

/-- The rows the query returns before `LIMIT` and `OFFSET`, its plan scanning the table as `scan`. -/
def selectByAccount (scan : List TransactionRow) (accountID : Int) : List TransactionRow :=
  (scan.filter (·.touches accountID)).insertionSort TransactionRow.NotOlder

/-- How reading the rows goes: `Query` fails, a row fails to scan, the iteration fails, or every row is read. -/
inductive RowsOutcome
  | ok
  | queryFailed (e : GoError)
  | scanFailed (e : GoError)
  | iterationFailed (e : GoError)

/-- `TransactionRepository.GetByAccountID` (lines 88-124), the plan scanning the table as `scan`. -/
def TransactionRepository.getByAccountID (scan : List TransactionRow) (o : RowsOutcome)
    (accountID limit offset : Int) : Except GoError (List TransactionRow) :=
  match o with
  | .queryFailed e => .error (.wrapped ("query transactions for account " ++ toString accountID) e)
  | .scanFailed e => .error (.wrapped "scan transaction row" e)
  | .iterationFailed e => .error (.wrapped "iterate transaction rows" e)
  | .ok => .ok (((selectByAccount scan accountID).drop offset.toNat).take limit.toNat)

def defaultPageSize : Int := 20

def maxPageSize : Int := 100

/-- `TransferService.GetAccountTransactions` (lines 278-290). -/
def getAccountTransactions (scan : List TransactionRow) (o : RowsOutcome) (accountID limit offset : Int) :
    Except GoError (List TransactionRow) :=
  let limit := if limit ≤ 0 then defaultPageSize else limit
  let limit := if limit > maxPageSize then maxPageSize else limit
  let offset := if offset < 0 then 0 else offset
  TransactionRepository.getByAccountID scan o accountID limit offset

theorem getAccountTransactions_eq (scan : List TransactionRow) (o : RowsOutcome) (accountID limit offset : Int) :
    getAccountTransactions scan o accountID limit offset =
      TransactionRepository.getByAccountID scan o accountID (if limit ≤ 0 then 20 else min limit 100)
        (max offset 0) := by
  simp only [getAccountTransactions, defaultPageSize, maxPageSize]
  congr 1 <;> split_ifs <;> omega

theorem selectByAccount_perm {scan log : List TransactionRow} (h : scan.Perm log) (accountID : Int) :
    (selectByAccount scan accountID).Perm (log.filter (·.touches accountID)) :=
  (List.perm_insertionSort _ _).trans (h.filter _)

theorem selectByAccount_sorted (scan : List TransactionRow) (accountID : Int) :
    (selectByAccount scan accountID).Sorted TransactionRow.NotOlder :=
  List.sorted_insertionSort _ _

theorem selectByAccount_iff {log rows : List TransactionRow} {accountID : Int} :
    (∃ scan, scan.Perm log ∧ selectByAccount scan accountID = rows) ↔
      rows.Perm (log.filter (·.touches accountID)) ∧ rows.Sorted TransactionRow.NotOlder := by
  constructor
  · rintro ⟨scan, hscan, rfl⟩
    exact ⟨selectByAccount_perm hscan accountID, selectByAccount_sorted scan accountID⟩
  · rintro ⟨hperm, hsorted⟩
    refine ⟨rows ++ log.filter (fun r => !r.touches accountID), ?_, ?_⟩
    · exact (hperm.append_right _).trans (List.filter_append_perm _ _)
    · have hall : ∀ r ∈ rows, r.touches accountID = true := fun r hr => by
        simpa using (List.mem_filter.mp (hperm.subset hr)).2
      simp only [selectByAccount, List.filter_append, List.filter_eq_self.mpr hall]
      rw [List.filter_eq_nil_iff.mpr (by simp), List.append_nil, hsorted.insertionSort_eq]

def TransactionRow.Newer (x y : TransactionRow) : Prop := y.createdAt < x.createdAt

instance instIsAntisymmNewer : IsAntisymm TransactionRow TransactionRow.Newer :=
  ⟨fun _ _ h1 h2 => absurd (Int.lt_trans h1 h2) (Int.lt_irrefl _)⟩

theorem selectByAccount_eq_of_nodup {scan scan' log : List TransactionRow} {accountID : Int}
    (h : scan.Perm log) (h' : scan'.Perm log)
    (hnd : ((log.filter (·.touches accountID)).map (·.createdAt)).Nodup) :
    selectByAccount scan accountID = selectByAccount scan' accountID := by
  have hnewer : ∀ {s : List TransactionRow}, s.Perm log →
      (selectByAccount s accountID).Sorted TransactionRow.Newer := fun {s} hs => by
    have hd : (selectByAccount s accountID).Pairwise (fun x y => x.createdAt ≠ y.createdAt) :=
      List.pairwise_map.mp (((selectByAccount_perm hs accountID).map _).nodup_iff.mpr hnd)
    exact ((selectByAccount_sorted s accountID).and hd).imp fun h => lt_of_le_of_ne h.1 (Ne.symm h.2)
  exact List.eq_of_perm_of_sorted
    ((selectByAccount_perm h accountID).trans (selectByAccount_perm h' accountID).symm) (hnewer h) (hnewer h')

theorem selectByAccount_createdAt_sorted (scan : List TransactionRow) (accountID : Int) :
    ((selectByAccount scan accountID).map (·.createdAt)).Sorted (fun a b : Int => b ≤ a) :=
  List.pairwise_map.mpr (selectByAccount_sorted scan accountID)

theorem selectByAccount_createdAt {scan scan' : List TransactionRow} (h : scan.Perm scan') (accountID : Int) :
    (selectByAccount scan accountID).map (·.createdAt) = (selectByAccount scan' accountID).map (·.createdAt) := by
  haveI : IsAntisymm Int (fun a b : Int => b ≤ a) := ⟨fun _ _ h1 h2 => Int.le_antisymm h2 h1⟩
  exact List.eq_of_perm_of_sorted
    (((selectByAccount_perm h accountID).trans (selectByAccount_perm (.refl scan') accountID).symm).map _)
    (selectByAccount_createdAt_sorted scan accountID) (selectByAccount_createdAt_sorted scan' accountID)

theorem flatMap_pages {α : Type} (rows : List α) (L : ℕ) :
    ∀ m, (List.range m).flatMap (fun k => (rows.drop (k * L)).take L) = rows.take (m * L)
  | 0 => by simp
  | m + 1 => by
    rw [List.range_succ, List.flatMap_append, flatMap_pages rows L m, Nat.succ_mul, List.take_add]
    simp

theorem getAccountTransactions_page (scan : List TransactionRow) (accountID : Int) {n : ℕ} (hn : 1 ≤ n ∧ n ≤ 100)
    (k : ℕ) : getAccountTransactions scan .ok accountID n (k * n) =
      .ok (((selectByAccount scan accountID).drop (k * n)).take n) := by
  have hk : ((k : Int) * n).toNat = k * n := by rw [← Nat.cast_mul, Int.toNat_natCast]
  rw [getAccountTransactions_eq, if_neg (by omega), min_eq_left (by omega),
    max_eq_left (by exact_mod_cast Nat.zero_le (k * n))]
  simp [TransactionRepository.getByAccountID, hk]

theorem selectByAccount_eq_of_ties {log : List TransactionRow} {scans : ℕ → List TransactionRow} {accountID : Int}
    (hscan : ∀ k, (scans k).Perm log)
    (hties : (∀ k, selectByAccount (scans k) accountID = selectByAccount (scans 0) accountID) ∨
      ((log.filter (·.touches accountID)).map (·.createdAt)).Nodup) (k : ℕ) :
    selectByAccount (scans k) accountID = selectByAccount (scans 0) accountID :=
  hties.elim (· k) (selectByAccount_eq_of_nodup (hscan k) (hscan 0))

/-- With `L` in `[1, 100]` and ties ordered alike by every query, the pages hold each row once, newest first. -/
theorem account_pages_list_each_once (log : List TransactionRow) (accountID L : Int)
    (scans : ℕ → List TransactionRow) (hscan : ∀ k, (scans k).Perm log) (hL : 1 ≤ L ∧ L ≤ 100)
    (hties : (∀ k, selectByAccount (scans k) accountID = selectByAccount (scans 0) accountID) ∨
      ((log.filter (·.touches accountID)).map (·.createdAt)).Nodup) :
    (∀ scan o limit offset, getAccountTransactions scan o accountID limit offset =
      TransactionRepository.getByAccountID scan o accountID (if limit ≤ 0 then 20 else min limit 100)
        (max offset 0)) ∧
    ∃ pages : ℕ → List TransactionRow,
      (∀ k : ℕ, getAccountTransactions (scans k) .ok accountID L (k * L) = .ok (pages k)) ∧
      ∀ m : ℕ, ((log.filter (·.touches accountID)).length : Int) ≤ m * L →
        ((List.range m).flatMap pages).Perm (log.filter (·.touches accountID)) ∧
        ((List.range m).flatMap pages).Sorted TransactionRow.NotOlder ∧ ∀ k, m ≤ k → pages k = [] := by
  refine ⟨fun scan o => getAccountTransactions_eq scan o accountID, ?_⟩
  obtain ⟨n, rfl⟩ := Int.eq_ofNat_of_zero_le (by omega : 0 ≤ L)
  have hrows := selectByAccount_eq_of_ties hscan hties
  set rows := selectByAccount (scans 0) accountID
  have hperm : rows.Perm (log.filter (·.touches accountID)) := selectByAccount_perm (hscan 0) accountID
  refine ⟨fun k => (rows.drop (k * n)).take n, fun k => ?_, fun m hm => ?_⟩
  · rw [← hrows k]
    exact getAccountTransactions_page (scans k) accountID (by omega) k
  · have hlen : rows.length ≤ m * n := by rw [hperm.length_eq]; exact_mod_cast hm
    have hall : (List.range m).flatMap (fun k => (rows.drop (k * n)).take n) = rows := by
      rw [flatMap_pages, List.take_of_length_le hlen]
    refine ⟨by rw [hall]; exact hperm, by rw [hall]; exact selectByAccount_sorted _ _, fun k hk => ?_⟩
    simp only [List.drop_eq_nil_of_le (le_trans hlen (Nat.mul_le_mul_right n hk)), List.take_nil]

def twoRowsLog : List TransactionRow := [⟨⟨2, 2, 1, 5⟩, 20⟩, ⟨⟨3, 3, 4, 1⟩, 15⟩, ⟨⟨1, 1, 2, 5⟩, 10⟩]

theorem account_pages_list_each_once_two_rows :
    (∀ k : ℕ, ((fun _ => twoRowsLog) k).Perm twoRowsLog) ∧ ((1 : Int) ≤ 1 ∧ (1 : Int) ≤ 100) ∧
    ((∀ k : ℕ, selectByAccount ((fun _ => twoRowsLog) k) 1 = selectByAccount ((fun _ => twoRowsLog) 0) 1) ∨
      ((twoRowsLog.filter (·.touches 1)).map (·.createdAt)).Nodup) ∧
    (∀ scan o limit offset, getAccountTransactions scan o 1 limit offset =
      TransactionRepository.getByAccountID scan o 1 (if limit ≤ 0 then 20 else min limit 100)
        (max offset 0)) ∧
    ∃ pages : ℕ → List TransactionRow,
      (∀ k : ℕ, getAccountTransactions twoRowsLog .ok 1 1 (k * 1) = .ok (pages k)) ∧
      ∀ m : ℕ, ((twoRowsLog.filter (·.touches 1)).length : Int) ≤ m * 1 →
        ((List.range m).flatMap pages).Perm (twoRowsLog.filter (·.touches 1)) ∧
        ((List.range m).flatMap pages).Sorted TransactionRow.NotOlder ∧ ∀ k, m ≤ k → pages k = [] :=
  ⟨fun _ => List.Perm.refl _, by decide, .inl fun _ => rfl,
    account_pages_list_each_once twoRowsLog 1 1 (fun _ => twoRowsLog) (fun _ => List.Perm.refl _) (by decide)
      (.inl fun _ => rfl)⟩

def tiedA : TransactionRow := ⟨⟨1, 1, 2, 5⟩, 0⟩

def tiedB : TransactionRow := ⟨⟨2, 2, 1, 5⟩, 0⟩

def manyRows : List TransactionRow := (List.range 101).map fun i : ℕ => ⟨⟨(i : Int), 1, 2, 1⟩, (i : Int)⟩

theorem selectByAccount_length {scan log : List TransactionRow} (h : scan.Perm log) {accountID : Int}
    (hall : ∀ r ∈ log, r.touches accountID = true) : (selectByAccount scan accountID).length = log.length := by
  rw [(selectByAccount_perm h accountID).length_eq, List.filter_eq_self.mpr hall]

/-- Tied rows split across two queries: one row twice and one never; a limit of 0 or 101 also skips or repeats rows. -/
theorem account_pages_skip_and_repeat :
    [tiedB, tiedA].Perm [tiedA, tiedB] ∧
    getAccountTransactions [tiedA, tiedB] .ok 1 1 0 = .ok [tiedA] ∧
    getAccountTransactions [tiedB, tiedA] .ok 1 1 1 = .ok [tiedA] ∧
    (∀ scan : List TransactionRow, scan.Perm [tiedA, tiedB] → ∀ k : ℕ, 2 ≤ k →
      getAccountTransactions scan .ok 1 1 (k * 1) = .ok []) ∧
    (∀ k : ℕ, getAccountTransactions [tiedA] .ok 1 0 (k * 0) = .ok [tiedA]) ∧
    manyRows.length = 101 ∧ (∀ r ∈ manyRows, r.touches 1 = true) ∧
    ∀ scan, scan.Perm manyRows →
      (∃ p, getAccountTransactions scan .ok 1 101 0 = .ok p ∧ p.length = 100) ∧
      ∀ k : ℕ, 1 ≤ k → getAccountTransactions scan .ok 1 101 (k * 101) = .ok [] := by
  have hmany : ∀ r ∈ manyRows, r.touches 1 = true := fun r hr => by
    obtain ⟨i, -, rfl⟩ := List.mem_map.mp hr
    rfl
  have hlen : manyRows.length = 101 := by rw [manyRows, List.length_map, List.length_range]
  refine ⟨List.Perm.swap _ _ _, rfl, rfl, fun scan hscan k hk => ?_, fun k => ?_, hlen, hmany,
    fun scan hscan => ⟨⟨(selectByAccount scan 1).take 100, ?_, ?_⟩, fun k hk => ?_⟩⟩
  · have h2 : (selectByAccount scan 1).length = 2 := selectByAccount_length hscan (by decide)
    simp only [getAccountTransactions_eq, TransactionRepository.getByAccountID]
    rw [List.drop_eq_nil_of_le (by rw [h2]; omega)]
    rfl
  · simp only [getAccountTransactions_eq, TransactionRepository.getByAccountID]
    rfl
  · simp only [getAccountTransactions_eq, TransactionRepository.getByAccountID]
    rfl
  · have h101 := selectByAccount_length hscan hmany
    simp [h101, hlen]
  · have h101 := selectByAccount_length hscan hmany
    simp only [getAccountTransactions_eq, TransactionRepository.getByAccountID]
    rw [List.drop_eq_nil_of_le (by simp [h101, hlen]; omega)]
    rfl

/-- With `L` in `[1, 100]` and each query planned anew, the pages keep the account's rows newest first. -/
theorem account_pages_keep_time_order (log : List TransactionRow) (accountID : Int) (L : ℕ)
    (hL : 1 ≤ L ∧ L ≤ 100) (scans : ℕ → List TransactionRow) (hscan : ∀ k, (scans k).Perm log)
    (pages : ℕ → List TransactionRow)
    (hpages : ∀ k : ℕ, getAccountTransactions (scans k) .ok accountID L (k * L) = .ok (pages k)) (m : ℕ) :
    (∀ row ∈ (List.range m).flatMap pages, row ∈ log ∧ row.touches accountID = true) ∧
    ((List.range m).flatMap pages).map (·.createdAt) =
      ((selectByAccount log accountID).map (·.createdAt)).take (m * L) ∧
    ((List.range m).flatMap pages).Sorted TransactionRow.NotOlder := by
  have hpage : ∀ k, pages k = ((selectByAccount (scans k) accountID).drop (k * L)).take L := fun k =>
    Except.ok.inj ((hpages k).symm.trans (getAccountTransactions_page _ _ hL k))
  have hkeys : ((List.range m).flatMap pages).map (·.createdAt) =
      ((selectByAccount log accountID).map (·.createdAt)).take (m * L) := by
    simp only [List.map_flatMap, hpage, List.map_take, List.map_drop, selectByAccount_createdAt (hscan _)]
    exact flatMap_pages _ L m
  refine ⟨fun row hrow => ?_, hkeys, ?_⟩
  · obtain ⟨k, -, hk⟩ := List.mem_flatMap.mp hrow
    rw [hpage k] at hk
    simpa using (selectByAccount_perm (hscan k) accountID).subset
      (List.mem_of_mem_drop (List.mem_of_mem_take hk))
  · refine (List.pairwise_map (R := fun a b : Int => b ≤ a)).mp ?_
    rw [hkeys]
    exact (selectByAccount_createdAt_sorted log accountID).sublist (List.take_sublist _ _)

def alternatingScans (k : ℕ) : List TransactionRow := if k % 2 = 0 then [tiedA, tiedB] else [tiedB, tiedA]

theorem account_pages_keep_time_order_tied :
    ((1 : ℕ) ≤ 1 ∧ (1 : ℕ) ≤ 100) ∧ (∀ k, (alternatingScans k).Perm [tiedA, tiedB]) ∧
    (∀ k : ℕ, getAccountTransactions (alternatingScans k) .ok 1 (1 : ℕ) (k * (1 : ℕ)) =
      .ok (((selectByAccount (alternatingScans k) 1).drop (k * 1)).take 1)) ∧
    (∀ row ∈ (List.range 2).flatMap (fun k => ((selectByAccount (alternatingScans k) 1).drop (k * 1)).take 1),
      row ∈ [tiedA, tiedB] ∧ row.touches 1 = true) ∧
    ((List.range 2).flatMap (fun k => ((selectByAccount (alternatingScans k) 1).drop (k * 1)).take 1)).map
      (·.createdAt) = ((selectByAccount [tiedA, tiedB] 1).map (·.createdAt)).take (2 * 1) ∧
    ((List.range 2).flatMap (fun k => ((selectByAccount (alternatingScans k) 1).drop (k * 1)).take 1)).Sorted
      TransactionRow.NotOlder := by
  have hscan : ∀ k, (alternatingScans k).Perm [tiedA, tiedB] := fun k => by
    unfold alternatingScans
    split
    exacts [.refl _, .swap _ _ _]
  have hpages : ∀ k : ℕ, getAccountTransactions (alternatingScans k) .ok 1 (1 : ℕ) (k * (1 : ℕ)) =
      .ok (((selectByAccount (alternatingScans k) 1).drop (k * 1)).take 1) :=
    fun k => getAccountTransactions_page _ _ (by decide) k
  exact ⟨by decide, hscan, hpages,
    account_pages_keep_time_order [tiedA, tiedB] 1 1 (by decide) alternatingScans hscan _ hpages 2⟩

end InternalTransfers
