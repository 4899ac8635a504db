import InternalTransfers.Service.Transfer
import InternalTransfers.Service.Execute

/-! # `Transfer` on the store

`TransferService.Transfer` with its attempts run by `executeTransfer` in session `me`; the
`k`-th attempt meets the statement outcomes `faults k`. No other session moves while the call
runs: the interleaved store is the subject of the concurrent modules.
-/
namespace InternalTransfers

def transferOnStore (cfg : TransferServiceConfig) (newFromString : String → Option ℚ)
    (req : CreateTransactionRequest) (me : Nat) (faults : ℕ → ℕ → Outcome) (ctxDone : ℕ → Option GoError)
    (fuel : ℕ) (db : Db) : Option (Except GoError Transaction × Db × ℕ) :=
  transfer cfg newFromString req (fun a k => executeTransfer a me (faults k)) ctxDone fuel db

theorem validate_ids {newFromString : String → Option ℚ} {req : CreateTransactionRequest} {a : TransferArgs}
    (h : validate newFromString req = .ok a) :
    a.sourceID = req.sourceAccountID ∧ a.destID = req.destinationAccountID := by
  unfold validate at h
  split at h
  · cases h
  · split at h
    · cases h
    · split at h <;> cases h; exact ⟨rfl, rfl⟩

section Alone
variable {a : TransferArgs} {me : Nat} {db : Db}

theorem executeTransfer_alone (hp : db.pending me = .empty) (hs : db.heldByOther me a.sourceID = false)
    (hd : db.heldByOther me a.destID = false) :
    ∃ db', executeTransfer a me (fun _ => .ok) db = some ((serialTransfer a db.nextID db.ledger).1, db') ∧
      db'.ledger = (serialTransfer a db.nextID db.ledger).2 ∧
      ∀ e, (serialTransfer a db.nextID db.ledger).1 = .error e → db'.nextID = db.nextID := by
  obtain ⟨r, db', hexec, -, -, herr, hok⟩ := executeTransfer_reaching_commit a me _ db (fun _ _ => rfl) hp hs hd
  rcases serialTransfer_cases (a := a) db.nextID db.ledger with ⟨e, he, -, hL⟩ | ht
  · obtain ⟨rfl, hl, hn⟩ := herr e he
    exact ⟨db', by rw [hexec, he], hl.trans hL.symm, fun _ _ => hn⟩
  · obtain ⟨rfl, hl⟩ := (hok _ ht).2.1 rfl
    exact ⟨db', by rw [hexec, ht], hl, fun e he => by rw [ht] at he; cases he⟩

theorem transferOnStore_alone {cfg : TransferServiceConfig} {newFromString : String → Option ℚ}
    {req : CreateTransactionRequest} {fuel : ℕ} (ctxDone : ℕ → Option GoError)
    (hlo : 0 ≤ cfg.maxRetries.toInt) (hfuel : 0 < fuel) (ha : validate newFromString req = .ok a)
    (hp : db.pending me = .empty) (hs : db.heldByOther me a.sourceID = false)
    (hd : db.heldByOther me a.destID = false) :
    ∃ db', transferOnStore cfg newFromString req me (fun _ _ => .ok) ctxDone fuel db =
        some ((serialTransfer a db.nextID db.ledger).1, db', 1) ∧
      db'.ledger = (serialTransfer a db.nextID db.ledger).2 ∧
      ∀ e, (serialTransfer a db.nextID db.ledger).1 = .error e → db'.nextID = db.nextID := by
  obtain ⟨db', hexec, hl, hn⟩ := executeTransfer_alone hp hs hd
  obtain ⟨fuel, rfl⟩ : ∃ f, fuel = f + 1 := ⟨fuel - 1, by omega⟩
  have h0 : (0 : BitVec 64).sle cfg.maxRetries = true := by simpa [BitVec.sle] using hlo
  refine ⟨db', ?_, hl, hn⟩
  simp only [transferOnStore, transfer, ha, TransferServiceConfig.runLoop, h0, if_true,
    TransferServiceConfig.retryLoop, hexec, Option.some_bind]
  rcases serialTransfer_cases (a := a) db.nextID db.ledger with ⟨e, he, hk, -⟩ | ht
  · rcases hk with rfl | rfl <;> simp [he, TransferServiceConfig.afterAttempt]
  · simp [ht, TransferServiceConfig.afterAttempt]

end Alone

/-- Alone, every statement succeeding: `Transfer` decides as the code checks, and only a success changes the tables. -/
theorem transfer_alone_decides (cfg : TransferServiceConfig) (newFromString : String → Option ℚ)
    (req : CreateTransactionRequest) (me : Nat) (ctxDone : ℕ → Option GoError) (fuel : ℕ) (db : Db)
    (hlo : 0 ≤ cfg.maxRetries.toInt) (hfuel : 0 < fuel) (hp : db.pending me = .empty)
    (hs : db.heldByOther me req.sourceAccountID = false) (hd : db.heldByOther me req.destinationAccountID = false) :
    ∃ r db' k, transferOnStore cfg newFromString req me (fun _ _ => .ok) ctxDone fuel db = some (r, db', k) ∧
      (r = .error errSameAccount ↔ req.sourceAccountID = req.destinationAccountID) ∧
      (req.sourceAccountID ≠ req.destinationAccountID →
        (r = .error errInvalidAmount ↔ ∀ x, parseMoney newFromString req.amount = some x → x ≤ 0)) ∧
      (∀ amount, req.sourceAccountID ≠ req.destinationAccountID →
        parseMoney newFromString req.amount = some amount → 0 < amount →
        (r = .error errAccountNotFound ↔
          db.ledger.accounts req.sourceAccountID = none ∨ db.ledger.accounts req.destinationAccountID = none) ∧
        ∀ bs bd, db.ledger.accounts req.sourceAccountID = some bs →
          db.ledger.accounts req.destinationAccountID = some bd →
          (r = .error errInsufficientBalance ↔ bs < amount) ∧
          (amount ≤ bs →
            r = .ok ⟨db.nextID, req.sourceAccountID, req.destinationAccountID, amount⟩ ∧
            db'.ledger.accounts req.sourceAccountID = some (bs - amount) ∧
            db'.ledger.accounts req.destinationAccountID = some (bd + amount) ∧
            (∀ z, z ≠ req.sourceAccountID → z ≠ req.destinationAccountID →
              db'.ledger.accounts z = db.ledger.accounts z) ∧
            db'.ledger.transactions =
              db.ledger.transactions ++ [⟨db.nextID, req.sourceAccountID, req.destinationAccountID, amount⟩])) ∧
      (∀ e, r = .error e → db'.ledger = db.ledger ∧ db'.nextID = db.nextID) := by
  have hrej : ∀ e, validate newFromString req = .error e →
      transferOnStore cfg newFromString req me (fun _ _ => .ok) ctxDone fuel db = some (.error e, db, 0) :=
    fun e he => by simp only [transferOnStore, transfer, he]
  by_cases hsame : req.sourceAccountID = req.destinationAccountID
  · exact ⟨_, _, _, hrej errSameAccount (by simp [validate, hsame]), by simp [hsame], fun h => absurd hsame h,
      fun _ h => absurd hsame h, fun _ _ => ⟨rfl, rfl⟩⟩
  rcases hparse : parseMoney newFromString req.amount with _ | x
  · exact ⟨_, _, _, hrej errInvalidAmount (by simp [validate, hsame, hparse]),
      by simp [hsame, errInvalidAmount, errSameAccount], fun _ => (by simp), fun _ _ h => (by cases h),
      fun _ _ => ⟨rfl, rfl⟩⟩
  by_cases hx : x ≤ 0
  · exact ⟨_, _, _, hrej errInvalidAmount (by simp [validate, hsame, hparse, hx]),
      by simp [hsame, errInvalidAmount, errSameAccount], fun _ => (by simpa using hx),
      fun _ _ h hpos => absurd hx (not_le.mpr (Option.some.inj h ▸ hpos)), fun _ _ => ⟨rfl, rfl⟩⟩
  have hpos : 0 < x := lt_of_not_le hx
  obtain ⟨db', hrun, hl, hn⟩ := transferOnStore_alone ctxDone hlo hfuel
    (validate_eq_ok hsame hparse hpos) hp hs hd
  have hne : req.destinationAccountID ≠ req.sourceAccountID := Ne.symm hsame
  refine ⟨_, db', 1, hrun, ?_, fun _ => ?_, fun amount _ h _ => ?_, fun e he => ?_⟩
  · rcases serialTransfer_cases (a := ⟨_, _, x, hsame, hpos⟩) db.nextID db.ledger with ⟨e, he, hk, -⟩ | ht
    · rw [he]; rcases hk with rfl | rfl <;> simp [hsame, errAccountNotFound, errInsufficientBalance, errSameAccount]
    · rw [ht]; simp [hsame]
  · rcases serialTransfer_cases (a := ⟨_, _, x, hsame, hpos⟩) db.nextID db.ledger with ⟨e, he, hk, -⟩ | ht
    · rw [he]; rcases hk with rfl | rfl <;>
        simp [hx, errAccountNotFound, errInsufficientBalance, errInvalidAmount]
    · rw [ht]; simp [hx]
  · obtain rfl : x = amount := Option.some.inj h
    refine ⟨?_, fun bs bd hbs hbd => ?_⟩
    · rcases hs' : db.ledger.accounts req.sourceAccountID with _ | bs <;>
        rcases hd' : db.ledger.accounts req.destinationAccountID with _ | bd <;>
        simp only [serialTransfer, hs', hd'] <;> (try split_ifs) <;>
        simp [errAccountNotFound, errInsufficientBalance]
    · simp only [serialTransfer, hbs, hbd] at hl ⊢
      split_ifs at hl ⊢ with hlow
      · simp [hlow]
      · refine ⟨by simp [hlow], fun _ => ⟨rfl, ?_, ?_, fun z hz1 hz2 => ?_, ?_⟩⟩ <;>
          simp [hl, Function.update_noteq, hne, *]
  · rcases serialTransfer_cases (a := ⟨_, _, x, hsame, hpos⟩) db.nextID db.ledger with ⟨e', he', -, hL⟩ | ht
    · exact ⟨hl.trans hL, hn e' he'⟩
    · rw [ht] at he; cases he

theorem transfer_alone_decides_two_accounts :
    0 ≤ defaultTransferConfig.maxRetries.toInt ∧ twoAccounts.pending 0 = .empty ∧
      twoAccounts.heldByOther 0 1 = false ∧ twoAccounts.heldByOther 0 2 = false ∧
      ∃ r db' k, transferOnStore defaultTransferConfig decimalOfString ⟨1, 2, "100"⟩ 0 (fun _ _ => .ok)
        (fun _ => none) 4 twoAccounts = some (r, db', k) ∧ r = .ok ⟨1, 1, 2, 100⟩ := by
  obtain ⟨r, db', k, h, -, -, hmain, -⟩ := transfer_alone_decides defaultTransferConfig decimalOfString
    ⟨1, 2, "100"⟩ 0 (fun _ => none) 4 twoAccounts (by decide) (by decide) rfl rfl rfl
  obtain ⟨-, hok⟩ := (hmain 100 (by decide) parseMoney_100 (by decide)).2 1000 0 rfl rfl
  exact ⟨by decide, rfl, rfl, rfl, r, db', k, h, (hok (by decide)).1⟩

theorem isRetryable_beginTx_error (d : GoError) :
    isRetryable (wrapError .databaseError "failed to begin transaction" (some (.wrapped "begin transaction" d))) =
      isRetryable d := by
  simp only [wrapError, isRetryable_wrapDomain, isRetryable_wrapped]
  rw [show retryableText (ErrorCode.databaseError.text ++ ": " ++ "failed to begin transaction") = false by decide,
    show retryableText "begin transaction" = false by decide]
  rfl

/-- A missing account or short balance ends the call at once; a failed `BeginTx` ends it exactly when not retryable. -/
theorem transfer_fatal_errors (cfg : TransferServiceConfig) (a : TransferArgs) (me : Nat)
    (faults : ℕ → ℕ → Outcome) (ctxDone : ℕ → Option GoError) (fuel k : ℕ) (n : BitVec 64) (db db' : Db)
    (e : GoError) (h : executeTransfer a me (faults k) db = some (.error e, db')) :
    ((e = errAccountNotFound ∨ e = errInsufficientBalance) →
      cfg.retryLoop (fun j => executeTransfer a me (faults j)) ctxDone (fuel + 1) k n db =
        some (.error e, db', k + 1)) ∧
    ∀ d, (faults k 0).failure = some d →
      Except.error e = dbErr "failed to begin transaction" (.wrapped "begin transaction" d) ∧ db' = db ∧
      (isRetryable d = false →
        cfg.retryLoop (fun j => executeTransfer a me (faults j)) ctxDone (fuel + 1) k n db =
          some (.error e, db', k + 1)) ∧
      (isRetryable d = true → (n + 1).sle cfg.maxRetries = true → ctxDone (k + 1) = none →
        cfg.retryLoop (fun j => executeTransfer a me (faults j)) ctxDone (fuel + 1) k n db =
          cfg.retryLoop (fun j => executeTransfer a me (faults j)) ctxDone fuel (k + 1) (n + 1) db) := by
  refine ⟨by rintro (rfl | rfl) <;> exact retryLoop_fatal _ _ _ h (by simp), fun d hd => ?_⟩
  have hb : executeTransfer a me (faults k) db = _ := executeTransfer_beginTx_failure hd
  rw [hb] at h
  obtain ⟨he, rfl⟩ := Prod.mk.inj (Option.some.inj h)
  have hr : isRetryable e = isRetryable d := by
    cases he; exact isRetryable_beginTx_error d
  refine ⟨he.symm, rfl, fun hd' => retryLoop_fatal _ _ _ (hb.trans (by rw [he])) (hr.trans hd'),
    fun hd' hn hc => retryLoop_retry _ _ _ (hb.trans (by rw [he])) (hr.trans hd') hn hc⟩

theorem transfer_fatal_errors_missing_account :
    executeTransfer unitTransfer 0 (fun _ => .ok) Db.empty =
        some (.error errAccountNotFound, Db.empty.release 0) ∧
      defaultTransferConfig.retryLoop (fun j => executeTransfer unitTransfer 0
          ((fun _ _ => .ok : ℕ → ℕ → Outcome) j)) (fun _ => none) 4 0 0 Db.empty =
        some (.error errAccountNotFound, Db.empty.release 0, 1) :=
  ⟨rfl, (transfer_fatal_errors defaultTransferConfig unitTransfer 0 (fun _ _ => .ok)
    (fun _ => none) 3 0 0 Db.empty _ _ rfl).1 (.inl rfl)⟩

/-- A `BeginTx` refused with a connection error is retried, and the call succeeds on its second attempt. -/
theorem transfer_retries_beginTx_connection_error :
    (transferOnStore defaultTransferConfig decimalOfString ⟨1, 2, "100"⟩ 0
        (fun k j => if k = 0 ∧ j = 0 then .fail (.text "dial tcp 127.0.0.1:5432: connect: connection refused")
          else .ok)
        (fun _ => none) 4
        twoAccounts).map (fun x => (x.1, x.2.2)) =
      some (.ok ⟨1, 1, 2, 100⟩, 2) := by
  set a : TransferArgs := ⟨1, 2, 100, by decide, by norm_num⟩
  set faults : ℕ → ℕ → Outcome := fun k j =>
    if k = 0 ∧ j = 0 then .fail (.text "dial tcp 127.0.0.1:5432: connect: connection refused") else .ok
  have h0 : executeTransfer a 0 (faults 0) twoAccounts = _ := executeTransfer_beginTx_failure (by simp [faults]; rfl)
  have hf1 : faults 1 = fun _ => .ok := by funext j; simp [faults]
  obtain ⟨db1, h1, -, -⟩ := @executeTransfer_alone a 0 twoAccounts rfl rfl rfl
  rw [← hf1, @serialTransfer_ok a twoAccounts.nextID twoAccounts.ledger 1000 0 rfl rfl (by decide)] at h1
  have h00 : (0 : BitVec 64).sle defaultTransferConfig.maxRetries = true := by decide
  have hv : validate decimalOfString ⟨1, 2, "100"⟩ = .ok a := validate_eq_ok (by decide) parseMoney_100 (by norm_num)
  simp only [transferOnStore, transfer, hv, TransferServiceConfig.runLoop, h00, if_true]
  rw [retryLoop_retry _ (fun k => executeTransfer a 0 (faults k)) _ h0 (by decide) (by decide) rfl,
    retryLoop_ok _ (fun k => executeTransfer a 0 (faults k)) _ h1]
  rfl

end InternalTransfers
