import InternalTransfers.Handler.Responses
import InternalTransfers.Concurrent.Solo
import InternalTransfers.Concurrent.Accounts

/-! # Every answer of the handlers

What `CreateTransaction`, `CreateAccount` and `GetAccount` can answer, over every request body
and every run of the service with any statement failing and the context ending at any time. The driver's and the
context's errors are not `*DomainError`s, and hold none in their chains.

An attempt of `Transfer` ends with a missing account, a short balance, a `DatabaseError`, or the
driver's error of a locking read, which `GetByIDForUpdate` wraps with `fmt.Errorf` only; the
retry loop adds `TransactionFailed` and the context's error. `handleServiceError` answers an
error whose chain holds no `*DomainError` 400 `invalid_json` when the chain holds `io.EOF`, so a
driver `io.EOF` at a locking read, or at the read of `GetAccount`, is answered as an empty
request body. `CreateAccount` wraps every store error in a `DatabaseError`, and answers such an
error 500.
-/
namespace InternalTransfers

/-- The first `*DomainError` of a `Transfer` error: none, not found, short balance, a database or retry failure. -/
def TransferError (e : GoError) : Prop :=
  e.asDomain = none ∨ e.asDomain = errAccountNotFound.asDomain ∨ e.asDomain = errInsufficientBalance.asDomain ∨
    ∃ m, e.asDomain = some (.databaseError, m) ∨ e.asDomain = some (.transactionFailed, m)

theorem TransferError.dbErr (m : String) (d : GoError) : TransferError (wrapError .databaseError m (some d)) :=
  .inr (.inr (.inr ⟨m, .inl rfl⟩))

theorem TransferError.wrapped {ctx : String} {d : GoError} (hd : d.asDomain = none) :
    TransferError (.wrapped ctx d) :=
  .inl hd

theorem exhausted_transferError (last : Option GoError) : TransferError (TransferServiceConfig.exhausted last) := by
  cases last <;> exact .inr (.inr (.inr ⟨_, .inr rfl⟩))

section Stage
variable {a : TransferArgs} {me : Nat} {db db' : Db} {o : Outcome} {e : GoError}
  (ho : ∀ d, o.failure = some d → d.asDomain = none)
include ho

theorem getByIDForUpdate_transferError {id : Int}
    (h : AccountRepository.getByIDForUpdate db me id o = some (.error e, db')) : TransferError e := by
  obtain ⟨-, ⟨d, hd, he, -⟩ | ⟨-, -, he, -⟩ | ⟨_, _, _, he, _⟩⟩ := AccountRepository.getByIDForUpdate_eq_some h <;>
    cases he
  exacts [.wrapped (ho d hd), .inr (.inl rfl)]

theorem stageStep_transferError :
    ∀ {st : Stage}, stageStep a me db o st = some (.ended (.error e), db') → TransferError e
  | .begin, h => by
    obtain ⟨-, ⟨d, -, hst⟩ | ⟨-, hst⟩⟩ := stageStep_begin h <;> cases hst
    exact .dbErr _ _
  | .lockFirst, h => by
    simp only [stageStep] at h
    split at h <;> cases h
    exact getByIDForUpdate_transferError ho ‹_›
  | .lockSecond _, h => by
    simp only [stageStep] at h
    split at h
    · cases h
    · cases h
      exact getByIDForUpdate_transferError ho ‹_›
    · split_ifs at h <;> cases h
      exact .inr (.inr (.inl rfl))
  | .updateSource _ _, h | .updateDest _, h | .insert, h | .commit _, h => by
    simp only [stageStep] at h
    split at h <;> cases h <;> exact .dbErr _ _
  | .ended _, h => by cases h

end Stage

theorem executeTransfer_transferError {a : TransferArgs} {me : Nat} {f : ℕ → Outcome} {db db' : Db} {e : GoError}
    (hf : ∀ k d, (f k).failure = some d → d.asDomain = none) (h : executeTransfer a me f db = some (.error e, db')) :
    TransferError e :=
  runStages_invariant (fun s => ∀ e, s.1 = .ended (.error e) → TransferError e)
    (fun st _ _ _ _ hs e he => by dsimp only at he; subst he; exact stageStep_transferError (hf st.index) hs)
    7 (.begin, db) _ (fun _ he => by cases he) (executeTransfer_eq_some h) e rfl

section Loop
variable {σ : Type} {cfg : TransferServiceConfig} {exec : ℕ → σ → Option (Except GoError Transaction × σ)}
  {ctxDone : ℕ → Option GoError}

theorem retryLoop_transferError (hexec : ∀ k s e s', exec k s = some (.error e, s') → TransferError e)
    (hctx : ∀ k d, ctxDone k = some d → d.asDomain = none) :
    ∀ fuel k n st e st' m, cfg.retryLoop exec ctxDone fuel k n st = some (.error e, st', m) → TransferError e
  | 0, _, _, _, _, _, _, h => by cases h
  | fuel + 1, k, n, st, e, st', m, h => by
    simp only [TransferServiceConfig.retryLoop] at h
    obtain ⟨⟨r0, s1⟩, h0, h⟩ := Option.bind_eq_some.mp h
    split at h
    · rename_i r hr
      cases h
      cases r0 with
      | ok t => cases hr
      | error e0 =>
        cases hrt : isRetryable e0 <;> simp only [TransferServiceConfig.afterAttempt, hrt, Bool.not_false,
          Bool.not_true, Bool.false_eq_true, if_true, if_false] at hr
        · cases hr; exact hexec _ _ _ _ h0
        · split_ifs at hr; cases hr; exact exhausted_transferError _
    · split_ifs at h
      · split at h
        · cases h; exact .inl (hctx _ _ ‹_›)
        · exact retryLoop_transferError hexec hctx fuel _ _ _ _ _ _ h
      · exact retryLoop_transferError hexec hctx fuel _ _ _ _ _ _ h

end Loop

/-- The failures the transfer handler answers a request the validator accepted with. -/
def transferFailures : List (ℕ × String × String) :=
  [(404, "account_not_found", "account not found"),
    (422, "insufficient_balance", "insufficient balance for this transaction"),
    (400, "request_cancelled", "Request was cancelled"), (504, "timeout", "Request timed out"),
    (400, "invalid_json", "Request body is empty"), internalError]

theorem handleServiceError_transferError (sn : Sentinels) {e : GoError} (he : TransferError e) :
    handleServiceError sn e ∈ transferFailures := by
  rcases handleServiceError_cases sn e with h | h | ⟨code, message, hd, h⟩ | ⟨-, h | h⟩ <;> rw [h]
  · simp [transferFailures]
  · simp [transferFailures]
  · rcases he with h0 | h0 | h0 | ⟨m, h0 | h0⟩ <;> rw [h0] at hd <;> cases hd <;> simp [transferFailures, mapDomainError, internalError, ErrorCode.text]
  · simp [transferFailures]
  · simp [transferFailures]

theorem createTransaction_decoded_answers (cfg : TransferServiceConfig) (newFromString : String → Option ℚ)
    (sn : Sentinels) (me : Nat) (faults : ℕ → ℕ → Outcome) (ctxDone : ℕ → Option GoError) (fuel : ℕ)
    (hdriver : ∀ k j d, (faults k j).failure = some d → d.asDomain = none)
    (hctx : ∀ k d, ctxDone k = some d → d.asDomain = none) (req : CreateTransactionRequest) (db : Db)
    (resp : Response Transaction) (db' : Db)
    (h : createTransaction newFromString sn (transferService cfg newFromString me faults ctxDone fuel) req db =
      some (resp, db')) :
    (∃ errs, errs ≠ [] ∧ resp = .validationFailed errs ∧ db' = db) ∨
    (∃ id amount, parseMoney newFromString req.amount = some amount ∧
      resp = .success 201 ⟨id, req.sourceAccountID, req.destinationAccountID, amount⟩) ∨
    ∃ status code message, resp = .error status code message ∧ (status, code, message) ∈ transferFailures := by
  unfold createTransaction at h
  split at h
  · rename_i hv
    obtain ⟨-, -, hne, amount, hp, hpos⟩ := validateCreateTransaction_eq_nil.mp hv
    have ha := validate_eq_ok hne hp hpos
    obtain ⟨⟨r, db1⟩, hrun, hresp⟩ := Option.map_eq_some'.mp h
    cases hresp
    obtain ⟨⟨r, db1, m⟩, hstore, hp'⟩ := Option.map_eq_some'.mp hrun
    cases hp'
    rw [transferOnStore] at hstore
    cases r with
    | ok t =>
      obtain ⟨a', j, s, ha', -, hexec⟩ :=
        (transfer_invariant (fun _ => True) (fun _ _ _ _ _ _ _ => trivial) trivial hstore).1 t rfl
      rw [ha] at ha'
      cases ha'
      exact .inr (.inl ⟨t.transactionID, amount, hp, by rw [executeTransfer_ok_record hexec]; rfl⟩)
    | error e =>
      have he : TransferError e := by
        simp only [transfer, ha, TransferServiceConfig.runLoop] at hstore
        split_ifs at hstore
        · exact retryLoop_transferError (fun k _ _ _ h => executeTransfer_transferError (hdriver k) h) hctx
            _ _ _ _ _ _ _ hstore
        · cases hstore
          exact exhausted_transferError none
      exact .inr (.inr ⟨_, _, _, rfl, handleServiceError_transferError sn he⟩)
  · cases h
    exact .inl ⟨_, ‹_›, rfl, rfl⟩

/-- `POST /transactions` answers 400 on a bad body or request, 201 with its record, or one of `transferFailures`. -/
theorem createTransaction_answers (cfg : TransferServiceConfig) (newFromString : String → Option ℚ)
    (sn : Sentinels) (me : Nat) (faults : ℕ → ℕ → Outcome) (ctxDone : ℕ → Option GoError) (fuel : ℕ)
    (hdriver : ∀ k j d, (faults k j).failure = some d → d.asDomain = none)
    (hctx : ∀ k d, ctxDone k = some d → d.asDomain = none) (body : Except GoError CreateTransactionRequest)
    (db : Db) (resp : Response Transaction) (db' : Db)
    (h : TransactionHandler.createTransaction newFromString sn (transferService cfg newFromString me faults ctxDone fuel)
      body db = some (resp, db')) :
    (∃ d, body = .error d ∧ resp = .error 400 "invalid_json" "Invalid JSON body" ∧ db' = db) ∨
    ∃ req, body = .ok req ∧ ((∃ errs, errs ≠ [] ∧ resp = .validationFailed errs ∧ db' = db) ∨
      (∃ id amount, parseMoney newFromString req.amount = some amount ∧
        resp = .success 201 ⟨id, req.sourceAccountID, req.destinationAccountID, amount⟩) ∨
      ∃ status code message, resp = .error status code message ∧ (status, code, message) ∈ transferFailures) := by
  rcases withDecodedBody_eq_some h with hdec | ⟨req, rfl, h⟩
  · exact .inl hdec
  · exact .inr ⟨req, rfl, createTransaction_decoded_answers cfg newFromString sn me faults ctxDone fuel hdriver hctx
      req db resp db' h⟩

def eofSentinels : Sentinels :=
  ⟨fun _ => false, fun _ => false, fun e => e == .text "EOF", fun e h => ⟨"EOF", by simpa using h⟩⟩

def lockEOF (k j : ℕ) : Outcome := if k = 0 ∧ j = 1 then .fail (.text "EOF") else .ok

theorem createTransaction_answers_eof :
    (∀ k j d, (lockEOF k j).failure = some d → d.asDomain = none) ∧
    (∀ k d, (fun _ => none : ℕ → Option GoError) k = some d → d.asDomain = none) ∧
    ∃ resp db', TransactionHandler.createTransaction decimalOfString eofSentinels
        (transferService defaultTransferConfig decimalOfString 0 lockEOF (fun _ => none) 4) (.ok ⟨1, 2, "100"⟩)
        twoAccounts = some (resp, db') ∧ resp = .error 400 "invalid_json" "Request body is empty" ∧
      ((∃ d, (.ok ⟨1, 2, "100"⟩ : Except GoError CreateTransactionRequest) = .error d ∧
          resp = .error 400 "invalid_json" "Invalid JSON body" ∧ db' = twoAccounts) ∨
        ∃ req, (.ok ⟨1, 2, "100"⟩ : Except GoError CreateTransactionRequest) = .ok req ∧
          ((∃ errs, errs ≠ [] ∧ resp = .validationFailed errs ∧ db' = twoAccounts) ∨
          (∃ id amount, parseMoney decimalOfString req.amount = some amount ∧
            resp = .success 201 ⟨id, req.sourceAccountID, req.destinationAccountID, amount⟩) ∨
          ∃ status code message, resp = .error status code message ∧ (status, code, message) ∈ transferFailures)) := by
  have hdriver : ∀ k j d, (lockEOF k j).failure = some d → d.asDomain = none := fun k j d h => by
    unfold lockEOF at h
    split_ifs at h <;> cases h
    rfl
  have hctx : ∀ k d, (fun _ => none : ℕ → Option GoError) k = some d → d.asDomain = none := fun _ _ h => by cases h
  have hv : validateCreateTransaction decimalOfString ⟨1, 2, "100"⟩ = [] :=
    validateCreateTransaction_eq_nil.mpr ⟨by decide, by decide, by decide, 100, parseMoney_100, by norm_num⟩
  have ha : validate decimalOfString ⟨1, 2, "100"⟩ = .ok ⟨1, 2, 100, by decide, by norm_num⟩ :=
    validate_eq_ok (by decide) parseMoney_100 (by norm_num)
  have hexec : executeTransfer ⟨1, 2, 100, by decide, by norm_num⟩ 0 (lockEOF 0) twoAccounts =
      some (.error (.wrapped "get account 1 for update" (.text "EOF")), twoAccounts.release 0) := rfl
  have hrun : TransactionHandler.createTransaction decimalOfString eofSentinels
      (transferService defaultTransferConfig decimalOfString 0 lockEOF (fun _ => none) 4) (.ok ⟨1, 2, "100"⟩)
      twoAccounts = some (.error 400 "invalid_json" "Request body is empty", twoAccounts.release 0) := by
    have hloop : defaultTransferConfig.retryLoop (fun k => executeTransfer _ 0 (lockEOF k)) (fun _ => none) 4 0 0
        twoAccounts = some (.error _, twoAccounts.release 0, 1) := retryLoop_fatal _ _ _ hexec (by decide)
    simp only [TransactionHandler.createTransaction, withDecodedBody, createTransaction, hv, transferService,
      transferOnStore, transfer, ha, TransferServiceConfig.runLoop]
    rw [if_pos (by decide), hloop]
    rfl
  exact ⟨hdriver, hctx, _, _, hrun, rfl, createTransaction_answers defaultTransferConfig decimalOfString eofSentinels 0
    lockEOF (fun _ => none) 4 hdriver hctx (.ok ⟨1, 2, "100"⟩) twoAccounts _ _ hrun⟩

def accountService (newFromString : String → Option ℚ) (o1 o2 : Outcome) :
    CreateAccountRequest → Db → Option (Except GoError Account × Db) :=
  fun req db => some (createAccountOnStore newFromString req o1 o2 db)

/-- The failures the account handler answers a request the validator accepted with. -/
def accountFailures : List (ℕ × String × String) :=
  [(409, "account_exists", "account with this ID already exists"),
    (400, "request_cancelled", "Request was cancelled"), (504, "timeout", "Request timed out"), internalError]

theorem handleServiceError_createErr (sn : Sentinels) (m : String) (d : GoError) :
    handleServiceError sn (wrapError .databaseError m (some d)) ∈ accountFailures := by
  rcases handleServiceError_cases sn (wrapError .databaseError m (some d)) with h | h | ⟨code, message, hd, h⟩ | ⟨hd, -⟩
  · simp [h, accountFailures]
  · simp [h, accountFailures]
  · cases hd
    simp [h, accountFailures, mapDomainError]
  · cases hd

theorem createAccount_decoded_answers (newFromString : String → Option ℚ) (sn : Sentinels) (o1 o2 : Outcome)
    (req : CreateAccountRequest) (db : Db) (resp : Response Account) (db' : Db)
    (h : createAccount newFromString sn (accountService newFromString o1 o2) req db = some (resp, db')) :
    (∃ errs, errs ≠ [] ∧ resp = .validationFailed errs ∧ db' = db) ∨
    (∃ b, parseMoney newFromString req.initialBalance = some b ∧ resp = .success 201 ⟨req.accountID, b⟩ ∧
      db'.ledger.accounts req.accountID = some b) ∨
    ∃ status code message, resp = .error status code message ∧ (status, code, message) ∈ accountFailures := by
  unfold createAccount at h
  split at h
  · rename_i hv
    obtain ⟨-, b, hp, hb⟩ := validateCreateAccount_eq_nil.mp hv
    have hn : validateCreate newFromString req = .ok ⟨⟨req.accountID, b⟩, hb⟩ := by
      simp [validateCreate, hp, not_lt.mpr hb]
    simp only [accountService, Option.map_some', Option.some.injEq, Prod.mk.injEq] at h
    obtain ⟨rfl, rfl⟩ := h
    have hexists : (Response.ofResult sn 201 (.error errAccountAlreadyExists : Except GoError Account)) =
        .error 409 "account_exists" "account with this ID already exists" := by
      simp [Response.ofResult, handleServiceError_domain, errAccountAlreadyExists, mapDomainError, ErrorCode.text]
    have hdb : ∀ m d, ∃ status code message, Response.ofResult sn 201 (createErr m d) = .error status code message ∧
        (status, code, message) ∈ accountFailures := fun m d => ⟨_, _, _, rfl, handleServiceError_createErr sn m d⟩
    unfold createAccountOnStore
    rw [hn]
    dsimp only
    cases hx : AccountRepository.exists db req.accountID o1 with
    | error e => exact .inr (.inr (hdb _ _))
    | ok found =>
      cases found
      · rcases hc : AccountRepository.create db ⟨req.accountID, b⟩ o2 with ⟨_ | e, db1⟩
        · obtain ⟨rfl, hfree⟩ := AccountRepository.create_fst_eq_none (congrArg Prod.fst hc)
          have h1 := congrArg Prod.snd hc
          simp only [AccountRepository.create, hfree] at h1
          exact .inr (.inl ⟨b, hp, rfl, by rw [← h1]; simp⟩)
        · dsimp only
          split_ifs
          · exact .inr (.inr ⟨_, _, _, hexists, by simp [accountFailures]⟩)
          · exact .inr (.inr (hdb _ _))
      · exact .inr (.inr ⟨_, _, _, hexists, by simp [accountFailures]⟩)
  · cases h
    exact .inl ⟨_, ‹_›, rfl, rfl⟩

/-- `POST /accounts` answers 400 on a bad body or request, 201 with the stored account, or one of `accountFailures`. -/
theorem createAccount_answers (newFromString : String → Option ℚ) (sn : Sentinels) (o1 o2 : Outcome)
    (body : Except GoError CreateAccountRequest) (db : Db) (resp : Response Account) (db' : Db)
    (h : AccountHandler.createAccount newFromString sn (accountService newFromString o1 o2) body db = some (resp, db')) :
    (∃ d, body = .error d ∧ resp = .error 400 "invalid_json" "Invalid JSON body" ∧ db' = db) ∨
    ∃ req, body = .ok req ∧ ((∃ errs, errs ≠ [] ∧ resp = .validationFailed errs ∧ db' = db) ∨
      (∃ b, parseMoney newFromString req.initialBalance = some b ∧ resp = .success 201 ⟨req.accountID, b⟩ ∧
        db'.ledger.accounts req.accountID = some b) ∨
      ∃ status code message, resp = .error status code message ∧ (status, code, message) ∈ accountFailures) := by
  rcases withDecodedBody_eq_some h with hdec | ⟨req, rfl, h⟩
  · exact .inl hdec
  · exact .inr ⟨req, rfl, createAccount_decoded_answers newFromString sn o1 o2 req db resp db' h⟩

theorem createAccount_answers_eof :
    ∃ resp db', AccountHandler.createAccount decimalOfString eofSentinels
        (accountService decimalOfString .ok (.fail (.text "EOF"))) (.ok ⟨7, "100"⟩) Db.empty = some (resp, db') ∧
      resp = .error 500 "internal_error" "An unexpected error occurred. Please try again later." ∧
      ((∃ d, (.ok ⟨7, "100"⟩ : Except GoError CreateAccountRequest) = .error d ∧
          resp = .error 400 "invalid_json" "Invalid JSON body" ∧ db' = Db.empty) ∨
        ∃ req, (.ok ⟨7, "100"⟩ : Except GoError CreateAccountRequest) = .ok req ∧
          ((∃ errs, errs ≠ [] ∧ resp = .validationFailed errs ∧ db' = Db.empty) ∨
          (∃ b, parseMoney decimalOfString req.initialBalance = some b ∧ resp = .success 201 ⟨req.accountID, b⟩ ∧
            db'.ledger.accounts req.accountID = some b) ∨
          ∃ status code message, resp = .error status code message ∧ (status, code, message) ∈ accountFailures)) := by
  have hv : validateCreateAccount decimalOfString ⟨7, "100"⟩ = [] :=
    validateCreateAccount_eq_nil.mpr ⟨by decide, 100, parseMoney_100, by norm_num⟩
  have hrun : AccountHandler.createAccount decimalOfString eofSentinels
      (accountService decimalOfString .ok (.fail (.text "EOF"))) (.ok ⟨7, "100"⟩) Db.empty =
      some (.error 500 "internal_error" "An unexpected error occurred. Please try again later.", Db.empty) := by
    simp only [AccountHandler.createAccount, withDecodedBody, createAccount, hv, accountService, createAccountOnStore,
      validateCreate_openSeven]
    rfl
  exact ⟨_, _, hrun, rfl, createAccount_answers _ _ _ _ _ _ _ _ hrun⟩

def getAccountFailures : List (ℕ × String × String) :=
  [(400, "invalid_id", "Account ID must be a valid integer"),
    (400, "invalid_id", "Account ID must be a positive integer"), (404, "account_not_found", "account not found"),
    (400, "request_cancelled", "Request was cancelled"), (504, "timeout", "Request timed out"),
    (400, "invalid_json", "Request body is empty"), internalError]

/-- On every id text and read outcome: 200 with a stored account of positive id, or one of `getAccountFailures`. -/
theorem getAccount_answers (sn : Sentinels) (db : Db) (o : Outcome)
    (hdriver : ∀ d, o.failure = some d → d.asDomain = none) (idStr : String) :
    (∃ acc, getAccount sn db o idStr = .success 200 acc ∧ 0 < acc.accountID ∧
      db.ledger.accounts acc.accountID = some acc.balance) ∨
    ∃ status code message, getAccount sn db o idStr = .error status code message ∧
      (status, code, message) ∈ getAccountFailures := by
  unfold getAccount
  cases hp : parseInt idStr with
  | none => exact .inr ⟨_, _, _, rfl, by simp [getAccountFailures]⟩
  | some accountID =>
    dsimp only
    split_ifs with hpos
    · exact .inr ⟨_, _, _, rfl, by simp [getAccountFailures]⟩
    unfold AccountRepository.getByID
    cases hf : o.failure with
    | some d =>
      refine .inr ⟨_, _, _, rfl, ?_⟩
      rcases handleServiceError_cases sn (.wrapped ("get account " ++ toString accountID) d) with
        h | h | ⟨code, message, hd, -⟩ | ⟨-, h | h⟩
      · simp [h, getAccountFailures]
      · simp [h, getAccountFailures]
      · simp [GoError.asDomain, hdriver d hf] at hd
      · simp [h, getAccountFailures]
      · simp [h, getAccountFailures]
    | none =>
      cases hb : db.ledger.accounts accountID with
      | none =>
        refine .inr ⟨_, _, _, rfl, ?_⟩
        simp [handleServiceError_domain, errAccountNotFound, mapDomainError, ErrorCode.text, getAccountFailures]
      | some b => exact .inl ⟨⟨accountID, b⟩, rfl, lt_of_not_le hpos, hb⟩

theorem getAccount_answers_eof :
    (∀ d, (Outcome.fail (.text "EOF")).failure = some d → d.asDomain = none) ∧
    getAccount eofSentinels Db.empty (.fail (.text "EOF")) "7" = .error 400 "invalid_json" "Request body is empty" ∧
    ((∃ acc, getAccount eofSentinels Db.empty (.fail (.text "EOF")) "7" = .success 200 acc ∧ 0 < acc.accountID ∧
        Db.empty.ledger.accounts acc.accountID = some acc.balance) ∨
      ∃ status code message, getAccount eofSentinels Db.empty (.fail (.text "EOF")) "7" = .error status code message ∧
        (status, code, message) ∈ getAccountFailures) := by
  have hdriver : ∀ d, (Outcome.fail (.text "EOF")).failure = some d → d.asDomain = none := fun d h => by
    cases h
    rfl
  exact ⟨hdriver, rfl, getAccount_answers eofSentinels Db.empty _ hdriver "7"⟩

/-- From the empty store: an account whose creation succeeded reads back with 200, now and in every later state. -/
theorem created_accounts_stay_readable (cfg : TransferServiceConfig) (newFromString : String → Option ℚ)
    (reqs : List Request) (s : Sys) (h : List Event)
    (hr : Reaches cfg (fun _ => True) (Sys.init cfg newFromString Db.empty reqs) s h) (sn : Sentinels)
    (i : Nat) (req : CreateAccountRequest) (hreq : reqs[i]? = some (.createAccount req))
    (hpos : 0 < req.accountID) (hlt : req.accountID < 2 ^ 63) (acc : Account)
    (hdone : s.calls[i]?.bind Call.createResult = some (.ok acc)) :
    acc.accountID = req.accountID ∧
      ∃ b, 0 ≤ b ∧ getAccount sn s.db .ok (toString req.accountID) = .success 200 ⟨req.accountID, b⟩ := by
  have hI := reaches_inv Db.empty_idle hr
  obtain ⟨c, hc, hres⟩ := Option.bind_eq_some.mp hdone
  have hcall : ∃ n, c = .createAccount n (.finished (.ok acc)) := by
    rcases c with _ | ⟨n, _ | _ | r⟩ | _ <;> simp [Call.createResult] at hres
    exact ⟨n, by rw [hres]⟩
  obtain ⟨n, rfl⟩ := hcall
  have hstart : (Call.start cfg newFromString (.createAccount req)).args = some (.inr n) := by
    simpa [hc, Sys.init, hreq, Call.args] using (hI.args_at i).symm
  obtain ⟨req', hreq', hv⟩ := Call.start_args_inr hstart
  cases hreq'
  have hid : n.account.accountID = req.accountID := validateCreate_accountID hv
  obtain ⟨rfl, he⟩ := (reaches_createsRecorded hr i n _ hc).2.1 acc rfl
  have hcreates : (Event.createAccount i n (.ok n.account)).createsAccount req.accountID = true := by
    simp [Event.createsAccount, hid]
  obtain ⟨b, hb⟩ := Option.isSome_iff_exists.mp (replay_created_isSome hI.replay he hcreates)
  refine ⟨hid, b, (ledgerInv_replay h hI.replay).nonneg _ _ hb, ?_⟩
  simp [getAccount, parseInt_toString (by omega) hlt, not_le.mpr hpos, AccountRepository.getByID,
    Outcome.failure, hb, Response.ofResult]

theorem created_accounts_stay_readable_seven :
    ∃ s h, Reaches defaultTransferConfig (fun _ => True)
        (Sys.init defaultTransferConfig decimalOfString Db.empty [.createAccount ⟨7, "100"⟩]) s h ∧
      [Request.createAccount ⟨7, "100"⟩][0]? = some (.createAccount ⟨7, "100"⟩) ∧ (0 : Int) < 7 ∧
      (7 : Int) < 2 ^ 63 ∧ s.calls[0]?.bind Call.createResult = some (.ok ⟨7, 100⟩) ∧
      (7 : Int) = 7 ∧ ∃ b, 0 ≤ b ∧ getAccount noSentinels s.db .ok (toString (7 : Int)) = .success 200 ⟨7, b⟩ := by
  have hinit : Sys.init defaultTransferConfig decimalOfString Db.empty [.createAccount ⟨7, "100"⟩] =
      ⟨Db.empty, [.createAccount openSeven .checkExists]⟩ := by
    simp [Sys.init, Call.start, validateCreate_openSeven]
  obtain ⟨s, h, hs, hc⟩ : ∃ s h, runSchedule defaultTransferConfig
      ⟨Db.empty, [.createAccount openSeven .checkExists]⟩ [(0, .ok), (0, .ok)] = some (s, h) ∧
      s.calls = [.createAccount openSeven (.finished (.ok openSeven.account))] :=
    ⟨_, _, rfl, rfl⟩
  have hr : Reaches _ (fun _ => True) _ _ _ := runSchedule_reaches _ .init (fun _ _ => trivial) hs
  rw [List.nil_append, ← hinit] at hr
  have hdone : s.calls[0]?.bind Call.createResult = some (.ok ⟨7, 100⟩) := by rw [hc]; rfl
  exact ⟨s, h, hr, rfl, by decide, by decide, hdone,
    created_accounts_stay_readable _ _ _ _ _ hr noSentinels 0 ⟨7, "100"⟩ rfl (by decide) (by decide) _ hdone⟩

end InternalTransfers
