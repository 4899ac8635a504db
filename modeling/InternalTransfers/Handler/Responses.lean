import InternalTransfers.Service.Engine
import InternalTransfers.Concurrent.Serializable

/-! # The HTTP handlers

`CreateTransaction` and `CreateAccount` of the handler package: the body as `decodeJSONBody`
left it, the validator's field checks, the call to the service, and the response its result
becomes. A response is kept as its status code with the `error` and `message` of its body; the
JSON decoding and encoding are the standard library's. `GetAccount` reads the path value with
`strconv.ParseInt`, and the decimal text of an `int64` id reads back as that id.

`handleServiceError` asks `errors.Is` whether an error's chain holds `context.Canceled`,
`context.DeadlineExceeded` or `io.EOF`. Those are identities, not texts, so which error values
they are is a parameter (`Sentinels`), as the driver's errors themselves are.
-/
namespace InternalTransfers

structure ValidationError where
  field : String
  message : String
  deriving DecidableEq, Repr

/-- The check of an id that must be positive (lines 36-38, 57-59 and 61-63 of the validator). -/
def checkPositiveID (field : String) (id : Int) : List ValidationError :=
  if id ≤ 0 then [⟨field, "must be a positive integer"⟩] else []

/-- A decimal text's check: required, parsed, refused with `badMessage` if `bad` holds (validator 40-49, 69-78). -/
def checkDecimal (field : String) (bad : ℚ → Prop) [DecidablePred bad] (badMessage : String)
    (newFromString : String → Option ℚ) (s : String) : List ValidationError :=
  if s = "" then [⟨field, "is required"⟩]
  else match newFromString s with
    | none => [⟨field, "must be a valid decimal number"⟩]
    | some v => if bad v then [⟨field, badMessage⟩] else []

def validateCreateAccount (newFromString : String → Option ℚ) (req : CreateAccountRequest) :
    List ValidationError :=
  checkPositiveID "account_id" req.accountID ++
    checkDecimal "initial_balance" (· < 0) "cannot be negative" newFromString req.initialBalance

def validateCreateTransaction (newFromString : String → Option ℚ) (req : CreateTransactionRequest) :
    List ValidationError :=
  checkPositiveID "source_account_id" req.sourceAccountID ++
    checkPositiveID "destination_account_id" req.destinationAccountID ++
    (if 0 < req.sourceAccountID ∧ 0 < req.destinationAccountID ∧ req.sourceAccountID = req.destinationAccountID
      then [⟨"destination_account_id", "cannot be the same as source_account_id"⟩] else []) ++
    checkDecimal "amount" (· ≤ 0) "must be greater than zero" newFromString req.amount

@[simp] theorem checkPositiveID_eq_nil {field : String} {id : Int} : checkPositiveID field id = [] ↔ 0 < id := by
  unfold checkPositiveID
  split_ifs with h <;> simp <;> omega

@[simp] theorem checkDecimal_eq_nil {field : String} {bad : ℚ → Prop} [DecidablePred bad] {badMessage : String}
    {newFromString : String → Option ℚ} {s : String} :
    checkDecimal field bad badMessage newFromString s = [] ↔ ∃ v, parseMoney newFromString s = some v ∧ ¬ bad v := by
  unfold checkDecimal parseMoney
  split_ifs with hs
  · simp
  · cases newFromString s <;> simp

theorem checkPositiveID_field {field : String} {id : Int} : ∀ e ∈ checkPositiveID field id, e.field = field := by
  unfold checkPositiveID
  split_ifs <;> simp

theorem checkDecimal_field {field : String} {bad : ℚ → Prop} [DecidablePred bad] {badMessage : String}
    {newFromString : String → Option ℚ} {s : String} :
    ∀ e ∈ checkDecimal field bad badMessage newFromString s, e.field = field := by
  unfold checkDecimal
  split_ifs
  · simp
  · split
    · simp
    · split_ifs <;> simp

theorem validateCreateTransaction_eq_nil {newFromString : String → Option ℚ} {req : CreateTransactionRequest} :
    validateCreateTransaction newFromString req = [] ↔
      0 < req.sourceAccountID ∧ 0 < req.destinationAccountID ∧ req.sourceAccountID ≠ req.destinationAccountID ∧
        ∃ amount, parseMoney newFromString req.amount = some amount ∧ 0 < amount := by
  simp only [validateCreateTransaction, List.append_eq_nil, checkPositiveID_eq_nil, checkDecimal_eq_nil, not_le]
  constructor
  · rintro ⟨⟨⟨hs, hd⟩, hne⟩, hamt⟩
    exact ⟨hs, hd, fun h => by simp [hs, hd, h] at hne, hamt⟩
  · rintro ⟨hs, hd, hne, hamt⟩
    exact ⟨⟨⟨hs, hd⟩, by simp [hne]⟩, hamt⟩

theorem validateCreateAccount_eq_nil {newFromString : String → Option ℚ} {req : CreateAccountRequest} :
    validateCreateAccount newFromString req = [] ↔
      0 < req.accountID ∧ ∃ b, parseMoney newFromString req.initialBalance = some b ∧ 0 ≤ b := by
  simp [validateCreateAccount]

theorem validateCreateTransaction_fields {newFromString : String → Option ℚ} {req : CreateTransactionRequest} :
    ∀ e ∈ validateCreateTransaction newFromString req,
      e.field ∈ ["source_account_id", "destination_account_id", "amount"] := by
  intro e he
  simp only [validateCreateTransaction, List.mem_append] at he
  rcases he with ((he | he) | he) | he
  · simp [checkPositiveID_field e he]
  · simp [checkPositiveID_field e he]
  · split_ifs at he <;> simp_all
  · simp [checkDecimal_field e he]

/-- The validator parses as the service does: a request it passes never meets `ErrSameAccount` or `ErrInvalidAmount`. -/
theorem validated_requests_pass_service_checks (newFromString : String → Option ℚ) :
    (∀ req, validateCreateTransaction newFromString req = [] → ∃ a, validate newFromString req = .ok a) ∧
    (∀ req, validateCreateAccount newFromString req = [] → ∃ n, validateCreate newFromString req = .ok n) := by
  refine ⟨fun req h => ?_, fun req h => ?_⟩
  · obtain ⟨-, -, hne, amount, hp, hpos⟩ := validateCreateTransaction_eq_nil.mp h
    exact ⟨_, validate_eq_ok hne hp hpos⟩
  · obtain ⟨-, b, hp, hb⟩ := validateCreateAccount_eq_nil.mp h
    exact ⟨⟨⟨req.accountID, b⟩, hb⟩, by simp [validateCreate, hp, not_lt.mpr hb]⟩

theorem validated_requests_pass_service_checks_one_to_two :
    validateCreateTransaction decimalOfString ⟨1, 2, "100"⟩ = [] ∧
      ∃ a, validate decimalOfString ⟨1, 2, "100"⟩ = .ok a :=
  have h : validateCreateTransaction decimalOfString ⟨1, 2, "100"⟩ = [] :=
    validateCreateTransaction_eq_nil.mpr ⟨by decide, by decide, by decide, 100, parseMoney_100, by norm_num⟩
  ⟨h, (validated_requests_pass_service_checks decimalOfString).1 _ h⟩

def GoError.chainAny (p : GoError → Bool) (e : GoError) : Bool :=
  p e || match e with
    | .wrapDomain _ _ c | .wrapped _ c => c.chainAny p
    | .domain _ _ | .text _ => false

def GoError.hasCode (code : ErrorCode) : GoError → Bool
  | .domain c _ | .wrapDomain c _ _ => c == code
  | .wrapped _ _ | .text _ => false

/-- `errors.As(err, &domainErr)`: the code and message of the first `*DomainError` on the chain. -/
def GoError.asDomain : GoError → Option (ErrorCode × String)
  | .domain c m | .wrapDomain c m _ => some (c, m)
  | .wrapped _ e => e.asDomain
  | .text _ => none

/-- Which errors are `context.Canceled`, `context.DeadlineExceeded` and `io.EOF`: plain errors, never wrapped. -/
structure Sentinels where
  canceled : GoError → Bool
  deadlineExceeded : GoError → Bool
  eof : GoError → Bool
  plain : ∀ e, (canceled e || deadlineExceeded e || eof e) = true → ∃ m, e = .text m

def noSentinels : Sentinels := ⟨fun _ => false, fun _ => false, fun _ => false, fun _ h => by cases h⟩

def internalError : ℕ × String × String :=
  (500, "internal_error", "An unexpected error occurred. Please try again later.")

def mapDomainError (code : ErrorCode) (message : String) : ℕ × String × String :=
  match code with
  | .accountNotFound => (404, code.text, message)
  | .accountAlreadyExists => (409, code.text, message)
  | .insufficientBalance => (422, code.text, message)
  | .invalidAmount => (400, code.text, message)
  | .sameAccount => (400, code.text, message)
  | .transferNotFound => (404, code.text, message)
  | .duplicateTransaction => (409, code.text, message)
  | .databaseError | .transactionFailed | .internalError => internalError
  | .currencyMismatch => internalError

/-- `handleServiceError`: the status, `error` and `message` of the response. -/
def handleServiceError (sn : Sentinels) (err : GoError) : ℕ × String × String :=
  if err.chainAny sn.canceled then (400, "request_cancelled", "Request was cancelled")
  else if err.chainAny sn.deadlineExceeded then (504, "timeout", "Request timed out")
  else match err.asDomain with
    | some (code, message) => mapDomainError code message
    | none =>
      if err.chainAny (GoError.hasCode .accountNotFound) then (404, "account_not_found", "Account not found")
      else if err.chainAny (GoError.hasCode .accountAlreadyExists) then
        (409, "account_exists", "Account already exists")
      else if err.chainAny (GoError.hasCode .insufficientBalance) then
        (422, "insufficient_balance", "Insufficient balance for this transaction")
      else if err.chainAny (GoError.hasCode .invalidAmount) then
        (400, "invalid_amount", "Amount must be a positive decimal value")
      else if err.chainAny (GoError.hasCode .sameAccount) then
        (400, "same_account", "Source and destination accounts cannot be the same")
      else if err.chainAny (GoError.hasCode .transferNotFound) then
        (404, "transaction_not_found", "Transaction not found")
      else if err.chainAny (GoError.hasCode .duplicateTransaction) then
        (409, "duplicate_transaction", "Duplicate transaction detected")
      else if err.chainAny sn.eof then (400, "invalid_json", "Request body is empty")
      else internalError

theorem chainAny_hasCode_of_asDomain {err : GoError} (h : err.asDomain = none) (code : ErrorCode) :
    err.chainAny (GoError.hasCode code) = false := by
  induction err with
  | domain c m | wrapDomain c m e _ => cases h
  | wrapped ctx e ih => simp [GoError.chainAny, GoError.hasCode, ih h]
  | text m => rfl

theorem Sentinels.chainAny_domain (sn : Sentinels) (code : ErrorCode) (message : String) :
    (GoError.domain code message).chainAny sn.canceled = false ∧
      (GoError.domain code message).chainAny sn.deadlineExceeded = false := by
  have h := sn.plain (.domain code message)
  simp only [GoError.chainAny, Bool.or_false]
  constructor <;> by_contra hc <;> simp_all

theorem handleServiceError_domain (sn : Sentinels) (code : ErrorCode) (message : String) :
    handleServiceError sn (.domain code message) = mapDomainError code message := by
  obtain ⟨h1, h2⟩ := sn.chainAny_domain code message
  simp [handleServiceError, h1, h2, GoError.asDomain]

theorem handleServiceError_cases (sn : Sentinels) (e : GoError) :
    handleServiceError sn e = (400, "request_cancelled", "Request was cancelled") ∨
    handleServiceError sn e = (504, "timeout", "Request timed out") ∨
    (∃ code message, e.asDomain = some (code, message) ∧ handleServiceError sn e = mapDomainError code message) ∨
    e.asDomain = none ∧ (handleServiceError sn e = (400, "invalid_json", "Request body is empty") ∨
      handleServiceError sn e = internalError) := by
  by_cases h1 : e.chainAny sn.canceled = true
  · exact .inl (by rw [handleServiceError, if_pos h1])
  by_cases h2 : e.chainAny sn.deadlineExceeded = true
  · exact .inr (.inl (by rw [handleServiceError, if_neg h1, if_pos h2]))
  have h : handleServiceError sn e = match e.asDomain with
      | some (code, message) => mapDomainError code message
      | none => if e.chainAny sn.eof then (400, "invalid_json", "Request body is empty") else internalError := by
    rw [handleServiceError, if_neg h1, if_neg h2]
    cases hd : e.asDomain with
    | some p => rfl
    | none => simp only [chainAny_hasCode_of_asDomain hd, Bool.false_eq_true, if_false]
  rw [h]
  cases hd : e.asDomain with
  | some p => exact .inr (.inr (.inl ⟨p.1, p.2, rfl, rfl⟩))
  | none =>
    refine .inr (.inr (.inr ⟨rfl, ?_⟩))
    by_cases h3 : e.chainAny sn.eof = true
    · exact .inl (if_pos h3)
    · exact .inr (if_neg h3)

/-- What the handler writes: a success with status and data, a failure with status, `error` and `message`, or a 400. -/
inductive Response (α : Type)
  | success (status : ℕ) (data : α)
  | error (status : ℕ) (errorCode message : String)
  | validationFailed (errors : List ValidationError)

def Response.ofResult {α : Type} (sn : Sentinels) (status : ℕ) : Except GoError α → Response α
  | .ok x => .success status x
  | .error e => .error (handleServiceError sn e).1 (handleServiceError sn e).2.1 (handleServiceError sn e).2.2

def createTransaction {σ : Type} (newFromString : String → Option ℚ) (sn : Sentinels)
    (transfer : CreateTransactionRequest → σ → Option (Except GoError Transaction × σ))
    (req : CreateTransactionRequest) (st : σ) : Option (Response Transaction × σ) :=
  match validateCreateTransaction newFromString req with
  | [] => (transfer req st).map fun p => (Response.ofResult sn 201 p.1, p.2)
  | errs => some (.validationFailed errs, st)

def createAccount {σ : Type} (newFromString : String → Option ℚ) (sn : Sentinels)
    (create : CreateAccountRequest → σ → Option (Except GoError Account × σ))
    (req : CreateAccountRequest) (st : σ) : Option (Response Account × σ) :=
  match validateCreateAccount newFromString req with
  | [] => (create req st).map fun p => (Response.ofResult sn 201 p.1, p.2)
  | errs => some (.validationFailed errs, st)

/-- `decodeJSONBody` and what follows: a body that does not decode is answered 400 `invalid_json` at once. -/
def withDecodedBody {α β σ : Type} (handle : α → σ → Option (Response β × σ)) (body : Except GoError α)
    (st : σ) : Option (Response β × σ) :=
  match body with
  | .error _ => some (.error 400 "invalid_json" "Invalid JSON body", st)
  | .ok req => handle req st

/-- `TransactionHandler.CreateTransaction` (transaction_handler.go 30-55). -/
def TransactionHandler.createTransaction {σ : Type} (newFromString : String → Option ℚ) (sn : Sentinels)
    (transfer : CreateTransactionRequest → σ → Option (Except GoError Transaction × σ))
    (body : Except GoError CreateTransactionRequest) (st : σ) : Option (Response Transaction × σ) :=
  withDecodedBody (InternalTransfers.createTransaction newFromString sn transfer) body st

/-- `AccountHandler.CreateAccount` (account_handler.go 26-53). -/
def AccountHandler.createAccount {σ : Type} (newFromString : String → Option ℚ) (sn : Sentinels)
    (create : CreateAccountRequest → σ → Option (Except GoError Account × σ))
    (body : Except GoError CreateAccountRequest) (st : σ) : Option (Response Account × σ) :=
  withDecodedBody (InternalTransfers.createAccount newFromString sn create) body st

theorem withDecodedBody_eq_some {α β σ : Type} {handle : α → σ → Option (Response β × σ)}
    {body : Except GoError α} {st st' : σ} {resp : Response β} (h : withDecodedBody handle body st = some (resp, st')) :
    (∃ d, body = .error d ∧ resp = .error 400 "invalid_json" "Invalid JSON body" ∧ st' = st) ∨
      ∃ req, body = .ok req ∧ handle req st = some (resp, st') := by
  cases body with
  | error d =>
    simp only [withDecodedBody, Option.some.injEq, Prod.mk.injEq] at h
    exact .inl ⟨d, rfl, h.1.symm, h.2.symm⟩
  | ok req => exact .inr ⟨req, rfl, h⟩

def transferService (cfg : TransferServiceConfig) (newFromString : String → Option ℚ) (me : Nat)
    (faults : ℕ → ℕ → Outcome) (ctxDone : ℕ → Option GoError) (fuel : ℕ) :
    CreateTransactionRequest → Db → Option (Except GoError Transaction × Db) :=
  fun req db => (transferOnStore cfg newFromString req me faults ctxDone fuel db).map fun p => (p.1, p.2.1)

/-- A valid transfer alone, every statement succeeding: 404 on a missing account, 422 on a short balance, else 201. -/
theorem createTransaction_alone_responds (cfg : TransferServiceConfig) (newFromString : String → Option ℚ)
    (sn : Sentinels) (req : CreateTransactionRequest) (me : Nat) (ctxDone : ℕ → Option GoError) (fuel : ℕ)
    (db : Db) (hlo : 0 ≤ cfg.maxRetries.toInt) (hfuel : 0 < fuel) (hp : db.pending me = .empty)
    (hs : db.heldByOther me req.sourceAccountID = false) (hd : db.heldByOther me req.destinationAccountID = false)
    (hv : validateCreateTransaction newFromString req = []) :
    ∃ amount resp db', parseMoney newFromString req.amount = some amount ∧
      createTransaction newFromString sn (transferService cfg newFromString me (fun _ _ => .ok) ctxDone fuel)
        req db = some (resp, db') ∧
      ((db.ledger.accounts req.sourceAccountID = none ∨ db.ledger.accounts req.destinationAccountID = none) →
        resp = .error 404 "account_not_found" "account not found" ∧ db'.ledger = db.ledger) ∧
      ∀ bs bd, db.ledger.accounts req.sourceAccountID = some bs →
        db.ledger.accounts req.destinationAccountID = some bd →
        (bs < amount → resp = .error 422 "insufficient_balance" "insufficient balance for this transaction" ∧
          db'.ledger = db.ledger) ∧
        (amount ≤ bs → resp = .success 201 ⟨db.nextID, req.sourceAccountID, req.destinationAccountID, amount⟩ ∧
          db'.ledger.accounts req.sourceAccountID = some (bs - amount) ∧
          db'.ledger.accounts req.destinationAccountID = some (bd + amount)) := by
  obtain ⟨-, -, hne, amount, hparse, hpos⟩ := validateCreateTransaction_eq_nil.mp hv
  have ha := validate_eq_ok hne hparse hpos
  obtain ⟨db', hrun, hl, -⟩ := transferOnStore_alone ctxDone hlo hfuel ha hp hs hd
  have hresp : createTransaction newFromString sn (transferService cfg newFromString me (fun _ _ => .ok) ctxDone fuel)
      req db = some (Response.ofResult sn 201
        (serialTransfer ⟨_, _, amount, hne, hpos⟩ db.nextID db.ledger).1, db') := by
    simp [createTransaction, hv, transferService, hrun]
  refine ⟨amount, _, db', hparse, hresp, fun hmiss => ?_, fun bs bd hbs hbd => ⟨fun hlow => ?_, fun hle => ?_⟩⟩
  · have hm : (db.ledger.accounts req.sourceAccountID).isNone ∨ (db.ledger.accounts req.destinationAccountID).isNone := by
      simpa using hmiss
    have hst : serialTransfer ⟨_, _, amount, hne, hpos⟩ db.nextID db.ledger = (.error errAccountNotFound, db.ledger) := by
      unfold serialTransfer
      split
      · rename_i bs bd h1 h2
        simp [h1, h2] at hm
      · rfl
    rw [hst] at hl ⊢
    exact ⟨by simp [Response.ofResult, handleServiceError_domain, errAccountNotFound, mapDomainError, ErrorCode.text],
      hl⟩
  · have hst : serialTransfer ⟨_, _, amount, hne, hpos⟩ db.nextID db.ledger = (.error errInsufficientBalance, db.ledger) := by
      simp [serialTransfer, hbs, hbd, hlow]
    rw [hst] at hl ⊢
    exact ⟨by simp [Response.ofResult, handleServiceError_domain, errInsufficientBalance, mapDomainError,
      ErrorCode.text], hl⟩
  · rw [serialTransfer_ok (a := ⟨_, _, amount, hne, hpos⟩) hbs hbd hle] at hl ⊢
    refine ⟨rfl, ?_, ?_⟩ <;> simp [hl, Function.update_noteq, hne, Ne.symm hne]

theorem createTransaction_alone_responds_two_accounts :
    0 ≤ defaultTransferConfig.maxRetries.toInt ∧ twoAccounts.pending 0 = .empty ∧
      twoAccounts.heldByOther 0 1 = false ∧ twoAccounts.heldByOther 0 2 = false ∧
      validateCreateTransaction decimalOfString ⟨1, 2, "100"⟩ = [] ∧
    ∃ amount resp db', parseMoney decimalOfString "100" = some amount ∧
      createTransaction decimalOfString noSentinels
        (transferService defaultTransferConfig decimalOfString 0 (fun _ _ => .ok) (fun _ => none) 4)
        ⟨1, 2, "100"⟩ twoAccounts = some (resp, db') ∧
      ((twoAccounts.ledger.accounts 1 = none ∨ twoAccounts.ledger.accounts 2 = none) →
        resp = .error 404 "account_not_found" "account not found" ∧ db'.ledger = twoAccounts.ledger) ∧
      ∀ bs bd, twoAccounts.ledger.accounts 1 = some bs → twoAccounts.ledger.accounts 2 = some bd →
        (bs < amount → resp = .error 422 "insufficient_balance" "insufficient balance for this transaction" ∧
          db'.ledger = twoAccounts.ledger) ∧
        (amount ≤ bs → resp = .success 201 ⟨twoAccounts.nextID, 1, 2, amount⟩ ∧
          db'.ledger.accounts 1 = some (bs - amount) ∧ db'.ledger.accounts 2 = some (bd + amount)) := by
  have hv : validateCreateTransaction decimalOfString ⟨1, 2, "100"⟩ = [] :=
    validateCreateTransaction_eq_nil.mpr ⟨by decide, by decide, by decide, 100, parseMoney_100, by norm_num⟩
  exact ⟨by decide, rfl, rfl, rfl, hv, createTransaction_alone_responds defaultTransferConfig decimalOfString
    noSentinels ⟨1, 2, "100"⟩ 0 (fun _ => none) 4 twoAccounts (by decide) (by decide) rfl rfl rfl hv⟩

def pickSign : List Char → Bool × List Char
  | '+' :: cs => (false, cs)
  | '-' :: cs => (true, cs)
  | cs => (false, cs)

def digitStep (acc : ℕ) (c : Char) : ℕ := 10 * acc + (c.toNat - '0'.toNat)

/-- `strconv.ParseInt(s, 10, 64)`: an optional sign, then one or more decimal digits, the value within `int64`. -/
def parseInt (s : String) : Option Int :=
  let (neg, digits) := pickSign s.toList
  if digits.isEmpty || !digits.all Char.isDigit then none
  else
    let un : ℕ := digits.foldl digitStep 0
    if !neg && 2 ^ 63 ≤ un then none
    else if neg && 2 ^ 63 < un then none
    else some (if neg then -(un : Int) else un)

theorem parseInt_range {s : String} {n : Int} (h : parseInt s = some n) : -2 ^ 63 ≤ n ∧ n < 2 ^ 63 := by
  unfold parseInt at h
  generalize pickSign s.toList = p at h
  obtain ⟨neg, digits⟩ := p
  simp only at h
  split_ifs at h with h1 h2 h3 hneg <;> cases h
  · simp [hneg] at h3 ⊢; omega
  · simp [hneg] at h2 ⊢; omega

example : parseInt "-9223372036854775808" = some (-2 ^ 63) ∧ parseInt "9223372036854775808" = none ∧
    parseInt "+17" = some 17 ∧ parseInt "1_000" = none ∧ parseInt "-" = none := by decide

theorem digitChar_digit : ∀ d < 10, (Nat.digitChar d).isDigit = true ∧ (Nat.digitChar d).toNat - '0'.toNat = d := by
  decide

theorem toDigitsCore_succ (fuel n : ℕ) (ds : List Char) :
    Nat.toDigitsCore 10 (fuel + 1) n ds = if n / 10 = 0 then Nat.digitChar (n % 10) :: ds
      else Nat.toDigitsCore 10 fuel (n / 10) (Nat.digitChar (n % 10) :: ds) := rfl

theorem toDigitsCore_spec : ∀ (fuel n : ℕ) (ds : List Char), n < fuel →
    ∃ l, Nat.toDigitsCore 10 fuel n ds = l ++ ds ∧ l ≠ [] ∧ (∀ c ∈ l, c.isDigit = true) ∧
      l.foldl digitStep 0 = n
  | 0, _, _, h => absurd h (Nat.not_lt_zero _)
  | fuel + 1, n, ds, h => by
    have hd := digitChar_digit (n % 10) (Nat.mod_lt _ (by decide))
    rw [toDigitsCore_succ]
    split_ifs with h0
    · refine ⟨[Nat.digitChar (n % 10)], rfl, by simp, by simpa using hd.1, ?_⟩
      show digitStep 0 _ = n
      rw [digitStep, hd.2]; omega
    · obtain ⟨l, hl, -, hdig, hval⟩ := toDigitsCore_spec fuel (n / 10) (Nat.digitChar (n % 10) :: ds) (by omega)
      refine ⟨l ++ [Nat.digitChar (n % 10)], by simp [hl], by simp, fun c hc => ?_, ?_⟩
      · rcases List.mem_append.mp hc with hc | hc
        · exact hdig c hc
        · rw [List.mem_singleton.mp hc]; exact hd.1
      · rw [List.foldl_append, hval]
        show digitStep (n / 10) _ = n
        rw [digitStep, hd.2]; omega

theorem toDigits_spec (n : ℕ) : Nat.toDigits 10 n ≠ [] ∧ (∀ c ∈ Nat.toDigits 10 n, c.isDigit = true) ∧
    (Nat.toDigits 10 n).foldl digitStep 0 = n := by
  obtain ⟨l, hl, h⟩ := toDigitsCore_spec (n + 1) n [] (Nat.lt_succ_self n)
  rw [List.append_nil] at hl
  rw [show Nat.toDigits 10 n = Nat.toDigitsCore 10 (n + 1) n [] from rfl, hl]; exact h

theorem pickSign_digits : ∀ {l : List Char}, (∀ c ∈ l, c.isDigit = true) → pickSign l = (false, l)
  | [], _ => rfl
  | c :: cs, h => by
    have hc := h c (List.mem_cons_self _ _)
    have h1 : c ≠ '+' := by rintro rfl; cases hc
    have h2 : c ≠ '-' := by rintro rfl; cases hc
    simp [pickSign, h1, h2]

theorem parseInt_toString {n : Int} (hlo : -2 ^ 63 ≤ n) (hhi : n < 2 ^ 63) : parseInt (toString n) = some n := by
  cases n with
  | ofNat m =>
    obtain ⟨hne, hdig, hval⟩ := toDigits_spec m
    have hs : (toString (Int.ofNat m)).toList = Nat.toDigits 10 m := rfl
    have hm : ¬ 2 ^ 63 ≤ m := by rw [Int.ofNat_eq_coe] at hhi; omega
    unfold parseInt
    rw [hs, pickSign_digits hdig]
    simp [hne, hval]; exact ⟨hdig, by omega⟩
  | negSucc m =>
    obtain ⟨hne, hdig, hval⟩ := toDigits_spec (m + 1)
    have hs : (toString (Int.negSucc m)).toList = '-' :: Nat.toDigits 10 (m + 1) := rfl
    have hm : ¬ 2 ^ 63 < m + 1 := by rw [Int.negSucc_eq] at hlo; omega
    unfold parseInt
    rw [hs]
    simp [pickSign, hne, hval, Int.negSucc_eq]; exact ⟨hdig, by omega⟩

/-- `AccountHandler.GetAccount` on the path value `idStr`, the read meeting outcome `o`. -/
def getAccount (sn : Sentinels) (db : Db) (o : Outcome) (idStr : String) : Response Account :=
  match parseInt idStr with
  | none => .error 400 "invalid_id" "Account ID must be a valid integer"
  | some accountID =>
    if accountID ≤ 0 then .error 400 "invalid_id" "Account ID must be a positive integer"
    else Response.ofResult sn 200 (AccountRepository.getByID db accountID o)

/-- On the decimal text of every positive `int64` id, `GetAccount` reads that id. -/
theorem getAccount_toString (sn : Sentinels) (db : Db) (o : Outcome) (accountID : Int) (hpos : 0 < accountID)
    (hlt : accountID < 2 ^ 63) :
    getAccount sn db o (toString accountID) = Response.ofResult sn 200 (AccountRepository.getByID db accountID o) := by
  simp [getAccount, parseInt_toString (by omega) hlt, not_le.mpr hpos]

theorem getAccount_toString_seven :
    (0 : Int) < 7 ∧ (7 : Int) < 2 ^ 63 ∧ getAccount noSentinels Db.empty .ok (toString (7 : Int)) =
      Response.ofResult noSentinels 200 (AccountRepository.getByID Db.empty 7 .ok) :=
  ⟨by decide, by decide, getAccount_toString noSentinels Db.empty .ok 7 (by decide) (by decide)⟩

theorem getAccount_invalid_id (sn : Sentinels) (db : Db) (o : Outcome) (idStr : String)
    (h : ∀ accountID, parseInt idStr = some accountID → accountID ≤ 0) :
    ∃ message, getAccount sn db o idStr = .error 400 "invalid_id" message := by
  unfold getAccount
  cases hp : parseInt idStr with
  | none => exact ⟨_, rfl⟩
  | some accountID => exact ⟨_, if_pos (h accountID hp)⟩

/-- `GET /accounts/{id}` from the empty store, its read succeeding: 404 for no account, else 200 and the balance. -/
theorem getAccount_reads_committed (cfg : TransferServiceConfig) (newFromString : String → Option ℚ)
    (reqs : List Request) (s : Sys) (h : List Event)
    (hr : Reaches cfg (fun _ => True) (Sys.init cfg newFromString Db.empty reqs) s h) (sn : Sentinels)
    (idStr : String) (accountID : Int) (hid : parseInt idStr = some accountID) (hpos : 0 < accountID) :
    (s.db.ledger.accounts accountID = none ∧
        getAccount sn s.db .ok idStr = .error 404 "account_not_found" "account not found") ∨
      ∃ b, s.db.ledger.accounts accountID = some b ∧ getAccount sn s.db .ok idStr = .success 200 ⟨accountID, b⟩ ∧
        0 ≤ b ∧ ∃ b0, opened h accountID = some b0 ∧
          b = b0 + inflow s.db.ledger accountID - outflow s.db.ledger accountID := by
  have hI := ledgerInv_replay h (reaches_inv Db.empty_idle hr).replay
  have hread : getAccount sn s.db .ok idStr = Response.ofResult sn 200 (AccountRepository.getByID s.db accountID .ok) := by
    simp [getAccount, hid, not_le.mpr hpos]
  cases hb : s.db.ledger.accounts accountID with
  | none =>
    refine .inl ⟨rfl, ?_⟩
    simp [hread, AccountRepository.getByID, Outcome.failure, hb, Response.ofResult, handleServiceError_domain,
      errAccountNotFound, mapDomainError, ErrorCode.text]
  | some b =>
    exact .inr ⟨b, rfl, by simp [hread, AccountRepository.getByID, Outcome.failure, hb, Response.ofResult],
      hI.nonneg accountID b hb, hI.balance accountID b hb⟩

theorem getAccount_reads_committed_open_and_transfer :
    ∃ s h, Reaches defaultTransferConfig (fun _ => True)
        (Sys.init defaultTransferConfig decimalOfString Db.empty openAndTransfer) s h ∧
      parseInt "2" = some 2 ∧
      ((s.db.ledger.accounts 2 = none ∧
          getAccount noSentinels s.db .ok "2" = .error 404 "account_not_found" "account not found") ∨
        ∃ b, s.db.ledger.accounts 2 = some b ∧ getAccount noSentinels s.db .ok "2" = .success 200 ⟨2, b⟩ ∧
          0 ≤ b ∧ ∃ b0, opened h 2 = some b0 ∧ b = b0 + inflow s.db.ledger 2 - outflow s.db.ledger 2) := by
  obtain ⟨s, hr⟩ := openAndTransfer_reaches
  have hid : parseInt "2" = some 2 := by decide
  exact ⟨s, _, hr, hid, getAccount_reads_committed _ _ _ _ _ hr noSentinels "2" 2 hid (by decide)⟩

end InternalTransfers
