import InternalTransfers.Models.Errors
import InternalTransfers.Models.Records
import Mathlib.Algebra.Order.Ring.Int
import Mathlib.Tactic.Positivity

/-! # `TransferService.Transfer`: validation and the retry loop

The attempts themselves are a parameter here; `executeTransfer` on the store fills it in
later. The loop counter and `MaxRetries` are Go `int`s and the delay a `time.Duration`, all 64-bit
two's complement, so they are `BitVec 64` here and wrap as Go wraps. The loop is run with
fuel: with `MaxRetries` the largest `int` the counter wraps before the condition fails, so
no amount of fuel is enough when every attempt fails retryably.
-/
namespace InternalTransfers

structure TransferServiceConfig where
  maxRetries : BitVec 64
  retryBaseDelay : BitVec 64

/-- `DefaultTransferConfig`: three retries from a base of `100 * time.Millisecond` ns. -/
def defaultTransferConfig : TransferServiceConfig := ⟨3, 100000000⟩

namespace TransferServiceConfig

/-- Line 168: `RetryBaseDelay * time.Duration(1<<uint(attempt-1))`. -/
def retryDelay (cfg : TransferServiceConfig) (attempt : BitVec 64) : BitVec 64 :=
  cfg.retryBaseDelay * ((1 : BitVec 64) <<< (attempt - 1).toNat)

inductive Next
  | finish (r : Except GoError Transaction)
  | retry (attempt : BitVec 64) (lastErr : GoError)

def exhausted (lastErr : Option GoError) : GoError :=
  wrapError .transactionFailed "transfer failed after retries" lastErr

/-- Lines 179-188 with the loop's `attempt++` and its condition `attempt <= MaxRetries`. -/
def afterAttempt (cfg : TransferServiceConfig) (attempt : BitVec 64) : Except GoError Transaction → Next
  | .ok t => .finish (.ok t)
  | .error e =>
    if !isRetryable e then .finish (.error e)
    else if (attempt + 1).sle cfg.maxRetries then .retry (attempt + 1) e
    else .finish (.error (exhausted (some e)))

/-- Lines 166-190 from counter `attempt` at call `k`; `ctxDone j` is the `select` under `if attempt > 0`. -/
def retryLoop {σ : Type} (cfg : TransferServiceConfig) (exec : ℕ → σ → Option (Except GoError Transaction × σ))
    (ctxDone : ℕ → Option GoError) : ℕ → ℕ → BitVec 64 → σ → Option (Except GoError Transaction × σ × ℕ)
  | 0, _, _, _ => none
  | fuel + 1, k, attempt, st => (exec k st).bind fun (r, st) =>
    match cfg.afterAttempt attempt r with
    | .finish r => some (r, st, k + 1)
    | .retry attempt _ =>
      if (0 : BitVec 64).slt attempt then
        match ctxDone (k + 1) with
        | some err => some (.error err, st, k + 1)
        | none => retryLoop cfg exec ctxDone fuel (k + 1) attempt st
      else retryLoop cfg exec ctxDone fuel (k + 1) attempt st

/-- The loop entered at `attempt := 0`; with a negative `MaxRetries` it never runs and `lastErr` stays nil. -/
def runLoop {σ : Type} (cfg : TransferServiceConfig) (exec : ℕ → σ → Option (Except GoError Transaction × σ))
    (ctxDone : ℕ → Option GoError) (fuel : ℕ) (st : σ) : Option (Except GoError Transaction × σ × ℕ) :=
  if (0 : BitVec 64).sle cfg.maxRetries then cfg.retryLoop exec ctxDone fuel 0 0 st
  else some (.error (exhausted none), st, 0)

end TransferServiceConfig

/-- Lines 149-161 of `Transfer`: the checks made before any store access. -/
def validate (newFromString : String → Option ℚ) (req : CreateTransactionRequest) :
    Except GoError TransferArgs :=
  if h : req.sourceAccountID = req.destinationAccountID then .error errSameAccount
  else match parseMoney newFromString req.amount with
    | none => .error errInvalidAmount
    | some amount =>
      if h' : amount ≤ 0 then .error errInvalidAmount
      else .ok ⟨req.sourceAccountID, req.destinationAccountID, amount, h, lt_of_not_le h'⟩

theorem validate_eq_ok {newFromString : String → Option ℚ} {req : CreateTransactionRequest}
    (hne : req.sourceAccountID ≠ req.destinationAccountID) {amount : ℚ}
    (hp : parseMoney newFromString req.amount = some amount) (hpos : 0 < amount) :
    validate newFromString req = .ok ⟨req.sourceAccountID, req.destinationAccountID, amount, hne, hpos⟩ := by
  simp [validate, hne, hp, not_le.mpr hpos]

/-- `TransferService.Transfer`; `exec a k` is the `k`-th call of `executeTransfer` for the validated request `a`. -/
def transfer {σ : Type} (cfg : TransferServiceConfig) (newFromString : String → Option ℚ)
    (req : CreateTransactionRequest) (exec : TransferArgs → ℕ → σ → Option (Except GoError Transaction × σ))
    (ctxDone : ℕ → Option GoError) (fuel : ℕ) (st : σ) : Option (Except GoError Transaction × σ × ℕ) :=
  match validate newFromString req with
  | .error e => some (.error e, st, 0)
  | .ok a => cfg.runLoop (exec a) ctxDone fuel st

theorem toInt_of_toNat_lt {x : BitVec 64} (h : x.toNat < 2 ^ 63) : x.toInt = x.toNat := by
  rw [BitVec.toInt_eq_toNat_cond]
  simp only [if_pos (by omega : 2 * x.toNat < 2 ^ 64)]

theorem toNat_of_toInt_nonneg {x : BitVec 64} (h : 0 ≤ x.toInt) :
    x.toInt = x.toNat ∧ x.toNat < 2 ^ 63 := by
  have hx := x.isLt
  rw [BitVec.toInt_eq_toNat_cond] at *
  split at h <;> [exact ⟨by simp_all, by omega⟩; omega]

section Loop
variable (cfg : TransferServiceConfig) (out : ℕ → Except GoError Transaction)
  (ctxDone : ℕ → Option GoError)

end Loop

section Invariant
variable {σ : Type} (cfg : TransferServiceConfig) (exec : ℕ → σ → Option (Except GoError Transaction × σ))
  (ctxDone : ℕ → Option GoError)

theorem afterAttempt_error_finish {n : BitVec 64} {e : GoError} {r : Except GoError Transaction}
    (h : cfg.afterAttempt n (.error e) = .finish r) : ∃ e', r = .error e' := by
  unfold TransferServiceConfig.afterAttempt at h
  cases hr : isRetryable e <;> simp only [hr, Bool.not_false, Bool.not_true, Bool.false_eq_true, if_true,
    if_false] at h
  · cases h; exact ⟨_, rfl⟩
  · split at h <;> cases h; exact ⟨_, rfl⟩

/-- One pass of the loop: it returns after call `k`, or goes on to call `k + 1` after a failed attempt. -/
theorem retryLoop_succ {fuel k : ℕ} {n : BitVec 64} {st st' : σ} {r : Except GoError Transaction} {m : ℕ}
    (h : cfg.retryLoop exec ctxDone (fuel + 1) k n st = some (r, st', m)) :
    ∃ r0 s1, exec k st = some (r0, s1) ∧
      ((∃ t, r0 = .ok t ∧ r = .ok t ∧ st' = s1 ∧ m = k + 1) ∨
        (∃ e0, r0 = .error e0 ∧ (∃ e, r = .error e) ∧ st' = s1 ∧ m = k + 1) ∨
        ∃ e0 n', r0 = .error e0 ∧ cfg.retryLoop exec ctxDone fuel (k + 1) n' s1 = some (r, st', m)) := by
  simp only [TransferServiceConfig.retryLoop] at h
  obtain ⟨⟨r0, s1⟩, h0, h⟩ := Option.bind_eq_some.mp h
  refine ⟨r0, s1, h0, ?_⟩
  cases r0 with
  | ok t0 => cases h; exact .inl ⟨t0, rfl, rfl, rfl, rfl⟩
  | error e0 =>
    split at h
    · obtain ⟨e', rfl⟩ := afterAttempt_error_finish cfg ‹_›
      cases h
      exact .inr (.inl ⟨e0, rfl, ⟨e', rfl⟩, rfl, rfl⟩)
    · split_ifs at h
      · split at h
        · cases h
          exact .inr (.inl ⟨e0, rfl, ⟨_, rfl⟩, rfl, rfl⟩)
        · exact .inr (.inr ⟨e0, _, rfl, h⟩)
      · exact .inr (.inr ⟨e0, _, rfl, h⟩)

theorem retryLoop_calls_gt : ∀ {fuel k : ℕ} {n : BitVec 64} {st st' : σ} {r : Except GoError Transaction} {m : ℕ},
    cfg.retryLoop exec ctxDone fuel k n st = some (r, st', m) → k < m
  | 0, _, _, _, _, _, _, h => by cases h
  | _ + 1, _, _, _, _, _, _, h => by
    obtain ⟨_, _, -, ⟨_, -, -, -, rfl⟩ | ⟨_, -, -, -, rfl⟩ | ⟨_, _, -, h'⟩⟩ := retryLoop_succ cfg exec ctxDone h
    · exact Nat.lt_succ_self _
    · exact Nat.lt_succ_self _
    · exact Nat.lt_of_succ_lt (retryLoop_calls_gt h')

theorem retryLoop_last (I : σ → Prop) {m : ℕ}
    (herr : ∀ k s e s', k + 1 < m → I s → exec k s = some (.error e, s') → I s') :
    ∀ fuel k n st r st', I st → cfg.retryLoop exec ctxDone fuel k n st = some (r, st', m) →
      ∃ s r0, I s ∧ exec (m - 1) s = some (r0, st') ∧ (∀ t, r = .ok t → r0 = .ok t) ∧
        ∀ e, r = .error e → ∃ e0, r0 = .error e0 := by
  intro fuel
  induction fuel with
  | zero => intro k n st r st' _ h; cases h
  | succ fuel ih =>
    intro k n st r st' hI h
    obtain ⟨r0, s1, h0, ⟨t, rfl, rfl, rfl, rfl⟩ | ⟨e0, rfl, ⟨e, rfl⟩, rfl, rfl⟩ | ⟨e0, n', rfl, h'⟩⟩ :=
      retryLoop_succ cfg exec ctxDone h
    · exact ⟨st, _, hI, h0, fun _ ht => ht, fun _ he => (nomatch he)⟩
    · exact ⟨st, _, hI, h0, fun _ ht => (nomatch ht), fun _ _ => ⟨e0, rfl⟩⟩
    · exact ih _ _ s1 r st' (herr k st e0 s1 (retryLoop_calls_gt cfg exec ctxDone h') hI h0) h'

theorem retryLoop_invariant (I : σ → Prop)
    (herr : ∀ k s e s', I s → exec k s = some (.error e, s') → I s') :
    ∀ fuel k n st r st' m, I st → cfg.retryLoop exec ctxDone fuel k n st = some (r, st', m) →
      (∀ t, r = .ok t → ∃ j s, I s ∧ exec j s = some (.ok t, st')) ∧ (∀ e, r = .error e → I st') := by
  intro fuel k n st r st' m hI h
  obtain ⟨s, r0, hs, hexec, hok, herr'⟩ :=
    retryLoop_last cfg exec ctxDone I (fun k s e s' _ => herr k s e s') fuel k n st r st' hI h
  refine ⟨fun t ht => ⟨m - 1, s, hs, hok t ht ▸ hexec⟩, fun e he => ?_⟩
  obtain ⟨e0, rfl⟩ := herr' e he
  exact herr _ s e0 st' hs hexec

theorem retryLoop_fatal {fuel k : ℕ} {n : BitVec 64} {st st' : σ} {e : GoError}
    (h : exec k st = some (.error e, st')) (he : isRetryable e = false) :
    cfg.retryLoop exec ctxDone (fuel + 1) k n st = some (.error e, st', k + 1) := by
  simp [TransferServiceConfig.retryLoop, h, TransferServiceConfig.afterAttempt, he]

theorem retryLoop_ok {fuel k : ℕ} {n : BitVec 64} {st st' : σ} {t : Transaction}
    (h : exec k st = some (.ok t, st')) :
    cfg.retryLoop exec ctxDone (fuel + 1) k n st = some (.ok t, st', k + 1) := by
  simp [TransferServiceConfig.retryLoop, h, TransferServiceConfig.afterAttempt]

theorem retryLoop_retry {fuel k : ℕ} {n : BitVec 64} {st st' : σ} {e : GoError}
    (h : exec k st = some (.error e, st')) (he : isRetryable e = true) (hn : (n + 1).sle cfg.maxRetries = true)
    (hctx : ctxDone (k + 1) = none) :
    cfg.retryLoop exec ctxDone (fuel + 1) k n st = cfg.retryLoop exec ctxDone fuel (k + 1) (n + 1) st' := by
  simp only [TransferServiceConfig.retryLoop, h, Option.some_bind, TransferServiceConfig.afterAttempt, he,
    Bool.not_true, Bool.false_eq_true, if_false, hn, if_true, hctx, ite_self]

end Invariant

/-- What `Transfer` does: return an error with no attempt made, or run the loop on a validated request. -/
theorem transfer_eq_some {σ : Type} {cfg : TransferServiceConfig} {newFromString : String → Option ℚ}
    {req : CreateTransactionRequest} {exec : TransferArgs → ℕ → σ → Option (Except GoError Transaction × σ)}
    {ctxDone : ℕ → Option GoError} {fuel : ℕ} {st st' : σ} {r : Except GoError Transaction} {m : ℕ}
    (h : transfer cfg newFromString req exec ctxDone fuel st = some (r, st', m)) :
    (∃ e, r = .error e ∧ st' = st ∧ m = 0) ∨
      ∃ a, validate newFromString req = .ok a ∧ cfg.retryLoop (exec a) ctxDone fuel 0 0 st = some (r, st', m) := by
  unfold transfer TransferServiceConfig.runLoop at h
  split at h
  · cases h; exact .inl ⟨_, rfl, rfl, rfl⟩
  · split_ifs at h
    · exact .inr ⟨_, ‹_›, h⟩
    · cases h; exact .inl ⟨_, rfl, rfl, rfl⟩

theorem transfer_invariant {σ : Type} {cfg : TransferServiceConfig} {newFromString : String → Option ℚ}
    {req : CreateTransactionRequest} {exec : TransferArgs → ℕ → σ → Option (Except GoError Transaction × σ)}
    {ctxDone : ℕ → Option GoError} {fuel : ℕ} (I : σ → Prop)
    (herr : ∀ a k s e s', I s → exec a k s = some (.error e, s') → I s') {st st' : σ}
    {r : Except GoError Transaction} {m : ℕ} (hI : I st)
    (h : transfer cfg newFromString req exec ctxDone fuel st = some (r, st', m)) :
    (∀ t, r = .ok t → ∃ a j s, validate newFromString req = .ok a ∧ I s ∧ exec a j s = some (.ok t, st')) ∧
      (∀ e, r = .error e → I st') := by
  rcases transfer_eq_some h with ⟨e, rfl, rfl, -⟩ | ⟨a, ha, h⟩
  · exact ⟨fun t ht => (nomatch ht), fun _ _ => hI⟩
  · obtain ⟨hok, herr'⟩ := retryLoop_invariant cfg (exec a) ctxDone I (herr a) _ _ _ _ _ _ _ hI h
    exact ⟨fun t ht => let ⟨j, s, hs, hj⟩ := hok t ht; ⟨a, j, s, ha, hs, hj⟩, herr'⟩

/-- With `MaxRetries` the largest `int` the counter wraps: a call whose attempts all fail retryably never returns. -/
theorem runLoop_maxInt_never_returns (cfg : TransferServiceConfig)
    (hmax : cfg.maxRetries.toInt = 2 ^ 63 - 1) (out : ℕ → GoError) (hout : ∀ j, isRetryable (out j) = true)
    (fuel : ℕ) :
    cfg.runLoop (fun j (_ : Unit) => some (.error (out j), ())) (fun _ => none) fuel () = none := by
  have hle : ∀ x : BitVec 64, x.sle cfg.maxRetries = true := fun x => by
    have := x.isLt
    simp only [BitVec.sle, hmax, BitVec.toInt_eq_toNat_cond, decide_eq_true_eq]
    split <;> omega
  suffices ∀ (fuel k : ℕ) (attempt : BitVec 64),
      cfg.retryLoop (fun j (_ : Unit) => some (.error (out j), ())) (fun _ => none) fuel k attempt () = none by
    simp only [TransferServiceConfig.runLoop, hle, if_true, this]
  intro fuel
  induction fuel with
  | zero => intro k attempt; rfl
  | succ fuel ih =>
    intro k attempt
    simp only [TransferServiceConfig.retryLoop, Option.some_bind, TransferServiceConfig.afterAttempt,
      hout, Bool.not_true, Bool.false_eq_true, if_false, hle, if_true, ih, ite_self]

theorem runLoop_maxInt_never_returns_deadlock :
    (⟨BitVec.ofInt 64 (2 ^ 63 - 1), 1⟩ : TransferServiceConfig).maxRetries.toInt = 2 ^ 63 - 1 ∧
      (∀ _ : ℕ, isRetryable (.text "deadlock detected") = true) ∧
      ∀ fuel, (⟨BitVec.ofInt 64 (2 ^ 63 - 1), 1⟩ : TransferServiceConfig).runLoop
        (fun _ (_ : Unit) => some (.error (.text "deadlock detected"), ())) (fun _ => none) fuel () = none :=
  ⟨by decide, fun _ => by decide,
    runLoop_maxInt_never_returns _ (by decide) (fun _ => .text "deadlock detected")
      (fun _ => show isRetryable (.text "deadlock detected") = true by decide)⟩

theorem one_shiftLeft_toNat {n : ℕ} (h : n < 64) : ((1 : BitVec 64) <<< n).toNat = 2 ^ n := by
  rw [BitVec.toNat_shiftLeft, Nat.shiftLeft_eq, show (1 : BitVec 64).toNat = 1 from rfl, one_mul,
    Nat.mod_eq_of_lt (Nat.pow_lt_pow_right (by norm_num) h)]

theorem retryDelay_toInt (cfg : TransferServiceConfig) (a : BitVec 64)
    (hbase : 0 < cfg.retryBaseDelay.toInt) (ha : 1 ≤ a.toInt)
    (hfit : cfg.retryBaseDelay.toInt * 2 ^ (a.toInt - 1).toNat < 2 ^ 63) :
    (cfg.retryDelay a).toInt = cfg.retryBaseDelay.toInt * 2 ^ (a.toInt - 1).toNat := by
  obtain ⟨hb, hb'⟩ := toNat_of_toInt_nonneg hbase.le
  obtain ⟨ha1, ha'⟩ := toNat_of_toInt_nonneg (by omega : 0 ≤ a.toInt)
  have hs : (a - 1).toNat = (a.toInt - 1).toNat := by
    rw [BitVec.toNat_sub, show (1 : BitVec 64).toNat = 1 from rfl]; omega
  rw [hb] at hfit ⊢
  set s := (a.toInt - 1).toNat
  have hfit' : cfg.retryBaseDelay.toNat * 2 ^ s < 2 ^ 63 := by exact_mod_cast hfit
  have hs63 : 2 ^ s < 2 ^ 63 := lt_of_le_of_lt (Nat.le_mul_of_pos_left _ (by omega)) hfit'
  have hmul : (cfg.retryDelay a).toNat = cfg.retryBaseDelay.toNat * 2 ^ s := by
    rw [TransferServiceConfig.retryDelay, BitVec.toNat_mul, hs,
      one_shiftLeft_toNat (((Nat.pow_lt_pow_iff_right (by norm_num)).mp hs63).trans (by norm_num))]
    exact Nat.mod_eq_of_lt (by omega)
  rw [toInt_of_toNat_lt (by omega), hmul]
  push_cast
  rfl

theorem retryDelay_exact_below_overflow (cfg : TransferServiceConfig) (a b : BitVec 64)
    (hbase : 0 < cfg.retryBaseDelay.toInt) (ha : 1 ≤ a.toInt) (hab : a.toInt ≤ b.toInt)
    (hfit : cfg.retryBaseDelay.toInt * 2 ^ (b.toInt - 1).toNat < 2 ^ 63) :
    (cfg.retryDelay a).toInt = cfg.retryBaseDelay.toInt * 2 ^ (a.toInt - 1).toNat ∧
    (cfg.retryDelay b).toInt = cfg.retryBaseDelay.toInt * 2 ^ (b.toInt - 1).toNat ∧
    0 < (cfg.retryDelay a).toInt ∧ (cfg.retryDelay a).toInt ≤ (cfg.retryDelay b).toInt := by
  have hpow : (2 : ℤ) ^ (a.toInt - 1).toNat ≤ 2 ^ (b.toInt - 1).toNat :=
    pow_le_pow_right₀ (by norm_num) (by omega)
  have hmono := mul_le_mul_of_nonneg_left hpow hbase.le
  have hb := retryDelay_toInt cfg b hbase (by omega) hfit
  have ha' := retryDelay_toInt cfg a hbase ha (by omega)
  refine ⟨ha', hb, ?_, by rw [ha', hb]; exact hmono⟩
  rw [ha']
  positivity

theorem retryDelay_exact_below_overflow_default :
    0 < defaultTransferConfig.retryBaseDelay.toInt ∧ 1 ≤ (1 : BitVec 64).toInt ∧
      (1 : BitVec 64).toInt ≤ (3 : BitVec 64).toInt ∧
      defaultTransferConfig.retryBaseDelay.toInt * 2 ^ ((3 : BitVec 64).toInt - 1).toNat < 2 ^ 63 ∧
      (defaultTransferConfig.retryDelay 1).toInt = 100000000 ∧
      (defaultTransferConfig.retryDelay 3).toInt = 400000000 := by
  have h := retryDelay_exact_below_overflow defaultTransferConfig 1 3 (by decide) (by decide)
    (by decide) (by decide)
  exact ⟨by decide, by decide, by decide, by decide, h.1.trans (by decide), h.2.1.trans (by decide)⟩

/-- With the default base and `MaxRetries = 38` the delay before attempt 38 wraps negative. -/
theorem retryDelay_wraps_at_attempt_38 :
    let cfg : TransferServiceConfig := ⟨38, 100000000⟩
    0 < cfg.retryBaseDelay.toInt ∧ 1 ≤ (38 : BitVec 64).toInt ∧
      (38 : BitVec 64).toInt ≤ cfg.maxRetries.toInt ∧ (cfg.retryDelay 38).toInt = -4702848726509551616 := by
  decide

end InternalTransfers
