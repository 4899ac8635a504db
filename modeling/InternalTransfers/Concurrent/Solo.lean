import InternalTransfers.Concurrent.System
import InternalTransfers.Service.Engine

/-! # One call alone: the sequential model as a run of the system

`transferOnStore` runs a `Transfer` call's attempts back to back with `executeTransfer`; the
system of the concurrent modules runs the same statements one at a time among other calls.
Every run of the first is a run of the second with the call alone: the schedule gives each
statement the outcome its attempt meets there, and each backoff the context's error, if the
context ended, or success. What is proved of `transferOnStore` is so about such runs.
`createAccountOnStore` is `CreateAccount` written the same way, with its two statements.
-/
namespace InternalTransfers

/-- The statements of call `i` alone, meeting the outcomes `os` in turn. -/
def callRun (cfg : TransferServiceConfig) (i : Nat) : List Outcome → Call → Db → Option (Call × Db)
  | [], c, db => some (c, db)
  | o :: os, c, db => (callStep cfg i db o c).bind fun p => callRun cfg i os p.1 p.2

def Call.transferResult : Call → Option (Except GoError Transaction)
  | .transfer _ (.finished r) => some r
  | .returned e => some (.error e)
  | _ => none

theorem callRun_append (cfg : TransferServiceConfig) (i : Nat) :
    ∀ (os₁ os₂ : List Outcome) (c : Call) (db : Db),
      callRun cfg i (os₁ ++ os₂) c db = (callRun cfg i os₁ c db).bind fun p => callRun cfg i os₂ p.1 p.2
  | [], _, _, _ => rfl
  | o :: os₁, os₂, c, db => by
    simp only [List.cons_append, callRun]
    cases callStep cfg i db o c with
    | none => rfl
    | some p => exact callRun_append cfg i os₁ os₂ p.1 p.2

theorem runSchedule_solo (cfg : TransferServiceConfig) : ∀ (os : List Outcome) {c c' : Call} {db db' : Db},
    callRun cfg 0 os c db = some (c', db') →
    ∃ h, runSchedule cfg ⟨db, [c]⟩ (os.map ((0, ·))) = some (⟨db', [c']⟩, h)
  | [], _, _, _, _, hrun => by cases hrun; exact ⟨[], rfl⟩
  | o :: os, c, c', db, db', hrun => by
    simp only [callRun, Option.bind_eq_some] at hrun
    obtain ⟨⟨c1, db1⟩, h1, h2⟩ := hrun
    obtain ⟨h, hs⟩ := runSchedule_solo cfg os h2
    refine ⟨(Sys.event ⟨db, [c]⟩ 0 o).toList ++ h, ?_⟩
    simp [runSchedule, Sys.step, h1, hs]

section Attempt
variable {a : TransferArgs} {me : Nat} {f : ℕ → Outcome} {db : Db}

theorem runStages_succ {n : ℕ} {st : Stage} (hst : st.index < 7) :
    runStages a me f (n + 1) (st, db) = (stageStep a me db (f st.index) st).bind (runStages a me f n) := by
  cases st <;> first | rfl | simp [Stage.index] at hst

theorem runStages_callRun (cfg : TransferServiceConfig) (attempt : BitVec 64) {r : Except GoError Transaction} :
    ∀ (n : ℕ) {st : Stage} {db db' : Db}, st.index < 7 → runStages a me f n (st, db) = some (.ended r, db') →
      ∃ os, callRun cfg me os (.transfer a (.running attempt st)) db =
        some (.transfer a (TransferPhase.afterStage cfg attempt (.ended r)), db')
  | 0, _, _, _, hst, h => by cases h; simp [Stage.index] at hst
  | n + 1, st, db, db', hst, h => by
    rw [runStages_succ hst] at h
    obtain ⟨⟨st1, db1⟩, h1, h2⟩ := Option.bind_eq_some.mp h
    cases st1 with
    | ended r1 =>
      rw [runStages_ended] at h2
      cases h2
      exact ⟨[f st.index], by simp [callRun, callStep, h1]⟩
    | _ =>
      obtain ⟨os, hos⟩ := runStages_callRun cfg attempt n (by simp [Stage.index]) h2
      exact ⟨f st.index :: os, by simp [callRun, callStep, h1, TransferPhase.afterStage, hos]⟩

end Attempt

theorem retryLoop_callRun {cfg : TransferServiceConfig} {a : TransferArgs} {me : Nat}
    {faults : ℕ → ℕ → Outcome} {ctxDone : ℕ → Option GoError} {r : Except GoError Transaction} {db' : Db}
    {k' : ℕ} : ∀ (fuel k : ℕ) (attempt : BitVec 64) (db : Db),
      cfg.retryLoop (fun k => executeTransfer a me (faults k)) ctxDone fuel k attempt db = some (r, db', k') →
      ∃ os, callRun cfg me os (.transfer a (.running attempt .begin)) db = some (.transfer a (.finished r), db')
  | 0, _, _, _, h => by cases h
  | fuel + 1, k, attempt, db, h => by
    simp only [TransferServiceConfig.retryLoop, Option.bind_eq_some] at h
    obtain ⟨⟨r1, db1⟩, h1, h2⟩ := h
    obtain ⟨os₁, hos₁⟩ := runStages_callRun cfg attempt 7 (by decide) (executeTransfer_eq_some h1)
    cases hA : cfg.afterAttempt attempt r1 with
    | finish r2 =>
      simp only [hA, Option.some.injEq, Prod.mk.injEq] at h2
      obtain ⟨rfl, rfl, -⟩ := h2
      exact ⟨os₁, by simpa [TransferPhase.afterStage, hA] using hos₁⟩
    | retry m e =>
      have hnext : callRun cfg me os₁ (.transfer a (.running attempt .begin)) db =
          some (.transfer a (if (0 : BitVec 64).slt m then .backoff m else .running m .begin), db1) := by
        simpa [TransferPhase.afterStage, hA] using hos₁
      simp only [hA] at h2
      split_ifs at h2 hnext
      · cases hc : ctxDone (k + 1) with
        | some err =>
          simp only [hc, Option.some.injEq, Prod.mk.injEq] at h2
          obtain ⟨rfl, rfl, -⟩ := h2
          exact ⟨os₁ ++ [.fail err], by simp [callRun_append, hnext, callRun, callStep, Outcome.failure]⟩
        | none =>
          simp only [hc] at h2
          obtain ⟨os₂, hos₂⟩ := retryLoop_callRun fuel (k + 1) m db1 h2
          exact ⟨os₁ ++ .ok :: os₂, by simp [callRun_append, hnext, callRun, callStep, Outcome.failure, hos₂]⟩
      · obtain ⟨os₂, hos₂⟩ := retryLoop_callRun fuel (k + 1) m db1 h2
        exact ⟨os₁ ++ os₂, by simp [callRun_append, hnext, hos₂]⟩

/-- Every run of `transferOnStore` in session 0 is a run of the system with that call alone, same result and store. -/
theorem transferOnStore_solo_run (cfg : TransferServiceConfig) (newFromString : String → Option ℚ)
    (req : CreateTransactionRequest) (faults : ℕ → ℕ → Outcome) (ctxDone : ℕ → Option GoError) (fuel : ℕ)
    (db : Db) (r : Except GoError Transaction) (db' : Db) (k : ℕ)
    (h : transferOnStore cfg newFromString req 0 faults ctxDone fuel db = some (r, db', k)) :
    ∃ sched s h', runSchedule cfg (Sys.init cfg newFromString db [.transfer req]) sched = some (s, h') ∧
      s.db = db' ∧ s.calls.map Call.transferResult = [some r] := by
  simp only [transferOnStore, transfer] at h
  cases hv : validate newFromString req with
  | error e =>
    simp only [hv, Option.some.injEq, Prod.mk.injEq] at h
    obtain ⟨rfl, rfl, -⟩ := h
    exact ⟨[], _, [], rfl, rfl, by simp [Sys.init, Call.start, hv, Call.transferResult]⟩
  | ok a =>
    simp only [hv, TransferServiceConfig.runLoop] at h
    split_ifs at h with h0
    · obtain ⟨os, hos⟩ := retryLoop_callRun fuel 0 0 db h
      obtain ⟨h', hs⟩ := runSchedule_solo cfg os hos
      refine ⟨os.map ((0, ·)), ⟨db', [.transfer a (.finished r)]⟩, h', ?_, rfl, rfl⟩
      simpa only [Sys.init, List.map, Call.start, hv, if_pos h0] using hs
    · simp only [Option.some.injEq, Prod.mk.injEq] at h
      obtain ⟨rfl, rfl, -⟩ := h
      refine ⟨[], _, [], rfl, rfl, ?_⟩
      simp only [Sys.init, List.map, Call.start, hv, if_neg h0, Call.transferResult]

theorem transferOnStore_solo_run_two_accounts :
    ∃ r db' k, transferOnStore defaultTransferConfig decimalOfString ⟨1, 2, "100"⟩ 0 (fun _ _ => .ok)
        (fun _ => none) 4 twoAccounts = some (r, db', k) ∧
      ∃ sched s h', runSchedule defaultTransferConfig (Sys.init defaultTransferConfig decimalOfString twoAccounts
          [.transfer ⟨1, 2, "100"⟩]) sched = some (s, h') ∧
        s.db = db' ∧ s.calls.map Call.transferResult = [some r] := by
  obtain ⟨db', h, -, -⟩ := @transferOnStore_alone ⟨1, 2, 100, by decide, by decide⟩ 0 twoAccounts
    defaultTransferConfig decimalOfString ⟨1, 2, "100"⟩ 4 (fun _ => none) (by decide) (by decide)
    (validate_eq_ok (by decide) parseMoney_100 (by decide)) rfl rfl rfl
  exact ⟨_, db', 1, h, transferOnStore_solo_run defaultTransferConfig decimalOfString ⟨1, 2, "100"⟩
    (fun _ _ => .ok) (fun _ => none) 4 twoAccounts _ db' 1 h⟩

/-- `AccountService.CreateAccount` (lines 22-60) on the store alone, its `Exists` meeting `o1` and its insert `o2`. -/
def createAccountOnStore (newFromString : String → Option ℚ) (req : CreateAccountRequest) (o1 o2 : Outcome)
    (db : Db) : Except GoError Account × Db :=
  match validateCreate newFromString req with
  | .error e => (.error e, db)
  | .ok n => match AccountRepository.exists db n.account.accountID o1 with
    | .error e => (createErr "failed to check account existence" e, db)
    | .ok true => (.error errAccountAlreadyExists, db)
    | .ok false => match AccountRepository.create db n.account o2 with
      | (none, db') => (.ok n.account, db')
      | (some e, db') => (if isDuplicateKeyError e then .error errAccountAlreadyExists
          else createErr "failed to create account" e, db')

def Call.createResult : Call → Option (Except GoError Account)
  | .createAccount _ (.finished r) => some r
  | .returned e => some (.error e)
  | _ => none

/-- Each run of `createAccountOnStore` in session 0 is a system run of that call alone, same result and store. -/
theorem createAccountOnStore_solo_run (cfg : TransferServiceConfig) (newFromString : String → Option ℚ)
    (req : CreateAccountRequest) (o1 o2 : Outcome) (db : Db) :
    ∃ sched s h, runSchedule cfg (Sys.init cfg newFromString db [.createAccount req]) sched = some (s, h) ∧
      s.db = (createAccountOnStore newFromString req o1 o2 db).2 ∧
      s.calls.map Call.createResult = [some (createAccountOnStore newFromString req o1 o2 db).1] := by
  unfold createAccountOnStore
  cases hv : validateCreate newFromString req with
  | error e => exact ⟨[], _, [], rfl, rfl, by simp [Sys.init, Call.start, hv, Call.createResult]⟩
  | ok n =>
    have hstart : Sys.init cfg newFromString db [.createAccount req] = ⟨db, [.createAccount n .checkExists]⟩ := by
      simp [Sys.init, Call.start, hv]
    have hsolo : ∀ os r db', callRun cfg 0 os (.createAccount n .checkExists) db = some (.createAccount n (.finished r), db') →
        ∃ sched s h, runSchedule cfg ⟨db, [.createAccount n .checkExists]⟩ sched = some (s, h) ∧ s.db = db' ∧
          s.calls.map Call.createResult = [some r] := fun os r db' hrun => by
      obtain ⟨h, hs⟩ := runSchedule_solo cfg os hrun
      exact ⟨_, _, h, hs, rfl, rfl⟩
    rw [hstart]
    cases hx : AccountRepository.exists db n.account.accountID o1 with
    | error e => exact hsolo [o1] _ _ (by simp [callRun, callStep, hx])
    | ok b =>
      cases b with
      | true => exact hsolo [o1] _ _ (by simp [callRun, callStep, hx])
      | false =>
        rcases hc : AccountRepository.create db n.account o2 with ⟨_ | e, db'⟩ <;>
          exact hsolo [o1, o2] _ _ (by simp [callRun, callStep, hx, hc])

end InternalTransfers
