import InternalTransfers.Concurrent.Serial
import InternalTransfers.Service.Transfer

/-! # The calls interleaved on one store

Every `Transfer` and `CreateAccount` call runs in a session of its own, numbered by its place
in the list of calls, and the scheduler runs any one of them for one store statement at a
time. A call that waits for a row lock another session holds cannot move. Each statement
meets an `Outcome` the environment chooses; in a backoff the outcome's error stands for the
context ending before the timer fires.

Beside the store, a run keeps a ghost history: the `Event` of every statement that decides a
call's result for the serial order. The invariants of the following modules relate the
history to the store.
-/
namespace InternalTransfers

/-- Lines 23-32 of `CreateAccount`: the checks made before any store access. -/
def validateCreate (newFromString : String → Option ℚ) (req : CreateAccountRequest) :
    Except GoError NewAccount :=
  match parseMoney newFromString req.initialBalance with
  | none => .error errInvalidAmount
  | some balance =>
    if h : balance < 0 then .error errInvalidAmount
    else .ok ⟨⟨req.accountID, balance⟩, not_lt.mp h⟩

theorem validateCreate_accountID {newFromString : String → Option ℚ} {req : CreateAccountRequest} {n : NewAccount}
    (h : validateCreate newFromString req = .ok n) : n.account.accountID = req.accountID := by
  unfold validateCreate at h
  split at h
  · cases h
  · split_ifs at h
    cases h
    rfl

inductive Request
  | transfer (req : CreateTransactionRequest)
  | createAccount (req : CreateAccountRequest)

/-- Where a `Transfer` call stands: before stage `st` of attempt `attempt`, in the backoff before it, or returned. -/
inductive TransferPhase
  | running (attempt : BitVec 64) (st : Stage)
  | backoff (attempt : BitVec 64)
  | finished (r : Except GoError Transaction)

/-- Where a `CreateAccount` call stands after its checks (lines 34-57). -/
inductive CreatePhase
  | checkExists
  | insert
  | finished (r : Except GoError Account)

/-- A call, with the arguments its checks produced; `returned` returned its error before any store statement. -/
inductive Call
  | transfer (a : TransferArgs) (p : TransferPhase)
  | createAccount (n : NewAccount) (p : CreatePhase)
  | returned (e : GoError)

/-- A call as it starts; with a negative `MaxRetries` a transfer returns `TransactionFailed` with no cause at once. -/
def Call.start (cfg : TransferServiceConfig) (newFromString : String → Option ℚ) : Request → Call
  | .transfer req => match validate newFromString req with
    | .error e => .returned e
    | .ok a => if (0 : BitVec 64).sle cfg.maxRetries then .transfer a (.running 0 .begin)
        else .returned (TransferServiceConfig.exhausted none)
  | .createAccount req => match validateCreate newFromString req with
    | .error e => .returned e
    | .ok n => .createAccount n .checkExists

def Call.done : Call → Bool
  | .transfer _ (.finished _) | .createAccount _ (.finished _) | .returned _ => true
  | _ => false

/-- The loop after a statement (lines 166-188): an ended attempt returns, backs off if `attempt > 0`, or retries. -/
def TransferPhase.afterStage (cfg : TransferServiceConfig) (attempt : BitVec 64) : Stage → TransferPhase
  | .ended r => match cfg.afterAttempt attempt r with
    | .finish r => .finished r
    | .retry attempt _ => if (0 : BitVec 64).slt attempt then .backoff attempt else .running attempt .begin
  | st => .running attempt st

def createErr (message : String) (e : GoError) : Except GoError Account :=
  .error (wrapError .databaseError message (some e))

/-- One statement of call `i` in session `i`: `none` while it waits on another session's lock, or once returned. -/
def callStep (cfg : TransferServiceConfig) (i : Nat) (db : Db) (o : Outcome) : Call → Option (Call × Db)
  | .transfer a (.running attempt st) =>
    (stageStep a i db o st).map fun p => (.transfer a (TransferPhase.afterStage cfg attempt p.1), p.2)
  | .transfer a (.backoff attempt) => some (match o.failure with
    | some err => .transfer a (.finished (.error err))
    | none => .transfer a (.running attempt .begin), db)
  | .createAccount n .checkExists => some (match AccountRepository.exists db n.account.accountID o with
    | .error e => .createAccount n (.finished (createErr "failed to check account existence" e))
    | .ok true => .createAccount n (.finished (.error errAccountAlreadyExists))
    | .ok false => .createAccount n .insert, db)
  | .createAccount n .insert => match AccountRepository.create db n.account o with
    | (none, db') => some (.createAccount n (.finished (.ok n.account)), db')
    | (some e, db') => some (.createAccount n (.finished
        (if isDuplicateKeyError e then .error errAccountAlreadyExists
        else createErr "failed to create account" e)), db')
  | .transfer _ (.finished _) | .createAccount _ (.finished _) | .returned _ => none

def Outcome.applied : Outcome → Bool
  | .fail _ => false
  | _ => true

def Stage.decision (o : Outcome) : Stage → Stage → Option (Except GoError Transaction)
  | .lockFirst, .ended r | .lockSecond _, .ended r => if o = .ok then some r else none
  | .commit t, .ended _ => if o.applied then some (.ok t) else none
  | _, _ => none

/-- The event a statement decides: a transfer's decision, an `Exists` finding the account, an insert carried out. -/
def Call.event (i : Nat) (db : Db) (o : Outcome) : Call → Option Event
  | .transfer a (.running _ st) =>
    ((stageStep a i db o st).bind fun p => Stage.decision o st p.1).map (.transfer i a)
  | .createAccount n .checkExists =>
    if AccountRepository.exists db n.account.accountID o = .ok true then
      some (.createAccount i n (.error errAccountAlreadyExists))
    else none
  | .createAccount n .insert =>
    if o.applied then some (.createAccount i n (serialCreate n db.ledger).1) else none
  | _ => none

structure Sys where
  db : Db
  calls : List Call

def Sys.init (cfg : TransferServiceConfig) (newFromString : String → Option ℚ) (db : Db)
    (reqs : List Request) : Sys :=
  ⟨db, reqs.map (Call.start cfg newFromString)⟩

def Sys.step (cfg : TransferServiceConfig) (s : Sys) (i : Nat) (o : Outcome) : Option Sys :=
  match s.calls[i]? with
  | none => none
  | some c => (callStep cfg i s.db o c).map fun p => ⟨p.2, s.calls.set i p.1⟩

def Sys.event (s : Sys) (i : Nat) (o : Outcome) : Option Event :=
  s.calls[i]?.bind (Call.event i s.db o)

/-- The states reachable from `s0` with the outcomes `allowed`, and the history of events on the way. -/
inductive Reaches (cfg : TransferServiceConfig) (allowed : Outcome → Prop) (s0 : Sys) : Sys → List Event → Prop
  | init : Reaches cfg allowed s0 s0 []
  | step {s s' : Sys} {h : List Event} {i : Nat} {o : Outcome} :
      Reaches cfg allowed s0 s h → allowed o → s.step cfg i o = some s' →
      Reaches cfg allowed s0 s' (h ++ (s.event i o).toList)

theorem Reaches.mono {cfg : TransferServiceConfig} {allowed allowed' : Outcome → Prop} {s0 s : Sys} {h : List Event}
    (hr : Reaches cfg allowed s0 s h) (hmono : ∀ o, allowed o → allowed' o) : Reaches cfg allowed' s0 s h := by
  induction hr with
  | init => exact .init
  | step _ ho hs ih => exact .step ih (hmono _ ho) hs

def runSchedule (cfg : TransferServiceConfig) : Sys → List (Nat × Outcome) → Option (Sys × List Event)
  | s, [] => some (s, [])
  | s, (i, o) :: rest => (s.step cfg i o).bind fun s' =>
    (runSchedule cfg s' rest).map fun p => (p.1, (s.event i o).toList ++ p.2)

theorem runSchedule_reaches {cfg : TransferServiceConfig} {allowed : Outcome → Prop} {s0 : Sys} :
    ∀ (sched : List (Nat × Outcome)) {s s' : Sys} {h h' : List Event}, Reaches cfg allowed s0 s h →
      (∀ p ∈ sched, allowed p.2) → runSchedule cfg s sched = some (s', h') → Reaches cfg allowed s0 s' (h ++ h')
  | [], _, _, _, _, hr, _, hs => by cases hs; simpa using hr
  | (i, o) :: rest, s, s', h, h', hr, ha, hs => by
    simp only [runSchedule, Option.bind_eq_some, Option.map_eq_some'] at hs
    obtain ⟨s1, h1, ⟨s2, h2⟩, h3, he⟩ := hs
    cases he
    rw [← List.append_assoc]
    exact runSchedule_reaches rest (.step hr (ha _ (List.mem_cons_self _ _)) h1)
      (fun p hp => ha p (List.mem_cons_of_mem _ hp)) h3

theorem Sys.step_eq_some {cfg : TransferServiceConfig} {s s' : Sys} {i : Nat} {o : Outcome}
    (h : s.step cfg i o = some s') : ∃ c c' db', s.calls[i]? = some c ∧
      callStep cfg i s.db o c = some (c', db') ∧ s' = ⟨db', s.calls.set i c'⟩ := by
  unfold Sys.step at h
  split at h
  · cases h
  · obtain ⟨⟨c', db'⟩, h1, rfl⟩ := Option.map_eq_some'.mp h
    exact ⟨_, c', db', ‹_›, h1, rfl⟩

theorem Sys.event_of {s : Sys} {i : Nat} {c : Call} (o : Outcome) (h : s.calls[i]? = some c) :
    s.event i o = c.event i s.db o := by
  simp [Sys.event, h]

theorem Call.event_call {i : Nat} {db : Db} {o : Outcome} {c : Call} {e : Event}
    (h : c.event i db o = some e) : e.call = i := by
  unfold Call.event at h
  split at h
  · obtain ⟨_, -, rfl⟩ := Option.map_eq_some'.mp h; rfl
  · split_ifs at h; cases h; rfl
  · split_ifs at h; cases h; rfl
  · cases h

def Call.args : Call → Option (TransferArgs ⊕ NewAccount)
  | .transfer a _ => some (.inl a)
  | .createAccount n _ => some (.inr n)
  | .returned _ => none

theorem Call.eq_createAccount_of_args {c : Call} {n : NewAccount} (h : c.args = some (.inr n)) :
    ∃ p, c = .createAccount n p := by
  cases c with
  | createAccount m p => cases h; exact ⟨p, rfl⟩
  | _ => cases h

def Event.args : Event → TransferArgs ⊕ NewAccount
  | .transfer _ a _ => .inl a
  | .createAccount _ n _ => .inr n

theorem callStep_args {cfg : TransferServiceConfig} {i : Nat} {db db' : Db} {o : Outcome} {c c' : Call}
    (h : callStep cfg i db o c = some (c', db')) : c'.args = c.args := by
  unfold callStep at h
  split at h
  · obtain ⟨_, -, h⟩ := Option.map_eq_some'.mp h; cases h; rfl
  · split at h <;> cases h <;> rfl
  · split at h <;> cases h <;> rfl
  · split at h <;> cases h <;> rfl
  all_goals cases h

theorem Call.event_args {i : Nat} {db : Db} {o : Outcome} {c : Call} {e : Event}
    (h : c.event i db o = some e) : c.args = some e.args := by
  unfold Call.event at h
  split at h
  · obtain ⟨_, -, rfl⟩ := Option.map_eq_some'.mp h; rfl
  · split_ifs at h; cases h; rfl
  · split_ifs at h; cases h; rfl
  · cases h

end InternalTransfers
