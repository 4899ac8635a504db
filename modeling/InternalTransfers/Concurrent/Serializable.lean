import InternalTransfers.Concurrent.Invariant

/-! # Interleaved runs are serial runs

With every statement succeeding, each call that has returned has exactly one event in the
history, carrying the result it returned, and the history replays to the committed tables:
the run is the serial run of its events, in the order of their decisions. From the empty
store, with failures allowed anywhere, the history still replays, so the ledger invariants
of `Serial` hold in every reachable state.
-/
namespace InternalTransfers

/-- The event of a call that has returned after store statements: its own result. -/
def Call.outcomeEvent (i : Nat) : Call → Option Event
  | .transfer a (.finished r) => some (.transfer i a r)
  | .createAccount n (.finished r) => some (.createAccount i n r)
  | _ => none

theorem isDuplicateKeyError_wrapped_duplicate (context : String) :
    isDuplicateKeyError (.wrapped context AccountRepository.duplicateKeyError) = true := by
  have h : infixOf "duplicate key".toList AccountRepository.duplicateKeyError.error.toList = true := by decide
  have h' := ((infixOf_iff _ _).mp h).trans (List.suffix_append (context ++ ": ").toList _).isInfix
  simp only [isDuplicateKeyError, contains, GoError.error, Bool.or_eq_true]
  exact .inl ((infixOf_iff _ _).mpr (by simpa [String.toList] using h'))

theorem TransferServiceConfig.afterAttempt_final {cfg : TransferServiceConfig} {n : BitVec 64}
    {r : Except GoError Transaction} (h : (∃ t, r = .ok t) ∨ ∃ e, r = .error e ∧ isRetryable e = false) :
    cfg.afterAttempt n r = .finish r := by
  rcases h with ⟨t, rfl⟩ | ⟨e, rfl, he⟩
  · rfl
  · simp [TransferServiceConfig.afterAttempt, he]

section Ok
variable {cfg : TransferServiceConfig} {a : TransferArgs} {i : Nat} {db db' : Db} {st : Stage}

theorem stageStep_ok_ended {r : Except GoError Transaction} (hI : StageInv a i db st)
    (h : stageStep a i db .ok st = some (.ended r, db')) :
    Stage.decision .ok st (.ended r) = some r ∧
      ((∃ t, r = .ok t) ∨ ∃ e, r = .error e ∧ isRetryable e = false) := by
  cases st with
  | begin =>
    obtain ⟨-, ⟨_, he, -⟩ | ⟨-, h⟩⟩ := stageStep_begin h
    · cases he
    · cases h
  | lockFirst =>
    obtain ⟨-, ⟨e, he, -, hok⟩ | ⟨_, -, -, h, -⟩⟩ := stageStep_lockFirst h
    · cases he
      obtain ⟨rfl, -⟩ := hok rfl
      exact ⟨rfl, .inr ⟨_, rfl, by simp⟩⟩
    · cases h
  | lockSecond _ =>
    obtain ⟨-, ⟨e, he, -, hok⟩ | ⟨_, -, -, -, h, -⟩⟩ := stageStep_lockSecond h
    · cases he
      refine ⟨rfl, .inr ⟨_, rfl, ?_⟩⟩
      rcases hok rfl with ⟨rfl, -⟩ | ⟨_, -, rfl, -⟩ <;> simp
    · cases h
  | updateSource source dest =>
    obtain ⟨hp, hH, hs, -, hr⟩ := hI
    rw [stageStep_updateSource_ok (hH.heldByOther (by simp [hs]))
      (by rw [Db.view_of_empty _ _ hp, hs, hr.source]; rfl)] at h
    cases h
  | updateDest dest =>
    obtain ⟨hH, hd, bs, hr, hp⟩ := hI
    have hv : (db.view i).accounts dest.accountID = db.ledger.accounts dest.accountID :=
      Ledger.apply_accounts_of_not_mem _ _ (by simp [hp, hd, a.distinct])
    rw [stageStep_updateDest_ok (hH.heldByOther (by simp [hd])) (by rw [hv, hd, hr.dest]; rfl)] at h
    cases h
  | insert =>
    obtain ⟨-, -, ⟨_, _, _, hne⟩ | ⟨-, h, -⟩⟩ := stageStep_insert h
    · exact absurd rfl hne
    · cases h
  | commit t =>
    rcases stageStep_commit h with ⟨-, he, -⟩ | ⟨_, h, -⟩ | ⟨_, h, -⟩
    · cases he; exact ⟨rfl, .inl ⟨t, rfl⟩⟩
    · cases h
    · cases h
  | ended _ => cases h

/-- With every statement succeeding, a step of call `i` records an event exactly when it returns, with its result. -/
theorem callStep_ok_outcome {c c' : Call} (hI : CallInv i db c) (h : callStep cfg i db .ok c = some (c', db')) :
    (c'.outcomeEvent i).toList = (c.outcomeEvent i).toList ++ (c.event i db .ok).toList := by
  match c, hI with
  | .transfer a (.running n st), hI =>
    obtain ⟨⟨st', db''⟩, hs, he⟩ := Option.map_eq_some'.mp h
    cases he
    simp only [Call.event, hs, Option.some_bind]
    cases st' with
    | ended r =>
      obtain ⟨hd, hfin⟩ := stageStep_ok_ended hI.1 hs
      simp [hd, TransferPhase.afterStage, TransferServiceConfig.afterAttempt_final hfin, Call.outcomeEvent]
    | _ => cases st <;> rfl
  | .transfer a (.backoff n), _ =>
    cases h
    rfl
  | .createAccount n .checkExists, _ =>
    simp only [callStep, AccountRepository.exists, Outcome.failure, Option.some.injEq] at h
    obtain ⟨rfl, rfl⟩ := h
    cases hz : (db.ledger.accounts n.account.accountID).isSome <;>
      simp [Call.outcomeEvent, Call.event, AccountRepository.exists, Outcome.failure, hz]
  | .createAccount n .insert, _ =>
    simp only [callStep, AccountRepository.create] at h
    rcases hz : db.ledger.accounts n.account.accountID with _ | b <;> simp only [hz] at h <;> cases h
    · simp [Call.outcomeEvent, Call.event, Outcome.applied, serialCreate, hz]
    · simp [Call.outcomeEvent, Call.event, Outcome.applied, serialCreate, hz,
        isDuplicateKeyError_wrapped_duplicate]
  | .transfer _ (.finished _), _ | .createAccount _ (.finished _), _ | .returned _, _ => cases h

end Ok

/-- Every call's events in the history: none before it returns, then its result, once. -/
def OutcomesRecorded (s : Sys) (h : List Event) : Prop :=
  ∀ i c, s.calls[i]? = some c → h.filter (·.call = i) = (c.outcomeEvent i).toList

theorem outcomesRecorded_step {cfg : TransferServiceConfig} {s0 s s' : Sys} {h : List Event} {i : Nat}
    (hI : Inv s0 s h) (hO : OutcomesRecorded s h) (hs : s.step cfg i .ok = some s') :
    OutcomesRecorded s' (h ++ (s.event i .ok).toList) := by
  obtain ⟨c, c', db', hc, hstep, rfl⟩ := Sys.step_eq_some hs
  have hown : ∀ j, (c.event i s.db .ok).toList.filter (·.call = j) =
      if i = j then (c.event i s.db .ok).toList else [] := fun j => by
    cases he : c.event i s.db .ok with
    | none => simp
    | some e => by_cases hij : i = j <;> simp [Call.event_call he, hij]
  intro j d hj
  rw [List.filter_append, Sys.event_of _ hc, hown]
  by_cases hji : i = j
  · subst hji
    rw [List.getElem?_set_self (List.getElem?_eq_some_iff.mp hc).1] at hj
    cases hj
    rw [if_pos rfl, hO i c hc, callStep_ok_outcome (hI.calls i c hc) hstep]
  · rw [List.getElem?_set_ne hji] at hj
    rw [if_neg hji, List.append_nil, hO j d hj]

theorem Call.start_outcomeEvent {cfg : TransferServiceConfig} {newFromString : String → Option ℚ}
    (i : Nat) (r : Request) : (Call.start cfg newFromString r).outcomeEvent i = none := by
  unfold Call.start
  split
  · split
    · rfl
    · split_ifs <;> rfl
  · split <;> rfl

theorem reaches_ok_outcomes {cfg : TransferServiceConfig} {newFromString : String → Option ℚ} {db0 : Db}
    {reqs : List Request} {s : Sys} {h : List Event} (hidle : db0.Idle)
    (hr : Reaches cfg (· = .ok) (Sys.init cfg newFromString db0 reqs) s h) : OutcomesRecorded s h := by
  induction hr with
  | init =>
    intro i c hc
    simp only [Sys.init, List.getElem?_map, Option.map_eq_some'] at hc
    obtain ⟨r, -, rfl⟩ := hc
    rw [Call.start_outcomeEvent]
    rfl
  | step hr' ho hs ih =>
    subst ho
    exact outcomesRecorded_step (reaches_inv hidle hr') ih hs

/-- Every statement succeeding, from an idle store: the tables are the serial run of the history, one event a call. -/
theorem transfers_serializable (cfg : TransferServiceConfig) (newFromString : String → Option ℚ)
    (db0 : Db) (reqs : List Request) (s : Sys) (h : List Event) (hidle : db0.Idle)
    (hr : Reaches cfg (· = .ok) (Sys.init cfg newFromString db0 reqs) s h) :
    replay db0.ledger h = some s.db.ledger ∧
      ∀ i c, s.calls[i]? = some c → h.filter (·.call = i) = (c.outcomeEvent i).toList :=
  ⟨(reaches_inv hidle hr).replay, reaches_ok_outcomes hidle hr⟩

def fourAccounts : Db :=
  ⟨⟨fun z => if z = 1 ∨ z = 3 then some 1000 else if z = 2 ∨ z = 4 then some 0 else none, []⟩,
    fun _ => none, fun _ => .empty, 1⟩

def oneToTwo : TransferArgs := ⟨1, 2, 100, by decide, by norm_num⟩
def threeToFour : TransferArgs := ⟨3, 4, 100, by decide, by norm_num⟩

def disjointTransfers : List Request := [.transfer ⟨1, 2, "100"⟩, .transfer ⟨3, 4, "100"⟩]

def insertsBeforeCommits : List (Nat × Outcome) :=
  List.replicate 6 (0, .ok) ++ List.replicate 7 (1, .ok) ++ [(0, .ok)]

def oneAtATime : List (Nat × Outcome) := List.replicate 7 (1, .ok) ++ List.replicate 7 (0, .ok)

theorem init_disjointTransfers :
    Sys.init defaultTransferConfig decimalOfString fourAccounts disjointTransfers =
      ⟨fourAccounts, [.transfer oneToTwo (.running 0 .begin), .transfer threeToFour (.running 0 .begin)]⟩ := by
  have h1 : validate decimalOfString ⟨1, 2, "100"⟩ = .ok oneToTwo := validate_eq_ok (by decide) parseMoney_100 _
  have h2 : validate decimalOfString ⟨3, 4, "100"⟩ = .ok threeToFour := validate_eq_ok (by decide) parseMoney_100 _
  simp [Sys.init, disjointTransfers, Call.start, h1, h2]
  decide

theorem reaches_of_schedule {cfg : TransferServiceConfig} {s0 s : Sys} {h : List Event}
    {sched : List (Nat × Outcome)} (hs : runSchedule cfg s0 sched = some (s, h)) (hok : ∀ p ∈ sched, p.2 = .ok) :
    Reaches cfg (· = .ok) s0 s h := by
  simpa using runSchedule_reaches sched .init hok hs

theorem insertsBeforeCommits_run : ∃ s, runSchedule defaultTransferConfig
    ⟨fourAccounts, [.transfer oneToTwo (.running 0 .begin), .transfer threeToFour (.running 0 .begin)]⟩
    insertsBeforeCommits = some (s, [.transfer 1 threeToFour (.ok ⟨2, 3, 4, 100⟩), .transfer 0 oneToTwo (.ok ⟨1, 1, 2, 100⟩)]) ∧
    s.calls[1]? = some (.transfer threeToFour (.finished (.ok ⟨2, 3, 4, 100⟩))) :=
  ⟨_, rfl, rfl⟩

theorem oneAtATime_run : ∃ s, runSchedule defaultTransferConfig
    ⟨fourAccounts, [.transfer oneToTwo (.running 0 .begin), .transfer threeToFour (.running 0 .begin)]⟩
    oneAtATime = some (s, [.transfer 1 threeToFour (.ok ⟨1, 3, 4, 100⟩), .transfer 0 oneToTwo (.ok ⟨2, 1, 2, 100⟩)]) ∧
    s.calls[1]? = some (.transfer threeToFour (.finished (.ok ⟨1, 3, 4, 100⟩))) :=
  ⟨_, rfl, rfl⟩

theorem transfers_serializable_disjoint :
    ∃ s h, Reaches defaultTransferConfig (· = .ok)
        (Sys.init defaultTransferConfig decimalOfString fourAccounts disjointTransfers) s h ∧ h.length = 2 ∧
      replay fourAccounts.ledger h = some s.db.ledger ∧
      ∀ i c, s.calls[i]? = some c → h.filter (·.call = i) = (c.outcomeEvent i).toList := by
  obtain ⟨s, hs, -⟩ := insertsBeforeCommits_run
  have hr := reaches_of_schedule hs (by decide)
  rw [← init_disjointTransfers] at hr
  exact ⟨s, _, hr, rfl, transfers_serializable _ _ _ _ _ _ ⟨fun _ => rfl, fun _ => rfl⟩ hr⟩

/-- The id is taken at the insert, not the commit: call 1 commits first yet holds record 2. -/
theorem transfer_ids_follow_inserts_not_commits :
    ∃ s h s' h', Reaches defaultTransferConfig (· = .ok)
        (Sys.init defaultTransferConfig decimalOfString fourAccounts disjointTransfers) s h ∧
      Reaches defaultTransferConfig (· = .ok)
        (Sys.init defaultTransferConfig decimalOfString fourAccounts disjointTransfers) s' h' ∧
      h.map Event.call = [1, 0] ∧ h'.map Event.call = [1, 0] ∧
      s.calls[1]? = some (.transfer threeToFour (.finished (.ok ⟨2, 3, 4, 100⟩))) ∧
      s'.calls[1]? = some (.transfer threeToFour (.finished (.ok ⟨1, 3, 4, 100⟩))) := by
  obtain ⟨s, hs, hc⟩ := insertsBeforeCommits_run
  obtain ⟨s', hs', hc'⟩ := oneAtATime_run
  rw [init_disjointTransfers]
  exact ⟨s, _, s', _, reaches_of_schedule hs (by decide), reaches_of_schedule hs' (by decide), rfl, rfl, hc, hc'⟩

theorem Db.empty_idle : Db.empty.Idle := ⟨fun _ => rfl, fun _ => rfl⟩

/-- From the empty store, any outcomes: no negative balance, well-formed records, each balance explained by them. -/
theorem ledger_invariants_from_empty (cfg : TransferServiceConfig) (newFromString : String → Option ℚ)
    (reqs : List Request) (s : Sys) (h : List Event)
    (hr : Reaches cfg (fun _ => True) (Sys.init cfg newFromString Db.empty reqs) s h) :
    LedgerInv h s.db.ledger ∧ ∀ i n r, Event.createAccount i n r ∈ h →
      ∃ req, reqs[i]? = some (.createAccount req) ∧ validateCreate newFromString req = .ok n := by
  have hI := reaches_inv Db.empty_idle hr
  refine ⟨ledgerInv_replay h hI.replay, fun i n r he => ?_⟩
  obtain ⟨q, hq, hargs⟩ := hI.event_request he
  obtain ⟨req, rfl, hv⟩ := Call.start_args_inr hargs
  exact ⟨req, hq, hv⟩

def openAndTransfer : List Request :=
  [.createAccount ⟨1, "100"⟩, .createAccount ⟨2, "100"⟩, .transfer ⟨1, 2, "100"⟩]

def openOne : NewAccount := ⟨⟨1, 100⟩, by norm_num⟩
def openTwo : NewAccount := ⟨⟨2, 100⟩, by norm_num⟩

def openThenTransfer : List (Nat × Outcome) :=
  [(0, .ok), (0, .ok), (1, .ok), (1, .ok)] ++ List.replicate 7 (2, .ok)

theorem openAndTransfer_reaches :
    ∃ s, Reaches defaultTransferConfig (fun _ => True)
      (Sys.init defaultTransferConfig decimalOfString Db.empty openAndTransfer) s
      [.createAccount 0 openOne (.ok ⟨1, 100⟩), .createAccount 1 openTwo (.ok ⟨2, 100⟩),
        .transfer 2 oneToTwo (.ok ⟨1, 1, 2, 100⟩)] := by
  have h1 : validate decimalOfString ⟨1, 2, "100"⟩ = .ok oneToTwo := validate_eq_ok (by decide) parseMoney_100 _
  have hinit : Sys.init defaultTransferConfig decimalOfString Db.empty openAndTransfer =
      ⟨Db.empty, [.createAccount openOne .checkExists, .createAccount openTwo .checkExists,
        .transfer oneToTwo (.running 0 .begin)]⟩ := by
    simp [Sys.init, openAndTransfer, Call.start, validateCreate, parseMoney_100, h1,
      show ¬ (100 : ℚ) < 0 by norm_num, openOne, openTwo]
    decide
  obtain ⟨s, hs⟩ : ∃ s, runSchedule defaultTransferConfig
      ⟨Db.empty, [.createAccount openOne .checkExists, .createAccount openTwo .checkExists,
        .transfer oneToTwo (.running 0 .begin)]⟩ openThenTransfer =
      some (s, [.createAccount 0 openOne (.ok ⟨1, 100⟩), .createAccount 1 openTwo (.ok ⟨2, 100⟩),
        .transfer 2 oneToTwo (.ok ⟨1, 1, 2, 100⟩)]) :=
    ⟨_, rfl⟩
  have hr : Reaches _ (fun _ => True) _ _ _ := runSchedule_reaches _ .init (fun _ _ => trivial) hs
  rw [List.nil_append, ← hinit] at hr
  exact ⟨s, hr⟩

theorem ledger_invariants_from_empty_open_and_transfer :
    ∃ s h, Reaches defaultTransferConfig (fun _ => True)
        (Sys.init defaultTransferConfig decimalOfString Db.empty openAndTransfer) s h ∧ h.length = 3 ∧
      LedgerInv h s.db.ledger ∧ ∀ i n r, Event.createAccount i n r ∈ h →
        ∃ req, openAndTransfer[i]? = some (.createAccount req) ∧ validateCreate decimalOfString req = .ok n := by
  obtain ⟨s, hr⟩ := openAndTransfer_reaches
  exact ⟨s, _, hr, rfl, ledger_invariants_from_empty _ _ _ _ _ hr⟩

/-- Along every run from the empty store, any outcomes: the stored balances add up to the opening balances. -/
theorem total_balance_is_opened (cfg : TransferServiceConfig) (newFromString : String → Option ℚ)
    (reqs : List Request) (s : Sys) (h : List Event)
    (hr : Reaches cfg (fun _ => True) (Sys.init cfg newFromString Db.empty reqs) s h)
    (S : Finset Int) (hS : ∀ id, (s.db.ledger.accounts id).isSome → id ∈ S) :
    ∑ id ∈ S, (s.db.ledger.accounts id).getD 0 = ∑ id ∈ S, (opened h id).getD 0 :=
  (ledgerInv_replay h (reaches_inv Db.empty_idle hr).replay).sum_balances hS

theorem total_balance_is_opened_open_and_transfer :
    ∃ s h, Reaches defaultTransferConfig (fun _ => True)
        (Sys.init defaultTransferConfig decimalOfString Db.empty openAndTransfer) s h ∧
      (∀ id, (s.db.ledger.accounts id).isSome → id ∈ ({1, 2} : Finset Int)) ∧
      ∑ id ∈ ({1, 2} : Finset Int), (s.db.ledger.accounts id).getD 0 = 200 := by
  obtain ⟨s, hr⟩ := openAndTransfer_reaches
  have hI := ledgerInv_replay _ (reaches_inv Db.empty_idle hr).replay
  have hS : ∀ id, (s.db.ledger.accounts id).isSome → id ∈ ({1, 2} : Finset Int) := fun id hid => by
    obtain ⟨b, hb⟩ := Option.isSome_iff_exists.mp hid
    obtain ⟨b0, ho, -⟩ := hI.balance id b hb
    by_cases h1 : id = 1
    · simp [h1]
    · by_cases h2 : id = 2
      · simp [h2]
      · simp [opened, Event.opening, openOne, openTwo, Ne.symm h1, Ne.symm h2] at ho
  refine ⟨s, _, hr, hS, ?_⟩
  rw [total_balance_is_opened _ _ _ _ _ hr _ hS]
  norm_num [Finset.sum_pair, opened, Event.opening, openOne, openTwo]

/-- From an idle store, any outcomes: the tables replay the run's decided operations, in order, on the starting ones. -/
theorem committed_tables_replay_history (cfg : TransferServiceConfig) (newFromString : String → Option ℚ)
    (db0 : Db) (reqs : List Request) (s : Sys) (h : List Event) (hidle : db0.Idle)
    (hr : Reaches cfg (fun _ => True) (Sys.init cfg newFromString db0 reqs) s h) :
    replay db0.ledger h = some s.db.ledger ∧
      ∀ e ∈ h, ∃ req, reqs[e.call]? = some req ∧ (Call.start cfg newFromString req).args = some e.args := by
  have hI := reaches_inv hidle hr
  exact ⟨hI.replay, fun e he => hI.event_request he⟩

theorem committed_tables_replay_history_disjoint :
    ∃ s h, Reaches defaultTransferConfig (fun _ => True)
        (Sys.init defaultTransferConfig decimalOfString fourAccounts disjointTransfers) s h ∧ h.length = 2 ∧
      replay fourAccounts.ledger h = some s.db.ledger ∧
      ∀ e ∈ h, ∃ req, disjointTransfers[e.call]? = some req ∧
        (Call.start defaultTransferConfig decimalOfString req).args = some e.args := by
  obtain ⟨s, hs, -⟩ := insertsBeforeCommits_run
  have hr := (reaches_of_schedule hs (by decide)).mono fun _ _ => trivial
  rw [← init_disjointTransfers] at hr
  exact ⟨s, _, hr, rfl, committed_tables_replay_history _ _ _ _ _ _ ⟨fun _ => rfl, fun _ => rfl⟩ hr⟩

end InternalTransfers
