import InternalTransfers.Concurrent.Serializable

/-! # Concurrent `CreateAccount` calls

An account is stored by one insert only: once its id is taken, every later insert of it hits
the primary key, and a serial run never stores an id twice. A call that reads its id as free
in `Exists` may still lose the race to another call's insert; it then returns
`ErrAccountAlreadyExists` from the duplicate-key error of its own insert. An insert the server
carried out whose reply is lost leaves the account stored, while its call returns an error.
-/
namespace InternalTransfers

/-- The event stores an account under `id`. -/
def Event.createsAccount (id : Int) : Event → Bool
  | .createAccount _ n (.ok _) => n.account.accountID = id
  | _ => false

section Replay
variable {L L' : Ledger} {e : Event} {id : Int}

theorem Event.apply_isSome (h : e.apply L = some L') {x : Int} (hx : (L.accounts x).isSome) :
    (L'.accounts x).isSome := by
  cases e with
  | transfer i a r =>
    simp only [Event.apply] at h
    split_ifs at h
    cases h
    rcases serialTransfer_cases (a := a) (resultID r) L with ⟨_, _, _, hL⟩ | hok
    · rwa [hL]
    · obtain ⟨_, _, _, _, _, _, hL⟩ := serialTransfer_eq_ok hok
      rw [hL]
      exact isSome_update_some _ _ (isSome_update_some _ _ hx)
  | createAccount i n r =>
    rcases Event.apply_createAccount h with ⟨-, -, rfl⟩ | ⟨-, -, rfl⟩
    · exact hx
    · exact isSome_update_some _ _ hx

theorem Event.apply_creates (h : e.apply L = some L') (hc : e.createsAccount id = true) :
    L.accounts id = none ∧ (L'.accounts id).isSome := by
  cases e with
  | transfer => cases hc
  | createAccount i n r =>
    rcases Event.apply_createAccount h with ⟨-, rfl, -⟩ | ⟨hn, rfl, rfl⟩
    · cases hc
    · simp only [Event.createsAccount, decide_eq_true_eq] at hc
      subst hc
      exact ⟨hn, by simp⟩

theorem replay_cons (L : Ledger) (e : Event) (es : List Event) :
    replay L (e :: es) = (e.apply L).bind fun L1 => replay L1 es := by
  simp [replay, List.foldlM_cons]

theorem replay_isSome : ∀ {es : List Event} {L L' : Ledger}, replay L es = some L' → ∀ {x : Int},
    (L.accounts x).isSome → (L'.accounts x).isSome
  | [], _, _, h, _, hx => by cases h; exact hx
  | e :: es, L, L', h, x, hx => by
    rw [replay_cons] at h
    obtain ⟨L1, h1, h2⟩ := Option.bind_eq_some.mp h
    exact replay_isSome h2 (Event.apply_isSome h1 hx)

theorem replay_created_isSome {L L' : Ledger} {h : List Event} (hrep : replay L h = some L') (he : e ∈ h)
    (hc : e.createsAccount id = true) : (L'.accounts id).isSome := by
  obtain ⟨pre, post, rfl⟩ := List.append_of_mem he
  rw [replay_append] at hrep
  obtain ⟨L1, -, h1⟩ := Option.bind_eq_some.mp hrep
  rw [replay_cons] at h1
  obtain ⟨L2, h2, h3⟩ := Option.bind_eq_some.mp h1
  exact replay_isSome h3 (Event.apply_creates h2 hc).2

theorem serialCreate_fst (n : NewAccount) (L : Ledger) :
    ((serialCreate n L).1 = .error errAccountAlreadyExists ∧ (L.accounts n.account.accountID).isSome) ∨
      ((serialCreate n L).1 = .ok n.account ∧ L.accounts n.account.accountID = none) := by
  unfold serialCreate
  split <;> simp_all

end Replay

/-- Lines 48-55 of `CreateAccount` on the wrapped error of an insert carried out whose reply was lost as `e`. -/
def lostInsertResult (n : NewAccount) (e : GoError) : Except GoError Account :=
  let err : GoError := .wrapped ("insert account " ++ toString n.account.accountID) e
  if isDuplicateKeyError err then .error errAccountAlreadyExists else createErr "failed to create account" err

theorem isDuplicateKeyError_insert {id : Int} (hid : contains (toString id) "23505" = true) (e : GoError) :
    isDuplicateKeyError (.wrapped ("insert account " ++ toString id) e) = true := by
  have h := ((infixOf_iff _ _).mp hid).trans (List.infix_append "insert account ".toList _ (": " ++ e.error).toList)
  simp only [isDuplicateKeyError, contains, GoError.error, Bool.or_eq_true]
  exact .inr ((infixOf_iff _ _).mpr (by simpa [String.toList, List.append_assoc] using h))

/-- A create call's phase against the history: no event before it returns, then a result the history explains. -/
def CreatePhase.Recorded (i : Nat) (n : NewAccount) (h : List Event) : CreatePhase → Prop
  | .checkExists | .insert => ∀ r, Event.createAccount i n r ∉ h
  | .finished r => r ≠ .error errInvalidAmount ∧
      (∀ acc, r = .ok acc → acc = n.account ∧ Event.createAccount i n (.ok n.account) ∈ h) ∧
      (Event.createAccount i n (.ok n.account) ∈ h → r = .ok n.account ∨ ∃ e, r = lostInsertResult n e)

def CreatesRecorded (s : Sys) (h : List Event) : Prop :=
  ∀ i (n : NewAccount) (p : CreatePhase), s.calls[i]? = some (.createAccount n p) → p.Recorded i n h

theorem CreatePhase.Recorded.append {i : Nat} {n : NewAccount} {h es : List Event} {p : CreatePhase}
    (hp : p.Recorded i n h) (hes : ∀ e ∈ es, e.call ≠ i) : p.Recorded i n (h ++ es) := by
  cases p with
  | finished r =>
    exact ⟨hp.1, fun acc hr => ⟨(hp.2.1 acc hr).1, List.mem_append_left _ (hp.2.1 acc hr).2⟩,
      fun hm => hp.2.2 ((List.mem_append.mp hm).resolve_right fun he => hes _ he rfl)⟩
  | _ =>
    intro r hr
    rcases List.mem_append.mp hr with hr | hr
    exacts [hp r hr, hes _ hr rfl]

theorem AccountRepository.create_fst_eq_none {db : Db} {acc : Account} {o : Outcome}
    (h : (AccountRepository.create db acc o).1 = none) : o = .ok ∧ db.ledger.accounts acc.accountID = none := by
  unfold AccountRepository.create at h
  split at h <;> simp_all

theorem createErr_ne_invalid (message : String) (e : GoError) : createErr message e ≠ .error errInvalidAmount := by
  simp [createErr, wrapError, errInvalidAmount]

theorem alreadyExists_ne_invalid : (.error errAccountAlreadyExists : Except GoError Account) ≠ .error errInvalidAmount := by
  simp [errAccountAlreadyExists, errInvalidAmount]

section Create
variable {cfg : TransferServiceConfig} {i : Nat} {db db' : Db} {o : Outcome} {n : NewAccount} {h : List Event}

theorem create_error_of_applied {e : GoError} (hc : AccountRepository.create db n.account o = (some e, db'))
    (happ : o.applied = true) (hz : db.ledger.accounts n.account.accountID = none) :
    ∃ e0, e = .wrapped ("insert account " ++ toString n.account.accountID) e0 := by
  cases o with
  | ok => simp [AccountRepository.create, hz] at hc
  | fail => cases happ
  | lost e0 =>
    simp only [AccountRepository.create, hz, Prod.mk.injEq, Option.some.injEq] at hc
    exact ⟨e0, hc.1.symm⟩

theorem callStep_create_recorded {p : CreatePhase} {c' : Call} (hp : p.Recorded i n h)
    (hs : callStep cfg i db o (.createAccount n p) = some (c', db')) :
    ∃ p', c' = .createAccount n p' ∧ p'.Recorded i n (h ++ ((Call.createAccount n p).event i db o).toList) := by
  cases p with
  | checkExists =>
    simp only [callStep, Option.some.injEq] at hs
    obtain ⟨rfl, -⟩ := Prod.mk.inj hs
    -- the check records only `ErrAccountAlreadyExists`, so nothing stores the call's account
    have hnot : Event.createAccount i n (.ok n.account) ∉
        h ++ ((Call.createAccount n .checkExists).event i db o).toList := fun hm => by
      rcases List.mem_append.mp hm with hm | hm
      · exact hp _ hm
      · simp only [Call.event] at hm
        split_ifs at hm <;> simp at hm
    split
    · exact ⟨_, rfl, createErr_ne_invalid _ _, fun _ h => (by cases h), fun hm => absurd hm hnot⟩
    · exact ⟨_, rfl, alreadyExists_ne_invalid, fun _ h => (by cases h), fun hm => absurd hm hnot⟩
    · rename_i hex
      have hev : (Call.createAccount n .checkExists).event i db o = none := by simp [Call.event, hex]
      exact ⟨_, rfl, fun r hr => hp r (by simpa [hev] using hr)⟩
  | insert =>
    simp only [callStep] at hs
    split at hs <;> cases hs <;> rename_i hc
    · obtain ⟨rfl, hz⟩ := AccountRepository.create_fst_eq_none (congrArg Prod.fst hc)
      refine ⟨_, rfl, by simp, fun acc hacc => ⟨(Except.ok.inj hacc).symm, ?_⟩, fun _ => .inl rfl⟩
      simp [Call.event, Outcome.applied, serialCreate, hz]
    · refine ⟨_, rfl, ?_, fun acc hacc => ?_, fun hm => ?_⟩
      · split
        exacts [alreadyExists_ne_invalid, createErr_ne_invalid _ _]
      · split at hacc <;> cases hacc
      · rcases List.mem_append.mp hm with hm | hm
        · exact absurd hm (hp _)
        simp only [Call.event] at hm
        split_ifs at hm with happ
        · simp only [Option.toList_some, List.mem_singleton, Event.createAccount.injEq, true_and] at hm
          have hz : db.ledger.accounts n.account.accountID = none := by
            rcases serialCreate_fst n db.ledger with ⟨h1, -⟩ | ⟨-, hz⟩
            · rw [← hm] at h1; cases h1
            · exact hz
          obtain ⟨e0, rfl⟩ := create_error_of_applied hc happ hz
          exact .inr ⟨e0, rfl⟩
        · cases hm
  | finished r => cases hs

theorem createsRecorded_step {s s' : Sys} (hC : CreatesRecorded s h)
    (hs : s.step cfg i o = some s') : CreatesRecorded s' (h ++ (s.event i o).toList) := by
  obtain ⟨c, c', db', hc, hstep, rfl⟩ := Sys.step_eq_some hs
  have hown : ∀ e ∈ (s.event i o).toList, e.call = i := fun e he => by
    rw [Sys.event_of o hc, Option.mem_toList] at he
    exact Call.event_call he
  intro j m p hj
  by_cases hji : i = j
  · subst hji
    rw [List.getElem?_set_self (List.getElem?_eq_some_iff.mp hc).1] at hj
    cases hj
    obtain ⟨p0, rfl⟩ := Call.eq_createAccount_of_args (callStep_args hstep).symm
    obtain ⟨p', hp', hrec⟩ := callStep_create_recorded (hC i m p0 hc) hstep
    cases hp'
    rwa [Sys.event_of o hc]
  · rw [List.getElem?_set_ne hji] at hj
    exact (hC j m p hj).append fun e he h' => hji (h' ▸ hown e he).symm

end Create

theorem Call.start_createAccount {cfg : TransferServiceConfig} {newFromString : String → Option ℚ} {r : Request}
    {n : NewAccount} {p : CreatePhase} (h : Call.start cfg newFromString r = .createAccount n p) : p = .checkExists := by
  unfold Call.start at h
  split at h
  · split at h
    · cases h
    · split_ifs at h
  · split at h <;> cases h
    rfl

section Run
variable {cfg : TransferServiceConfig} {allowed : Outcome → Prop} {newFromString : String → Option ℚ}
  {db0 : Db} {reqs : List Request} {s : Sys} {h : List Event}

theorem reaches_createsRecorded (hr : Reaches cfg allowed (Sys.init cfg newFromString db0 reqs) s h) :
    CreatesRecorded s h := by
  induction hr with
  | init =>
    intro i n p hc
    simp only [Sys.init, List.getElem?_map, Option.map_eq_some'] at hc
    obtain ⟨r, -, hr⟩ := hc
    rw [Call.start_createAccount hr]
    exact fun _ => List.not_mem_nil _
  | step _ _ hs ih => exact createsRecorded_step ih hs

end Run

section Outcomes
variable {cfg : TransferServiceConfig} {allowed : Outcome → Prop} {newFromString : String → Option ℚ}
  {db0 : Db} {reqs : List Request} {s : Sys} {h : List Event}

section AllOk
variable (hidle : db0.Idle) (hr : Reaches cfg allowed (Sys.init cfg newFromString db0 reqs) s h)
  (hok : ∀ o, allowed o → o = .ok)
include hidle hr hok

end AllOk

end Outcomes

/-- For an id whose text contains 23505, an insert failing for any reason reads as `ErrAccountAlreadyExists`. -/
theorem insert_failure_reads_as_duplicate (cfg : TransferServiceConfig) (i : Nat) (db : Db) (n : NewAccount)
    (e : GoError) (hid : contains (toString n.account.accountID) "23505" = true) :
    callStep cfg i db (.fail e) (.createAccount n .insert) =
      some (.createAccount n (.finished (.error errAccountAlreadyExists)), db) := by
  simp [callStep, AccountRepository.create, isDuplicateKeyError_insert hid]

def open23505 : NewAccount := ⟨⟨23505, 100⟩, by norm_num⟩

theorem insert_failure_reads_as_duplicate_23505 :
    Db.empty.ledger.accounts 23505 = none ∧ contains (toString (23505 : Int)) "23505" = true ∧
      callStep defaultTransferConfig 0 Db.empty (.fail (.text "read: connection reset by peer"))
        (.createAccount open23505 .insert) =
      some (.createAccount open23505 (.finished (.error errAccountAlreadyExists)), Db.empty) :=
  ⟨rfl, by decide, insert_failure_reads_as_duplicate _ _ _ _ _ (by decide)⟩

def openSeven : NewAccount := ⟨⟨7, 100⟩, by norm_num⟩

theorem validateCreate_openSeven : validateCreate decimalOfString ⟨7, "100"⟩ = .ok openSeven := by
  simp [validateCreate, parseMoney_100, show ¬ (100 : ℚ) < 0 by norm_num, openSeven]

end InternalTransfers
