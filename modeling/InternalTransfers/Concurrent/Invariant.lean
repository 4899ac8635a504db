import InternalTransfers.Concurrent.System

/-! # What every interleaved run keeps

`StageInv` says what an attempt holds before each of its statements: the row locks it has
taken, the writes it has made, and that the balances it read are still the committed ones,
since no other session can change a row it holds. `Inv` adds that every lock belongs to a
call and that the history replays, one event at a time, to the committed tables. A step of
one call keeps the invariant of every other call (`Db.Agrees`) and of its own, so every
reachable state satisfies `Inv`.
-/
namespace InternalTransfers

namespace Db

/-- Session `i` holds exactly the row locks on `rows`. -/
def Holds (db : Db) (i : Nat) (rows : List Int) : Prop := ∀ x, db.locks x = some i ↔ x ∈ rows

/-- Session `i` has no open transaction: no write and no row lock. -/
def Settled (db : Db) (i : Nat) : Prop := db.pending i = .empty ∧ db.Holds i []

/-- No session holds a row or has an open transaction. -/
structure Idle (db : Db) : Prop where
  unlocked : ∀ x, db.locks x = none
  settled : ∀ j, db.pending j = .empty

variable {db : Db} {i : Nat}

theorem Idle.settled_at (h : db.Idle) (i : Nat) : db.Settled i :=
  ⟨h.settled i, fun x => by simp [h.unlocked x]⟩

theorem settled_release : (db.release i).Settled i :=
  ⟨db.release_pending_self i, fun x => by simp [db.release_locks_ne i x]⟩

theorem settled_commit : (db.commit i).Settled i :=
  ⟨db.commit_pending_self i, fun x => by simp [commit_locks, db.release_locks_ne i x]⟩

theorem Holds.lock_new {rows : List Int} (h : db.Holds i rows) (x : Int) : (db.lock i x).Holds i (x :: rows) := by
  intro y
  by_cases hy : y = x
  · subst hy; simp [lock]
  · simp [lock, Function.update_noteq hy, h y, hy]

theorem Holds.lock_mem {rows : List Int} (h : db.Holds i rows) {x : Int} (hx : x ∈ rows) :
    (db.lock i x).Holds i rows := by
  intro y
  by_cases hy : y = x
  · subst hy; simp [lock, hx]
  · simp [lock, Function.update_noteq hy, h y]

theorem Holds.congr {l l' : List Int} (h : db.Holds i l) (hl : ∀ x, x ∈ l ↔ x ∈ l') : db.Holds i l' :=
  fun x => (h x).trans (hl x)

theorem heldByOther_eq_false {x : Int} : db.heldByOther i x = false ↔ ∀ j, db.locks x = some j → j = i := by
  unfold heldByOther
  split <;> simp_all

theorem Holds.heldByOther {rows : List Int} (h : db.Holds i rows) {x : Int} (hx : x ∈ rows) :
    db.heldByOther i x = false :=
  heldByOther_eq_false.mpr fun j hj => by rw [(h x).mpr hx] at hj; exact (Option.some.inj hj).symm

end Db

theorem Ledger.apply_accounts_of_not_mem (L : Ledger) (w : TxWrites) {x : Int} (hx : ∀ p ∈ w.balances, p.1 ≠ x) :
    (L.apply w).accounts x = L.accounts x := by
  suffices ∀ (ps : List (Int × ℚ)) (f : Int → Option ℚ), (∀ p ∈ ps, p.1 ≠ x) →
      ps.foldl (fun (acc : Int → Option ℚ) (p : Int × ℚ) => Function.update acc p.1 (some p.2)) f x = f x from
    this _ _ hx
  intro ps
  induction ps with
  | nil => intro f _; rfl
  | cons p ps ih =>
    intro f h
    rw [List.foldl_cons, ih _ fun q hq => h q (.tail _ hq),
      Function.update_noteq (h p (List.mem_cons_self _ _)).symm]

/-- What an attempt read under its two locks: still the committed balances, and the source's is enough. -/
structure Read (a : TransferArgs) (db : Db) (bs bd : ℚ) : Prop where
  source : db.ledger.accounts a.sourceID = some bs
  dest : db.ledger.accounts a.destID = some bd
  enough : a.amount ≤ bs

def TransferArgs.writes (a : TransferArgs) (bs bd : ℚ) : List (Int × ℚ) :=
  [(a.sourceID, bs - a.amount), (a.destID, bd + a.amount)]

/-- Session `i`'s part of the store before each statement of its attempt. -/
def StageInv (a : TransferArgs) (i : Nat) (db : Db) : Stage → Prop
  | .begin | .lockFirst | .ended _ => db.Settled i
  | .lockSecond first => db.pending i = .empty ∧ db.Holds i [a.firstID] ∧
      first.accountID = a.firstID ∧ db.ledger.accounts a.firstID = some first.balance
  | .updateSource source dest => db.pending i = .empty ∧ db.Holds i [a.sourceID, a.destID] ∧
      source.accountID = a.sourceID ∧ dest.accountID = a.destID ∧ Read a db source.balance dest.balance
  | .updateDest dest => db.Holds i [a.sourceID, a.destID] ∧ dest.accountID = a.destID ∧
      ∃ bs, Read a db bs dest.balance ∧ db.pending i = ⟨[(a.sourceID, bs - a.amount)], []⟩
  | .insert => db.Holds i [a.sourceID, a.destID] ∧
      ∃ bs bd, Read a db bs bd ∧ db.pending i = ⟨a.writes bs bd, []⟩
  | .commit t => db.Holds i [a.sourceID, a.destID] ∧ t = ⟨t.transactionID, a.sourceID, a.destID, a.amount⟩ ∧
      ∃ bs bd, Read a db bs bd ∧ db.pending i = ⟨a.writes bs bd, [t]⟩

/-- Call `i`'s part of the store: a running attempt's `StageInv`, and nothing open otherwise. -/
def CallInv (i : Nat) (db : Db) : Call → Prop
  | .transfer a (.running _ st) => StageInv a i db st ∧ st.index < 7
  | _ => db.Settled i

/-- What another session's statement keeps of session `j`: its writes, its locks, the committed rows it holds. -/
structure Db.Agrees (j : Nat) (db db' : Db) : Prop where
  pending : db'.pending j = db.pending j
  locks : ∀ x, db'.locks x = some j ↔ db.locks x = some j
  ledger : ∀ x, db.locks x = some j → db'.ledger.accounts x = db.ledger.accounts x

namespace Db.Agrees
variable {j : Nat} {db db' db'' : Db}

theorem refl (db : Db) : Db.Agrees j db db := ⟨rfl, fun _ => .rfl, fun _ _ => rfl⟩

theorem trans (h : Db.Agrees j db db') (h' : Db.Agrees j db' db'') : Db.Agrees j db db'' :=
  ⟨h'.pending.trans h.pending, fun x => (h'.locks x).trans (h.locks x),
    fun x hx => (h'.ledger x ((h.locks x).mpr hx)).trans (h.ledger x hx)⟩

theorem holds {rows : List Int} (hA : Db.Agrees j db db') (h : db.Holds j rows) : db'.Holds j rows :=
  fun x => (hA.locks x).trans (h x)

theorem read {a : TransferArgs} {bs bd : ℚ} (hA : Db.Agrees j db db') (hH : db.Holds j [a.sourceID, a.destID])
    (h : Read a db bs bd) : Read a db' bs bd :=
  ⟨(hA.ledger _ ((hH _).mpr (by simp))).trans h.source, (hA.ledger _ ((hH _).mpr (by simp))).trans h.dest,
    h.enough⟩

theorem settled (hA : Db.Agrees j db db') (h : db.Settled j) : db'.Settled j :=
  ⟨hA.pending.trans h.1, hA.holds h.2⟩

theorem stageInv {a : TransferArgs} {st : Stage} (hA : Db.Agrees j db db') (h : StageInv a j db st) :
    StageInv a j db' st := by
  cases st with
  | begin | lockFirst | ended _ => exact hA.settled h
  | lockSecond first =>
    obtain ⟨hp, hH, hf, hl⟩ := h
    exact ⟨hA.pending.trans hp, hA.holds hH, hf, (hA.ledger _ ((hH _).mpr (by simp))).trans hl⟩
  | updateSource _ _ =>
    obtain ⟨hp, hH, hs, hd, hr⟩ := h
    exact ⟨hA.pending.trans hp, hA.holds hH, hs, hd, hA.read hH hr⟩
  | updateDest _ =>
    obtain ⟨hH, hd, bs, hr, hp⟩ := h
    exact ⟨hA.holds hH, hd, bs, hA.read hH hr, hA.pending.trans hp⟩
  | insert =>
    obtain ⟨hH, bs, bd, hr, hp⟩ := h
    exact ⟨hA.holds hH, bs, bd, hA.read hH hr, hA.pending.trans hp⟩
  | commit _ =>
    obtain ⟨hH, ht, bs, bd, hr, hp⟩ := h
    exact ⟨hA.holds hH, ht, bs, bd, hA.read hH hr, hA.pending.trans hp⟩

theorem callInv {c : Call} (hA : Db.Agrees j db db') (h : CallInv j db c) : CallInv j db' c :=
  match c, h with
  | .transfer _ (.running _ _), h => ⟨hA.stageInv h.1, h.2⟩
  | .transfer _ (.backoff _), h | .transfer _ (.finished _), h | .createAccount _ _, h | .returned _, h =>
    hA.settled h

end Db.Agrees

section Frame
variable {db : Db} {i j : Nat} (hne : j ≠ i)
include hne

theorem agrees_lock {x : Int} (hfree : db.heldByOther i x = false) : Db.Agrees j db (db.lock i x) := by
  refine ⟨rfl, fun y => ?_, fun _ _ => rfl⟩
  by_cases hy : y = x
  · subst hy
    have := Db.heldByOther_eq_false.mp hfree j
    simp only [Db.lock, Function.update_same, Option.some.injEq]
    exact ⟨fun h => absurd h.symm hne, fun h => absurd (this h) hne⟩
  · simp [Db.lock, Function.update_noteq hy]

theorem agrees_write (x : Int) (b : ℚ) : Db.Agrees j db (db.write i x b) :=
  ⟨by simp [Db.write, Function.update_noteq hne], fun _ => .rfl, fun _ _ => rfl⟩

theorem agrees_insert (t : Transaction) (k : Int) : Db.Agrees j db { db.insert i t with nextID := k } :=
  ⟨by simp [Db.insert, Function.update_noteq hne], fun _ => .rfl, fun _ _ => rfl⟩

theorem agrees_release : Db.Agrees j db (db.release i) := by
  refine ⟨by simp [Db.release, Function.update_noteq hne], fun x => ?_, fun _ _ => rfl⟩
  simp only [Db.release_locks]
  split <;> simp_all [Ne.symm hne]

theorem agrees_commit (hw : ∀ p ∈ (db.pending i).balances, db.locks p.1 = some i) :
    Db.Agrees j db (db.commit i) := by
  refine ⟨(agrees_release hne).pending, (agrees_release hne).locks, fun x hx => ?_⟩
  refine Ledger.apply_accounts_of_not_mem _ _ fun p hp hpx => hne ?_
  rw [← hpx, hw p hp] at hx
  exact (Option.some.inj hx).symm

end Frame

theorem agrees_create {db : Db} {j : Nat} (acc : Account) (o : Outcome)
    (hex : ∀ x, db.locks x = some j → (db.ledger.accounts x).isSome) :
    Db.Agrees j db (AccountRepository.create db acc o).2 := by
  unfold AccountRepository.create
  split
  · exact .refl db
  · exact .refl db
  all_goals
    rename_i hnone
    refine ⟨rfl, fun _ => .rfl, fun x hx => Function.update_noteq ?_ _ _⟩
    rintro rfl
    simpa [hnone] using hex _ hx

theorem Read.of_ledger {a : TransferArgs} {db db' : Db} {bs bd : ℚ} (h : Read a db bs bd)
    (hL : db'.ledger = db.ledger) : Read a db' bs bd :=
  ⟨hL ▸ h.source, hL ▸ h.dest, h.enough⟩

theorem Read.serialTransfer {a : TransferArgs} {db : Db} {bs bd : ℚ} (h : Read a db bs bd) (id : Int) :
    serialTransfer a id db.ledger = (.ok ⟨id, a.sourceID, a.destID, a.amount⟩,
      db.ledger.apply ⟨a.writes bs bd, [⟨id, a.sourceID, a.destID, a.amount⟩]⟩) := by
  rw [serialTransfer_ok h.source h.dest h.enough]
  rfl

theorem serialTransfer_short {a : TransferArgs} {id : Int} {L : Ledger} {bs bd : ℚ}
    (hs : L.accounts a.sourceID = some bs) (hd : L.accounts a.destID = some bd) (h : bs < a.amount) :
    serialTransfer a id L = (.error errInsufficientBalance, L) := by
  simp [serialTransfer, hs, hd, h]

theorem TransferArgs.source_first_or_second (a : TransferArgs) : a.sourceID = a.firstID ∨ a.sourceID = a.secondID := by
  rcases a.first_second with ⟨h, -⟩ | ⟨-, h⟩ <;> simp [h]

theorem TransferArgs.dest_first_or_second (a : TransferArgs) : a.destID = a.firstID ∨ a.destID = a.secondID := by
  rcases a.first_second with ⟨-, h⟩ | ⟨h, -⟩ <;> simp [h]

@[simp] theorem replay_nil (L : Ledger) : replay L [] = some L := rfl

@[simp] theorem replay_singleton (L : Ledger) (e : Event) : replay L [e] = e.apply L := by
  simp [replay]

theorem replay_append (L : Ledger) (es es' : List Event) :
    replay L (es ++ es') = (replay L es).bind fun L' => replay L' es' := by
  simp [replay, List.foldlM_append]

section Own
variable {a : TransferArgs} {i : Nat} {db db' : Db} {o : Outcome} {st st' : Stage}

theorem lockSecond_read {first : Account} {b : ℚ} (hf : first.accountID = a.firstID)
    (hl : db.ledger.accounts a.firstID = some first.balance) (hb : db.ledger.accounts a.secondID = some b) :
    let g := fun z => (db.ledger.accounts z).getD 0
    a.roles first ⟨a.secondID, b⟩ = (⟨a.sourceID, g a.sourceID⟩, ⟨a.destID, g a.destID⟩) ∧
      ∀ z, z = a.firstID ∨ z = a.secondID → db.ledger.accounts z = some (g z) := by
  intro g
  have hfirst : first = ⟨a.firstID, g a.firstID⟩ := by
    cases first; simp_all [g]
  have hsecond : (⟨a.secondID, b⟩ : Account) = ⟨a.secondID, g a.secondID⟩ := by simp [g, hb]
  refine ⟨by rw [hfirst, hsecond, a.roles_of g], ?_⟩
  rintro z (rfl | rfl) <;> simp [g, hl, hb]

/-- Each statement of an attempt keeps its own `StageInv`. -/
theorem stageStep_stageInv (hI : StageInv a i db st) (h : stageStep a i db o st = some (st', db')) :
    StageInv a i db' st' := by
  cases st with
  | begin => obtain ⟨rfl, ⟨_, _, rfl⟩ | ⟨_, rfl⟩⟩ := stageStep_begin h <;> exact hI
  | lockFirst =>
    obtain ⟨-, ⟨_, rfl, rfl, _⟩ | ⟨b, -, hb, rfl, rfl⟩⟩ := stageStep_lockFirst h
    · exact Db.settled_release
    · rw [Db.view_of_empty _ _ hI.1] at hb
      exact ⟨hI.1, hI.2.lock_new _, rfl, hb⟩
  | lockSecond first =>
    obtain ⟨hp, hH, hf, hl⟩ := hI
    obtain ⟨-, ⟨_, rfl, rfl, _⟩ | ⟨b, -, hb, hlow, rfl, rfl⟩⟩ := stageStep_lockSecond h
    · exact Db.settled_release
    · rw [Db.view_of_empty _ _ hp] at hb
      obtain ⟨hroles, hsome⟩ := lockSecond_read hf hl hb
      rw [hroles] at hlow ⊢
      refine ⟨hp, (hH.lock_new _).congr fun x => ?_, rfl, rfl,
        ⟨hsome _ a.source_first_or_second, hsome _ a.dest_first_or_second, not_lt.mp hlow⟩⟩
      rcases a.first_second with ⟨h1, h2⟩ | ⟨h1, h2⟩ <;> simp [h1, h2, or_comm]
  | updateSource source dest =>
    obtain ⟨hp, hH, hs, hd, hr⟩ := hI
    obtain ⟨-, ⟨_, rfl, rfl⟩ | ⟨-, -, rfl, rfl⟩⟩ := stageStep_updateSource h
    · exact Db.settled_release
    · exact ⟨hH.lock_mem (by simp [hs]), hd, source.balance, hr.of_ledger rfl, by simp [hp, hs, TxWrites.empty]⟩
  | updateDest dest =>
    obtain ⟨hH, hd, bs, hr, hp⟩ := hI
    obtain ⟨-, ⟨_, rfl, rfl⟩ | ⟨-, -, rfl, rfl⟩⟩ := stageStep_updateDest h
    · exact Db.settled_release
    · exact ⟨hH.lock_mem (by simp [hd]), bs, dest.balance, hr.of_ledger rfl, by simp [hp, hd, TransferArgs.writes]⟩
  | insert =>
    obtain ⟨hH, bs, bd, hr, hp⟩ := hI
    obtain ⟨-, -, ⟨_, rfl, rfl, _⟩ | ⟨-, rfl, rfl⟩⟩ := stageStep_insert h
    · exact Db.settled_release
    · exact ⟨hH, rfl, bs, bd, hr.of_ledger rfl, by simp [Db.insert, hp]⟩
  | commit t =>
    rcases stageStep_commit h with ⟨_, rfl, rfl⟩ | ⟨_, _, rfl, rfl⟩ | ⟨_, _, rfl, rfl⟩
    exacts [Db.settled_commit, Db.settled_release, Db.settled_commit]
  | ended _ => cases h

/-- Each statement of an attempt keeps the other sessions. -/
theorem stageStep_agrees {j : Nat} (hne : j ≠ i) (hI : StageInv a i db st)
    (h : stageStep a i db o st = some (st', db')) : Db.Agrees j db db' := by
  cases st with
  | begin => rw [(stageStep_begin h).1]; exact .refl db
  | lockFirst =>
    obtain ⟨hf, ⟨_, _, rfl, _⟩ | ⟨_, _, _, _, rfl⟩⟩ := stageStep_lockFirst h
    exacts [agrees_release hne, agrees_lock hne hf]
  | lockSecond _ =>
    obtain ⟨hf, ⟨_, _, rfl, _⟩ | ⟨_, _, _, _, _, rfl⟩⟩ := stageStep_lockSecond h
    exacts [agrees_release hne, agrees_lock hne hf]
  | updateSource _ _ =>
    obtain ⟨hf, ⟨_, _, rfl⟩ | ⟨_, _, _, rfl⟩⟩ := stageStep_updateSource h
    exacts [agrees_release hne, (agrees_lock hne hf).trans (agrees_write hne _ _)]
  | updateDest _ =>
    obtain ⟨hf, ⟨_, _, rfl⟩ | ⟨_, _, _, rfl⟩⟩ := stageStep_updateDest h
    exacts [agrees_release hne, (agrees_lock hne hf).trans (agrees_write hne _ _)]
  | insert =>
    obtain ⟨-, -, ⟨_, _, rfl, _⟩ | ⟨_, _, rfl⟩⟩ := stageStep_insert h
    exacts [agrees_release hne, agrees_insert hne _ _]
  | commit t =>
    obtain ⟨hH, -, bs, bd, -, hp⟩ := hI
    have hw : ∀ p ∈ (db.pending i).balances, db.locks p.1 = some i := fun p hp' => (hH p.1).mpr (by
      rw [hp] at hp'
      rcases List.mem_pair.mp hp' with rfl | rfl <;> simp [TransferArgs.writes])
    rcases stageStep_commit h with ⟨_, _, rfl⟩ | ⟨_, _, _, rfl⟩ | ⟨_, _, _, rfl⟩
    exacts [agrees_commit hne hw, agrees_release hne, agrees_commit hne hw]
  | ended _ => cases h

/-- Each statement moves the committed tables as its decision says: not at all, or by the serial transfer. -/
theorem stageStep_replay (hI : StageInv a i db st) (h : stageStep a i db o st = some (st', db')) :
    replay db.ledger ((Stage.decision o st st').map (.transfer i a)).toList = some db'.ledger := by
  cases st with
  | begin => obtain ⟨rfl, ⟨_, _, rfl⟩ | ⟨_, rfl⟩⟩ := stageStep_begin h <;> rfl
  | lockFirst =>
    obtain ⟨-, ⟨e, rfl, rfl, hok⟩ | ⟨_, _, _, rfl, rfl⟩⟩ := stageStep_lockFirst h
    · by_cases ho : o = .ok
      · obtain ⟨rfl, hv⟩ := hok ho
        rw [Db.view_of_empty _ _ hI.1] at hv
        simp [Stage.decision, ho, Event.apply, resultID, serialTransfer_missing (.inl hv)]
      · simp [Stage.decision, ho]
    · rfl
  | lockSecond first =>
    obtain ⟨hp, -, hf, hl⟩ := hI
    obtain ⟨-, ⟨e, rfl, rfl, hok⟩ | ⟨_, _, _, _, rfl, rfl⟩⟩ := stageStep_lockSecond h
    · by_cases ho : o = .ok
      · simp only [Stage.decision, ho, if_true, Option.map_some', Option.toList_some, replay_singleton,
          Event.apply, Db.release_ledger]
        rw [Db.view_of_empty _ _ hp] at hok
        rcases hok ho with ⟨rfl, hv⟩ | ⟨b, hb, rfl, hlow⟩
        · simp [resultID, serialTransfer_missing (.inr hv)]
        · obtain ⟨hroles, hsome⟩ := lockSecond_read hf hl hb
          rw [hroles] at hlow
          simp [resultID, serialTransfer_short (hsome _ a.source_first_or_second)
            (hsome _ a.dest_first_or_second) hlow]
      · simp [Stage.decision, ho]
    · rfl
  | updateSource _ _ => obtain ⟨-, ⟨_, rfl, rfl⟩ | ⟨-, -, rfl, rfl⟩⟩ := stageStep_updateSource h <;> rfl
  | updateDest _ => obtain ⟨-, ⟨_, rfl, rfl⟩ | ⟨-, -, rfl, rfl⟩⟩ := stageStep_updateDest h <;> rfl
  | insert => obtain ⟨-, -, ⟨_, rfl, rfl, _⟩ | ⟨-, rfl, rfl⟩⟩ := stageStep_insert h <;> rfl
  | commit t =>
    obtain ⟨-, ht, bs, bd, hr, hp⟩ := hI
    have happ : (Event.transfer i a (.ok t)).apply db.ledger = some (db.commit i).ledger := by
      rw [Event.apply, resultID, hr.serialTransfer, ← ht, Db.commit_ledger, hp]
      simp
    rcases stageStep_commit h with ⟨rfl, rfl, rfl⟩ | ⟨_, rfl, rfl, rfl⟩ | ⟨_, rfl, rfl, rfl⟩
    · simpa [Stage.decision, Outcome.applied] using happ
    · rfl
    · simpa [Stage.decision, Outcome.applied] using happ
  | ended _ => cases h

end Own

theorem AccountRepository.exists_eq_ok_true {db : Db} {id : Int} {o : Outcome} :
    AccountRepository.exists db id o = .ok true ↔ o.failure = none ∧ (db.ledger.accounts id).isSome := by
  unfold AccountRepository.exists
  split <;> simp_all

theorem StageInv.held_exists {a : TransferArgs} {j : Nat} {db : Db} {st : Stage} {x : Int}
    (hI : StageInv a j db st) (hx : db.locks x = some j) : (db.ledger.accounts x).isSome := by
  have hsd : ∀ {bs bd}, Read a db bs bd → db.Holds j [a.sourceID, a.destID] → (db.ledger.accounts x).isSome :=
    fun hr hH => by rcases List.mem_pair.mp ((hH x).mp hx) with rfl | rfl <;> simp [hr.source, hr.dest]
  cases st with
  | begin | lockFirst | ended _ => exact absurd ((hI.2 x).mp hx) (List.not_mem_nil x)
  | lockSecond _ => obtain ⟨-, hH, -, hl⟩ := hI; rw [List.mem_singleton.mp ((hH x).mp hx), hl]; rfl
  | updateSource _ _ => exact hsd hI.2.2.2.2 hI.2.1
  | updateDest _ => obtain ⟨hH, -, _, hr, -⟩ := hI; exact hsd hr hH
  | insert => obtain ⟨hH, _, _, hr, -⟩ := hI; exact hsd hr hH
  | commit _ => obtain ⟨hH, -, _, _, hr, -⟩ := hI; exact hsd hr hH

theorem CallInv.held_exists {j : Nat} {db : Db} {c : Call} {x : Int} (hI : CallInv j db c)
    (hx : db.locks x = some j) : (db.ledger.accounts x).isSome :=
  match c, hI with
  | .transfer _ (.running _ _), hI => hI.1.held_exists hx
  | .transfer _ (.backoff _), hI | .transfer _ (.finished _), hI | .createAccount _ _, hI | .returned _, hI =>
    absurd ((hI.2 x).mp hx) (List.not_mem_nil x)

section Call
variable {cfg : TransferServiceConfig} {i : Nat} {db db' : Db} {o : Outcome} {c c' : Call}

theorem afterStage_callInv {a : TransferArgs} {n : BitVec 64} {st : Stage} (h : StageInv a i db st) :
    CallInv i db (.transfer a (TransferPhase.afterStage cfg n st)) := by
  cases st with
  | ended r =>
    simp only [TransferPhase.afterStage]
    cases cfg.afterAttempt n r with
    | finish => exact h
    | retry => dsimp only; split_ifs <;> [exact h; exact ⟨h, by simp [Stage.index]⟩]
  | _ => exact ⟨h, by simp [Stage.index]⟩

theorem create_db_cases (db : Db) (acc : Account) (o : Outcome) :
    (AccountRepository.create db acc o).2 = db ∨ db.ledger.accounts acc.accountID = none ∧
      (AccountRepository.create db acc o).2 = { db with ledger := { db.ledger with
        accounts := Function.update db.ledger.accounts acc.accountID (some acc.balance) } } := by
  unfold AccountRepository.create
  split <;> simp_all

theorem callStep_callInv (hI : CallInv i db c) (h : callStep cfg i db o c = some (c', db')) :
    CallInv i db' c' := by
  match c, hI with
  | .transfer a (.running n st), hI =>
    obtain ⟨⟨st', db''⟩, hs, he⟩ := Option.map_eq_some'.mp h
    cases he
    exact afterStage_callInv (stageStep_stageInv hI.1 hs)
  | .transfer a (.backoff n), hI =>
    simp only [callStep, Option.some.injEq] at h
    split at h <;> cases h
    exacts [hI, ⟨hI, by decide⟩]
  | .createAccount n .checkExists, hI =>
    simp only [callStep, Option.some.injEq] at h
    split at h <;> cases h <;> exact hI
  | .createAccount n .insert, hI =>
    have hs : CallInv i (AccountRepository.create db n.account o).2 (.createAccount n (.finished (.ok n.account))) := by
      rcases create_db_cases db n.account o with hc | ⟨-, hc⟩ <;> rw [hc] <;> exact hI
    simp only [callStep] at h
    split at h <;> cases h <;> rename_i hc <;> rw [hc] at hs <;> exact hs
  | .transfer _ (.finished _), _ | .createAccount _ (.finished _), _ | .returned _, _ => cases h

theorem callStep_agrees {j : Nat} (hne : j ≠ i) (hI : CallInv i db c)
    (hex : ∀ x, db.locks x = some j → (db.ledger.accounts x).isSome)
    (h : callStep cfg i db o c = some (c', db')) : Db.Agrees j db db' := by
  match c, hI with
  | .transfer a (.running n st), hI =>
    obtain ⟨⟨st', db''⟩, hs, he⟩ := Option.map_eq_some'.mp h
    cases he
    exact stageStep_agrees hne hI.1 hs
  | .transfer a (.backoff n), hI =>
    simp only [callStep, Option.some.injEq] at h
    split at h <;> cases h <;> exact .refl db
  | .createAccount n .checkExists, hI =>
    simp only [callStep, Option.some.injEq] at h
    split at h <;> cases h <;> exact .refl db
  | .createAccount n .insert, hI =>
    have hA := agrees_create n.account o hex
    simp only [callStep] at h
    split at h <;> cases h <;> rename_i hc <;> rw [hc] at hA <;> exact hA
  | .transfer _ (.finished _), _ | .createAccount _ (.finished _), _ | .returned _, _ => cases h

/-- A statement of call `i` moves the committed tables exactly by its event. -/
theorem callStep_replay (hI : CallInv i db c) (h : callStep cfg i db o c = some (c', db')) :
    replay db.ledger (c.event i db o).toList = some db'.ledger := by
  match c, hI with
  | .transfer a (.running n st), hI =>
    obtain ⟨⟨st', db''⟩, hs, he⟩ := Option.map_eq_some'.mp h
    cases he
    simpa [Call.event, hs] using stageStep_replay hI.1 hs
  | .transfer a (.backoff n), hI =>
    simp only [callStep, Option.some.injEq] at h
    split at h <;> cases h <;> rfl
  | .createAccount n .checkExists, hI =>
    simp only [callStep, Option.some.injEq] at h
    have hdb : db' = db := by split at h <;> cases h <;> rfl
    subst hdb
    simp only [Call.event]
    split_ifs with he
    · obtain ⟨-, hz⟩ := AccountRepository.exists_eq_ok_true.mp he
      obtain ⟨b, hb⟩ := Option.isSome_iff_exists.mp hz
      simp [Event.apply, serialCreate, hb]
    · rfl
  | .createAccount n .insert, hI =>
    simp only [callStep] at h
    have hdb : db' = (AccountRepository.create db n.account o).2 := by
      split at h <;> cases h <;> rename_i hc <;> rw [hc]
    subst hdb
    simp only [Call.event]
    unfold AccountRepository.create
    rcases hz : db.ledger.accounts n.account.accountID with _ | b <;>
      cases o <;> simp [Outcome.applied, Event.apply, serialCreate, hz]
  | .transfer _ (.finished _), _ | .createAccount _ (.finished _), _ | .returned _, _ => cases h

end Call

/-- A run's invariant: each call's part of the store, its locks and arguments, its events, and the history's replay. -/
structure Inv (s0 s : Sys) (h : List Event) : Prop where
  calls : ∀ i c, s.calls[i]? = some c → CallInv i s.db c
  owners : ∀ x j, s.db.locks x = some j → j < s.calls.length
  args : s.calls.map Call.args = s0.calls.map Call.args
  events : ∀ e ∈ h, s.calls[e.call]?.bind Call.args = some e.args
  replay : replay s0.db.ledger h = some s.db.ledger

theorem Inv.held_exists {s0 s : Sys} {h : List Event} (hI : Inv s0 s h) {x : Int} {j : Nat}
    (hx : s.db.locks x = some j) : (s.db.ledger.accounts x).isSome := by
  exact (hI.calls j _ (List.getElem?_eq_getElem (hI.owners x j hx))).held_exists hx

theorem Inv.args_at {s0 s : Sys} {h : List Event} (hI : Inv s0 s h) (j : Nat) :
    s.calls[j]?.bind Call.args = s0.calls[j]?.bind Call.args := by
  have := congrArg (·[j]?) hI.args
  simp only [List.getElem?_map] at this
  cases h1 : s.calls[j]? <;> cases h2 : s0.calls[j]? <;> simp_all

theorem Inv.event_request {cfg : TransferServiceConfig} {newFromString : String → Option ℚ} {db0 : Db}
    {reqs : List Request} {s : Sys} {h : List Event} (hI : Inv (Sys.init cfg newFromString db0 reqs) s h)
    {e : Event} (he : e ∈ h) :
    ∃ req, reqs[e.call]? = some req ∧ (Call.start cfg newFromString req).args = some e.args := by
  have h1 := hI.events e he
  rw [hI.args_at] at h1
  simp only [Sys.init, List.getElem?_map] at h1
  cases hreq : reqs[e.call]? with
  | none => simp [hreq] at h1
  | some req => exact ⟨req, rfl, by simpa [hreq] using h1⟩

theorem Call.start_args_inr {cfg : TransferServiceConfig} {newFromString : String → Option ℚ} {r : Request}
    {n : NewAccount} (h : (Call.start cfg newFromString r).args = some (.inr n)) :
    ∃ req, r = .createAccount req ∧ validateCreate newFromString req = .ok n := by
  unfold Call.start at h
  split at h
  · split at h
    · cases h
    · split_ifs at h <;> cases h
  · rename_i req
    split at h
    · cases h
    · rename_i hv
      cases h
      exact ⟨req, rfl, hv⟩

theorem Call.start_callInv {cfg : TransferServiceConfig} {newFromString : String → Option ℚ} {db : Db}
    {i : Nat} (hS : db.Settled i) (r : Request) : CallInv i db (Call.start cfg newFromString r) := by
  unfold Call.start
  split
  · split
    · exact hS
    · split_ifs
      exacts [⟨hS, by decide⟩, hS]
  · split <;> exact hS

theorem inv_init {cfg : TransferServiceConfig} {newFromString : String → Option ℚ} {db0 : Db}
    {reqs : List Request} (hidle : db0.Idle) :
    Inv (Sys.init cfg newFromString db0 reqs) (Sys.init cfg newFromString db0 reqs) [] where
  calls i c hc := by
    simp only [Sys.init, List.getElem?_map, Option.map_eq_some'] at hc
    obtain ⟨r, -, rfl⟩ := hc
    exact Call.start_callInv (hidle.settled_at i) r
  owners x j hx := by simp [Sys.init, hidle.unlocked x] at hx
  args := rfl
  events _ he := by cases he
  replay := rfl

section Step
variable {l : List Call} {i : Nat} {c c' : Call}

theorem getElem?_set_args (hc : l[i]? = some c) (hargs : c'.args = c.args) (j : Nat) :
    (l.set i c')[j]?.bind Call.args = l[j]?.bind Call.args := by
  by_cases hji : i = j
  · subst hji
    rw [List.getElem?_set_self (List.getElem?_eq_some_iff.mp hc).1, hc]
    exact hargs
  · rw [List.getElem?_set_ne hji]

theorem map_args_set (hc : l[i]? = some c) (hargs : c'.args = c.args) :
    (l.set i c').map Call.args = l.map Call.args := by
  refine List.ext_getElem? fun j => ?_
  simp only [List.getElem?_map]
  by_cases hji : i = j
  · subst hji
    rw [List.getElem?_set_self (List.getElem?_eq_some_iff.mp hc).1, hc, Option.map_some', Option.map_some', hargs]
  · rw [List.getElem?_set_ne hji]

/-- One step of any call keeps `Inv`. -/
theorem Inv.step {cfg : TransferServiceConfig} {s0 s s' : Sys} {h : List Event} {o : Outcome}
    (hI : Inv s0 s h) (hs : s.step cfg i o = some s') : Inv s0 s' (h ++ (s.event i o).toList) := by
  obtain ⟨c, c', db', hc, hstep, rfl⟩ := Sys.step_eq_some hs
  have hci := hI.calls i c hc
  have hlt : i < s.calls.length := (List.getElem?_eq_some_iff.mp hc).1
  have hagree : ∀ j, j ≠ i → Db.Agrees j s.db db' := fun j hne =>
    callStep_agrees hne hci (fun x hx => hI.held_exists hx) hstep
  have hargs := callStep_args hstep
  refine ⟨fun j d hj => ?_, fun x j hx => ?_, ?_, fun e he => ?_, ?_⟩
  · by_cases hji : i = j
    · subst hji
      rw [List.getElem?_set_self hlt] at hj
      cases hj
      exact callStep_callInv hci hstep
    · rw [List.getElem?_set_ne hji] at hj
      exact (hagree j (Ne.symm hji)).callInv (hI.calls j d hj)
  · rw [List.length_set]
    by_cases hji : j = i
    · exact hji ▸ hlt
    · exact hI.owners x j (((hagree j hji).locks x).mp hx)
  · rw [map_args_set hc hargs]
    exact hI.args
  · rw [getElem?_set_args hc hargs]
    rcases List.mem_append.mp he with he | he
    · exact hI.events e he
    · rw [Sys.event_of o hc, Option.mem_toList] at he
      rw [Call.event_call he, hc]
      exact Call.event_args he
  · rw [replay_append, hI.replay, Option.some_bind, Sys.event_of o hc]
    exact callStep_replay hci hstep

end Step

/-- Every state reachable from an idle store satisfies `Inv`. -/
theorem reaches_inv {cfg : TransferServiceConfig} {allowed : Outcome → Prop}
    {newFromString : String → Option ℚ} {db0 : Db} {reqs : List Request} {s : Sys} {h : List Event}
    (hidle : db0.Idle) (hr : Reaches cfg allowed (Sys.init cfg newFromString db0 reqs) s h) :
    Inv (Sys.init cfg newFromString db0 reqs) s h := by
  induction hr with
  | init => exact inv_init hidle
  | step _ _ hs ih => exact ih.step hs

end InternalTransfers
