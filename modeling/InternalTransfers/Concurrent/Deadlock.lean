import InternalTransfers.Concurrent.Serializable
import Mathlib.Data.Finset.Max
import Mathlib.Logic.Relation

/-! # No circular wait

A call can wait only at a statement that touches a row another session holds. `UpdateBalance`
and the foreign-key checks of the insert touch only rows the attempt already holds, so an
attempt waits at its first lock, holding nothing, or at its second, holding only the smaller
id: every wait is for a row larger than all the waiter holds. Along a chain of waits the
awaited rows grow, so no chain closes, and a waiting call whose row is the largest awaited one
waits for a call that can move.
-/
namespace InternalTransfers

/-- The rows the next statement of an attempt locks or checks. -/
def Stage.awaits (a : TransferArgs) : Stage → List Int
  | .lockFirst => [a.firstID]
  | .lockSecond _ => [a.secondID]
  | .updateSource source _ => [source.accountID]
  | .updateDest dest => [dest.accountID]
  | .insert => [a.sourceID, a.destID]
  | .begin | .commit _ | .ended _ => []

def Call.awaits : Call → List Int
  | .transfer a (.running _ st) => st.awaits a
  | _ => []

theorem AccountRepository.getByIDForUpdate_eq_none {db : Db} {me : Nat} {id : Int} {o : Outcome} :
    AccountRepository.getByIDForUpdate db me id o = none ↔ db.heldByOther me id = true := by
  unfold AccountRepository.getByIDForUpdate
  split <;> simp_all

theorem AccountRepository.updateBalance_eq_none {db : Db} {me : Nat} {id : Int} {b : ℚ} {o : Outcome} :
    AccountRepository.updateBalance db me id b o = none ↔ db.heldByOther me id = true := by
  unfold AccountRepository.updateBalance
  split <;> simp_all

theorem TransactionRepository.create_eq_none {db : Db} {me : Nat} {t : Transaction} {o : Outcome} :
    TransactionRepository.create db me t o = none ↔
      db.heldByOther me t.sourceAccountID = true ∨ db.heldByOther me t.destinationAccountID = true := by
  unfold TransactionRepository.create
  split <;> simp_all

theorem stageStep_eq_none {a : TransferArgs} {i : Nat} {db : Db} {o : Outcome} {st : Stage} (hst : st.index < 7) :
    stageStep a i db o st = none ↔ ∃ x ∈ st.awaits a, db.heldByOther i x = true := by
  cases st with
  | begin => simp only [stageStep]; split <;> simp [Stage.awaits]
  | lockFirst =>
    have : stageStep a i db o .lockFirst = none ↔ AccountRepository.getByIDForUpdate db i a.firstID o = none := by
      simp only [stageStep]; split <;> simp_all
    simp [this, AccountRepository.getByIDForUpdate_eq_none, Stage.awaits]
  | lockSecond first =>
    have : stageStep a i db o (.lockSecond first) = none ↔
        AccountRepository.getByIDForUpdate db i a.secondID o = none := by
      simp only [stageStep]; split <;> (try split_ifs) <;> simp_all
    simp [this, AccountRepository.getByIDForUpdate_eq_none, Stage.awaits]
  | updateSource source dest =>
    have : stageStep a i db o (.updateSource source dest) = none ↔
        AccountRepository.updateBalance db i source.accountID (source.balance - a.amount) o = none := by
      simp only [stageStep]; split <;> simp_all
    simp [this, AccountRepository.updateBalance_eq_none, Stage.awaits]
  | updateDest dest =>
    have : stageStep a i db o (.updateDest dest) = none ↔
        AccountRepository.updateBalance db i dest.accountID (dest.balance + a.amount) o = none := by
      simp only [stageStep]; split <;> simp_all
    simp [this, AccountRepository.updateBalance_eq_none, Stage.awaits]
  | insert =>
    have : stageStep a i db o .insert = none ↔
        TransactionRepository.create db i ⟨0, a.sourceID, a.destID, a.amount⟩ o = none := by
      simp only [stageStep]; split <;> simp_all
    simp [this, TransactionRepository.create_eq_none, Stage.awaits]
  | commit _ => simp only [stageStep]; split <;> simp [Stage.awaits]
  | ended _ => simp [Stage.index] at hst

/-- A call that has not returned is stuck exactly while another session holds a row its next statement touches. -/
theorem callStep_eq_none {cfg : TransferServiceConfig} {i : Nat} {db : Db} {o : Outcome} {c : Call}
    (hI : CallInv i db c) :
    callStep cfg i db o c = none ↔ c.done = true ∨ ∃ x ∈ c.awaits, db.heldByOther i x = true := by
  match c, hI with
  | .transfer a (.running n st), hI =>
    simp only [callStep, Option.map_eq_none', Call.done, Call.awaits, Bool.false_eq_true, false_or]
    exact stageStep_eq_none hI.2
  | .transfer _ (.backoff _), _ | .createAccount _ .checkExists, _ => simp [callStep, Call.done, Call.awaits]
  | .createAccount _ .insert, _ => simp only [callStep]; split <;> simp [Call.done, Call.awaits]
  | .transfer _ (.finished _), _ | .createAccount _ (.finished _), _ | .returned _, _ =>
    simp [callStep, Call.done]

theorem Db.heldByOther_eq_true {db : Db} {me : Nat} {x : Int} :
    db.heldByOther me x = true ↔ ∃ k, db.locks x = some k ∧ k ≠ me := by
  unfold Db.heldByOther
  split <;> simp_all

theorem CallInv.done_eq_false {i : Nat} {db : Db} {c : Call} {x : Int} (hI : CallInv i db c)
    (hx : db.locks x = some i) : c.done = false :=
  match c, hI with
  | .transfer _ (.running _ _), _ => rfl
  | .transfer _ (.backoff _), _ => rfl
  | .createAccount _ .checkExists, _ | .createAccount _ .insert, _ => rfl
  | .transfer _ (.finished _), hI | .createAccount _ (.finished _), hI | .returned _, hI =>
    absurd ((hI.2 x).mp hx) (List.not_mem_nil x)

section Wait
variable {i : Nat} {db : Db} {c : Call} {x : Int}

theorem waiting_at_lock (hI : CallInv i db c) (hx : x ∈ c.awaits) (hb : db.heldByOther i x = true) :
    c.awaits = [x] ∧ ∀ y, db.locks y = some i → y < x := by
  match c, hI with
  | .transfer a (.running n .lockFirst), hI =>
    refine ⟨by rw [List.mem_singleton.mp (show x ∈ [a.firstID] from hx)]; rfl, fun y hy => ?_⟩
    exact absurd ((hI.1.2 y).mp hy) (List.not_mem_nil y)
  | .transfer a (.running n (.lockSecond _)), hI =>
    refine ⟨by rw [List.mem_singleton.mp (show x ∈ [a.secondID] from hx)]; rfl, fun y hy => ?_⟩
    rw [List.mem_singleton.mp ((hI.1.2.1 y).mp hy), List.mem_singleton.mp hx]
    exact a.firstID_lt_secondID
  | .transfer a (.running n (.updateSource source _)), hI =>
    obtain ⟨-, hH, hs, -⟩ := hI.1
    rw [List.mem_singleton.mp hx, hH.heldByOther (by simp [hs])] at hb
    cases hb
  | .transfer a (.running n (.updateDest dest)), hI =>
    obtain ⟨hH, hd, -⟩ := hI.1
    rw [List.mem_singleton.mp hx, hH.heldByOther (by simp [hd])] at hb
    cases hb
  | .transfer a (.running n .insert), hI =>
    rw [hI.1.1.heldByOther hx] at hb
    cases hb
  | .transfer a (.running n .begin), _ | .transfer a (.running n (.commit _)), _
  | .transfer a (.running n (.ended _)), _ | .transfer _ (.backoff _), _ | .transfer _ (.finished _), _
  | .createAccount _ _, _ | .returned _, _ => simp [Call.awaits, Stage.awaits] at hx

end Wait

/-- Call `i` waits for row `x`, which call `j` holds. -/
def Sys.WaitsOn (s : Sys) (i : Nat) (x : Int) (j : Nat) : Prop :=
  ∃ c, s.calls[i]? = some c ∧ x ∈ c.awaits ∧ s.db.locks x = some j ∧ j ≠ i

def Sys.WaitsFor (s : Sys) (i j : Nat) : Prop := ∃ x, s.WaitsOn i x j

section Chain
variable {s0 s : Sys} {h : List Event} (hI : Inv s0 s h)
include hI

theorem Sys.WaitsOn.waiting {i j : Nat} {x : Int} (hw : s.WaitsOn i x j) :
    ∃ c, s.calls[i]? = some c ∧ c.awaits = [x] ∧ ∀ y, s.db.locks y = some i → y < x := by
  obtain ⟨c, hc, hx, hj, hne⟩ := hw
  have hb : s.db.heldByOther i x = true := by simp [Db.heldByOther, hj, hne]
  exact ⟨c, hc, waiting_at_lock (hI.calls i c hc) hx hb⟩

theorem Sys.WaitsOn.lt {i j k : Nat} {x y : Int} (h1 : s.WaitsOn i x j) (h2 : s.WaitsOn j y k) : x < y :=
  let ⟨_, _, _, hj, _⟩ := h1
  let ⟨_, _, _, hlt⟩ := h2.waiting hI
  hlt x hj

theorem Sys.WaitsOn.row_eq {i j k : Nat} {x y : Int} (h1 : s.WaitsOn i x j) (h2 : s.WaitsOn i y k) : x = y := by
  obtain ⟨c, hc, hx, -⟩ := h1.waiting hI
  obtain ⟨c', hc', hy, -⟩ := h2.waiting hI
  rw [hc] at hc'
  cases hc'
  exact List.singleton_inj.mp (hx.symm.trans hy)

theorem transGen_waitsFor_lt {i j : Nat} (hp : Relation.TransGen s.WaitsFor i j) :
    ∀ {x y : Int} {k l : Nat}, s.WaitsOn i x k → s.WaitsOn j y l → x < y := by
  induction hp with
  | single hw =>
    obtain ⟨z, hz⟩ := hw
    intro x y k l hx hy
    exact (hx.row_eq hI hz) ▸ hz.lt hI hy
  | tail _ hw ih =>
    obtain ⟨z, hz⟩ := hw
    intro x y k l hx hy
    exact (ih hx hz).trans (hz.lt hI hy)

end Chain

/-- While some call has not returned, some call can move: the waiter on the largest awaited row waits on a mover. -/
theorem Inv.exists_step {cfg : TransferServiceConfig} {s0 s : Sys} {h : List Event} (hI : Inv s0 s h)
    {i : Nat} {c : Call} (hc : s.calls[i]? = some c) (hnd : c.done = false) :
    ∃ j, ∀ o, s.step cfg j o ≠ none := by
  by_contra hstuck
  push_neg at hstuck
  have hwait : ∀ j d, s.calls[j]? = some d → d.done = false →
      ∃ x ∈ d.awaits, s.db.heldByOther j x = true := fun j d hd hnd => by
    obtain ⟨o, ho⟩ := hstuck j
    simp only [Sys.step, hd, Option.map_eq_none'] at ho
    exact ((callStep_eq_none (hI.calls j d hd)).mp ho).resolve_left (by simp [hnd])
  let U := (Finset.range s.calls.length).filter fun j => s.calls[j]?.map Call.done = some false
  have hmem : ∀ j d, s.calls[j]? = some d → d.done = false → j ∈ U := fun j d hd hnd => by
    simp [U, hd, hnd, (List.getElem?_eq_some_iff.mp hd).1]
  let rank : Nat → Int := fun j => ((s.calls[j]?.map Call.awaits).getD []).headD 0
  obtain ⟨j, hjU, hmax⟩ := Finset.exists_max_image U rank ⟨i, hmem i c hc hnd⟩
  obtain ⟨d, hd, hdn⟩ := Option.map_eq_some'.mp (Finset.mem_filter.mp hjU).2
  obtain ⟨x, hx, hb⟩ := hwait j d hd hdn
  obtain ⟨hdx, -⟩ := waiting_at_lock (hI.calls j d hd) hx hb
  obtain ⟨k, hk, -⟩ := Db.heldByOther_eq_true.mp hb
  have hkd := List.getElem?_eq_getElem (hI.owners x k hk)
  have hkn := (hI.calls k _ hkd).done_eq_false hk
  obtain ⟨y, hy, hyb⟩ := hwait k _ hkd hkn
  obtain ⟨hky, hlt⟩ := waiting_at_lock (hI.calls k _ hkd) hy hyb
  have := hmax k (hmem k _ hkd hkn)
  simp only [rank, hd, hkd, Option.map_some', Option.getD_some, hdx, hky, List.headD_cons] at this
  exact absurd (hlt x hk) (not_lt.mpr this)

/-- From an idle store, any outcomes: waiters hold only smaller rows, no waits form a cycle, and some call can move. -/
theorem no_circular_wait (cfg : TransferServiceConfig) (newFromString : String → Option ℚ) (db0 : Db)
    (reqs : List Request) (s : Sys) (h : List Event) (hidle : db0.Idle)
    (hr : Reaches cfg (fun _ => True) (Sys.init cfg newFromString db0 reqs) s h) :
    (∀ i c k, s.calls[i]? = some c → k ∈ c.awaits → s.db.heldByOther i k = true →
      ∀ y, s.db.locks y = some i → y < k) ∧
    (∀ i, ¬ Relation.TransGen s.WaitsFor i i) ∧
    ((∃ (i : Nat) (c : Call), s.calls[i]? = some c ∧ c.done = false) → ∃ j, ∀ o, s.step cfg j o ≠ none) := by
  have hI := reaches_inv hidle hr
  refine ⟨fun i c k hc hk hb => (waiting_at_lock (hI.calls i c hc) hk hb).2, fun i hcyc => ?_,
    fun ⟨_, _, hc, hnd⟩ => hI.exists_step hc hnd⟩
  obtain ⟨j, ⟨x, hx⟩, -⟩ := Relation.TransGen.head'_iff.mp hcyc
  exact lt_irrefl x (transGen_waitsFor_lt hI hcyc hx hx)

def twoToOne : TransferArgs := ⟨2, 1, 100, by decide, by norm_num⟩

def opposingTransfers : List Request := [.transfer ⟨1, 2, "100"⟩, .transfer ⟨2, 1, "100"⟩]

theorem no_circular_wait_opposing :
    ∃ s h, Reaches defaultTransferConfig (fun _ => True)
        (Sys.init defaultTransferConfig decimalOfString fourAccounts opposingTransfers) s h ∧ s.WaitsFor 1 0 ∧
      (∀ i c k, s.calls[i]? = some c → k ∈ c.awaits → s.db.heldByOther i k = true →
        ∀ y, s.db.locks y = some i → y < k) ∧
      (∀ i, ¬ Relation.TransGen s.WaitsFor i i) ∧
      ((∃ (i : Nat) (c : Call), s.calls[i]? = some c ∧ c.done = false) →
        ∃ j, ∀ o, s.step defaultTransferConfig j o ≠ none) := by
  have h1 : validate decimalOfString ⟨1, 2, "100"⟩ = .ok oneToTwo := validate_eq_ok (by decide) parseMoney_100 _
  have h2 : validate decimalOfString ⟨2, 1, "100"⟩ = .ok twoToOne := validate_eq_ok (by decide) parseMoney_100 _
  have hinit : Sys.init defaultTransferConfig decimalOfString fourAccounts opposingTransfers =
      ⟨fourAccounts, [.transfer oneToTwo (.running 0 .begin), .transfer twoToOne (.running 0 .begin)]⟩ := by
    simp [Sys.init, opposingTransfers, Call.start, h1, h2]
    decide
  obtain ⟨s, hs, hw⟩ : ∃ s, runSchedule defaultTransferConfig
      ⟨fourAccounts, [.transfer oneToTwo (.running 0 .begin), .transfer twoToOne (.running 0 .begin)]⟩
      [(0, .ok), (0, .ok), (1, .ok)] = some (s, []) ∧ s.WaitsFor 1 0 :=
    ⟨_, rfl, 1, _, rfl, by decide, rfl, by decide⟩
  have hr : Reaches _ (fun _ => True) _ _ _ := runSchedule_reaches _ .init (fun _ _ => trivial) hs
  rw [← hinit] at hr
  exact ⟨s, [], hr, hw, no_circular_wait _ _ _ _ s [] ⟨fun _ => rfl, fun _ => rfl⟩ hr⟩

end InternalTransfers
