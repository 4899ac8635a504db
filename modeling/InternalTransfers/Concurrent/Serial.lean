import InternalTransfers.Service.Execute
import Mathlib.Algebra.BigOperators.Group.List
import Mathlib.Algebra.BigOperators.Group.Finset
import Mathlib.Tactic.Linarith
import Mathlib.Tactic.Ring

/-! # The calls run one at a time

What the service is for, with no interleaving: `serialTransfer` and `serialCreate` on the
committed tables. An `Event` is one call's operation together with the result the interleaved
run decided for it; `replay` runs events one at a time and fails as soon as a result differs
from the serial one. The ledger invariants hold along every such run from an empty store.
-/
namespace InternalTransfers

instance instDecidableEqExcept {ε α : Type} [DecidableEq ε] [DecidableEq α] : DecidableEq (Except ε α)
  | .error x, .error y => decidable_of_iff (x = y) (by simp)
  | .ok x, .ok y => decidable_of_iff (x = y) (by simp)
  | .error _, .ok _ => isFalse Except.noConfusion
  | .ok _, .error _ => isFalse Except.noConfusion

/-- A `CreateAccount` request that passed the checks of lines 23-32: its balance is not negative. -/
structure NewAccount where
  account : Account
  nonneg : 0 ≤ account.balance

/-- `CreateAccount` alone on the committed tables: the account is stored unless its id is taken. -/
def serialCreate (n : NewAccount) (L : Ledger) : Except GoError Account × Ledger :=
  match L.accounts n.account.accountID with
  | some _ => (.error errAccountAlreadyExists, L)
  | none => (.ok n.account,
      { L with accounts := Function.update L.accounts n.account.accountID (some n.account.balance) })

/-- One call's operation at the point where the interleaved run decided it, with the result it decided. -/
inductive Event
  | transfer (call : Nat) (a : TransferArgs) (r : Except GoError Transaction)
  | createAccount (call : Nat) (n : NewAccount) (r : Except GoError Account)

def Event.call : Event → Nat
  | .transfer i _ _ | .createAccount i _ _ => i

/-- The id a serial transfer gives its record: the one the store's sequence gave it. -/
def resultID : Except GoError Transaction → Int
  | .ok t => t.transactionID
  | .error _ => 0

/-- The event alone on the committed tables, if it decides what the serial call decides. -/
def Event.apply (L : Ledger) : Event → Option Ledger
  | .transfer _ a r =>
    if (serialTransfer a (resultID r) L).1 = r then some (serialTransfer a (resultID r) L).2 else none
  | .createAccount _ n r => if (serialCreate n L).1 = r then some (serialCreate n L).2 else none

def replay (L : Ledger) (es : List Event) : Option Ledger := es.foldlM Event.apply L

def Ledger.empty : Ledger := ⟨fun _ => none, []⟩

theorem replay_append_singleton {L L' : Ledger} {es : List Event} {e : Event} :
    replay L (es ++ [e]) = some L' ↔ ∃ L1, replay L es = some L1 ∧ e.apply L1 = some L' := by
  simp only [replay, List.foldlM_append, List.foldlM_cons, List.foldlM_nil]
  cases es.foldlM Event.apply L <;> simp [Option.bind_eq_bind]

def inflow (L : Ledger) (id : Int) : ℚ :=
  ((L.transactions.filter (·.destinationAccountID = id)).map (·.amount)).sum

def outflow (L : Ledger) (id : Int) : ℚ :=
  ((L.transactions.filter (·.sourceAccountID = id)).map (·.amount)).sum

def Event.opening (id : Int) : Event → Option ℚ
  | .createAccount _ n (.ok _) => if n.account.accountID = id then some n.account.balance else none
  | _ => none

def opened (es : List Event) (id : Int) : Option ℚ := es.findSome? (Event.opening id)

/-- No negative balance, records between stored accounts, each balance its opening plus inflow minus outflow. -/
structure LedgerInv (es : List Event) (L : Ledger) : Prop where
  nonneg : ∀ id b, L.accounts id = some b → 0 ≤ b
  records : ∀ t ∈ L.transactions, 0 < t.amount ∧ t.sourceAccountID ≠ t.destinationAccountID ∧
    (L.accounts t.sourceAccountID).isSome ∧ (L.accounts t.destinationAccountID).isSome
  balance : ∀ id b, L.accounts id = some b → ∃ b0, opened es id = some b0 ∧ b = b0 + inflow L id - outflow L id
  opened_isSome : ∀ id, (opened es id).isSome → (L.accounts id).isSome

theorem ledgerInv_empty : LedgerInv [] Ledger.empty :=
  ⟨fun _ _ h => (by cases h), fun _ h => (by cases h), fun _ _ h => (by cases h), fun _ h => (by cases h)⟩

theorem inflow_append (acc : Int → Option ℚ) (L : Ledger) (t : Transaction) (id : Int) :
    inflow ⟨acc, L.transactions ++ [t]⟩ id = inflow L id + if t.destinationAccountID = id then t.amount else 0 := by
  by_cases h : t.destinationAccountID = id <;> simp [inflow, List.filter_append, h]

theorem outflow_append (acc : Int → Option ℚ) (L : Ledger) (t : Transaction) (id : Int) :
    outflow ⟨acc, L.transactions ++ [t]⟩ id = outflow L id + if t.sourceAccountID = id then t.amount else 0 := by
  by_cases h : t.sourceAccountID = id <;> simp [outflow, List.filter_append, h]

theorem isSome_update_some {f : Int → Option ℚ} {y : Int} (x : Int) (v : ℚ) (h : (f y).isSome) :
    (Function.update f x (some v) y).isSome := by
  rw [Function.update_apply]; split_ifs <;> simp [h]

theorem opened_append_of_none {es : List Event} {e : Event} (he : ∀ id, e.opening id = none) (id : Int) :
    opened (es ++ [e]) id = opened es id := by
  simp [opened, List.findSome?_append, he]

theorem LedgerInv.of_opened {es es' : List Event} {L : Ledger} (hI : LedgerInv es L)
    (hop : ∀ id, opened es' id = opened es id) : LedgerInv es' L :=
  ⟨hI.nonneg, hI.records, fun id b hb => by rw [hop]; exact hI.balance id b hb,
    fun id h => hI.opened_isSome id (by rwa [← hop])⟩

section Serial
variable {a : TransferArgs}

theorem serialTransfer_eq_ok {id : Int} {L : Ledger} {t : Transaction} (h : (serialTransfer a id L).1 = .ok t) :
    ∃ bs bd, L.accounts a.sourceID = some bs ∧ L.accounts a.destID = some bd ∧ a.amount ≤ bs ∧
      t = ⟨id, a.sourceID, a.destID, a.amount⟩ ∧
      (serialTransfer a id L).2 = ⟨Function.update (Function.update L.accounts a.sourceID (some (bs - a.amount)))
        a.destID (some (bd + a.amount)), L.transactions ++ [t]⟩ := by
  rcases hs : L.accounts a.sourceID with _ | bs <;> rcases hd : L.accounts a.destID with _ | bd <;>
    simp only [serialTransfer, hs, hd] at h ⊢
  · cases h
  · cases h
  · cases h
  · split_ifs at h ⊢ with hlow
    cases h
    exact ⟨bs, bd, rfl, rfl, not_lt.mp hlow, rfl, rfl⟩

theorem Event.apply_createAccount {L L' : Ledger} {i : Nat} {n : NewAccount} {r : Except GoError Account}
    (h : (Event.createAccount i n r).apply L = some L') :
    ((L.accounts n.account.accountID).isSome ∧ r = .error errAccountAlreadyExists ∧ L' = L) ∨
      (L.accounts n.account.accountID = none ∧ r = .ok n.account ∧
        L' = { L with accounts := Function.update L.accounts n.account.accountID (some n.account.balance) }) := by
  simp only [Event.apply, serialCreate] at h
  rcases hz : L.accounts n.account.accountID with _ | b <;> simp only [hz] at h <;>
    split_ifs at h with hr <;> cases h
  · exact .inr ⟨rfl, hr.symm, rfl⟩
  · exact .inl ⟨rfl, hr.symm, rfl⟩

theorem update_transfer_apply {acc : Int → Option ℚ} {s d : Int} {bs bd x : ℚ} (hne : s ≠ d)
    (hs : acc s = some bs) (hd : acc d = some bd) (id : Int) :
    Function.update (Function.update acc s (some (bs - x))) d (some (bd + x)) id =
      (acc id).map fun b => b + (if d = id then x else 0) - (if s = id then x else 0) := by
  by_cases hzd : id = d
  · subst hzd; simp [hd, hne]
  · by_cases hzs : id = s
    · subst hzs; simp [hs, hzd, Ne.symm hzd]
    · simp [Function.update_noteq hzd, Function.update_noteq hzs, Ne.symm hzd, Ne.symm hzs]

theorem ledgerInv_transfer {es : List Event} {L L' : Ledger} {i : Nat} {r : Except GoError Transaction}
    (hI : LedgerInv es L) (h : (Event.transfer i a r).apply L = some L') :
    LedgerInv (es ++ [.transfer i a r]) L' := by
  simp only [Event.apply] at h
  split_ifs at h with hr
  cases h
  have hop : ∀ id, opened (es ++ [.transfer i a r]) id = opened es id := opened_append_of_none (fun _ => rfl)
  rcases serialTransfer_cases (a := a) (resultID r) L with ⟨e, he, -, hL⟩ | hok
  · rw [hL]
    exact hI.of_opened hop
  obtain ⟨bs, bd, hs, hd, hle, -, hL⟩ := serialTransfer_eq_ok hok
  rw [hL]
  have hne := a.distinct
  have hnew := update_transfer_apply (x := a.amount) hne hs hd
  refine ⟨fun id b hb => ?_, fun t' ht' => ?_, fun id b hb => ?_,
    fun id h => by simpa [hnew] using hI.opened_isSome id (by rwa [← hop])⟩
  · simp only [hnew, Option.map_eq_some'] at hb
    obtain ⟨b', hb', rfl⟩ := hb
    have := hI.nonneg _ _ hb'
    split_ifs with hzd hzs hzs'
    · exact absurd (hzs.trans hzd.symm) hne
    · linarith [a.positive]
    · subst hzs'; rw [hs] at hb'; cases hb'; linarith
    · linarith
  · rcases List.mem_append.mp ht' with ht' | ht'
    · obtain ⟨h1, h2, h3, h4⟩ := hI.records t' ht'
      exact ⟨h1, h2, by simpa [hnew] using h3, by simpa [hnew] using h4⟩
    · rw [List.mem_singleton.mp ht']
      exact ⟨a.positive, hne, by simp [hne], by simp⟩
  · simp only [hnew, Option.map_eq_some'] at hb
    obtain ⟨b', hb', rfl⟩ := hb
    obtain ⟨b0, ho, hb0⟩ := hI.balance _ _ hb'
    refine ⟨b0, by rw [hop]; exact ho, ?_⟩
    rw [inflow_append, outflow_append, hb0]
    ring

end Serial

theorem flows_of_missing {es : List Event} {L : Ledger} {id : Int} (hI : LedgerInv es L)
    (h : L.accounts id = none) : inflow L id = 0 ∧ outflow L id = 0 := by
  have hno : ∀ t ∈ L.transactions, t.sourceAccountID ≠ id ∧ t.destinationAccountID ≠ id := fun t ht => by
    obtain ⟨-, -, hs, hd⟩ := hI.records t ht
    exact ⟨fun e => by simp [e, h] at hs, fun e => by simp [e, h] at hd⟩
  have hin : L.transactions.filter (·.destinationAccountID = id) = [] :=
    List.filter_eq_nil_iff.mpr fun t ht => by simp [(hno t ht).2]
  have hout : L.transactions.filter (·.sourceAccountID = id) = [] :=
    List.filter_eq_nil_iff.mpr fun t ht => by simp [(hno t ht).1]
  simp only [inflow, outflow, hin, hout, List.map_nil, List.sum_nil, and_self]

theorem ledgerInv_create {es : List Event} {L L' : Ledger} {i : Nat} {n : NewAccount} {r : Except GoError Account}
    (hI : LedgerInv es L) (h : (Event.createAccount i n r).apply L = some L') :
    LedgerInv (es ++ [.createAccount i n r]) L' := by
  rcases Event.apply_createAccount h with ⟨-, rfl, rfl⟩ | ⟨hz, rfl, rfl⟩
  · exact hI.of_opened (opened_append_of_none fun _ => rfl)
  · have hop : ∀ id, opened (es ++ [.createAccount i n (.ok n.account)]) id =
        (opened es id).or (if n.account.accountID = id then some n.account.balance else none) := fun id => by
      by_cases he : n.account.accountID = id <;> simp [opened, List.findSome?_append, Event.opening, he]
    have hnone : opened es n.account.accountID = none := by
      cases ho : opened es n.account.accountID
      · rfl
      · simpa [hz] using hI.opened_isSome n.account.accountID (by simp [ho])
    refine ⟨fun id b hb => ?_, fun t ht => ?_, fun id b hb => ?_, fun id h => ?_⟩
    · by_cases he : id = n.account.accountID
      · subst he; simp at hb; exact hb ▸ n.nonneg
      · simp [he] at hb; exact hI.nonneg id b hb
    · obtain ⟨h1, h2, h3, h4⟩ := hI.records t ht
      exact ⟨h1, h2, isSome_update_some _ _ h3, isSome_update_some _ _ h4⟩
    · rw [hop]
      by_cases he : id = n.account.accountID
      · subst he
        obtain ⟨hin, hout⟩ := flows_of_missing hI hz
        simp only [Function.update_same, Option.some.injEq] at hb
        exact ⟨n.account.balance, by simp [hnone], by simp [inflow, outflow] at hin hout ⊢; rw [hin, hout, hb]; ring⟩
      · simp only [Function.update_noteq he] at hb
        obtain ⟨b0, ho, hb0⟩ := hI.balance id b hb
        exact ⟨b0, by simp [ho], hb0⟩
    · by_cases he : id = n.account.accountID
      · subst he; simp
      · simpa [he] using hI.opened_isSome id (by simpa [hop, Ne.symm he] using h)

theorem ledgerInv_apply {es : List Event} {L L' : Ledger} {e : Event} (hI : LedgerInv es L)
    (h : e.apply L = some L') : LedgerInv (es ++ [e]) L' := by
  cases e with
  | transfer i a r => exact ledgerInv_transfer hI h
  | createAccount i n r => exact ledgerInv_create hI h

/-- The ledger invariants hold after every serial run from the empty store. -/
theorem ledgerInv_replay (es : List Event) : ∀ {L : Ledger}, replay Ledger.empty es = some L → LedgerInv es L := by
  induction es using List.reverseRecOn with
  | nil => intro L h; cases h; exact ledgerInv_empty
  | append_singleton es e ih =>
    intro L h
    obtain ⟨L1, h1, h2⟩ := replay_append_singleton.mp h
    exact ledgerInv_apply (ih h1) h2

theorem sum_flows (f : Transaction → Int) {S : Finset Int} :
    ∀ {T : List Transaction}, (∀ t ∈ T, f t ∈ S) →
      ∑ id ∈ S, ((T.filter (f · = id)).map (·.amount)).sum = (T.map (·.amount)).sum
  | [], _ => by simp
  | t :: T, hS => by
    have hcons : ∀ id, (((t :: T).filter (f · = id)).map (·.amount)).sum =
        (if f t = id then t.amount else 0) + ((T.filter (f · = id)).map (·.amount)).sum := fun id => by
      by_cases h : f t = id <;> simp [List.filter_cons, h]
    rw [Finset.sum_congr rfl fun id _ => hcons id, Finset.sum_add_distrib, Finset.sum_ite_eq,
      if_pos (hS t (List.mem_cons_self _ _)), sum_flows f fun t' ht' => hS t' (List.mem_cons_of_mem _ ht')]
    simp

theorem LedgerInv.getD_balance {es : List Event} {L : Ledger} (hI : LedgerInv es L) (id : Int) :
    (L.accounts id).getD 0 = (opened es id).getD 0 + inflow L id - outflow L id := by
  cases h : L.accounts id with
  | none =>
    obtain ⟨hin, hout⟩ := flows_of_missing hI h
    have ho : opened es id = none := Option.not_isSome_iff_eq_none.mp fun hs => by
      simpa [h] using hI.opened_isSome id hs
    simp [ho, hin, hout]
  | some b =>
    obtain ⟨b0, ho, hb⟩ := hI.balance id b h
    simp [ho, hb]

/-- Over any set of ids holding every stored account, the balances add up to the opening balances. -/
theorem LedgerInv.sum_balances {es : List Event} {L : Ledger} (hI : LedgerInv es L) {S : Finset Int}
    (hS : ∀ id, (L.accounts id).isSome → id ∈ S) :
    ∑ id ∈ S, (L.accounts id).getD 0 = ∑ id ∈ S, (opened es id).getD 0 := by
  have hin : ∑ id ∈ S, inflow L id = (L.transactions.map (·.amount)).sum :=
    sum_flows Transaction.destinationAccountID fun t ht => hS _ (hI.records t ht).2.2.2
  have hout : ∑ id ∈ S, outflow L id = (L.transactions.map (·.amount)).sum :=
    sum_flows Transaction.sourceAccountID fun t ht => hS _ (hI.records t ht).2.2.1
  simp only [hI.getD_balance, Finset.sum_sub_distrib, Finset.sum_add_distrib, hin, hout, add_sub_cancel_right]

end InternalTransfers
