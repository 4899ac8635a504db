import InternalTransfers.Concurrent.Deadlock

/-! # Every interleaving ends

A transfer attempt runs at most seven statements, and the loop counter, which starts at 0 and
stays at most `MaxRetries`, grows by one at each retry; a `CreateAccount` call runs at most
two. Each statement that any call runs therefore lowers a budget summed over the calls, so no
interleaving runs forever, whatever each statement meets. The budget needs the counter not to
wrap: with `MaxRetries` the largest `int` a single call already loops forever
(`runLoop_maxInt_never_returns`). With the progress of the deadlock module, a run can always
be continued until every call has returned.
-/
namespace InternalTransfers

def Call.CounterInRange (cfg : TransferServiceConfig) : Call → Prop
  | .transfer _ (.running attempt _) | .transfer _ (.backoff attempt) =>
    0 ≤ attempt.toInt ∧ attempt.toInt ≤ cfg.maxRetries.toInt
  | _ => True

/-- More than call `c` can still run: eight a remaining attempt, the rest of the current one, and the backoff's step. -/
def Call.budget (cfg : TransferServiceConfig) : Call → ℕ
  | .transfer _ (.running attempt st) => 8 * (cfg.maxRetries.toInt - attempt.toInt).toNat + (8 - st.index)
  | .transfer _ (.backoff attempt) => 8 * (cfg.maxRetries.toInt - attempt.toInt).toNat + 9
  | .createAccount _ .checkExists => 2
  | .createAccount _ .insert => 1
  | .transfer _ (.finished _) | .createAccount _ (.finished _) | .returned _ => 0

def Sys.budget (cfg : TransferServiceConfig) (s : Sys) : ℕ := (s.calls.map (Call.budget cfg)).sum

theorem toInt_add_one {x : BitVec 64} (h0 : 0 ≤ x.toInt) (h : x.toInt < 2 ^ 63 - 1) :
    (x + 1).toInt = x.toInt + 1 := by
  obtain ⟨hx, hlt⟩ := toNat_of_toInt_nonneg h0
  have hsucc : (x + 1).toNat = x.toNat + 1 := by
    rw [BitVec.toNat_add, show (1 : BitVec 64).toNat = 1 from rfl]
    omega
  rw [toInt_of_toNat_lt (by omega), hsucc, hx]
  push_cast
  rfl

theorem TransferServiceConfig.afterAttempt_retry {cfg : TransferServiceConfig} {n m : BitVec 64}
    {r : Except GoError Transaction} {e : GoError} (h : cfg.afterAttempt n r = .retry m e) :
    m = n + 1 ∧ (n + 1).toInt ≤ cfg.maxRetries.toInt := by
  unfold TransferServiceConfig.afterAttempt at h
  split at h
  · cases h
  · split_ifs at h with h1 h2
    cases h
    exact ⟨rfl, by simpa [BitVec.sle] using h2⟩

section Step
variable {a : TransferArgs} {me : Nat} {db db' : Db} {o : Outcome} {st st' : Stage}

theorem stageStep_advance (h : stageStep a me db o st = some (st', db')) :
    (∃ r, st' = .ended r) ∨ st'.index = st.index + 1 := by
  by_cases ho : o = .ok
  · subst ho
    rcases stageStep_ok_advance h with ⟨e, rfl⟩ | ⟨t, -, rfl⟩ | hi
    exacts [.inl ⟨_, rfl⟩, .inl ⟨_, rfl⟩, .inr hi]
  · obtain ⟨e, rfl⟩ := stageStep_failure ho h
    exact .inl ⟨_, rfl⟩

theorem stageStep_index_lt (h : stageStep a me db o st = some (st', db')) : st.index < 7 := by
  cases st <;> simp only [Stage.index] <;> first | omega | simp [stageStep] at h

end Step

theorem sum_map_set_lt {α : Type} (f : α → ℕ) {c c' : α} (hlt : f c' < f c) :
    ∀ (l : List α) (i : ℕ), l[i]? = some c → ((l.set i c').map f).sum < (l.map f).sum
  | [], _, h => by cases h
  | x :: l, 0, h => by
    obtain rfl : x = c := by simpa using h
    simpa using hlt
  | x :: l, i + 1, h => by
    simpa using sum_map_set_lt f hlt l i (by simpa using h)

theorem Call.start_budget {cfg : TransferServiceConfig} (newFromString : String → Option ℚ) (r : Request) :
    (Call.start cfg newFromString r).CounterInRange cfg ∧
      (Call.start cfg newFromString r).budget cfg ≤ 8 * cfg.maxRetries.toInt.toNat + 8 := by
  unfold Call.start
  split
  · split
    · exact ⟨trivial, by simp [Call.budget]⟩
    · split_ifs with h0
      · have h0' : 0 ≤ cfg.maxRetries.toInt := by simpa [BitVec.sle] using h0
        exact ⟨⟨le_refl _, h0'⟩, by simp [Call.budget, Stage.index]⟩
      · exact ⟨trivial, by simp [Call.budget]⟩
  · split
    · exact ⟨trivial, by simp [Call.budget]⟩
    · exact ⟨trivial, by simp only [Call.budget]; omega⟩

theorem Sys.init_budget (cfg : TransferServiceConfig) (newFromString : String → Option ℚ) (db : Db) (reqs : List Request) :
    (∀ c ∈ (Sys.init cfg newFromString db reqs).calls, c.CounterInRange cfg) ∧
      (Sys.init cfg newFromString db reqs).budget cfg ≤ reqs.length * (8 * cfg.maxRetries.toInt.toNat + 8) := by
  refine ⟨fun c hc => ?_, ?_⟩
  · obtain ⟨r, -, rfl⟩ := List.mem_map.mp hc
    exact (Call.start_budget newFromString r).1
  · have := List.sum_le_card_nsmul ((reqs.map (Call.start cfg newFromString)).map (Call.budget cfg))
      (8 * cfg.maxRetries.toInt.toNat + 8) fun b hb => by
        obtain ⟨c, hc, rfl⟩ := List.mem_map.mp hb
        obtain ⟨r, -, rfl⟩ := List.mem_map.mp hc
        exact (Call.start_budget newFromString r).2
    simpa [Sys.budget, Sys.init] using this

section Budget
variable {cfg : TransferServiceConfig} (hR : cfg.maxRetries.toInt < 2 ^ 63 - 1)
include hR

/-- A statement of a call keeps its counter in range and lowers its budget. -/
theorem callStep_budget {i : Nat} {db db' : Db} {o : Outcome} {c c' : Call} (hc : c.CounterInRange cfg)
    (h : callStep cfg i db o c = some (c', db')) : c'.CounterInRange cfg ∧ c'.budget cfg < c.budget cfg := by
  match c, hc with
  | .transfer a (.running n st), hc =>
    obtain ⟨h0, hn⟩ : 0 ≤ n.toInt ∧ n.toInt ≤ cfg.maxRetries.toInt := hc
    obtain ⟨⟨st', db''⟩, hs, he⟩ := Option.map_eq_some'.mp h
    cases he
    have hlt := stageStep_index_lt hs
    cases st' with
    | ended r =>
      simp only [TransferPhase.afterStage]
      rcases hA : cfg.afterAttempt n r with r' | ⟨m, e⟩
      · exact ⟨trivial, by simp only [Call.budget]; omega⟩
      · obtain ⟨rfl, hle⟩ := cfg.afterAttempt_retry hA
        have hsucc := toInt_add_one h0 (by omega)
        dsimp only
        split_ifs <;> exact ⟨⟨by omega, hle⟩, by simp only [Call.budget, show Stage.begin.index = 0 from rfl]; omega⟩
    | _ =>
      have hidx := (stageStep_advance hs).resolve_left (by rintro ⟨r, h⟩; cases h)
      exact ⟨⟨h0, hn⟩, by simp only [TransferPhase.afterStage, Call.budget] at hidx ⊢; omega⟩
  | .transfer a (.backoff n), hc =>
    simp only [callStep, Option.some.injEq, Prod.mk.injEq] at h
    obtain ⟨rfl, -⟩ := h
    split
    · exact ⟨trivial, by simp only [Call.budget]; omega⟩
    · exact ⟨hc, by simp only [Call.budget, Stage.index]; omega⟩
  | .createAccount n .checkExists, _ =>
    simp only [callStep, Option.some.injEq, Prod.mk.injEq] at h
    obtain ⟨rfl, -⟩ := h
    split <;> exact ⟨trivial, by simp [Call.budget]⟩
  | .createAccount n .insert, _ =>
    simp only [callStep] at h
    split at h <;> cases h <;> exact ⟨trivial, by simp [Call.budget]⟩
  | .transfer _ (.finished _), _ | .createAccount _ (.finished _), _ | .returned _, _ => cases h

theorem Sys.step_budget {s s' : Sys} {i : Nat} {o : Outcome} (hs : ∀ c ∈ s.calls, c.CounterInRange cfg)
    (h : s.step cfg i o = some s') : (∀ c ∈ s'.calls, c.CounterInRange cfg) ∧ s'.budget cfg < s.budget cfg := by
  obtain ⟨c, c', db', hc, hstep, rfl⟩ := Sys.step_eq_some h
  obtain ⟨hc', hlt⟩ := callStep_budget hR (hs c (List.getElem?_mem hc)) hstep
  refine ⟨fun d hd => ?_, sum_map_set_lt _ hlt _ _ hc⟩
  rcases List.mem_or_eq_of_mem_set hd with hd | rfl
  exacts [hs d hd, hc']

/-- A schedule run from `s` takes at most `s`'s budget of statements. -/
theorem runSchedule_length_le : ∀ (sched : List (Nat × Outcome)) {s s' : Sys} {h : List Event},
    (∀ c ∈ s.calls, c.CounterInRange cfg) → runSchedule cfg s sched = some (s', h) →
    sched.length + s'.budget cfg ≤ s.budget cfg
  | [], _, _, _, _, hrun => by cases hrun; simp
  | (i, o) :: rest, s, s', h, hs, hrun => by
    simp only [runSchedule, Option.bind_eq_some, Option.map_eq_some'] at hrun
    obtain ⟨s1, h1, ⟨s2, h2⟩, h3, he⟩ := hrun
    cases he
    obtain ⟨hs1, hlt⟩ := Sys.step_budget hR hs h1
    have := runSchedule_length_le rest hs1 h3
    simp only [List.length_cons]
    omega

end Budget

/-- A run takes at most `8 * (MaxRetries + 1)` statements a call, and when none can move every call has returned. -/
theorem every_interleaving_completes (cfg : TransferServiceConfig) (newFromString : String → Option ℚ)
    (db0 : Db) (reqs : List Request) (hR : cfg.maxRetries.toInt < 2 ^ 63 - 1) (hidle : db0.Idle)
    (sched : List (Nat × Outcome)) (s : Sys) (h : List Event)
    (hrun : runSchedule cfg (Sys.init cfg newFromString db0 reqs) sched = some (s, h)) :
    sched.length ≤ reqs.length * (8 * cfg.maxRetries.toInt.toNat + 8) ∧
      ((∀ j o, s.step cfg j o = none) → ∀ c ∈ s.calls, c.done = true) := by
  obtain ⟨hin, hb⟩ := Sys.init_budget cfg newFromString db0 reqs
  have hlen := runSchedule_length_le hR sched hin hrun
  refine ⟨by omega, fun hstuck c hc => ?_⟩
  have hr : Reaches cfg (fun _ => True) _ s ([] ++ h) := runSchedule_reaches sched .init (fun _ _ => trivial) hrun
  obtain ⟨i, hi⟩ := List.mem_iff_getElem?.mp hc
  by_contra hnd
  obtain ⟨j, hj⟩ : ∃ j, ∀ o, s.step cfg j o ≠ none := (reaches_inv hidle hr).exists_step hi (by simpa using hnd)
  exact hj .ok (hstuck j .ok)

theorem every_interleaving_completes_disjoint :
    ∃ s h, runSchedule defaultTransferConfig
        (Sys.init defaultTransferConfig decimalOfString fourAccounts disjointTransfers) oneAtATime = some (s, h) ∧
      (∀ c ∈ s.calls, c.done = true) ∧
      oneAtATime.length ≤ disjointTransfers.length * (8 * defaultTransferConfig.maxRetries.toInt.toNat + 8) ∧
      ((∀ j o, s.step defaultTransferConfig j o = none) → ∀ c ∈ s.calls, c.done = true) := by
  obtain ⟨s, h, hs, hdone⟩ : ∃ s h, runSchedule defaultTransferConfig
      ⟨fourAccounts, [.transfer oneToTwo (.running 0 .begin), .transfer threeToFour (.running 0 .begin)]⟩
      oneAtATime = some (s, h) ∧ s.calls.all Call.done = true :=
    ⟨_, _, rfl, rfl⟩
  rw [← init_disjointTransfers] at hs
  exact ⟨s, h, hs, List.all_eq_true.mp hdone,
    every_interleaving_completes _ _ _ _ (by decide) ⟨fun _ => rfl, fun _ => rfl⟩ _ _ _ hs⟩

end InternalTransfers
