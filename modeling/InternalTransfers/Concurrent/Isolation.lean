import InternalTransfers.Concurrent.Accounts
import InternalTransfers.Service.Engine

/-! # Transfers on accounts no other call names

With every statement succeeding, from a store with no transaction open, a transfer whose two
accounts no other request names decides as it would alone on the starting tables, whatever the
interleaving: the serial run of the history reaches its decision through events of the other
calls only, and none of them changes its rows. Only its record's id, taken from the shared
sequence, depends on the others.
-/
namespace InternalTransfers

/-- The account ids a request names. -/
def Request.accountIDs : Request → List Int
  | .transfer req => [req.sourceAccountID, req.destinationAccountID]
  | .createAccount req => [req.accountID]

def argsIDs : TransferArgs ⊕ NewAccount → List Int
  | .inl a => [a.sourceID, a.destID]
  | .inr n => [n.account.accountID]

theorem Call.start_argsIDs {cfg : TransferServiceConfig} {newFromString : String → Option ℚ} {r : Request}
    {g : TransferArgs ⊕ NewAccount} (h : (Call.start cfg newFromString r).args = some g) :
    argsIDs g = r.accountIDs := by
  unfold Call.start at h
  split at h
  · split at h
    · cases h
    · rename_i hv
      split_ifs at h <;> cases h
      obtain ⟨h1, h2⟩ := validate_ids hv
      simp [argsIDs, Request.accountIDs, h1, h2]
  · split at h
    · cases h
    · rename_i hv
      cases h
      simp [argsIDs, Request.accountIDs, validateCreate_accountID hv]

theorem Event.apply_accounts_of_not_mem {e : Event} {L L' : Ledger} (h : e.apply L = some L') {x : Int}
    (hx : x ∉ argsIDs e.args) : L'.accounts x = L.accounts x := by
  cases e with
  | transfer i a r =>
    simp only [Event.apply] at h
    split_ifs at h
    cases h
    have hs : x ≠ a.sourceID := fun h' => hx (by simp [argsIDs, Event.args, h'])
    have hd : x ≠ a.destID := fun h' => hx (by simp [argsIDs, Event.args, h'])
    rcases serialTransfer_cases (a := a) (resultID r) L with ⟨_, _, _, hL⟩ | hok
    · rw [hL]
    · obtain ⟨_, _, _, _, _, _, hL⟩ := serialTransfer_eq_ok hok
      rw [hL]
      exact (Function.update_noteq hd _ _).trans (Function.update_noteq hs _ _)
  | createAccount i n r =>
    rcases Event.apply_createAccount h with ⟨-, -, rfl⟩ | ⟨-, -, rfl⟩
    · rfl
    · exact Function.update_noteq (fun h' => hx (by simp [argsIDs, Event.args, h'])) _ _

theorem replay_accounts_of_not_mem {x : Int} : ∀ {es : List Event} {L L' : Ledger}, replay L es = some L' →
    (∀ e ∈ es, x ∉ argsIDs e.args) → L'.accounts x = L.accounts x
  | [], _, _, h, _ => by cases h; rfl
  | e :: es, _, _, h, hx => by
    rw [replay_cons] at h
    obtain ⟨L1, h1, h2⟩ := Option.bind_eq_some.mp h
    rw [replay_accounts_of_not_mem h2 fun e' he' => hx e' (.tail _ he'),
      Event.apply_accounts_of_not_mem h1 (hx e (List.mem_cons_self _ _))]

theorem serialTransfer_fst_congr {a : TransferArgs} {L L' : Ledger} (id : Int)
    (hs : L'.accounts a.sourceID = L.accounts a.sourceID) (hd : L'.accounts a.destID = L.accounts a.destID) :
    (serialTransfer a id L').1 = (serialTransfer a id L).1 := by
  unfold serialTransfer
  rw [hs, hd]
  split
  · split_ifs <;> rfl
  · rfl

/-- Every statement succeeding, from an idle store: a transfer on accounts no other request names decides as alone. -/
theorem transfer_on_untouched_accounts_decides_alone (cfg : TransferServiceConfig)
    (newFromString : String → Option ℚ) (db0 : Db) (reqs : List Request) (s : Sys) (h : List Event)
    (hidle : db0.Idle) (hr : Reaches cfg (· = .ok) (Sys.init cfg newFromString db0 reqs) s h) (i : Nat)
    (a : TransferArgs) (r : Except GoError Transaction) (hc : s.calls[i]? = some (.transfer a (.finished r)))
    (hsep : ∀ j req, j ≠ i → reqs[j]? = some req → a.sourceID ∉ req.accountIDs ∧ a.destID ∉ req.accountIDs) :
    r = (serialTransfer a (resultID r) db0.ledger).1 := by
  have hI := reaches_inv hidle hr
  have hO : h.filter (·.call = i) = [.transfer i a r] := reaches_ok_outcomes hidle hr i _ hc
  obtain ⟨pre, post, rfl⟩ := List.append_of_mem (List.mem_filter.mp (hO ▸ List.mem_singleton_self _)).1
  -- the events before the call's own decision are of other calls
  have hpre : ∀ e ∈ pre, e.call ≠ i := fun e he hei => by
    have hown : (Event.transfer i a r).call = i := rfl
    have hlen := congrArg List.length hO
    simp only [List.filter_append, List.filter_cons, hown, decide_True, if_true, List.length_append,
      List.length_cons, List.length_nil] at hlen
    have : 0 < (pre.filter (·.call = i)).length :=
      List.length_pos.mpr (List.ne_nil_of_mem (List.mem_filter.mpr ⟨he, by simpa using hei⟩))
    omega
  have huntouched : ∀ e ∈ pre, a.sourceID ∉ argsIDs e.args ∧ a.destID ∉ argsIDs e.args := fun e he => by
    obtain ⟨req, hreq, hargs⟩ := hI.event_request (List.mem_append_left _ he)
    rw [Call.start_argsIDs hargs]
    exact hsep e.call req (hpre e he) hreq
  obtain ⟨L, hL, hrest⟩ := Option.bind_eq_some.mp ((replay_append _ _ _).symm.trans hI.replay)
  rw [replay_cons] at hrest
  obtain ⟨L1, happly, -⟩ := Option.bind_eq_some.mp hrest
  simp only [Event.apply] at happly
  split_ifs at happly with hdecided
  exact hdecided.symm.trans (serialTransfer_fst_congr _ (replay_accounts_of_not_mem hL fun e he => (huntouched e he).1)
    (replay_accounts_of_not_mem hL fun e he => (huntouched e he).2))

theorem transfer_on_untouched_accounts_decides_alone_disjoint :
    ∃ s h, fourAccounts.Idle ∧
      Reaches defaultTransferConfig (· = .ok)
        (Sys.init defaultTransferConfig decimalOfString fourAccounts disjointTransfers) s h ∧
      s.calls[1]? = some (.transfer threeToFour (.finished (.ok ⟨2, 3, 4, 100⟩))) ∧
      (∀ j req, j ≠ 1 → disjointTransfers[j]? = some req →
        threeToFour.sourceID ∉ req.accountIDs ∧ threeToFour.destID ∉ req.accountIDs) ∧
      Except.ok ⟨2, 3, 4, 100⟩ = (serialTransfer threeToFour (resultID (.ok ⟨2, 3, 4, 100⟩)) fourAccounts.ledger).1 := by
  obtain ⟨s, hs, hc⟩ := insertsBeforeCommits_run
  have hr := reaches_of_schedule hs (by decide)
  rw [← init_disjointTransfers] at hr
  have hidle : fourAccounts.Idle := ⟨fun _ => rfl, fun _ => rfl⟩
  have hsep : ∀ j req, j ≠ 1 → disjointTransfers[j]? = some req →
      threeToFour.sourceID ∉ req.accountIDs ∧ threeToFour.destID ∉ req.accountIDs := fun j req hj hreq => by
    rcases j with _ | _ | j <;> simp [disjointTransfers] at hj hreq
    subst hreq
    decide
  exact ⟨s, _, hidle, hr, hc, hsep,
    transfer_on_untouched_accounts_decides_alone _ _ _ _ _ _ hidle hr 1 _ _ hc hsep⟩

end InternalTransfers
