import InternalTransfers.Concurrent.Serializable

/-! # The schema's constraints never fire

`accounts` has `CHECK (balance >= 0)`; `transactions` has `CHECK (amount > 0)`,
`CHECK (source_account_id <> destination_account_id)` and a FOREIGN KEY from each account
column to `accounts`. PostgreSQL checks them at each `UPDATE` and `INSERT`, on the rows the
transaction sees: the committed ones under its own writes. The store model leaves them out.
Every store an interleaving reaches from the empty one satisfies them in the view of every
call's session, so no statement of the service is refused by them, and leaving them out
changes no run.
-/
namespace InternalTransfers

/-- The CHECK and FOREIGN KEY constraints of the schema, on a set of rows. -/
structure Ledger.Constrained (L : Ledger) : Prop where
  nonneg : ∀ id b, L.accounts id = some b → 0 ≤ b
  records : ∀ t ∈ L.transactions, 0 < t.amount ∧ t.sourceAccountID ≠ t.destinationAccountID ∧
    (L.accounts t.sourceAccountID).isSome ∧ (L.accounts t.destinationAccountID).isSome

theorem Ledger.Constrained.of_ledgerInv {es : List Event} {L : Ledger} (hI : LedgerInv es L) : L.Constrained :=
  ⟨hI.nonneg, hI.records⟩

theorem foldl_update_isSome {x : Int} : ∀ (ps : List (Int × ℚ)) (acc : Int → Option ℚ), (acc x).isSome →
    (ps.foldl (fun (acc : Int → Option ℚ) (p : Int × ℚ) => Function.update acc p.1 (some p.2)) acc x).isSome
  | [], _, h => h
  | _ :: ps, _, h => foldl_update_isSome ps _ (isSome_update_some _ _ h)

theorem foldl_update_nonneg : ∀ (ps : List (Int × ℚ)) (acc : Int → Option ℚ), (∀ p ∈ ps, 0 ≤ p.2) →
    (∀ id b, acc id = some b → 0 ≤ b) →
    ∀ id b, ps.foldl (fun (acc : Int → Option ℚ) (p : Int × ℚ) => Function.update acc p.1 (some p.2)) acc id = some b →
      0 ≤ b
  | [], _, _, h => h
  | p :: ps, acc, hp, h => foldl_update_nonneg ps _ (fun q hq => hp q (.tail _ hq)) fun id b hb => by
    dsimp only at hb
    by_cases hid : id = p.1
    · subst hid
      rw [Function.update_same, Option.some_inj] at hb
      exact hb ▸ hp p (List.mem_cons_self _ _)
    · exact h id b (by rwa [Function.update_noteq hid] at hb)

theorem Ledger.Constrained.apply {L : Ledger} (hC : L.Constrained) {w : TxWrites} (hb : ∀ p ∈ w.balances, 0 ≤ p.2)
    (ht : ∀ t ∈ w.inserted, 0 < t.amount ∧ t.sourceAccountID ≠ t.destinationAccountID ∧
      (L.accounts t.sourceAccountID).isSome ∧ (L.accounts t.destinationAccountID).isSome) :
    (L.apply w).Constrained where
  nonneg := foldl_update_nonneg w.balances L.accounts hb hC.nonneg
  records t h := by
    obtain ⟨h1, h2, h3, h4⟩ := (List.mem_append.mp h).elim (hC.records t) (ht t)
    exact ⟨h1, h2, foldl_update_isSome _ _ h3, foldl_update_isSome _ _ h4⟩

theorem Db.view_of_pending_empty {db : Db} {i : Nat} (h : db.pending i = .empty) : db.view i = db.ledger := by
  rw [Db.view, h, Ledger.apply_empty]

theorem StageInv.view_constrained {a : TransferArgs} {i : Nat} {db : Db} {st : Stage}
    (hC : db.ledger.Constrained) (hI : StageInv a i db st) : (db.view i).Constrained := by
  have hwrites : ∀ {bs bd : ℚ}, Read a db bs bd → ∀ p ∈ a.writes bs bd, 0 ≤ p.2 := fun hR p hp => by
    rcases List.mem_pair.mp hp with rfl | rfl
    · exact sub_nonneg.mpr hR.enough
    · exact add_nonneg (hC.nonneg _ _ hR.dest) a.positive.le
  cases st with
  | begin | lockFirst | ended _ | lockSecond _ | updateSource _ _ =>
    rw [Db.view_of_pending_empty hI.1]; exact hC
  | updateDest dest =>
    obtain ⟨-, -, bs, hR, hp⟩ := hI
    rw [Db.view, hp]
    exact hC.apply (by simpa using hR.enough) (by simp)
  | insert =>
    obtain ⟨-, bs, bd, hR, hp⟩ := hI
    rw [Db.view, hp]
    exact hC.apply (hwrites hR) (by simp)
  | commit t =>
    obtain ⟨-, ht, bs, bd, hR, hp⟩ := hI
    rw [Db.view, hp]
    refine hC.apply (hwrites hR) fun t' h' => ?_
    rw [List.mem_singleton.mp h', ht]
    exact ⟨a.positive, a.distinct, by simp [hR.source], by simp [hR.dest]⟩

theorem CallInv.view_constrained {i : Nat} {db : Db} {c : Call} (hC : db.ledger.Constrained)
    (hI : CallInv i db c) : (db.view i).Constrained := by
  unfold CallInv at hI
  split at hI
  · exact hI.1.view_constrained hC
  · rw [Db.view_of_pending_empty hI.1]; exact hC

/-- From the empty store, any outcomes: the committed rows and every session's view satisfy the schema's constraints. -/
theorem statements_satisfy_schema_constraints (cfg : TransferServiceConfig) (newFromString : String → Option ℚ)
    (reqs : List Request) (s : Sys) (h : List Event)
    (hr : Reaches cfg (fun _ => True) (Sys.init cfg newFromString Db.empty reqs) s h) :
    s.db.ledger.Constrained ∧ ∀ i c, s.calls[i]? = some c → (s.db.view i).Constrained := by
  have hI := reaches_inv Db.empty_idle hr
  have hC : s.db.ledger.Constrained := .of_ledgerInv (ledgerInv_replay h hI.replay)
  exact ⟨hC, fun i c hc => (hI.calls i c hc).view_constrained hC⟩

theorem statements_satisfy_schema_constraints_open_and_transfer :
    ∃ s h, Reaches defaultTransferConfig (fun _ => True)
        (Sys.init defaultTransferConfig decimalOfString Db.empty openAndTransfer) s h ∧
      s.db.ledger.Constrained ∧ ∀ i c, s.calls[i]? = some c → (s.db.view i).Constrained := by
  obtain ⟨s, hr⟩ := openAndTransfer_reaches
  exact ⟨s, _, hr, statements_satisfy_schema_constraints _ _ _ _ _ hr⟩

end InternalTransfers
