/-
The invoice of a spawn is paid at most once for each started spawn, as long as the
balance that `_fund_sporestack_token` is told does not hide a payment.

A payment for spawn `i` is accounted for by three things: the row with the token, the
row with the matching funding intent, and the payment itself. As long as one of them is
missing while the rows are those of `i`, a payment is still owed (`FundingInv.owed`).
A resumed funding therefore pays again only if it is told that the token has no credit
although a payment for it took effect. `balancesSeen` are the runs where that does not
happen.

It does happen: `get_balance` returns `None` on an HTTP error, and the code reads that
as "not paid". `double_payment` is the run: a crash after the broadcast, a wallet
history that misses the transaction, and one failed balance query.
-/
import Superorganism.SpawnOutline

set_option autoImplicit false

open Superorganism.Process Superorganism.Process.Prog Superorganism.Process.Contract

namespace Superorganism.Spawn

variable {cfg : Setup}

/-- The event is an invoice payment of `_fund_sporestack_token` for the spawn `i`. -/
def isPayment (i : String) : Event → Bool
  | .send_effective (.funding j _) => j == i
  | _ => false

/-- How many such payments took effect. -/
def World.payments (w : World) (i : String) : ℕ := w.log.countP (isPayment i)

/-- A payment for this token took effect. -/
def World.Paid (w : World) (t : String) : Prop := ∃ i, Event.send_effective (.funding i t) ∈ w.log

/-- The balance query of a resumed funding does not hide a payment: if one took effect
for the token and an answer comes, it shows a credit. -/
def balancesSeen : Regime where
  answers c w r :=
    match c, r with
    | .get_balance .reconcile t, .ok balance => w.Paid t → 0 < balance.getD 0
    | _, _ => True
  abandons _ _ := True

/-! ## The invariant -/

/-- The funding intent of the spawn `i` and the token `t` in the rows. -/
def intentOf (i t : String) (s : Store) : Option FundingIntent :=
  matching_intent (s .spawn_funding_intent) i t

/-- The rows account for a payment. -/
def Funded (i : String) (w : World) : Prop :=
  ∃ t, tokenOf i w.store = some t ∧ intentOf i t w.store ≠ none ∧ w.Paid t

/-- A payment for `i` is still owed. -/
def Unfunded (i : String) (w : World) : Prop := w.payments i + 1 ≤ w.starts i

structure FundingInv (w : World) : Prop where
  bound : ∀ i, w.payments i ≤ w.starts i
  owed : ∀ i, Live i w → ¬ Funded i w → Unfunded i w

/-! ## What keeps the invariant -/

/-- Operations that have nothing to do with the funding. -/
structure OffFunding (c : Cmd) : Prop where
  in_progress : ¬ c.Writes .spawn_in_progress
  spawn_id : ¬ c.Writes .spawn_id
  token : ¬ c.Writes .spawn_sporestack_token
  intent : ¬ c.Writes .spawn_funding_intent
  starts : ∀ i, ¬ c.Emits (.spawn_started i)
  payments : ∀ i t, ¬ c.Emits (.send_effective (.funding i t))

theorem Touches.offFunding {c : Cmd} {K : List Key} {V : Event → Prop} (h : Touches K V c)
    (hK : Key.spawn_in_progress ∉ K ∧ Key.spawn_id ∉ K ∧ Key.spawn_sporestack_token ∉ K ∧
      Key.spawn_funding_intent ∉ K)
    (hV : ∀ i t, ¬ V (.spawn_started i) ∧ ¬ V (.send_effective (.funding i t))) : OffFunding c where
  in_progress hw := hK.1 (h.1 _ hw)
  spawn_id hw := hK.2.1 (h.1 _ hw)
  token hw := hK.2.2.1 (h.1 _ hw)
  intent hw := hK.2.2.2 (h.1 _ hw)
  starts i he := (hV i "").1 (h.2 _ he)
  payments i t he := (hV i t).2 (h.2 _ he)

theorem OffFunding.payments_eq {c : Cmd} {w w' : World} (hc : OffFunding c) (hf : Frame c w w')
    (i : String) : w'.payments i = w.payments i := by
  refine hf.countP fun e he => ?_
  unfold isPayment
  split
  · exact absurd he (hc.payments _ _)
  · rfl

theorem OffFunding.tokenOf_eq {c : Cmd} {w w' : World} (hc : OffFunding c) (hf : Frame c w w')
    (i : String) : tokenOf i w'.store = tokenOf i w.store := by
  rw [tokenOf, hf.store _ hc.token, tokenOf]

theorem OffFunding.intentOf_eq {c : Cmd} {w w' : World} (hc : OffFunding c) (hf : Frame c w w')
    (i t : String) : intentOf i t w'.store = intentOf i t w.store := by
  rw [intentOf, hf.store _ hc.intent, intentOf]

theorem OffFunding.unfunded_iff {c : Cmd} {w w' : World} (hc : OffFunding c) (hf : Frame c w w')
    (i : String) : Unfunded i w' ↔ Unfunded i w := by
  have hstarts : w'.starts i = w.starts i := hf.count (hc.starts i)
  rw [Unfunded, Unfunded, hc.payments_eq hf, hstarts]

theorem OffFunding.funded_iff {c : Cmd} {w w' : World} (hc : OffFunding c) (hf : Frame c w w')
    (i : String) : Funded i w' ↔ Funded i w := by
  have hpaid (t : String) : w'.Paid t ↔ w.Paid t :=
    exists_congr fun j => hf.mem_log (hc.payments j t)
  refine exists_congr fun t => ?_
  rw [hc.tokenOf_eq hf, hc.intentOf_eq hf, hpaid]

theorem FundingInv.frame {c : Cmd} {w w' : World} (h : FundingInv w) (hc : OffFunding c)
    (hf : Frame c w w') : FundingInv w' := by
  refine ⟨fun i => ?_, fun i hlive hnot => ?_⟩
  · have hstarts : w'.starts i = w.starts i := hf.count (hc.starts i)
    rw [hc.payments_eq hf, hstarts]
    exact h.bound i
  · rw [hc.unfunded_iff hf]
    rw [hc.funded_iff hf] at hnot
    exact h.owed i ((hf.live hc.in_progress hc.spawn_id i).mp hlive) hnot

theorem FundingInv.of_not_live {w : World} (hbound : ∀ i, w.payments i ≤ w.starts i)
    (h : ∀ i, ¬ Live i w) : FundingInv w :=
  ⟨hbound, fun i hlive => absurd hlive (h i)⟩

theorem FundingInv.congr (w w' : World) (hs : w'.store = w.store) (hl : w'.log = w.log)
    (h : FundingInv w) : FundingInv w' := by
  refine ⟨fun i => ?_, fun i hlive hnot => ?_⟩
  · rw [World.payments, World.starts, hl]
    exact h.bound i
  · rw [Unfunded, World.payments, World.starts, hl]
    refine h.owed i ((Live.congr (by rw [hs]) (by rw [hs])).mp hlive) fun hfunded => hnot ?_
    obtain ⟨t, htoken, hintent, j, hj⟩ := hfunded
    exact ⟨t, by rw [hs, htoken], by rwa [hs], j, by rwa [hl]⟩

theorem FundingInv.signalled {ok : World → Prop} (w w' : World) (hs : Signalled ok w w')
    (h : FundingInv w) : FundingInv w' := by
  rcases hs.rows with hrows | ⟨-, hp, -, -⟩
  · exact h.congr w w' hrows hs.log
  · refine .of_not_live (fun i => ?_) fun i hlive => ?_
    · rw [World.payments, World.starts, hs.log]
      exact h.bound i
    · exact absurd (hp.symm.trans hlive.1) Bool.false_ne_true

theorem FundingInv.completed (w : World) (success : Bool) (address : String) (h : FundingInv w) :
    FundingInv (w.completed success address) :=
  .of_not_live h.bound (not_live_completed w success address)

theorem FundingInv.started (w : World) (i : String) (h : FundingInv w) :
    FundingInv (w.started i) := by
  have hpayments (j : String) : (w.started i).payments j = w.payments j := by
    refine (frame_started w i).countP fun e he => ?_
    rcases he with rfl | rfl
    · rfl
    · rfl
  refine ⟨fun j => ?_, fun j hlive _ => ?_⟩
  · rw [hpayments, starts_started]
    exact (h.bound j).trans (Nat.le_add_right _ _)
  · have hij : i = j := (live_started w i).2.symm.trans hlive.2
    rw [Unfunded, hpayments, starts_started, if_pos hij]
    exact Nat.add_le_add_right (h.bound j) 1

/-- Writing a row of the funding, with the payment of the spawn still owed. -/
theorem FundingInv.put {w : World} {i : String} {k : Key} {v : k.Val} (h : FundingInv w)
    (hp : Key.spawn_in_progress ≠ k) (hid : Key.spawn_id ≠ k) (hunder : Underway i w)
    (hunfunded : Live i w → Unfunded i w) : FundingInv (w.put k v) := by
  refine ⟨h.bound, fun j hlive _ => ?_⟩
  have hj : Live j w := (live_put hp hid j).mp hlive
  obtain rfl := hunder.unique hj
  exact hunfunded hj

/-- The broadcast for `i`, with token and intent in the rows. -/
theorem FundingInv.send {w w' : World} {r : Except Exc String} {i t address : String} {amount : ℤ}
    (h : FundingInv w) (hunfunded : Unfunded i w)
    (hrows : WhileLive i (fun s => tokenOf i s = some t ∧ intentOf i t s ≠ none) w)
    (hexec : exec (.wallet_send (.funding i t) address amount) w r w') : FundingInv w' := by
  rcases hexec with rfl | ⟨rfl, -⟩
  · have hpayments (j : String) :
        ((w.emit (.send_invoked (.funding i t))).emit (.send_effective (.funding i t))).payments j
          = w.payments j + if i = j then 1 else 0 := by
      simp [World.payments, World.emit, isPayment, List.countP_cons]
    -- one payment more for `i`, which was owed it; nothing changes for another spawn
    refine ⟨fun j => ?_, fun j hlive hnot => ?_⟩
    · rw [hpayments]
      by_cases hij : i = j
      · rw [if_pos hij, ← hij]
        simpa [World.starts, World.emit, Unfunded] using hunfunded
      · rw [if_neg hij]
        simpa [World.starts, World.emit] using h.bound j
    · have hij : i ≠ j := by
        rintro rfl
        exact hnot ⟨t, (hrows hlive).1, (hrows hlive).2, i, List.mem_cons_self⟩
      have hold : ¬ Funded j w := by
        rintro ⟨t', htoken, hintent, k, hk⟩
        exact hnot ⟨t', htoken, hintent, k, List.mem_cons_of_mem _ (List.mem_cons_of_mem _ hk)⟩
      have howed := h.owed j hlive hold
      rw [Unfunded, hpayments, if_neg hij]
      simpa [World.starts, World.emit, Unfunded] using howed
  · refine ⟨fun j => ?_, fun j hlive hnot => ?_⟩
    · simpa [World.payments, World.starts, World.emit, isPayment] using h.bound j
    · have hold : ¬ Funded j w := by
        rintro ⟨t', htoken, hintent, k, hk⟩
        exact hnot ⟨t', htoken, hintent, k, List.mem_cons_of_mem _ hk⟩
      simpa [Unfunded, World.payments, World.starts, World.emit, isPayment] using h.owed j hlive hold

/-! ## Assertions of the identity stage -/

/-- The pipeline of `i` runs, and its token is `t`. -/
def Tokened (i t : String) (w : World) : Prop :=
  Underway i w ∧ WhileLive i (fun s => tokenOf i s = some t) w

/-- The same, with an intent for that token. -/
def Intended (i t : String) (w : World) : Prop :=
  Underway i w ∧ WhileLive i (fun s => tokenOf i s = some t ∧ intentOf i t s ≠ none) w

/-- The contract, under every signal. -/
def fundingContract (cfg : Setup) : Contract (machine cfg balancesSeen) :=
  signalContract cfg balancesSeen (fun _ => True) FundingInv FundingInv.signalled

theorem stable_unfunded (i : String) : (fundingContract cfg).Stable (Unfunded i) :=
  stable_log fun log => log.countP (isPayment i) + 1 ≤ log.count (.spawn_started i)

theorem stable_unfundedOrCancelled (i : String) :
    (fundingContract cfg).Stable fun w => Unfunded i w ∨ w.cancelled = true := by
  refine stable_of_signalled fun w w' h hw => hw.imp (fun hu => ?_) h.cancelled
  rw [Unfunded, World.payments, World.starts, h.log]
  exact hu

theorem stable_tokened (i t : String) : (fundingContract cfg).Stable (Tokened i t) :=
  (stable_underway i).and (stable_whileLive i _)

theorem stable_intended (i t : String) : (fundingContract cfg).Stable (Intended i t) :=
  (stable_underway i).and (stable_whileLive i _)

theorem OffFunding.tokened {c : Cmd} {w w' : World} {i t : String} (hc : OffFunding c)
    (hf : Frame c w w') (h : Tokened i t w) : Tokened i t w' := by
  refine ⟨hf.underway hc.in_progress hc.spawn_id h.1,
    hf.whileLive hc.in_progress hc.spawn_id (fun ht => ?_) h.2⟩
  rw [hc.tokenOf_eq hf, ht]

/-- What has nothing to do with the funding keeps a stable assertion it does not touch. -/
theorem off_funding_triple {α : Type} {p : Coro α} {P : World → Prop} (hp : p.Within OffFunding)
    (hstable : (fundingContract cfg).Stable P)
    (hP : ∀ c, OffFunding c → ∀ w w', Frame c w w' → P w → P w') :
    (fundingContract cfg).Triple P p (fun _ => P) Any := by
  refine (triple_within hp hstable fun c hc w r w' hi hw hexec => ?_).post fun _ _ _ h => h
  have hf := exec_frame hexec.1
  exact ⟨hi.frame hc hf, fun _ => hP c hc w w' hf hw⟩

theorem offFunding_set {k : Key} {v : k.Val}
    (hk : k ∉ [Key.spawn_in_progress, .spawn_id, .spawn_sporestack_token, .spawn_funding_intent]) :
    OffFunding (.set k v) := by
  simp only [List.mem_cons, List.not_mem_nil, or_false, not_or] at hk
  exact ⟨fun h => hk.1 h.symm, fun h => hk.2.1 h.symm, fun h => hk.2.2.1 h.symm,
    fun h => hk.2.2.2 h.symm, fun _ h => h, fun _ _ h => h⟩

theorem set_funding_txid_triple {P : World → Prop} (txid : String) :
    (fundingContract cfg).Triple P (perform (.set .spawn_funding_txid txid)) Any Any :=
  (off_funding_triple (.call (offFunding_set (by decide))) stable_true
    fun _ _ _ _ _ _ => trivial).pre fun _ _ _ => trivial

/-! ## The functions -/

theorem intent_of_response_returns (i t : String) (response : Option InvoiceResponse) :
    (intent_of_response cfg i t response).Returns
      fun intent => intent.spawn_id = i ∧ intent.sporestack_token = t := by
  unfold intent_of_response
  split
  · exact trivial
  · dsimp only
    split
    · exact trivial
    · exact trivial
    · exact ⟨rfl, rfl⟩

theorem intent_of_response_quiet (i t : String) (response : Option InvoiceResponse) :
    (intent_of_response cfg i t response).Within Quiet := by
  unfold intent_of_response
  split
  · exact trivial
  · dsimp only
    split
    · exact trivial
    · exact trivial
    · exact trivial

/-- `create_invoice` is an await: what gets past it has a payment to make. -/
theorem create_invoice_triple (i t token : String) (dollars : ℤ) :
    (fundingContract cfg).Triple
      (fun w => Tokened i t w ∧ (Unfunded i w ∨ w.cancelled = true))
      (perform (.create_invoice (.funding i t) token dollars))
      (fun _ w => Tokened i t w ∧ Unfunded i w) Any := by
  have hoff : OffFunding (.create_invoice (.funding i t) token dollars) := by
    refine ⟨id, id, id, id, fun j hj => ?_, fun j t' hj => ?_⟩
    · exact absurd hj (by simp [Cmd.Emits])
    · exact absurd hj (by simp [Cmd.Emits])
  refine triple_call ((stable_tokened i t).and (stable_unfundedOrCancelled i))
    fun w r w' hi hw hexec => ?_
  have hf := exec_frame hexec.1
  refine ⟨hi.frame hoff hf, fun hgo => ⟨fun _ _ => ⟨hoff.tokened hf hw.1, ?_⟩, fun _ _ => trivial⟩⟩
  rw [hoff.unfunded_iff hf]
  exact hw.2.resolve_right fun hc => hgo ⟨rfl, hc⟩

theorem set_funding_intent_triple {i t : String} {intent : FundingIntent}
    (hintent : intent.spawn_id = i ∧ intent.sporestack_token = t) :
    (fundingContract cfg).Triple (fun w => Tokened i t w ∧ Unfunded i w)
      (perform (.set .spawn_funding_intent intent))
      (fun _ w => Intended i t w ∧ Unfunded i w) Any := by
  refine triple_commits (fun w => w.put .spawn_funding_intent intent) (fun _ _ _ h => h)
    ((stable_tokened i t).and (stable_unfunded i)) fun w hi hw => ?_
  refine ⟨hi.put (by decide) (by decide) hw.1.1 fun _ => hw.2, ⟨hw.1.1.put (by decide) (by decide),
    fun hlive => ⟨hw.1.2 ((live_put (by decide) (by decide) i).mp hlive), ?_⟩⟩, hw.2⟩
  simp [intentOf, matching_intent, World.put, hintent]

theorem mint_funding_invoice_triple (i t : String) :
    (fundingContract cfg).Triple (fun w => Tokened i t w ∧ (Unfunded i w ∨ w.cancelled = true))
      (_mint_funding_invoice cfg i t) (fun _ w => Intended i t w ∧ Unfunded i w) Any := by
  have hstable : (fundingContract cfg).Stable
      (fun w => Tokened i t w ∧ (Unfunded i w ∨ w.cancelled = true)) :=
    (stable_tokened i t).and (stable_unfundedOrCancelled i)
  refine (triple_quiet_any (.call rfl) hstable).bind fun stored => ?_
  refine (triple_quiet_any (within_require _ _) hstable).bind fun _ => ?_
  refine (off_funding_triple (.call (offFunding_set (by decide))) hstable
    fun c hc w w' hf hw => ?_).bind fun _ => ?_
  · refine ⟨hc.tokened hf hw.1, hw.2.imp (hc.unfunded_iff hf i).mpr fun hcancel => ?_⟩
    rw [hf.cancelled, hcancel]
  refine (triple_quiet_any (.call rfl) hstable).bind fun monthly_cents => ?_
  refine (create_invoice_triple i t t _).bind fun response => ?_
  have hresponse : (fundingContract cfg).Triple (fun w => Tokened i t w ∧ Unfunded i w)
      (intent_of_response cfg i t response) (fun _ w => Tokened i t w ∧ Unfunded i w) Any :=
    triple_quiet_any (intent_of_response_quiet i t response)
      ((stable_tokened i t).and (stable_unfunded i))
  refine (hresponse.returns (intent_of_response_returns i t response)).bind fun intent => ?_
  intro w hi hw
  exact ((set_funding_intent_triple hw.1).bind fun _ => triple_pure fun _ _ h => h) w hi hw.2

theorem pay_invoice_triple (i t expired failed : String) (intent : FundingIntent) :
    (fundingContract cfg).Triple (fun w => Intended i t w ∧ Unfunded i w)
      (pay_invoice cfg i t expired failed intent) Any Any := by
  have hstable : (fundingContract cfg).Stable (fun w => Intended i t w ∧ Unfunded i w) :=
    (stable_intended i t).and (stable_unfunded i)
  have hsend : (fundingContract cfg).Triple (fun w => Intended i t w ∧ Unfunded i w)
      (perform (.wallet_send (.funding i t) intent.pay_address intent.amount_sat)) Any Any := by
    refine triple_call hstable fun w r w' hi hw hexec => ?_
    exact ⟨hi.send hw.2 hw.1.2 hexec.1, fun _ => ⟨fun _ _ => trivial, fun _ _ => trivial⟩⟩
  refine (triple_quiet_any (check_parent_balance_quiet cfg _) hstable).bind fun _ => ?_
  refine (triple_quiet_any (intent_is_live_quiet _) hstable).bind fun live => ?_
  refine (triple_quiet_any (within_require _ _) hstable).bind fun _ => ?_
  refine Triple.bind (hsend.tryCatch fun e => triple_raise fun _ _ _ => trivial) fun txid => ?_
  exact set_funding_txid_triple txid

/-- The query that decides: told that there is no credit, the code may pay. -/
theorem reconcile_balance_triple (i t : String) :
    (fundingContract cfg).Triple (Intended i t) (perform (.get_balance .reconcile t))
      (fun balance w => Intended i t w ∧ (¬ 0 < balance.getD 0 → Unfunded i w)) Any := by
  refine triple_call (stable_intended i t) fun w r w' hi hw hexec => ?_
  obtain ⟨hexec, hseen⟩ := hexec
  rw [exec_quiet rfl hexec]
  refine ⟨hi, fun hgo => ⟨fun balance hbalance => ⟨hw, fun hzero => ?_⟩, fun _ _ => trivial⟩⟩
  have hlive : Live i w := hw.1.live_or_cancelled.resolve_right fun hc => hgo ⟨rfl, hc⟩
  refine hi.owed i hlive fun ⟨t', htoken, _, hpaid⟩ => hzero ?_
  rw [(hw.2 hlive).1] at htoken
  cases htoken
  subst hbalance
  exact hseen hpaid

theorem resume_funding_triple (i t : String) (intent : FundingIntent) :
    (fundingContract cfg).Triple (Intended i t) (resume_funding cfg i t intent) Any Any := by
  refine (triple_quiet_any (.call rfl) (stable_intended i t)).bind fun prior_txid => ?_
  split
  · exact set_funding_txid_triple _
  refine (reconcile_balance_triple i t).bind fun balance => ?_
  split
  · refine ((triple_quiet_any (.call rfl) (stable_intended i t)).bind fun now => ?_).pre
      fun _ _ h => h.1
    exact set_funding_txid_triple _
  rename_i hzero
  have hstable : (fundingContract cfg).Stable (fun w => Intended i t w ∧ Unfunded i w) :=
    (stable_intended i t).and (stable_unfunded i)
  have hintent (live : Bool) : (fundingContract cfg).Triple
      (fun w => Intended i t w ∧ Unfunded i w)
      (if live then pure intent else _mint_funding_invoice cfg i t)
      (fun _ w => Intended i t w ∧ Unfunded i w) Any := by
    cases live with
    | true => exact triple_pure fun _ _ h => h
    | false =>
        refine (mint_funding_invoice_triple i t).pre fun w _ h => ?_
        exact ⟨⟨h.1.1, fun hlive => (h.1.2 hlive).1⟩, .inl h.2⟩
  refine ((triple_quiet_any (intent_is_live_quiet intent) hstable).pre
    fun _ _ h => ⟨h.1, h.2 hzero⟩).bind fun live => ?_
  exact (hintent live).bind fun intent' => pay_invoice_triple i t _ _ intent'

theorem fund_sporestack_token_triple (i t : String) :
    (fundingContract cfg).Triple (Tokened i t) (_fund_sporestack_token cfg i t) Any Any := by
  refine (triple_quiet_any (.call rfl) (stable_tokened i t)).bind fun existing_txid => ?_
  split
  · exact triple_pure fun _ _ _ => trivial
  -- the row is read: with a matching intent the funding is resumed, without one a payment is owed
  have hread : (fundingContract cfg).Triple (Tokened i t) (perform (.get .spawn_funding_intent))
      (fun intent w => (matching_intent intent i t ≠ none → Intended i t w) ∧
        (matching_intent intent i t = none →
          Tokened i t w ∧ (Unfunded i w ∨ w.cancelled = true))) Any := by
    refine triple_get (stable_tokened i t) fun w hi hw => ⟨fun hsome => ?_, fun hnone => ⟨hw, ?_⟩⟩
    · exact ⟨hw.1, fun hlive => ⟨hw.2 hlive, hsome⟩⟩
    · refine hw.1.live_or_cancelled.imp_left fun hlive => hi.owed i hlive ?_
      rintro ⟨t', htoken, hintent, -⟩
      rw [hw.2 hlive] at htoken
      cases htoken
      exact hintent hnone
  refine hread.bind fun intent => ?_
  cases matching_intent intent i t with
  | some intent =>
      exact (resume_funding_triple i t intent).pre fun _ _ hw => hw.1 (by simp)
  | none =>
      refine ((mint_funding_invoice_triple i t).pre fun _ _ hw => hw.2 rfl).bind fun intent => ?_
      exact pay_invoice_triple i t _ _ intent

theorem set_sporestack_token_triple (i t : String) (ht : t ≠ "") :
    (fundingContract cfg).Triple
      (fun w => Underway i w ∧ WhileLive i (fun s => tokenOf i s = none) w)
      (perform (.set .spawn_sporestack_token { spawn_id := i, sporestack_token := t }))
      (fun _ => Tokened i t) Any := by
  refine triple_commits (fun w => w.put .spawn_sporestack_token _) (fun _ _ _ h => h)
    ((stable_underway i).and (stable_whileLive i _)) fun w hi hw => ?_
  refine ⟨hi.put (by decide) (by decide) hw.1 fun hlive => hi.owed i hlive ?_,
    hw.1.put (by decide) (by decide), fun _ => ?_⟩
  · -- no token in the rows, so no payment is accounted for
    rintro ⟨t', htoken, -⟩
    rw [hw.2 hlive] at htoken
    cases htoken
  · simp [tokenOf, World.put, _rehydrate_sporestack_token, ht]

/-- The token of the spawn: the one in the rows, or a new one that is written at once. -/
theorem obtain_sporestack_token_triple (i : String) :
    (fundingContract cfg).Triple (Underway i) (obtain_sporestack_token i) (fun t => Tokened i t)
      Any := by
  have hread : (fundingContract cfg).Triple (Underway i) (perform (.get .spawn_sporestack_token))
      (fun blob w => Underway i w ∧
        WhileLive i (fun s => tokenOf i s = _rehydrate_sporestack_token blob i) w) Any :=
    triple_get (stable_underway i) fun w _ hw => ⟨hw, fun _ => rfl⟩
  refine hread.bind fun blob => ?_
  cases _rehydrate_sporestack_token blob i with
  | some t => exact triple_pure fun _ _ h => h
  | none =>
      have hoff : OffFunding .generate_token := by
        refine ⟨id, id, id, id, fun j hj => ?_, fun j t hj => ?_⟩
        · exact absurd hj (by simp [Cmd.Emits])
        · exact absurd hj (by simp [Cmd.Emits])
      refine (off_funding_triple (.call hoff) ((stable_underway i).and (stable_whileLive i _))
        fun c hc w w' hf hw => ?_).bind fun minted => triple_require.bind fun _ => ?_
      · refine ⟨hf.underway hc.in_progress hc.spawn_id hw.1,
          hf.whileLive hc.in_progress hc.spawn_id (fun h => ?_) hw.2⟩
        rw [hc.tokenOf_eq hf, h]
      · intro w hi hw
        have ht : Option.getD minted "" ≠ "" := by simpa [truthy] using hw.1
        exact ((set_sporestack_token_triple i _ ht).bind fun _ => triple_pure fun _ _ h => h) w hi hw.2

theorem prepare_child_identity_triple (i : String) :
    (fundingContract cfg).Triple (Underway i) (prepare_child_identity cfg i) Any Any := by
  have hquiet {α : Type} {p : Coro α} (hp : p.Within Quiet) :
      (fundingContract cfg).Triple (Underway i) p (fun _ => Underway i) Any :=
    triple_quiet_any hp (stable_underway i)
  have hwallet : (obtain_child_wallet i).Within OffFunding :=
    (obtain_child_wallet_touches i fun _ => False).mono fun c hc =>
      hc.offFunding (by decide) fun _ _ => ⟨id, id⟩
  have hkey (path comment : String) : ((perform (.generate_ssh_keypair path comment)).tryCatch
      fun e => raise (.SpawnError "identity" ("SSH keypair generation failed: " ++ e.str))).Within
        Quiet := .tryCatch (.call rfl) fun _ => trivial
  refine (hquiet (.call rfl)).bind fun ps => (hquiet (within_require _ _)).bind fun _ => ?_
  refine (hquiet (hkey _ _)).bind fun key => ?_
  refine (off_funding_triple hwallet (stable_underway i) fun c hc w w' hf =>
    hf.underway hc.in_progress hc.spawn_id).bind fun wallet => ?_
  refine (obtain_sporestack_token_triple i).bind fun t => ?_
  refine (triple_quiet_any (.call rfl) (stable_tokened i t)).bind fun parent => ?_
  refine (triple_quiet_any (within_require _ _) (stable_tokened i t)).bind fun _ => ?_
  refine (fund_sporestack_token_triple i t).bind fun _ => ?_
  exact (triple_quiet_any (wait_for_credit_quiet cfg t) stable_true).bind fun _ =>
    triple_pure fun _ _ _ => trivial

/-! ## The whole run -/

theorem Aside.offFunding {c : Cmd} (h : Aside c) : OffFunding c :=
  Touches.offFunding h (by decide) fun i t => by simp [topupEvent]

theorem Transfers.funding {i : String} {c : Cmd} {w w' : World} {r : Except Exc c.Ret}
    (hc : Transfers i c) (h : FundingInv w) (hexec : exec c w r w') : FundingInv w' := by
  rcases hc with hc | ⟨success, address, rfl⟩
  · exact h.frame (hc.offFunding (by decide) fun j t => by simp [transferEvent]) (exec_frame hexec)
  · rcases hexec with ⟨-, rfl⟩ | ⟨-, rfl⟩
    · exact h.completed w success address
    · exact h

def fundingOutline (cfg : Setup) : Outline (fundingContract cfg) where
  idle w := w.tasks = true
  recovering := Resuming
  active := Underway
  known _ _ _ := True
  stable_idle := stable_tasks
  stable_recovering := stable_resuming
  stable_active := stable_underway
  stable_known _ _ := stable_true
  stable_tasks := stable_tasks
  inv_congr := FundingInv.congr
  idle_of _ _ ht _ := ht
  recovering_of _ _ ht hp := ⟨ht, .inl hp⟩
  active_of _ _ hw := hw.underway
  aside _ hc _ _ hi hf := ⟨hi.frame hc.offFunding hf, hf.tasks⟩
  completed := FundingInv.completed
  started w i hi ht := ⟨hi.started w i, (frame_started w i).tasks ht, .inl (live_started w i)⟩
  identity i := by
    -- an identity that is stored already was funded before the crash
    refine (triple_quiet_any (.call rfl) (stable_underway i)).bind fun blob => ?_
    split
    · exact triple_pure fun _ _ _ => trivial
    · refine (prepare_child_identity_triple i).bind fun d => ?_
      exact (off_funding_triple (.call (offFunding_set (by decide))) stable_true
        fun _ _ _ _ _ _ => trivial).bind fun _ => triple_pure fun _ _ _ => trivial
  vps i d := by
    have hoff : (obtain_vps cfg i d).Within OffFunding :=
      (obtain_vps_touches cfg i d).mono fun c hc =>
        hc.offFunding (by decide) fun j t => by simp [launchEvent]
    exact off_funding_triple hoff stable_true fun _ _ _ _ _ _ => trivial
  transfer i d ns := by
    refine (triple_within (transfer_inheritance_within cfg d ns) stable_true ?_).anyway
    exact fun c hc w r w' hi _ hexec => ⟨hc.funding hi hexec.1, fun _ => trivial⟩

/-- **At most one invoice payment takes effect for each started spawn** in every run
where no balance query of a resumed funding hides a payment that took effect, whenever
crashes and signals come, whether or not invoices expire, and whatever the wallet's
history shows. -/
theorem funding_paid_once {now : ℚ} {s : World × Proc Cmd Cmd.Ret Exc}
    (hs : (machine cfg balancesSeen).Reachable (World.fresh now) s) (i : String) :
    s.1.payments i ≤ s.1.starts i ∧ (s.1.starts i ≤ 1 → s.1.payments i ≤ 1) := by
  have hinit : FundingInv (World.fresh now) :=
    .of_not_live (fun i => Nat.le_refl 0) fun i hlive => Bool.false_ne_true hlive.1
  have h := (fundingOutline cfg).inv_of_reachable hs hinit fun p w w' h => h
  exact ⟨h.bound i, (h.bound i).trans⟩

theorem balancesSeen_calm (c : Cmd) (w : World) :
    balancesSeen.answers c w (calm (some 3000) c w).1 := by
  cases c with
  | get_balance site t =>
      cases site with
      | reconcile => exact fun _ => by decide
      | poll => exact trivial
  | _ => exact trivial

/-- A crash after the broadcast and before the txid is written, then a recovery that is
told of the credit: the spawn is completed on one payment. -/
theorem funding_paid_once_resumed :
    (calmResume (some 3000) 31 60).1.payments "spawn-01234567" = 1 ∧
      (calmResume (some 3000) 31 60).1.starts "spawn-01234567" ≤ 1 ∧
      (calmResume (some 3000) 31 60).1.payments "spawn-01234567" ≤ 1 := by
  have hreach : (machine calmSetup balancesSeen).Reachable (World.fresh 0)
      ((calmResume (some 3000) 31 60).1, .running (calmResume (some 3000) 31 60).2) :=
    reachable_calmResume balancesSeen_calm
      (reachable_calmSpawn balancesSeen_calm (by decide +kernel) 31) (by decide +kernel) 60
  have hstarts : (calmResume (some 3000) 31 60).1.starts "spawn-01234567" ≤ 1 := by decide +kernel
  exact ⟨by decide +kernel, hstarts, (funding_paid_once hreach "spawn-01234567").2 hstarts⟩

/-- **The same crash, with a wallet history that misses the transaction and a balance query
that fails**: one spawn, two payments that took effect. -/
theorem double_payment :
    ∃ s, (machine calmSetup anyRun).Reachable (World.fresh 0) s ∧
      s.1.starts "spawn-01234567" = 1 ∧ s.1.payments "spawn-01234567" = 2 := by
  refine ⟨((calmResume none 31 30).1, .running (calmResume none 31 30).2), ?_, ?_, ?_⟩
  · exact reachable_calmResume (fun _ _ => trivial)
      (reachable_calmSpawn (fun _ _ => trivial) (by decide +kernel) 31) (by decide +kernel) 30
  · decide +kernel
  · decide +kernel

end Superorganism.Spawn
