/-
At most `_MAX_FUNDING_ATTEMPTS` invoices are requested for each started spawn, unless a signal
clears the counter under a coroutine that has yet to read it.

Each start of a spawn allows five invoices. While the rows are those of the spawn, the row
`spawn_funding_attempts` counts what has been used up, in advance of the request: what is left and
what is counted make at least five (`InvoiceInv.live`), whatever signals do. As long as no signal
abandons a spawn, that is enough for the bound (`InvoiceInv.budget`).

A signal that abandons the spawn deletes the counter. The coroutine goes on up to its next await;
if it comes to `_mint_funding_invoice` before, it reads no attempts and requests one more invoice,
in the await that ends it. `PendingInvoice` says that the program can come to that. The bound is
kept if the signal leaves no such program, or the spawn still has an invoice left
(`invoices_bounded`); `sixth_invoice` is a run where it has none.
-/
import Superorganism.SpawnUnwinding

set_option autoImplicit false

open Superorganism.Process Superorganism.Process.Prog Superorganism.Process.Contract

namespace Superorganism.Spawn

variable {cfg : Setup} {reg : Regime}

/-! ## Invoices -/

/-- The event is a request of `_mint_funding_invoice` for the spawn `i`. -/
def isInvoice (i : String) : Event → Bool
  | .invoice_requested (.funding j _) => j == i
  | _ => false

/-- How many invoices were requested for the spawn. -/
def World.invoices (w : World) (i : String) : ℕ := w.log.countP (isInvoice i)

/-- How many invoices the last start of the spawn still allows. -/
def allowance (i : String) : List Event → ℕ
  | [] => 0
  | e :: log =>
    if e = .spawn_started i then _MAX_FUNDING_ATTEMPTS
    else if isInvoice i e then allowance i log - 1
    else allowance i log

def World.allowed (w : World) (i : String) : ℕ := allowance i w.log

/-- The counter as `_mint_funding_invoice` reads it. -/
def World.attempts (w : World) : ℕ := (w.store .spawn_funding_attempts).getD 0

theorem allowance_append {i : String} {es log : List Event}
    (h : ∀ e ∈ es, e ≠ .spawn_started i ∧ isInvoice i e = false) :
    allowance i (es ++ log) = allowance i log := by
  induction es with
  | nil => rfl
  | cons e es ih =>
      obtain ⟨hstart, hinvoice⟩ := h e (List.mem_cons_self ..)
      rw [List.cons_append, allowance, if_neg hstart, hinvoice, if_neg Bool.false_ne_true]
      exact ih fun e he => h e (List.mem_cons_of_mem _ he)

theorem invoices_request (w : World) (i t j : String) :
    (w.emit (.invoice_requested (.funding i t))).invoices j =
      w.invoices j + if i = j then 1 else 0 := by
  simp [World.invoices, World.emit, isInvoice, List.countP_cons]

theorem starts_request (w : World) (i t j : String) :
    (w.emit (.invoice_requested (.funding i t))).starts j = w.starts j := by
  simp [World.starts, World.emit]

theorem allowed_request (w : World) (i t j : String) :
    (w.emit (.invoice_requested (.funding i t))).allowed j =
      if i = j then w.allowed j - 1 else w.allowed j := by
  by_cases hij : i = j
  · simp [World.allowed, World.emit, allowance, isInvoice, hij]
  · simp [World.allowed, World.emit, allowance, isInvoice, hij]

theorem allowed_started (w : World) (i j : String) :
    (w.started i).allowed j = if i = j then _MAX_FUNDING_ATTEMPTS else w.allowed j := by
  by_cases hij : i = j
  · unfold World.started World.allowed
    split
    · simp [World.emit, allowance, hij]
    · simp [World.emit, allowance, hij]
  · unfold World.started World.allowed
    split
    · simp [World.emit, allowance, isInvoice, hij]
    · simp [World.emit, allowance, isInvoice, hij]

/-! ## The invariant

`counted` is a proposition: with it, abandoned spawns are left out and the requests are counted;
without it, every signal is allowed and only the counter is looked at. -/

/-- What was requested and what is still allowed come to five for each start. -/
def Budget (w : World) : Prop :=
  ∀ i, w.invoices i + w.allowed i ≤ _MAX_FUNDING_ATTEMPTS * w.starts i

structure InvoiceInv (counted : Prop) (w : World) : Prop where
  live : ∀ i, Live i w → _MAX_FUNDING_ATTEMPTS ≤ w.allowed i + w.attempts
  budget : counted → Budget w

variable {counted : Prop}

/-- Operations that have nothing to do with the invoices of a spawn. -/
structure OffInvoices (c : Cmd) : Prop where
  in_progress : ¬ c.Writes .spawn_in_progress
  spawn_id : ¬ c.Writes .spawn_id
  attempts : ¬ c.Writes .spawn_funding_attempts
  starts : ∀ i, ¬ c.Emits (.spawn_started i)
  invoices : ∀ i t, ¬ c.Emits (.invoice_requested (.funding i t))

theorem Touches.offInvoices {c : Cmd} {K : List Key} {V : Event → Prop} (h : Touches K V c)
    (hK : Key.spawn_in_progress ∉ K ∧ Key.spawn_id ∉ K ∧ Key.spawn_funding_attempts ∉ K)
    (hV : ∀ i t, ¬ V (.spawn_started i) ∧ ¬ V (.invoice_requested (.funding i t))) :
    OffInvoices c where
  in_progress hw := hK.1 (h.1 _ hw)
  spawn_id hw := hK.2.1 (h.1 _ hw)
  attempts hw := hK.2.2 (h.1 _ hw)
  starts i he := (hV i "").1 (h.2 _ he)
  invoices i t he := (hV i t).2 (h.2 _ he)

/-- An operation that starts no spawn and requests no invoice for one changes no count. -/
theorem Frame.invoice_counts {c : Cmd} {w w' : World} (hf : Frame c w w')
    (hstarts : ∀ i, ¬ c.Emits (.spawn_started i))
    (hinvoices : ∀ i t, ¬ c.Emits (.invoice_requested (.funding i t))) (i : String) :
    w'.invoices i = w.invoices i ∧ w'.allowed i = w.allowed i ∧ w'.starts i = w.starts i := by
  have hnone : ∀ e, c.Emits e → isInvoice i e = false := by
    intro e he
    unfold isInvoice
    split
    · exact absurd he (hinvoices _ _)
    · rfl
  refine ⟨hf.countP hnone, ?_, hf.count (hstarts i)⟩
  obtain ⟨es, hes, hall⟩ := hf.log
  rw [World.allowed, hes]
  refine allowance_append fun e he => ⟨?_, hnone e (hall e he)⟩
  rintro rfl
  exact hstarts i (hall _ he)

theorem Budget.frame {c : Cmd} {w w' : World} (h : Budget w) (hf : Frame c w w')
    (hstarts : ∀ i, ¬ c.Emits (.spawn_started i))
    (hinvoices : ∀ i t, ¬ c.Emits (.invoice_requested (.funding i t))) : Budget w' := by
  intro i
  obtain ⟨hi, ha, hs⟩ := hf.invoice_counts hstarts hinvoices i
  rw [hi, ha, hs]
  exact h i

theorem Budget.congr {w w' : World} (h : Budget w) (hl : w'.log = w.log) : Budget w' := by
  intro i
  rw [World.invoices, World.allowed, World.starts, hl]
  exact h i

/-- A start allows five invoices more. -/
theorem Budget.started {w : World} (h : Budget w) (i : String) : Budget (w.started i) := by
  intro j
  have hinvoices : (w.started i).invoices j = w.invoices j := by
    refine (frame_started w i).countP fun e he => ?_
    rcases he with rfl | rfl
    · rfl
    · rfl
  have hbudget := h j
  rw [hinvoices, allowed_started, starts_started]
  by_cases hij : i = j
  · rw [if_pos hij, if_pos hij, Nat.mul_succ]
    omega
  · rw [if_neg hij, if_neg hij]
    exact hbudget

/-- A request uses up one of them. -/
theorem Budget.request {w : World} (h : Budget w) {i : String} (t : String)
    (hleft : 0 < w.allowed i) : Budget (w.emit (.invoice_requested (.funding i t))) := by
  intro j
  have hbudget := h j
  rw [invoices_request, allowed_request, starts_request]
  by_cases hij : i = j
  · rw [if_pos hij, if_pos hij]
    rw [hij] at hleft
    omega
  · rw [if_neg hij, if_neg hij]
    exact hbudget

theorem OffInvoices.attempts_eq {c : Cmd} {w w' : World} (hc : OffInvoices c) (hf : Frame c w w') :
    w'.attempts = w.attempts := by
  rw [World.attempts, hf.store _ hc.attempts, World.attempts]

theorem InvoiceInv.frame {c : Cmd} {w w' : World} (h : InvoiceInv counted w) (hc : OffInvoices c)
    (hf : Frame c w w') : InvoiceInv counted w' := by
  refine ⟨fun i hlive => ?_, fun hcounted => (h.budget hcounted).frame hf hc.starts hc.invoices⟩
  rw [(hf.invoice_counts hc.starts hc.invoices i).2.1, hc.attempts_eq hf]
  exact h.live i ((hf.live hc.in_progress hc.spawn_id i).mp hlive)

theorem InvoiceInv.congr (w w' : World) (hs : w'.store = w.store) (hl : w'.log = w.log)
    (h : InvoiceInv counted w) : InvoiceInv counted w' := by
  refine ⟨fun i hlive => ?_, fun hcounted => (h.budget hcounted).congr hl⟩
  rw [World.allowed, World.attempts, hl, hs]
  exact h.live i ((Live.congr (by rw [hs]) (by rw [hs])).mp hlive)

theorem InvoiceInv.of_not_live {w w' : World} (h : InvoiceInv counted w) (hl : w'.log = w.log)
    (hlive : ∀ i, ¬ Live i w') : InvoiceInv counted w' :=
  ⟨fun i hi => absurd hi (hlive i), fun hcounted => (h.budget hcounted).congr hl⟩

theorem InvoiceInv.signalled {ok : World → Prop} (w w' : World) (hs : Signalled ok w w')
    (h : InvoiceInv counted w) : InvoiceInv counted w' := by
  rcases hs.rows with hrows | ⟨-, hp, -, -⟩
  · exact h.congr w w' hrows hs.log
  -- the handler has cleared the rows, so nothing is left to be counted
  · exact h.of_not_live hs.log fun i hlive => Bool.false_ne_true (hp.symm.trans hlive.1)

theorem InvoiceInv.completed (w : World) (success : Bool) (address : String)
    (h : InvoiceInv counted w) : InvoiceInv counted (w.completed success address) :=
  h.of_not_live rfl (not_live_completed w success address)

theorem InvoiceInv.started (w : World) (i : String) (h : InvoiceInv counted w) :
    InvoiceInv counted (w.started i) := by
  refine ⟨fun j hlive => ?_, fun hcounted => (h.budget hcounted).started i⟩
  have hij : i = j := (live_started w i).2.symm.trans hlive.2
  rw [allowed_started, if_pos hij]
  exact Nat.le_add_right _ _

/-- The request for `i`, counted in advance. -/
theorem InvoiceInv.request {w : World} {i : String} (t : String) (h : InvoiceInv counted w)
    (hunder : Underway i w) (hcount : Live i w → _MAX_FUNDING_ATTEMPTS < w.allowed i + w.attempts)
    (hleft : counted → 0 < w.allowed i) :
    InvoiceInv counted (w.emit (.invoice_requested (.funding i t))) := by
  refine ⟨fun j hlive => ?_, fun hcounted => (h.budget hcounted).request t (hleft hcounted)⟩
  -- the rows are those of the spawn that requests
  obtain rfl := hunder.unique hlive
  have hlt := hcount hlive
  have hattempts : (w.emit (.invoice_requested (.funding i t))).attempts = w.attempts := rfl
  rw [allowed_request, if_pos rfl, hattempts]
  omega

/-! ## The triples -/

/-- Counted, abandoning signals are left out as soon as the decision loop runs. -/
def invoiceContract (cfg : Setup) (reg : Regime) (counted : Prop) : Contract (machine cfg reg) :=
  signalContract cfg reg (fun w => counted → w.tasks = false) (InvoiceInv counted)
    InvoiceInv.signalled

/-- With `n` attempts the allowance of the spawn in the rows comes to five. -/
def Reads (counted : Prop) (i : String) (n : ℕ) (w : World) : Prop :=
  Serving counted i w ∧ (Live i w → _MAX_FUNDING_ATTEMPTS ≤ w.allowed i + n)

/-- The attempt is counted and the request not yet made. -/
def Charged (counted : Prop) (i : String) (w : World) : Prop :=
  Serving counted i w ∧ (Live i w → _MAX_FUNDING_ATTEMPTS < w.allowed i + w.attempts) ∧
    (counted → 0 < w.allowed i)

theorem signalled_of_env {w w' : World} (h : (invoiceContract cfg reg counted).env w w') :
    Signalled (fun w => counted → w.tasks = false) w w' := Signal.signalled h

theorem stable_reads (i : String) (n : ℕ) :
    (invoiceContract cfg reg counted).Stable (Reads counted i n) := by
  intro w w' hs hi hw
  have hsignalled := signalled_of_env hs
  refine ⟨stable_serving i w w' hs hi hw.1, fun hlive => ?_⟩
  rw [World.allowed, hsignalled.log]
  exact hw.2 ((live_of_signalled hsignalled).1 hlive).1

theorem stable_charged (i : String) :
    (invoiceContract cfg reg counted).Stable (Charged counted i) := by
  intro w w' hs hi hw
  have hsignalled := signalled_of_env hs
  refine ⟨stable_serving i w w' hs hi hw.1, fun hlive => ?_, fun hcounted => ?_⟩
  · obtain ⟨hold, hrows⟩ := (live_of_signalled hsignalled).1 hlive
    rw [World.allowed, World.attempts, hsignalled.log, hrows]
    exact hw.2.1 hold
  · rw [World.allowed, hsignalled.log]
    exact hw.2.2 hcounted

/-- What has nothing to do with the invoices. -/
theorem off_invoices_triple {α : Type} {p : Coro α} (i : String) (hp : p.Within OffInvoices) :
    (invoiceContract cfg reg counted).Triple (Serving counted i) p (fun _ => Serving counted i)
      Any := by
  refine (triple_within hp (stable_serving i) fun c hc w r w' hi hw hexec => ?_).post
    fun _ _ _ h => h
  have hf := exec_frame hexec.1
  exact ⟨hi.frame hc hf, fun _ => hw.frame hf hc.in_progress hc.spawn_id⟩

theorem offInvoices_quiet {c : Cmd} (h : Quiet c) : OffInvoices c :=
  (touches_quiet (K := []) (V := fun _ => False) h).offInvoices (by decide) fun _ _ => ⟨id, id⟩

theorem offInvoices_set {k : Key} {v : k.Val}
    (hk : k ∉ [Key.spawn_in_progress, .spawn_id, .spawn_funding_attempts]) :
    OffInvoices (.set k v) := by
  simp only [List.mem_cons, List.not_mem_nil, or_false, not_or] at hk
  exact ⟨fun h => hk.1 h.symm, fun h => hk.2.1 h.symm, fun h => hk.2.2 h.symm, fun _ h => h,
    fun _ _ h => h⟩

theorem offInvoices_send {purpose : Purpose} {address : String} {amount_sat : ℤ} :
    OffInvoices (.wallet_send purpose address amount_sat) :=
  ⟨id, id, id, fun i he => by simp [Cmd.Emits] at he, fun i t he => by simp [Cmd.Emits] at he⟩

/-- The counter is read: what it does not count is left. -/
theorem read_attempts_triple (i : String) :
    (invoiceContract cfg reg counted).Triple (Serving counted i)
      (perform (.get .spawn_funding_attempts))
      (fun stored => Reads counted i (stored.getD 0)) Any :=
  triple_get (stable_serving i) fun _ hi hw => ⟨hw, fun hlive => hi.live i hlive⟩

/-- One attempt more is written, with room for it. -/
theorem count_attempt_triple (i : String) {n : ℕ} (hn : n < _MAX_FUNDING_ATTEMPTS) :
    (invoiceContract cfg reg counted).Triple (Reads counted i n)
      (perform (.set .spawn_funding_attempts (n + 1 : ℕ))) (fun _ => Charged counted i) Any := by
  refine triple_commits (fun w => w.put .spawn_funding_attempts (n + 1 : ℕ)) (fun _ _ _ h => h)
    (stable_reads i n) fun w hi hw => ?_
  have hattempts : (w.put .spawn_funding_attempts (n + 1 : ℕ)).attempts = n + 1 := by
    simp [World.attempts, World.put]
  have hallowed (j : String) :
      (w.put .spawn_funding_attempts (n + 1 : ℕ)).allowed j = w.allowed j := rfl
  have hlive (j : String) : Live j (w.put .spawn_funding_attempts (n + 1 : ℕ)) ↔ Live j w :=
    live_put (by decide) (by decide) j
  refine ⟨⟨fun j hj => ?_, hi.budget⟩, ⟨hw.1.1.put (by decide) (by decide), fun hcounted =>
    (hlive i).mpr (hw.1.2 hcounted)⟩, fun hj => ?_, fun hcounted => ?_⟩
  · have hj' := (hlive j).mp hj
    obtain rfl := hw.1.1.unique hj'
    have hle := hw.2 hj'
    rw [hattempts, hallowed]
    omega
  · have hle := hw.2 ((hlive i).mp hj)
    rw [hattempts, hallowed]
    omega
  · have hle := hw.2 (hw.1.2 hcounted)
    rw [hallowed]
    omega

theorem request_triple (i t token : String) (dollars : ℤ) :
    (invoiceContract cfg reg counted).Triple (Charged counted i)
      (perform (.create_invoice (.funding i t) token dollars)) (fun _ => Serving counted i) Any := by
  refine triple_call (stable_charged i) fun w r w' hi hw hexec => ?_
  obtain rfl : w' = w.emit (.invoice_requested (.funding i t)) := hexec.1
  exact ⟨hi.request t hw.1.1 hw.2.1 hw.2.2, fun _ => ⟨fun _ _ => hw.1, fun _ _ => trivial⟩⟩

/-- **One invoice**: the attempt is read, counted and then made. -/
theorem mint_invoice_triple (i t : String) :
    (invoiceContract cfg reg counted).Triple (Serving counted i) (_mint_funding_invoice cfg i t)
      (fun _ => Serving counted i) Any := by
  refine (read_attempts_triple i).bind fun stored => triple_require.bind fun _ => ?_
  intro w hi hw
  -- the guard on the attempts
  have hroom : Option.getD stored 0 < _MAX_FUNDING_ATTEMPTS := of_decide_eq_true hw.1
  refine ((count_attempt_triple i hroom).bind fun _ => ?_) w hi hw.2
  refine (triple_quiet_any (.call rfl) (stable_charged i)).bind fun monthly_cents => ?_
  refine (request_triple i t t _).bind fun response => ?_
  have hresponse : (intent_of_response cfg i t response).Within OffInvoices := by
    unfold intent_of_response
    split
    · exact trivial
    · dsimp only
      split
      · exact trivial
      · exact trivial
      · exact trivial
  refine (off_invoices_triple i hresponse).bind fun intent => ?_
  exact (off_invoices_triple i (.call (offInvoices_set (by decide)))).bind fun _ =>
    triple_pure fun _ _ h => h

theorem pay_invoice_off (i t expired failed : String) (intent : FundingIntent) :
    (pay_invoice cfg i t expired failed intent).Within OffInvoices := by
  refine .bind ((check_parent_balance_quiet cfg _).mono fun _ => offInvoices_quiet) fun _ => ?_
  refine .bind ((intent_is_live_quiet _).mono fun _ => offInvoices_quiet) fun live => ?_
  refine .bind (within_require _ _) fun _ => ?_
  refine .bind (.tryCatch (.call offInvoices_send) fun e => trivial) fun txid => ?_
  exact .call (offInvoices_set (by decide))

theorem fund_invoices_triple (i t : String) :
    (invoiceContract cfg reg counted).Triple (Serving counted i) (_fund_sporestack_token cfg i t)
      (fun _ => Serving counted i) Any := by
  have hquiet {α : Type} {p : Coro α} (hp : p.Within Quiet) :
      (invoiceContract cfg reg counted).Triple (Serving counted i) p (fun _ => Serving counted i)
        Any := triple_quiet_any hp (stable_serving i)
  have htxid (txid : String) : (invoiceContract cfg reg counted).Triple (Serving counted i)
      (perform (.set .spawn_funding_txid txid)) (fun _ => Serving counted i) Any :=
    off_invoices_triple i (.call (offInvoices_set (by decide)))
  refine (hquiet (.call rfl)).bind fun existing_txid => ?_
  split
  · exact triple_pure fun _ _ h => h
  refine (hquiet (.call rfl)).bind fun intent => ?_
  cases matching_intent intent i t with
  -- no intent is stored: the first call site
  | none =>
      exact (mint_invoice_triple i t).bind fun intent =>
        off_invoices_triple i (pay_invoice_off i t _ _ intent)
  | some intent =>
      refine (hquiet (.call rfl)).bind fun prior_txid => ?_
      split
      · exact htxid _
      refine (hquiet (.call rfl)).bind fun balance => ?_
      split
      · exact (hquiet (.call rfl)).bind fun now => htxid _
      refine (hquiet (intent_is_live_quiet intent)).bind fun live => ?_
      -- an intent that has expired: the second call site
      have hintent : (invoiceContract cfg reg counted).Triple (Serving counted i)
          (if live then pure intent else _mint_funding_invoice cfg i t)
          (fun _ => Serving counted i) Any := by
        cases live with
        | true => exact triple_pure fun _ _ h => h
        | false => exact mint_invoice_triple i t
      exact hintent.bind fun intent' => off_invoices_triple i (pay_invoice_off i t _ _ intent')

theorem identity_invoices_triple (i : String) :
    (invoiceContract cfg reg counted).Triple (Serving counted i) (obtain_identity cfg i)
      (fun _ => Serving counted i) Any := by
  have hquiet {α : Type} {p : Coro α} (hp : p.Within Quiet) :
      (invoiceContract cfg reg counted).Triple (Serving counted i) p (fun _ => Serving counted i)
        Any := triple_quiet_any hp (stable_serving i)
  have hwallet : (obtain_child_wallet i).Within OffInvoices :=
    (obtain_child_wallet_touches i fun _ => False).mono fun c hc =>
      hc.offInvoices (by decide) fun _ _ => ⟨id, id⟩
  have htoken : (obtain_sporestack_token i).Within OffInvoices :=
    (obtain_sporestack_token_touches i (fun e => ∃ t, e = .token_minted t) fun t => ⟨t, rfl⟩).mono
      fun c hc => hc.offInvoices (by decide) fun j t => by simp
  have hkey (path comment : String) : ((perform (.generate_ssh_keypair path comment)).tryCatch
      fun e => raise (.SpawnError "identity" ("SSH keypair generation failed: " ++ e.str))).Within
        Quiet := .tryCatch (.call rfl) fun _ => trivial
  refine (hquiet (.call rfl)).bind fun blob => ?_
  split
  · exact triple_pure fun _ _ h => h
  refine Triple.bind ?_ fun identity => (off_invoices_triple i (.call (offInvoices_set
    (by decide)))).bind fun _ => triple_pure fun _ _ h => h
  refine (hquiet (.call rfl)).bind fun ps => (hquiet (within_require _ _)).bind fun _ => ?_
  refine (hquiet (hkey _ _)).bind fun key => (off_invoices_triple i hwallet).bind fun wallet => ?_
  refine (off_invoices_triple i htoken).bind fun t => ?_
  refine (hquiet (.call rfl)).bind fun parent => (hquiet (within_require _ _)).bind fun _ => ?_
  refine (fund_invoices_triple i t).bind fun _ => ?_
  exact (hquiet (wait_for_credit_quiet cfg t)).bind fun _ => triple_pure fun _ _ h => h

theorem Aside.offInvoices {c : Cmd} (h : Aside c) : OffInvoices c :=
  Touches.offInvoices h (by decide) fun i t => by simp [topupEvent]

theorem Transfers.invoices {i : String} {c : Cmd} {w w' : World} {r : Except Exc c.Ret}
    (hc : Transfers i c) (h : InvoiceInv counted w) (hexec : exec c w r w') :
    InvoiceInv counted w' := by
  rcases hc with hc | ⟨success, address, rfl⟩
  · exact h.frame (hc.offInvoices (by decide) fun j t => by simp [transferEvent]) (exec_frame hexec)
  · rcases hexec with ⟨-, rfl⟩ | ⟨-, rfl⟩
    · exact h.completed w success address
    · exact h

def invoiceOutline (cfg : Setup) (reg : Regime) (counted : Prop) :
    Outline (invoiceContract cfg reg counted) where
  idle w := w.tasks = true
  recovering := Recovering counted
  active := Serving counted
  known i _ := Serving counted i
  stable_idle := stable_tasks
  stable_recovering := stable_recovering
  stable_active := stable_serving
  stable_known i _ := stable_serving i
  stable_tasks := stable_tasks
  inv_congr := InvoiceInv.congr
  idle_of _ _ ht _ := ht
  recovering_of _ _ ht hp := ⟨⟨ht, .inl hp⟩, fun _ => hp⟩
  active_of _ _ hw := hw.serving
  aside _ hc _ _ hi hf := ⟨hi.frame hc.offInvoices hf, hf.tasks⟩
  completed := InvoiceInv.completed
  started w i hi ht := ⟨hi.started w i, serving_started i ht⟩
  -- the only phase with a request in it
  identity := identity_invoices_triple
  vps i d := off_invoices_triple i ((obtain_vps_touches cfg i d).mono fun c hc =>
    hc.offInvoices (by decide) fun j t => by simp [launchEvent])
  transfer i d ns := by
    refine (triple_within (transfer_inheritance_within cfg d ns) stable_true ?_).anyway.pre
      fun _ _ _ => trivial
    exact fun c hc w r w' hi _ hexec => ⟨hc.invoices hi hexec.1, fun _ => trivial⟩

/-! ## Signals that find an invoice pending -/

/-- The program can come to a request for the spawn before its next await, while time passes and
signals arrive. -/
inductive PendingInvoice (cfg : Config) (i : String) : Coro Unit → World → Prop where
  | here {t token : String} {dollars : ℤ} {k : Except Exc (Option InvoiceResponse) → Coro Unit}
      {w : World} : PendingInvoice cfg i (.op (.create_invoice (.funding i t) token dollars) k) w
  | later {c : Cmd} {k : Except Exc c.Ret → Coro Unit} {w w' : World} {r : Except Exc c.Ret} :
      c.isAwait = false → exec c w r w' → PendingInvoice cfg i (k r) w' →
      PendingInvoice cfg i (.op c k) w
  | wait {p : Coro Unit} {w w' : World} :
      Signal cfg (fun _ => True) w w' → PendingInvoice cfg i p w' → PendingInvoice cfg i p w

/-- The runs in which no signal abandons a spawn that has a request pending and no invoice left. -/
def withinAllowance (cfg : Config) : Regime where
  answers _ _ _ := True
  abandons p w := ∀ q, p = .running q → ∀ i, PendingInvoice cfg i q (_handle_shutdown cfg w) →
    0 < w.allowed i

/-- Only two operations have to do with the counts. -/
theorem starts_or_requests (c : Cmd) :
    (∃ i, c = .mark_spawn_started i) ∨
      (∃ i t token dollars, c = .create_invoice (.funding i t) token dollars) ∨
      ((∀ i, ¬ c.Emits (.spawn_started i)) ∧
        ∀ i t, ¬ c.Emits (.invoice_requested (.funding i t))) := by
  cases c with
  | mark_spawn_started i => exact .inl ⟨i, rfl⟩
  | create_invoice purpose token dollars =>
      cases purpose with
      | funding i t => exact .inr (.inl ⟨i, t, token, dollars, rfl⟩)
      | inheritance i => exact .inr (.inr (by simp [Cmd.Emits]))
      | topup => exact .inr (.inr (by simp [Cmd.Emits]))
  | _ => exact .inr (.inr (by simp [Cmd.Emits]))

theorem Budget.exec {c : Cmd} {w w' : World} {r : Except Exc c.Ret} (h : Budget w)
    (hexec : Spawn.exec c w r w')
    (hleft : ∀ i t token dollars, c = .create_invoice (.funding i t) token dollars →
      0 < w.allowed i) : Budget w' := by
  rcases starts_or_requests c with ⟨i, rfl⟩ | ⟨i, t, token, dollars, rfl⟩ | ⟨hstarts, hinvoices⟩
  · rcases hexec with ⟨-, rfl⟩ | ⟨-, rfl⟩
    · exact h.started i
    · exact h
  -- a request, with an invoice left for it
  · obtain rfl : w' = w.emit (.invoice_requested (.funding i t)) := hexec
    exact h.request t (hleft i t token dollars rfl)
  · exact h.frame (exec_frame hexec) hstarts hinvoices

/-- What is not awaited takes no invoice away. -/
theorem allowed_pos_exec {c : Cmd} {w w' : World} {r : Except Exc c.Ret} {i : String}
    (hc : c.isAwait = false) (hexec : exec c w r w') (h : 0 < w.allowed i) : 0 < w'.allowed i := by
  rcases starts_or_requests c with ⟨j, rfl⟩ | ⟨j, t, token, dollars, rfl⟩ | ⟨hstarts, hinvoices⟩
  · rcases hexec with ⟨-, rfl⟩ | ⟨-, rfl⟩
    · rw [allowed_started]
      split
      · exact Nat.succ_pos 4
      · exact h
    · exact h
  · exact absurd hc (by simp [Cmd.isAwait])
  · rw [((exec_frame hexec).invoice_counts hstarts hinvoices i).2.1]
    exact h

/-- The invoices as a ration: each start of a spawn allows five. -/
def invoiceRation : Ration String where
  uses i c := ∃ t token dollars, c = .create_invoice (.funding i t) token dollars
  left i w := 0 < w.allowed i
  Budget := Budget
  budget_congr hl h := h.congr hl
  left_congr {w w' i} hl h := by
    rw [World.allowed, hl]
    exact h
  budget_exec hexec h hleft := h.exec hexec fun i t token dollars hc => hleft i ⟨t, token, dollars, hc⟩
  left_exec hc hexec h := allowed_pos_exec hc hexec h

theorem pendingInvoice_of_comesTo {cfg : Config} {i : String} {p : Coro Unit} {w : World}
    (h : ComesTo cfg (invoiceRation.uses i) p w) : PendingInvoice cfg i p w := by
  induction h with
  | here hc =>
      obtain ⟨t, token, dollars, rfl⟩ := hc
      exact .here
  | later hc hexec _ ih => exact .later hc hexec ih
  | wait hs _ ih => exact .wait hs ih

/-! ## The whole run -/

/-- **At most five invoices are requested for each started spawn**, in every state of every run in
which no signal abandons a spawn that has a request pending and no invoice left, whatever the
services answer and whenever crashes come. -/
theorem invoices_bounded {now : ℚ} {s : World × Proc Cmd Cmd.Ret Exc}
    (hs : (machine cfg (withinAllowance cfg.toConfig)).Reachable (World.fresh now) s) (i : String) :
    s.1.invoices i ≤ _MAX_FUNDING_ATTEMPTS * s.1.starts i ∧
      (s.1.starts i ≤ 1 → s.1.invoices i ≤ _MAX_FUNDING_ATTEMPTS) := by
  have hinit (counted : Prop) : InvoiceInv counted (World.fresh now) :=
    ⟨fun i hlive => absurd hlive.1 Bool.false_ne_true, fun _ i => Nat.le_refl 0⟩
  have hbudget : Budget s.1 :=
    budget_of_reachable (invoiceOutline cfg (withinAllowance cfg.toConfig)) (R := invoiceRation)
      (fun w hi => hi.budget trivial) (fun w hi hbudget => ⟨hi.live, fun _ => hbudget⟩)
      (fun q w hok i hp => hok q rfl i (pendingInvoice_of_comesTo hp)) hinit hs
  have hle : s.1.invoices i ≤ _MAX_FUNDING_ATTEMPTS * s.1.starts i :=
    (Nat.le_add_right _ _).trans (hbudget i)
  refine ⟨hle, fun hone => hle.trans ?_⟩
  exact (Nat.mul_le_mul_left _ hone).trans (Nat.le_of_eq (Nat.mul_one _))

/-! ## A sixth invoice -/

/-- Calm services, except that no invoice is to be had. -/
def unserved : (c : Cmd) → World → Except Exc c.Ret × World
  | .create_invoice purpose _ _, w => (.ok none, w.emit (.invoice_requested purpose))
  | c, w => calm none c w

theorem exec_unserved (c : Cmd) (w : World) : exec c w (unserved c w).1 (unserved c w).2 := by
  cases c with
  | create_invoice purpose token dollars => exact rfl
  | _ => exact exec_calm none _ w

theorem step_unserved (hreg : ∀ c w r, reg.answers c w r) (c : Cmd) (w : World)
    (hc : w.cancelled = false) :
    (machine cfg reg).exec c w (unserved c w).1 (unserved c w).2 ∧
      ¬ (machine cfg reg).interrupted c w ∧ (unserved c w).2.cancelled = false := by
  refine ⟨⟨exec_unserved c w, hreg c w _⟩, fun hint => ?_, ?_⟩
  · exact Bool.false_ne_true (hc.symm.trans hint.2)
  · rw [(exec_frame (exec_unserved c w)).cancelled, hc]

/-- A process that crashes and is restarted at once. -/
def World.restarted (w : World) : World :=
  { w with running := true, tasks := false, cancelled := false }

theorem reachable_restarted {w₀ w : World} {p : Coro Unit}
    (hs : (machine cfg reg).Reachable w₀ (w, .running p)) :
    (machine cfg reg).Reachable w₀ (w.restarted, .running (boot cfg)) :=
  (hs.tail .crash).tail (.restart ⟨w.now, le_refl _, rfl⟩)

/-- A spawn whose first attempt at an invoice fails, and `n` restarts with another one each. -/
def failedAttempts : ℕ → World × Coro Unit
  | 0 => Machine.play unserved 60 (calmSpawn none 0)
  | n + 1 => Machine.play unserved 60 ((failedAttempts n).1.restarted, boot calmSetup)

theorem reachable_failedAttempts (hreg : ∀ c w r, reg.answers c w r) (n : ℕ) :
    (machine calmSetup reg).Reachable (World.fresh 0)
      ((failedAttempts n).1, .running (failedAttempts n).2) := by
  induction n with
  | zero =>
      have hstart : (machine calmSetup reg).Reachable (World.fresh 0)
          ((calmSpawn none 0).1, .running (calmSpawn none 0).2) :=
        reachable_calmSpawn (fun c w => hreg c w _) (by decide +kernel) 0
      exact hstart.play (step_unserved hreg) 60 (s := calmSpawn none 0) (by decide +kernel)
  -- the process crashes in its wait and is started again
  | succ n ih =>
      exact (reachable_restarted ih).play (step_unserved hreg) 60
        (s := ((failedAttempts n).1.restarted, boot calmSetup)) rfl

/-- Five attempts, each with its invoice, and no more. -/
theorem invoices_bounded_failedAttempts :
    (failedAttempts 4).1.invoices "spawn-01234567" = 5 ∧
      (failedAttempts 4).1.starts "spawn-01234567" ≤ 1 ∧
      (failedAttempts 4).1.invoices "spawn-01234567" ≤ _MAX_FUNDING_ATTEMPTS := by
  have hreg : ∀ c w r, (withinAllowance calmSetup.toConfig).answers c w r := fun _ _ _ => trivial
  have hreach := reachable_failedAttempts hreg 4
  have hstarts : (failedAttempts 4).1.starts "spawn-01234567" ≤ 1 := by decide +kernel
  exact ⟨by decide +kernel, hstarts, (invoices_bounded hreach "spawn-01234567").2 hstarts⟩

/-- The program is about to request an invoice for the spawn. -/
def asksInvoice (i : String) : Coro Unit → Bool
  | .op (.create_invoice (.funding j _) _ _) _ => j == i
  | _ => false

/-- A request that ends a cancelled program, and is made all the same. -/
theorem reachable_cut_request {w₀ w : World} {p : Coro Unit} {i : String}
    (hs : (machine calmSetup anyRun).Reachable w₀ (w, .running p)) (hp : asksInvoice i p = true)
    (hw : w.cancelled = true) :
    ∃ t, (machine calmSetup anyRun).Reachable w₀
      (w.emit (.invoice_requested (.funding i t)), .stopped) := by
  unfold asksInvoice at hp
  split at hp
  · rename_i j t token dollars k
    obtain rfl : j = i := beq_iff_eq.mp hp
    exact ⟨t, hs.tail (.cut ⟨rfl, hw⟩ (.inr ⟨.ok none, rfl, trivial⟩))⟩
  · exact absurd hp Bool.false_ne_true

/-- The sixth try: the counter is about to be read when a signal comes, two hours after the
start. -/
def sixthTry : World × Coro Unit :=
  Machine.play unserved 21 ((failedAttempts 4).1.restarted, boot calmSetup)

def sixthTryAbandoned : World × Coro Unit :=
  Machine.play unserved 3
    (_handle_shutdown calmSetup.toConfig { sixthTry.1 with now := 7200 }, sixthTry.2)

/-- **A sixth invoice**: the coroutine reads a counter that the signal has cleared. -/
theorem sixth_invoice :
    ∃ s, (machine calmSetup anyRun).Reachable (World.fresh 0) s ∧
      s.1.starts "spawn-01234567" = 1 ∧ s.1.invoices "spawn-01234567" = 6 := by
  have hreg : ∀ c w r, anyRun.answers c w r := fun _ _ _ => trivial
  have hfifth := reachable_failedAttempts hreg 4
  have htry : (machine calmSetup anyRun).Reachable (World.fresh 0)
      (sixthTry.1, .running sixthTry.2) :=
    (reachable_restarted hfifth).play (step_unserved hreg) 21
      (s := ((failedAttempts 4).1.restarted, boot calmSetup)) rfl
  have hlate := htry.tail (.signal (by simp) (.inl ⟨7200, by decide +kernel, rfl⟩))
  have hsignal := hlate.tail (.signal (by simp) (.inr ⟨fun _ => trivial, rfl⟩))
  have hread := reachable_sync exec_unserved (fun _ _ _ => trivial) 3 (s := (_, _)) hsignal
    (by decide +kernel)
  obtain ⟨t, hsixth⟩ := reachable_cut_request (i := "spawn-01234567") hread (by decide +kernel)
    (by decide +kernel)
  refine ⟨_, hsixth, ?_, ?_⟩
  · have hstarts : sixthTryAbandoned.1.starts "spawn-01234567" = 1 := by decide +kernel
    show (sixthTryAbandoned.1.emit _).starts _ = 1
    rw [starts_request, hstarts]
  · have hinvoices : sixthTryAbandoned.1.invoices "spawn-01234567" = 5 := by decide +kernel
    show (sixthTryAbandoned.1.emit _).invoices _ = 6
    rw [invoices_request, hinvoices, if_pos rfl]

end Superorganism.Spawn
