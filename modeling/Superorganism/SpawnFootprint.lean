/-
Footprints of the pipeline's functions.

Most of the pipeline has nothing to do with any one property. `Touches K V` says which
rows an operation may write and which events it may cause; a function whose operations
all satisfy it keeps every assertion about the other rows and events.
-/
import Superorganism.SpawnPipeline

set_option autoImplicit false

open Superorganism.Process Superorganism.Process.Prog

namespace Superorganism.Spawn

/-! ## Footprints -/

/-- The operation writes at most the rows `K` and causes at most the events `V`. -/
def Touches (K : List Key) (V : Event → Prop) (c : Cmd) : Prop :=
  (∀ k, c.Writes k → k ∈ K) ∧ ∀ e, c.Emits e → V e

/-- The operation changes nothing. -/
abbrev Quiet (c : Cmd) : Prop := c.isQuiet = true

theorem touches_quiet {c : Cmd} {K : List Key} {V : Event → Prop} (h : Quiet c) :
    Touches K V c := by
  cases c with
  | set _ _ => exact absurd h (by simp [Quiet, Cmd.isQuiet])
  | mark_spawn_started _ => exact absurd h (by simp [Quiet, Cmd.isQuiet])
  | mark_spawn_completed _ _ => exact absurd h (by simp [Quiet, Cmd.isQuiet])
  | create_tasks => exact absurd h (by simp [Quiet, Cmd.isQuiet])
  | generate_token => exact absurd h (by simp [Quiet, Cmd.isQuiet])
  | create_invoice _ _ _ => exact absurd h (by simp [Quiet, Cmd.isQuiet])
  | wallet_send _ _ _ => exact absurd h (by simp [Quiet, Cmd.isQuiet])
  | launch_server _ _ _ => exact absurd h (by simp [Quiet, Cmd.isQuiet])
  | _ => exact ⟨fun _ hk => absurd hk (by simp [Cmd.Writes]), fun _ he => absurd he (by simp [Cmd.Emits])⟩

theorem Touches.mono {c : Cmd} {K K' : List Key} {V V' : Event → Prop} (h : Touches K V c)
    (hK : ∀ k ∈ K, k ∈ K') (hV : ∀ e, V e → V' e) : Touches K' V' c :=
  ⟨fun k hk => hK k (h.1 k hk), fun e he => hV e (h.2 e he)⟩

variable {S : Cmd → Prop}

theorem within_require (b : Bool) (e : Exc) : (require b e).Within S := by
  cases b with
  | false => exact trivial
  | true => exact trivial

theorem touches_set {K : List Key} {V : Event → Prop} {k : Key} {v : k.Val} (hk : k ∈ K) :
    Touches K V (.set k v) := by
  refine ⟨fun k' hk' => ?_, fun e he => he.elim⟩
  cases hk'
  exact hk

theorem touches_send {K : List Key} {V : Event → Prop} {purpose : Purpose} {address : String}
    {amount_sat : ℤ} (hi : V (.send_invoked purpose)) (he : V (.send_effective purpose)) :
    Touches K V (.wallet_send purpose address amount_sat) := by
  refine ⟨fun k hk => hk.elim, fun e h => ?_⟩
  rcases h with rfl | rfl
  · exact hi
  · exact he

/-! ### Functions that change nothing -/

variable (cfg : Setup)

theorem wait_for_credit_quiet (t : String) : (_wait_for_credit cfg t).Within Quiet := by
  have hloop (start : ℚ) (n : ℕ) : (wait_for_credit_loop t start n).Within Quiet := by
    induction n with
    | zero => exact trivial
    | succ n ih =>
        refine .bind (.call rfl) fun now => .ite (fun _ => ?_) fun _ => trivial
        exact .bind (.call rfl) fun balance =>
          .ite (fun _ => trivial) fun _ => .bind (.call rfl) fun _ => ih
  exact .bind (.call rfl) fun start => hloop start _

theorem wait_for_node_state_quiet : _wait_for_node_state.Within Quiet := by
  have hloop (n : ℕ) : (wait_loop n).Within Quiet := by
    induction n with
    | zero => exact trivial
    | succ n ih =>
        refine .bind (.call rfl) fun state => .ite (fun _ => trivial) fun _ => ?_
        exact .bind (.call rfl) fun _ => ih
  exact .bind (.call rfl) fun monitor => .ite (fun _ => hloop 300) fun _ => trivial

theorem deploy_child_code_quiet (identity : ChildIdentity) (vps_info : ChildVpsInfo) :
    (deploy_child_code cfg identity vps_info).Within Quiet := by
  refine .ite (fun _ => trivial) fun _ => .tryCatch ?_ fun e => .bind (.call rfl) fun _ => trivial
  exact .bind (.call rfl) fun _ => .bind (.call rfl) fun _ => .bind (.call rfl) fun _ =>
    .bind (.call rfl) fun _ => .bind (.call rfl) fun _ => .call rfl

theorem boot_child_orchestrator_quiet (identity : ChildIdentity) (caution : ℚ) :
    (boot_child_orchestrator identity caution).Within Quiet := by
  refine .bind (.call rfl) fun child_caution => .bind (.tryCatch ?_ fun e => ?_) fun _ => trivial
  · exact .bind (.call rfl) fun _ => .bind (.call rfl) fun _ =>
      .bind (.call rfl) fun healthy => within_require _ _
  · cases e with
    | SpawnError step message => exact trivial
    | SporeStackError message => exact trivial
    | SystemExit => exact trivial
    | other message => exact trivial

theorem intent_is_live_quiet (intent : FundingIntent) : (_intent_is_live intent).Within Quiet := by
  unfold _intent_is_live
  cases intent.deadline with
  | none => exact trivial
  | some deadline => exact .bind (.call rfl) fun now => trivial

theorem check_parent_balance_quiet (amount_sat : ℤ) :
    (_check_parent_balance cfg amount_sat).Within Quiet :=
  .bind (.call rfl) fun _ => within_require _ _

theorem scan_loop_quiet (i : String) (n : ℕ) : (scan_loop i n).Within Quiet := by
  induction n with
  | zero => exact .tryCatch (.call rfl) fun e => trivial
  | succ n ih =>
      refine .bind (.tryCatch ?_ fun e => ?_) fun ok => .ite (fun _ => trivial) fun _ => ih
      · exact .bind (.call rfl) fun _ => trivial
      · exact .bind (.call rfl) fun _ => trivial

theorem get_caution_trait_quiet : get_caution_trait.Within Quiet :=
  .bind (.call rfl) fun _ => trivial

theorem is_failsafe_in_progress_quiet : is_failsafe_in_progress.Within Quiet :=
  .bind (.call rfl) fun _ => trivial

theorem safe_disconnect_quiet : _safe_disconnect.Within Quiet :=
  .tryCatch (.call rfl) fun _ => trivial

/-! ### The stages of a spawn -/

theorem obtain_child_wallet_touches (i : String) (V : Event → Prop) :
    (obtain_child_wallet i).Within (Touches [.spawn_child_wallet] V) := by
  refine .bind (.call (touches_quiet (by rfl))) fun blob => ?_
  cases _rehydrate_child_wallet blob i with
  | some wallet => exact trivial
  | none =>
      refine .bind (.tryCatch (.call (touches_quiet (by rfl))) fun e => trivial) fun wallet => ?_
      exact .bind (.call (touches_set (by simp))) fun _ => trivial

/-- The events of `_fund_sporestack_token`. -/
def fundingEvent (i t : String) (e : Event) : Prop :=
  e = .invoice_requested (.funding i t) ∨ e = .send_invoked (.funding i t) ∨
    e = .send_effective (.funding i t)

/-- The rows of `_fund_sporestack_token`. -/
def fundingKeys : List Key := [.spawn_funding_intent, .spawn_funding_txid, .spawn_funding_attempts]

theorem mint_funding_invoice_touches (i t : String) :
    (_mint_funding_invoice cfg i t).Within (Touches fundingKeys (fundingEvent i t)) := by
  refine .bind (.call (touches_quiet (by rfl))) fun stored => .bind (within_require _ _) fun _ => ?_
  refine .bind (.call (touches_set (by decide))) fun _ => ?_
  refine .bind (.call (touches_quiet (by rfl))) fun monthly => .bind (.call ?_) fun response => ?_
  · exact ⟨fun _ hk => hk.elim, fun e he => .inl he⟩
  · refine .bind ?_ fun intent => .bind (.call (touches_set (by decide))) fun _ => trivial
    unfold intent_of_response
    split
    · exact trivial
    · dsimp only
      split
      · exact trivial
      · exact trivial
      · exact trivial

theorem pay_invoice_touches (i t expired failed : String) (intent : FundingIntent) :
    (pay_invoice cfg i t expired failed intent).Within (Touches fundingKeys (fundingEvent i t)) := by
  refine .bind ((check_parent_balance_quiet cfg _).mono fun _ => touches_quiet) fun _ => ?_
  refine .bind ((intent_is_live_quiet _).mono fun _ => touches_quiet) fun live => ?_
  refine .bind (within_require _ _) fun _ => ?_
  refine .bind (.tryCatch (.call ?_) fun e => trivial) fun txid => .call (touches_set (by decide))
  exact touches_send (.inr (.inl rfl)) (.inr (.inr rfl))

theorem fund_sporestack_token_touches (i t : String) :
    (_fund_sporestack_token cfg i t).Within (Touches fundingKeys (fundingEvent i t)) := by
  refine .bind (.call (touches_quiet (by rfl))) fun txid => .ite (fun _ => trivial) fun _ => ?_
  refine .bind (.call (touches_quiet (by rfl))) fun intent => ?_
  cases matching_intent intent i t with
  | none => exact .bind (mint_funding_invoice_touches cfg i t) fun _ => pay_invoice_touches cfg ..
  | some intent =>
      refine .bind (.call (touches_quiet (by rfl))) fun prior => .ite (fun _ => ?_) fun _ => ?_
      · exact .call (touches_set (by decide))
      refine .bind (.call (touches_quiet (by rfl))) fun balance => .ite (fun _ => ?_) fun _ => ?_
      · exact .bind (.call (touches_quiet (by rfl))) fun now => .call (touches_set (by decide))
      refine .bind ((intent_is_live_quiet _).mono fun _ => touches_quiet) fun live => ?_
      refine .bind (.ite (fun _ => trivial) fun _ => ?_) fun _ => pay_invoice_touches cfg ..
      exact mint_funding_invoice_touches cfg i t

theorem obtain_sporestack_token_touches (i : String) (V : Event → Prop)
    (hV : ∀ t, V (.token_minted t)) :
    (obtain_sporestack_token i).Within (Touches [.spawn_sporestack_token] V) := by
  refine .bind (.call (touches_quiet (by rfl))) fun blob => ?_
  cases _rehydrate_sporestack_token blob i with
  | some t => exact trivial
  | none =>
      refine .bind (.call ⟨fun _ hk => hk.elim, fun e he => ?_⟩) fun minted => ?_
      · obtain ⟨t, rfl⟩ := he
        exact hV t
      · refine .bind (within_require _ _) fun _ => ?_
        exact .bind (.call (touches_set (by simp))) fun _ => trivial

/-- The rows of the identity stage. -/
def identityKeys : List Key :=
  [.spawn_child_wallet, .spawn_sporestack_token, .spawn_funding_intent, .spawn_funding_txid,
    .spawn_funding_attempts, .spawn_identity]

/-- The events of the identity stage. -/
def identityEvent (i : String) (e : Event) : Prop :=
  (∃ t, e = .token_minted t) ∨ ∃ t, fundingEvent i t e

theorem obtain_identity_touches (i : String) :
    (obtain_identity cfg i).Within (Touches identityKeys (identityEvent i)) := by
  refine .bind (.call (touches_quiet (by rfl))) fun blob => ?_
  split
  · exact trivial
  refine .bind ?_ fun identity => .bind (.call (touches_set (by decide))) fun _ => trivial
  refine .bind (.call (touches_quiet (by rfl))) fun _ => .bind (within_require _ _) fun _ => ?_
  refine .bind (.tryCatch (.call (touches_quiet (by rfl))) fun _ => trivial) fun key => ?_
  refine .bind ((obtain_child_wallet_touches i _).mono fun c hc =>
    hc.mono (by decide) fun _ he => he) fun wallet => ?_
  refine .bind ((obtain_sporestack_token_touches i _ fun t => .inl ⟨t, rfl⟩).mono fun c hc =>
    hc.mono (by decide) fun _ he => he) fun t => ?_
  refine .bind (.call (touches_quiet (by rfl))) fun _ => .bind (within_require _ _) fun _ => ?_
  refine .bind ((fund_sporestack_token_touches cfg i t).mono fun c hc =>
    hc.mono (by decide) fun _ he => .inr ⟨t, he⟩) fun _ => ?_
  exact .bind ((wait_for_credit_quiet cfg t).mono fun _ => touches_quiet) fun _ => trivial

/-- The identity in hand is that of the spawn. -/
theorem obtain_identity_returns (i : String) :
    (obtain_identity cfg i).Returns fun d => d.spawn_id = i := by
  have hprepare : (prepare_child_identity cfg i).Returns fun d => d.spawn_id = i :=
    .last fun _ => .last fun _ => .last fun _ => .last fun _ => .last fun _ => .last fun _ =>
      .last fun _ => .last fun _ => .last fun _ => rfl
  refine .last fun blob => ?_
  split
  · rename_i d hd
    have h : d.spawn_id = i := by simpa using (Option.filter_eq_some_iff.mp hd).2
    exact h
  · exact hprepare.bind fun d hd => .last fun _ => hd

/-- The events of `provision_child_vps`. -/
def launchEvent (t : String) (e : Event) : Prop := ∃ m, e = .server_launched t m

theorem obtain_machine_touches (identity : ChildIdentity) :
    (obtain_machine cfg identity).Within
      (Touches [.spawn_vps_intent] (launchEvent identity.sporestack_token)) := by
  refine .bind (.call (touches_quiet (by rfl))) fun intent =>
    .bind (.ite (fun _ => ?_) fun _ => trivial) fun server => ?_
  · refine .bind (.tryCatch (.call (touches_quiet (by rfl))) fun e => ?_) fun servers => ?_
    · cases e with
      | SpawnError step message => exact trivial
      | SporeStackError message => exact trivial
      | SystemExit => exact trivial
      | other message => exact trivial
    · exact .ite (fun _ => trivial) fun _ => trivial
  · cases server with
    | none =>
        refine .bind (.call (touches_set (by simp))) fun _ => .bind (.call ?_) fun machine_id => ?_
        · exact ⟨fun _ hk => hk.elim, fun e he => he⟩
        · exact .bind (within_require _ _) fun _ => trivial
    | some server => exact .bind (within_require _ _) fun _ => trivial

theorem vps_info_of_within {S : Cmd → Prop} (identity : ChildIdentity) (machine_id : String)
    (server : Option Server) : (vps_info_of identity machine_id server).Within S := by
  unfold vps_info_of
  split
  · exact trivial
  · split
    · exact trivial
    · exact trivial

theorem obtain_vps_touches (i : String) (identity : ChildIdentity) :
    (obtain_vps cfg i identity).Within
      (Touches [.spawn_vps_intent, .spawn_vps_info] (launchEvent identity.sporestack_token)) := by
  refine .bind (.call (touches_quiet (by rfl))) fun blob => ?_
  cases Option.filter (fun blob : ChildVpsInfo => decide (blob.spawn_id = i)) blob with
  | some vps_info => exact trivial
  | none =>
      refine .bind (.call (touches_quiet (by rfl))) fun _ => .bind (within_require _ _) fun _ => ?_
      refine .bind ((obtain_machine_touches cfg identity).mono fun c hc => ?_) fun machine_id => ?_
      · exact ⟨fun k hk => List.mem_cons.mpr (.inl (List.mem_singleton.mp (hc.1 k hk))), hc.2⟩
      · refine .bind (.call (touches_quiet (by rfl))) fun server => ?_
        refine .bind (vps_info_of_within _ _ _) fun vps_info => ?_
        exact .bind (.call (touches_set (by simp))) fun _ => trivial

/-- The events of `transfer_inheritance`. -/
def transferEvent (i : String) (e : Event) : Prop :=
  e = .send_invoked (.inheritance i) ∨ e = .send_effective (.inheritance i)

/-- What `transfer_inheritance` may do: note the transfer, or end the spawn. -/
def Transfers (i : String) (c : Cmd) : Prop :=
  Touches [.spawn_transfer_intent, .spawn_transfer_txid] (transferEvent i) c ∨
    ∃ success address, c = .mark_spawn_completed success address

theorem reconcile_transfer_within (identity : ChildIdentity) (intent : TransferIntent) :
    (reconcile_transfer identity intent).Within (Transfers identity.spawn_id) := by
  refine .bind (.call (.inl (touches_quiet (by rfl)))) fun prior => .ite (fun _ => ?_) fun _ => trivial
  refine .bind (.call (.inl (touches_set (by simp)))) fun _ => ?_
  exact .bind (.call (.inr ⟨_, _, rfl⟩)) fun _ => trivial

theorem transfer_inheritance_within (identity : ChildIdentity) (ns : NodeState) :
    (transfer_inheritance cfg identity ns).Within (Transfers identity.spawn_id) := by
  have hquiet (c : Cmd) (hc : Quiet c) : Transfers identity.spawn_id c := .inl (touches_quiet hc)
  have hcompleted : (perform (.mark_spawn_completed true identity.btc_address)).Within
      (Transfers identity.spawn_id) := .call (.inr ⟨_, _, rfl⟩)
  refine .bind (.call (hquiet _ rfl)) fun _ => .bind (.call (hquiet _ rfl)) fun _ => ?_
  refine .bind (within_require _ _) fun _ => .bind (within_require _ _) fun _ => ?_
  refine .bind (.call (hquiet _ rfl)) fun stored => .ite (fun _ => ?_) fun _ => ?_
  · exact .bind hcompleted fun _ => trivial
  refine .bind (.call (hquiet _ rfl)) fun intent => ?_
  split
  · exact reconcile_transfer_within identity _
  · refine .bind ((scan_loop_quiet _ _).mono hquiet) fun _ => .bind (.call (hquiet _ rfl)) fun _ => ?_
    refine .ite (fun _ => .bind hcompleted fun _ => trivial) fun _ => ?_
    refine .bind (.call (.inl (touches_set (by simp)))) fun _ => ?_
    refine .bind (.tryCatch (.call (.inl ?_)) fun e => trivial) fun txid => ?_
    · exact touches_send (.inl rfl) (.inr rfl)
    · exact .bind (.call (.inl (touches_set (by simp)))) fun _ => .bind hcompleted fun _ => trivial

/-! ### The rest of the decision loop -/

/-- The events of `topup_sporestack`. -/
def topupEvent (e : Event) : Prop :=
  e = .invoice_requested .topup ∨ e = .send_invoked .topup ∨ e = .send_effective .topup

/-- What the decision loop does besides spawning. -/
def Aside (c : Cmd) : Prop := Touches [.failsafe_in_progress, .caution_trait] topupEvent c

theorem execute_failsafe_aside (peers : List PeerInfo) :
    (execute_failsafe cfg peers).Within Aside := by
  have hstart (target : String) (fallback : Bool) :
      (start_failsafe cfg target fallback).Within Aside := by
    refine .bind (.call (touches_quiet (by rfl))) fun ps => .bind (.ite (fun _ => ?_) fun _ => trivial)
      fun _ => ?_
    · exact .call (touches_set (by simp))
    refine .bind (.call (touches_quiet (by rfl))) fun _ => .bind (within_require _ _) fun _ => ?_
    refine .bind (.call (touches_quiet (by rfl))) fun _ => .bind (.tryCatch ?_ fun e => ?_) fun _ => ?_
    · exact .call (touches_quiet (by rfl))
    · exact .ite (fun _ => .call (touches_quiet (by rfl))) fun _ => trivial
    · exact .bind (within_require _ _) fun _ => .call (touches_set (by simp))
  unfold execute_failsafe
  cases select_best_peer peers with
  | some best => exact hstart _ _
  | none => exact .ite (fun _ => hstart _ _) fun _ => trivial

theorem topup_and_refresh_touches (ns : NodeState) :
    (topup_and_refresh cfg ns).Within (Touches [] topupEvent) := by
  have hpay (address : String) (amount_sat : ℤ) :
      (pay_topup address amount_sat).Within (Touches [] topupEvent) := by
    refine .bind (.call (touches_quiet (by rfl))) fun _ => .ite (fun _ => ?_) fun _ => trivial
    refine .bind (.call (touches_quiet (by rfl))) fun _ => .ite (fun _ => trivial) fun _ => ?_
    refine .bind (.tryCatch (.call ?_) fun _ => trivial) fun _ => trivial
    exact touches_send (.inr (.inl rfl)) (.inr (.inr rfl))
  have htopup (token : String) :
      (topup_with_token cfg ns token).Within (Touches [] topupEvent) := by
    refine .bind (.call (touches_quiet (by rfl))) fun monthly => .ite (fun _ => trivial) fun _ => ?_
    refine .bind (.call ⟨fun _ hk => hk.elim, fun e he => .inl he⟩) fun response => ?_
    split
    · exact trivial
    · split
      · exact trivial
      · exact trivial
      · exact hpay _ _
  refine .tryCatch ?_ fun _ => trivial
  refine .bind (.bind (.call (touches_quiet (by rfl))) fun token => ?_) fun _ => ?_
  · cases token with
    | none => exact trivial
    | some token => exact htopup token
  · exact .bind (.call (touches_quiet (by rfl))) fun _ =>
      .bind (.call (touches_quiet (by rfl))) fun _ => trivial

theorem topup_and_refresh_aside (ns : NodeState) : (topup_and_refresh cfg ns).Within Aside :=
  (topup_and_refresh_touches cfg ns).mono fun _ hc => hc.mono nofun fun _ he => he

theorem recover_failsafe_aside : (recover_failsafe cfg).Within Aside := by
  refine .bind (wait_for_node_state_quiet.mono fun _ => touches_quiet) fun ready => ?_
  refine .bind (.ite (fun _ => .call (touches_quiet (by rfl))) fun _ => trivial) fun _ => ?_
  refine .ite (fun _ => ?_) fun _ => trivial
  refine .bind (.call (touches_quiet (by rfl))) fun _ => .bind (.call (touches_quiet (by rfl))) fun _ => ?_
  refine .bind (.ite (fun _ => .call (touches_quiet (by rfl))) fun _ => trivial) fun peers => ?_
  exact .tryCatch (execute_failsafe_aside cfg peers) fun _ => trivial

theorem initialise_caution_aside : (initialise_caution cfg).Within Aside := by
  refine .bind (.call (touches_quiet (by rfl))) fun stored => ?_
  cases stored with
  | none => exact .call (touches_set (by simp))
  | some _ => exact trivial

theorem start_seeding_quiet : (start_seeding cfg).Within Quiet :=
  .ite (fun _ => trivial) fun _ => .bind (.call rfl) fun _ => .bind (.call rfl) fun _ =>
    within_require _ _

end Superorganism.Spawn
