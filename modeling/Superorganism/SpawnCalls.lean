/-
The operations of the spawn pipeline and what each can do.

`exec c w r w'` says that `c` can answer `r` in the world `w` and leave `w'`. What the
source leaves to others answers freely: a wallet query may miss a transaction, a
balance may be wrong, a service may raise whether or not the request went through.
What a call can change is fixed all the same: the rows of `Cmd.Writes` and the events
of `Cmd.Emits`, and nothing else (`exec_frame`).

A `Regime` narrows the runs one looks at: which answers the services give, and at
which points a signal may abandon a spawn.
-/
import Superorganism.SpawnWorld

set_option autoImplicit false

open Superorganism.Process

namespace Superorganism.Spawn

/-! ## Values the calls return -/

/-- The exceptions of the pipeline. `SystemExit` stands for the orchestrator giving up. -/
inductive Exc where
  | SpawnError (step message : String)
  | SporeStackError (message : String)
  | SystemExit
  | other (message : String)
deriving DecidableEq, Repr

/-- `str(exc)`. -/
def Exc.str : Exc → String
  | .SpawnError step message => s!"[{step}] {message}"
  | .SporeStackError message => message
  | .SystemExit => ""
  | .other message => message

/-- The fields of `NodeState` the pipeline reads. -/
structure NodeState where
  btc_balance_sat : ℤ
  sporestack_balance_cents : ℤ
  days_remaining : Option ℤ
  total_runway_days : Option ℤ
  last_updated : ℚ
  vps_provider : String
deriving DecidableEq, Repr

structure PeerInfo where
  btc_address : String
  btc_balance_sat : ℤ
deriving DecidableEq, Repr

structure Invoice where
  payment_uri : String
  created : Option ℤ
  expires : Option ℤ
deriving DecidableEq, Repr

/-- The answer of `create_invoice`: the invoice under the key `invoice`, or at top level. -/
structure InvoiceResponse extends Invoice where
  invoice : Option Invoice
  repr : String
deriving DecidableEq, Repr

/-- A timestamp as JSON has it: a number, or a text with what `int` makes of it. -/
inductive Stamp where
  | number (n : ℤ)
  | text (parsed : Option ℤ)
deriving DecidableEq, Repr

structure Server where
  machine_id : Option String
  ipv4 : Option String
  ipv6 : Option String
  ssh_port : Option ℤ
  created_at : Option Stamp
  created : Option Stamp
deriving DecidableEq, Repr

/-- A transaction of the wallet's history with the fields `scan_for_prior_send` reads;
`txid` is the first of `txid` and `hash` that is set. -/
structure WalletTx where
  is_send : Bool
  outputs : List (Option String × Option ℤ)
  txid : Option String
deriving DecidableEq, Repr

/-- `if s:` for an optional string. -/
def truthy (s : Option String) : Bool := s.getD "" != ""

def WalletTx.pays (tx : WalletTx) (address : String) (amount_sat : ℤ) : Bool :=
  tx.is_send && truthy tx.txid &&
    tx.outputs.any fun out => out.1 == some address && out.2.getD 0 == amount_sat

/-- `scan_for_prior_send` on the history the wallet gives, if it gives one. -/
def scan_for_prior_send (txs : Option (List WalletTx)) (address : String) (amount_sat : ℤ) :
    Option String :=
  ((txs.getD []).find? (·.pays address amount_sat)).bind (·.txid)

/-- `find_prior_send` over the histories of its polls. -/
def find_prior_send (polls : List (Option (List WalletTx))) (address : String) (amount_sat : ℤ) :
    Option String :=
  polls.findSome? (scan_for_prior_send · address amount_sat)

/-! ## Operations -/

inductive Singleton where
  | state
  | wallet
  | node_monitor
  | peer_registry
deriving DecidableEq, Repr

/-- The two places that ask for the balance of the child's token. -/
inductive BalanceSite where
  | reconcile
  | poll
deriving DecidableEq, Repr

inductive DeployStep where
  | connect (host : String) (port : ℤ)
  | install_dependencies
  | setup_firewall
  | deploy_mycelium
  | deploy_video_ids
  | deploy_cookies
  | start_orchestrator (caution_trait : ℚ) (btc_mnemonic sporestack_token : String)
  | disconnect
deriving DecidableEq, Repr

inductive Cmd where
  -- on the event loop's thread
  | get (k : Key)
  | set (k : Key) (v : k.Val)
  | mark_spawn_started (spawn_id : String)
  | mark_spawn_completed (success : Bool) (child_btc_address : String)
  | create_tasks
  | time
  | initialised (s : Singleton)
  | get_state
  | get_live_peers
  | uuid4_hex
  | generate_ssh_keypair (key_path comment : String)
  | generate_child_btc_wallet (spawn_id : String)
  | calculate_monthly_vps_cost (provider : String)
  | read_token_file
  | mutate_caution_trait (parent_trait : ℚ)
  -- awaited
  | sleep (seconds : ℚ)
  | download_content
  | initialize_seedbox
  | refresh
  | generate_token
  | create_invoice (purpose : Purpose) (sporestack_token : String) (dollars : ℤ)
  | get_balance (site : BalanceSite) (sporestack_token : String)
  | find_prior_send (address : String) (amount_sat : ℤ)
  | get_balance_satoshis
  | wallet_send (purpose : Purpose) (address : String) (amount_sat : ℤ)
  | wallet_scan
  | sweep_all (address : String)
  | get_servers (sporestack_token : String)
  | launch_server (sporestack_token ssh_key hostname : String)
  | wait_for_server_ready (sporestack_token machine_id : String)
  | deploy (step : DeployStep)
  | check_health

namespace Cmd

@[reducible] def Ret : Cmd → Type
  | get k => Option k.Val
  | time => ℚ
  | initialised _ => Bool
  | get_state => NodeState
  | get_live_peers => List PeerInfo
  | uuid4_hex => String
  | generate_ssh_keypair _ _ => String × String
  | generate_child_btc_wallet _ => String × String
  | calculate_monthly_vps_cost _ => ℤ
  -- nothing when the file cannot be read
  | read_token_file => Option String
  | mutate_caution_trait _ => ℚ
  | initialize_seedbox => Bool
  | generate_token => Option String
  | create_invoice _ _ _ => Option InvoiceResponse
  | get_balance _ _ => Option ℤ
  | find_prior_send _ _ => Option String
  | get_balance_satoshis => ℤ
  | wallet_send _ _ _ => String
  | sweep_all _ => String
  | get_servers _ => List Server
  | launch_server _ _ _ => Option String
  | wait_for_server_ready _ _ => Option Server
  | check_health => Bool
  | _ => Unit

/-- The operation is handed to a thread or to the event loop and awaited. -/
def isAwait : Cmd → Bool
  | sleep _ => true
  | download_content => true
  | initialize_seedbox => true
  | refresh => true
  | generate_token => true
  | create_invoice _ _ _ => true
  | get_balance _ _ => true
  | find_prior_send _ _ => true
  | get_balance_satoshis => true
  | wallet_send _ _ _ => true
  | wallet_scan => true
  | sweep_all _ => true
  | get_servers _ => true
  | launch_server _ _ _ => true
  | wait_for_server_ready _ _ => true
  | deploy _ => true
  | check_health => true
  | _ => false

/-- The rows the operation can change. -/
def Writes : Cmd → Key → Prop
  | set k _, k' => k' = k
  | mark_spawn_started _, k' =>
      k' = .spawn_in_progress ∨ k' = .spawn_id ∨ k' = .spawn_started_at
  | mark_spawn_completed _ _, k' =>
      k' = .spawn_in_progress ∨ k' = .spawn_history ∨ k' ∈ _SPAWN_KEYS_TO_CLEAR
  | _, _ => False

/-- The events the operation can cause. -/
def Emits : Cmd → Event → Prop
  | mark_spawn_started i, e => e = .spawn_started i ∨ e = .stale_start i
  | generate_token, e => ∃ t, e = .token_minted t
  | create_invoice purpose _ _, e => e = .invoice_requested purpose
  | wallet_send purpose _ _, e => e = .send_invoked purpose ∨ e = .send_effective purpose
  | launch_server t _ _, e => ∃ m, e = .server_launched t m
  | _, _ => False

end Cmd

/-- A call on `NodePersistentState`: it commits, or raises and changes nothing. -/
def commits {α : Type} (w : World) (a : α) (after : World) (r : Except Exc α) (w' : World) : Prop :=
  (r = .ok a ∧ w' = after) ∨ ((∃ e, r = .error e) ∧ w' = w)

/-- The operation changes nothing. -/
def Cmd.isQuiet : Cmd → Bool
  | set _ _ => false
  | mark_spawn_started _ => false
  | mark_spawn_completed _ _ => false
  | create_tasks => false
  | generate_token => false
  | create_invoice _ _ _ => false
  | wallet_send _ _ _ => false
  | launch_server _ _ _ => false
  | _ => true

/-- What an operation can do. -/
def exec : (c : Cmd) → World → Except Exc c.Ret → World → Prop
  | .get k, w, r, w' => w' = w ∧ ∀ v, r = .ok v → v = w.store k
  | .set k v, w, r, w' => commits w () (w.put k v) r w'
  | .mark_spawn_started i, w, r, w' => commits w () (w.started i) r w'
  | .mark_spawn_completed success address, w, r, w' =>
      commits w () (w.completed success address) r w'
  | .create_tasks, w, r, w' => r = .ok () ∧ w' = { w with tasks := true }
  | .time, w, r, w' => r = .ok w.now ∧ w' = w
  | .find_prior_send address amount_sat, w, r, w' =>
      w' = w ∧ ∀ v, r = .ok v → ∃ polls, v = find_prior_send polls address amount_sat
  | .generate_token, w, r, w' =>
      (∃ t, w' = w.emit (.token_minted t) ∧ ∀ v, r = .ok (some v) → v = t) ∨
        (w' = w ∧ ∀ v, r ≠ .ok (some v))
  | .create_invoice purpose _ _, w, _, w' => w' = w.emit (.invoice_requested purpose)
  | .wallet_send purpose _ _, w, r, w' =>
      -- a broadcast whose confirmation is lost raises and is out all the same
      w' = (w.emit (.send_invoked purpose)).emit (.send_effective purpose) ∨
        (w' = w.emit (.send_invoked purpose) ∧ ∃ e, r = .error e)
  | .launch_server t _ _, w, r, w' =>
      (∃ m, w' = w.emit (.server_launched t m) ∧ ∀ v, r = .ok (some v) → v = m) ∨
        (w' = w ∧ ∀ v, r ≠ .ok (some v))
  | _, w, _, w' => w' = w

/-! ## What an operation leaves alone -/

/-- The two worlds differ at most in what `c` can change. -/
structure Frame (c : Cmd) (w w' : World) : Prop where
  store : ∀ k, ¬ c.Writes k → w'.store k = w.store k
  log : ∃ es, w'.log = es ++ w.log ∧ ∀ e ∈ es, c.Emits e
  cancelled : w'.cancelled = w.cancelled
  running : w'.running = w.running
  tasks : w.tasks = true → w'.tasks = true

theorem Frame.refl (c : Cmd) (w : World) : Frame c w w :=
  ⟨fun _ _ => rfl, ⟨[], by simp⟩, rfl, rfl, id⟩

theorem Frame.emit {c : Cmd} {w w' : World} {e : Event} (h : Frame c w w') (he : c.Emits e) :
    Frame c w (w'.emit e) := by
  obtain ⟨es, hes, hall⟩ := h.log
  refine ⟨h.store, ⟨e :: es, by simp [World.emit, hes], ?_⟩, h.cancelled, h.running, h.tasks⟩
  intro e' he'
  rcases List.mem_cons.mp he' with rfl | he'
  · exact he
  · exact hall e' he'

theorem Frame.of_store {c : Cmd} {w : World} {s : Store}
    (h : ∀ k, ¬ c.Writes k → s k = w.store k) : Frame c w { w with store := s } :=
  ⟨h, ⟨[], by simp⟩, rfl, rfl, id⟩

theorem Frame.of_commits {α : Type} {c : Cmd} {w after w' : World} {a : α} {r : Except Exc α}
    (hafter : Frame c w after) (h : commits w a after r w') : Frame c w w' := by
  rcases h with ⟨-, rfl⟩ | ⟨-, rfl⟩
  · exact hafter
  · exact .refl c _

theorem frame_started (w : World) (i : String) :
    Frame (.mark_spawn_started i) w (w.started i) := by
  have hstore (w₁ : World) (h : Frame (.mark_spawn_started i) w w₁) :
      Frame (.mark_spawn_started i) w
        { w₁ with store := w.store.mark_spawn_started i w.now } := by
    refine ⟨fun k hk => ?_, h.log, h.cancelled, h.running, h.tasks⟩
    simp only [Cmd.Writes, not_or] at hk
    show w.store.mark_spawn_started i w.now k = w.store k
    rw [Store.mark_spawn_started, Store.set_of_ne _ _ hk.2.2, Store.set_of_ne _ _ hk.2.1,
      Store.set_of_ne _ _ hk.1]
  unfold World.started
  split
  · exact .emit (hstore _ (.refl _ _)) (.inl rfl)
  · exact .emit (hstore _ (.emit (.refl _ _) (.inr rfl))) (.inl rfl)

/-- **What an operation leaves alone.** -/
theorem exec_frame {c : Cmd} {w w' : World} {r : Except Exc c.Ret} (h : exec c w r w') :
    Frame c w w' := by
  cases c with
  | set k v =>
      refine .of_commits (.of_store fun k' hk' => ?_) h
      exact Store.set_of_ne _ _ hk'
  | mark_spawn_started i => exact .of_commits (frame_started w i) h
  | mark_spawn_completed success address =>
      refine .of_commits (.of_store fun k hk => ?_) h
      simp only [Cmd.Writes, not_or] at hk
      rw [Store.mark_spawn_completed, Store.foldl_delete, if_neg hk.2.2]
      cases success with
      | false => exact Store.set_of_ne _ _ hk.1
      | true =>
          rw [if_pos rfl, Store.set_of_ne _ _ hk.2.1, Store.set_of_ne _ _ hk.1]
  | create_tasks =>
      obtain ⟨-, rfl⟩ := h
      exact ⟨fun _ _ => rfl, ⟨[], by simp⟩, rfl, rfl, fun _ => rfl⟩
  | generate_token =>
      rcases h with ⟨t, rfl, -⟩ | ⟨rfl, -⟩
      · exact .emit (.refl _ _) ⟨t, rfl⟩
      · exact .refl _ _
  | create_invoice purpose token dollars =>
      cases h
      exact .emit (.refl _ _) rfl
  | wallet_send purpose address amount_sat =>
      -- the payment may take effect whatever the answer is
      rcases h with rfl | ⟨rfl, -⟩
      · exact .emit (.emit (.refl _ _) (.inl rfl)) (.inr rfl)
      · exact .emit (.refl _ _) (.inl rfl)
  | launch_server token ssh_key hostname =>
      rcases h with ⟨m, rfl, -⟩ | ⟨rfl, -⟩
      · exact .emit (.refl _ _) ⟨m, rfl⟩
      · exact .refl _ _
  | get k => cases h.1; exact .refl _ _
  | time => cases h.2; exact .refl _ _
  | find_prior_send address amount_sat => cases h.1; exact .refl _ _
  | _ => cases h; exact .refl _ _

theorem exec_quiet {c : Cmd} {w w' : World} {r : Except Exc c.Ret} (hc : c.isQuiet = true)
    (h : exec c w r w') : w' = w := by
  cases c with
  | set _ _ => exact absurd hc (by simp [Cmd.isQuiet])
  | mark_spawn_started _ => exact absurd hc (by simp [Cmd.isQuiet])
  | mark_spawn_completed _ _ => exact absurd hc (by simp [Cmd.isQuiet])
  | create_tasks => exact absurd hc (by simp [Cmd.isQuiet])
  | generate_token => exact absurd hc (by simp [Cmd.isQuiet])
  | create_invoice _ _ _ => exact absurd hc (by simp [Cmd.isQuiet])
  | wallet_send _ _ _ => exact absurd hc (by simp [Cmd.isQuiet])
  | launch_server _ _ _ => exact absurd hc (by simp [Cmd.isQuiet])
  | get k => exact h.1
  | time => exact h.2
  | find_prior_send _ _ => exact h.1
  | _ => exact h

/-- An operation that is awaited does not touch the rows. -/
theorem exec_await_store {c : Cmd} {w w' : World} {r : Except Exc c.Ret} (hc : c.isAwait = true)
    (h : exec c w r w') : w'.store = w.store := by
  funext k
  refine (exec_frame h).store k fun hk => ?_
  cases c with
  | set _ _ => exact absurd hc (by simp [Cmd.isAwait])
  | mark_spawn_started _ => exact absurd hc (by simp [Cmd.isAwait])
  | mark_spawn_completed _ _ => exact absurd hc (by simp [Cmd.isAwait])
  | _ => exact hk

/-! ## Signals and restarts -/

/-- Time passes, or a signal arrives; `ok` says where one may abandon a spawn. -/
def Signal (cfg : Config) (ok : World → Prop) (w w' : World) : Prop :=
  (∃ t, w.now ≤ t ∧ w' = { w with now := t }) ∨
    ((Abandons cfg w → ok w) ∧ w' = _handle_shutdown cfg w)

/-- A signal leaves the log alone; it leaves the rows alone too, or it clears the spawn
and cancels the decision loop. -/
structure Signalled (ok : World → Prop) (w w' : World) : Prop where
  log : w'.log = w.log
  tasks : w'.tasks = w.tasks
  cancelled : w.cancelled = true → w'.cancelled = true
  rows : w'.store = w.store ∨
    (ok w ∧ w'.store.is_spawn_in_progress = false ∧ w'.store.Clean ∧
      (w.tasks = true → w'.cancelled = true))

theorem Signal.signalled {cfg : Config} {ok : World → Prop} {w w' : World}
    (h : Signal cfg ok w w') : Signalled ok w w' := by
  rcases h with ⟨t, -, rfl⟩ | ⟨hok, rfl⟩
  · exact ⟨rfl, rfl, id, .inl rfl⟩
  · by_cases ha : Abandons cfg w
    · rw [_handle_shutdown_of_abandons ha]
      refine ⟨rfl, rfl, fun hc => by simp [World.initiate_shutdown, World.completed, hc], .inr ?_⟩
      refine ⟨hok ha, Store.in_progress_mark_spawn_completed .., ?_, ?_⟩
      · exact Store.clean_mark_spawn_completed w.store false "" w.now
      · intro ht
        simp [World.initiate_shutdown, World.completed, ht]
    · rcases _handle_shutdown_of_not_abandons ha with h | ⟨-, h⟩
      · rw [h]
        exact ⟨rfl, rfl, id, .inl rfl⟩
      · rw [h]
        exact ⟨rfl, rfl, fun hc => by simp [World.initiate_shutdown, hc], .inl rfl⟩

/-- A new process, at a later time, over the same rows. -/
def Restart (w w' : World) : Prop :=
  ∃ t, w.now ≤ t ∧ w' = { w with now := t, running := true, tasks := false, cancelled := false }

/-- Which runs one looks at. -/
structure Regime where
  /-- Which answers an operation can give. -/
  answers : (c : Cmd) → World → Except Exc c.Ret → Prop
  /-- Where a signal may abandon a spawn. -/
  abandons : Proc Cmd Cmd.Ret Exc → World → Prop

/-- Every run. -/
def anyRun : Regime where
  answers _ _ _ := True
  abandons _ _ := True

end Superorganism.Spawn
