/-
The spawn pipeline as programs over `Cmd`: `modules/spawning/spawn_identity.py`,
`spawn_provision.py`, `spawn_deploy.py`, `spawn_transfer.py` and `deployer.py`, and
the decision loop that runs it (`modules/orchestration/decision_loop.py`,
`failsafe.py`, `topup.py`, the start of `main.py`).

Each function has the source's name and its order of operations; logging is left out.
A handler written `except Exception` catches every `Exc` here, because cancellation is
not an `Exc`: it ends the program where it stands. The branches for a stored blob of
the wrong shape (`TypeError` in `_load_stored_identity` and `_load_stored_vps`) have no
counterpart, since the rows are typed.

`_wait_for_credit` polls until the clock says stop. Its rounds are counted by
`Setup.polls`; every run of the source is a run for some such number.
-/
import Superorganism.SpawnCalls

set_option autoImplicit false

open Superorganism.Process Superorganism.Process.Prog

namespace Superorganism.Spawn

/-- The configuration, with the functions the pipeline calls whose results the
development leaves open: the first two compute in floating point. -/
structure Setup extends Config where
  compute_child_share : ℤ → ℤ
  check_spawn_eligibility : NodeState → ℚ → Bool
  parse_bitcoin_uri : String → Except Exc (Option (String × ℤ))
  /-- `repr` of a list of machine ids. -/
  repr : List (Option String) → String
  /-- How often `_wait_for_credit` asks at most. -/
  polls : ℕ

abbrev Coro (α : Type) : Type := Prog Cmd Cmd.Ret Exc α

abbrev perform (c : Cmd) : Coro c.Ret := Prog.call c

variable (cfg : Setup)

/-- `if not b: raise e`. -/
def require (b : Bool) (e : Exc) : Coro Unit := if b then pure () else raise e

/-! ## Reading `NodePersistentState` -/

def is_spawn_in_progress : Coro Bool := do
  let value ← perform (.get .spawn_in_progress)
  pure (value.getD false)

def is_failsafe_in_progress : Coro Bool := do
  let value ← perform (.get .failsafe_in_progress)
  pure (value.getD false)

def get_spawn_id : Coro String := do
  let value ← perform (.get .spawn_id)
  pure (value.getD "")

def get_caution_trait : Coro ℚ := do
  let value ← perform (.get .caution_trait)
  pure (value.getD (1 / 2))

/-! ## `spawn_identity.py` -/

def _POLL_INTERVAL : ℚ := 30
def _POLL_TIMEOUT : ℚ := 1800
def _INVOICE_EXPIRY_SAFETY_MARGIN_SECONDS : ℤ := 60
def _INVOICE_DEFAULT_LIFETIME_SECONDS : ℤ := 600
def _MAX_FUNDING_ATTEMPTS : ℕ := 5

/-- The loop of `_wait_for_credit`, at most `n` rounds. -/
def wait_for_credit_loop (sporestack_token : String) (start : ℚ) : ℕ → Coro ℤ
  | 0 => raise (.SpawnError "identity" "Timeout (1800s) waiting for SporeStack credit to land")
  | n + 1 => do
    let now ← perform .time
    if now - start < _POLL_TIMEOUT then do
      let balance ← perform (.get_balance .poll sporestack_token)
      let cents : ℤ := balance.getD 0
      if 0 < cents then pure cents
      else do
        perform (.sleep _POLL_INTERVAL)
        wait_for_credit_loop sporestack_token start n
    else raise (.SpawnError "identity" "Timeout (1800s) waiting for SporeStack credit to land")

def _wait_for_credit (sporestack_token : String) : Coro ℤ := do
  let start ← perform .time
  wait_for_credit_loop sporestack_token start cfg.polls

def _rehydrate_child_wallet (blob : Option ChildWallet) (spawn_id : String) :
    Option (String × String) :=
  match blob with
  | none => none
  | some blob =>
    if blob.spawn_id ≠ spawn_id then none
    else if blob.btc_mnemonic = "" ∨ blob.btc_address = "" then none
    else some (blob.btc_mnemonic, blob.btc_address)

def _rehydrate_sporestack_token (blob : Option SpawnToken) (spawn_id : String) : Option String :=
  match blob with
  | none => none
  | some blob =>
    if blob.spawn_id ≠ spawn_id then none
    else if blob.sporestack_token = "" then none
    else some blob.sporestack_token

/-- When an intent stops being good for a broadcast, if it says so. -/
def FundingIntent.deadline (intent : FundingIntent) : Option ℤ :=
  match intent.expires with
  | some expires => some (expires - _INVOICE_EXPIRY_SAFETY_MARGIN_SECONDS)
  | none => intent.created.map fun created =>
      created + _INVOICE_DEFAULT_LIFETIME_SECONDS - _INVOICE_EXPIRY_SAFETY_MARGIN_SECONDS

def _intent_is_live (intent : FundingIntent) : Coro Bool :=
  match intent.deadline with
  | none => pure false
  | some deadline => do
    let now ← perform .time
    pure (decide (now < deadline))

/-- The dollars of an invoice over `cents`: `max(minimum, ceil(cents / 100))`. -/
def invoiceDollars (minimum cents : ℤ) : ℤ := max minimum (-((-cents) / 100))

/-- `int(monthly_cents * TOPUP_TARGET_DAYS / 30)`, exact as long as the product is an
exact float. -/
def targetCents (monthly_cents : ℤ) : ℤ := (monthly_cents * cfg.TOPUP_TARGET_DAYS).tdiv 30

/-- What `_mint_funding_invoice` makes of the response. -/
def intent_of_response (spawn_id sporestack_token : String) (response : Option InvoiceResponse) :
    Coro FundingIntent :=
  match response with
  | none => raise (.SpawnError "identity" "create_invoice returned None")
  | some response =>
    let invoice := response.invoice.getD response.toInvoice
    match cfg.parse_bitcoin_uri invoice.payment_uri with
    | .error e => raise e
    | .ok none =>
      raise (.SpawnError "identity" ("Cannot parse payment URI: " ++ response.repr))
    | .ok (some (pay_address, amount_sat)) =>
      pure { spawn_id, sporestack_token, pay_address, amount_sat,
             created := invoice.created, expires := invoice.expires }

def _mint_funding_invoice (spawn_id sporestack_token : String) : Coro FundingIntent := do
  let stored ← perform (.get .spawn_funding_attempts)
  let attempts : ℕ := stored.getD 0
  require (decide (attempts < _MAX_FUNDING_ATTEMPTS))
    (.SpawnError "identity" ("Max funding attempts (5) reached for spawn_id=" ++ spawn_id))
  -- counted before the request, so that a crash between the two costs an attempt
  perform (.set .spawn_funding_attempts (attempts + 1 : ℕ))
  let monthly_cents ← perform (.calculate_monthly_vps_cost cfg.VPS_PROVIDER)
  let needed_dollars :=
    invoiceDollars cfg.SPORESTACK_MIN_INVOICE_DOLLARS (targetCents cfg monthly_cents)
  let response ←
    perform (.create_invoice (.funding spawn_id sporestack_token) sporestack_token needed_dollars)
  let intent ← intent_of_response cfg spawn_id sporestack_token response
  perform (.set .spawn_funding_intent intent)
  pure intent

def _check_parent_balance (amount_sat : ℤ) : Coro Unit := do
  let wallet_sat ← perform .get_balance_satoshis
  let needed := amount_sat + cfg.SPAWN_FEE_BUFFER_SAT
  require (decide (needed ≤ wallet_sat))
    (.SpawnError "identity"
      (s!"Insufficient parent BTC: have {wallet_sat} sat, need {amount_sat} sat "
        ++ s!"+ {cfg.SPAWN_FEE_BUFFER_SAT} sat fee buffer ({needed} sat total)"))

/-- The end of `_fund_sporestack_token`, which the source has once for a retry and once
for a fresh funding, with different messages. -/
def pay_invoice (spawn_id sporestack_token : String) (expired failed : String)
    (intent : FundingIntent) : Coro Unit := do
  _check_parent_balance cfg intent.amount_sat
  let live ← _intent_is_live intent
  require live (.SpawnError "identity" expired)
  let txid ←
    (perform (.wallet_send (.funding spawn_id sporestack_token) intent.pay_address
      intent.amount_sat)).tryCatch fun e => raise (.SpawnError "identity" (failed ++ e.str))
  -- a crash before this leaves an intent without a txid, for `resume_funding`
  perform (.set .spawn_funding_txid txid)

/-- Mode B of `_fund_sporestack_token`: an intent without a txid. -/
def resume_funding (spawn_id sporestack_token : String) (intent : FundingIntent) : Coro Unit := do
  let prior_txid ← perform (.find_prior_send intent.pay_address intent.amount_sat)
  if truthy prior_txid then perform (.set .spawn_funding_txid (prior_txid.getD ""))
  else do
    let balance ← perform (.get_balance .reconcile sporestack_token)
    -- credit on the token says that an earlier payment arrived
    if 0 < (balance.getD 0 : ℤ) then do
      let now ← perform .time
      perform (.set .spawn_funding_txid ("reconciled-from-balance-" ++ toString ⌊now⌋))
    else do
      let live ← _intent_is_live intent
      let intent' ←
        (if live then pure intent else _mint_funding_invoice cfg spawn_id sporestack_token)
      pay_invoice cfg spawn_id sporestack_token
        "Invoice expired between balance-check and broadcast on retry; next attempt will mint a fresh one"
        "Invoice payment retry failed: " intent'

/-- Mode C of `_fund_sporestack_token`: nothing persisted. -/
def fresh_funding (spawn_id sporestack_token : String) : Coro Unit := do
  let intent ← _mint_funding_invoice cfg spawn_id sporestack_token
  pay_invoice cfg spawn_id sporestack_token
    "Invoice expired between creation and broadcast; next attempt will mint a fresh one"
    "Invoice payment failed: " intent

/-- The stored intent, if it is one of this spawn and this token. -/
def matching_intent (intent : Option FundingIntent) (spawn_id sporestack_token : String) :
    Option FundingIntent :=
  intent.filter fun intent =>
    intent.spawn_id = spawn_id ∧ intent.sporestack_token = sporestack_token

def _fund_sporestack_token (spawn_id sporestack_token : String) : Coro Unit := do
  let existing_txid ← perform (.get .spawn_funding_txid)
  if truthy existing_txid then pure ()
  else do
    let intent ← perform (.get .spawn_funding_intent)
    match matching_intent intent spawn_id sporestack_token with
    | some intent => resume_funding cfg spawn_id sporestack_token intent
    | none => fresh_funding cfg spawn_id sporestack_token

def obtain_child_wallet (spawn_id : String) : Coro (String × String) := do
  let blob ← perform (.get .spawn_child_wallet)
  match _rehydrate_child_wallet blob spawn_id with
  | some wallet => pure wallet
  | none => do
    let wallet ← (perform (.generate_child_btc_wallet spawn_id)).tryCatch fun e =>
      raise (.SpawnError "identity" ("Child BTC wallet generation failed: " ++ e.str))
    perform (.set .spawn_child_wallet
      { spawn_id, btc_mnemonic := wallet.1, btc_address := wallet.2 })
    pure wallet

def obtain_sporestack_token (spawn_id : String) : Coro String := do
  let blob ← perform (.get .spawn_sporestack_token)
  match _rehydrate_sporestack_token blob spawn_id with
  | some sporestack_token => pure sporestack_token
  | none => do
    let minted ← perform .generate_token
    require (truthy minted) (.SpawnError "identity" "generate_token returned None")
    let sporestack_token : String := minted.getD ""
    -- a crash before this loses the token, and the resumed spawn mints another
    perform (.set .spawn_sporestack_token { spawn_id, sporestack_token })
    pure sporestack_token

def prepare_child_identity (spawn_id : String) : Coro ChildIdentity := do
  let ps ← perform (.initialised .state)
  require ps (.SpawnError "identity" "persistent state not initialised")
  let key ← (perform (.generate_ssh_keypair (cfg.DATA_DIR ++ "/spawn/" ++ spawn_id ++ "/ssh/id_ed25519")
    ("mycelium-" ++ spawn_id))).tryCatch fun e =>
      raise (.SpawnError "identity" ("SSH keypair generation failed: " ++ e.str))
  let wallet ← obtain_child_wallet spawn_id
  let sporestack_token ← obtain_sporestack_token spawn_id
  let parent ← perform (.initialised .wallet)
  require parent (.SpawnError "identity" "Parent wallet not initialized")
  _fund_sporestack_token cfg spawn_id sporestack_token
  let funded_cents ← _wait_for_credit cfg sporestack_token
  pure { spawn_id, sporestack_token, ssh_private_key_path := key.1, ssh_public_key := key.2,
         btc_mnemonic := wallet.1, btc_address := wallet.2, funded_cents }

/-! ## `spawn_provision.py` -/

/-- `(ipv4, ipv6, host)`. -/
def _pick_host (server : Server) : String × String × Option String :=
  let ipv4 := server.ipv4.getD ""
  let ipv6 := server.ipv6.getD ""
  let host :=
    if ipv4 ≠ "" ∧ ipv4 ≠ "0.0.0.0" then some ipv4
    else if ipv6 ≠ "" ∧ ipv6 ≠ "::" then some ipv6 else none
  (ipv4, ipv6, host)

/-- `s` as an operand of `or`: a number that is zero counts as absent. -/
def Stamp.orElse (s : Option Stamp) (other : Option Stamp) : Option Stamp :=
  match s with
  | none => other
  | some (.number 0) => other
  | some s => some s

def _created_at (s : Server) : ℤ :=
  match Stamp.orElse s.created_at (Stamp.orElse s.created none) with
  | none => 0
  | some (.number n) => n
  | some (.text parsed) => parsed.getD 0

/-- What `_adopt_orphan_server` makes of the servers it is told of. -/
def pick_orphan (servers : List Server) : Coro (Option Server) :=
  if 1 < servers.length ∧ servers.all (fun s => _created_at s = 0) then
    raise (.SpawnError "provision"
      ("multiple orphan servers under token but no usable created_at timestamp to "
        ++ "disambiguate; refusing to guess. machine_ids="
        ++ cfg.repr (servers.map (·.machine_id))))
  else pure (servers.mergeSort fun s s' => _created_at s ≤ _created_at s').getLast?

def _adopt_orphan_server (sporestack_token : String) : Coro (Option Server) := do
  let servers ← (perform (.get_servers sporestack_token)).tryCatch fun e =>
    match e with
    | .SporeStackError message => raise (.SpawnError "provision"
        ("orphan check failed (cannot distinguish 'no servers' from API outage): " ++ message))
    | e => raise e
  pick_orphan cfg servers

/-- The write-ahead intent and the launch. -/
def launch_child_vps (identity : ChildIdentity) : Coro String := do
  perform (.set .spawn_vps_intent
    { spawn_id := identity.spawn_id, sporestack_token := identity.sporestack_token })
  let machine_id ←
    perform (.launch_server identity.sporestack_token identity.ssh_public_key identity.spawn_id)
  require (truthy machine_id) (.SpawnError "provision" "launch_server returned no machine_id")
  pure (machine_id.getD "")

def adopted_machine (server : Server) : Coro String := do
  require (truthy server.machine_id) (.SpawnError "provision" "adopted server has no machine_id")
  pure (server.machine_id.getD "")

/-- The machine of this spawn: adopted if one is found, else launched. -/
def obtain_machine (identity : ChildIdentity) : Coro String := do
  let intent ← perform (.get .spawn_vps_intent)
  let server ←
    (if intent = some { spawn_id := identity.spawn_id,
                        sporestack_token := identity.sporestack_token } then
      _adopt_orphan_server cfg identity.sporestack_token
    else pure none)
  match server with
  | none => launch_child_vps identity
  | some server => adopted_machine server

/-- The record of a machine that is ready. -/
def vps_info_of (identity : ChildIdentity) (machine_id : String) (server : Option Server) :
    Coro ChildVpsInfo :=
  match server with
  | none => raise (.SpawnError "provision" s!"machine {machine_id} not ready within timeout")
  | some server =>
    match _pick_host server with
    | (_, _, none) => raise (.SpawnError "provision" s!"machine {machine_id} has no usable IPv4/IPv6")
    | (ipv4, ipv6, some host) =>
      pure { spawn_id := identity.spawn_id, machine_id, host, ipv4, ipv6,
             ssh_port := server.ssh_port.getD 22, ssh_key_path := identity.ssh_private_key_path }

def provision_child_vps (identity : ChildIdentity) : Coro ChildVpsInfo := do
  let ps ← perform (.initialised .state)
  require ps (.SpawnError "provision" "persistent state not initialised")
  let machine_id ← obtain_machine cfg identity
  let server ← perform (.wait_for_server_ready identity.sporestack_token machine_id)
  let vps_info ← vps_info_of identity machine_id server
  perform (.set .spawn_vps_info vps_info)
  pure vps_info

/-! ## `spawn_deploy.py` -/

def _POST_START_SETTLE_SECONDS : ℚ := 15

def deploy_steps (vps_info : ChildVpsInfo) : Coro Unit := do
  perform (.deploy (.connect vps_info.host vps_info.ssh_port))
  perform (.deploy .install_dependencies)
  perform (.deploy .setup_firewall)
  perform (.deploy .deploy_mycelium)
  perform (.deploy .deploy_video_ids)
  perform (.deploy .deploy_cookies)

def deploy_child_code (identity : ChildIdentity) (vps_info : ChildVpsInfo) : Coro Unit :=
  if cfg.SIM_MODE then pure ()
  else (deploy_steps vps_info).tryCatch fun e => do
    perform (.deploy .disconnect)
    raise (.SpawnError "deploy"
      ("Child code deployment failed for " ++ identity.spawn_id ++ ": " ++ e.str))

def boot_steps (identity : ChildIdentity) (child_caution : ℚ) : Coro Unit := do
  perform (.deploy (.start_orchestrator child_caution identity.btc_mnemonic identity.sporestack_token))
  perform (.sleep _POST_START_SETTLE_SECONDS)
  let healthy ← perform .check_health
  require healthy (.SpawnError "boot" "Child orchestrator crashed within 15s of boot")

def boot_child_orchestrator (identity : ChildIdentity) (parent_caution_trait : ℚ) : Coro ℚ := do
  let child_caution ← perform (.mutate_caution_trait parent_caution_trait)
  (boot_steps identity child_caution).tryCatch fun e =>
    match e with
    | .SpawnError step message => raise (.SpawnError step message)
    | e => raise (.SpawnError "boot"
        ("Child orchestrator boot failed for " ++ identity.spawn_id ++ ": " ++ e.str))
  pure child_caution

/-! ## `spawn_transfer.py` -/

def _DUST_THRESHOLD_SAT : ℤ := 546
def _SCAN_RETRY_ATTEMPTS : ℕ := 5
def _SCAN_RETRY_DELAY : ℚ := 2

/-- The scan loop, with `n + 1` attempts left. -/
def scan_loop (spawn_id : String) : ℕ → Coro Unit
  | 0 => (perform .wallet_scan).tryCatch fun e => raise (.SpawnError "transfer"
      ("Pre-transfer wallet scan failed for " ++ spawn_id ++ " after 5 attempts: " ++ e.str))
  | n + 1 => do
    let ok ← (do perform .wallet_scan; pure true : Coro Bool).tryCatch fun _ => do
      perform (.sleep _SCAN_RETRY_DELAY)
      pure false
    if ok then pure () else scan_loop spawn_id n

/-- A persisted intent without a txid: look for the payment, never send again. -/
def reconcile_transfer (identity : ChildIdentity) (intent : TransferIntent) : Coro String := do
  let prior_txid ← perform (.find_prior_send intent.child_btc_address intent.amount_sat)
  if truthy prior_txid then do
    let txid : String := prior_txid.getD ""
    perform (.set .spawn_transfer_txid txid)
    perform (.mark_spawn_completed true identity.btc_address)
    pure txid
  else raise (.SpawnError "transfer"
    "Inheritance reconcile inconclusive after 90s; manual review required")

/-- The write-ahead intent and the payment. -/
def send_inheritance (identity : ChildIdentity) (child_share_sat : ℤ) : Coro String := do
  perform (.set .spawn_transfer_intent
    { spawn_id := identity.spawn_id, child_btc_address := identity.btc_address,
      amount_sat := child_share_sat })
  let txid ←
    (perform (.wallet_send (.inheritance identity.spawn_id) identity.btc_address
      child_share_sat)).tryCatch fun e => raise (.SpawnError "transfer"
        ("Inheritance transfer failed for " ++ identity.spawn_id ++ ": " ++ e.str))
  perform (.set .spawn_transfer_txid txid)
  perform (.mark_spawn_completed true identity.btc_address)
  pure txid

/-- No intent persisted: size the inheritance and send it. -/
def fresh_transfer (identity : ChildIdentity) (node_state : NodeState) : Coro String := do
  scan_loop identity.spawn_id (_SCAN_RETRY_ATTEMPTS - 1)
  let available_sat ← perform .get_balance_satoshis
  let spendable_sat := max 0 (available_sat - cfg.SPAWN_FEE_BUFFER_SAT)
  let child_share_sat := min (cfg.compute_child_share node_state.btc_balance_sat) spendable_sat
  if child_share_sat ≤ _DUST_THRESHOLD_SAT then do
    perform (.mark_spawn_completed true identity.btc_address)
    pure ""
  else send_inheritance identity child_share_sat

def transfer_inheritance (identity : ChildIdentity) (node_state : NodeState) : Coro String := do
  let ps ← perform (.initialised .state)
  let wallet ← perform (.initialised .wallet)
  require ps (.SpawnError "transfer" "NodePersistentState not initialised")
  require wallet (.SpawnError "transfer" "SpendingWallet not initialised")
  let stored ← perform (.get .spawn_transfer_txid)
  if truthy stored then do
    perform (.mark_spawn_completed true identity.btc_address)
    pure (stored.getD "")
  else do
    let intent ← perform (.get .spawn_transfer_intent)
    match intent.filter (fun intent => intent.spawn_id = identity.spawn_id) with
    | some intent => reconcile_transfer identity intent
    | none => fresh_transfer cfg identity node_state

/-! ## `deployer.py` -/

def obtain_identity (spawn_id : String) : Coro ChildIdentity := do
  let blob ← perform (.get .spawn_identity)
  match blob.filter (fun blob => blob.spawn_id = spawn_id) with
  | some identity => pure identity
  | none => do
    let identity ← prepare_child_identity cfg spawn_id
    perform (.set .spawn_identity identity)
    pure identity

def obtain_vps (spawn_id : String) (identity : ChildIdentity) : Coro ChildVpsInfo := do
  let blob ← perform (.get .spawn_vps_info)
  match blob.filter (fun blob => blob.spawn_id = spawn_id) with
  | some vps_info => pure vps_info
  | none => provision_child_vps cfg identity

/-- `_safe_disconnect`. -/
def _safe_disconnect : Coro Unit :=
  (perform (.deploy .disconnect)).tryCatch fun _ => pure ()

/-- What follows the deployment. From here on `ssh_deployer` is bound, and the `finally`
clause disconnects whatever happens. -/
def finish_spawn (node_state : NodeState) (caution_trait : ℚ) (identity : ChildIdentity) :
    Coro Bool := do
  let success ← (do
    let _ ← boot_child_orchestrator identity caution_trait
    let _ ← transfer_inheritance cfg identity node_state
    pure true : Coro Bool).tryCatch fun _ => pure false
  _safe_disconnect
  pure success

def spawn_steps (node_state : NodeState) (caution_trait : ℚ) (spawn_id : String) : Coro Bool := do
  let identity ← obtain_identity cfg spawn_id
  let vps_info ← obtain_vps cfg spawn_id identity
  deploy_child_code cfg identity vps_info
  finish_spawn cfg node_state caution_trait identity

def spawn_child (node_state : NodeState) (caution_trait : ℚ) (spawn_id : String) : Coro Bool := do
  let ps ← perform (.initialised .state)
  if ps then (spawn_steps cfg node_state caution_trait spawn_id).tryCatch fun _ => pure false
  else pure false

/-! ## `failsafe.py` and `topup.py` -/

/-- `max(peers, key=...)`: the first of the richest. -/
def select_best_peer : List PeerInfo → Option PeerInfo
  | [] => none
  | peer :: peers =>
    some (peers.foldl (fun best p => if best.btc_balance_sat < p.btc_balance_sat then p else best)
      peer)

def _sweep_funds (target_address : String) (fallback_used : Bool) : Coro Unit := do
  let wallet ← perform (.initialised .wallet)
  require wallet (.other "Wallet not initialized — cannot sweep")
  let ps ← perform (.initialised .state)
  let _ ← (perform (.sweep_all target_address)).tryCatch fun e =>
    if ¬ fallback_used ∧ cfg.DEFAULT_BTC_ADDRESS ≠ "" then
      perform (.sweep_all cfg.DEFAULT_BTC_ADDRESS)
    else raise e
  require ps (.other "Persistent state not initialized")
  perform (.set .failsafe_in_progress false)

/-- `mark_failsafe_started` and the sweep. -/
def start_failsafe (target_address : String) (fallback_used : Bool) : Coro Unit := do
  let ps ← perform (.initialised .state)
  (if ps then perform (.set .failsafe_in_progress true) else pure ())
  _sweep_funds cfg target_address fallback_used

def execute_failsafe (peers : List PeerInfo) : Coro Unit :=
  match select_best_peer peers with
  | some best => start_failsafe cfg best.btc_address false
  | none =>
    if cfg.DEFAULT_BTC_ADDRESS ≠ "" then start_failsafe cfg cfg.DEFAULT_BTC_ADDRESS true
    else pure ()

def _SS_MIN_INVOICE_DOLLARS : ℤ := 5

/-- The payment of a top-up: every failure is logged and swallowed. -/
def pay_topup (address : String) (amount_sat : ℤ) : Coro Unit := do
  let wallet ← perform (.initialised .wallet)
  if wallet then do
    let wallet_sat ← perform .get_balance_satoshis
    if wallet_sat < amount_sat then pure ()
    else do
      let _ ← (perform (.wallet_send .topup address amount_sat)).tryCatch fun _ => pure ""
      pure ()
  else pure ()

def topup_with_token (node_state : NodeState) (token : String) : Coro Unit := do
  let monthly_cost_cents ← perform (.calculate_monthly_vps_cost
    (if node_state.vps_provider = "" then cfg.VPS_PROVIDER else node_state.vps_provider))
  let needed_cents := targetCents cfg monthly_cost_cents - node_state.sporestack_balance_cents
  if needed_cents ≤ 0 then pure ()
  else do
    let response ←
      perform (.create_invoice .topup token (invoiceDollars _SS_MIN_INVOICE_DOLLARS needed_cents))
    match response with
    | none => pure ()
    | some response =>
      match cfg.parse_bitcoin_uri (response.invoice.getD response.toInvoice).payment_uri with
      | .error e => raise e
      | .ok none => pure ()
      | .ok (some (address, amount_sat)) => pay_topup address amount_sat

def topup_sporestack (node_state : NodeState) : Coro Unit := do
  let token ← perform .read_token_file
  match token with
  | none => pure ()
  | some token => topup_with_token cfg node_state token

/-! ## `decision_loop.py` -/

/-- The loop of `_wait_for_node_state`. -/
def wait_loop : ℕ → Coro Bool
  | 0 => pure false
  | n + 1 => do
    let state ← perform .get_state
    if 0 < state.last_updated then pure true
    else do
      perform (.sleep 1)
      wait_loop n

def _wait_for_node_state : Coro Bool := do
  let monitor ← perform (.initialised .node_monitor)
  if monitor then wait_loop 300 else pure false

def recover_spawn : Coro Unit := do
  let spawn_id ← get_spawn_id
  -- nothing says which spawn to resume: the rows are cleared
  if spawn_id = "" then perform (.mark_spawn_completed false "")
  else do
    let ready ← _wait_for_node_state
    let monitor ← (if ready then perform (.initialised .node_monitor) else pure false)
    if monitor then do
      let node_state ← perform .get_state
      let caution_trait ← get_caution_trait
      let _ ← spawn_child cfg node_state caution_trait spawn_id
      pure ()
    else pure ()

def recover_failsafe : Coro Unit := do
  let ready ← _wait_for_node_state
  let monitor ← (if ready then perform (.initialised .node_monitor) else pure false)
  if monitor then do
    let _ ← perform .get_state
    let registry ← perform (.initialised .peer_registry)
    let live_peers ← (if registry then perform .get_live_peers else pure [])
    (execute_failsafe cfg live_peers).tryCatch fun _ => pure ()
  else pure ()

def _handle_recovery : Coro Unit := do
  let ps ← perform (.initialised .state)
  if ps then do
    let spawning ← is_spawn_in_progress
    if spawning then recover_spawn cfg
    else do
      let failing ← is_failsafe_in_progress
      if failing then recover_failsafe cfg else pure ()
  else pure ()

/-- The end of `_tick`: start a spawn if the node can afford one. -/
def decide_spawn (node_state : NodeState) (caution_trait : ℚ) : Coro Unit :=
  if cfg.check_spawn_eligibility node_state caution_trait then do
    let hex ← perform .uuid4_hex
    let spawn_id := "spawn-" ++ String.ofList (hex.toList.take 8)
    perform (.mark_spawn_started spawn_id)
    let _ ← spawn_child cfg node_state caution_trait spawn_id
    pure ()
  else pure ()

/-- The top-up of `_tick`: the node state to go on with, or nothing if it failed. -/
def topup_and_refresh (node_state : NodeState) : Coro (Option NodeState) :=
  (do
    topup_sporestack cfg node_state
    perform .refresh
    let node_state ← perform .get_state
    pure (some node_state) : Coro (Option NodeState)).tryCatch fun _ => pure none

/-- What a tick does once it knows the runway and that nothing is in progress. -/
def act (node_state : NodeState) (days_remaining : ℤ) (caution_trait : ℚ)
    (live_peers : List PeerInfo) : Coro Unit :=
  if node_state.total_runway_days.getD days_remaining < cfg.FAILSAFE_TRIGGER_DAYS then
    (execute_failsafe cfg live_peers).tryCatch fun _ => pure ()
  else do
    -- a top-up that fails ends the round without a decision on spawning
    let current ←
      (if days_remaining < cfg.TOPUP_TRIGGER_DAYS then topup_and_refresh cfg node_state
      else pure (some node_state))
    match current with
    | none => pure ()
    | some node_state => decide_spawn cfg node_state caution_trait

/-- `_tick` from the reading of the persisted flags on. -/
def tick_with (node_state : NodeState) (days_remaining : ℤ) : Coro Unit := do
  let caution_trait ← get_caution_trait
  let live_peers ← perform .get_live_peers
  let spawning ← is_spawn_in_progress
  if spawning then pure ()
  else do
    let failing ← is_failsafe_in_progress
    if failing then pure () else act cfg node_state days_remaining caution_trait live_peers

def _tick : Coro Unit := do
  let ps ← perform (.initialised .state)
  let monitor ← perform (.initialised .node_monitor)
  let registry ← perform (.initialised .peer_registry)
  if ps && monitor && registry then do
    let node_state ← perform .get_state
    -- the monitor has not read the node yet
    if node_state.last_updated = 0 then pure ()
    else match node_state.days_remaining with
      | none => pure ()
      | some days_remaining => tick_with cfg node_state days_remaining
  else pure ()

/-! ## `main.py` -/

/-- The first boot gives the node its caution trait. -/
def initialise_caution : Coro Unit := do
  let stored ← perform (.get .caution_trait)
  match stored with
  | none => perform (.set .caution_trait cfg.INITIAL_CAUTION_TRAIT)
  | some _ => pure ()

/-- The seeding subsystem, which `SIM_MODE` skips. -/
def start_seeding : Coro Unit :=
  if cfg.SIM_MODE then pure ()
  else do
    perform .download_content
    let ok ← perform .initialize_seedbox
    require ok .SystemExit

/-- From the start of the process to the end of `_handle_recovery`. -/
def boot : Coro Unit := do
  initialise_caution cfg
  start_seeding cfg
  perform .create_tasks
  _handle_recovery cfg

/-- The node under a regime. -/
def machine (reg : Regime) : Machine Cmd Cmd.Ret Exc World where
  exec c w r w' := exec c w r w' ∧ reg.answers c w r
  interrupted c w := c.isAwait = true ∧ w.cancelled = true
  signal p := Signal cfg.toConfig (reg.abandons p)
  restart := Restart
  boot := boot cfg
  tick := _tick cfg
  ticking w := w.running = true ∧ w.tasks = true

end Superorganism.Spawn
