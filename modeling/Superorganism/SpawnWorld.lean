/-
What a mycelium node shares with its spawn pipeline: the key-value rows of
`modules/core/state.py`, the signal handler of `main.py`, and the services the
pipeline calls (wallet, SporeStack, SSH).

The rows are a total function from keys to optional values, each key with the type of
what is stored under it. Every call on `NodePersistentState` is one committed
transaction: it takes effect as a whole, or raises and leaves the rows as they were.

An operation of the pipeline is a `Cmd`. A synchronous one runs on the event loop's
thread; an awaited one runs elsewhere and hands control back. `_handle_shutdown` runs
between any two operations. Once it has cancelled the tasks the next await raises
`CancelledError`, which no handler of the pipeline catches, while the call handed to
the thread may still go through: such an await is `interrupted`. All that is left to
run then is the `finally` clause that closes the SSH connection.

`World.log` is not part of the program. It records what the node does to the outside
world, so that "at most one payment" can be said.
-/
import Mathlib.Algebra.Order.Ring.Rat
import Mathlib.Data.Rat.Floor
import Mathlib.Logic.Function.Basic
import Superorganism.Process

set_option autoImplicit false

open Superorganism.Process

namespace Superorganism.Spawn

/-! ## The rows of `NodePersistentState` -/

structure ChildIdentity where
  spawn_id : String
  sporestack_token : String
  ssh_private_key_path : String
  ssh_public_key : String
  btc_mnemonic : String
  btc_address : String
  funded_cents : ℤ
deriving DecidableEq, Repr

structure ChildVpsInfo where
  spawn_id : String
  machine_id : String
  host : String
  ipv4 : String
  ipv6 : String
  ssh_port : ℤ
  ssh_key_path : String
deriving DecidableEq, Repr

structure ChildWallet where
  spawn_id : String
  btc_mnemonic : String
  btc_address : String
deriving DecidableEq, Repr

/-- The value of `spawn_sporestack_token` and of `spawn_vps_intent`: a token and the
spawn it belongs to. -/
structure SpawnToken where
  spawn_id : String
  sporestack_token : String
deriving DecidableEq, Repr

structure FundingIntent where
  spawn_id : String
  sporestack_token : String
  pay_address : String
  amount_sat : ℤ
  created : Option ℤ
  expires : Option ℤ
deriving DecidableEq, Repr

structure TransferIntent where
  spawn_id : String
  child_btc_address : String
  amount_sat : ℤ
deriving DecidableEq, Repr

/-- An entry of `spawn_history`. Only successful spawns are recorded. -/
structure SpawnRecord where
  spawn_id : String
  child_btc_address : String
  started_at : ℚ
  completed_at : ℚ
deriving DecidableEq, Repr

inductive Key where
  | spawn_in_progress
  | spawn_id
  | spawn_started_at
  | spawn_identity
  | spawn_vps_info
  | spawn_child_wallet
  | spawn_sporestack_token
  | spawn_funding_intent
  | spawn_funding_txid
  | spawn_funding_attempts
  | spawn_vps_intent
  | spawn_transfer_intent
  | spawn_transfer_txid
  | spawn_history
  | failsafe_in_progress
  | caution_trait
deriving DecidableEq, Repr

/-- What is stored under a key. -/
@[reducible] def Key.Val : Key → Type
  | spawn_in_progress => Bool
  | spawn_id => String
  | spawn_started_at => ℚ
  | spawn_identity => ChildIdentity
  | spawn_vps_info => ChildVpsInfo
  | spawn_child_wallet => ChildWallet
  | spawn_sporestack_token => SpawnToken
  | spawn_funding_intent => FundingIntent
  | spawn_funding_txid => String
  | spawn_funding_attempts => ℕ
  | spawn_vps_intent => SpawnToken
  | spawn_transfer_intent => TransferIntent
  | spawn_transfer_txid => String
  | spawn_history => List SpawnRecord
  | failsafe_in_progress => Bool
  | caution_trait => ℚ

/-- The table `state`. -/
abbrev Store : Type := (k : Key) → Option k.Val

namespace Store

def set (s : Store) (k : Key) (v : k.Val) : Store := Function.update s k (some v)

def delete (s : Store) (k : Key) : Store := Function.update s k none

def is_spawn_in_progress (s : Store) : Bool := (s .spawn_in_progress).getD false

def get_spawn_id (s : Store) : String := (s .spawn_id).getD ""

def get_spawn_started_at (s : Store) : ℚ := (s .spawn_started_at).getD 0

/-- `mark_spawn_started`, one transaction. -/
def mark_spawn_started (s : Store) (spawn_id : String) (now : ℚ) : Store :=
  ((s.set .spawn_in_progress true).set .spawn_id spawn_id).set .spawn_started_at now

end Store

def _SPAWN_KEYS_TO_CLEAR : List Key :=
  [.spawn_id, .spawn_started_at, .spawn_identity, .spawn_vps_info, .spawn_child_wallet,
    .spawn_sporestack_token, .spawn_funding_intent, .spawn_funding_txid,
    .spawn_funding_attempts, .spawn_vps_intent, .spawn_transfer_intent, .spawn_transfer_txid]

namespace Store

/-- `mark_spawn_completed`, one transaction. -/
def mark_spawn_completed (s : Store) (success : Bool) (child_btc_address : String) (now : ℚ) :
    Store :=
  let record : SpawnRecord :=
    { spawn_id := s.get_spawn_id, child_btc_address, started_at := s.get_spawn_started_at,
      completed_at := now }
  let flagged := s.set .spawn_in_progress false
  let recorded :=
    if success then flagged.set .spawn_history ((s .spawn_history).getD [] ++ [record]) else flagged
  _SPAWN_KEYS_TO_CLEAR.foldl delete recorded

@[simp] theorem set_self (s : Store) (k : Key) (v : k.Val) : s.set k v k = some v := by
  simp [set]

theorem set_of_ne (s : Store) {k k' : Key} (v : k.Val) (h : k' ≠ k) : s.set k v k' = s k' := by
  simp [set, h]

theorem foldl_delete (s : Store) (ks : List Key) (k : Key) :
    ks.foldl delete s k = if k ∈ ks then none else s k := by
  induction ks generalizing s with
  | nil => simp
  | cons k' ks ih =>
      rw [List.foldl_cons, ih]
      by_cases hk : k = k'
      · subst hk
        simp [delete]
      · simp [delete, hk]

/-- No row of a spawn is left. -/
def Clean (s : Store) : Prop := ∀ k ∈ _SPAWN_KEYS_TO_CLEAR, s k = none

instance (s : Store) : Decidable s.Clean :=
  decidable_of_iff (∀ k ∈ _SPAWN_KEYS_TO_CLEAR, (s k).isNone) (by simp [Clean])

theorem clean_mark_spawn_completed (s : Store) (success : Bool) (address : String) (now : ℚ) :
    (s.mark_spawn_completed success address now).Clean := by
  intro k hk
  rw [mark_spawn_completed, foldl_delete, if_pos hk]

@[simp] theorem in_progress_mark_spawn_completed (s : Store) (success : Bool) (address : String)
    (now : ℚ) : (s.mark_spawn_completed success address now).is_spawn_in_progress = false := by
  rw [is_spawn_in_progress, mark_spawn_completed, foldl_delete, if_neg (by decide)]
  cases success with
  | false => simp
  | true => simp [set_of_ne]

@[simp] theorem in_progress_mark_spawn_started (s : Store) (i : String) (now : ℚ) :
    (s.mark_spawn_started i now).is_spawn_in_progress = true := by
  simp [is_spawn_in_progress, mark_spawn_started, set_of_ne]

@[simp] theorem spawn_id_mark_spawn_started (s : Store) (i : String) (now : ℚ) :
    (s.mark_spawn_started i now).get_spawn_id = i := by
  simp [get_spawn_id, mark_spawn_started, set_of_ne]

end Store

/-! ## The outside world -/

/-- Which call site of the source a payment or an invoice comes from. -/
inductive Purpose where
  /-- `transfer_inheritance` -/
  | inheritance (spawn_id : String)
  /-- `_fund_sporestack_token` -/
  | funding (spawn_id sporestack_token : String)
  /-- `topup_sporestack` -/
  | topup
deriving DecidableEq, Repr

/-- What the node has done to the outside world. -/
inductive Event where
  | spawn_started (spawn_id : String)
  /-- A spawn was started over rows that an earlier one left. -/
  | stale_start (spawn_id : String)
  | token_minted (sporestack_token : String)
  | invoice_requested (purpose : Purpose)
  /-- `wallet.send` was entered. -/
  | send_invoked (purpose : Purpose)
  /-- The payment went out. -/
  | send_effective (purpose : Purpose)
  | server_launched (sporestack_token machine_id : String)
deriving DecidableEq, Repr

structure World where
  store : Store
  /-- `time.time()` -/
  now : ℚ
  /-- `Orchestrator.running` -/
  running : Bool
  /-- `Orchestrator._tasks` holds the task of the decision loop. -/
  tasks : Bool
  /-- That task has been cancelled. -/
  cancelled : Bool
  log : List Event

namespace World

def emit (w : World) (e : Event) : World := { w with log := e :: w.log }

/-- `set`. -/
def put (w : World) (k : Key) (v : k.Val) : World := { w with store := w.store.set k v }

/-- `mark_spawn_started`. -/
def started (w : World) (spawn_id : String) : World :=
  let noted := if w.store.Clean then w else w.emit (.stale_start spawn_id)
  emit { noted with store := w.store.mark_spawn_started spawn_id w.now } (.spawn_started spawn_id)

/-- `mark_spawn_completed`. -/
def completed (w : World) (success : Bool) (child_btc_address : String) : World :=
  { w with store := w.store.mark_spawn_completed success child_btc_address w.now }

/-- A node that has never run. -/
def fresh (now : ℚ) : World :=
  { store := fun _ => none, now, running := false, tasks := false, cancelled := false, log := [] }

end World

structure Config where
  SIM_MODE : Bool
  DATA_DIR : String
  INITIAL_CAUTION_TRAIT : ℚ
  DEFAULT_BTC_ADDRESS : String
  MAX_SPAWN_DURATION : ℤ
  SPAWN_FEE_BUFFER_SAT : ℤ
  SPORESTACK_MIN_INVOICE_DOLLARS : ℤ
  FAILSAFE_TRIGGER_DAYS : ℤ
  TOPUP_TRIGGER_DAYS : ℤ
  TOPUP_TARGET_DAYS : ℤ
  VPS_PROVIDER : String

/-- `_handle_shutdown` clears the spawn: one is in progress and has run for too long. -/
def Abandons (cfg : Config) (w : World) : Prop :=
  w.store.is_spawn_in_progress = true ∧
    (cfg.MAX_SPAWN_DURATION : ℚ) ≤ w.now - w.store.get_spawn_started_at

instance (cfg : Config) (w : World) : Decidable (Abandons cfg w) :=
  inferInstanceAs (Decidable (_ ∧ _))

/-- `self.running = False` and the loop over `self._tasks`. -/
def World.initiate_shutdown (w : World) : World :=
  { w with running := false, cancelled := w.cancelled || w.tasks }

/-- `Orchestrator._handle_shutdown`. -/
def _handle_shutdown (cfg : Config) (w : World) : World :=
  if w.store.is_spawn_in_progress then
    if w.now - w.store.get_spawn_started_at < cfg.MAX_SPAWN_DURATION then w
    else (w.completed false "").initiate_shutdown
  else w.initiate_shutdown

theorem _handle_shutdown_of_abandons {cfg : Config} {w : World} (h : Abandons cfg w) :
    _handle_shutdown cfg w = (w.completed false "").initiate_shutdown := by
  rw [_handle_shutdown, if_pos h.1, if_neg (not_lt.mpr h.2)]

/-- A signal that does not abandon a spawn leaves the rows alone. -/
theorem _handle_shutdown_of_not_abandons {cfg : Config} {w : World} (h : ¬ Abandons cfg w) :
    _handle_shutdown cfg w = w ∨
      w.store.is_spawn_in_progress = false ∧ _handle_shutdown cfg w = w.initiate_shutdown := by
  rw [_handle_shutdown]
  by_cases hp : w.store.is_spawn_in_progress = true
  · rw [if_pos hp, if_pos (not_le.mp fun hle => h ⟨hp, hle⟩)]
    exact .inl rfl
  · rw [if_neg hp]
    exact .inr ⟨by simpa using hp, rfl⟩

end Superorganism.Spawn
