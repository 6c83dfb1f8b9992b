/-
The inheritance is sent at most once for each started spawn.

Every started spawn gives one credit for a call of `wallet.send`, and the write-ahead
row `spawn_transfer_intent` is the record that it is spent: while the rows are those of
spawn `i` and hold no transfer intent for it, a call is still owed
(`TransferInv.owed`). `transfer_inheritance` reads that row, and between the read and
the payment stands the scan of the wallet. So if a signal clears the rows before the
read, which then finds no intent, the scan is where the cancelled program ends.
-/
import Superorganism.SpawnOutline

set_option autoImplicit false

open Superorganism.Process Superorganism.Process.Prog Superorganism.Process.Contract

namespace Superorganism.Spawn

variable {cfg : Setup} {reg : Regime}

/-- How often `transfer_inheritance` entered `wallet.send` for this spawn. -/
def World.transfers (w : World) (i : String) : ℕ := w.log.count (.send_invoked (.inheritance i))

/-- The stored transfer intent, if it is one of the spawn `i`. -/
def transferIntent (i : String) (s : Store) : Option TransferIntent :=
  (s .spawn_transfer_intent).filter fun intent => intent.spawn_id = i

/-- A payment for `i` is still owed. -/
def Unsent (i : String) (w : World) : Prop := w.transfers i + 1 ≤ w.starts i

structure TransferInv (w : World) : Prop where
  bound : ∀ i, w.transfers i ≤ w.starts i
  owed : ∀ i, Live i w → transferIntent i w.store = none → Unsent i w

/-! ## What keeps the invariant -/

/-- Operations that have nothing to do with the transfer. -/
structure OffTransfer (c : Cmd) : Prop where
  in_progress : ¬ c.Writes .spawn_in_progress
  spawn_id : ¬ c.Writes .spawn_id
  intent : ¬ c.Writes .spawn_transfer_intent
  starts : ∀ i, ¬ c.Emits (.spawn_started i)
  transfers : ∀ i, ¬ c.Emits (.send_invoked (.inheritance i))

theorem Touches.offTransfer {c : Cmd} {K : List Key} {V : Event → Prop} (h : Touches K V c)
    (hK : Key.spawn_in_progress ∉ K ∧ Key.spawn_id ∉ K ∧ Key.spawn_transfer_intent ∉ K)
    (hV : ∀ i, ¬ V (.spawn_started i) ∧ ¬ V (.send_invoked (.inheritance i))) : OffTransfer c where
  in_progress hw := hK.1 (h.1 _ hw)
  spawn_id hw := hK.2.1 (h.1 _ hw)
  intent hw := hK.2.2 (h.1 _ hw)
  starts i he := (hV i).1 (h.2 _ he)
  transfers i he := (hV i).2 (h.2 _ he)

theorem TransferInv.frame {c : Cmd} {w w' : World} (h : TransferInv w) (hc : OffTransfer c)
    (hf : Frame c w w') : TransferInv w' := by
  have hstarts (i : String) : w'.starts i = w.starts i := hf.count (hc.starts i)
  have htransfers (i : String) : w'.transfers i = w.transfers i := hf.count (hc.transfers i)
  refine ⟨fun i => ?_, fun i hlive hintent => ?_⟩
  · rw [hstarts, htransfers]
    exact h.bound i
  · rw [Unsent, hstarts, htransfers]
    refine h.owed i ((hf.live hc.in_progress hc.spawn_id i).mp hlive) ?_
    rwa [transferIntent, hf.store _ hc.intent] at hintent

theorem TransferInv.congr (w w' : World) (hs : w'.store = w.store) (hl : w'.log = w.log)
    (h : TransferInv w) : TransferInv w' := by
  refine ⟨fun i => ?_, fun i hlive hintent => ?_⟩
  · rw [World.transfers, World.starts, hl]
    exact h.bound i
  · rw [Unsent, World.transfers, World.starts, hl]
    rw [transferIntent, hs] at hintent
    exact h.owed i ((Live.congr (by rw [hs]) (by rw [hs])).mp hlive) hintent

/-- Without a spawn in the rows only the bound is at stake. -/
theorem TransferInv.of_not_live {w : World} (hbound : ∀ i, w.transfers i ≤ w.starts i)
    (h : ∀ i, ¬ Live i w) : TransferInv w :=
  ⟨hbound, fun i hlive => absurd hlive (h i)⟩

theorem TransferInv.signalled {ok : World → Prop} (w w' : World) (hs : Signalled ok w w')
    (h : TransferInv w) : TransferInv w' := by
  rcases hs.rows with hrows | ⟨-, hp, -, -⟩
  · exact h.congr w w' hrows hs.log
  · refine .of_not_live (fun i => ?_) fun i hlive => ?_
    · rw [World.transfers, World.starts, hs.log]
      exact h.bound i
    · rw [Live, hp] at hlive
      exact Bool.false_ne_true hlive.1

theorem TransferInv.completed (w : World) (success : Bool) (address : String)
    (h : TransferInv w) : TransferInv (w.completed success address) :=
  .of_not_live h.bound (not_live_completed w success address)

theorem transfers_started (w : World) (i j : String) :
    (w.started i).transfers j = w.transfers j :=
  (frame_started w i).count (by simp [Cmd.Emits])

theorem TransferInv.started (w : World) (i : String) (h : TransferInv w) :
    TransferInv (w.started i) := by
  refine ⟨fun j => ?_, fun j hlive _ => ?_⟩
  · rw [transfers_started, starts_started]
    exact (h.bound j).trans (Nat.le_add_right _ _)
  · have hij : i = j := (live_started w i).2.symm.trans hlive.2
    rw [Unsent, transfers_started, starts_started, if_pos hij]
    exact Nat.add_le_add_right (h.bound j) 1

/-- `wallet.send` for `i`, with the intent written. -/
theorem TransferInv.send {w w' : World} {r : Except Exc String} {i address : String} {amount : ℤ}
    (h : TransferInv w) (hunsent : Unsent i w) (hintent : WhileLive i (transferIntent i · ≠ none) w)
    (hexec : exec (.wallet_send (.inheritance i) address amount) w r w') : TransferInv w' := by
  have hf := exec_frame hexec
  have hstore : w'.store = w.store := exec_await_store rfl hexec
  have hstarts (j : String) : w'.starts j = w.starts j := hf.count (by simp [Cmd.Emits])
  have htransfers (j : String) : w'.transfers j = w.transfers j + if i = j then 1 else 0 := by
    rcases hexec with rfl | ⟨rfl, -⟩
    · simp [World.transfers, World.emit, List.count_cons]
    · simp [World.transfers, World.emit, List.count_cons]
  refine ⟨fun j => ?_, fun j hlive hnone => ?_⟩
  · rw [hstarts, htransfers]
    by_cases hij : i = j
    · rw [if_pos hij, ← hij]
      exact hunsent
    · rw [if_neg hij]
      exact h.bound j
  · rw [transferIntent, hstore] at hnone
    have hlive' : Live j w := (Live.congr (by rw [hstore]) (by rw [hstore])).mp hlive
    have hij : i ≠ j := by
      rintro rfl
      exact hintent hlive' hnone
    rw [Unsent, hstarts, htransfers, if_neg hij]
    exact h.owed j hlive' hnone

/-! ## The triples -/

/-- The contract, under every signal. -/
def transferContract (cfg : Setup) (reg : Regime) : Contract (machine cfg reg) :=
  signalContract cfg reg (fun _ => True) TransferInv TransferInv.signalled

/-- What has nothing to do with the transfer keeps a stable assertion it does not touch. -/
theorem off_transfer_triple {α : Type} {p : Coro α} {P : World → Prop} (hp : p.Within OffTransfer)
    (hstable : (transferContract cfg reg).Stable P)
    (hP : ∀ c, OffTransfer c → ∀ w w', Frame c w w' → P w → P w') :
    (transferContract cfg reg).Triple P p (fun _ => P) Any := by
  refine (triple_within hp hstable fun c hc w r w' hi hw hexec => ?_).post fun _ _ _ h => h
  have hf := exec_frame hexec.1
  exact ⟨hi.frame hc hf, fun _ => hP c hc w w' hf hw⟩

theorem set_transfer_txid_triple (txid : String) :
    (transferContract cfg reg).Triple (fun _ => True) (perform (.set .spawn_transfer_txid txid))
      Any Any := by
  have hset : Touches [.spawn_transfer_txid] (fun _ => False) (.set .spawn_transfer_txid txid) :=
    touches_set (by simp)
  have hoff : OffTransfer (.set .spawn_transfer_txid txid) :=
    hset.offTransfer (by decide) fun _ => ⟨id, id⟩
  exact off_transfer_triple (.call hoff) stable_true fun _ _ _ _ _ _ => trivial

theorem transfer_completed_triple {P : World → Prop} (hP : (transferContract cfg reg).Stable P)
    (address : String) : (transferContract cfg reg).Triple P
      (perform (.mark_spawn_completed true address)) Any Any :=
  triple_commits (fun w => w.completed true address) (fun _ _ _ h => h) hP
    fun w hi _ => ⟨hi.completed w true address, trivial⟩

/-- Noting the txid and ending the spawn, in either branch. -/
theorem conclude_transfer_triple (txid address : String) :
    (transferContract cfg reg).Triple (fun _ => True) (do
      perform (.set .spawn_transfer_txid txid)
      perform (.mark_spawn_completed true address)
      pure txid : Coro String) Any Any :=
  (set_transfer_txid_triple txid).bind fun _ =>
    (transfer_completed_triple stable_true address).bind fun _ => triple_pure fun _ _ _ => trivial

theorem reconcile_transfer_triple (d : ChildIdentity) (intent : TransferIntent) :
    (transferContract cfg reg).Triple (fun _ => True) (reconcile_transfer d intent) Any Any := by
  refine (triple_quiet_any (.call rfl) stable_true).bind fun prior_txid => ?_
  split
  · exact conclude_transfer_triple _ _
  · exact triple_raise fun _ _ _ => trivial

/-- The pipeline of `i` runs with a payment owed, unless it will not get past its next
await. -/
def Pending (i : String) (w : World) : Prop :=
  Underway i w ∧ (Unsent i w ∨ w.cancelled = true)

/-- The pipeline of `i` runs with a payment owed. -/
def Paying (i : String) (w : World) : Prop := Underway i w ∧ Unsent i w

theorem stable_unsent (i : String) : (transferContract cfg reg).Stable (Unsent i) :=
  stable_log fun log => log.count (.send_invoked (.inheritance i)) + 1
    ≤ log.count (.spawn_started i)

theorem stable_paying (i : String) : (transferContract cfg reg).Stable (Paying i) :=
  (stable_underway i).and (stable_unsent i)

theorem stable_pending (i : String) : (transferContract cfg reg).Stable (Pending i) := by
  refine (stable_underway i).and (stable_of_signalled fun w w' h hw => ?_)
  refine hw.imp (fun hu => ?_) h.cancelled
  rw [Unsent, World.transfers, World.starts, h.log]
  exact hu

/-- A program that gets past the scan has a payment to make. -/
theorem scan_loop_triple (i : String) (n : ℕ) :
    (transferContract cfg reg).Triple (Pending i) (scan_loop i n) (fun _ => Paying i) Any := by
  have hscan : (transferContract cfg reg).Triple (Pending i) (perform .wallet_scan)
      (fun _ => Paying i) fun _ => Pending i := by
    refine triple_call (stable_pending i) fun w r w' hi hw hexec => ?_
    rw [exec_quiet rfl hexec.1]
    refine ⟨hi, fun hgo => ⟨fun _ _ => ⟨hw.1, ?_⟩, fun _ _ => hw⟩⟩
    exact hw.2.resolve_right fun hc => hgo ⟨rfl, hc⟩
  induction n with
  | zero => exact hscan.tryCatch fun e => triple_raise fun _ _ _ => trivial
  | succ n ih =>
      have hattempt : (transferContract cfg reg).Triple (Pending i)
          ((do perform .wallet_scan; pure true : Coro Bool).tryCatch fun _ => do
            perform (.sleep _SCAN_RETRY_DELAY)
            pure false)
          (fun ok w => if ok then Paying i w else Pending i w) Any := by
        refine Triple.tryCatch (hscan.bind fun _ => triple_pure fun _ _ h => h) fun e => ?_
        exact (triple_quiet_any (.call rfl) (stable_pending i)).bind fun _ =>
          triple_pure fun _ _ h => h
      refine hattempt.bind fun ok => ?_
      cases ok with
      | true => exact triple_pure fun _ _ h => h
      | false => exact ih

/-- The intent is written and the payment is about to be made. -/
def Ready (i : String) (w : World) : Prop :=
  Unsent i w ∧ WhileLive i (transferIntent i · ≠ none) w

theorem stable_ready (i : String) : (transferContract cfg reg).Stable (Ready i) :=
  (stable_unsent i).and (stable_whileLive i _)

theorem set_transfer_intent_triple (intent : TransferIntent) :
    (transferContract cfg reg).Triple (Paying intent.spawn_id)
      (perform (.set .spawn_transfer_intent intent)) (fun _ => Ready intent.spawn_id) Any := by
  refine triple_commits (fun w => w.put .spawn_transfer_intent intent) (fun _ _ _ h => h)
    (stable_paying _) fun w hi hw => ?_
  refine ⟨⟨hi.bound, fun j hj _ => ?_⟩, hw.2, fun _ => ?_⟩
  · rw [← hw.1.unique ((live_put (by decide) (by decide) j).mp hj)]
    exact hw.2
  · simp [transferIntent, World.put]

/-- Intent first, then the payment. -/
theorem send_inheritance_triple (d : ChildIdentity) (amount : ℤ) :
    (transferContract cfg reg).Triple (Paying d.spawn_id) (send_inheritance d amount) Any Any := by
  have hsend : (transferContract cfg reg).Triple (Ready d.spawn_id)
      (perform (.wallet_send (.inheritance d.spawn_id) d.btc_address amount)) Any Any := by
    refine triple_call (stable_ready _) fun w r w' hi hw hexec => ?_
    exact ⟨hi.send hw.1 hw.2 hexec.1, fun _ => ⟨fun _ _ => trivial, fun _ _ => trivial⟩⟩
  refine Triple.bind (set_transfer_intent_triple ⟨d.spawn_id, d.btc_address, amount⟩) fun _ => ?_
  refine Triple.bind (hsend.tryCatch fun e => triple_raise fun _ _ _ => trivial) fun txid => ?_
  exact conclude_transfer_triple _ _

theorem fresh_transfer_triple (d : ChildIdentity) (ns : NodeState) :
    (transferContract cfg reg).Triple (Pending d.spawn_id) (fresh_transfer cfg d ns) Any Any := by
  refine (scan_loop_triple d.spawn_id _).bind fun _ => ?_
  refine (triple_quiet_any (.call rfl) (stable_paying d.spawn_id)).bind fun available_sat => ?_
  dsimp only
  split
  · exact (transfer_completed_triple (stable_paying _) _).bind fun _ =>
      triple_pure fun _ _ _ => trivial
  · exact send_inheritance_triple d _

/-- **`transfer_inheritance` keeps the account of what was sent.** -/
theorem transfer_inheritance_triple (d : ChildIdentity) (ns : NodeState) :
    (transferContract cfg reg).Triple (Underway d.spawn_id) (transfer_inheritance cfg d ns)
      Any Any := by
  have hquiet {α : Type} {p : Coro α} (hp : p.Within Quiet) :
      (transferContract cfg reg).Triple (Underway d.spawn_id) p (fun _ => Underway d.spawn_id) Any :=
    triple_quiet_any hp (stable_underway _)
  refine (hquiet (.call rfl)).bind fun ps => (hquiet (.call rfl)).bind fun wallet => ?_
  refine (hquiet (within_require _ _)).bind fun _ => (hquiet (within_require _ _)).bind fun _ => ?_
  refine (hquiet (.call rfl)).bind fun stored => ?_
  split
  · exact (transfer_completed_triple (stable_underway _) _).bind fun _ =>
      triple_pure fun _ _ _ => trivial
  -- the row is read: without an intent in it, a payment is owed or the program is cancelled
  have hread : (transferContract cfg reg).Triple (Underway d.spawn_id)
      (perform (.get .spawn_transfer_intent)) (fun intent w =>
        intent.filter (fun intent => intent.spawn_id = d.spawn_id) = none → Pending d.spawn_id w)
      Any := by
    refine triple_get (stable_underway _) fun w hi hw hnone => ⟨hw, ?_⟩
    exact hw.live_or_cancelled.imp_left fun hlive => hi.owed _ hlive hnone
  refine hread.bind fun intent => ?_
  split
  · exact (reconcile_transfer_triple d _).pre fun _ _ _ => trivial
  · rename_i hnone
    exact (fresh_transfer_triple d ns).pre fun _ _ h => h hnone

/-! ## The whole run -/

theorem Aside.offTransfer {c : Cmd} (h : Aside c) : OffTransfer c :=
  Touches.offTransfer h (by decide) fun i => by simp [topupEvent]

def transferOutline (cfg : Setup) (reg : Regime) : Outline (transferContract cfg reg) where
  idle w := w.tasks = true
  recovering := Resuming
  active := Underway
  known i d w := d.spawn_id = i ∧ Underway i w
  stable_idle := stable_tasks
  stable_recovering := stable_resuming
  stable_active := stable_underway
  stable_known i d := fun w w' hs hi hw => ⟨hw.1, stable_underway i w w' hs hi hw.2⟩
  stable_tasks := stable_tasks
  inv_congr := TransferInv.congr
  idle_of _ _ ht _ := ht
  recovering_of _ _ ht hp := ⟨ht, .inl hp⟩
  active_of _ _ hw := hw.underway
  aside _ hc _ _ hi hf := ⟨hi.frame hc.offTransfer hf, hf.tasks⟩
  completed := TransferInv.completed
  started w i hi ht := ⟨hi.started w i, (frame_started w i).tasks ht, .inl (live_started w i)⟩
  identity i := by
    have h : (transferContract cfg reg).Triple (Underway i) (obtain_identity cfg i)
        (fun _ => Underway i) Any := by
      -- what comes before the machine is there has no part in the transfer
      have hoff : (obtain_identity cfg i).Within OffTransfer :=
        (obtain_identity_touches cfg i).mono fun c hc =>
          hc.offTransfer (by decide) fun j => by simp [identityEvent, fundingEvent]
      exact off_transfer_triple hoff (stable_underway i)
        fun c hc w w' hf => hf.underway hc.in_progress hc.spawn_id
    exact h.returns (obtain_identity_returns cfg i)
  vps i d := by
    have hoff : (obtain_vps cfg i d).Within OffTransfer :=
      (obtain_vps_touches cfg i d).mono fun c hc =>
        hc.offTransfer (by decide) fun j => by simp [launchEvent]
    refine off_transfer_triple hoff ?_ fun c hc w w' hf hw => ?_
    · exact fun w w' hs hi hw => ⟨hw.1, stable_underway i w w' hs hi hw.2⟩
    · exact ⟨hw.1, hf.underway hc.in_progress hc.spawn_id hw.2⟩
  transfer i d ns := by
    -- the identity carries the id of the spawn that is underway
    refine (transfer_inheritance_triple d ns).pre fun w _ hw => ?_
    rw [hw.1]
    exact hw.2

/-- **At most one call of `wallet.send` for each started spawn**: in every state of every
run, whatever the services answer and whenever signals and crashes come, the calls that
`transfer_inheritance` made for a spawn id are at most the spawns started under it. An
id that `uuid4` has drawn once is never paid twice. -/
theorem transfer_inheritance_sends_once {now : ℚ} {s : World × Proc Cmd Cmd.Ret Exc}
    (hs : (machine cfg anyRun).Reachable (World.fresh now) s) (i : String) :
    s.1.transfers i ≤ s.1.starts i ∧ (s.1.starts i ≤ 1 → s.1.transfers i ≤ 1) := by
  have hinit : TransferInv (World.fresh now) :=
    .of_not_live (fun i => Nat.le_refl 0) fun i hlive => Bool.false_ne_true hlive.1
  have h := (transferOutline cfg anyRun).inv_of_reachable hs hinit fun p w w' h => h
  exact ⟨h.bound i, (h.bound i).trans⟩

/-- A spawn that runs through makes the one call. -/
theorem transfer_inheritance_sends_once_calm :
    (calmSpawn none 75).1.transfers "spawn-01234567" = 1 ∧
      (calmSpawn none 75).1.starts "spawn-01234567" ≤ 1 ∧
      (calmSpawn none 75).1.transfers "spawn-01234567" ≤ 1 := by
  have hreach : (machine calmSetup anyRun).Reachable (World.fresh 0)
      ((calmSpawn none 75).1, .running (calmSpawn none 75).2) :=
    reachable_calmSpawn (fun _ _ => trivial) (by decide +kernel) 75
  have hstarts : (calmSpawn none 75).1.starts "spawn-01234567" ≤ 1 := by decide +kernel
  exact ⟨by decide +kernel, hstarts,
    (transfer_inheritance_sends_once hreach "spawn-01234567").2 hstarts⟩

end Superorganism.Spawn
