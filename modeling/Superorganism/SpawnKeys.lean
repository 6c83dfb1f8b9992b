/-
No spawn leaves rows behind, unless a signal abandons one between two writes.

`mark_spawn_completed` clears every row of a spawn in one transaction, and the pipeline
writes such a row only while its spawn is in progress (`Busy`): that much is an invariant
of every run without abandoned spawns. `_handle_shutdown` clears the rows too, from
outside. It cancels the decision loop, but a cancelled task goes on up to its next await,
and whatever it still writes on the way is left behind for the next spawn.

`PendingWrite` says that the program can come to such a write. A run in which no signal
abandons a spawn with a write pending keeps the rows clean (`spawn_rows_cleared`): after
an abandoning signal the program is `Doomed`, it changes no row of a spawn until its next
await, and does not survive that. `rows_left_behind` is a run that meets the case: the
signal arrives after `wallet.send` has returned and before its txid is written.
-/
import Superorganism.SpawnOutline

set_option autoImplicit false

open Superorganism.Process Superorganism.Process.Prog Superorganism.Process.Contract

namespace Superorganism.Spawn

variable {cfg : Setup}

/-! ## The rows of a spawn -/

/-- The flag and what `mark_spawn_completed` clears. -/
def spawnRows : List Key := .spawn_in_progress :: _SPAWN_KEYS_TO_CLEAR

structure KeysInv (w : World) : Prop where
  clean : w.store.is_spawn_in_progress = false → w.store.Clean
  /-- Every spawn so far was started over clean rows. -/
  fresh : ∀ i, Event.stale_start i ∉ w.log

/-- A spawn is in progress under a decision loop that a signal would cancel. -/
def Busy (w : World) : Prop := w.tasks = true ∧ w.store.is_spawn_in_progress = true

theorem in_progress_congr {w w' : World}
    (h : w'.store .spawn_in_progress = w.store .spawn_in_progress) :
    w'.store.is_spawn_in_progress = w.store.is_spawn_in_progress := by
  rw [Store.is_spawn_in_progress, Store.is_spawn_in_progress, h]

theorem KeysInv.congr (w w' : World) (hs : w'.store = w.store) (hl : w'.log = w.log)
    (h : KeysInv w) : KeysInv w' := by
  refine ⟨?_, ?_⟩
  · rw [hs]
    exact h.clean
  · rw [hl]
    exact h.fresh

theorem KeysInv.signalled {ok : World → Prop} (w w' : World) (hs : Signalled ok w w')
    (h : KeysInv w) : KeysInv w' := by
  rcases hs.rows with hrows | ⟨-, -, hclean, -⟩
  · exact h.congr w w' hrows hs.log
  · refine ⟨fun _ => hclean, ?_⟩
    rw [hs.log]
    exact h.fresh

theorem KeysInv.completed (w : World) (success : Bool) (address : String) (h : KeysInv w) :
    KeysInv (w.completed success address) :=
  ⟨fun _ => Store.clean_mark_spawn_completed w.store success address w.now, h.fresh⟩

/-- A spawn that is started when none is in progress finds clean rows. -/
theorem KeysInv.started (w : World) (i : String) (h : KeysInv w)
    (hp : w.store.is_spawn_in_progress = false) : KeysInv (w.started i) := by
  have hlog : (w.started i).log = .spawn_started i :: w.log := by
    rw [World.started, if_pos (h.clean hp)]
    rfl
  refine ⟨fun hp' => ?_, fun j hj => ?_⟩
  · exact absurd ((live_started w i).1.symm.trans hp') Bool.false_ne_true.symm
  · rw [hlog] at hj
    exact h.fresh j ((List.mem_cons.mp hj).resolve_left (by simp))

/-- Operations that leave the rows of a spawn alone. -/
def OffRows (c : Cmd) : Prop :=
  (∀ k ∈ spawnRows, ¬ c.Writes k) ∧ ∀ i, ¬ c.Emits (.stale_start i)

theorem KeysInv.frame {c : Cmd} {w w' : World} (h : KeysInv w) (hc : OffRows c)
    (hf : Frame c w w') : KeysInv w' := by
  have hp := in_progress_congr (hf.store _ (hc.1 _ (List.mem_cons_self ..)))
  refine ⟨fun hp' k hk => ?_, fun i hi => ?_⟩
  · rw [hf.store k (hc.1 k (List.mem_cons_of_mem _ hk))]
    exact h.clean (hp.symm.trans hp') k hk
  · exact h.fresh i ((hf.mem_log (hc.2 i)).mp hi)

theorem Aside.offRows {c : Cmd} (h : Aside c) : OffRows c := by
  refine ⟨fun k hk hw => ?_, fun i he => ?_⟩
  · have hdisjoint : ∀ k ∈ spawnRows, k ∉ [Key.failsafe_in_progress, Key.caution_trait] := by
      decide
    exact hdisjoint k hk (h.1 k hw)
  · simpa [topupEvent] using h.2 _ he

/-! ## The triples

Abandoning signals are left out of the contract as soon as the decision loop runs: the
assertion `Busy` would not survive one. `Doomed` below takes over there. -/

def keysContract (cfg : Setup) (reg : Regime) : Contract (machine cfg reg) :=
  signalContract cfg reg (fun w => w.tasks = false) KeysInv KeysInv.signalled

variable {reg : Regime}

theorem stable_flag (b : Bool) : (keysContract cfg reg).Stable fun w =>
    w.tasks = true ∧ w.store.is_spawn_in_progress = b := by
  refine stable_of_signalled fun w w' h hw => ⟨by rw [h.tasks, hw.1], ?_⟩
  rcases h.rows with hrows | ⟨ht, -, -, -⟩
  · rw [hrows, hw.2]
  · exact absurd (hw.1.symm.trans ht) Bool.false_ne_true.symm

theorem stable_busy : (keysContract cfg reg).Stable Busy := stable_flag true

/-- Operations that write no row but those of a spawn in progress. -/
def OffFlag (c : Cmd) : Prop :=
  ¬ c.Writes .spawn_in_progress ∧ ∀ i, ¬ c.Emits (.stale_start i)

theorem Touches.offFlag {c : Cmd} {K : List Key} {V : Event → Prop} (h : Touches K V c)
    (hK : Key.spawn_in_progress ∉ K) (hV : ∀ i, ¬ V (.stale_start i)) : OffFlag c :=
  ⟨fun hw => hK (h.1 _ hw), fun i he => hV i (h.2 _ he)⟩

/-- While a spawn is in progress its rows may be written. -/
theorem busy_triple {α : Type} {p : Coro α} (hp : p.Within OffFlag) :
    (keysContract cfg reg).Triple Busy p (fun _ => Busy) Any := by
  refine (triple_within hp stable_busy fun c hc w r w' hi hw hexec => ?_).post fun _ _ _ h => h
  have hf := exec_frame hexec.1
  have hbusy : Busy w' := ⟨hf.tasks hw.1, (in_progress_congr (hf.store _ hc.1)).trans hw.2⟩
  refine ⟨⟨fun hp' => ?_, fun i hi' => ?_⟩, fun _ => hbusy⟩
  · exact absurd (hbusy.2.symm.trans hp') Bool.false_ne_true.symm
  · exact hi.fresh i ((hf.mem_log (hc.2 i)).mp hi')

theorem busy_quiet_triple {α : Type} {p : Coro α} (hp : p.Within Quiet) :
    (keysContract cfg reg).Triple Busy p (fun _ => Busy) Any :=
  triple_quiet_any hp stable_busy

theorem offFlag_set {k : Key} {v : k.Val} (hk : Key.spawn_in_progress ≠ k) :
    OffFlag (.set k v) := ⟨hk, fun _ => id⟩

/-- The last write of a spawn. -/
theorem keys_completed_triple (address txid : String) :
    (keysContract cfg reg).Triple Busy (do
      perform (.mark_spawn_completed true address)
      pure txid : Coro String) Any Any := by
  have hcompleted : (keysContract cfg reg).Triple Busy
      (perform (.mark_spawn_completed true address)) Any Any :=
    triple_commits (fun w => w.completed true address) (fun _ _ _ h => h) stable_busy
      fun w hi _ => ⟨hi.completed w true address, trivial⟩
  exact hcompleted.bind fun _ => triple_pure fun _ _ _ => trivial

/-- Noting the txid and ending the spawn, in either branch. -/
theorem keys_conclude_triple (txid address : String) :
    (keysContract cfg reg).Triple Busy (do
      perform (.set .spawn_transfer_txid txid)
      perform (.mark_spawn_completed true address)
      pure txid : Coro String) Any Any :=
  (busy_triple (.call (offFlag_set (by decide)))).bind fun _ => keys_completed_triple address txid

theorem keys_send_inheritance_triple (d : ChildIdentity) (amount : ℤ) :
    (keysContract cfg reg).Triple Busy (send_inheritance d amount) Any Any := by
  refine (busy_triple (.call (offFlag_set (by decide)))).bind fun _ => ?_
  have hsend : ((perform (.wallet_send (.inheritance d.spawn_id) d.btc_address amount)).tryCatch
      fun e => raise (.SpawnError "transfer"
        ("Inheritance transfer failed for " ++ d.spawn_id ++ ": " ++ e.str))).Within OffFlag :=
    .tryCatch (.call ⟨id, fun i he => by simp [Cmd.Emits] at he⟩) fun e => trivial
  exact (busy_triple hsend).bind fun txid => keys_conclude_triple txid _

/-- **A spawn clears its rows in one transaction, and writes none of them after it.** -/
theorem keys_transfer_inheritance_triple (d : ChildIdentity) (ns : NodeState) :
    (keysContract cfg reg).Triple Busy (transfer_inheritance cfg d ns) Any Any := by
  refine (busy_quiet_triple (.call rfl)).bind fun ps =>
    (busy_quiet_triple (.call rfl)).bind fun wallet => ?_
  refine (busy_quiet_triple (within_require _ _)).bind fun _ =>
    (busy_quiet_triple (within_require _ _)).bind fun _ => ?_
  refine (busy_quiet_triple (.call rfl)).bind fun stored => ?_
  split
  · exact keys_completed_triple _ _
  refine (busy_quiet_triple (.call rfl)).bind fun intent => ?_
  split
  · refine (busy_quiet_triple (.call rfl)).bind fun prior_txid => ?_
    split
    · exact keys_conclude_triple _ _
    · exact triple_raise fun _ _ _ => trivial
  · refine (busy_quiet_triple (scan_loop_quiet _ _)).bind fun _ =>
      (busy_quiet_triple (.call rfl)).bind fun available_sat => ?_
    dsimp only
    split
    · exact keys_completed_triple _ _
    · exact keys_send_inheritance_triple d _

def keysOutline (cfg : Setup) (reg : Regime) : Outline (keysContract cfg reg) where
  idle w := w.tasks = true ∧ w.store.is_spawn_in_progress = false
  recovering := Busy
  active _ := Busy
  known _ _ := Busy
  stable_idle := stable_flag false
  stable_recovering := stable_busy
  stable_active _ := stable_busy
  stable_known _ _ := stable_busy
  stable_tasks := stable_tasks
  inv_congr := KeysInv.congr
  idle_of _ _ ht hp := ⟨ht, hp⟩
  recovering_of _ _ ht hp := ⟨ht, hp⟩
  active_of _ _ hw := hw
  aside _ hc _ _ hi hf :=
    ⟨hi.frame hc.offRows hf, fun hw => ⟨hf.tasks hw.1,
      (in_progress_congr (hf.store _ (hc.offRows.1 _ (List.mem_cons_self ..)))).trans hw.2⟩⟩
  completed := KeysInv.completed
  started w i hi hw := ⟨hi.started w i hw.2, (frame_started w i).tasks hw.1, (live_started w i).1⟩
  identity i := busy_triple ((obtain_identity_touches cfg i).mono fun c hc =>
    hc.offFlag (by decide) fun j => by simp [identityEvent, fundingEvent])
  vps i d := busy_triple ((obtain_vps_touches cfg i d).mono fun c hc =>
    hc.offFlag (by decide) fun j => by simp [launchEvent])
  transfer i d ns := keys_transfer_inheritance_triple d ns

/-! ## Signals that find a write pending -/

/-- The operation writes a row of a spawn, other than by clearing them all. -/
def SpawnWrite (c : Cmd) : Prop :=
  (∃ k ∈ spawnRows, c.Writes k) ∧ ∀ success address, c ≠ .mark_spawn_completed success address

/-- The program can come to a write of a row of a spawn before its next await, while time
passes and signals arrive that abandon nothing. -/
inductive PendingWrite (cfg : Config) : Coro Unit → World → Prop where
  | here {c : Cmd} {k : Except Exc c.Ret → Coro Unit} {w : World} :
      SpawnWrite c → PendingWrite cfg (.op c k) w
  | later {c : Cmd} {k : Except Exc c.Ret → Coro Unit} {w w' : World} {r : Except Exc c.Ret} :
      c.isAwait = false → exec c w r w' → PendingWrite cfg (k r) w' → PendingWrite cfg (.op c k) w
  | wait {p : Coro Unit} {w w' : World} :
      Signal cfg (fun _ => False) w w' → PendingWrite cfg p w' → PendingWrite cfg p w

/-- The runs in which no signal abandons a spawn that has a write pending. -/
def betweenWrites (cfg : Config) : Regime where
  answers _ _ _ := True
  abandons p w := ∀ q, p = .running q → ¬ PendingWrite cfg q (_handle_shutdown cfg w)

/-- The program stands at an await. -/
def atAwait : Coro Unit → Bool
  | .op c _ => c.isAwait
  | _ => false

theorem not_spawnWrite_of_await {c : Cmd} (hc : c.isAwait = true) : ¬ SpawnWrite c := by
  rintro ⟨⟨k, -, hw⟩, -⟩
  cases c with
  | set _ _ => exact absurd hc (by simp [Cmd.isAwait])
  | mark_spawn_started _ => exact absurd hc (by simp [Cmd.isAwait])
  | mark_spawn_completed _ _ => exact absurd hc (by simp [Cmd.isAwait])
  | _ => exact hw

/-- A signal that finds the program at an await finds no write pending. -/
theorem not_pendingWrite_of_atAwait {cfg : Config} {p : Coro Unit} {w : World}
    (hp : atAwait p = true) : ¬ PendingWrite cfg p w := by
  intro h
  induction h with
  | here hc => exact not_spawnWrite_of_await hp hc
  | later hc _ _ _ => exact absurd (hp.symm.trans hc) Bool.false_ne_true.symm
  | wait _ _ ih => exact ih hp

/-- A program whose spawn has been abandoned under it: cancelled, and with nothing left to
write before the await that ends it. -/
structure Doomed (cfg : Config) (p : Coro Unit) (w : World) : Prop where
  inv : KeysInv w
  cancelled : w.cancelled = true
  running : w.running = false
  in_progress : w.store.is_spawn_in_progress = false
  no_write : ¬ PendingWrite cfg p w

/-- An operation that is not a write of a row of a spawn keeps the rows of none. -/
theorem exec_not_spawnWrite {c : Cmd} {w w' : World} {r : Except Exc c.Ret} (h : exec c w r w')
    (hc : ¬ SpawnWrite c) (hi : KeysInv w) (hp : w.store.is_spawn_in_progress = false) :
    KeysInv w' ∧ w'.store.is_spawn_in_progress = false := by
  by_cases hdone : ∃ success address, c = .mark_spawn_completed success address
  · obtain ⟨success, address, rfl⟩ := hdone
    rcases h with ⟨-, rfl⟩ | ⟨-, rfl⟩
    · exact ⟨hi.completed w success address, Store.in_progress_mark_spawn_completed ..⟩
    · exact ⟨hi, hp⟩
  · have hrows : ∀ k ∈ spawnRows, ¬ c.Writes k := fun k hk hw =>
      hc ⟨⟨k, hk, hw⟩, fun success address he => hdone ⟨success, address, he⟩⟩
    have hstale : ∀ i, ¬ c.Emits (.stale_start i) := by
      intro i he
      cases c with
      | mark_spawn_started j => exact hrows .spawn_id (by decide) (.inr (.inl rfl))
      | _ => simp [Cmd.Emits] at he
    have hf := exec_frame h
    refine ⟨hi.frame ⟨hrows, hstale⟩ hf, ?_⟩
    exact (in_progress_congr (hf.store _ (hrows _ (List.mem_cons_self ..)))).trans hp

theorem Doomed.exec {cfg : Config} {c : Cmd} {k : Except Exc c.Ret → Coro Unit} {w w' : World}
    {r : Except Exc c.Ret} (h : Doomed cfg (.op c k) w) (hexec : Spawn.exec c w r w') :
    KeysInv w' ∧ (c.isAwait = false → Doomed cfg (k r) w') := by
  have hf := exec_frame hexec
  obtain ⟨hi, hp⟩ := exec_not_spawnWrite hexec (fun hc => h.no_write (.here hc)) h.inv h.in_progress
  exact ⟨hi, fun hc => ⟨hi, hf.cancelled.trans h.cancelled, hf.running.trans h.running, hp,
    fun hw => h.no_write (.later hc hexec hw)⟩⟩

/-- A second signal finds nothing to abandon. -/
theorem Doomed.signal {cfg : Config} {ok : World → Prop} {p : Coro Unit} {w w' : World}
    (h : Doomed cfg p w) (hs : Signal cfg ok w w') : Doomed cfg p w' := by
  have ha : ¬ Abandons cfg w := fun ha => Bool.false_ne_true (h.in_progress.symm.trans ha.1)
  have hs' : Signal cfg (fun _ => False) w w' := hs.imp_right fun hw => ⟨fun h => ha h, hw.2⟩
  have hno : ¬ PendingWrite cfg p w' := fun hw => h.no_write (.wait hs' hw)
  rcases hs' with ⟨t, -, rfl⟩ | ⟨-, rfl⟩
  · exact ⟨h.inv.congr w _ rfl rfl, h.cancelled, h.running, h.in_progress, hno⟩
  · rcases _handle_shutdown_of_not_abandons ha with hw | ⟨-, hw⟩
    · rw [hw] at hno ⊢
      exact h
    · rw [hw] at hno ⊢
      refine ⟨h.inv.congr w _ rfl rfl, ?_, rfl, h.in_progress, hno⟩
      simp [World.initiate_shutdown, h.cancelled]

/-- An abandoning signal, once the decision loop runs. -/
theorem doomed_of_abandons {cfg : Config} {p : Coro Unit} {w : World} (hi : KeysInv w)
    (ht : w.tasks = true) (ha : Abandons cfg w) (hp : ¬ PendingWrite cfg p (_handle_shutdown cfg w)) :
    Doomed cfg p (_handle_shutdown cfg w) := by
  rw [_handle_shutdown_of_abandons ha] at hp ⊢
  refine ⟨(hi.completed w false "").congr (w.completed false "") _ rfl rfl, ?_, rfl, ?_, hp⟩
  · simp [World.initiate_shutdown, World.completed, ht]
  · exact Store.in_progress_mark_spawn_completed ..

/-! ## The whole run -/

/-- What every state of such a run satisfies. -/
def Orderly (cfg : Setup) (s : World × Proc Cmd Cmd.Ret Exc) : Prop :=
  (keysContract cfg (betweenWrites cfg.toConfig)).Keeps s ∨
    ∃ p, s.2 = .running p ∧ Doomed cfg.toConfig p s.1

theorem Orderly.inv {s : World × Proc Cmd Cmd.Ret Exc} (h : Orderly cfg s) : KeysInv s.1 := by
  rcases h with h | ⟨p, -, h⟩
  · exact h.1
  · exact h.inv

/-- A signal that the contract leaves out abandons a spawn. -/
theorem orderly_of_abandons {s s' : World × Proc Cmd Cmd.Ret Exc} (hi : KeysInv s.1)
    (hproc : s'.2 = s.2)
    (h : Signal cfg.toConfig ((betweenWrites cfg.toConfig).abandons s.2) s.1 s'.1)
    (hout : ¬ Signal cfg.toConfig (fun w => w.tasks = false) s.1 s'.1) : Orderly cfg s' := by
  have hi' : KeysInv s'.1 := hi.signalled _ _ h.signalled
  rcases h with htime | ⟨hok, hw⟩
  · exact absurd (.inl htime) hout
  have hmiss : Abandons cfg.toConfig s.1 ∧ s.1.tasks = true := by
    by_contra hn
    refine hout (.inr ⟨fun ha => ?_, hw⟩)
    exact Bool.eq_false_iff.mpr fun ht => hn ⟨ha, ht⟩
  cases hp : s.2 with
  | down => exact .inl ⟨hi', fun q hq => by rw [hproc, hp] at hq; cases hq⟩
  | stopped => exact .inl ⟨hi', fun q hq => by rw [hproc, hp] at hq; cases hq⟩
  | running q =>
      refine .inr ⟨q, hproc.trans hp, ?_⟩
      rw [hw]
      exact doomed_of_abandons hi hmiss.2 hmiss.1 (hok hmiss.1 q hp)

/-- One step of an orderly run. -/
theorem Orderly.step {s s' : World × Proc Cmd Cmd.Ret Exc} (hs : Orderly cfg s)
    (hstep : (machine cfg (betweenWrites cfg.toConfig)).Step s s') : Orderly cfg s' := by
  have O := keysOutline cfg (betweenWrites cfg.toConfig)
  rcases hs with hs | ⟨p, hp, hd⟩
  · rcases hs.step hstep O.inv_restart O.boot_triple O.tick_triple with h | ⟨-, hproc, h, hout⟩
    · exact .inl h
    · exact orderly_of_abandons hs.1 hproc h hout
  -- the cancelled program: it writes nothing, and its next await is its last operation
  cases hstep with
  | restart h => exact nomatch hp
  | signal hup h => exact .inr ⟨p, hp, hd.signal h⟩
  | op hgo h =>
      cases hp
      obtain ⟨-, hnext⟩ := hd.exec h.1
      refine .inr ⟨_, rfl, hnext ?_⟩
      exact Bool.eq_false_iff.mpr fun hc => hgo ⟨hc, hd.cancelled⟩
  | cut _ h =>
      cases hp
      refine .inl ⟨?_, fun q hq => nomatch hq⟩
      rcases h with rfl | ⟨r, h⟩
      · exact hd.inv
      · exact (hd.exec h.1).1
  | tick h => exact absurd (hd.running.symm.trans h.1) Bool.false_ne_true
  | crash => exact .inl ⟨hd.inv, fun q hq => nomatch hq⟩

/-- **When no spawn is in progress no row of one is left, and every spawn was started over
clean rows**, in every state of every run in which no signal abandons a spawn with a write
pending, whatever the services answer and whenever crashes come. -/
theorem spawn_rows_cleared {now : ℚ} {s : World × Proc Cmd Cmd.Ret Exc}
    (hs : (machine cfg (betweenWrites cfg.toConfig)).Reachable (World.fresh now) s) :
    (s.1.store.is_spawn_in_progress = false → s.1.store.Clean) ∧
      ∀ i, Event.stale_start i ∉ s.1.log := by
  suffices h : Orderly cfg s from ⟨h.inv.clean, h.inv.fresh⟩
  induction hs with
  | refl =>
      have hinit : KeysInv (World.fresh now) := ⟨fun _ k _ => rfl, fun i hi => nomatch hi⟩
      exact .inl ⟨hinit, fun p hp => nomatch hp⟩
  | tail _ hstep ih => exact ih.step hstep

/-- The first spawn, `n` operations into its round, when a signal comes two hours later. -/
def calmAbandoned (n : ℕ) : World :=
  _handle_shutdown calmSetup.toConfig { (calmSpawn none n).1 with now := 7200 }

theorem reachable_calmAbandoned (reg : Regime) (n : ℕ)
    (hreg : ∀ c w, reg.answers c w (calm none c w).1) (hnow : (calmSpawn none n).1.now ≤ 7200)
    (hok : reg.abandons (.running (calmSpawn none n).2) { (calmSpawn none n).1 with now := 7200 }) :
    (machine calmSetup reg).Reachable (World.fresh 0)
      (calmAbandoned n, .running (calmSpawn none n).2) := by
  have hs := reachable_calmSpawn hreg (by decide +kernel) n
  have hlate := hs.tail (.signal (by simp) (.inl ⟨7200, hnow, rfl⟩))
  exact hlate.tail (.signal (by simp) (.inr ⟨fun _ => hok, rfl⟩))

/-- A spawn abandoned while it waits for the wallet, with some of its rows written. -/
theorem spawn_rows_cleared_waiting :
    ¬ (calmSpawn none 30).1.store.Clean ∧
      (calmAbandoned 30).store.is_spawn_in_progress = false ∧ (calmAbandoned 30).store.Clean := by
  have hwait : atAwait (calmSpawn none 30).2 = true := by decide +kernel
  have hreach := reachable_calmAbandoned (betweenWrites calmSetup.toConfig) 30
    (fun _ _ => trivial) (by decide +kernel) fun q hq => by
      cases hq
      exact not_pendingWrite_of_atAwait hwait
  have hp : (calmAbandoned 30).store.is_spawn_in_progress = false := by decide +kernel
  exact ⟨by decide +kernel, hp, (spawn_rows_cleared hreach).1 hp⟩

/-- A program that is not at an await performs its next operation, cancelled or not. -/
theorem reachable_calm_sync {w₀ w : World} {p : Coro Unit} (hp : atAwait p = false)
    (hs : (machine calmSetup anyRun).Reachable w₀ (w, .running p)) :
    (machine calmSetup anyRun).Reachable w₀ ((Machine.play (calm none) 1 (w, p)).1,
      .running (Machine.play (calm none) 1 (w, p)).2) := by
  cases p with
  | ret a => exact hs
  | raise e => exact hs
  | op c k =>
      refine hs.tail (.op (fun hint => ?_) ⟨exec_calm none c w, trivial⟩)
      exact Bool.false_ne_true (hp.symm.trans hint.1)

/-- **The same signal one operation later**, when `wallet.send` has returned and its txid is
not yet written: the row is left behind. -/
theorem rows_left_behind :
    ∃ s, (machine calmSetup anyRun).Reachable (World.fresh 0) s ∧
      s.1.store.is_spawn_in_progress = false ∧ s.1.store .spawn_funding_txid = some "txid" ∧
      ¬ s.1.store.Clean := by
  have hreach := reachable_calmAbandoned anyRun 31 (fun _ _ => trivial) (by decide +kernel) trivial
  refine ⟨_, reachable_calm_sync (by decide +kernel) hreach, ?_, ?_, ?_⟩
  · decide +kernel
  · decide +kernel
  · decide +kernel

end Superorganism.Spawn
