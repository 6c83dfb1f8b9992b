/-
The outline every proof about the spawn pipeline follows.

Its assertions follow the persisted flag as the code reads it (`idle`, `recovering`)
and the spawn in hand (`active`, then `known` once the child's identity is there).
Given a triple for each of the stages that matter, `Outline.boot` and `Outline.tick`
are triples for what runs after a restart and in each round of the decision loop, and
`Outline.inv_of_reachable` is the invariant of every run.

Between two reads of the rows a signal may abandon the spawn. `Underway i` is what
remains true of the pipeline of spawn `i` at every point: the rows are those of `i`,
or the decision loop has been cancelled and the next await is the program's last
operation.
-/
import Superorganism.SpawnFootprint

set_option autoImplicit false

open Superorganism.Process Superorganism.Process.Prog Superorganism.Process.Contract

namespace Superorganism.Spawn

variable {cfg : Setup} {reg : Regime}

/-! ## The rows of the spawn in hand -/

/-- The rows are those of the spawn `i`. -/
def Live (i : String) (w : World) : Prop :=
  w.store.is_spawn_in_progress = true ∧ w.store.get_spawn_id = i

theorem live_started (w : World) (i : String) : Live i (w.started i) :=
  ⟨Store.in_progress_mark_spawn_started .., Store.spawn_id_mark_spawn_started ..⟩

theorem not_live_completed (w : World) (success : Bool) (address : String) (i : String) :
    ¬ Live i (w.completed success address) := by
  intro h
  rw [Live, World.completed, Store.in_progress_mark_spawn_completed] at h
  exact Bool.false_ne_true h.1

theorem Live.congr {i : String} {w w' : World}
    (hp : w'.store .spawn_in_progress = w.store .spawn_in_progress)
    (hid : w'.store .spawn_id = w.store .spawn_id) : Live i w' ↔ Live i w := by
  rw [Live, Live, Store.is_spawn_in_progress, Store.is_spawn_in_progress, Store.get_spawn_id,
    Store.get_spawn_id, hp, hid]

theorem live_put {w : World} {k : Key} {v : k.Val} (hp : Key.spawn_in_progress ≠ k)
    (hid : Key.spawn_id ≠ k) (i : String) : Live i (w.put k v) ↔ Live i w :=
  Live.congr (Store.set_of_ne _ _ hp) (Store.set_of_ne _ _ hid)

/-- An operation that writes neither row of the flag leaves the spawn in hand. -/
theorem Frame.live {c : Cmd} {w w' : World} (h : Frame c w w')
    (hp : ¬ c.Writes .spawn_in_progress) (hid : ¬ c.Writes .spawn_id) (i : String) :
    Live i w' ↔ Live i w :=
  Live.congr (h.store _ hp) (h.store _ hid)

/-- The token of the spawn `i` in the rows. -/
def tokenOf (i : String) (s : Store) : Option String :=
  _rehydrate_sporestack_token (s .spawn_sporestack_token) i

/-- How many events of a kind the operation cannot cause there are. -/
theorem Frame.countP {c : Cmd} {w w' : World} (h : Frame c w w') {p : Event → Bool}
    (hp : ∀ e, c.Emits e → p e = false) : w'.log.countP p = w.log.countP p := by
  obtain ⟨es, hes, hall⟩ := h.log
  have hnone : es.countP p = 0 :=
    List.countP_eq_zero.mpr fun e he => by simp [hp e (hall e he)]
  rw [hes, List.countP_append, hnone, Nat.zero_add]

theorem Frame.count {c : Cmd} {w w' : World} (h : Frame c w w') {e : Event} (he : ¬ c.Emits e) :
    w'.log.count e = w.log.count e := by
  refine h.countP fun e' he' => ?_
  simp only [beq_eq_false_iff_ne]
  rintro rfl
  exact he he'

theorem Frame.mem_log {c : Cmd} {w w' : World} (h : Frame c w w') {e : Event} (he : ¬ c.Emits e) :
    e ∈ w'.log ↔ e ∈ w.log := by
  rw [← List.count_pos_iff, ← List.count_pos_iff, h.count he]

/-- How often a spawn was started under this id. -/
def World.starts (w : World) (i : String) : ℕ := w.log.count (.spawn_started i)

theorem starts_started (w : World) (i j : String) :
    (w.started i).starts j = w.starts j + if i = j then 1 else 0 := by
  unfold World.starts World.started
  split
  · simp [World.emit, List.count_cons]
  · simp [World.emit, List.count_cons]

/-- What holds of the rows as long as they are those of the spawn `i`. -/
def WhileLive (i : String) (φ : Store → Prop) (w : World) : Prop := Live i w → φ w.store

theorem Frame.whileLive {c : Cmd} {w w' : World} {i : String} {φ : Store → Prop}
    (h : Frame c w w') (hp : ¬ c.Writes .spawn_in_progress) (hid : ¬ c.Writes .spawn_id)
    (hφ : φ w.store → φ w'.store) (hw : WhileLive i φ w) : WhileLive i φ w' :=
  fun hlive => hφ (hw ((h.live hp hid i).mp hlive))

/-- The pipeline of the spawn `i` runs. -/
def Underway (i : String) (w : World) : Prop :=
  w.tasks = true ∧
    (Live i w ∨ (w.cancelled = true ∧ w.store.is_spawn_in_progress = false))

/-- A spawn was in progress, and if it no longer is, the loop has been cancelled. -/
def Resuming (w : World) : Prop :=
  w.tasks = true ∧ (w.store.is_spawn_in_progress = true ∨ w.cancelled = true)

theorem Resuming.underway {w : World} (h : Resuming w) : Underway w.store.get_spawn_id w := by
  refine ⟨h.1, ?_⟩
  cases hp : w.store.is_spawn_in_progress with
  | true => exact .inl ⟨hp, rfl⟩
  | false => exact .inr ⟨h.2.resolve_left (by simp [hp]), rfl⟩

/-- No other spawn is in the rows. -/
theorem Underway.unique {i j : String} {w : World} (h : Underway i w) (hj : Live j w) : i = j := by
  rcases h.2 with hi | ⟨-, hp⟩
  · exact hi.2.symm.trans hj.2
  · exact absurd (hp.symm.trans hj.1) Bool.false_ne_true

theorem Underway.live_or_cancelled {i : String} {w : World} (h : Underway i w) :
    Live i w ∨ w.cancelled = true :=
  h.2.imp_right And.left

theorem Underway.put {i : String} {w : World} {k : Key} {v : k.Val} (h : Underway i w)
    (hp : Key.spawn_in_progress ≠ k) (hid : Key.spawn_id ≠ k) : Underway i (w.put k v) := by
  have hflag : (w.put k v).store .spawn_in_progress = w.store .spawn_in_progress :=
    Store.set_of_ne _ _ hp
  refine ⟨h.1, h.2.imp (live_put hp hid i).mpr fun hc => ⟨hc.1, ?_⟩⟩
  rw [← hc.2, Store.is_spawn_in_progress, hflag, Store.is_spawn_in_progress]

theorem Frame.underway {c : Cmd} {w w' : World} {i : String} (h : Frame c w w')
    (hp : ¬ c.Writes .spawn_in_progress) (hid : ¬ c.Writes .spawn_id) (hw : Underway i w) :
    Underway i w' := by
  refine ⟨h.tasks hw.1, hw.2.imp (h.live hp hid i).mpr fun ⟨hc, hn⟩ => ?_⟩
  rw [h.cancelled, hc, Store.is_spawn_in_progress, h.store _ hp]
  exact ⟨rfl, hn⟩

/-! ## Contracts over the node -/

/-- The contract of an invariant under signals. -/
def signalContract (cfg : Setup) (reg : Regime) (ok : World → Prop) (Inv : World → Prop)
    (h : ∀ w w', Signalled ok w w' → Inv w → Inv w') : Contract (machine cfg reg) where
  env := Signal cfg.toConfig ok
  Inv := Inv
  inv_env w w' hs := h w w' hs.signalled

section

variable {ok Inv : World → Prop} {hinv : ∀ w w', Signalled ok w w' → Inv w → Inv w'}

theorem stable_of_signalled {P : World → Prop} (h : ∀ w w', Signalled ok w w' → P w → P w') :
    (signalContract cfg reg ok Inv hinv).Stable P :=
  fun w w' hs _ => h w w' (Signal.signalled hs)

theorem stable_log (P : List Event → Prop) :
    (signalContract cfg reg ok Inv hinv).Stable fun w => P w.log :=
  stable_of_signalled fun w w' h hw => by
    rw [h.log]
    exact hw

theorem stable_tasks : (signalContract cfg reg ok Inv hinv).Stable fun w => w.tasks = true :=
  stable_of_signalled fun w w' h hw => by rw [h.tasks, hw]

theorem stable_underway (i : String) :
    (signalContract cfg reg ok Inv hinv).Stable (Underway i) := by
  refine stable_of_signalled fun w w' h hw => ⟨by rw [h.tasks, hw.1], ?_⟩
  rcases h.rows with hrows | ⟨-, hp, -, hcancel⟩
  · rw [hrows]
    exact hw.2.imp (Live.congr (by rw [hrows]) (by rw [hrows])).mpr (.imp_left h.cancelled)
  · exact .inr ⟨hcancel hw.1, hp⟩

theorem stable_whileLive (i : String) (φ : Store → Prop) :
    (signalContract cfg reg ok Inv hinv).Stable (WhileLive i φ) := by
  refine stable_of_signalled fun w w' h hw hlive => ?_
  rcases h.rows with hrows | ⟨-, hp, -, -⟩
  · rw [hrows]
    exact hw ((Live.congr (by rw [hrows]) (by rw [hrows])).mp hlive)
  · exact absurd (hp.symm.trans hlive.1) Bool.false_ne_true

theorem stable_resuming : (signalContract cfg reg ok Inv hinv).Stable Resuming := by
  refine stable_of_signalled fun w w' h hw => ⟨by rw [h.tasks, hw.1], ?_⟩
  rcases h.rows with hrows | ⟨-, -, -, hcancel⟩
  · exact hw.2.imp (fun hp => by rw [hrows, hp]) h.cancelled
  · exact .inr (hcancel hw.1)

end

section

variable {G : Contract (machine cfg reg)} {α : Type} {P : World → Prop}

/-- What changes nothing keeps every stable assertion. -/
theorem triple_quiet {p : Coro α} (hp : p.Within Quiet) (hP : G.Stable P) :
    G.Triple P p (fun _ => P) fun _ => P := by
  refine triple_within hp hP fun c hc w r w' hi hw hexec => ?_
  rw [exec_quiet hc hexec.1]
  exact ⟨hi, fun _ => hw⟩

theorem triple_quiet_any {p : Coro α} (hp : p.Within Quiet) (hP : G.Stable P) :
    G.Triple P p (fun _ => P) Any :=
  (triple_quiet hp hP).post fun _ _ _ h => h

/-- Reading a row. -/
theorem triple_get {k : Key} {Q : Option k.Val → World → Prop} (hP : G.Stable P)
    (h : ∀ w, G.Inv w → P w → Q (w.store k) w) : G.Triple P (perform (.get k)) Q Any := by
  refine triple_call hP fun w r w' hi hw hexec => ?_
  obtain ⟨⟨rfl, hr⟩, -⟩ := hexec
  refine ⟨hi, fun _ => ⟨fun v hv => ?_, fun _ _ => trivial⟩⟩
  rw [hr v hv]
  exact h _ hi hw

/-- A call on `NodePersistentState` that commits or changes nothing. -/
theorem triple_commits {c : Cmd} {a : c.Ret} {Q : c.Ret → World → Prop} (after : World → World)
    (hc : ∀ w r w', exec c w r w' → commits w a (after w) r w') (hP : G.Stable P)
    (h : ∀ w, G.Inv w → P w → G.Inv (after w) ∧ Q a (after w)) : G.Triple P (perform c) Q Any := by
  refine triple_call hP fun w r w' hi hw hexec => ?_
  rcases hc w r w' hexec.1 with ⟨rfl, rfl⟩ | ⟨⟨e, rfl⟩, rfl⟩
  · refine ⟨(h w hi hw).1, fun _ => ⟨fun v hv => ?_, fun _ _ => trivial⟩⟩
    cases hv
    exact (h w hi hw).2
  · exact ⟨hi, fun _ => ⟨fun v hv => (nomatch hv), fun _ _ => trivial⟩⟩

theorem triple_require {b : Bool} {e : Exc} :
    G.Triple P (require b e) (fun _ w => b = true ∧ P w) Any := by
  cases b with
  | false => exact triple_raise fun _ _ _ => trivial
  | true => exact triple_pure fun _ _ h => ⟨rfl, h⟩

end

/-! ## The outline -/

/-- The assertions of a run and what is owed for them. -/
structure Outline (G : Contract (machine cfg reg)) where
  /-- No spawn was in progress when the flag was read. -/
  idle : World → Prop
  /-- One was. -/
  recovering : World → Prop
  /-- The pipeline of this spawn runs. -/
  active : String → World → Prop
  /-- The same, with the child's identity in hand. -/
  known : String → ChildIdentity → World → Prop
  stable_idle : G.Stable idle
  stable_recovering : G.Stable recovering
  stable_active : ∀ i, G.Stable (active i)
  stable_known : ∀ i d, G.Stable (known i d)
  stable_tasks : G.Stable fun w => w.tasks = true
  inv_congr : ∀ w w', w'.store = w.store → w'.log = w.log → G.Inv w → G.Inv w'
  idle_of : ∀ w, G.Inv w → w.tasks = true → w.store.is_spawn_in_progress = false → idle w
  recovering_of : ∀ w, G.Inv w → w.tasks = true → w.store.is_spawn_in_progress = true → recovering w
  active_of : ∀ w, G.Inv w → recovering w → active w.store.get_spawn_id w
  aside : ∀ c, Aside c → ∀ w w', G.Inv w → Frame c w w' → G.Inv w' ∧ (idle w → idle w')
  completed : ∀ w success address, G.Inv w → G.Inv (w.completed success address)
  started : ∀ w i, G.Inv w → idle w → G.Inv (w.started i) ∧ active i (w.started i)
  identity : ∀ i, G.Triple (active i) (obtain_identity cfg i) (known i) Any
  vps : ∀ i d, G.Triple (known i d) (obtain_vps cfg i d) (fun _ => known i d) Any
  transfer : ∀ i d ns, G.Triple (known i d) (transfer_inheritance cfg d ns) Any Any

namespace Outline

variable {G : Contract (machine cfg reg)} (O : Outline G)
include O

theorem finish_spawn_triple (i : String) (ns : NodeState) (caution : ℚ) (d : ChildIdentity) :
    G.Triple (O.known i d) (finish_spawn cfg ns caution d) Any Any := by
  have hsteps : G.Triple (O.known i d) (do
      let _ ← boot_child_orchestrator d caution
      let _ ← transfer_inheritance cfg d ns
      pure true : Coro Bool) Any Any := by
    have hboot := triple_quiet_any (boot_child_orchestrator_quiet d caution) (O.stable_known i d)
    refine hboot.bind fun _ => ?_
    exact (O.transfer i d ns).bind fun _ => triple_pure fun _ _ _ => trivial
  have hdisconnect : G.Triple (fun _ => True) _safe_disconnect Any Any :=
    triple_quiet_any safe_disconnect_quiet stable_true
  refine Triple.bind (hsteps.tryCatch fun _ => triple_pure fun _ _ _ => trivial) fun _ => ?_
  exact hdisconnect.bind fun _ => triple_pure fun _ _ _ => trivial

/-- The pipeline of one spawn. -/
theorem spawn_child_triple (i : String) (ns : NodeState) (caution : ℚ) :
    G.Triple (O.active i) (spawn_child cfg ns caution i) Any Any := by
  have hsteps : G.Triple (O.active i) (spawn_steps cfg ns caution i) Any Any := by
    refine (O.identity i).bind fun d => (O.vps i d).bind fun vps_info => ?_
    have hdeploy := triple_quiet_any (deploy_child_code_quiet cfg d vps_info) (O.stable_known i d)
    exact hdeploy.bind fun _ => O.finish_spawn_triple i ns caution d
  refine (triple_quiet_any (.call rfl) (O.stable_active i)).bind fun ps => ?_
  cases ps with
  | false => exact triple_pure fun _ _ _ => trivial
  | true => exact hsteps.tryCatch fun _ => triple_pure fun _ _ _ => trivial

/-- What the decision loop does besides spawning. -/
theorem aside_triple {α : Type} {p : Coro α} (hp : p.Within Aside) :
    G.Triple O.idle p (fun _ => O.idle) fun _ => O.idle := by
  refine triple_within hp O.stable_idle fun c hc w r w' hi hw hexec => ?_
  obtain ⟨hi', hidle⟩ := O.aside c hc w w' hi (exec_frame hexec.1)
  exact ⟨hi', fun _ => hidle hw⟩

theorem is_spawn_in_progress_triple :
    G.Triple (fun w => w.tasks = true) is_spawn_in_progress
      (fun b w => if b then O.recovering w else O.idle w) Any := by
  refine Triple.bind (triple_get O.stable_tasks fun w hi ht => ?_) fun value => triple_pure fun w _ h => h
  cases h : Option.getD (w.store .spawn_in_progress) false with
  | false => exact O.idle_of w hi ht h
  | true => exact O.recovering_of w hi ht h

theorem completed_triple {P : World → Prop} (hP : G.Stable P) (success : Bool) (address : String) :
    G.Triple P (perform (.mark_spawn_completed success address)) Any Any :=
  triple_commits (fun w => w.completed success address) (fun _ _ _ h => h) hP fun w hi _ =>
    ⟨O.completed w success address hi, trivial⟩

theorem recover_spawn_triple : G.Triple O.recovering (recover_spawn cfg) Any Any := by
  have hid : G.Triple O.recovering get_spawn_id O.active Any :=
    (triple_get O.stable_recovering fun w hi hw => O.active_of w hi hw).bind
      fun _ => triple_pure fun _ _ h => h
  refine hid.bind fun i => ?_
  by_cases hi : i = ""
  · rw [if_pos hi]
    exact O.completed_triple (O.stable_active i) false ""
  rw [if_neg hi]
  have hquiet {α : Type} {p : Coro α} (hp : p.Within Quiet) :
      G.Triple (O.active i) p (fun _ => O.active i) Any :=
    triple_quiet_any hp (O.stable_active i)
  refine (hquiet wait_for_node_state_quiet).bind fun ready => ?_
  have hmonitor : (if ready then perform (.initialised .node_monitor) else pure false : Coro Bool).Within
      Quiet := .ite (fun _ => .call rfl) fun _ => trivial
  refine (hquiet hmonitor).bind fun monitor => ?_
  cases monitor with
  | false => exact triple_pure fun _ _ _ => trivial
  | true =>
      refine (hquiet (.call rfl)).bind fun ns => ?_
      refine (hquiet get_caution_trait_quiet).bind fun caution => ?_
      exact (O.spawn_child_triple i ns caution).bind fun _ => triple_pure fun _ _ _ => trivial

theorem handle_recovery_triple :
    G.Triple (fun w => w.tasks = true) (_handle_recovery cfg) Any Any := by
  refine (triple_quiet_any (.call rfl) O.stable_tasks).bind fun ps => ?_
  cases ps with
  | false => exact triple_pure fun _ _ _ => trivial
  | true =>
      refine O.is_spawn_in_progress_triple.bind fun spawning => ?_
      cases spawning with
      | true => exact O.recover_spawn_triple
      | false =>
          refine (O.aside_triple ?_).anyway
          refine .bind (is_failsafe_in_progress_quiet.mono fun _ => touches_quiet) fun failing => ?_
          exact .ite (fun _ => recover_failsafe_aside cfg) fun _ => trivial

/-- **What runs after a restart.** -/
theorem boot_triple : G.Triple (fun _ => True) (boot cfg) Any Any := by
  have hcaution : G.Triple (fun _ => True) (initialise_caution cfg) Any Any :=
    (triple_within (initialise_caution_aside cfg) stable_true fun c hc w r w' hi _ hexec =>
      ⟨(O.aside c hc w w' hi (exec_frame hexec.1)).1, fun _ => trivial⟩).anyway
  have hseeding : G.Triple (fun _ => True) (start_seeding cfg) Any Any :=
    triple_quiet_any (start_seeding_quiet cfg) stable_true
  have htasks : G.Triple (fun _ => True) (perform .create_tasks) (fun _ w => w.tasks = true) Any := by
    refine triple_call stable_true fun w r w' hi _ hexec => ?_
    obtain ⟨⟨-, rfl⟩, -⟩ := hexec
    exact ⟨O.inv_congr w _ rfl rfl hi, fun _ => ⟨fun _ _ => rfl, fun _ _ => trivial⟩⟩
  exact hcaution.bind fun _ => hseeding.bind fun _ => htasks.bind fun _ => O.handle_recovery_triple

theorem decide_spawn_triple (ns : NodeState) (caution : ℚ) :
    G.Triple O.idle (decide_spawn cfg ns caution) Any Any := by
  unfold decide_spawn
  split
  · refine (triple_quiet_any (.call rfl) O.stable_idle).bind fun hex => ?_
    have hstart (i : String) :
        G.Triple O.idle (perform (.mark_spawn_started i)) (fun _ => O.active i) Any :=
      triple_commits (fun w => w.started i) (fun _ _ _ h => h) O.stable_idle
        fun w hi hw => O.started w i hi hw
    refine (hstart _).bind fun _ => ?_
    exact (O.spawn_child_triple _ ns caution).bind fun _ => triple_pure fun _ _ _ => trivial
  · exact triple_pure fun _ _ _ => trivial

theorem act_triple (ns : NodeState) (days : ℤ) (caution : ℚ) (peers : List PeerInfo) :
    G.Triple O.idle (act cfg ns days caution peers) Any Any := by
  unfold act
  split
  · have hcaught : ((execute_failsafe cfg peers).tryCatch fun _ => pure ()).Within Aside :=
      .tryCatch (execute_failsafe_aside cfg peers) fun _ => trivial
    exact (O.aside_triple hcaught).anyway
  · have htopup : (if days < cfg.TOPUP_TRIGGER_DAYS then topup_and_refresh cfg ns
        else pure (some ns)).Within Aside :=
      .ite (fun _ => topup_and_refresh_aside cfg ns) fun _ => trivial
    refine ((O.aside_triple htopup).post fun _ _ _ h => h).bind fun current => ?_
    cases current with
    | none => exact triple_pure fun _ _ _ => trivial
    | some ns => exact O.decide_spawn_triple ns caution

/-- **One round of the decision loop.** -/
theorem tick_triple : G.Triple (machine cfg reg).ticking (_tick cfg) Any Any := by
  suffices h : G.Triple (fun w => w.tasks = true) (_tick cfg) Any Any from h.pre fun w _ hw => hw.2
  have hquiet {α : Type} {p : Coro α} (hp : p.Within Quiet) :
      G.Triple (fun w => w.tasks = true) p (fun _ w => w.tasks = true) Any :=
    triple_quiet_any hp O.stable_tasks
  refine (hquiet (.call rfl)).bind fun ps => (hquiet (.call rfl)).bind fun monitor =>
    (hquiet (.call rfl)).bind fun registry => ?_
  split
  · refine (hquiet (.call rfl)).bind fun ns => ?_
    split
    · exact triple_pure fun _ _ _ => trivial
    · split
      · exact triple_pure fun _ _ _ => trivial
      · refine (hquiet get_caution_trait_quiet).bind fun caution => ?_
        refine (hquiet (.call rfl)).bind fun peers => O.is_spawn_in_progress_triple.bind fun spawning => ?_
        cases spawning with
        | true => exact triple_pure fun _ _ _ => trivial
        | false =>
            have hfailing := triple_quiet_any is_failsafe_in_progress_quiet O.stable_idle
            refine hfailing.bind fun failing => ?_
            cases failing with
            | true => exact triple_pure fun _ _ _ => trivial
            | false => exact O.act_triple ns _ caution peers
  · exact triple_pure fun _ _ _ => trivial

theorem inv_restart (w w' : World) (h : Restart w w') (hi : G.Inv w) : G.Inv w' := by
  obtain ⟨t, -, rfl⟩ := h
  exact O.inv_congr w _ rfl rfl hi

/-- **The invariant of an outlined contract holds in every reachable state.** -/
theorem inv_of_reachable {w₀ : World} {s : World × Proc Cmd Cmd.Ret Exc}
    (hs : (machine cfg reg).Reachable w₀ s) (hinit : G.Inv w₀)
    (hsignal : ∀ p w w', Signal cfg.toConfig (reg.abandons p) w w' → G.env w w') : G.Inv s.1 :=
  Contract.inv_of_reachable hs hinit (fun p w w' _ h => hsignal p w w' h) O.inv_restart
    O.boot_triple O.tick_triple

end Outline

/-! ## A run without trouble

A node and services that answer at once, for the concrete runs of the other modules. The
one thing that can go wrong is the balance `_fund_sporestack_token` is told. -/

def calmSetup : Setup where
  SIM_MODE := false
  DATA_DIR := "/root/data"
  INITIAL_CAUTION_TRAIT := 1 / 2
  DEFAULT_BTC_ADDRESS := ""
  MAX_SPAWN_DURATION := 7200
  SPAWN_FEE_BUFFER_SAT := 5000
  SPORESTACK_MIN_INVOICE_DOLLARS := 5
  FAILSAFE_TRIGGER_DAYS := 2
  TOPUP_TRIGGER_DAYS := 30
  TOPUP_TARGET_DAYS := 30
  VPS_PROVIDER := "sporestack_eu"
  compute_child_share btc_balance_sat := max 0 (btc_balance_sat - 60000) * 2 / 5
  check_spawn_eligibility _ _ := true
  parse_bitcoin_uri _ := .ok (some ("bc1qinvoice", 60000))
  repr _ := ""
  polls := 60

def calmServer (machine_id : String) : Server :=
  { machine_id := some machine_id, ipv4 := some "10.0.0.1", ipv6 := none, ssh_port := none,
    created_at := some (.number 1), created := none }

/-- The servers launched under a token. -/
def launchedServers (t : String) (w : World) : List Server :=
  w.log.filterMap fun
    | .server_launched t' m => if t' = t then some (calmServer m) else none
    | _ => none

/-- What the services answer. -/
def calm (reconciled : Option ℤ) : (c : Cmd) → World → Except Exc c.Ret × World
  | .get k, w => (.ok (w.store k), w)
  | .set k v, w => (.ok (), w.put k v)
  | .mark_spawn_started i, w => (.ok (), w.started i)
  | .mark_spawn_completed success address, w => (.ok (), w.completed success address)
  | .create_tasks, w => (.ok (), { w with tasks := true })
  | .time, w => (.ok w.now, w)
  | .initialised _, w => (.ok true, w)
  | .get_state, w =>
      (.ok { btc_balance_sat := 1000000, sporestack_balance_cents := 0, days_remaining := some 100,
             total_runway_days := some 1000, last_updated := 1, vps_provider := "" }, w)
  | .get_live_peers, w => (.ok [], w)
  | .uuid4_hex, w => (.ok "0123456789abcdef0123456789abcdef", w)
  | .generate_ssh_keypair key_path _, w => (.ok (key_path, "ssh-ed25519 AAAA"), w)
  | .generate_child_btc_wallet _, w => (.ok ("abandon about", "bc1qchild"), w)
  | .calculate_monthly_vps_cost _, w => (.ok 3000, w)
  | .read_token_file, w => (.ok (some "parent"), w)
  | .mutate_caution_trait parent_trait, w => (.ok parent_trait, w)
  | .sleep _, w => (.ok (), w)
  | .download_content, w => (.ok (), w)
  | .initialize_seedbox, w => (.ok true, w)
  | .refresh, w => (.ok (), w)
  | .generate_token, w => (.ok (some "token"), w.emit (.token_minted "token"))
  | .create_invoice purpose _ _, w =>
      (.ok (some { payment_uri := "bitcoin:bc1qinvoice?amount=0.0006", created := none,
                   expires := some 600, invoice := none, repr := "" }),
        w.emit (.invoice_requested purpose))
  | .get_balance .reconcile _, w => (.ok reconciled, w)
  | .get_balance .poll _, w => (.ok (some 3000), w)
  | .find_prior_send _ _, w => (.ok none, w)
  | .get_balance_satoshis, w => (.ok 900000, w)
  | .wallet_send purpose _ _, w =>
      (.ok "txid", (w.emit (.send_invoked purpose)).emit (.send_effective purpose))
  | .wallet_scan, w => (.ok (), w)
  | .sweep_all _, w => (.ok "txid", w)
  | .get_servers t, w => (.ok (launchedServers t w), w)
  | .launch_server t _ _, w => (.ok (some "machine"), w.emit (.server_launched t "machine"))
  | .wait_for_server_ready _ machine_id, w => (.ok (some (calmServer machine_id)), w)
  | .deploy _, w => (.ok (), w)
  | .check_health, w => (.ok true, w)

theorem exec_calm (reconciled : Option ℤ) (c : Cmd) (w : World) :
    exec c w (calm reconciled c w).1 (calm reconciled c w).2 := by
  cases c with
  | get k => exact ⟨rfl, fun v hv => (Except.ok.inj hv).symm⟩
  | set k v => exact .inl ⟨rfl, rfl⟩
  | mark_spawn_started i => exact .inl ⟨rfl, rfl⟩
  | mark_spawn_completed success address => exact .inl ⟨rfl, rfl⟩
  | create_tasks => exact ⟨rfl, rfl⟩
  | time => exact ⟨rfl, rfl⟩
  | find_prior_send address amount_sat => exact ⟨rfl, fun v hv => ⟨[], (Except.ok.inj hv).symm⟩⟩
  | generate_token =>
      refine .inl ⟨"token", rfl, fun v hv => ?_⟩
      exact (Option.some.inj (Except.ok.inj hv)).symm
  | wallet_send purpose address amount_sat => exact .inl rfl
  | launch_server t ssh_key hostname =>
      refine .inl ⟨"machine", rfl, fun v hv => ?_⟩
      exact (Option.some.inj (Except.ok.inj hv)).symm
  | get_balance site t =>
      cases site with
      | reconcile => exact rfl
      | poll => exact rfl
  | _ => exact rfl

/-- Calm services can give these answers and cut nothing off. -/
theorem step_calm {cfg : Setup} {reg : Regime} {reconciled : Option ℤ}
    (hreg : ∀ c w, reg.answers c w (calm reconciled c w).1) (c : Cmd) (w : World)
    (hc : w.cancelled = false) :
    (machine cfg reg).exec c w (calm reconciled c w).1 (calm reconciled c w).2 ∧
      ¬ (machine cfg reg).interrupted c w ∧ (calm reconciled c w).2.cancelled = false := by
  have hexec := exec_calm reconciled c w
  refine ⟨⟨hexec, hreg c w⟩, fun hint => ?_, ?_⟩
  · exact Bool.false_ne_true (hc.symm.trans hint.2)
  · rw [(exec_frame hexec).cancelled, hc]

/-- A program keeps running as the calm services answer it. -/
theorem reachable_calm {cfg : Setup} {reg : Regime} {w₀ : World} {reconciled : Option ℤ}
    (hreg : ∀ c w, reg.answers c w (calm reconciled c w).1) (n : ℕ) {s : World × Coro Unit}
    (hs : (machine cfg reg).Reachable w₀ (s.1, .running s.2)) (hw : s.1.cancelled = false) :
    (machine cfg reg).Reachable w₀ ((Machine.play (calm reconciled) n s).1,
      .running (Machine.play (calm reconciled) n s).2) :=
  hs.play (step_calm hreg) n hw

/-- The node after its first boot. -/
def calmBoot (reconciled : Option ℤ) : World × Coro Unit :=
  Machine.play (calm reconciled) 20 ({ World.fresh 0 with running := true }, boot calmSetup)

/-- The first round of the decision loop, `n` operations into it. -/
def calmSpawn (reconciled : Option ℤ) (n : ℕ) : World × Coro Unit :=
  Machine.play (calm reconciled) n ((calmBoot reconciled).1, _tick calmSetup)

/-- A crash `n` operations into that round, a restart a minute later, and `m` operations
of what runs then. -/
def calmResume (reconciled : Option ℤ) (n m : ℕ) : World × Coro Unit :=
  Machine.play (calm reconciled) m
    ({ (calmSpawn reconciled n).1 with now := 60, running := true, tasks := false,
                                       cancelled := false }, boot calmSetup)

theorem reachable_calmSpawn {reg : Regime} {reconciled : Option ℤ}
    (hreg : ∀ c w, reg.answers c w (calm reconciled c w).1)
    (hboot : (calmBoot reconciled).2.done = true ∧ (calmBoot reconciled).1.running = true ∧
      (calmBoot reconciled).1.tasks = true ∧ (calmBoot reconciled).1.cancelled = false) (n : ℕ) :
    (machine calmSetup reg).Reachable (World.fresh 0)
      ((calmSpawn reconciled n).1, .running (calmSpawn reconciled n).2) := by
  have hstart : (machine calmSetup reg).Reachable (World.fresh 0)
      ({ World.fresh 0 with running := true }, .running (boot calmSetup)) :=
    .tail .refl (.restart ⟨0, le_refl _, rfl⟩)
  have h := (reachable_calm hreg 20 (s := (_, _)) hstart rfl).next hboot.1 ⟨hboot.2.1, hboot.2.2.1⟩
  exact reachable_calm hreg n (s := (_, _)) h hboot.2.2.2

theorem reachable_calmResume {reg : Regime} {reconciled : Option ℤ} {n : ℕ}
    (hreg : ∀ c w, reg.answers c w (calm reconciled c w).1)
    (hs : (machine calmSetup reg).Reachable (World.fresh 0)
      ((calmSpawn reconciled n).1, .running (calmSpawn reconciled n).2))
    (hnow : (calmSpawn reconciled n).1.now ≤ 60) (m : ℕ) :
    (machine calmSetup reg).Reachable (World.fresh 0)
      ((calmResume reconciled n m).1, .running (calmResume reconciled n m).2) := by
  have hrestart := (hs.tail .crash).tail (.restart ⟨60, hnow, rfl⟩)
  exact reachable_calm hreg m (s := (_, _)) hrestart rfl

end Superorganism.Spawn
