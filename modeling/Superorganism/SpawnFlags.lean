/-
The two flags of the decision loop: a spawn in progress and a failsafe in progress.

They are written in different modules, around awaits that may fail or be cut off, and a
crash freezes them as they are. They are never both up all the same (`Exclusive`). A spawn
is started only where both were read as down, and only a signal can change a flag between
that read and the start: it can take the spawn's down. A failsafe is started only where
the spawn's was read as down. And while a spawn runs nothing of its pipeline writes the
flag of the failsafe.

What starts something in a round of the loop is watched: where such an operation is
performed both flags are down (`flags_exclusive`). A recovery is not a round. It retries an
interrupted failsafe with the flag still up, and resumes a spawn without starting one.
-/
import Superorganism.SpawnOutline

set_option autoImplicit false

open Relation
open Superorganism.Process Superorganism.Process.Prog Superorganism.Process.Contract

namespace Superorganism.Spawn

variable {cfg : Setup}

/-! ## The flags -/

def Store.is_failsafe_in_progress (s : Store) : Bool := (s .failsafe_in_progress).getD false

def NoSpawn (w : World) : Prop := w.store.is_spawn_in_progress = false

def NoFailsafe (w : World) : Prop := w.store.is_failsafe_in_progress = false

/-- The flags are not both up. -/
def Exclusive (w : World) : Prop := NoSpawn w ∨ NoFailsafe w

/-- The operations that start something: a failsafe, a spawn, a top-up. -/
inductive Starts : Cmd → Prop where
  | mark_failsafe_started : Starts (.set .failsafe_in_progress true)
  | mark_spawn_started (spawn_id : String) : Starts (.mark_spawn_started spawn_id)
  | create_invoice (token : String) (dollars : ℤ) : Starts (.create_invoice .topup token dollars)
  | wallet_send (address : String) (amount_sat : ℤ) :
      Starts (.wallet_send .topup address amount_sat)

theorem Quiet.not_starts {c : Cmd} (h : Quiet c) : ¬ Starts c := by
  intro hs
  cases hs with
  | mark_failsafe_started => exact absurd h Bool.false_ne_true
  | mark_spawn_started spawn_id => exact absurd h Bool.false_ne_true
  | create_invoice token dollars => exact absurd h Bool.false_ne_true
  | wallet_send address amount_sat => exact absurd h Bool.false_ne_true

/-- A signal leaves the failsafe's flag alone and never raises the spawn's. -/
theorem Signal.flags {ok : World → Prop} {w w' : World} (h : Signal cfg.toConfig ok w w') :
    (NoFailsafe w → NoFailsafe w') ∧ (NoSpawn w → NoSpawn w') := by
  rcases h with ⟨t, -, rfl⟩ | ⟨-, rfl⟩
  · exact ⟨id, id⟩
  · by_cases ha : Abandons cfg.toConfig w
    · rw [_handle_shutdown_of_abandons ha]
      refine ⟨fun h => ?_, fun _ => Store.in_progress_mark_spawn_completed ..⟩
      have hrow : ((w.completed false "").initiate_shutdown).store .failsafe_in_progress =
          w.store .failsafe_in_progress := by
        have hframe : Frame (.mark_spawn_completed false "") w (w.completed false "") :=
          exec_frame (.inl ⟨rfl, rfl⟩)
        exact hframe.store .failsafe_in_progress (by simp [Cmd.Writes, _SPAWN_KEYS_TO_CLEAR])
      rw [NoFailsafe, Store.is_failsafe_in_progress, hrow]
      exact h
    · rcases _handle_shutdown_of_not_abandons ha with hs | ⟨-, hs⟩
      · rw [hs]
        exact ⟨id, id⟩
      · rw [hs]
        exact ⟨id, id⟩

/-- The contract of every run, with the flags exclusive. -/
def flagsContract (cfg : Setup) : Contract (machine cfg anyRun) where
  env := Signal cfg.toConfig fun _ => True
  Inv := Exclusive
  inv_env _ _ h hi := hi.imp h.flags.2 h.flags.1

theorem stable_noSpawn : (flagsContract cfg).Stable NoSpawn := by
  intro w w' h _
  have hsignal : Signal cfg.toConfig (fun _ => True) w w' := h
  exact hsignal.flags.2

theorem stable_noFailsafe : (flagsContract cfg).Stable NoFailsafe := by
  intro w w' h _
  have hsignal : Signal cfg.toConfig (fun _ => True) w w' := h
  exact hsignal.flags.1

/-! ## The pipeline -/

/-- Operations that leave the failsafe's flag alone and start nothing. -/
def Pipeline (c : Cmd) : Prop := ¬ c.Writes .failsafe_in_progress ∧ ¬ Starts c

theorem Touches.pipeline {c : Cmd} {K : List Key} {V : Event → Prop} (h : Touches K V c)
    (hK : Key.failsafe_in_progress ∉ K) (hspawn : ∀ i, ¬ V (.spawn_started i))
    (hinvoice : ¬ V (.invoice_requested .topup)) (hsend : ¬ V (.send_invoked .topup)) :
    Pipeline c := by
  refine ⟨fun hw => hK (h.1 _ hw), fun hs => ?_⟩
  cases hs with
  | mark_failsafe_started => exact hK (h.1 _ rfl)
  | mark_spawn_started i => exact hspawn i (h.2 _ (.inl rfl))
  | create_invoice token dollars => exact hinvoice (h.2 _ rfl)
  | wallet_send address amount_sat => exact hsend (h.2 _ (.inl rfl))

theorem Quiet.pipeline {c : Cmd} (h : Quiet c) : Pipeline c :=
  (touches_quiet (K := []) (V := fun _ => False) h).pipeline (by simp) (fun _ => id) id id

variable (cfg) in
theorem spawn_child_pipeline (ns : NodeState) (caution : ℚ) (i : String) :
    (spawn_child cfg ns caution i).Within Pipeline := by
  have hquiet {α : Type} {p : Coro α} (hp : p.Within Quiet) : p.Within Pipeline :=
    hp.mono fun _ => Quiet.pipeline
  have hidentity : (obtain_identity cfg i).Within Pipeline := by
    refine (obtain_identity_touches cfg i).mono fun c hc => hc.pipeline (by decide) ?_ ?_ ?_
    · rintro j (⟨t, h⟩ | ⟨t, h | h | h⟩)
      all_goals exact nomatch h
    · rintro (⟨t, h⟩ | ⟨t, h | h | h⟩)
      all_goals exact nomatch h
    · rintro (⟨t, h⟩ | ⟨t, h | h | h⟩)
      all_goals exact nomatch h
  have hvps (d : ChildIdentity) : (obtain_vps cfg i d).Within Pipeline := by
    refine (obtain_vps_touches cfg i d).mono fun c hc => hc.pipeline (by decide) ?_ ?_ ?_
    · exact fun j ⟨m, h⟩ => nomatch h
    · exact fun ⟨m, h⟩ => nomatch h
    · exact fun ⟨m, h⟩ => nomatch h
  have htransfer (d : ChildIdentity) : (transfer_inheritance cfg d ns).Within Pipeline := by
    refine (transfer_inheritance_within cfg d ns).mono fun c hc => ?_
    rcases hc with hc | ⟨success, address, rfl⟩
    · exact hc.pipeline (by decide) (fun j h => h.elim nofun nofun) (fun h => h.elim nofun nofun)
        fun h => h.elim nofun nofun
    · exact ⟨by simp [Cmd.Writes, _SPAWN_KEYS_TO_CLEAR], fun h => nomatch h⟩
  have hfinish (d : ChildIdentity) : (finish_spawn cfg ns caution d).Within Pipeline := by
    refine .bind (.tryCatch ?_ fun _ => trivial) fun _ =>
      .bind (hquiet safe_disconnect_quiet) fun _ => trivial
    exact .bind (hquiet (boot_child_orchestrator_quiet d caution)) fun _ =>
      .bind (htransfer d) fun _ => trivial
  refine .bind (hquiet (.call rfl)) fun ps => .ite (fun _ => .tryCatch ?_ fun _ => trivial)
    fun _ => trivial
  exact .bind hidentity fun d => .bind (hvps d) fun vps_info =>
    .bind (hquiet (deploy_child_code_quiet cfg d vps_info)) fun _ => hfinish d

/-! ## Triples, watched -/

variable {A : Cmd → World → Prop} {P : World → Prop} {α : Type}

/-- A triple of the contract with the operations watched. -/
abbrev FlagTriple (cfg : Setup) (A : Cmd → World → Prop) (P : World → Prop) (p : Coro α)
    (Q : α → World → Prop) : Prop :=
  ((flagsContract cfg).watch A).Triple (fun s => P s.1) p (fun a s => Q a s.1) Any

/-- What the condition allows: whatever starts nothing, and anything over flags that are
down. -/
structure Permits (A : Cmd → World → Prop) : Prop where
  others : ∀ c, ¬ Starts c → ∀ w, A c w
  idle : ∀ c w, NoSpawn w → NoFailsafe w → A c w

/-- The assertion is about the flags. -/
def OfFlags (P : World → Prop) : Prop :=
  ∀ w w', w'.store .spawn_in_progress = w.store .spawn_in_progress →
    w'.store .failsafe_in_progress = w.store .failsafe_in_progress → P w → P w'

theorem ofFlags_noSpawn : OfFlags NoSpawn := by
  intro w w' hspawn _ h
  rw [NoSpawn, Store.is_spawn_in_progress, hspawn]
  exact h

theorem ofFlags_noFailsafe : OfFlags NoFailsafe := by
  intro w w' _ hfailsafe h
  rw [NoFailsafe, Store.is_failsafe_in_progress, hfailsafe]
  exact h

theorem ofFlags_exclusive : OfFlags Exclusive :=
  fun w w' hs hf h => h.imp (ofFlags_noSpawn w w' hs hf) (ofFlags_noFailsafe w w' hs hf)

/-- Operations that write neither flag keep what is said about them. -/
theorem flags_within {S : Cmd → Prop} {p : Coro α} (hp : p.Within S)
    (hS : ∀ c, S c → ¬ c.Writes .spawn_in_progress ∧ ¬ c.Writes .failsafe_in_progress)
    (hP : (flagsContract cfg).Stable P) (hflags : OfFlags P)
    (hA : ∀ c, S c → ∀ w, P w → A c w) : FlagTriple cfg A P p fun _ => P := by
  refine (triple_watch_within hp hP (fun c hc w _ hw => hA c hc w hw) ?_).post fun _ _ _ h => h
  intro c hc w r w' hi hw hexec
  have hframe := exec_frame hexec.1
  obtain ⟨hspawn, hfailsafe⟩ := hS c hc
  exact ⟨ofFlags_exclusive w w' (hframe.store _ hspawn) (hframe.store _ hfailsafe) hi,
    fun _ => hflags w w' (hframe.store _ hspawn) (hframe.store _ hfailsafe) hw⟩

/-- What changes nothing keeps what is said about the flags. -/
theorem flags_quiet {p : Coro α} (hA : Permits A) (hp : p.Within Quiet)
    (hP : (flagsContract cfg).Stable P) (hflags : OfFlags P) :
    FlagTriple cfg A P p fun _ => P := by
  refine flags_within hp (fun c hc => ?_) hP hflags fun c hc w _ => hA.others c hc.not_starts w
  have htouches : Touches [] (fun _ => False) c := touches_quiet hc
  exact ⟨fun hw => absurd (htouches.1 _ hw) List.not_mem_nil,
    fun hw => absurd (htouches.1 _ hw) List.not_mem_nil⟩

/-- The pipeline of a spawn leaves the failsafe's flag down. -/
theorem flags_pipeline {p : Coro α} (hA : Permits A) (hp : p.Within Pipeline) :
    FlagTriple cfg A NoFailsafe p fun _ => NoFailsafe := by
  refine (triple_watch_within hp stable_noFailsafe (fun c hc w _ _ => hA.others c hc.2 w)
    ?_).post fun _ _ _ h => h
  intro c hc w r w' _ hw hexec
  have hrow := (exec_frame hexec.1).store _ hc.1
  have hkept : NoFailsafe w' := by
    rw [NoFailsafe, Store.is_failsafe_in_progress, hrow]
    exact hw
  exact ⟨.inr hkept, fun _ => hkept⟩

/-- Reading a flag. -/
theorem flags_get {k : Key} {Q : Option k.Val → World → Prop} (hA : Permits A)
    (hP : (flagsContract cfg).Stable P) (h : ∀ w, Exclusive w → P w → Q (w.store k) w) :
    FlagTriple cfg A P (perform (.get k)) Q := by
  refine (triple_watch_call hP (fun w _ _ => hA.others _ (Quiet.not_starts rfl) w)
    (E := Any) ?_).post fun _ _ _ h => h
  intro w r w' hi hw hexec
  obtain ⟨⟨rfl, hr⟩, -⟩ := hexec
  refine ⟨hi, fun _ => ⟨fun v hv => ?_, fun _ _ => trivial⟩⟩
  rw [hr v hv]
  exact h _ hi hw

/-! ### The failsafe -/

theorem noSpawn_put (w : World) (v : Bool) (h : NoSpawn w) :
    NoSpawn (w.put .failsafe_in_progress v) := by
  have hrow : w.store.set .failsafe_in_progress v .spawn_in_progress =
      w.store .spawn_in_progress := Store.set_of_ne _ _ (by decide)
  show Option.getD (w.store.set .failsafe_in_progress v .spawn_in_progress) false = false
  rw [hrow]
  exact h

/-- Writing the failsafe's flag while no spawn is in progress. -/
theorem flags_set_failsafe (v : Bool) (hP : (flagsContract cfg).Stable P)
    (hspawn : ∀ w, P w → NoSpawn w) (hA : ∀ w, P w → A (.set .failsafe_in_progress v) w) :
    FlagTriple cfg A P (perform (.set .failsafe_in_progress v)) fun _ => NoSpawn := by
  refine (triple_watch_call hP (fun w _ hw => hA w hw) (E := Any) ?_).post fun _ _ _ h => h
  intro w r w' hi hw hexec
  rcases hexec.1 with ⟨rfl, rfl⟩ | ⟨⟨e, rfl⟩, rfl⟩
  · have hkept := noSpawn_put w v (hspawn w hw)
    exact ⟨.inl hkept, fun _ => ⟨fun _ _ => hkept, fun _ _ => trivial⟩⟩
  · exact ⟨hi, fun _ => ⟨fun _ hv => (nomatch hv), fun _ _ => trivial⟩⟩

theorem sweep_funds_triple (hA : Permits A) (target : String) (fallback : Bool) :
    FlagTriple cfg A NoSpawn (_sweep_funds cfg target fallback) Any := by
  have hquiet {β : Type} {p : Coro β} (hp : p.Within Quiet) :
      FlagTriple cfg A NoSpawn p fun _ => NoSpawn :=
    flags_quiet hA hp stable_noSpawn ofFlags_noSpawn
  have hsweep : ((perform (.sweep_all target)).tryCatch fun e =>
      if ¬ fallback ∧ cfg.DEFAULT_BTC_ADDRESS ≠ "" then
        perform (.sweep_all cfg.DEFAULT_BTC_ADDRESS)
      else raise e).Within Quiet :=
    .tryCatch (.call rfl) fun _ => .ite (fun _ => .call rfl) fun _ => trivial
  refine (hquiet (.call rfl)).bind fun wallet => (hquiet (within_require _ _)).bind fun _ => ?_
  refine (hquiet (.call rfl)).bind fun ps => (hquiet hsweep).bind fun _ => ?_
  refine (hquiet (within_require _ _)).bind fun _ => ?_
  have hclear : ¬ Starts (.set .failsafe_in_progress false) := fun h => nomatch h
  have hset : FlagTriple cfg A NoSpawn (perform (.set .failsafe_in_progress false)) _ :=
    flags_set_failsafe false stable_noSpawn (fun _ h => h) fun w _ => hA.others _ hclear w
  exact hset.anyway

/-- A failsafe is started while no spawn is in progress. -/
theorem execute_failsafe_triple (hA : Permits A) (hP : (flagsContract cfg).Stable P)
    (hflags : OfFlags P) (hspawn : ∀ w, P w → NoSpawn w)
    (hstart : ∀ w, P w → A (.set .failsafe_in_progress true) w) (peers : List PeerInfo) :
    FlagTriple cfg A P ((execute_failsafe cfg peers).tryCatch fun _ => pure ()) Any := by
  have hbody (target : String) (fallback : Bool) :
      FlagTriple cfg A P (start_failsafe cfg target fallback) Any := by
    have hmark (ps : Bool) : FlagTriple cfg A P
        (if ps then perform (.set .failsafe_in_progress true) else pure ()) fun _ => NoSpawn := by
      cases ps with
      | true => exact flags_set_failsafe true hP hspawn hstart
      | false => exact triple_pure fun s _ h => hspawn s.1 h
    refine (flags_quiet hA (.call rfl) hP hflags).bind fun ps => ?_
    exact (hmark ps).bind fun _ => sweep_funds_triple hA target fallback
  have hexecute : FlagTriple cfg A P (execute_failsafe cfg peers) Any := by
    unfold execute_failsafe
    cases select_best_peer peers with
    | some best => exact hbody best.btc_address false
    | none =>
        dsimp only
        split
        · exact hbody cfg.DEFAULT_BTC_ADDRESS true
        · exact triple_pure fun _ _ _ => trivial
  exact hexecute.tryCatch fun _ => triple_pure fun _ _ _ => trivial

/-! ## Reading the flags -/

/-- Neither flag is up. -/
def Down (w : World) : Prop := NoSpawn w ∧ NoFailsafe w

theorem stable_down : (flagsContract cfg).Stable Down := stable_noSpawn.and stable_noFailsafe

theorem ofFlags_down : OfFlags Down :=
  fun w w' hs hf h => ⟨ofFlags_noSpawn w w' hs hf h.1, ofFlags_noFailsafe w w' hs hf h.2⟩

/-- A spawn read as in progress excludes a failsafe in progress. -/
theorem is_spawn_in_progress_flags (hA : Permits A) :
    FlagTriple cfg A (fun _ => True) is_spawn_in_progress
      fun b w => if b then NoFailsafe w else NoSpawn w := by
  have hget : FlagTriple cfg A (fun _ => True) (perform (.get .spawn_in_progress))
      fun value w => if Option.getD value false then NoFailsafe w else NoSpawn w := by
    refine flags_get hA stable_true fun w hi _ => ?_
    cases h : Option.getD (w.store .spawn_in_progress) false with
    | false => exact h
    | true => exact hi.resolve_left fun hn => Bool.false_ne_true (hn.symm.trans h)
  exact hget.bind fun value => triple_pure fun _ _ h => h

theorem is_failsafe_in_progress_flags (hA : Permits A) :
    FlagTriple cfg A NoSpawn is_failsafe_in_progress
      fun b w => if b then NoSpawn w else Down w := by
  have hget : FlagTriple cfg A NoSpawn (perform (.get .failsafe_in_progress))
      fun value w => if Option.getD value false then NoSpawn w else Down w := by
    refine flags_get hA stable_noSpawn fun w _ hw => ?_
    cases h : Option.getD (w.store .failsafe_in_progress) false with
    | false => exact ⟨hw, h⟩
    | true => exact hw
  exact hget.bind fun value => triple_pure fun _ _ h => h

/-! ## A round of the loop -/

/-- A spawn is started while neither flag is up. -/
theorem decide_spawn_flags (hA : Permits A) (ns : NodeState) (caution : ℚ) :
    FlagTriple cfg A Down (decide_spawn cfg ns caution) Any := by
  have hstart (i : String) :
      FlagTriple cfg A Down (perform (.mark_spawn_started i)) fun _ => NoFailsafe := by
    refine (triple_watch_call stable_down (fun w _ hw => hA.idle _ w hw.1 hw.2) (E := Any)
      ?_).post fun _ _ _ h => h
    intro w r w' hi hw hexec
    have hrow := (exec_frame hexec.1).store .failsafe_in_progress (by simp [Cmd.Writes])
    have hkept : NoFailsafe w' := by
      rw [NoFailsafe, Store.is_failsafe_in_progress, hrow]
      exact hw.2
    exact ⟨.inr hkept, fun _ => ⟨fun _ _ => hkept, fun _ _ => trivial⟩⟩
  unfold decide_spawn
  split
  · refine (flags_quiet hA (.call rfl) stable_down ofFlags_down).bind fun hex => ?_
    refine (hstart _).bind fun _ => ?_
    have hpipeline := @flags_pipeline cfg A Bool _ hA (spawn_child_pipeline cfg ns caution
      ("spawn-" ++ String.ofList (hex.toList.take 8)))
    exact hpipeline.bind fun _ => triple_pure fun _ _ _ => trivial
  · exact triple_pure fun _ _ _ => trivial

theorem act_flags (hA : Permits A) (ns : NodeState) (days : ℤ) (caution : ℚ)
    (peers : List PeerInfo) : FlagTriple cfg A Down (act cfg ns days caution peers) Any := by
  unfold act
  split
  · exact execute_failsafe_triple hA stable_down ofFlags_down (fun _ h => h.1)
      (fun w h => hA.idle _ w h.1 h.2) peers
  · have htopup : (if days < cfg.TOPUP_TRIGGER_DAYS then topup_and_refresh cfg ns
        else pure (some ns)).Within (Touches [] topupEvent) :=
      .ite (fun _ => topup_and_refresh_touches cfg ns) fun _ => trivial
    have hwrites (c : Cmd) (hc : Touches [] topupEvent c) :
        ¬ c.Writes .spawn_in_progress ∧ ¬ c.Writes .failsafe_in_progress :=
      ⟨fun h => List.not_mem_nil (hc.1 _ h), fun h => List.not_mem_nil (hc.1 _ h)⟩
    refine (flags_within htopup hwrites stable_down ofFlags_down
      fun c _ w hw => hA.idle c w hw.1 hw.2).bind fun current => ?_
    cases current with
    | none => exact triple_pure fun _ _ _ => trivial
    | some ns => exact decide_spawn_flags hA ns caution

theorem tick_flags (hA : Permits A) : FlagTriple cfg A (fun _ => True) (_tick cfg) Any := by
  have hquiet {α : Type} {p : Coro α} (hp : p.Within Quiet) :
      FlagTriple cfg A (fun _ => True) p fun _ _ => True :=
    flags_quiet hA hp stable_true fun _ _ _ _ _ => trivial
  refine (hquiet (.call rfl)).bind fun ps => (hquiet (.call rfl)).bind fun monitor =>
    (hquiet (.call rfl)).bind fun registry => ?_
  split
  · refine (hquiet (.call rfl)).bind fun ns => ?_
    split
    · exact triple_pure fun _ _ _ => trivial
    · split
      · exact triple_pure fun _ _ _ => trivial
      · refine (hquiet get_caution_trait_quiet).bind fun caution => ?_
        refine (hquiet (.call rfl)).bind fun peers => ?_
        refine (is_spawn_in_progress_flags hA).bind fun spawning => ?_
        cases spawning with
        | true => exact triple_pure fun _ _ _ => trivial
        | false =>
            refine (is_failsafe_in_progress_flags hA).bind fun failing => ?_
            cases failing with
            | true => exact triple_pure fun _ _ _ => trivial
            | false => exact act_flags hA ns _ caution peers
  · exact triple_pure fun _ _ _ => trivial

/-! ## After a restart -/

theorem recover_spawn_pipeline : (recover_spawn cfg).Within Pipeline := by
  have hquiet {α : Type} {p : Coro α} (hp : p.Within Quiet) : p.Within Pipeline :=
    hp.mono fun _ => Quiet.pipeline
  have hcompleted : Pipeline (.mark_spawn_completed false "") :=
    ⟨by simp [Cmd.Writes, _SPAWN_KEYS_TO_CLEAR], fun h => nomatch h⟩
  refine .bind (hquiet (.bind (.call rfl) fun _ => trivial)) fun i =>
    .ite (fun _ => .call hcompleted) fun _ => ?_
  refine .bind (hquiet wait_for_node_state_quiet) fun ready => ?_
  refine .bind (.ite (fun _ => hquiet (.call rfl)) fun _ => trivial) fun monitor => ?_
  refine .ite (fun _ => ?_) fun _ => trivial
  refine .bind (hquiet (.call rfl)) fun ns => .bind (hquiet get_caution_trait_quiet) fun caution => ?_
  exact .bind (spawn_child_pipeline cfg ns caution i) fun _ => trivial

/-- A recovery is not watched. -/
abbrev unwatched (_ : Cmd) (_ : World) : Prop := True

theorem permits_unwatched : Permits unwatched := ⟨fun _ _ _ => trivial, fun _ _ _ _ => trivial⟩

theorem recover_failsafe_flags :
    FlagTriple cfg unwatched NoSpawn (recover_failsafe cfg) Any := by
  have hquiet {α : Type} {p : Coro α} (hp : p.Within Quiet) :
      FlagTriple cfg unwatched NoSpawn p fun _ => NoSpawn :=
    flags_quiet permits_unwatched hp stable_noSpawn ofFlags_noSpawn
  refine (hquiet wait_for_node_state_quiet).bind fun ready => ?_
  have hmonitor : (if ready then perform (.initialised .node_monitor) else pure false :
      Coro Bool).Within Quiet := .ite (fun _ => .call rfl) fun _ => trivial
  refine (hquiet hmonitor).bind fun monitor => ?_
  cases monitor with
  | false => exact triple_pure fun _ _ _ => trivial
  | true =>
      refine (hquiet (.call rfl)).bind fun _ => (hquiet (.call rfl)).bind fun registry => ?_
      have hpeers : (if registry then perform .get_live_peers else pure [] :
          Coro (List PeerInfo)).Within Quiet := .ite (fun _ => .call rfl) fun _ => trivial
      refine (hquiet hpeers).bind fun peers => ?_
      exact execute_failsafe_triple permits_unwatched stable_noSpawn ofFlags_noSpawn
        (fun _ h => h) (fun _ _ => trivial) peers

theorem handle_recovery_flags :
    FlagTriple cfg unwatched (fun _ => True) (_handle_recovery cfg) Any := by
  have hps : FlagTriple cfg unwatched (fun _ => True) (perform (.initialised .state)) fun _ _ => True :=
    flags_quiet permits_unwatched (.call rfl) stable_true fun _ _ _ _ _ => trivial
  refine hps.bind fun ps => ?_
  cases ps with
  | false => exact triple_pure fun _ _ _ => trivial
  | true =>
      refine (is_spawn_in_progress_flags permits_unwatched).bind fun spawning => ?_
      cases spawning with
      | true => exact (flags_pipeline permits_unwatched recover_spawn_pipeline).anyway
      | false =>
          have hfailing : FlagTriple cfg unwatched NoSpawn is_failsafe_in_progress fun _ => NoSpawn :=
            flags_quiet permits_unwatched is_failsafe_in_progress_quiet stable_noSpawn
              ofFlags_noSpawn
          refine hfailing.bind fun failing => ?_
          cases failing with
          | true => exact recover_failsafe_flags
          | false => exact triple_pure fun _ _ _ => trivial

theorem boot_flags : FlagTriple cfg unwatched (fun _ => True) (boot cfg) Any := by
  have haside {α : Type} {p : Coro α} {S : Cmd → Prop} (hp : p.Within S)
      (hS : ∀ c, S c → ¬ c.Writes .spawn_in_progress ∧ ¬ c.Writes .failsafe_in_progress) :
      FlagTriple cfg unwatched (fun _ => True) p fun _ _ => True :=
    flags_within hp hS stable_true (fun _ _ _ _ _ => trivial) fun _ _ _ _ => trivial
  have hcaution : (initialise_caution cfg).Within (Touches [.caution_trait] fun _ => False) := by
    refine .bind (.call (touches_quiet rfl)) fun stored => ?_
    cases stored with
    | none => exact .call (touches_set List.mem_cons_self)
    | some _ => exact trivial
  have hseeding : (start_seeding cfg).Within (Touches [.caution_trait] fun _ => False) :=
    (start_seeding_quiet cfg).mono fun _ => touches_quiet
  have hwrites (c : Cmd) (hc : Touches [.caution_trait] (fun _ => False) c) :
      ¬ c.Writes .spawn_in_progress ∧ ¬ c.Writes .failsafe_in_progress := by
    constructor
    · intro h
      exact absurd (List.mem_singleton.mp (hc.1 _ h)) (by decide)
    · intro h
      exact absurd (List.mem_singleton.mp (hc.1 _ h)) (by decide)
  have htasks : (perform .create_tasks).Within fun c => c = .create_tasks := .call rfl
  refine (haside hcaution hwrites).bind fun _ => (haside hseeding hwrites).bind fun _ => ?_
  refine (haside htasks ?_).bind fun _ => handle_recovery_flags
  rintro c rfl
  exact ⟨id, id⟩

/-! ## Every run -/

/-- Whatever starts something does so over flags that are down. -/
def StartsIdle (c : Cmd) (w : World) : Prop := Starts c → Down w

theorem permits_startsIdle : Permits StartsIdle :=
  ⟨fun _ hc _ hs => absurd hs hc, fun _ _ hs hf _ => ⟨hs, hf⟩⟩

theorem exclusive_of_reachable {now : ℚ} {s : World × Proc Cmd Cmd.Ret Exc}
    (hs : (machine cfg anyRun).Reachable (World.fresh now) s) : Exclusive s.1 := by
  have htick : (flagsContract cfg).Triple (machine cfg anyRun).ticking (_tick cfg) Any Any :=
    (Triple.of_watch (tick_flags permits_startsIdle)).pre fun _ _ _ => trivial
  refine Contract.inv_of_reachable (G := flagsContract cfg) hs (.inl rfl) (fun _ _ _ _ h => h)
    ?_ (Triple.of_watch boot_flags) htick
  rintro w w' ⟨t, -, rfl⟩ hi
  exact hi

/-- **The two flags are never both up, and a round of the decision loop starts a failsafe,
a top-up or a spawn only where both are down.** -/
theorem flags_exclusive (cfg : Setup) (now : ℚ) :
    (∀ s, (machine cfg anyRun).Reachable (World.fresh now) s →
      ¬ (s.1.store.is_spawn_in_progress = true ∧ s.1.store.is_failsafe_in_progress = true)) ∧
    ∀ w w' c k, (machine cfg anyRun).Reachable (World.fresh now) (w, .running (.ret ())) →
      (machine cfg anyRun).ticking w → (machine cfg anyRun).During w (w', .op c k) → Starts c →
      w'.store.is_spawn_in_progress = false ∧ w'.store.is_failsafe_in_progress = false := by
  constructor
  · rintro s hs ⟨hspawn, hfailsafe⟩
    rcases exclusive_of_reachable hs with h | h
    · exact Bool.false_ne_true (h.symm.trans hspawn)
    · exact Bool.false_ne_true (h.symm.trans hfailsafe)
  · intro w w' c k hs hticking hduring hstarts
    have htick : ((flagsContract cfg).watch StartsIdle).Triple
        (fun s => (machine cfg anyRun).ticking s.1) (_tick cfg) Any Any :=
      (tick_flags permits_startsIdle).pre fun _ _ _ => trivial
    have hwatched := watched_of_during hduring (exclusive_of_reachable hs) hticking
      (fun _ _ _ h => h) htick
    have hpossible : ∃ r w'', (machine cfg anyRun).exec c w' r w'' :=
      ⟨_, _, exec_calm none c w', trivial⟩
    exact condition_of_watched hwatched hpossible hstarts

/-- The first round of a new node that can afford it comes to the start of a spawn. -/
theorem flags_exclusive_calm :
    (∃ k, (calmSpawn none 9).2 = .op (.mark_spawn_started "spawn-01234567") k) ∧
      (calmSpawn none 9).1.store.is_spawn_in_progress = false ∧
      (calmSpawn none 9).1.store.is_failsafe_in_progress = false := by
  have hnext : ∃ k, (calmSpawn none 9).2 = .op (.mark_spawn_started "spawn-01234567") k :=
    ⟨_, rfl⟩
  have hboot : (calmBoot none).2 = .ret () := rfl
  have hreach : (machine calmSetup anyRun).Reachable (World.fresh 0)
      ((calmBoot none).1, .running (.ret ())) := by
    rw [← hboot]
    exact reachable_calm (fun _ _ => trivial) 20 (s := (_, _))
      (.tail .refl (.restart ⟨0, le_refl _, rfl⟩)) rfl
  have hduring : (machine calmSetup anyRun).During (calmBoot none).1 (calmSpawn none 9) :=
    Machine.During.play (step_calm fun _ _ => trivial) 9
      (Machine.During.start (M := machine calmSetup anyRun))
      (by decide +kernel)
  refine ⟨hnext, ?_⟩
  obtain ⟨k, hk⟩ := hnext
  have hticking : (calmBoot none).1.running = true ∧ (calmBoot none).1.tasks = true := by
    decide +kernel
  refine (flags_exclusive calmSetup 0).2 _ _ _ k hreach hticking ?_
    (.mark_spawn_started "spawn-01234567")
  rw [← hk]
  exact hduring

end Superorganism.Spawn
