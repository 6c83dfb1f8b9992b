/-
At most one server is launched for each token SporeStack minted, unless a signal clears the
write-ahead intent under a coroutine that has yet to read it.

The token of a spawn is written before anything is paid for it, the identity of the child before
anything is launched, and `spawn_vps_intent` before the launch. So as long as the rows hold no
intent for the token of the child, nothing was launched under it since it was minted
(`LaunchInv.identity`); once they do, `_adopt_orphan_server` asks SporeStack first, and an empty
list means that nothing was launched. The runs are those where `get_servers` raises or lists every
server whose launch took effect; `launch_server` may take effect whatever it answers.

A signal that abandons the spawn deletes the intent. A resumed coroutine that has its identity
already goes on up to its next await: it reads no intent, asks nobody, and launches in the await
that ends it. The bound is kept if the signal leaves no program that can come to that under a token
that has been launched under (`launched_once`); `second_launch` is a run where it does not.
-/
import Superorganism.SpawnUnwinding

set_option autoImplicit false

open Superorganism.Process Superorganism.Process.Prog Superorganism.Process.Contract

namespace Superorganism.Spawn

variable {cfg : Setup} {reg : Regime} {counted : Prop}

/-! ## Launches -/

/-- The event is a launch under the token `t`. -/
def isLaunch (t : String) : Event → Bool
  | .server_launched t' _ => t' == t
  | _ => false

/-- How many launches under the token took effect. -/
def World.launches (w : World) (t : String) : ℕ := w.log.countP (isLaunch t)

/-- How often SporeStack minted the token. -/
def World.mints (w : World) (t : String) : ℕ := w.log.count (.token_minted t)

/-- A launch is owed to a token from its minting to the next launch under it. -/
def owed (t : String) : List Event → ℕ
  | [] => 0
  | e :: log => if e = .token_minted t then 1 else if isLaunch t e then 0 else owed t log

def World.owed (w : World) (t : String) : ℕ := Spawn.owed t w.log

theorem owed_append {t : String} {es log : List Event}
    (h : ∀ e ∈ es, e ≠ .token_minted t ∧ isLaunch t e = false) :
    owed t (es ++ log) = owed t log := by
  induction es with
  | nil => rfl
  | cons e es ih =>
      obtain ⟨hmint, hlaunch⟩ := h e (List.mem_cons_self ..)
      rw [List.cons_append, owed, if_neg hmint, hlaunch, if_neg Bool.false_ne_true]
      exact ih fun e he => h e (List.mem_cons_of_mem _ he)

/-- What is owed a launch was minted. -/
theorem minted_of_owed {t : String} {log : List Event} (h : 0 < owed t log) :
    Event.token_minted t ∈ log := by
  induction log with
  | nil => exact absurd h (Nat.lt_irrefl 0)
  | cons e log ih =>
      rw [owed] at h
      split_ifs at h with hmint hlaunch
      · rw [hmint]
        exact List.mem_cons_self ..
      · exact absurd h (Nat.lt_irrefl 0)
      · exact List.mem_cons_of_mem _ (ih h)

/-- A token that nothing was launched under is owed a launch. -/
theorem owed_of_unlaunched {t : String} {log : List Event} (hmint : Event.token_minted t ∈ log)
    (hnone : ∀ e ∈ log, isLaunch t e = false) : 0 < owed t log := by
  induction log with
  | nil => cases hmint
  | cons e log ih =>
      rw [owed, hnone e (List.mem_cons_self ..), if_neg Bool.false_ne_true]
      split_ifs with he
      · exact Nat.one_pos
      · refine ih ((List.mem_cons.mp hmint).resolve_left fun h => he h.symm) fun e' he' => ?_
        exact hnone e' (List.mem_cons_of_mem _ he')

theorem counts_minted (w : World) (t t' : String) :
    (w.emit (.token_minted t)).launches t' = w.launches t' ∧
      (w.emit (.token_minted t)).mints t' = (w.mints t' + if t = t' then 1 else 0) ∧
      (w.emit (.token_minted t)).owed t' = if t = t' then 1 else w.owed t' := by
  refine ⟨?_, ?_, ?_⟩
  · simp [World.launches, World.emit, isLaunch]
  · simp [World.mints, World.emit, List.count_cons]
  · simp [World.owed, World.emit, Spawn.owed, isLaunch]

theorem counts_launched (w : World) (t m t' : String) :
    (w.emit (.server_launched t m)).launches t' = (w.launches t' + if t = t' then 1 else 0) ∧
      (w.emit (.server_launched t m)).mints t' = w.mints t' ∧
      (w.emit (.server_launched t m)).owed t' = if t = t' then 0 else w.owed t' := by
  refine ⟨?_, ?_, ?_⟩
  · simp [World.launches, World.emit, isLaunch, List.countP_cons]
  · simp [World.mints, World.emit]
  · simp [World.owed, World.emit, Spawn.owed, isLaunch]

/-- Launches made and owed come to no more than were minted. -/
def LaunchBudget (w : World) : Prop := ∀ t, w.launches t + w.owed t ≤ w.mints t

theorem LaunchBudget.congr {w w' : World} (h : LaunchBudget w) (hl : w'.log = w.log) :
    LaunchBudget w' := by
  intro t
  rw [World.launches, World.owed, World.mints, hl]
  exact h t

theorem LaunchBudget.mint {w : World} (h : LaunchBudget w) (t : String) :
    LaunchBudget (w.emit (.token_minted t)) := by
  intro t'
  obtain ⟨hlaunches, hmints, howed⟩ := counts_minted w t t'
  have hle := h t'
  rw [hlaunches, hmints, howed]
  by_cases ht : t = t'
  · rw [if_pos ht, if_pos ht]
    omega
  · rw [if_neg ht, if_neg ht]
    exact hle

theorem LaunchBudget.launch {w : World} (h : LaunchBudget w) {t : String} (m : String)
    (howed : 0 < w.owed t) : LaunchBudget (w.emit (.server_launched t m)) := by
  intro t'
  obtain ⟨hlaunches, hmints, howed'⟩ := counts_launched w t m t'
  have hle := h t'
  rw [hlaunches, hmints, howed']
  by_cases ht : t = t'
  · rw [if_pos ht, if_pos ht]
    rw [ht] at howed
    omega
  · rw [if_neg ht, if_neg ht]
    exact hle

/-! ## The runs -/

/-- `get_servers` raises, or lists every server whose launch took effect. -/
def ServersListed (c : Cmd) (w : World) (r : Except Exc c.Ret) : Prop :=
  match c, r with
  | .get_servers t, .ok servers =>
      ∀ m, Event.server_launched t m ∈ w.log → ∃ s ∈ servers, s.machine_id = some m
  | _, _ => True

def serversListed : Regime where
  answers := ServersListed
  abandons _ _ := True

/-- The operation is a launch under the token. -/
def Launches (t : String) (c : Cmd) : Prop := ∃ ssh_key hostname, c = .launch_server t ssh_key hostname

/-- Those in which no signal abandons a spawn that has a launch pending under a token that is owed
none. -/
def launchesOwed (cfg : Config) : Regime where
  answers := ServersListed
  abandons p w := ∀ q, p = .running q → ∀ t, ComesTo cfg (Launches t) q (_handle_shutdown cfg w) →
    0 < w.owed t

/-! ## The invariant

It is kept by every signal: what it says of the rows it says whether or not they are those of a
spawn in progress, since an abandoned coroutine may leave rows behind. -/

/-- The identity of the child of the spawn `i` in the rows. -/
def identityOf (i : String) (s : Store) : Option ChildIdentity :=
  (s .spawn_identity).filter fun d => d.spawn_id = i

/-- The rows hold the launch intent for this token. -/
def HasVpsIntent (i t : String) (s : Store) : Prop :=
  s .spawn_vps_intent = some { spawn_id := i, sporestack_token := t }

structure LaunchInv (counted : Prop) (w : World) : Prop where
  token : ∀ i t, tokenOf i w.store = some t → identityOf i w.store = none → 0 < w.owed t
  identity : ∀ i d, identityOf i w.store = some d →
    ¬ HasVpsIntent i d.sporestack_token w.store → 0 < w.owed d.sporestack_token
  minted : ∀ i d, identityOf i w.store = some d → Event.token_minted d.sporestack_token ∈ w.log
  /-- Token and identity are of one spawn, except for a spawn in progress that has not come to its
  identity. -/
  agree : ∀ i j t d, tokenOf i w.store = some t → identityOf j w.store = some d → i = j ∨ Live i w
  budget : counted → LaunchBudget w

theorem identityOf_eq_some {i : String} {s : Store} {d : ChildIdentity} :
    identityOf i s = some d ↔ s .spawn_identity = some d ∧ d.spawn_id = i := by
  rw [identityOf, Option.filter_eq_some_iff, decide_eq_true_iff]

theorem identityOf_of_none {i : String} {s : Store} (h : s .spawn_identity = none) :
    identityOf i s = none := by
  rw [identityOf, h, Option.filter_none]

theorem tokenOf_of_none {i : String} {s : Store} (h : s .spawn_sporestack_token = none) :
    tokenOf i s = none := by
  rw [tokenOf, h]
  rfl

/-- The row names its spawn. -/
theorem tokenOf_unique {i j t t' : String} {s : Store} (hi : tokenOf i s = some t)
    (hj : tokenOf j s = some t') : i = j := by
  have hid (k : String) {u : String} (hk : tokenOf k s = some u) :
      ∃ blob, s .spawn_sporestack_token = some blob ∧ blob.spawn_id = k := by
    rw [tokenOf] at hk
    unfold _rehydrate_sporestack_token at hk
    split at hk
    · cases hk
    · rename_i blob hblob
      split_ifs at hk with hne
      exact ⟨blob, hblob, not_not.mp hne⟩
  obtain ⟨blob, hblob, hbi⟩ := hid i hi
  obtain ⟨blob', hblob', hbj⟩ := hid j hj
  rw [hblob] at hblob'
  cases hblob'
  exact hbi.symm.trans hbj

/-! ## What keeps the invariant -/

/-- Operations that have nothing to do with the launch. -/
structure OffLaunch (c : Cmd) : Prop where
  rows : ∀ k ∈ [Key.spawn_in_progress, .spawn_id, .spawn_sporestack_token, .spawn_identity,
    .spawn_vps_intent], ¬ c.Writes k
  mints : ∀ t, ¬ c.Emits (.token_minted t)
  launches : ∀ t m, ¬ c.Emits (.server_launched t m)

theorem Touches.offLaunch {c : Cmd} {K : List Key} {V : Event → Prop} (h : Touches K V c)
    (hK : ∀ k ∈ [Key.spawn_in_progress, .spawn_id, .spawn_sporestack_token, .spawn_identity,
      .spawn_vps_intent], k ∉ K)
    (hV : ∀ t m, ¬ V (.token_minted t) ∧ ¬ V (.server_launched t m)) : OffLaunch c where
  rows k hk hw := hK k hk (h.1 _ hw)
  mints t he := (hV t "").1 (h.2 _ he)
  launches t m he := (hV t m).2 (h.2 _ he)

/-- An operation that neither mints nor launches changes no count. -/
theorem Frame.launch_counts {c : Cmd} {w w' : World} (hf : Frame c w w')
    (hmints : ∀ t, ¬ c.Emits (.token_minted t)) (hlaunches : ∀ t m, ¬ c.Emits (.server_launched t m))
    (t : String) :
    w'.launches t = w.launches t ∧ w'.mints t = w.mints t ∧ w'.owed t = w.owed t := by
  have hnone : ∀ e, c.Emits e → isLaunch t e = false := by
    intro e he
    unfold isLaunch
    split
    · exact absurd he (hlaunches _ _)
    · rfl
  refine ⟨hf.countP hnone, hf.count (hmints t), ?_⟩
  obtain ⟨es, hes, hall⟩ := hf.log
  rw [World.owed, hes]
  refine owed_append fun e he => ⟨?_, hnone e (hall e he)⟩
  rintro rfl
  exact hmints t (hall _ he)

theorem LaunchBudget.frame {c : Cmd} {w w' : World} (h : LaunchBudget w) (hf : Frame c w w')
    (hmints : ∀ t, ¬ c.Emits (.token_minted t))
    (hlaunches : ∀ t m, ¬ c.Emits (.server_launched t m)) : LaunchBudget w' := by
  intro t
  obtain ⟨hl, hm, ho⟩ := hf.launch_counts hmints hlaunches t
  rw [hl, hm, ho]
  exact h t

theorem OffLaunch.tokenOf_eq {c : Cmd} {w w' : World} (hc : OffLaunch c) (hf : Frame c w w')
    (i : String) : tokenOf i w'.store = tokenOf i w.store := by
  rw [tokenOf, hf.store _ (hc.rows _ (by simp)), tokenOf]

theorem OffLaunch.identityOf_eq {c : Cmd} {w w' : World} (hc : OffLaunch c) (hf : Frame c w w')
    (i : String) : identityOf i w'.store = identityOf i w.store := by
  rw [identityOf, hf.store _ (hc.rows _ (by simp)), identityOf]

theorem OffLaunch.live {c : Cmd} {w w' : World} (hc : OffLaunch c) (hf : Frame c w w')
    (i : String) : Live i w' ↔ Live i w :=
  hf.live (hc.rows _ (by simp)) (hc.rows _ (by simp)) i

theorem OffLaunch.owed_eq {c : Cmd} {w w' : World} (hc : OffLaunch c) (hf : Frame c w w')
    (t : String) : w'.owed t = w.owed t :=
  (hf.launch_counts hc.mints hc.launches t).2.2

/-- The invariant reads three rows, which spawn is in progress, and two kinds of events. -/
theorem LaunchInv.transport {w w' : World} (h : LaunchInv counted w)
    (hrows : ∀ k ∈ [Key.spawn_sporestack_token, .spawn_identity, .spawn_vps_intent],
      w'.store k = w.store k)
    (hlive : ∀ i, Live i w → Live i w') (howed : ∀ t, w'.owed t = w.owed t)
    (hlog : w.log ⊆ w'.log) (hbudget : counted → LaunchBudget w') : LaunchInv counted w' := by
  have htoken (i : String) : tokenOf i w'.store = tokenOf i w.store := by
    rw [tokenOf, hrows _ (by simp), tokenOf]
  have hidentity (i : String) : identityOf i w'.store = identityOf i w.store := by
    rw [identityOf, hrows _ (by simp), identityOf]
  have hintent (i t : String) : HasVpsIntent i t w'.store ↔ HasVpsIntent i t w.store := by
    rw [HasVpsIntent, hrows _ (by simp), HasVpsIntent]
  refine ⟨fun i t ht hi => ?_, fun i d hd hn => ?_, fun i d hd => ?_, fun i j t d ht hd => ?_,
    hbudget⟩
  · rw [htoken] at ht
    rw [hidentity] at hi
    rw [howed]
    exact h.token i t ht hi
  · rw [hidentity] at hd
    rw [hintent] at hn
    rw [howed]
    exact h.identity i d hd hn
  · rw [hidentity] at hd
    exact hlog (h.minted i d hd)
  · rw [htoken] at ht
    rw [hidentity] at hd
    exact (h.agree i j t d ht hd).imp_right (hlive i)

theorem LaunchInv.frame {c : Cmd} {w w' : World} (h : LaunchInv counted w) (hc : OffLaunch c)
    (hf : Frame c w w') : LaunchInv counted w' := by
  have hsub : w.log ⊆ w'.log := by
    obtain ⟨es, hes, -⟩ := hf.log
    rw [hes]
    exact List.subset_append_right es w.log
  refine h.transport (fun k hk => hf.store k (hc.rows k ?_)) (fun i => (hc.live hf i).mpr)
    (hc.owed_eq hf) hsub fun hcounted => (h.budget hcounted).frame hf hc.mints hc.launches
  exact List.mem_cons_of_mem _ (List.mem_cons_of_mem _ hk)

theorem LaunchInv.congr (w w' : World) (hs : w'.store = w.store) (hl : w'.log = w.log)
    (h : LaunchInv counted w) : LaunchInv counted w' := by
  refine h.transport (fun k _ => by rw [hs]) (fun i => ?_) (fun t => ?_) ?_ fun hcounted => ?_
  · exact (Live.congr (by rw [hs]) (by rw [hs])).mpr
  · rw [World.owed, hl, World.owed]
  · rw [hl]
    exact List.Subset.refl _
  · exact (h.budget hcounted).congr hl

/-- Without rows only the budget is at stake. -/
theorem LaunchInv.of_clean {w w' : World} (h : LaunchInv counted w) (hl : w'.log = w.log)
    (hclean : w'.store.Clean) : LaunchInv counted w' := by
  have htoken (i : String) : tokenOf i w'.store = none :=
    tokenOf_of_none (hclean .spawn_sporestack_token (by decide))
  have hidentity (i : String) : identityOf i w'.store = none :=
    identityOf_of_none (hclean .spawn_identity (by decide))
  refine ⟨fun i t ht _ => ?_, fun i d hd _ => ?_, fun i d hd => ?_, fun i j t d ht _ => ?_,
    fun hcounted => (h.budget hcounted).congr hl⟩
  · cases (htoken i).symm.trans ht
  · cases (hidentity i).symm.trans hd
  · cases (hidentity i).symm.trans hd
  · cases (htoken i).symm.trans ht

theorem LaunchInv.signalled {ok : World → Prop} (w w' : World) (hs : Signalled ok w w')
    (h : LaunchInv counted w) : LaunchInv counted w' := by
  rcases hs.rows with hrows | ⟨-, -, hclean, -⟩
  · exact h.congr w w' hrows hs.log
  · exact h.of_clean hs.log hclean

theorem LaunchInv.completed (w : World) (success : Bool) (address : String)
    (h : LaunchInv counted w) : LaunchInv counted (w.completed success address) :=
  h.of_clean rfl (Store.clean_mark_spawn_completed w.store success address w.now)

/-- A start leaves the rows of the launch alone, whoever left them. -/
theorem LaunchInv.started (w : World) (i : String) (h : LaunchInv counted w)
    (hidle : w.store.is_spawn_in_progress = false) : LaunchInv counted (w.started i) := by
  have hf := frame_started w i
  have hcounts := hf.launch_counts (by simp [Cmd.Emits]) (by simp [Cmd.Emits])
  refine h.transport (fun k hk => hf.store k fun hw => ?_) (fun j hj => ?_)
    (fun t => (hcounts t).2.2) ?_ fun hcounted t => ?_
  · rcases hw with rfl | rfl | rfl
    · exact absurd hk (by decide)
    · exact absurd hk (by decide)
    · exact absurd hk (by decide)
  · exact absurd (hidle.symm.trans hj.1) Bool.false_ne_true
  · obtain ⟨es, hes, -⟩ := hf.log
    rw [hes]
    exact List.subset_append_right es w.log
  · obtain ⟨hl, hm, ho⟩ := hcounts t
    rw [hl, hm, ho]
    exact h.budget hcounted t

/-- SporeStack mints a token: one more launch is owed. -/
theorem LaunchInv.mint {w : World} (h : LaunchInv counted w) (t : String) :
    LaunchInv counted (w.emit (.token_minted t)) := by
  have hle (t' : String) : 0 < w.owed t' → 0 < (w.emit (.token_minted t)).owed t' := by
    intro howed
    rw [(counts_minted w t t').2.2]
    split_ifs
    · exact Nat.one_pos
    · exact howed
  exact ⟨fun i t' ht hi => hle t' (h.token i t' ht hi),
    fun i d hd hn => hle _ (h.identity i d hd hn),
    fun i d hd => List.mem_cons_of_mem _ (h.minted i d hd), h.agree,
    fun hcounted => (h.budget hcounted).mint t⟩

/-! ## Assertions of the stages -/

/-- No token and no identity in the rows. -/
def Bare (s : Store) : Prop := s .spawn_sporestack_token = none ∧ s .spawn_identity = none

theorem Store.Clean.bare {s : Store} (h : s.Clean) : Bare s :=
  ⟨h .spawn_sporestack_token (by decide), h .spawn_identity (by decide)⟩

/-- The pipeline of `i` runs: `φ` holds of the rows while they are those of the spawn, and `ψ` once
a signal has abandoned it. -/
def Stage (counted : Prop) (i : String) (φ ψ : Store → Prop) (w : World) : Prop :=
  Serving counted i w ∧ (Live i w → φ w.store) ∧ (¬ Live i w → ψ w.store)

theorem Stage.mono {i : String} {φ φ' ψ ψ' : Store → Prop} {w : World}
    (h : Stage counted i φ ψ w) (hφ : φ w.store → φ' w.store) (hψ : ψ w.store → ψ' w.store) :
    Stage counted i φ' ψ' w :=
  ⟨h.1, fun hlive => hφ (h.2.1 hlive), fun hnot => hψ (h.2.2 hnot)⟩

theorem Stage.of_live {i : String} {φ ψ : Store → Prop} {w : World} (h : Serving counted i w)
    (hlive : Live i w) (hφ : φ w.store) : Stage counted i φ ψ w :=
  ⟨h, fun _ => hφ, fun hnot => absurd hlive hnot⟩

/-- What changes neither the flag nor which spawn it is for. -/
theorem Stage.frame {c : Cmd} {w w' : World} {i : String} {φ φ' ψ ψ' : Store → Prop}
    (h : Stage counted i φ ψ w) (hf : Frame c w w') (hp : ¬ c.Writes .spawn_in_progress)
    (hid : ¬ c.Writes .spawn_id) (hφ : φ w.store → φ' w'.store) (hψ : ψ w.store → ψ' w'.store) :
    Stage counted i φ' ψ' w' := by
  have hlive := hf.live hp hid i
  exact ⟨h.1.frame hf hp hid, fun hl => hφ (h.2.1 (hlive.mp hl)),
    fun hnot => hψ (h.2.2 fun hl => hnot (hlive.mpr hl))⟩

/-- The contract, counted or not. -/
def launchContract (cfg : Setup) (reg : Regime) (counted : Prop) : Contract (machine cfg reg) :=
  signalContract cfg reg (fun w => counted → w.tasks = false) (LaunchInv counted)
    LaunchInv.signalled

theorem signalled_of_launch {w w' : World} (h : (launchContract cfg reg counted).env w w') :
    Signalled (fun w => counted → w.tasks = false) w w' := Signal.signalled h

theorem stable_stage (i : String) {φ ψ : Store → Prop} (hψ : ∀ s : Store, s.Clean → ψ s) :
    (launchContract cfg reg counted).Stable (Stage counted i φ ψ) := by
  intro w w' hs hi hw
  have hsignalled := signalled_of_launch hs
  refine ⟨stable_serving i w w' hs hi hw.1, fun hlive => ?_, fun hnot => ?_⟩
  · obtain ⟨hold, hrows⟩ := (live_of_signalled hsignalled).1 hlive
    rw [hrows]
    exact hw.2.1 hold
  · rcases hsignalled.rows with hrows | ⟨-, -, hclean, -⟩
    · rw [hrows]
      refine hw.2.2 fun hold => hnot ?_
      exact (Live.congr (by rw [hrows]) (by rw [hrows])).mpr hold
    · exact hψ _ hclean

theorem stable_owed (t : String) :
    (launchContract cfg reg counted).Stable fun w => 0 < w.owed t :=
  stable_log fun log => 0 < Spawn.owed t log

/-- The pipeline of `i` runs. -/
def Begun (counted : Prop) (i : String) : World → Prop := Stage counted i (fun _ => True) Bare

/-- The identity of the child is not in the rows. -/
def Unknown (counted : Prop) (i : String) : World → Prop :=
  Stage counted i (fun s => identityOf i s = none) Bare

/-- Its token is `t`, with a launch owed to it; an abandoned spawn may have left the token. -/
def Minted (counted : Prop) (i t : String) (w : World) : Prop :=
  Stage counted i (fun s => tokenOf i s = some t) (fun s => s .spawn_identity = none) w ∧
    0 < w.owed t

/-- The same, after an await: an abandoned spawn has left nothing. -/
def Credited (counted : Prop) (i t : String) (w : World) : Prop :=
  Stage counted i (fun s => tokenOf i s = some t) Bare w ∧ 0 < w.owed t

/-- The identity of the child is `d`; an abandoned spawn may have left that, but no token. -/
def Known (counted : Prop) (i : String) (d : ChildIdentity) (w : World) : Prop :=
  d.spawn_id = i ∧ Stage counted i (fun s => s .spawn_identity = some d)
    (fun s => s .spawn_sporestack_token = none ∧ ∀ x, s .spawn_identity = some x → x = d) w

/-- And a launch is owed to its token, unless the spawn has been abandoned. -/
def Due (counted : Prop) (i : String) (d : ChildIdentity) (w : World) : Prop :=
  Known counted i d w ∧ (Live i w → 0 < w.owed d.sporestack_token)

/-- And the intent is written. -/
def Launching (counted : Prop) (i : String) (d : ChildIdentity) (w : World) : Prop :=
  d.spawn_id = i ∧ (Live i w → 0 < w.owed d.sporestack_token) ∧
    Stage counted i (fun s => s .spawn_identity = some d ∧ HasVpsIntent i d.sporestack_token s)
      (fun s => s .spawn_sporestack_token = none ∧
        ∀ x, s .spawn_identity = some x → x = d ∧ HasVpsIntent i d.sporestack_token s) w

theorem stable_begun (i : String) :
    (launchContract cfg reg counted).Stable (Begun counted i) :=
  stable_stage i fun _ hclean => hclean.bare

theorem stable_unknown (i : String) :
    (launchContract cfg reg counted).Stable (Unknown counted i) :=
  stable_stage i fun _ hclean => hclean.bare

theorem stable_minted (i t : String) :
    (launchContract cfg reg counted).Stable (Minted counted i t) :=
  (stable_stage i fun _ hclean => hclean.bare.2).and (stable_owed t)

theorem stable_credited (i t : String) :
    (launchContract cfg reg counted).Stable (Credited counted i t) :=
  (stable_stage i fun _ hclean => hclean.bare).and (stable_owed t)

theorem stable_known (i : String) (d : ChildIdentity) :
    (launchContract cfg reg counted).Stable (Known counted i d) := by
  refine fun w w' hs hi hw => ⟨hw.1, stable_stage i (fun s hclean => ?_) w w' hs hi hw.2⟩
  refine ⟨hclean.bare.1, fun x hx => ?_⟩
  cases hclean.bare.2.symm.trans hx

theorem stable_owed_live (i t : String) :
    (launchContract cfg reg counted).Stable fun w => Live i w → 0 < w.owed t := by
  intro w w' hs hi hw hlive
  have hsignalled := signalled_of_launch hs
  rw [World.owed, hsignalled.log]
  exact hw ((live_of_signalled hsignalled).1 hlive).1

theorem stable_due (i : String) (d : ChildIdentity) :
    (launchContract cfg reg counted).Stable (Due counted i d) :=
  (stable_known i d).and (stable_owed_live i _)

theorem stable_launching (i : String) (d : ChildIdentity) :
    (launchContract cfg reg counted).Stable (Launching counted i d) := by
  refine fun w w' hs hi hw => ⟨hw.1, stable_owed_live i _ w w' hs hi hw.2.1,
    stable_stage i (fun s hclean => ?_) w w' hs hi hw.2.2⟩
  refine ⟨hclean.bare.1, fun x hx => ?_⟩
  cases hclean.bare.2.symm.trans hx

/-- What has nothing to do with the launch keeps a stable assertion it does not touch. -/
theorem off_launch_triple {α : Type} {p : Coro α} {P : World → Prop} (hp : p.Within OffLaunch)
    (hstable : (launchContract cfg reg counted).Stable P)
    (hP : ∀ c, OffLaunch c → ∀ w w', Frame c w w' → P w → P w') :
    (launchContract cfg reg counted).Triple P p (fun _ => P) Any := by
  refine (triple_within hp hstable fun c hc w r w' hi hw hexec => ?_).post fun _ _ _ h => h
  have hf := exec_frame hexec.1
  exact ⟨hi.frame hc hf, fun _ => hP c hc w w' hf hw⟩

theorem OffLaunch.unknown {c : Cmd} {w w' : World} {i : String} (hc : OffLaunch c)
    (hf : Frame c w w') (h : Unknown counted i w) : Unknown counted i w' := by
  refine h.frame hf (hc.rows _ (by simp)) (hc.rows _ (by simp)) (fun hnone => ?_) fun hbare => ?_
  · rw [hc.identityOf_eq hf, hnone]
  · rw [Bare, hf.store _ (hc.rows _ (by simp)), hf.store _ (hc.rows _ (by simp))]
    exact hbare

theorem OffLaunch.minted {c : Cmd} {w w' : World} {i t : String} (hc : OffLaunch c)
    (hf : Frame c w w') (h : Minted counted i t w) : Minted counted i t w' := by
  refine ⟨h.1.frame hf (hc.rows _ (by simp)) (hc.rows _ (by simp)) (fun ht => ?_) fun hnone => ?_, ?_⟩
  · rw [hc.tokenOf_eq hf, ht]
  · rw [hf.store _ (hc.rows _ (by simp)), hnone]
  · rw [hc.owed_eq hf]
    exact h.2

theorem OffLaunch.known {c : Cmd} {w w' : World} {i : String} {d : ChildIdentity}
    (hc : OffLaunch c) (hf : Frame c w w') (h : Known counted i d w) : Known counted i d w' := by
  refine ⟨h.1, h.2.frame hf (hc.rows _ (by simp)) (hc.rows _ (by simp)) (fun hd => ?_) fun hleft => ?_⟩
  · rw [hf.store _ (hc.rows _ (by simp)), hd]
  · rw [hf.store _ (hc.rows _ (by simp)), hf.store _ (hc.rows _ (by simp))]
    exact hleft

/-! ## The identity of the child -/

theorem generate_token_triple (i : String) :
    (launchContract cfg reg counted).Triple (Unknown counted i) (perform .generate_token)
      (fun minted w => Unknown counted i w ∧ ∀ t, minted = some t → 0 < w.owed t) Any := by
  refine triple_call (stable_unknown i) fun w r w' hi hw hexec => ?_
  rcases hexec.1 with ⟨t, rfl, hr⟩ | ⟨rfl, hr⟩
  · refine ⟨hi.mint t, fun _ => ⟨fun minted hm => ⟨?_, fun t' ht' => ?_⟩, fun _ _ => trivial⟩⟩
    · exact hw.frame (exec_frame hexec.1) id id id id
    · rw [hr t' (by rw [hm, ht']), (counts_minted w t t).2.2, if_pos rfl]
      exact Nat.one_pos
  · refine ⟨hi, fun _ => ⟨fun minted hm => ⟨hw, fun t' ht' => ?_⟩, fun _ _ => trivial⟩⟩
    exact absurd hm (by rw [ht']; exact hr t')

/-- The token is written while a launch is owed to it, so that a resumed spawn finds both. -/
theorem set_token_triple (i t : String) (ht : t ≠ "") :
    (launchContract cfg reg counted).Triple (fun w => Unknown counted i w ∧ 0 < w.owed t)
      (perform (.set .spawn_sporestack_token { spawn_id := i, sporestack_token := t }))
      (fun _ => Minted counted i t) Any := by
  refine triple_commits (fun w => w.put .spawn_sporestack_token _) (fun _ _ _ h => h)
    ((stable_unknown i).and (stable_owed t)) fun w hi hw => ?_
  have hf : Frame (.set .spawn_sporestack_token { spawn_id := i, sporestack_token := t }) w
      (w.put .spawn_sporestack_token { spawn_id := i, sporestack_token := t }) :=
    exec_frame (r := .ok ()) (.inl ⟨rfl, rfl⟩)
  have hnew : tokenOf i (w.store.set .spawn_sporestack_token
      { spawn_id := i, sporestack_token := t }) = some t := by
    simp [tokenOf, _rehydrate_sporestack_token, ht]
  have hidentity (j : String) : identityOf j (w.store.set .spawn_sporestack_token
      { spawn_id := i, sporestack_token := t }) = identityOf j w.store := by
    rw [identityOf, Store.set_of_ne _ _ (by decide), identityOf]
  have hintent (j t' : String) : HasVpsIntent j t' (w.store.set .spawn_sporestack_token
      { spawn_id := i, sporestack_token := t }) ↔ HasVpsIntent j t' w.store := by
    rw [HasVpsIntent, Store.set_of_ne _ _ (by decide), HasVpsIntent]
  refine ⟨⟨fun j t' hj _ => ?_, fun j d hd hn => ?_, fun j d hd => ?_, fun j k t' d hj hd => ?_,
    hi.budget⟩, hw.1.frame hf (by simp [Cmd.Writes]) (by simp [Cmd.Writes]) (fun _ => hnew)
      fun hbare => ?_, hw.2⟩
  · obtain rfl := tokenOf_unique hnew hj
    obtain rfl := Option.some.inj (hnew.symm.trans hj)
    exact hw.2
  · refine hi.identity j d ((hidentity j).symm.trans hd) fun h => hn ?_
    exact (hintent j d.sporestack_token).mpr h
  · exact hi.minted j d ((hidentity j).symm.trans hd)
  · obtain rfl := tokenOf_unique hnew hj
    -- an identity of another spawn is older than this one, which then is in progress
    refine .inr ((live_put (by decide) (by decide) i).mpr (by_contra fun hnot => ?_))
    cases ((hidentity k).symm.trans hd).symm.trans (identityOf_of_none (hw.1.2.2 hnot).2)
  · exact (hf.store _ (by simp [Cmd.Writes])).trans hbare.2

theorem obtain_token_triple (i : String) :
    (launchContract cfg reg counted).Triple (Unknown counted i) (obtain_sporestack_token i)
      (fun t => Minted counted i t) Any := by
  -- a token in the rows of a spawn without an identity has not been launched under
  have hread : (launchContract cfg reg counted).Triple (Unknown counted i)
      (perform (.get .spawn_sporestack_token))
      (fun blob w => (∀ t, _rehydrate_sporestack_token blob i = some t → Minted counted i t w) ∧
        Unknown counted i w) Any := by
    refine triple_get (stable_unknown i) fun w hi hw => ⟨fun t ht => ?_, hw⟩
    have htoken : tokenOf i w.store = some t := ht
    by_cases hlive : Live i w
    · exact ⟨.of_live hw.1 hlive htoken, hi.token i t htoken (hw.2.1 hlive)⟩
    · cases htoken.symm.trans (tokenOf_of_none (hw.2.2 hlive).1)
  refine hread.bind fun blob => ?_
  cases _rehydrate_sporestack_token blob i with
  | some t => exact triple_pure fun _ _ h => h.1 t rfl
  | none =>
      refine ((generate_token_triple i).pre fun _ _ h => h.2).bind fun minted =>
        triple_require.bind fun _ => ?_
      intro w hi hw
      have ht : Option.getD minted "" ≠ "" := by simpa [truthy] using hw.1
      have hsome : minted = some (Option.getD minted "") := by
        cases minted with
        | none => exact absurd rfl ht
        | some t => rfl
      exact ((set_token_triple i _ ht).bind fun _ => triple_pure fun _ _ h => h) w hi
        ⟨hw.2.1, hw.2.2 _ hsome⟩

/-- The balance of a token is awaited: what gets past it has not been abandoned. -/
theorem poll_balance_triple (i t token : String) :
    (launchContract cfg reg counted).Triple (Minted counted i t)
      (perform (.get_balance .poll token)) (fun _ => Credited counted i t) Any := by
  refine triple_call (stable_minted i t) fun w r w' hi hw hexec => ?_
  rw [exec_quiet rfl hexec.1]
  refine ⟨hi, fun hgo => ⟨fun _ _ => ⟨?_, hw.2⟩, fun _ _ => trivial⟩⟩
  have hlive : Live i w :=
    hw.1.1.1.live_or_cancelled.resolve_right fun hcancelled => hgo ⟨rfl, hcancelled⟩
  exact .of_live hw.1.1 hlive (hw.1.2.1 hlive)

theorem wait_for_credit_triple (i t token : String) :
    (launchContract cfg reg counted).Triple (Minted counted i t) (_wait_for_credit cfg token)
      (fun _ => Credited counted i t) Any := by
  have hquiet {α : Type} {p : Coro α} (hp : p.Within Quiet) :
      (launchContract cfg reg counted).Triple (Minted counted i t) p (fun _ => Minted counted i t)
        Any := triple_quiet_any hp (stable_minted i t)
  have hloop (start : ℚ) (n : ℕ) : (launchContract cfg reg counted).Triple (Minted counted i t)
      (wait_for_credit_loop token start n) (fun _ => Credited counted i t) Any := by
    induction n with
    | zero => exact triple_raise fun _ _ _ => trivial
    | succ n ih =>
        refine (hquiet (.call rfl)).bind fun now => ?_
        split
        · refine (poll_balance_triple i t token).bind fun balance => ?_
          dsimp only
          split
          · exact triple_pure fun _ _ h => h
          · refine ((hquiet (.call rfl)).pre fun w _ hw => ?_).bind fun _ => ih
            exact ⟨hw.1.mono id And.right, hw.2⟩
        · exact triple_raise fun _ _ _ => trivial
  exact (hquiet (.call rfl)).bind fun start => hloop start cfg.polls

/-- The child's identity with its token in the rows, nothing launched yet. -/
theorem prepare_identity_triple (i : String) :
    (launchContract cfg reg counted).Triple (Unknown counted i) (prepare_child_identity cfg i)
      (fun d w => d.spawn_id = i ∧ Credited counted i d.sporestack_token w) Any := by
  have hwallet : (obtain_child_wallet i).Within OffLaunch :=
    (obtain_child_wallet_touches i fun _ => False).mono fun c hc =>
      hc.offLaunch (by decide) fun _ _ => ⟨id, id⟩
  have hfund (t : String) : (_fund_sporestack_token cfg i t).Within OffLaunch :=
    (fund_sporestack_token_touches cfg i t).mono fun c hc =>
      hc.offLaunch (by decide) fun _ _ => by simp [fundingEvent]
  have hkey (path comment : String) : ((perform (.generate_ssh_keypair path comment)).tryCatch
      fun e => raise (.SpawnError "identity" ("SSH keypair generation failed: " ++ e.str))).Within
        Quiet := .tryCatch (.call rfl) fun _ => trivial
  refine (triple_quiet_any (.call rfl) (stable_unknown i)).bind fun ps => ?_
  refine (triple_quiet_any (within_require _ _) (stable_unknown i)).bind fun _ => ?_
  refine (triple_quiet_any (hkey _ _) (stable_unknown i)).bind fun key => ?_
  refine (off_launch_triple hwallet (stable_unknown i) fun c hc w w' hf => hc.unknown hf).bind
    fun wallet => ?_
  refine (obtain_token_triple i).bind fun t => ?_
  refine (triple_quiet_any (.call rfl) (stable_minted i t)).bind fun parent => ?_
  refine (triple_quiet_any (within_require _ _) (stable_minted i t)).bind fun _ => ?_
  refine (off_launch_triple (hfund t) (stable_minted i t) fun c hc w w' hf => hc.minted hf).bind
    fun _ => ?_
  exact (wait_for_credit_triple i t t).bind fun _ => triple_pure fun _ _ h => ⟨rfl, h⟩

theorem set_identity_triple (i : String) (d : ChildIdentity) (hd : d.spawn_id = i) :
    (launchContract cfg reg counted).Triple (Credited counted i d.sporestack_token)
      (perform (.set .spawn_identity d)) (fun _ => Known counted i d) Any := by
  refine triple_commits (fun w => w.put .spawn_identity d) (fun _ _ _ h => h)
    (stable_credited i _) fun w hi hw => ?_
  have hf : Frame (.set .spawn_identity d) w (w.put .spawn_identity d) :=
    exec_frame (r := .ok ()) (.inl ⟨rfl, rfl⟩)
  have hslot : (w.store.set .spawn_identity d) .spawn_identity = some d := Store.set_self ..
  have hnew (j : String) (d' : ChildIdentity)
      (hd' : identityOf j (w.store.set .spawn_identity d) = some d') : d' = d ∧ j = i := by
    obtain ⟨hslot', hid⟩ := identityOf_eq_some.mp hd'
    obtain rfl := Option.some.inj (hslot.symm.trans hslot')
    exact ⟨rfl, hid.symm.trans hd⟩
  have htoken (j : String) : tokenOf j (w.store.set .spawn_identity d) = tokenOf j w.store := by
    rw [tokenOf, Store.set_of_ne _ _ (by decide), tokenOf]
  -- a token that is left in the rows is the spawn's own
  have hown (j t : String) (ht : tokenOf j (w.store.set .spawn_identity d) = some t) : i = j := by
    rw [htoken] at ht
    by_cases hlive : Live i w
    · exact tokenOf_unique (hw.1.2.1 hlive) ht
    · cases ht.symm.trans (tokenOf_of_none (hw.1.2.2 hlive).1)
  refine ⟨⟨fun j t ht hnone => ?_, fun j d' hd' _ => ?_, fun j d' hd' => ?_,
    fun j k t d' ht hd' => ?_, hi.budget⟩, hd,
    hw.1.frame hf (by simp [Cmd.Writes]) (by simp [Cmd.Writes]) (fun _ => hslot) fun hbare => ?_⟩
  · obtain rfl := hown j t ht
    cases hnone.symm.trans (identityOf_eq_some.mpr ⟨hslot, hd⟩)
  · rw [(hnew j d' hd').1]
    exact hw.2
  · rw [(hnew j d' hd').1]
    exact minted_of_owed hw.2
  · exact .inl ((hown j t ht).symm.trans (hnew k d' hd').2.symm)
  · refine ⟨(hf.store _ (by simp [Cmd.Writes])).trans hbare.1, fun x hx => ?_⟩
    exact (Option.some.inj (hslot.symm.trans hx)).symm

theorem obtain_identity_triple (i : String) :
    (launchContract cfg reg counted).Triple (Begun counted i) (obtain_identity cfg i)
      (fun d => Known counted i d) Any := by
  have hread : (launchContract cfg reg counted).Triple (Begun counted i)
      (perform (.get .spawn_identity))
      (fun blob w => (∀ d, (blob.filter fun d => d.spawn_id = i) = some d → Known counted i d w) ∧
        ((blob.filter fun d => d.spawn_id = i) = none → Unknown counted i w)) Any := by
    refine triple_get (stable_begun i) fun w hi hw => ⟨fun d hd => ?_, fun hnone => ?_⟩
    · obtain ⟨hslot, hid⟩ := identityOf_eq_some.mp hd
      by_cases hlive : Live i w
      · exact ⟨hid, .of_live hw.1 hlive hslot⟩
      · cases hslot.symm.trans (hw.2.2 hlive).2
    · exact ⟨hw.1, fun _ => hnone, hw.2.2⟩
  refine hread.bind fun blob => ?_
  split
  · rename_i d hd
    exact triple_pure fun w _ hw => hw.1 d hd
  · rename_i hnone
    refine ((prepare_identity_triple i).pre fun w _ hw => hw.2 hnone).bind fun d => ?_
    intro w hi hw
    exact ((set_identity_triple i d hw.1).bind fun _ => triple_pure fun _ _ h => h) w hi hw.2

/-! ## The machine of the child -/

/-- An empty list of servers is the only way to find no orphan. -/
theorem pick_orphan_returns (servers : List Server) :
    (pick_orphan cfg servers).Returns fun orphan => orphan = none → servers = [] := by
  unfold pick_orphan
  split
  · exact trivial
  · intro hnone
    have hempty := List.getLast?_eq_none_iff.mp hnone
    exact List.eq_nil_of_length_eq_zero (by rw [← List.length_mergeSort, hempty]; rfl)

/-- SporeStack is asked first: told of no server, none was launched. -/
theorem adopt_orphan_server_triple (hreg : ∀ c w r, reg.answers c w r → ServersListed c w r)
    (i : String) (d : ChildIdentity) :
    (launchContract cfg reg counted).Triple (Known counted i d)
      (_adopt_orphan_server cfg d.sporestack_token)
      (fun orphan w => Known counted i d w ∧ (orphan = none → 0 < w.owed d.sporestack_token)) Any := by
  have hask : (launchContract cfg reg counted).Triple (Known counted i d)
      (perform (.get_servers d.sporestack_token))
      (fun servers w => Known counted i d w ∧ (servers = [] → 0 < w.owed d.sporestack_token)) Any := by
    refine triple_call (stable_known i d) fun w r w' hi hw hexec => ?_
    obtain ⟨hexec, hlisted⟩ := hexec
    have hlisted := hreg _ _ _ hlisted
    rw [exec_quiet rfl hexec]
    refine ⟨hi, fun hgo => ⟨fun servers hservers => ⟨hw, fun hempty => ?_⟩, fun _ _ => trivial⟩⟩
    have hlive : Live i w :=
      hw.2.1.1.live_or_cancelled.resolve_right fun hcancelled => hgo ⟨rfl, hcancelled⟩
    -- a launch in the log would be a server in the answer
    refine owed_of_unlaunched (hi.minted i d (identityOf_eq_some.mpr ⟨hw.2.2.1 hlive, hw.1⟩))
      fun e he => Bool.eq_false_iff.mpr fun hlaunch => ?_
    unfold isLaunch at hlaunch
    split at hlaunch
    · rename_i t m
      rw [beq_iff_eq] at hlaunch
      subst hlaunch hservers hempty
      obtain ⟨s, hs, -⟩ := hlisted m he
      cases hs
    · exact Bool.false_ne_true hlaunch
  have hstable (servers : List Server) : (launchContract cfg reg counted).Stable fun w =>
      Known counted i d w ∧ (servers = [] → 0 < w.owed d.sporestack_token) :=
    fun w w' hs hi hw => ⟨stable_known i d w w' hs hi hw.1,
      fun h => stable_owed _ w w' hs hi (hw.2 h)⟩
  refine Triple.bind (hask.tryCatch fun e => ?_) fun servers => ?_
  · cases e with
    | SpawnError step message => exact triple_raise fun _ _ _ => trivial
    | SporeStackError message => exact triple_raise fun _ _ _ => trivial
    | SystemExit => exact triple_raise fun _ _ _ => trivial
    | other message => exact triple_raise fun _ _ _ => trivial
  · have hpick : (pick_orphan cfg servers).Within Quiet := .ite (fun _ => trivial) fun _ => trivial
    refine ((triple_quiet_any hpick (hstable servers)).returns (pick_orphan_returns servers)).post ?_
    exact fun orphan w _ h => ⟨h.2.1, fun hnone => h.2.2 (h.1 hnone)⟩

/-- The intent is written while a launch is still owed, so that a crash in between finds it. -/
theorem set_vps_intent_triple (i : String) (d : ChildIdentity) :
    (launchContract cfg reg counted).Triple (Due counted i d)
      (perform (.set .spawn_vps_intent
        { spawn_id := d.spawn_id, sporestack_token := d.sporestack_token }))
      (fun _ => Launching counted i d) Any := by
  refine triple_commits (fun w => w.put .spawn_vps_intent _) (fun _ _ _ h => h) (stable_due i d)
    fun w hi hw => ?_
  have hf : Frame (.set .spawn_vps_intent
      { spawn_id := d.spawn_id, sporestack_token := d.sporestack_token }) w
      (w.put .spawn_vps_intent
        { spawn_id := d.spawn_id, sporestack_token := d.sporestack_token }) :=
    exec_frame (r := .ok ()) (.inl ⟨rfl, rfl⟩)
  have hslot : (w.put .spawn_vps_intent
      { spawn_id := d.spawn_id, sporestack_token := d.sporestack_token }).store .spawn_identity =
        w.store .spawn_identity := hf.store _ (by simp [Cmd.Writes])
  have htoken : (w.put .spawn_vps_intent
      { spawn_id := d.spawn_id, sporestack_token := d.sporestack_token }).store
        .spawn_sporestack_token = w.store .spawn_sporestack_token :=
    hf.store _ (by simp [Cmd.Writes])
  have hnew : HasVpsIntent i d.sporestack_token (w.put .spawn_vps_intent
      { spawn_id := d.spawn_id, sporestack_token := d.sporestack_token }).store := by
    simp [HasVpsIntent, World.put, hw.1.1]
  -- the identity in the rows, if there is one, is that of the spawn
  have hown (j : String) (d' : ChildIdentity) (hd' : identityOf j w.store = some d') :
      d' = d ∧ j = i := by
    obtain ⟨hslot', hid⟩ := identityOf_eq_some.mp hd'
    have hsame : d' = d := by
      by_cases hlive : Live i w
      · exact (Option.some.inj ((hw.1.2.2.1 hlive).symm.trans hslot')).symm
      · exact (hw.1.2.2.2 hlive).2 d' hslot'
    exact ⟨hsame, hid.symm.trans (hsame ▸ hw.1.1)⟩
  have hidentity (j : String) : identityOf j (w.put .spawn_vps_intent
      { spawn_id := d.spawn_id, sporestack_token := d.sporestack_token }).store =
        identityOf j w.store := by
    rw [identityOf, hslot, identityOf]
  have htokenOf (j : String) : tokenOf j (w.put .spawn_vps_intent
      { spawn_id := d.spawn_id, sporestack_token := d.sporestack_token }).store =
        tokenOf j w.store := by
    rw [tokenOf, htoken, tokenOf]
  have hlive (j : String) := live_put (w := w) (k := .spawn_vps_intent)
    (v := { spawn_id := d.spawn_id, sporestack_token := d.sporestack_token }) (by decide) (by decide) j
  refine ⟨⟨fun j t ht hnone => ?_, fun j d' hd' hn => ?_, fun j d' hd' => ?_,
    fun j k t d' ht hd' => ?_, hi.budget⟩, hw.1.1, fun hl => hw.2 ((hlive i).mp hl),
    hw.1.2.frame hf (by simp [Cmd.Writes]) (by simp [Cmd.Writes]) (fun hd => ?_) fun hleft => ?_⟩
  · exact hi.token j t ((htokenOf j).symm.trans ht) ((hidentity j).symm.trans hnone)
  · obtain ⟨rfl, rfl⟩ := hown j d' ((hidentity j).symm.trans hd')
    exact absurd hnew hn
  · exact hi.minted j d' ((hidentity j).symm.trans hd')
  · refine (hi.agree j k t d' ((htokenOf j).symm.trans ht) ((hidentity k).symm.trans hd')).imp_right ?_
    exact (hlive j).mpr
  · exact ⟨hslot.trans hd, hnew⟩
  · exact ⟨htoken.trans hleft.1, fun x hx => ⟨hleft.2 x (hslot.symm.trans hx), hnew⟩⟩

/-- The launch itself, with identity and intent in the rows or with no rows left. -/
theorem LaunchInv.launch {w : World} {i m : String} {d : ChildIdentity} (h : LaunchInv counted w)
    (hw : Launching counted i d w) :
    LaunchInv counted (w.emit (.server_launched d.sporestack_token m)) := by
  obtain ⟨hid, howed, hstage⟩ := hw
  have hown (j : String) (d' : ChildIdentity) (hd' : identityOf j w.store = some d') :
      d' = d ∧ j = i ∧ HasVpsIntent i d.sporestack_token w.store := by
    obtain ⟨hslot, hj⟩ := identityOf_eq_some.mp hd'
    have hsame : d' = d ∧ HasVpsIntent i d.sporestack_token w.store := by
      by_cases hlive : Live i w
      · obtain ⟨hd, hintent⟩ := hstage.2.1 hlive
        exact ⟨(Option.some.inj (hd.symm.trans hslot)).symm, hintent⟩
      · exact (hstage.2.2 hlive).2 d' hslot
    exact ⟨hsame.1, hj.symm.trans (hsame.1 ▸ hid), hsame.2⟩
  refine ⟨fun j t ht hnone => ?_, fun j d' hd' hn => ?_, fun j d' hd' => ?_, h.agree,
    fun hcounted => (h.budget hcounted).launch m (howed (hstage.1.2 hcounted))⟩
  · by_cases hlive : Live i w
    · -- the token would be of another spawn in progress
      have hd : identityOf i w.store = some d :=
        identityOf_eq_some.mpr ⟨(hstage.2.1 hlive).1, hid⟩
      have hij : j = i := (h.agree j i t d ht hd).elim id fun hj => hj.2.symm.trans hlive.2
      rw [hij] at hnone
      cases hnone.symm.trans hd
    · cases ht.symm.trans (tokenOf_of_none (hstage.2.2 hlive).1)
  · obtain ⟨rfl, rfl, hintent⟩ := hown j d' hd'
    exact absurd hintent hn
  · exact List.mem_cons_of_mem _ (h.minted j d' hd')

theorem launch_child_vps_triple (i : String) (d : ChildIdentity) :
    (launchContract cfg reg counted).Triple (Due counted i d) (launch_child_vps d)
      (fun _ => Known counted i d) Any := by
  have hlaunch : (launchContract cfg reg counted).Triple (Launching counted i d)
      (perform (.launch_server d.sporestack_token d.ssh_public_key d.spawn_id))
      (fun _ => Known counted i d) Any := by
    refine triple_call (stable_launching i d) fun w r w' hi hw hexec => ?_
    have hknown : Known counted i d w :=
      ⟨hw.1, hw.2.2.mono And.left fun hleft => ⟨hleft.1, fun x hx => (hleft.2 x hx).1⟩⟩
    rcases hexec.1 with ⟨m, rfl, -⟩ | ⟨rfl, -⟩
    · refine ⟨hi.launch hw, fun _ => ⟨fun _ _ => ⟨hknown.1, ?_⟩, fun _ _ => trivial⟩⟩
      exact hknown.2.frame (exec_frame hexec.1) id id id id
    · exact ⟨hi, fun _ => ⟨fun _ _ => hknown, fun _ _ => trivial⟩⟩
  refine (set_vps_intent_triple i d).bind fun _ => hlaunch.bind fun machine_id => ?_
  exact (triple_quiet_any (within_require _ _) (stable_known i d)).bind fun _ =>
    triple_pure fun _ _ h => h

/-- **The machine of a spawn is adopted, or launched with a launch still owed**, unless the spawn
has been abandoned. -/
theorem obtain_machine_triple (hreg : ∀ c w r, reg.answers c w r → ServersListed c w r)
    (i : String) (d : ChildIdentity) :
    (launchContract cfg reg counted).Triple (Known counted i d) (obtain_machine cfg d)
      (fun _ => Known counted i d) Any := by
  have hread : (launchContract cfg reg counted).Triple (Known counted i d)
      (perform (.get .spawn_vps_intent))
      (fun intent w => Known counted i d w ∧ (intent ≠ some
        { spawn_id := d.spawn_id, sporestack_token := d.sporestack_token } → Due counted i d w))
      Any := by
    refine triple_get (stable_known i d) fun w hi hw => ⟨hw, fun hintent => ⟨hw, fun hlive => ?_⟩⟩
    have hd : identityOf i w.store = some d := identityOf_eq_some.mpr ⟨hw.2.2.1 hlive, hw.1⟩
    refine hi.identity i d hd fun h => hintent ?_
    rw [hw.1]
    exact h
  refine hread.bind fun intent => ?_
  have hserver : (launchContract cfg reg counted).Triple
      (fun w => Known counted i d w ∧ (intent ≠ some
        { spawn_id := d.spawn_id, sporestack_token := d.sporestack_token } → Due counted i d w))
      (if intent = some { spawn_id := d.spawn_id, sporestack_token := d.sporestack_token } then
        _adopt_orphan_server cfg d.sporestack_token else pure none)
      (fun server w => Known counted i d w ∧ (server = none → Due counted i d w)) Any := by
    split
    · refine ((adopt_orphan_server_triple hreg i d).pre fun w _ hw => hw.1).post ?_
      exact fun orphan w _ h => ⟨h.1, fun hnone => ⟨h.1, fun _ => h.2 hnone⟩⟩
    · rename_i hintent
      exact triple_pure fun w _ hw => ⟨hw.1, fun _ => hw.2 hintent⟩
  refine hserver.bind fun server => ?_
  cases server with
  | none => exact (launch_child_vps_triple i d).pre fun w _ hw => hw.2 rfl
  | some server =>
      refine ((triple_quiet_any (within_require _ _) (stable_known i d)).pre
        fun w _ hw => hw.1).bind fun _ => triple_pure fun _ _ h => h

theorem offLaunch_set_vps_info (v : ChildVpsInfo) : OffLaunch (.set .spawn_vps_info v) := by
  have h : Touches [.spawn_vps_info] (fun _ => False) (.set .spawn_vps_info v) :=
    touches_set (by simp)
  exact h.offLaunch (by decide) fun _ _ => ⟨id, id⟩

theorem obtain_vps_triple (hreg : ∀ c w r, reg.answers c w r → ServersListed c w r) (i : String)
    (d : ChildIdentity) :
    (launchContract cfg reg counted).Triple (Known counted i d) (obtain_vps cfg i d)
      (fun _ => Known counted i d) Any := by
  have hquiet {α : Type} {p : Coro α} (hp : p.Within Quiet) :
      (launchContract cfg reg counted).Triple (Known counted i d) p (fun _ => Known counted i d)
        Any := triple_quiet_any hp (stable_known i d)
  refine (hquiet (.call rfl)).bind fun blob => ?_
  split
  · exact triple_pure fun _ _ h => h
  refine (hquiet (.call rfl)).bind fun ps => (hquiet (within_require _ _)).bind fun _ => ?_
  refine (obtain_machine_triple hreg i d).bind fun machine_id => ?_
  refine (hquiet (.call rfl)).bind fun server => (hquiet (vps_info_of_within _ _ _)).bind
    fun vps_info => ?_
  exact (off_launch_triple (.call (offLaunch_set_vps_info vps_info)) (stable_known i d)
    fun c hc w w' hf => hc.known hf).bind fun _ => triple_pure fun _ _ h => h

/-! ## The whole run -/

theorem Aside.offLaunch {c : Cmd} (h : Aside c) : OffLaunch c :=
  Touches.offLaunch h (by decide) fun t m => by simp [topupEvent]

theorem Transfers.launch {i : String} {c : Cmd} {w w' : World} {r : Except Exc c.Ret}
    (hc : Transfers i c) (h : LaunchInv counted w) (hexec : exec c w r w') : LaunchInv counted w' := by
  rcases hc with hc | ⟨success, address, rfl⟩
  · exact h.frame (hc.offLaunch (by decide) fun t m => by simp [transferEvent]) (exec_frame hexec)
  · rcases hexec with ⟨-, rfl⟩ | ⟨-, rfl⟩
    · exact h.completed w success address
    · exact h

/-- No spawn is in progress under the decision loop. -/
def Idle (w : World) : Prop := w.tasks = true ∧ w.store.is_spawn_in_progress = false

theorem stable_idle_launch : (launchContract cfg reg counted).Stable Idle := by
  intro w w' hs hi hw
  have hsignalled := signalled_of_launch hs
  refine ⟨hsignalled.tasks.trans hw.1, ?_⟩
  rcases hsignalled.rows with hrows | ⟨-, hp, -, -⟩
  · rw [hrows, hw.2]
  · exact hp

/-- A spawn was in progress; if a signal has abandoned it, its rows are gone. -/
def Resumed (counted : Prop) (w : World) : Prop :=
  Recovering counted w ∧ (w.store.is_spawn_in_progress = false → Bare w.store)

theorem stable_resumed : (launchContract cfg reg counted).Stable (Resumed counted) := by
  intro w w' hs hi hw
  refine ⟨stable_recovering w w' hs hi hw.1, ?_⟩
  rcases (signalled_of_launch hs).rows with hrows | ⟨-, -, hclean, -⟩
  · rw [hrows]
    exact hw.2
  · exact fun _ => hclean.bare

def launchOutline (cfg : Setup) (reg : Regime)
    (hreg : ∀ c w r, reg.answers c w r → ServersListed c w r) (counted : Prop) :
    Outline (launchContract cfg reg counted) where
  idle := Idle
  recovering := Resumed counted
  active := Begun counted
  known := Known counted
  stable_idle := stable_idle_launch
  stable_recovering := stable_resumed
  stable_active := stable_begun
  stable_known := stable_known
  stable_tasks := stable_tasks
  inv_congr := LaunchInv.congr
  idle_of _ _ ht hp := ⟨ht, hp⟩
  recovering_of _ _ ht hp :=
    ⟨⟨⟨ht, .inl hp⟩, fun _ => hp⟩, fun hn => absurd (hp.symm.trans hn) Bool.false_ne_true.symm⟩
  active_of w _ hw := ⟨hw.1.serving, fun _ => trivial, fun hnot =>
    hw.2 (Bool.eq_false_iff.mpr fun hp => hnot ⟨hp, rfl⟩)⟩
  aside c hc w w' hi hf := by
    refine ⟨hi.frame hc.offLaunch hf, fun hw => ⟨hf.tasks hw.1, ?_⟩⟩
    exact (in_progress_congr (hf.store _ (hc.offLaunch.rows _ (by simp)))).trans hw.2
  completed := LaunchInv.completed
  started w i hi hw := ⟨hi.started w i hw.2,
    .of_live (serving_started i hw.1) (live_started w i) trivial⟩
  identity := obtain_identity_triple
  vps := obtain_vps_triple hreg
  -- the transfer launches nothing
  transfer i d ns := by
    refine ((triple_within (transfer_inheritance_within cfg d ns) stable_true ?_).pre
      fun _ _ _ => trivial).anyway
    exact fun c hc w r w' hi _ hexec => ⟨hc.launch hi hexec.1, fun _ => trivial⟩

/-- Only two operations have to do with the counts, and both are awaited. -/
theorem mints_or_launches (c : Cmd) :
    c = .generate_token ∨ (∃ t ssh_key hostname, c = .launch_server t ssh_key hostname) ∨
      ((∀ t, ¬ c.Emits (.token_minted t)) ∧ ∀ t m, ¬ c.Emits (.server_launched t m)) := by
  cases c with
  | generate_token => exact .inl rfl
  | launch_server t ssh_key hostname => exact .inr (.inl ⟨t, ssh_key, hostname, rfl⟩)
  | _ => exact .inr (.inr (by simp [Cmd.Emits]))

/-- The launches as a ration: each minting allows one. -/
def launchRation : Ration String where
  uses := Launches
  left t w := 0 < w.owed t
  Budget := LaunchBudget
  budget_congr hl h := h.congr hl
  left_congr {w w' t} hl h := by
    rw [World.owed, hl]
    exact h
  budget_exec {c w w' r} hexec h hleft := by
    rcases mints_or_launches c with rfl | ⟨t, ssh_key, hostname, rfl⟩ | ⟨hmints, hlaunches⟩
    · rcases hexec with ⟨t, rfl, -⟩ | ⟨rfl, -⟩
      · exact h.mint t
      · exact h
    · rcases hexec with ⟨m, rfl, -⟩ | ⟨rfl, -⟩
      · exact h.launch m (hleft t ⟨ssh_key, hostname, rfl⟩)
      · exact h
    · exact h.frame (exec_frame hexec) hmints hlaunches
  left_exec {c w w' r t} hc hexec h := by
    rcases mints_or_launches c with rfl | ⟨t', ssh_key, hostname, rfl⟩ | ⟨hmints, hlaunches⟩
    · exact absurd hc (by simp [Cmd.isAwait])
    · exact absurd hc (by simp [Cmd.isAwait])
    · rw [((exec_frame hexec).launch_counts hmints hlaunches t).2.2]
      exact h

/-- **At most one launch takes effect for each time SporeStack minted the token**, in every state
of every run where `get_servers` raises or lists every server whose launch took effect and no
signal abandons a spawn that has a launch pending under a token that is owed none, whenever crashes
and other signals come. A token that SporeStack hands out once is launched under at most once. -/
theorem launched_once {now : ℚ} {s : World × Proc Cmd Cmd.Ret Exc}
    (hs : (machine cfg (launchesOwed cfg.toConfig)).Reachable (World.fresh now) s) (t : String) :
    s.1.launches t ≤ s.1.mints t ∧ (s.1.mints t ≤ 1 → s.1.launches t ≤ 1) := by
  have hinit (counted : Prop) : LaunchInv counted (World.fresh now) := by
    have htoken (i : String) : tokenOf i (World.fresh now).store = none := tokenOf_of_none rfl
    have hidentity (i : String) : identityOf i (World.fresh now).store = none :=
      identityOf_of_none rfl
    refine ⟨fun i t ht _ => ?_, fun i d hd _ => ?_, fun i d hd => ?_, fun i j t d ht _ => ?_,
      fun _ t => Nat.le_refl 0⟩
    · cases (htoken i).symm.trans ht
    · cases (hidentity i).symm.trans hd
    · cases (hidentity i).symm.trans hd
    · cases (htoken i).symm.trans ht
  have hbudget : LaunchBudget s.1 :=
    budget_of_reachable (launchOutline cfg (launchesOwed cfg.toConfig) fun _ _ _ h => h)
      (R := launchRation) (fun w hi => hi.budget trivial)
      (fun w hi hbudget => ⟨hi.token, hi.identity, hi.minted, hi.agree, fun _ => hbudget⟩)
      (fun q w hok => hok q rfl) hinit hs
  have hle : s.1.launches t ≤ s.1.mints t := (Nat.le_add_right _ _).trans (hbudget t)
  exact ⟨hle, hle.trans⟩

/-! ## Concrete runs -/

theorem serversListed_calm (c : Cmd) (w : World) : ServersListed c w (calm none c w).1 := by
  cases c with
  | get_servers t =>
      intro m hm
      refine ⟨calmServer m, List.mem_filterMap.mpr ⟨_, hm, ?_⟩, rfl⟩
      simp
  | get_balance site t =>
      cases site with
      | reconcile => exact trivial
      | poll => exact trivial
  | _ => exact trivial

/-- A crash after the launch and before `spawn_vps_info` is written: the recovery finds the
server and adopts it. -/
theorem reachable_resumed (reg : Regime)
    (hreg : ∀ c w, reg.answers c w (calm none c w).1) (m : ℕ) :
    (machine calmSetup reg).Reachable (World.fresh 0)
      ((calmResume none 41 m).1, .running (calmResume none 41 m).2) :=
  reachable_calmResume hreg (reachable_calmSpawn hreg (by decide +kernel) 41) (by decide +kernel) m

/-- The token of the launch that the program is about to make. -/
def launchAt : Coro Unit → Option String
  | .op (.launch_server t _ _) _ => some t
  | _ => none

theorem not_comesTo_launch {cfg : Config} {t : String} {p : Coro Unit} {w : World}
    (hawait : atAwait p = true) (hp : launchAt p = none) : ¬ ComesTo cfg (Launches t) p w := by
  cases p with
  | op c k =>
      refine not_comesTo_of_atAwait hawait fun h => ?_
      obtain ⟨ssh_key, hostname, rfl⟩ := h
      cases hp
  | _ => cases hawait

/-- The adopted server is being waited for when a signal comes, two hours later: nothing is pending,
and the spawn is abandoned with one launch made. -/
theorem launched_once_resumed :
    (_handle_shutdown calmSetup.toConfig { (calmResume none 41 18).1 with now := 7200 }).launches
        "token" = 1 ∧
      (_handle_shutdown calmSetup.toConfig { (calmResume none 41 18).1 with now := 7200 }).mints
        "token" ≤ 1 ∧
      (_handle_shutdown calmSetup.toConfig { (calmResume none 41 18).1 with now := 7200 }).launches
        "token" ≤ 1 := by
  have hresumed := reachable_resumed (launchesOwed calmSetup.toConfig) serversListed_calm 18
  have hlate := hresumed.tail (.signal (by simp) (.inl ⟨7200, by decide +kernel, rfl⟩))
  have hsignal := hlate.tail (.signal (by simp) (.inr ⟨fun _ q hq t hpending => ?_, rfl⟩))
  · have hmints : (_handle_shutdown calmSetup.toConfig
        { (calmResume none 41 18).1 with now := 7200 }).mints "token" ≤ 1 := by decide +kernel
    exact ⟨by decide +kernel, hmints, (launched_once hsignal "token").2 hmints⟩
  · cases hq
    exact absurd hpending (not_comesTo_launch (by decide +kernel) (by decide +kernel))

/-- A launch that ends a cancelled program, and takes effect all the same: nobody hears of the
server. -/
theorem reachable_cut_launch {w₀ w : World} {p : Coro Unit} {t : String}
    (hs : (machine calmSetup serversListed).Reachable w₀ (w, .running p))
    (hp : launchAt p = some t) (hw : w.cancelled = true) (m : String) :
    (machine calmSetup serversListed).Reachable w₀ (w.emit (.server_launched t m), .stopped) := by
  unfold launchAt at hp
  split at hp
  · cases hp
    exact hs.tail (.cut ⟨rfl, hw⟩ (.inr ⟨.ok none, .inl ⟨m, rfl, fun _ h => nomatch h⟩, trivial⟩))
  · cases hp

/-- The identity has been read and the intent has not, when a signal comes two hours later. -/
def resumeAbandoned : World × Coro Unit :=
  Machine.play (calm none) 4
    (_handle_shutdown calmSetup.toConfig { (calmResume none 41 14).1 with now := 7200 },
      (calmResume none 41 14).2)

/-- **A second launch under one token**: the coroutine looks for an intent that the signal has
deleted. -/
theorem second_launch :
    ∃ s, (machine calmSetup serversListed).Reachable (World.fresh 0) s ∧
      s.1.mints "token" = 1 ∧ s.1.launches "token" = 2 := by
  have hresumed := reachable_resumed serversListed serversListed_calm 14
  have hlate := hresumed.tail (.signal (by simp) (.inl ⟨7200, by decide +kernel, rfl⟩))
  have hsignal := hlate.tail (.signal (by simp) (.inr ⟨fun _ => trivial, rfl⟩))
  have hread := reachable_sync (exec_calm none) (fun c w _ => serversListed_calm c w) 4
    (s := (_, _)) hsignal (by decide +kernel)
  have hlaunch := reachable_cut_launch (t := "token") hread (by decide +kernel) (by decide +kernel)
    "second"
  have hmints : resumeAbandoned.1.mints "token" = 1 := by decide +kernel
  have hlaunches : resumeAbandoned.1.launches "token" = 1 := by decide +kernel
  obtain ⟨hlaunches', hmints', -⟩ := counts_launched resumeAbandoned.1 "token" "second" "token"
  refine ⟨_, hlaunch, hmints'.trans hmints, hlaunches'.trans ?_⟩
  rw [hlaunches, if_pos rfl]

end Superorganism.Spawn
