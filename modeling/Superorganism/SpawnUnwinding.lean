/-
What a spawn may still use up when a signal has abandoned it under its coroutine.

`_handle_shutdown` clears the rows and cancels the decision loop, but the coroutine goes on up to
its next await, with rows that are no longer those it has written. A limit that the rows keep on
all other runs can break there, in the await that ends the coroutine.

A `Ration` is such a limit, kept on the log. The proof goes through two contracts with one
invariant: counted, where no signal abandons a spawn and the limit is kept, and uncounted, where
every signal is allowed and only the rows are looked at. After an abandoning signal the program is
`Unwinding`: cancelled, with something left for whatever it can still come to. Once it has ended,
what the rows say and the limit make the counted invariant again.
-/
import Superorganism.SpawnKeys

set_option autoImplicit false

open Superorganism.Process Superorganism.Process.Prog Superorganism.Process.Contract

namespace Superorganism.Spawn

variable {cfg : Setup} {reg : Regime} {counted : Prop}

/-! ## Under both contracts -/

/-- The pipeline of `i` runs; counted, its rows are in place. -/
def Serving (counted : Prop) (i : String) (w : World) : Prop :=
  Underway i w ∧ (counted → Live i w)

/-- A spawn was in progress; counted, it still is. -/
def Recovering (counted : Prop) (w : World) : Prop :=
  Resuming w ∧ (counted → w.store.is_spawn_in_progress = true)

theorem Recovering.serving {w : World} (h : Recovering counted w) :
    Serving counted w.store.get_spawn_id w :=
  ⟨h.1.underway, fun hcounted => ⟨h.2 hcounted, rfl⟩⟩

theorem serving_started {w : World} (i : String) (ht : w.tasks = true) :
    Serving counted i (w.started i) :=
  ⟨⟨(frame_started w i).tasks ht, .inl (live_started w i)⟩, fun _ => live_started w i⟩

theorem Serving.frame {c : Cmd} {w w' : World} {i : String} (h : Serving counted i w)
    (hf : Frame c w w') (hp : ¬ c.Writes .spawn_in_progress) (hid : ¬ c.Writes .spawn_id) :
    Serving counted i w' :=
  ⟨hf.underway hp hid h.1, fun hcounted => (hf.live hp hid i).mpr (h.2 hcounted)⟩

/-- What a signal does to the rows of a spawn. -/
theorem live_of_signalled {w w' : World} {i : String}
    (h : Signalled (fun w => counted → w.tasks = false) w w') :
    (Live i w' → Live i w ∧ w'.store = w.store) ∧
      (w.tasks = true → counted → Live i w → Live i w') := by
  rcases h.rows with hrows | ⟨hok, hp, -, -⟩
  · have hiff : Live i w' ↔ Live i w := Live.congr (by rw [hrows]) (by rw [hrows])
    exact ⟨fun hlive => ⟨hiff.mp hlive, hrows⟩, fun _ _ => hiff.mpr⟩
  -- an abandoned spawn has no rows; counted, no signal abandons one here
  · refine ⟨fun hlive => absurd (hp.symm.trans hlive.1) Bool.false_ne_true, fun ht hcounted => ?_⟩
    exact absurd (ht.symm.trans (hok hcounted)) Bool.false_ne_true.symm

section

variable {Inv : World → Prop}
  {hinv : ∀ w w', Signalled (fun w => counted → w.tasks = false) w w' → Inv w → Inv w'}

theorem stable_serving (i : String) :
    (signalContract cfg reg (fun w => counted → w.tasks = false) Inv hinv).Stable
      (Serving counted i) := by
  intro w w' hs hi hw
  refine ⟨stable_underway i w w' hs hi hw.1, fun hcounted => ?_⟩
  exact (live_of_signalled (Signal.signalled hs)).2 hw.1.1 hcounted (hw.2 hcounted)

theorem stable_recovering :
    (signalContract cfg reg (fun w => counted → w.tasks = false) Inv hinv).Stable
      (Recovering counted) := by
  intro w w' hs hi hw
  refine ⟨stable_resuming w w' hs hi hw.1, fun hcounted => ?_⟩
  have hlive : Live w.store.get_spawn_id w := ⟨hw.2 hcounted, rfl⟩
  exact ((live_of_signalled (Signal.signalled hs)).2 hw.1.1 hcounted hlive).1

end

/-! ## Rations -/

/-- The program can come to an operation of the kind `A` before its next await, while time passes
and signals arrive. -/
inductive ComesTo (cfg : Config) (A : Cmd → Prop) : Coro Unit → World → Prop where
  | here {c : Cmd} {k : Except Exc c.Ret → Coro Unit} {w : World} :
      A c → ComesTo cfg A (.op c k) w
  | later {c : Cmd} {k : Except Exc c.Ret → Coro Unit} {w w' : World} {r : Except Exc c.Ret} :
      c.isAwait = false → exec c w r w' → ComesTo cfg A (k r) w' → ComesTo cfg A (.op c k) w
  | wait {p : Coro Unit} {w w' : World} :
      Signal cfg (fun _ => True) w w' → ComesTo cfg A p w' → ComesTo cfg A p w

/-- A program at an await comes to nothing before it but that await. -/
theorem not_comesTo_of_atAwait {cfg : Config} {A : Cmd → Prop} {c : Cmd}
    {k : Except Exc c.Ret → Coro Unit} {w : World} (hc : c.isAwait = true) (hA : ¬ A c) :
    ¬ ComesTo cfg A (.op c k) w := by
  suffices h : ∀ p w, ComesTo cfg A p w → p = .op c k → False from fun hp => h _ _ hp rfl
  intro p w hp he
  induction hp with
  | here hA' =>
      cases he
      exact hA hA'
  | later hc' _ _ _ =>
      cases he
      exact absurd (hc.symm.trans hc') Bool.false_ne_true.symm
  | wait _ _ ih => exact ih he

/-- A limit on what the log holds: an operation that uses something up keeps it if something is
left, and every other operation keeps it. -/
structure Ration (ι : Type) where
  uses : ι → Cmd → Prop
  left : ι → World → Prop
  Budget : World → Prop
  budget_congr : ∀ {w w' : World}, w'.log = w.log → Budget w → Budget w'
  left_congr : ∀ {w w' : World} {i : ι}, w'.log = w.log → left i w → left i w'
  budget_exec : ∀ {c : Cmd} {w w' : World} {r : Except Exc c.Ret}, exec c w r w' → Budget w →
    (∀ i, uses i c → left i w) → Budget w'
  /-- What is not awaited uses up nothing. -/
  left_exec : ∀ {c : Cmd} {w w' : World} {r : Except Exc c.Ret} {i : ι}, c.isAwait = false →
    exec c w r w' → left i w → left i w'

namespace Ration

variable {ι : Type} (R : Ration ι)

/-- A cancelled program on its way to the await that ends it, with something left for whatever it
may use up there. -/
structure Unwinding (cfg : Config) (p : Coro Unit) (w : World) : Prop where
  cancelled : w.cancelled = true
  running : w.running = false
  budget : R.Budget w
  pending : ∀ i, ComesTo cfg (R.uses i) p w → R.left i w

variable {R}

theorem Unwinding.op {cfg : Config} {c : Cmd} {k : Except Exc c.Ret → Coro Unit} {w w' : World}
    {r : Except Exc c.Ret} (h : R.Unwinding cfg (.op c k) w) (hc : c.isAwait = false)
    (hexec : exec c w r w') : R.Unwinding cfg (k r) w' := by
  have hf := exec_frame hexec
  refine ⟨hf.cancelled.trans h.cancelled, hf.running.trans h.running, ?_, fun i hi => ?_⟩
  · exact R.budget_exec hexec h.budget fun i hi => h.pending i (.here hi)
  · exact R.left_exec hc hexec (h.pending i (.later hc hexec hi))

/-- The last operation of the program. -/
theorem Unwinding.cut {cfg : Config} {c : Cmd} {k : Except Exc c.Ret → Coro Unit} {w w' : World}
    (h : R.Unwinding cfg (.op c k) w) (hcut : w' = w ∨ ∃ r, exec c w r w') : R.Budget w' := by
  rcases hcut with rfl | ⟨r, hexec⟩
  · exact h.budget
  · exact R.budget_exec hexec h.budget fun i hi => h.pending i (.here hi)

theorem Unwinding.signal {cfg : Config} {ok : World → Prop} {p : Coro Unit} {w w' : World}
    (h : R.Unwinding cfg p w) (hs : Signal cfg ok w w') : R.Unwinding cfg p w' := by
  have hany : Signal cfg (fun _ => True) w w' := hs.imp_right fun hw => ⟨fun _ => trivial, hw.2⟩
  have hlog := hs.signalled.log
  refine ⟨hs.signalled.cancelled h.cancelled, ?_, R.budget_congr hlog h.budget, fun i hi => ?_⟩
  -- time passing, or the handler once more, which stops what runs
  · rcases hs with ⟨t, -, rfl⟩ | ⟨-, rfl⟩
    · exact h.running
    · unfold _handle_shutdown
      split
      · split
        · exact h.running
        · rfl
      · rfl
  · exact R.left_congr hlog (h.pending i (.wait hany hi))

/-- An abandoning signal, once the decision loop runs. -/
theorem unwinding_of_abandons {cfg : Config} {p : Coro Unit} {w : World} (hbudget : R.Budget w)
    (ht : w.tasks = true) (ha : Abandons cfg w)
    (hp : ∀ i, ComesTo cfg (R.uses i) p (_handle_shutdown cfg w) → R.left i w) :
    R.Unwinding cfg p (_handle_shutdown cfg w) := by
  rw [_handle_shutdown_of_abandons ha] at hp ⊢
  have hlog : (w.completed false "").initiate_shutdown.log = w.log := rfl
  refine ⟨?_, rfl, R.budget_congr hlog hbudget, fun i hi => R.left_congr hlog (hp i hi)⟩
  simp [World.initiate_shutdown, World.completed, ht]

end Ration

/-! ## The whole run -/

section

variable {ι : Type} {R : Ration ι} {Inv : Prop → World → Prop}
  {hinv : ∀ counted w w', Signalled (fun w => counted → w.tasks = false) w w' →
    Inv counted w → Inv counted w'}

/-- The contract, counted or not. -/
def rationContract (cfg : Setup) (reg : Regime) (Inv : Prop → World → Prop)
    (hinv : ∀ counted w w', Signalled (fun w => counted → w.tasks = false) w w' →
      Inv counted w → Inv counted w') (counted : Prop) : Contract (machine cfg reg) :=
  signalContract cfg reg (fun w => counted → w.tasks = false) (Inv counted) (hinv counted)

/-- What every state of a rationed run satisfies: the rows are right, and either the limit is
kept by the contract or the program is about to end. -/
def Rationed (R : Ration ι) (G : Prop → Contract (machine cfg reg))
    (s : World × Proc Cmd Cmd.Ret Exc) : Prop :=
  (G False).Keeps s ∧ ((G True).Keeps s ∨ ∃ p, s.2 = .running p ∧ R.Unwinding cfg.toConfig p s.1)

/-- With no program left to run, the rows and the limit are enough. -/
theorem keeps_of_budget {s : World × Proc Cmd Cmd.Ret Exc}
    (hjoin : ∀ w, Inv False w → R.Budget w → Inv True w)
    (hrows : (rationContract cfg reg Inv hinv False).Keeps s) (hbudget : R.Budget s.1)
    (hnone : ∀ p, s.2 ≠ .running p) : (rationContract cfg reg Inv hinv True).Keeps s :=
  ⟨hjoin s.1 hrows.1 hbudget, fun p hp => absurd hp (hnone p)⟩

/-- Every signal is one of the contract that does not count. -/
theorem keeps_uncounted_step {s s' : World × Proc Cmd Cmd.Ret Exc}
    (O : Outline (rationContract cfg reg Inv hinv False))
    (hs : (rationContract cfg reg Inv hinv False).Keeps s) (hstep : (machine cfg reg).Step s s') :
    (rationContract cfg reg Inv hinv False).Keeps s' := by
  rcases hs.step hstep O.inv_restart O.boot_triple O.tick_triple with h | ⟨-, -, h, hout⟩
  · exact h
  · exact absurd (h.imp_right fun hw => ⟨fun _ => False.elim, hw.2⟩) hout

/-- A signal that the counting contract leaves out abandons a spawn. -/
theorem rationed_of_abandons {s s' : World × Proc Cmd Cmd.Ret Exc}
    (hjoin : ∀ w, Inv False w → R.Budget w → Inv True w)
    (hreg : ∀ q w, reg.abandons (.running q) w → ∀ i,
      ComesTo cfg.toConfig (R.uses i) q (_handle_shutdown cfg.toConfig w) → R.left i w)
    (hrows : (rationContract cfg reg Inv hinv False).Keeps s')
    (hbudget : R.Budget s.1) (hproc : s'.2 = s.2)
    (h : Signal cfg.toConfig (reg.abandons s.2) s.1 s'.1)
    (hout : ¬ Signal cfg.toConfig (fun w => True → w.tasks = false) s.1 s'.1) :
    Rationed R (rationContract cfg reg Inv hinv) s' := by
  have hbudget' : R.Budget s'.1 := R.budget_congr h.signalled.log hbudget
  rcases h with htime | ⟨hok, hw⟩
  · exact absurd (.inl htime) hout
  -- left out by one contract and allowed by the other: it abandons, with the loop running
  have hmiss : Abandons cfg.toConfig s.1 ∧ s.1.tasks = true := by
    by_contra hn
    refine hout (.inr ⟨fun ha _ => ?_, hw⟩)
    exact Bool.eq_false_iff.mpr fun ht => hn ⟨ha, ht⟩
  refine ⟨hrows, ?_⟩
  cases hp : s.2 with
  | down =>
      refine .inl (keeps_of_budget hjoin hrows hbudget' fun q hq => ?_)
      cases hp.symm.trans (hproc.symm.trans hq)
  | stopped =>
      refine .inl (keeps_of_budget hjoin hrows hbudget' fun q hq => ?_)
      cases hp.symm.trans (hproc.symm.trans hq)
  | running q =>
      refine .inr ⟨q, hproc.trans hp, ?_⟩
      rw [hp] at hok
      rw [hw]
      exact Ration.unwinding_of_abandons hbudget hmiss.2 hmiss.1 (hreg q s.1 (hok hmiss.1))

/-- One step of a rationed run. -/
theorem Rationed.step {s s' : World × Proc Cmd Cmd.Ret Exc}
    (O : ∀ counted, Outline (rationContract cfg reg Inv hinv counted))
    (hbudget : ∀ w, Inv True w → R.Budget w)
    (hjoin : ∀ w, Inv False w → R.Budget w → Inv True w)
    (hreg : ∀ q w, reg.abandons (.running q) w → ∀ i,
      ComesTo cfg.toConfig (R.uses i) q (_handle_shutdown cfg.toConfig w) → R.left i w)
    (hs : Rationed R (rationContract cfg reg Inv hinv) s) (hstep : (machine cfg reg).Step s s') :
    Rationed R (rationContract cfg reg Inv hinv) s' := by
  have hrows := keeps_uncounted_step (O False) hs.1 hstep
  rcases hs.2 with hkeeps | ⟨p, hp, hunwinding⟩
  · rcases hkeeps.step hstep (O True).inv_restart (O True).boot_triple (O True).tick_triple with
      h | ⟨-, hproc, h, hout⟩
    · exact ⟨hrows, .inl h⟩
    · exact rationed_of_abandons hjoin hreg hrows (hbudget s.1 hkeeps.1) hproc h hout
  -- the cancelled program: its next await is its last operation
  cases hstep with
  | restart h => exact nomatch hp
  | signal hup h => exact ⟨hrows, .inr ⟨p, hp, hunwinding.signal h⟩⟩
  | @op w w' c r k hgo h =>
      cases hp
      have hc : c.isAwait = false := Bool.eq_false_iff.mpr fun hc => hgo ⟨hc, hunwinding.cancelled⟩
      exact ⟨hrows, .inr ⟨_, rfl, hunwinding.op hc h.1⟩⟩
  | cut _ h =>
      cases hp
      have hlast := hunwinding.cut (h.imp_right fun ⟨r, hr⟩ => ⟨r, hr.1⟩)
      exact ⟨hrows, .inl (keeps_of_budget hjoin hrows hlast fun q hq => nomatch hq)⟩
  | tick h => exact absurd (hunwinding.running.symm.trans h.1) Bool.false_ne_true
  | crash =>
      exact ⟨hrows, .inl (keeps_of_budget hjoin hrows hunwinding.budget fun q hq => nomatch hq)⟩

/-- **The limit is kept in every state of every run** in which no signal abandons a spawn whose
coroutine can still use up, before its next await, something of which nothing is left. -/
theorem budget_of_reachable {w₀ : World} {s : World × Proc Cmd Cmd.Ret Exc}
    (O : ∀ counted, Outline (rationContract cfg reg Inv hinv counted))
    (hbudget : ∀ w, Inv True w → R.Budget w)
    (hjoin : ∀ w, Inv False w → R.Budget w → Inv True w)
    (hreg : ∀ q w, reg.abandons (.running q) w → ∀ i,
      ComesTo cfg.toConfig (R.uses i) q (_handle_shutdown cfg.toConfig w) → R.left i w)
    (hinit : ∀ counted, Inv counted w₀) (hs : (machine cfg reg).Reachable w₀ s) : R.Budget s.1 := by
  suffices h : Rationed R (rationContract cfg reg Inv hinv) s by
    rcases h.2 with hkeeps | ⟨p, -, hunwinding⟩
    · exact hbudget s.1 hkeeps.1
    · exact hunwinding.budget
  induction hs with
  | refl =>
      exact ⟨⟨hinit False, fun p hp => nomatch hp⟩, .inl ⟨hinit True, fun p hp => nomatch hp⟩⟩
  | tail _ hstep ih => exact ih.step O hbudget hjoin hreg hstep

end

/-! ## Concrete runs -/

/-- A program that does not come to an await performs its operations, cancelled or not. -/
theorem reachable_sync {w₀ : World} {answer : (c : Cmd) → World → Except Exc c.Ret × World}
    (hexec : ∀ c w, exec c w (answer c w).1 (answer c w).2)
    (hreg : ∀ c w, c.isAwait = false → reg.answers c w (answer c w).1) (n : ℕ)
    {s : World × Coro Unit} (hs : (machine cfg reg).Reachable w₀ (s.1, .running s.2))
    (hsync : ∀ m < n, atAwait (Machine.play answer m s).2 = false) :
    (machine cfg reg).Reachable w₀
      ((Machine.play answer n s).1, .running (Machine.play answer n s).2) := by
  induction n generalizing s with
  | zero => exact hs
  | succ n ih =>
      obtain ⟨w, p⟩ := s
      cases p with
      | ret a => exact hs
      | raise e => exact hs
      | op c k =>
          have hc : c.isAwait = false := hsync 0 (Nat.succ_pos n)
          refine ih (s := ((answer c w).2, k (answer c w).1)) ?_
            fun m hm => hsync (m + 1) (Nat.succ_lt_succ hm)
          exact hs.tail (.op (fun hint => Bool.false_ne_true (hc.symm.trans hint.1))
            ⟨hexec c w, hreg c w hc⟩)

end Superorganism.Spawn
