/-
Interactive programs and the crash-prone processes that run them.

A program is a tree: it returns, raises, or performs an operation and goes on with
the answer. A machine gives the operations a meaning on a world that outlives the
process, and says what else can happen to that world while the process is up
(signals) and when the process comes back (restarts). An operation can be
*interrupted*: it may then still take effect, but the program does not survive it.
A crash can strike between any two operations.

`Contract.wp` is the weakest precondition of a program under interference: between
two operations the world may change as the contract's `env` allows, and the
contract's invariant holds at every such point. The rules for it are the usual ones
(return, bind, handlers, one operation), plus a frame rule for the parts of a
program that only use operations of a known kind. `Contract.inv_of_reachable` turns
two such triples, one for what runs at a restart and one for what runs in each round
of the main loop, into an invariant of every reachable state. `Contract.watch` does the
same for what holds where an operation is performed.
-/
import Mathlib.Data.Nat.Notation
import Mathlib.Logic.Relation

set_option autoImplicit false

open Relation

namespace Superorganism.Process

/-! ## Programs -/

/-- A program over the operations `C`, where `c : C` answers with a value of `R c` or
raises an `ε`. -/
inductive Prog (C : Type) (R : C → Type) (ε α : Type) : Type where
  | ret (a : α)
  | raise (e : ε)
  | op (c : C) (k : Except ε (R c) → Prog C R ε α)

namespace Prog

variable {C : Type} {R : C → Type} {ε α β : Type}

def bind : Prog C R ε α → (α → Prog C R ε β) → Prog C R ε β
  | ret a, f => f a
  | raise e, _ => raise e
  | op c k, f => op c fun r => (k r).bind f

instance : Monad (Prog C R ε) where
  pure := ret
  bind := bind

/-- One operation: its answer is returned, its exception raised. -/
def call (c : C) : Prog C R ε (R c) :=
  op c fun
    | .ok a => ret a
    | .error e => raise e

/-- `try: p` with the handler `h`. -/
def tryCatch : Prog C R ε α → (ε → Prog C R ε α) → Prog C R ε α
  | ret a, _ => ret a
  | raise e, h => h e
  | op c k, h => op c fun r => (k r).tryCatch h

/-- Every operation the program can come to is of the kind `S`. -/
def Within (S : C → Prop) : Prog C R ε α → Prop
  | ret _ => True
  | raise _ => True
  | op c k => S c ∧ ∀ r, (k r).Within S

variable {S S' : C → Prop}

theorem Within.call {c : C} (hc : S c) : Within S (call c : Prog C R ε (R c)) := by
  refine ⟨hc, fun r => ?_⟩
  cases r with
  | ok a => exact trivial
  | error e => exact trivial

theorem Within.ite {P : Prop} [Decidable P] {p q : Prog C R ε α} (hp : P → p.Within S)
    (hq : ¬ P → q.Within S) : (if P then p else q).Within S := by
  by_cases h : P
  · rw [if_pos h]
    exact hp h
  · rw [if_neg h]
    exact hq h

theorem Within.bind {p : Prog C R ε α} {f : α → Prog C R ε β} (hp : p.Within S)
    (hf : ∀ a, (f a).Within S) : (p >>= f).Within S := by
  induction p with
  | ret a => exact hf a
  | raise e => exact trivial
  | op c k ih => exact ⟨hp.1, fun r => ih r (hp.2 r)⟩

theorem Within.tryCatch {p : Prog C R ε α} {h : ε → Prog C R ε α} (hp : p.Within S)
    (hh : ∀ e, (h e).Within S) : (p.tryCatch h).Within S := by
  induction p with
  | ret a => exact trivial
  | raise e => exact hh e
  | op c k ih => exact ⟨hp.1, fun r => ih r (hp.2 r)⟩

theorem Within.mono {p : Prog C R ε α} (hp : p.Within S) (hS : ∀ c, S c → S' c) :
    p.Within S' := by
  induction p with
  | ret a => exact trivial
  | raise e => exact trivial
  | op c k ih => exact ⟨hS c hp.1, fun r => ih r (hp.2 r)⟩

/-- Whatever the program returns satisfies `φ`. -/
def Returns (φ : α → Prop) : Prog C R ε α → Prop
  | ret a => φ a
  | raise _ => True
  | op _ k => ∀ r, (k r).Returns φ

theorem Returns.bind {ψ : α → Prop} {φ : β → Prop} {p : Prog C R ε α} {f : α → Prog C R ε β}
    (hp : p.Returns ψ) (hf : ∀ a, ψ a → (f a).Returns φ) : (p >>= f).Returns φ := by
  induction p with
  | ret a => exact hf a hp
  | raise e => exact trivial
  | op c k ih => exact fun r => ih r (hp r)

theorem returns_true (p : Prog C R ε α) : p.Returns fun _ => True := by
  induction p with
  | ret a => exact trivial
  | raise e => exact trivial
  | op c k ih => exact fun r => ih r

/-- What is returned depends on the last part only. -/
theorem Returns.last {φ : β → Prop} {p : Prog C R ε α} {f : α → Prog C R ε β}
    (hf : ∀ a, (f a).Returns φ) : (p >>= f).Returns φ :=
  (returns_true p).bind fun a _ => hf a

/-- Along every path on which each operation `c` answers as `ans c` allows: the operations
are of the kind `S`, what is returned satisfies `φ`, and what is raised `ψ`. -/
def Along (ans : (c : C) → Except ε (R c) → Prop) (S : C → Prop) (φ : α → Prop) (ψ : ε → Prop) :
    Prog C R ε α → Prop
  | ret a => φ a
  | raise e => ψ e
  | op c k => S c ∧ ∀ r, ans c r → (k r).Along ans S φ ψ

theorem Along.bind {ans : (c : C) → Except ε (R c) → Prop} {S : C → Prop} {φ : β → Prop}
    {ψ : ε → Prop} {p : Prog C R ε α} {f : α → Prog C R ε β}
    (h : p.Along ans S (fun a => (f a).Along ans S φ ψ) ψ) : (p >>= f).Along ans S φ ψ := by
  induction p with
  | ret a => exact h
  | raise e => exact h
  | op c k ih => exact ⟨h.1, fun r hr => ih r (h.2 r hr)⟩

theorem Along.call {ans : (c : C) → Except ε (R c) → Prop} {S : C → Prop} {c : C}
    {φ : R c → Prop} {ψ : ε → Prop} (hc : S c) (hok : ∀ a, ans c (.ok a) → φ a)
    (herror : ∀ e, ans c (.error e) → ψ e) : (call c).Along ans S φ ψ := by
  refine ⟨hc, fun r hr => ?_⟩
  cases r with
  | ok a => exact hok a hr
  | error e => exact herror e hr

theorem Along.mono {ans : (c : C) → Except ε (R c) → Prop} {S : C → Prop} {φ φ' : α → Prop}
    {ψ : ε → Prop} {p : Prog C R ε α} (h : p.Along ans S φ ψ) (hφ : ∀ a, φ a → φ' a) :
    p.Along ans S φ' ψ := by
  induction p with
  | ret a => exact hφ a h
  | raise e => exact h
  | op c k ih => exact ⟨h.1, fun r hr => ih r (h.2 r hr)⟩

/-- The program has returned. -/
def done : Prog C R ε α → Bool
  | ret _ => true
  | _ => false

theorem eq_ret_of_done {p : Prog C R ε Unit} (h : p.done = true) : p = ret () := by
  cases p with
  | ret a => rfl
  | raise e => exact absurd h Bool.false_ne_true
  | op c k => exact absurd h Bool.false_ne_true

end Prog

/-! ## Machines -/

/-- A process: not running, running without its main task, or running a program. A
program that has returned stands for the main loop between two rounds. -/
inductive Proc (C : Type) (R : C → Type) (ε : Type) : Type where
  | down
  | stopped
  | running (p : Prog C R ε Unit)

/-- What a process does and what can happen to it. -/
structure Machine (C : Type) (R : C → Type) (ε W : Type) where
  /-- What an operation does to the world and which answers it can give. -/
  exec : (c : C) → W → Except ε (R c) → W → Prop
  /-- The program does not survive this operation. -/
  interrupted : C → W → Prop
  /-- What can happen to the world while the process is up. -/
  signal : Proc C R ε → W → W → Prop
  restart : W → W → Prop
  /-- What runs after a restart. -/
  boot : Prog C R ε Unit
  /-- One round of the main loop. -/
  tick : Prog C R ε Unit
  /-- The main loop goes on. -/
  ticking : W → Prop

namespace Machine

variable {C : Type} {R : C → Type} {ε W : Type}

inductive Step (M : Machine C R ε W) : W × Proc C R ε → W × Proc C R ε → Prop where
  | restart {w w' : W} : M.restart w w' → Step M (w, .down) (w', .running M.boot)
  | signal {w w' : W} {p : Proc C R ε} :
      p ≠ .down → M.signal p w w' → Step M (w, p) (w', p)
  | op {w w' : W} {c : C} {r : Except ε (R c)} {k : Except ε (R c) → Prog C R ε Unit} :
      ¬ M.interrupted c w → M.exec c w r w' → Step M (w, .running (.op c k)) (w', .running (k r))
  | cut {w w' : W} {c : C} {k : Except ε (R c) → Prog C R ε Unit} :
      M.interrupted c w → (w' = w ∨ ∃ r, M.exec c w r w') →
      Step M (w, .running (.op c k)) (w', .stopped)
  | tick {w : W} : M.ticking w → Step M (w, .running (.ret ())) (w, .running M.tick)
  | crash {w : W} {p : Proc C R ε} : Step M (w, p) (w, .down)

/-- The states a run from the world `w₀` can come to, with the process not yet started. -/
def Reachable (M : Machine C R ε W) (w₀ : W) (s : W × Proc C R ε) : Prop :=
  ReflTransGen M.Step (w₀, .down) s

/-- Runs a program for at most `n` operations, answered as `answer` says. -/
def play {α : Type} (answer : (c : C) → W → Except ε (R c) × W) :
    ℕ → W × Prog C R ε α → W × Prog C R ε α
  | n + 1, (w, .op c k) => play answer n ((answer c w).2, k (answer c w).1)
  | _, s => s

theorem Reachable.play {M : Machine C R ε W} {w₀ : W} {answer : (c : C) → W → Except ε (R c) × W}
    {I : W → Prop} (h : ∀ c w, I w → M.exec c w (answer c w).1 (answer c w).2 ∧
      ¬ M.interrupted c w ∧ I (answer c w).2) (n : ℕ) {s : W × Prog C R ε Unit}
    (hs : M.Reachable w₀ (s.1, .running s.2)) (hI : I s.1) :
    M.Reachable w₀ ((play answer n s).1, .running (play answer n s).2) := by
  induction n generalizing s with
  | zero => exact hs
  | succ n ih =>
      obtain ⟨w, p⟩ := s
      cases p with
      | ret a => exact hs
      | raise e => exact hs
      | op c k =>
          obtain ⟨hexec, hgo, hI'⟩ := h c w hI
          exact ih (hs.tail (.op hgo hexec)) hI'

/-- The next round, once the program has returned. -/
theorem Reachable.next {M : Machine C R ε W} {w₀ w : W} {p : Prog C R ε Unit}
    (hs : M.Reachable w₀ (w, .running p)) (hp : p.done = true) (hw : M.ticking w) :
    M.Reachable w₀ (w, .running M.tick) := by
  rw [Prog.eq_ret_of_done hp] at hs
  exact hs.tail (.tick hw)

end Machine

/-! ## Contracts and their weakest preconditions -/

/-- An invariant of the world that holds at every point of every run, and how the
world may change between two operations of the process. -/
structure Contract {C : Type} {R : C → Type} {ε W : Type} (M : Machine C R ε W) where
  env : W → W → Prop
  Inv : W → Prop
  inv_env : ∀ w w', env w w' → Inv w → Inv w'

namespace Contract

variable {C : Type} {R : C → Type} {ε W α β : Type} {M : Machine C R ε W} (G : Contract M)

/-- The program keeps the invariant from `w` on, ends in `Q` when it returns and in
`E` when it raises. -/
def wp (p : Prog C R ε α) (Q : α → W → Prop) (E : ε → W → Prop) (w : W) : Prop :=
  match p with
  | .ret a => G.Inv w ∧ Q a w
  | .raise e => G.Inv w ∧ E e w
  | .op c k => G.Inv w ∧ ∀ w₁, ReflTransGen G.env w w₁ → ∀ r w₂, M.exec c w₁ r w₂ →
      G.Inv w₂ ∧ (¬ M.interrupted c w₁ → wp (k r) Q E w₂)

/-- Any outcome will do. -/
abbrev Any (_ : α) (_ : W) : Prop := True

def Triple (P : W → Prop) (p : Prog C R ε α) (Q : α → W → Prop) (E : ε → W → Prop) : Prop :=
  ∀ w, G.Inv w → P w → G.wp p Q E w

/-- The assertion survives what happens between two operations. -/
def Stable (P : W → Prop) : Prop :=
  ∀ w w', G.env w w' → G.Inv w → P w → P w'

variable {G} {P P' : W → Prop} {Q Q' : α → W → Prop} {E E' : ε → W → Prop}

theorem Stable.star {w w' : W} (hP : G.Stable P) (hw : ReflTransGen G.env w w')
    (hi : G.Inv w) (h : P w) : G.Inv w' ∧ P w' := by
  induction hw with
  | refl => exact ⟨hi, h⟩
  | tail _ hstep ih => exact ⟨G.inv_env _ _ hstep ih.1, hP _ _ hstep ih.1 ih.2⟩

theorem stable_true : G.Stable fun _ => True := fun _ _ _ _ _ => trivial

theorem Stable.and (hP : G.Stable P) (hP' : G.Stable P') : G.Stable fun w => P w ∧ P' w :=
  fun w w' hw hi h => ⟨hP w w' hw hi h.1, hP' w w' hw hi h.2⟩

theorem wp_mono {p : Prog C R ε α} {w : W} (h : G.wp p Q E w)
    (hQ : ∀ a w, G.Inv w → Q a w → Q' a w) (hE : ∀ e w, G.Inv w → E e w → E' e w) :
    G.wp p Q' E' w := by
  induction p generalizing w with
  | ret a => exact ⟨h.1, hQ a w h.1 h.2⟩
  | raise e => exact ⟨h.1, hE e w h.1 h.2⟩
  | op c k ih =>
      refine ⟨h.1, fun w₁ hw₁ r w₂ hexec => ?_⟩
      obtain ⟨hi, hk⟩ := h.2 w₁ hw₁ r w₂ hexec
      exact ⟨hi, fun hc => ih r (hk hc)⟩

theorem wp_bind {p : Prog C R ε α} {f : α → Prog C R ε β} {Q : β → W → Prop} {w : W}
    (h : G.wp p (fun a => G.wp (f a) Q E) E w) : G.wp (p >>= f) Q E w := by
  induction p generalizing w with
  | ret a => exact h.2
  | raise e => exact h
  | op c k ih =>
      refine ⟨h.1, fun w₁ hw₁ r w₂ hexec => ?_⟩
      obtain ⟨hi, hk⟩ := h.2 w₁ hw₁ r w₂ hexec
      exact ⟨hi, fun hc => ih r (hk hc)⟩

theorem wp_tryCatch {p : Prog C R ε α} {f : ε → Prog C R ε α} {w : W}
    (h : G.wp p Q (fun e => G.wp (f e) Q E) w) : G.wp (p.tryCatch f) Q E w := by
  induction p generalizing w with
  | ret a => exact h
  | raise e => exact h.2
  | op c k ih =>
      refine ⟨h.1, fun w₁ hw₁ r w₂ hexec => ?_⟩
      obtain ⟨hi, hk⟩ := h.2 w₁ hw₁ r w₂ hexec
      exact ⟨hi, fun hc => ih r (hk hc)⟩

/-- What happens between two operations does not invalidate a precondition. -/
theorem wp_env {p : Prog C R ε α} {w w' : W} (hQ : ∀ a, G.Stable (Q a))
    (hE : ∀ e, G.Stable (E e)) (hw : G.env w w') (h : G.wp p Q E w) : G.wp p Q E w' := by
  cases p with
  | ret a => exact ⟨G.inv_env w w' hw h.1, hQ a w w' hw h.1 h.2⟩
  | raise e => exact ⟨G.inv_env w w' hw h.1, hE e w w' hw h.1 h.2⟩
  | op c k =>
      exact ⟨G.inv_env w w' hw h.1, fun w₁ hw₁ => h.2 w₁ (ReflTransGen.head hw hw₁)⟩

/-! ## Rules for triples -/

theorem triple_pure {a : α} (h : ∀ w, G.Inv w → P w → Q a w) : G.Triple P (pure a) Q E :=
  fun w hi hP => ⟨hi, h w hi hP⟩

theorem triple_raise {e : ε} (h : ∀ w, G.Inv w → P w → E e w) :
    G.Triple P (.raise e : Prog C R ε α) Q E :=
  fun w hi hP => ⟨hi, h w hi hP⟩

theorem Triple.bind {p : Prog C R ε α} {f : α → Prog C R ε β} {Q : β → W → Prop}
    (hp : G.Triple P p Q' E) (hf : ∀ a, G.Triple (Q' a) (f a) Q E) :
    G.Triple P (p >>= f) Q E := by
  intro w hi hP
  exact wp_bind (wp_mono (hp w hi hP) (fun a w' hi' => hf a w' hi') fun _ _ _ h => h)

theorem Triple.tryCatch {p : Prog C R ε α} {f : ε → Prog C R ε α}
    (hp : G.Triple P p Q E') (hf : ∀ e, G.Triple (E' e) (f e) Q E) :
    G.Triple P (p.tryCatch f) Q E := by
  intro w hi hP
  exact wp_tryCatch (wp_mono (hp w hi hP) (fun _ _ _ h => h) fun e w' hi' => hf e w' hi')

theorem Triple.conseq {p : Prog C R ε α} (hp : G.Triple P' p Q' E')
    (hP : ∀ w, G.Inv w → P w → P' w) (hQ : ∀ a w, G.Inv w → Q' a w → Q a w)
    (hE : ∀ e w, G.Inv w → E' e w → E e w) : G.Triple P p Q E :=
  fun w hi h => wp_mono (hp w hi (hP w hi h)) hQ hE

theorem Triple.pre {p : Prog C R ε α} (hp : G.Triple P' p Q E)
    (hP : ∀ w, G.Inv w → P w → P' w) : G.Triple P p Q E :=
  fun w hi h => hp w hi (hP w hi h)

theorem Triple.post {p : Prog C R ε α} (hp : G.Triple P p Q' E)
    (hQ : ∀ a w, G.Inv w → Q' a w → Q a w) : G.Triple P p Q Any :=
  hp.conseq (fun _ _ h => h) hQ fun _ _ _ _ => trivial

theorem Triple.anyway {p : Prog C R ε α} (hp : G.Triple P p Q E) : G.Triple P p Any Any :=
  hp.post fun _ _ _ _ => trivial

/-- A postcondition and what is known of every returned value. -/
theorem Triple.returns {φ : α → Prop} {p : Prog C R ε α} (hp : G.Triple P p Q E)
    (hφ : p.Returns φ) : G.Triple P p (fun a w => φ a ∧ Q a w) E := by
  intro w hi hw
  have h := hp w hi hw
  clear hp hi hw
  induction p generalizing w with
  | ret a => exact ⟨h.1, hφ, h.2⟩
  | raise e => exact h
  | op c k ih =>
      refine ⟨h.1, fun w₁ hw₁ r w₂ hexec => ?_⟩
      obtain ⟨hi, hk⟩ := h.2 w₁ hw₁ r w₂ hexec
      exact ⟨hi, fun hc => ih r (hφ r) w₂ (hk hc)⟩

/-- One operation: the invariant survives whatever it does, and the postcondition is
owed only when the program survives it. -/
theorem triple_call {c : C} {Q : R c → W → Prop} (hP : G.Stable P)
    (h : ∀ w r w', G.Inv w → P w → M.exec c w r w' → G.Inv w' ∧ (¬ M.interrupted c w →
      (∀ a, r = .ok a → Q a w') ∧ ∀ e, r = .error e → E e w')) :
    G.Triple P (.call c) Q E := by
  intro w hi hw
  refine ⟨hi, fun w₁ hw₁ r w₂ hexec => ?_⟩
  obtain ⟨hi₁, hP₁⟩ := hP.star hw₁ hi hw
  obtain ⟨hi₂, hpost⟩ := h w₁ r w₂ hi₁ hP₁ hexec
  refine ⟨hi₂, fun hc => ?_⟩
  cases r with
  | ok a => exact ⟨hi₂, (hpost hc).1 a rfl⟩
  | error e => exact ⟨hi₂, (hpost hc).2 e rfl⟩

/-- The frame rule: an assertion that every operation of the kind `S` keeps is kept by
every program that uses no other. -/
theorem triple_within {S : C → Prop} {p : Prog C R ε α} (hp : p.Within S) (hP : G.Stable P)
    (h : ∀ c, S c → ∀ w r w', G.Inv w → P w → M.exec c w r w' →
      G.Inv w' ∧ (¬ M.interrupted c w → P w')) :
    G.Triple P p (fun _ => P) fun _ => P := by
  intro w hi hw
  induction p generalizing w with
  | ret a => exact ⟨hi, hw⟩
  | raise e => exact ⟨hi, hw⟩
  | op c k ih =>
      refine ⟨hi, fun w₁ hw₁ r w₂ hexec => ?_⟩
      obtain ⟨hi₁, hP₁⟩ := hP.star hw₁ hi hw
      obtain ⟨hi₂, hP₂⟩ := h c hp.1 w₁ r w₂ hi₁ hP₁ hexec
      exact ⟨hi₂, fun hc => ih r (hp.2 r) w₂ hi₂ (hP₂ hc)⟩

/-! ## Invariants of whole runs -/

/-- What holds of a state when its process keeps the contract from there on. -/
def Keeps (G : Contract M) (s : W × Proc C R ε) : Prop :=
  G.Inv s.1 ∧ ∀ p, s.2 = .running p → G.wp p Any Any s.1

/-- One step of the process from a state that keeps the contract: the contract is kept,
or a signal came that the contract does not allow. -/
theorem Keeps.step {s s' : W × Proc C R ε} (hs : G.Keeps s) (hstep : M.Step s s')
    (hrestart : ∀ w w', M.restart w w' → G.Inv w → G.Inv w')
    (hboot : G.Triple (fun _ => True) M.boot Any Any)
    (htick : G.Triple M.ticking M.tick Any Any) :
    G.Keeps s' ∨ s.2 ≠ .down ∧ s'.2 = s.2 ∧ M.signal s.2 s.1 s'.1 ∧ ¬ G.env s.1 s'.1 := by
  obtain ⟨hi, hwp⟩ := hs
  cases hstep with
  | restart h =>
      have hi' := hrestart _ _ h hi
      refine .inl ⟨hi', fun p hp => ?_⟩
      cases hp
      exact hboot _ hi' trivial
  | @signal w w' p hup h =>
      by_cases henv : G.env w w'
      · exact .inl ⟨G.inv_env _ _ henv hi, fun p hp =>
          wp_env (fun _ => stable_true) (fun _ => stable_true) henv (hwp p hp)⟩
      · exact .inr ⟨hup, rfl, h, henv⟩
  | op hc h =>
      obtain ⟨hi', hk⟩ := (hwp _ rfl).2 _ ReflTransGen.refl _ _ h
      refine .inl ⟨hi', fun p hp => ?_⟩
      cases hp
      exact hk hc
  | cut _ h =>
      -- the operation may have taken effect, and its program is gone
      refine .inl ⟨?_, fun p hp => nomatch hp⟩
      rcases h with rfl | ⟨r, h⟩
      · exact hi
      · exact ((hwp _ rfl).2 _ ReflTransGen.refl _ _ h).1
  | tick h =>
      refine .inl ⟨hi, fun p hp => ?_⟩
      cases hp
      exact htick _ hi h
  | crash => exact .inl ⟨hi, fun p hp => nomatch hp⟩

/-- **The invariant of a contract holds in every reachable state**, as soon as it holds
at first, signals stay within the contract's interference, restarts keep it, and what
runs after a restart and in each round keeps the contract. -/
theorem inv_of_reachable {w₀ : W} {s : W × Proc C R ε} (hs : M.Reachable w₀ s)
    (hinit : G.Inv w₀) (hsignal : ∀ p w w', p ≠ .down → M.signal p w w' → G.env w w')
    (hrestart : ∀ w w', M.restart w w' → G.Inv w → G.Inv w')
    (hboot : G.Triple (fun _ => True) M.boot Any Any)
    (htick : G.Triple M.ticking M.tick Any Any) : G.Inv s.1 := by
  suffices h : G.Keeps s from h.1
  induction hs with
  | refl => exact ⟨hinit, fun p hp => nomatch hp⟩
  | tail _ hstep ih =>
      refine (ih.step hstep hrestart hboot htick).resolve_right ?_
      rintro ⟨hup, -, h, henv⟩
      exact henv (hsignal _ _ _ hup h)

end Contract

/-! ## Watching the operations

An invariant speaks of the world between two operations. What is to hold where an
operation is performed is watched: the world gets a record beside it, which a contract
then keeps true. -/

section

variable {C : Type} {R : C → Type} {ε W α : Type} {M : Machine C R ε W}

/-- The machine with a record whether every operation met the condition `A`. -/
def Machine.watch (M : Machine C R ε W) (A : C → W → Prop) : Machine C R ε (W × Prop) where
  exec c s r s' := M.exec c s.1 r s'.1 ∧ s'.2 = (s.2 ∧ A c s.1)
  interrupted c s := M.interrupted c s.1
  signal p s s' := M.signal p s.1 s'.1 ∧ s'.2 = s.2
  restart s s' := M.restart s.1 s'.1 ∧ s'.2 = s.2
  boot := M.boot
  tick := M.tick
  ticking s := M.ticking s.1

/-- The points of one round of the main loop that starts in the world `w`. -/
inductive Machine.During (M : Machine C R ε W) (w : W) : W × Prog C R ε Unit → Prop where
  | start : During M w (w, M.tick)
  | signal {w₁ w₂ : W} {p : Prog C R ε Unit} :
      During M w (w₁, p) → M.signal (.running p) w₁ w₂ → During M w (w₂, p)
  | op {w₁ w₂ : W} {c : C} {r : Except ε (R c)} {k : Except ε (R c) → Prog C R ε Unit} :
      During M w (w₁, .op c k) → ¬ M.interrupted c w₁ → M.exec c w₁ r w₂ →
      During M w (w₂, k r)

theorem Machine.During.play {w : W} {answer : (c : C) → W → Except ε (R c) × W} {I : W → Prop}
    (h : ∀ c w, I w → M.exec c w (answer c w).1 (answer c w).2 ∧
      ¬ M.interrupted c w ∧ I (answer c w).2) (n : ℕ) {s : W × Prog C R ε Unit}
    (hs : M.During w s) (hI : I s.1) : M.During w (Machine.play answer n s) := by
  induction n generalizing s with
  | zero => exact hs
  | succ n ih =>
      obtain ⟨w₁, p⟩ := s
      cases p with
      | ret a => exact hs
      | raise e => exact hs
      | op c k =>
          obtain ⟨hexec, hgo, hI'⟩ := h c w₁ hI
          exact ih (hs.op hgo hexec) hI'

namespace Contract

variable {G : Contract M} {A : C → W → Prop} {P : W → Prop} {Q : α → W → Prop}
  {E : ε → W → Prop}

variable (G A) in
/-- The contract with a record that stays true. -/
def watch : Contract (M.watch A) where
  env s s' := G.env s.1 s'.1 ∧ s'.2 = s.2
  Inv s := G.Inv s.1 ∧ s.2
  inv_env s s' henv h := ⟨G.inv_env s.1 s'.1 henv.1 h.1, henv.2 ▸ h.2⟩

theorem Stable.watch (hP : G.Stable P) : (G.watch A).Stable fun s => P s.1 :=
  fun s s' henv hi h => hP s.1 s'.1 henv.1 hi.1 h

/-- One operation that meets the condition. -/
theorem triple_watch_call {c : C} {Q : R c → W → Prop} (hP : G.Stable P)
    (hA : ∀ w, G.Inv w → P w → A c w)
    (h : ∀ w r w', G.Inv w → P w → M.exec c w r w' → G.Inv w' ∧ (¬ M.interrupted c w →
      (∀ a, r = .ok a → Q a w') ∧ ∀ e, r = .error e → E e w')) :
    (G.watch A).Triple (fun s => P s.1) (.call c) (fun a s => Q a s.1) fun e s => E e s.1 := by
  refine triple_call hP.watch fun s r s' hi hs hexec => ?_
  obtain ⟨hi', hpost⟩ := h s.1 r s'.1 hi.1 hs hexec.1
  refine ⟨⟨hi', ?_⟩, hpost⟩
  rw [hexec.2]
  exact ⟨hi.2, hA s.1 hi.1 hs⟩

/-- Operations of a kind that keeps the assertion and meets the condition. -/
theorem triple_watch_within {S : C → Prop} {p : Prog C R ε α} (hp : p.Within S)
    (hP : G.Stable P) (hA : ∀ c, S c → ∀ w, G.Inv w → P w → A c w)
    (h : ∀ c, S c → ∀ w r w', G.Inv w → P w → M.exec c w r w' →
      G.Inv w' ∧ (¬ M.interrupted c w → P w')) :
    (G.watch A).Triple (fun s => P s.1) p (fun _ s => P s.1) fun _ s => P s.1 := by
  refine triple_within hp hP.watch fun c hc s r s' hi hs hexec => ?_
  obtain ⟨hi', hpost⟩ := h c hc s.1 r s'.1 hi.1 hs hexec.1
  refine ⟨⟨hi', ?_⟩, hpost⟩
  rw [hexec.2]
  exact ⟨hi.2, hA c hc s.1 hi.1 hs⟩

/-- A contract kept with the record is kept without it. -/
theorem wp_of_watch {p : Prog C R ε α} {w : W}
    (h : (G.watch A).wp p (fun a s => Q a s.1) (fun e s => E e s.1) (w, True)) :
    G.wp p Q E w := by
  induction p generalizing w with
  | ret a => exact ⟨h.1.1, h.2⟩
  | raise e => exact ⟨h.1.1, h.2⟩
  | op c k ih =>
      refine ⟨h.1.1, fun w₁ hw₁ r w₂ hexec => ?_⟩
      have hlift : ReflTransGen (G.watch A).env (w, True) (w₁, True) :=
        hw₁.lift (fun w => (w, True)) fun _ _ henv => ⟨henv, rfl⟩
      obtain ⟨hi, hk⟩ := h.2 _ hlift r (w₂, True ∧ A c w₁) ⟨hexec, rfl⟩
      refine ⟨hi.1, fun hc => ih r ?_⟩
      have hrecord : (True ∧ A c w₁) = True := eq_true hi.2
      have hrest := hk hc
      rw [hrecord] at hrest
      exact hrest

theorem Triple.of_watch {p : Prog C R ε α}
    (h : (G.watch A).Triple (fun s => P s.1) p (fun a s => Q a s.1) fun e s => E e s.1) :
    G.Triple P p Q E :=
  fun w hi hw => wp_of_watch (h (w, True) ⟨hi, trivial⟩ hw)

/-- **Where an operation is performed in a round, it meets the condition**, if every
operation can be performed. -/
theorem watched_of_during {w : W} {s : W × Prog C R ε Unit} (hd : M.During w s)
    (hi : G.Inv w) (hticking : M.ticking w)
    (hsignal : ∀ p w w', M.signal (.running p) w w' → G.env w w')
    (htick : (G.watch A).Triple (fun s => M.ticking s.1) M.tick Any Any) :
    (G.watch A).wp s.2 Any Any (s.1, True) := by
  induction hd with
  | start => exact htick (w, True) ⟨hi, trivial⟩ hticking
  | @signal w₁ w₂ p _ h ih =>
      have henv : (G.watch A).env (w₁, True) (w₂, True) := ⟨hsignal p w₁ w₂ h, rfl⟩
      exact wp_env (fun _ => stable_true) (fun _ => stable_true) henv ih
  | @op w₁ w₂ c r k _ hc h ih =>
      obtain ⟨hi₂, hk⟩ := ih.2 _ ReflTransGen.refl r (w₂, True ∧ A c w₁) ⟨h, rfl⟩
      have hrecord : (True ∧ A c w₁) = True := eq_true hi₂.2
      have hrest := hk hc
      rw [hrecord] at hrest
      exact hrest

theorem condition_of_watched {w : W} {c : C} {k : Except ε (R c) → Prog C R ε Unit}
    (h : (G.watch A).wp (.op c k) Any Any (w, True)) (hexec : ∃ r w', M.exec c w r w') :
    A c w := by
  obtain ⟨r, w', hexec⟩ := hexec
  exact (h.2 _ ReflTransGen.refl r (w', True ∧ A c w) ⟨hexec, rfl⟩).1.2.2

end Contract

end

end Superorganism.Process
