/-
Nodes over a network that may lose, delay, reorder and repeat packets.

A node acts of itself or answers a packet, and either way goes to a new state and sends
packets of its own (`Protocol`). What has been sent once stays: it can be delivered at any
later time, any number of times, or never. So a run is a list of events, and an order of
delivery is nothing but the order of the list.

`Kept` is what has to be shown of a protocol: a node in a good state that acts, or that
answers a good packet, stays in a good state and sends good packets, as long as each step
meets a condition. `Sound.run` is what follows for whole runs.
-/
import Mathlib.Logic.Function.Basic
import Superorganism.Runs

set_option autoImplicit false

open Superorganism.Runs

namespace Superorganism.Network

/-! ## Protocols -/

structure Packet (N M : Type) where
  src : N
  dst : N
  body : M
deriving DecidableEq, Repr

/-- What a node does: of itself, an `A`, and with a packet, in the circumstances `E`. -/
structure Protocol (N S M A E : Type) where
  act : N → A → S → S × List (Packet N M)
  receive : Packet N M → E → S → S × List (Packet N M)

inductive Event (N M A E : Type) where
  | act (n : N) (a : A)
  | deliver (p : Packet N M) (e : E)

/-- The nodes, and every packet sent so far. -/
structure Net (N S M : Type) where
  node : N → S
  sent : List (Packet N M)

variable {N S M A E : Type} [DecidableEq N]

/-- A node goes to a new state and sends packets. -/
def Net.put (s : Net N S M) (n : N) (result : S × List (Packet N M)) : Net N S M where
  node := Function.update s.node n result.1
  sent := s.sent ++ result.2

namespace Protocol

variable (P : Protocol N S M A E)

def apply (s : Net N S M) : Event N M A E → Net N S M
  | .act n a => s.put n (P.act n a (s.node n))
  | .deliver p e => s.put p.dst (P.receive p e (s.node p.dst))

def run (s : Net N S M) (events : List (Event N M A E)) : Net N S M := events.foldl P.apply s

theorem run_concat (s : Net N S M) (events : List (Event N M A E)) (e : Event N M A E) :
    P.run s (events ++ [e]) = P.apply (P.run s events) e := by
  rw [run, List.foldl_append]
  rfl

end Protocol

/-! ## Invariants of nodes and packets -/

/-- Only what has been sent is delivered. -/
def Possible (s : Net N S M) : Event N M A E → Prop
  | .act _ _ => True
  | .deliver p _ => p ∈ s.sent

instance decidablePossible [DecidableEq M] (s : Net N S M) :
    (e : Event N M A E) → Decidable (Possible s e)
  | .act _ _ => .isTrue trivial
  | .deliver p _ => inferInstanceAs (Decidable (p ∈ s.sent))

/-- Every node is in a good state and every packet sent is good. -/
structure Sound (I : N → S → Prop) (G : Packet N M → Prop) (s : Net N S M) : Prop where
  node : ∀ n, I n (s.node n)
  sent : ∀ p ∈ s.sent, G p

/-- Good nodes and good packets lead to such, where the condition is met. -/
structure Kept (P : Protocol N S M A E) (C : Net N S M → Event N M A E → Prop)
    (I : N → S → Prop) (G : Packet N M → Prop) : Prop where
  possible : ∀ s e, C s e → Possible s e
  act : ∀ s n a, C s (.act n a) → I n (s.node n) →
    I n (P.act n a (s.node n)).1 ∧ ∀ q ∈ (P.act n a (s.node n)).2, G q
  receive : ∀ s p e, C s (.deliver p e) → G p → I p.dst (s.node p.dst) →
    I p.dst (P.receive p e (s.node p.dst)).1 ∧ ∀ q ∈ (P.receive p e (s.node p.dst)).2, G q

variable {P : Protocol N S M A E} {C : Net N S M → Event N M A E → Prop} {I : N → S → Prop}
  {G : Packet N M → Prop}

theorem Sound.put {s : Net N S M} (hs : Sound I G s) {n : N} {result : S × List (Packet N M)}
    (hnode : I n result.1) (hsent : ∀ q ∈ result.2, G q) : Sound I G (s.put n result) := by
  refine ⟨fun m => ?_, fun q hq => ?_⟩
  · show I m (Function.update s.node n result.1 m)
    by_cases hm : m = n
    · subst hm
      rw [Function.update_self]
      exact hnode
    · rw [Function.update_of_ne hm]
      exact hs.node m
  · rcases List.mem_append.mp hq with hold | hnew
    · exact hs.sent q hold
    · exact hsent q hnew

/-- One event. -/
theorem Sound.apply {s : Net N S M} (hs : Sound I G s) (hkept : Kept P C I G)
    {e : Event N M A E} (hC : C s e) : Sound I G (P.apply s e) := by
  cases e with
  | act n a =>
      obtain ⟨hnode, hsent⟩ := hkept.act s n a hC (hs.node n)
      exact hs.put hnode hsent
  | deliver p e =>
      have hp : G p := hs.sent p (hkept.possible s (.deliver p e) hC)
      obtain ⟨hnode, hsent⟩ := hkept.receive s p e hC hp (hs.node p.dst)
      exact hs.put hnode hsent

/-- **Good nodes and good packets stay good along a run whose steps meet the condition.** -/
theorem Sound.run {s : Net N S M} (hs : Sound I G s) (hkept : Kept P C I G)
    {events : List (Event N M A E)} (hC : Along P.apply C s events) :
    Sound I G (P.run s events) := by
  induction events generalizing s with
  | nil => exact hs
  | cons e events ih => exact ih (hs.apply hkept hC.1) hC.2

/-- The same where what is kept is said of the whole network: a step may rest on what was sent
before. -/
theorem Sound.run_of_step {s : Net N S M} (hs : Sound I G s)
    (hstep : ∀ s e, C s e → Sound I G s → Sound I G (P.apply s e)) {events : List (Event N M A E)}
    (hC : Along P.apply C s events) : Sound I G (P.run s events) := by
  induction events generalizing s with
  | nil => exact hs
  | cons e events ih => exact ih (hstep s e hC.1 hs) hC.2

end Superorganism.Network
