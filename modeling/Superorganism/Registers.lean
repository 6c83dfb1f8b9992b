/-
Registers that keep the message of greatest stamp. Nothing here is about one program.

Every message is for one register of a bank and carries a stamp. A register takes a message
in if its stamp is above every stamp the register has taken in before, and holds it until
another one is taken in or it is dropped. Dropping a message leaves the greatest stamp as
it is.

So what a bank holds after deliveries alone is, for each register, a message of greatest
stamp among those that were for it, in whatever order they came and however often
(`held_spec`). And whatever is dropped, a register remembers the greatest stamp it has seen
(`stamp_le_seen`), so what has been dropped does not come back (`held_of_old`).
-/
import Mathlib.Data.List.Induction
import Mathlib.Order.Lattice
import Mathlib.Logic.Function.Basic

set_option autoImplicit false

namespace Superorganism.Registers

variable {M K σ : Type}

/-- Which register a message is for, and its stamp. -/
structure Addressing (M K σ : Type) where
  key : M → K
  stamp : M → σ

/-- The greatest stamp each register has taken in, and the message it holds. -/
structure Bank (M K σ : Type) where
  seen : K → σ
  held : K → Option M

namespace Bank

/-- Nothing held, and no stamp above `bottom` taken in. -/
def fresh (bottom : σ) : Bank M K σ := ⟨fun _ => bottom, fun _ => none⟩

variable [LinearOrder σ] [DecidableEq K] (A : Addressing M K σ)

def deliver (s : Bank M K σ) (m : M) : Bank M K σ :=
  if A.stamp m ≤ s.seen (A.key m) then s
  else
    { seen := Function.update s.seen (A.key m) (A.stamp m)
      held := Function.update s.held (A.key m) (some m) }

/-- Some of the messages held are dropped. -/
def drop (s : Bank M K σ) (kept : M → Bool) : Bank M K σ :=
  { s with held := fun k => (s.held k).filter kept }

inductive Event (M : Type) where
  | deliver (m : M)
  | drop (kept : M → Bool)

def apply (s : Bank M K σ) : Event M → Bank M K σ
  | .deliver m => s.deliver A m
  | .drop kept => s.drop kept

def run (s : Bank M K σ) (events : List (Event M)) : Bank M K σ := events.foldl (apply A) s

variable {A} {s : Bank M K σ} {m : M}

/-! ## One event -/

theorem deliver_of_le (h : A.stamp m ≤ s.seen (A.key m)) : s.deliver A m = s := if_pos h

theorem seen_deliver (k : K) :
    (s.deliver A m).seen k = if k = A.key m then max (s.seen k) (A.stamp m) else s.seen k := by
  unfold deliver
  by_cases hk : k = A.key m
  · subst hk
    rw [if_pos rfl]
    by_cases h : A.stamp m ≤ s.seen (A.key m)
    · rw [if_pos h, max_eq_left h]
    · rw [if_neg h, max_eq_right (le_of_not_ge h)]
      exact Function.update_self ..
  · rw [if_neg hk]
    by_cases h : A.stamp m ≤ s.seen (A.key m)
    · rw [if_pos h]
    · rw [if_neg h]
      exact Function.update_of_ne hk ..

theorem held_deliver (k : K) :
    (s.deliver A m).held k =
      if k = A.key m ∧ s.seen k < A.stamp m then some m else s.held k := by
  unfold deliver
  by_cases h : A.stamp m ≤ s.seen (A.key m)
  · have hno : ¬ (k = A.key m ∧ s.seen k < A.stamp m) := by
      rintro ⟨rfl, hlt⟩
      exact absurd hlt (not_lt.mpr h)
    rw [if_pos h, if_neg hno]
  · rw [if_neg h]
    by_cases hk : k = A.key m
    · subst hk
      rw [if_pos ⟨rfl, not_le.mp h⟩]
      exact Function.update_self ..
    · rw [if_neg fun hc => hk hc.1]
      exact Function.update_of_ne hk ..

/-- No event lowers a stamp. -/
theorem seen_apply_le (e : Event M) (k : K) : s.seen k ≤ (s.apply A e).seen k := by
  cases e with
  | deliver m =>
      rw [apply, seen_deliver]
      by_cases hk : k = A.key m
      · rw [if_pos hk]
        exact le_max_left ..
      · rw [if_neg hk]
  | drop kept => exact le_refl _

/-! ## Any events -/

theorem seen_run_le (events : List (Event M)) (k : K) : s.seen k ≤ (s.run A events).seen k := by
  induction events generalizing s with
  | nil => exact le_refl _
  | cons e events ih => exact (seen_apply_le e k).trans ih

/-- The stamp of a delivered message has been taken in. -/
theorem stamp_le_seen {events : List (Event M)} (h : .deliver m ∈ events) :
    A.stamp m ≤ (s.run A events).seen (A.key m) := by
  induction events generalizing s with
  | nil => exact absurd h List.not_mem_nil
  | cons e events ih =>
      rcases List.mem_cons.mp h with rfl | hmem
      · have hseen : A.stamp m ≤ (s.apply A (.deliver m)).seen (A.key m) := by
          rw [apply, seen_deliver, if_pos rfl]
          exact le_max_right ..
        exact hseen.trans (seen_run_le events _)
      · exact ih hmem

/-- **What has been dropped does not come back**: if nothing new is delivered, every message
held afterwards was held before. -/
theorem held_of_old {events : List (Event M)}
    (hold : ∀ m, .deliver m ∈ events → A.stamp m ≤ s.seen (A.key m)) {k : K}
    (h : (s.run A events).held k = some m) : s.held k = some m := by
  induction events generalizing s with
  | nil => exact h
  | cons e events ih =>
      have hrest : (s.apply A e).held k = some m := by
        refine ih (fun m' hm' => ?_) h
        exact (hold m' (List.mem_cons_of_mem e hm')).trans (seen_apply_le e _)
      cases e with
      | deliver m' =>
          rw [apply, deliver_of_le (hold m' List.mem_cons_self)] at hrest
          exact hrest
      | drop kept => exact (Option.filter_eq_some_iff.mp hrest).1

/-! ## Deliveries alone -/

variable (A) in
def deliverAll (s : Bank M K σ) (ms : List M) : Bank M K σ := ms.foldl (deliver A) s

theorem run_deliver (ms : List M) : s.run A (ms.map .deliver) = s.deliverAll A ms := by
  induction ms generalizing s with
  | nil => rfl
  | cons m ms ih => exact ih

/-- Among the messages, `m` is one of greatest stamp for the register `k`. -/
def Newest (A : Addressing M K σ) (ms : List M) (k : K) (m : M) : Prop :=
  m ∈ ms ∧ A.key m = k ∧ ∀ m' ∈ ms, A.key m' = k → A.stamp m' ≤ A.stamp m

omit [DecidableEq K] in
theorem Newest.concat {ms : List M} {k : K} {m m' : M} (h : Newest A ms k m)
    (hm' : A.key m' = k → A.stamp m' ≤ A.stamp m) : Newest A (ms ++ [m']) k m := by
  refine ⟨List.mem_append_left _ h.1, h.2.1, fun m₁ hm₁ hkey => ?_⟩
  rcases List.mem_append.mp hm₁ with hold | hlast
  · exact h.2.2 m₁ hold hkey
  · rw [List.mem_singleton.mp hlast] at hkey ⊢
    exact hm' hkey

/-- The register holds a message of greatest stamp, which is the greatest it has taken in,
or nothing was for it. -/
def Settled (A : Addressing M K σ) (bottom : σ) (ms : List M) (s : Bank M K σ) (k : K) : Prop :=
  (∃ m, s.held k = some m ∧ Newest A ms k m ∧ s.seen k = A.stamp m) ∨
    (s.held k = none ∧ (∀ m ∈ ms, A.key m ≠ k) ∧ s.seen k = bottom)

theorem Settled.deliver {bottom : σ} {ms : List M} {k : K} (h : Settled A bottom ms s k)
    (hm : bottom < A.stamp m) : Settled A bottom (ms ++ [m]) (s.deliver A m) k := by
  rw [Settled, held_deliver, seen_deliver]
  by_cases hk : k = A.key m
  · subst hk
    rw [if_pos rfl]
    by_cases hlt : s.seen (A.key m) < A.stamp m
    · -- taken in: nothing before it has a greater stamp
      rw [if_pos ⟨rfl, hlt⟩, max_eq_right hlt.le]
      have hlast : m ∈ ms ++ [m] := List.mem_append_right _ (List.mem_singleton_self m)
      refine .inl ⟨m, rfl, ⟨hlast, rfl, fun m' hm' hkey => ?_⟩, rfl⟩
      rcases List.mem_append.mp hm' with hold | hsame
      · rcases h with ⟨m₀, -, hnew, hseen⟩ | ⟨-, hnone, -⟩
        · exact (hnew.2.2 m' hold hkey).trans (hseen ▸ hlt.le)
        · exact absurd hkey (hnone m' hold)
      · rw [List.mem_singleton.mp hsame]
    · -- refused: the register was not at the bottom
      rw [if_neg fun hc => hlt hc.2, max_eq_left (not_lt.mp hlt)]
      rcases h with ⟨m₀, hheld, hnew, hseen⟩ | ⟨-, -, hseen⟩
      · exact .inl ⟨m₀, hheld, hnew.concat fun _ => hseen ▸ not_lt.mp hlt, hseen⟩
      · rw [hseen] at hlt
        exact absurd hm hlt
  · rw [if_neg hk, if_neg fun hc => hk hc.1]
    refine h.imp ?_ ?_
    · rintro ⟨m₀, hheld, hnew, hseen⟩
      exact ⟨m₀, hheld, hnew.concat fun hkey => absurd hkey.symm hk, hseen⟩
    · rintro ⟨hnone, hkeys, hseen⟩
      refine ⟨hnone, fun m' hm' => ?_, hseen⟩
      rcases List.mem_append.mp hm' with hold | hsame
      · exact hkeys m' hold
      · rw [List.mem_singleton.mp hsame]
        exact fun hkey => hk hkey.symm

theorem settled_deliverAll {bottom : σ} {ms : List M} (hms : ∀ m ∈ ms, bottom < A.stamp m)
    (k : K) : Settled A bottom ms ((fresh bottom).deliverAll A ms) k := by
  induction ms using List.reverseRecOn with
  | nil => exact .inr ⟨rfl, fun m hm => absurd hm List.not_mem_nil, rfl⟩
  | append_singleton ms m ih =>
      have hstep : (fresh bottom).deliverAll A (ms ++ [m]) =
          ((fresh bottom).deliverAll A ms).deliver A m := by
        unfold deliverAll
        rw [List.foldl_append]
        rfl
      rw [hstep]
      exact (ih fun m' hm' => hms m' (List.mem_append_left _ hm')).deliver
        (hms m (List.mem_append_right _ (List.mem_singleton_self m)))

/-- **Each register holds a message of greatest stamp**, if any was for it. -/
theorem held_spec {bottom : σ} {ms : List M} (hms : ∀ m ∈ ms, bottom < A.stamp m) (k : K) :
    (∃ m, ((fresh bottom).deliverAll A ms).held k = some m ∧ Newest A ms k m) ∨
      (((fresh bottom).deliverAll A ms).held k = none ∧ ∀ m ∈ ms, A.key m ≠ k) := by
  rcases settled_deliverAll hms k with ⟨m, hheld, hnew, -⟩ | ⟨hnone, hkeys, -⟩
  · exact .inl ⟨m, hheld, hnew⟩
  · exact .inr ⟨hnone, hkeys⟩

end Bank

end Superorganism.Registers
