/-
The pull counts of a bandit, and what they are divided by.

The total is the sum of what is aggregated for each arm, as long as every arm has a table
(`total_pulls_eq`). If no count in the tables is negative, the aggregated count of an arm is
at least the peer's own; and then whatever `confidence_bounds` divides by is positive
(`confidence_bounds_sound`), and so is what `select_arm` divides by, provided that nothing
expires between its two loops (`select_arm_sound`): the second loop divides by counts that
only the first one has compared with zero.
-/
import Mathlib.Algebra.Order.BigOperators.Group.List
import Mathlib.Tactic.Linarith
import Superorganism.MabGossip

set_option autoImplicit false

open Superorganism.Py

namespace Superorganism.Mab

variable {F : Type}

namespace Bandit

/-! ## Aggregates -/

/-- What the observations about an arm that have not expired count. -/
def freshPulls (b : Bandit F) (now : ℚ) (arm : String) : ℤ :=
  (((b.table arm).values.filter (·.fresh now)).map PeerObservation.pulls).sum

theorem foldl_pulls (observations : List (PeerObservation F)) (n : ℤ) :
    observations.foldl (fun n obs => n + obs.pulls) n =
      n + (observations.map PeerObservation.pulls).sum := by
  induction observations generalizing n with
  | nil => exact (add_zero n).symm
  | cons obs observations ih => rw [List.foldl_cons, ih, List.map_cons, List.sum_cons, add_assoc]

theorem aggregate_pulls_eq {b : Bandit F} {arm : String} {own : PeerObservation F}
    (h : b.own.get? arm = some own) (now : ℚ) :
    b._aggregate_pulls now arm = own.pulls + b.freshPulls now arm := by
  rw [_aggregate_pulls, h]
  exact foldl_pulls ..

/-- `UCB1._aggregate` counts the same. -/
theorem aggregate_snd [PyFloat F] (b : Bandit F) (now : ℚ) (arm : String) :
    (UCB1.aggregate b now arm).2 = b._aggregate_pulls now arm := by
  have hfold (observations : List (PeerObservation F)) (R : F) (n : ℤ) :
      (observations.foldl (fun (x : F × ℤ) obs => (x.1 + obs.total_reward, x.2 + obs.pulls)) (R, n)).2 =
        observations.foldl (fun n obs => n + obs.pulls) n := by
    induction observations generalizing R n with
    | nil => rfl
    | cons obs observations ih => exact ih ..
  unfold UCB1.aggregate _aggregate_pulls
  cases b.own.get? arm with
  | none => rfl
  | some own => exact hfold ..

/-- Every arm has a table, and every table is that of an arm. -/
def Tabled (b : Bandit F) : Prop := b.own.keys = b.peer_observations.keys

theorem sum_entries {κ ν : Type} [DecidableEq κ] (d : PyDict κ ν) (f : κ → ℤ) (g : ν → ℤ)
    (h : ∀ k v, d.get? k = some v → f k = g v) : (d.keys.map f).sum = (d.values.map g).sum := by
  have hmap : d.keys.map f = d.values.map g := by
    rw [PyDict.keys, PyDict.values, List.map_map, List.map_map]
    refine List.map_congr_left fun e he => ?_
    exact h e.1 e.2 (PyDict.get?_eq_some.mpr he)
  rw [hmap]

/-- **The total is the sum over the arms.** -/
theorem total_pulls_eq {b : Bandit F} (h : b.Tabled) (now : ℚ) :
    b.total_pulls now = (b.own.keys.map (b._aggregate_pulls now)).sum := by
  have hown : (b.own.keys.map fun arm => b._aggregate_pulls now arm - b.freshPulls now arm).sum =
      (b.own.values.map PeerObservation.pulls).sum := by
    refine sum_entries b.own _ _ fun arm own harm => ?_
    rw [aggregate_pulls_eq harm, add_sub_cancel_right]
  have hpeers : (b.own.keys.map (b.freshPulls now)).sum = (b.peer_observations.values.map fun table =>
      ((table.values.filter (·.fresh now)).map PeerObservation.pulls).sum).sum := by
    rw [h]
    refine sum_entries b.peer_observations _ _ fun arm table harm => ?_
    rw [freshPulls, Bandit.table, harm]
    rfl
  rw [total_pulls, ← hown, ← hpeers, ← List.sum_map_add]
  simp only [sub_add_cancel]

/-! ## Counts that are not negative -/

/-- No count is negative, own or reported. -/
structure Counted (b : Bandit F) : Prop where
  own : ∀ arm own, b.own.get? arm = some own → 0 ≤ own.pulls
  reported : ∀ arm sender obs, (b.table arm).get? sender = some obs → 0 ≤ obs.pulls

theorem Counted.pulls_nonneg {b : Bandit F} (h : b.Counted) {arm : String}
    {obs : PeerObservation F} (hobs : obs ∈ (b.table arm).values) : 0 ≤ obs.pulls := by
  obtain ⟨sender, hsender⟩ := PyDict.mem_values.mp hobs
  exact h.reported arm sender obs hsender

theorem Counted.freshPulls_nonneg {b : Bandit F} (h : b.Counted) (now : ℚ) (arm : String) :
    0 ≤ b.freshPulls now arm := by
  refine List.sum_nonneg fun n hn => ?_
  obtain ⟨obs, hobs, rfl⟩ := List.mem_map.mp hn
  exact h.pulls_nonneg (List.mem_filter.mp hobs).1

/-- **The aggregated count is at least the own one.** -/
theorem Counted.own_le {b : Bandit F} (h : b.Counted) {arm : String} {own : PeerObservation F}
    (harm : b.own.get? arm = some own) (now : ℚ) : own.pulls ≤ b._aggregate_pulls now arm := by
  rw [aggregate_pulls_eq harm]
  exact le_add_of_nonneg_right (h.freshPulls_nonneg now arm)

theorem Counted.aggregate_nonneg {b : Bandit F} (h : b.Counted) (now : ℚ) (arm : String) :
    0 ≤ b._aggregate_pulls now arm := by
  cases harm : b.own.get? arm with
  | none =>
      rw [_aggregate_pulls, harm]
  | some own => exact (h.own arm own harm).trans (h.own_le harm now)

theorem Counted.total_nonneg {b : Bandit F} (h : b.Counted) (htabled : b.Tabled) (now : ℚ) :
    0 ≤ b.total_pulls now := by
  rw [total_pulls_eq htabled]
  refine List.sum_nonneg fun n hn => ?_
  obtain ⟨arm, -, rfl⟩ := List.mem_map.mp hn
  exact h.aggregate_nonneg now arm

/-- Fewer observations count less. -/
theorem sum_filter_mono {observations : List (PeerObservation F)}
    (hnonneg : ∀ obs ∈ observations, 0 ≤ obs.pulls) {p q : PeerObservation F → Bool}
    (hpq : ∀ obs ∈ observations, p obs = true → q obs = true) :
    ((observations.filter p).map PeerObservation.pulls).sum ≤
      ((observations.filter q).map PeerObservation.pulls).sum := by
  induction observations with
  | nil => exact le_refl _
  | cons obs observations ih =>
      have hrest := ih (fun o ho => hnonneg o (List.mem_cons_of_mem obs ho))
        fun o ho => hpq o (List.mem_cons_of_mem obs ho)
      have hobs := hnonneg obs List.mem_cons_self
      rw [List.filter_cons, List.filter_cons]
      by_cases hp : p obs = true
      · rw [if_pos hp, if_pos (hpq obs List.mem_cons_self hp), List.map_cons, List.map_cons,
          List.sum_cons, List.sum_cons]
        exact add_le_add (le_refl _) hrest
      · rw [if_neg hp]
        by_cases hq : q obs = true
        · rw [if_pos hq, List.map_cons, List.sum_cons]
          exact hrest.trans (le_add_of_nonneg_left hobs)
        · rw [if_neg hq]
          exact hrest

/-- Nothing in the tables expires from one reading of the clock to a later one. -/
def Steady (b : Bandit F) (clock : ℕ → ℚ) : Prop :=
  ∀ i j, i ≤ j → ∀ arm sender obs, (b.table arm).get? sender = some obs →
    obs.fresh (clock i) = true → obs.fresh (clock j) = true

theorem Counted.aggregate_mono {b : Bandit F} (h : b.Counted) {clock : ℕ → ℚ}
    (hsteady : b.Steady clock) {i j : ℕ} (hij : i ≤ j) (arm : String) :
    b._aggregate_pulls (clock i) arm ≤ b._aggregate_pulls (clock j) arm := by
  cases harm : b.own.get? arm with
  | none =>
      unfold _aggregate_pulls
      rw [harm]
  | some own =>
      rw [aggregate_pulls_eq harm, aggregate_pulls_eq harm]
      refine add_le_add (le_refl _) (sum_filter_mono (fun obs => h.pulls_nonneg) fun obs hobs => ?_)
      obtain ⟨sender, hsender⟩ := PyDict.mem_values.mp hobs
      exact hsteady i j hij arm sender obs hsender

end Bandit

/-! ## Operands -/

/-- Divisors are positive, and logarithms are taken of at least one. -/
def Operand.Sound : Operand → Prop
  | .divisor n => 0 < n
  | .logarithm n => 1 ≤ n

namespace UCB1

variable [PyFloat F]

theorem along_truediv (x : F) {n : ℤ} (h : 0 < n) :
    (truediv x n).Along Operand.Sound fun _ => True := by
  refine (Calc.along_note (o := .divisor n) h).bind fun _ _ => ?_
  rw [if_neg h.ne']
  exact Calc.along_pure trivial

theorem along_np_truediv (x : F) {n : ℤ} (h : 0 < n) :
    (np_truediv x n).Along Operand.Sound fun _ => True :=
  (Calc.along_note (o := .divisor n) h).bind fun _ _ => Calc.along_pure trivial

theorem along_np_log {n : ℤ} (h : 1 ≤ n) :
    (np_log n : Calc F).Along Operand.Sound fun _ => True :=
  (Calc.along_note (o := .logarithm n) h).bind fun _ _ => Calc.along_pure trivial

/-- The second loop is sound over arms that count when they are looked at. -/
theorem best_arms_loop_sound (b : Bandit F) (c : F) {N : ℤ} (hN : 0 ≤ N) (clock : ℕ → ℚ) (i : ℕ)
    (names : List String) (best_ucb : F) (best_arms : List String)
    (hcount : ∀ k name, names[k]? = some name → 0 < b._aggregate_pulls (clock (i + k)) name) :
    (best_arms_loop b c N clock i names best_ucb best_arms).Along Operand.Sound fun _ => True := by
  induction names generalizing i best_ucb best_arms with
  | nil => exact Calc.along_pure trivial
  | cons name names ih =>
      -- the count that is divided by is read once more, at the clock's next reading
      have hn : 0 < (aggregate b (clock i) name).2 := by
        rw [Bandit.aggregate_snd]
        exact hcount 0 name rfl
      have hrest (best_ucb : F) (best_arms : List String) :
          (best_arms_loop b c N clock (i + 1) names best_ucb best_arms).Along Operand.Sound
            fun _ => True := by
        refine ih (i + 1) best_ucb best_arms fun k x hk => ?_
        rw [add_assoc, add_comm 1 k]
        exact hcount (k + 1) x hk
      rw [best_arms_loop]
      generalize aggregate b (clock i) name = result at hn
      obtain ⟨R, n⟩ := result
      dsimp only at hn ⊢
      refine (along_np_log (by linarith)).bind fun l _ =>
        (along_np_truediv l (by linarith)).bind fun ratio _ =>
        (along_truediv R hn).bind fun mean _ => ?_
      split
      · exact hrest _ _
      · split
        · exact hrest _ _
        · exact hrest _ _

/-- **What `select_arm` divides by is positive**, if nothing expires while it runs. -/
theorem select_arm_sound {b : Bandit F} (h : b.Counted) (htabled : b.Tabled) (c : F)
    (integers : (n : ℕ) → Fin (n + 1)) {clock : ℕ → ℚ} (hsteady : b.Steady clock)
    (candidates : List String) :
    (select_arm b c integers clock candidates).Along Operand.Sound fun _ => True := by
  unfold select_arm
  split
  · exact Calc.along_pure trivial
  · rename_i hnone
    refine (best_arms_loop_sound b c (h.total_nonneg htabled _) clock _ candidates _ _
      fun k name hk => ?_).bind fun arms _ => ?_
    · -- pulled at the first reading, and no less at the second
      have hne : b._aggregate_pulls (clock (0 + k)) name ≠ 0 := by
        rw [← Bandit.aggregate_snd]
        exact ne_zero_of_unpulled_eq_none hnone k hk
      have hle := h.aggregate_mono hsteady (show 0 + k ≤ candidates.length + 1 + k by omega) name
      exact lt_of_lt_of_le (lt_of_le_of_ne (h.aggregate_nonneg _ name) hne.symm) hle
    · unfold break_tie
      split
      · exact Calc.along_throw _
      · exact Calc.along_pure trivial
      · exact Calc.along_pure trivial

/-- **What `confidence_bounds` divides by is positive.** -/
theorem confidence_bounds_sound {b : Bandit F} (h : b.Counted) (htabled : b.Tabled)
    (now now' : ℚ) (arm : String) :
    (confidence_bounds b now now' arm).Along Operand.Sound fun _ => True := by
  unfold confidence_bounds
  have hnonneg : 0 ≤ (aggregate b now arm).2 := by
    rw [Bandit.aggregate_snd]
    exact h.aggregate_nonneg now arm
  generalize aggregate b now arm = result at hnonneg
  obtain ⟨R, n⟩ := result
  dsimp only at hnonneg ⊢
  by_cases hn : n = 0
  · rw [if_pos hn]
    exact Calc.along_pure trivial
  · rw [if_neg hn]
    have hpos : 0 < n := lt_of_le_of_ne hnonneg (Ne.symm hn)
    have hN := h.total_nonneg htabled now'
    exact (along_truediv R hpos).bind fun mean _ => (along_np_log (by linarith)).bind fun l _ =>
      (along_np_truediv l (by linarith)).bind fun ratio _ => Calc.along_pure trivial

end UCB1

end Superorganism.Mab
