/-
Rounding to the nearest multiple of a unit, ties to even.

`halfEven` is the nearest integer, `toGrid u` the nearest multiple of `u`. The rounding loses
nothing exactly on the grid itself. What matters to a test for integrality is less obvious: a
value that is no integer may be rounded to one. Where the grid is finer than the integers, this
happens exactly within half a unit of an integer (`toGrid_eq_int_iff`).
-/
import Mathlib.Algebra.Order.Round
import Mathlib.Algebra.Order.Floor.Ring
import Mathlib.Algebra.Ring.Int.Parity
import Mathlib.Tactic.FieldSimp
import Mathlib.Tactic.Linarith
import Mathlib.Tactic.NormNum
import Mathlib.Tactic.Ring

set_option autoImplicit false

namespace Superorganism.Rounding

variable {R : Type} [Field R] [LinearOrder R] [IsStrictOrderedRing R] [FloorRing R]

/-! ## The nearest integer -/

/-- The nearest integer, the even one of two. -/
def halfEven (x : R) : ℤ :=
  if 2 * Int.fract x < 1 then ⌊x⌋
  else if 1 < 2 * Int.fract x then ⌊x⌋ + 1
  else if Even ⌊x⌋ then ⌊x⌋ else ⌊x⌋ + 1

variable {x : R} {m : ℤ}

/-- No other integer is nearer, and of two equally near ones the even one is taken. -/
theorem halfEven_spec (x : R) :
    |x - halfEven x| < 1 / 2 ∨ |x - halfEven x| = 1 / 2 ∧ Even (halfEven x) := by
  have hfract : x = ⌊x⌋ + Int.fract x := (Int.floor_add_fract x).symm
  have hnonneg := Int.fract_nonneg x
  have hlt := Int.fract_lt_one x
  unfold halfEven
  split_ifs with hbelow habove heven
  · left
    rw [abs_lt]
    constructor <;> linarith
  · left
    rw [abs_lt]
    push_cast
    constructor <;> linarith
  · right
    refine ⟨?_, heven⟩
    rw [abs_of_nonneg (by linarith)]
    linarith
  · right
    refine ⟨?_, Int.not_even_iff_odd.mp heven |>.add_one⟩
    push_cast
    rw [abs_of_nonpos (by linarith)]
    linarith

theorem abs_sub_halfEven_le (x : R) : |x - halfEven x| ≤ 1 / 2 :=
  (halfEven_spec x).elim le_of_lt fun h => h.1.le

/-- What is at least `m` after rounding was no more than half below it. -/
theorem le_halfEven_iff :
    m ≤ halfEven x ↔ (m : R) - 1 / 2 < x ∨ x = m - 1 / 2 ∧ Even m := by
  have hspec := halfEven_spec x
  obtain ⟨hlow, hhigh⟩ := abs_le.mp (abs_sub_halfEven_le x)
  constructor
  · intro hle
    have hcast : (m : R) ≤ halfEven x := Int.cast_le.mpr hle
    rcases lt_or_eq_of_le (show (m : R) - 1 / 2 ≤ x by linarith) with hlt | heq
    · exact .inl hlt
    · -- then `x` is half below `m`, and was rounded up to it
      have hm : (halfEven x : R) = m := by linarith
      rcases hspec with hlt | ⟨-, heven⟩
      · rw [hm, abs_lt] at hlt
        linarith
      · exact .inr ⟨heq.symm, Int.cast_injective hm ▸ heven⟩
  · rintro (hlt | ⟨heq, heven⟩)
    · have hcast : (m : R) < halfEven x + 1 := by linarith
      exact Int.lt_add_one_iff.mp (by exact_mod_cast hcast)
    · by_contra hlt
      -- the even `m` is as near as the one below, which is odd
      have hle : (halfEven x : R) ≤ m - 1 := by
        have hle : halfEven x ≤ m - 1 := by omega
        exact_mod_cast hle
      have hm : (halfEven x : R) = ((m - 1 : ℤ) : R) := by
        push_cast
        linarith
      have hm : halfEven x = m - 1 := Int.cast_injective hm
      rw [hm] at hspec
      push_cast at hspec
      rcases hspec with hlt | ⟨-, hodd⟩
      · rw [heq, abs_lt] at hlt
        linarith
      · exact absurd (heven.sub_odd odd_one) (Int.not_odd_iff_even.mpr hodd)

theorem halfEven_eq_iff :
    halfEven x = m ↔ |x - m| < 1 / 2 ∨ |x - m| = 1 / 2 ∧ Even m := by
  constructor
  · rintro rfl
    exact halfEven_spec x
  · intro h
    have hle : m ≤ halfEven x := by
      rw [le_halfEven_iff]
      rcases h with hlt | ⟨heq, heven⟩
      · exact .inl (by linarith [(abs_lt.mp hlt).1])
      · rcases eq_or_eq_neg_of_abs_eq heq with hx | hx
        · exact .inl (by linarith)
        · exact .inr ⟨by linarith, heven⟩
    refine le_antisymm (not_lt.mp fun hlt => ?_) hle
    have hnext : m + 1 ≤ halfEven x := hlt
    rw [le_halfEven_iff] at hnext
    push_cast at hnext
    rcases hnext with hx | ⟨hx, hodd⟩
    · rcases h with h | ⟨h, -⟩
      · linarith [(abs_lt.mp h).2]
      · linarith [(abs_le.mp h.le).2]
    · rcases h with h | ⟨-, heven⟩
      · linarith [(abs_lt.mp h).2]
      · exact absurd heven.add_one (Int.not_odd_iff_even.mpr hodd)

@[simp] theorem halfEven_intCast (m : ℤ) : halfEven (m : R) = m := by
  rw [halfEven_eq_iff, sub_self, abs_zero]
  exact .inl (by norm_num)

theorem halfEven_le (h : x ≤ m) : halfEven x ≤ m := by
  by_contra hlt
  have hnext : m + 1 ≤ halfEven x := by omega
  rw [le_halfEven_iff] at hnext
  push_cast at hnext
  rcases hnext with hx | ⟨hx, -⟩ <;> linarith

/-! ## The nearest multiple of a unit -/

/-- The nearest multiple of the unit. -/
def toGrid (u x : R) : R := u * halfEven (x / u)

variable {u : R}

theorem abs_sub_toGrid_le (hu : 0 < u) (x : R) : |x - toGrid u x| ≤ u / 2 := by
  have hscale : x - toGrid u x = u * (x / u - halfEven (x / u)) := by
    rw [toGrid, mul_sub, mul_div_cancel₀ x hu.ne']
  rw [hscale, abs_mul, abs_of_pos hu]
  calc u * |x / u - halfEven (x / u)| ≤ u * (1 / 2) :=
        mul_le_mul_of_nonneg_left (abs_sub_halfEven_le _) hu.le
    _ = u / 2 := by ring

@[simp] theorem toGrid_mul_int (hu : 0 < u) (k : ℤ) : toGrid u (u * k) = u * k := by
  rw [toGrid, mul_div_cancel_left₀ _ hu.ne', halfEven_intCast]

@[simp] theorem toGrid_zero (u : R) : toGrid u 0 = 0 := by
  have hzero : halfEven (0 : R) = 0 := by exact_mod_cast halfEven_intCast (R := R) 0
  rw [toGrid, zero_div, hzero, Int.cast_zero, mul_zero]

/-- Exactly the multiples of the unit are not changed. -/
theorem toGrid_eq_self_iff (hu : 0 < u) : toGrid u x = x ↔ ∃ k : ℤ, x = u * k := by
  constructor
  · intro h
    exact ⟨halfEven (x / u), h.symm⟩
  · rintro ⟨k, rfl⟩
    exact toGrid_mul_int hu k

theorem mul_le_toGrid_iff (hu : 0 < u) {k : ℤ} :
    u * k ≤ toGrid u x ↔ u * k - u / 2 < x ∨ x = u * k - u / 2 ∧ Even k := by
  have hcast : u * k ≤ toGrid u x ↔ k ≤ halfEven (x / u) := by
    rw [toGrid, mul_le_mul_iff_right₀ hu, Int.cast_le]
  rw [hcast, le_halfEven_iff, lt_div_iff₀ hu, div_eq_iff hu.ne']
  refine or_congr ?_ (and_congr_left fun _ => ?_)
  · rw [show ((k : R) - 1 / 2) * u = u * k - u / 2 by ring]
  · rw [show ((k : R) - 1 / 2) * u = u * k - u / 2 by ring]

theorem mul_le_toGrid (hu : 0 < u) {k : ℤ} (h : u * k ≤ x) : u * k ≤ toGrid u x :=
  (mul_le_toGrid_iff hu).mpr (.inl (by linarith))

theorem toGrid_le_mul (hu : 0 < u) {k : ℤ} (h : x ≤ u * k) : toGrid u x ≤ u * k := by
  refine mul_le_mul_of_nonneg_left (Int.cast_le.mpr (halfEven_le ?_)) hu.le
  rw [div_le_iff₀ hu]
  linarith

/-- Between two values that are rounded differently there is a midpoint. -/
theorem toGrid_congr (hu : 0 < u) {y : R} (hxy : x ≤ y)
    (h : ∀ k : ℤ, x ≤ u * k + u / 2 → ¬ u * k + u / 2 ≤ y) : toGrid u x = toGrid u y := by
  obtain ⟨hlow, hhigh⟩ := abs_le.mp (abs_sub_halfEven_le (x / u))
  have hround : halfEven (y / u) = halfEven (x / u) := by
    generalize halfEven (x / u) = m at hlow hhigh ⊢
    rw [halfEven_eq_iff]
    left
    rw [abs_lt]
    constructor
    · -- the midpoint below `m` is below `x`
      have hbelow : u * ((m - 1 : ℤ) : R) + u / 2 < x := by
        by_contra hle
        refine h (m - 1) (not_lt.mp hle) (le_trans ?_ hxy)
        rw [le_sub_iff_add_le, le_div_iff₀ hu] at hlow
        push_cast
        linarith
      have hy : (m : R) - 1 / 2 < y / u := by
        rw [lt_div_iff₀ hu]
        push_cast at hbelow
        linarith
      linarith
    · -- the midpoint above `m` is above `y`
      have habove : y < u * m + u / 2 := by
        by_contra hle
        refine h m ?_ (not_lt.mp hle)
        rw [sub_le_iff_le_add, div_le_iff₀ hu] at hhigh
        linarith
      have hy : y / u < m + 1 / 2 := by
        rw [div_lt_iff₀ hu]
        linarith
      linarith
  rw [toGrid, toGrid, hround]

/-! ## Integers and a grid

A grid either is coarser than the integers, or divides them; and in the second case it divides
them into an even number of parts, unless it is the integers themselves. -/

/-- A unit of a grid that fits the integers. -/
inductive Fits (u : R) : Prop where
  | coarse (U : ℤ) (h : u = U)
  | fine (N : ℤ) (h : u * N = 1) (heven : Even N)

/-- On a fine grid, what is within half a unit of an integer is rounded to it: the tie has the
integer on its even side. -/
theorem toGrid_eq_int_iff (hu : 0 < u) {N : ℤ} (hN : u * N = 1) (heven : Even N) {n : ℤ} :
    toGrid u x = n ↔ |x - n| ≤ u / 2 := by
  have hn : (n : R) = u * ((N * n : ℤ) : R) := by
    push_cast
    rw [← mul_assoc, hN, one_mul]
  constructor
  · intro h
    rw [← h]
    exact abs_sub_toGrid_le hu x
  · intro h
    have hscale : |x / u - ((N * n : ℤ) : R)| ≤ 1 / 2 := by
      have hx : x / u - ((N * n : ℤ) : R) = (x - n) / u := by
        rw [sub_div, hn, mul_div_cancel_left₀ _ hu.ne']
      rw [hx, abs_div, abs_of_pos hu, div_le_iff₀ hu]
      linarith
    have hround : halfEven (x / u) = N * n := by
      rw [halfEven_eq_iff]
      exact (lt_or_eq_of_le hscale).imp_right fun heq => ⟨heq, heven.mul_right n⟩
    rw [toGrid, hround, ← hn]

/-- A value is rounded to an integer exactly if one is within half a unit of it. -/
theorem exists_toGrid_eq_int_iff (hu : 0 < u) (hfits : Fits u) :
    (∃ n : ℤ, toGrid u x = n) ↔ ∃ n : ℤ, |x - n| ≤ u / 2 := by
  cases hfits with
  | fine N h heven => exact exists_congr fun n => toGrid_eq_int_iff hu h heven
  | coarse U h =>
      have hone : (1 : R) ≤ u := by
        rw [h] at hu ⊢
        exact_mod_cast hu
      constructor
      · intro _
        exact ⟨round x, (abs_sub_round x).trans (by linarith)⟩
      · intro _
        refine ⟨U * halfEven (x / u), ?_⟩
        rw [toGrid]
        push_cast
        rw [← h]

/-- **When a test for integrality is exact after rounding**: nothing was rounded, or there is no
integer that the value could be rounded to. -/
theorem toGrid_int_exact_iff (hu : 0 < u) (hfits : Fits u) :
    (∀ n : ℤ, toGrid u x = n ↔ x = n) ↔
      (∃ k : ℤ, x = u * k) ∨ ∀ n : ℤ, u / 2 < |x - n| := by
  have hexists := exists_toGrid_eq_int_iff (x := x) hu hfits
  constructor
  · intro h
    by_cases hint : ∃ n : ℤ, toGrid u x = n
    · obtain ⟨n, hn⟩ := hint
      refine .inl ((toGrid_eq_self_iff hu).mp ?_)
      rw [hn, (h n).mp hn]
    · rw [hexists] at hint
      exact .inr fun n => not_le.mp fun hle => hint ⟨n, hle⟩
  · rintro (hgrid | hfar) n
    · rw [(toGrid_eq_self_iff hu).mpr hgrid]
    · have hnone : ¬ ∃ n : ℤ, toGrid u x = n := by
        rw [hexists]
        rintro ⟨n, hle⟩
        exact not_lt.mpr hle (hfar n)
      refine iff_of_false (fun h => hnone ⟨n, h⟩) fun h => ?_
      have hzero := hfar n
      rw [h, sub_self, abs_zero] at hzero
      linarith

/-! ## The integer part -/

/-- On a grid that divides the integers nothing falls below its integer part, and what is rounded
up to the next integer is read off `mul_le_toGrid_iff`. -/
theorem floor_toGrid_eq_iff_of_fine (hu : 0 < u) {N : ℤ} (hN : u * N = 1) :
    ⌊toGrid u x⌋ = ⌊x⌋ ↔
      ¬ ((⌊x⌋ : R) + 1 - u / 2 < x ∨ x = ⌊x⌋ + 1 - u / 2 ∧ Even (N * (⌊x⌋ + 1))) := by
  have hint (n : ℤ) : u * ((N * n : ℤ) : R) = n := by
    push_cast
    rw [← mul_assoc, hN, one_mul]
  have hlow : (⌊x⌋ : R) ≤ toGrid u x := by
    rw [← hint]
    refine mul_le_toGrid hu ?_
    rw [hint]
    exact Int.floor_le x
  have hhigh := mul_le_toGrid_iff (x := x) hu (k := N * (⌊x⌋ + 1))
  rw [hint] at hhigh
  push_cast at hhigh
  rw [← hhigh, Int.floor_eq_iff, not_le]
  exact and_iff_right hlow

/-- On a grid coarser than the integers the integer part has to be on the grid. -/
theorem floor_toGrid_eq_iff_of_coarse {U : ℤ} (hU : u = U) (htwo : 2 ≤ u) :
    ⌊toGrid u x⌋ = ⌊x⌋ ↔ ∃ k : ℤ, (⌊x⌋ : R) = u * k := by
  have hu : 0 < u := by linarith
  have hgrid : toGrid u x = ((U * halfEven (x / u) : ℤ) : R) := by
    rw [toGrid]
    push_cast
    rw [← hU]
  constructor
  · intro h
    rw [hgrid, Int.floor_intCast] at h
    exact ⟨halfEven (x / u), by rw [← h, ← hgrid, toGrid]⟩
  · rintro ⟨k, hk⟩
    have hround : halfEven (x / u) = k := by
      rw [halfEven_eq_iff]
      left
      have hx : x / u - k = Int.fract x / u := by
        rw [Int.fract, hk, sub_div, mul_div_cancel_left₀ _ hu.ne']
      rw [hx, abs_of_nonneg (div_nonneg (Int.fract_nonneg x) hu.le), div_lt_iff₀ hu]
      linarith [Int.fract_lt_one x]
    have hfloor : (⌊x⌋ : R) = ((U * k : ℤ) : R) := by
      push_cast
      rw [hk, hU]
    rw [hgrid, hround, Int.floor_intCast]
    exact (Int.cast_injective hfloor).symm

/-- The unit leaves the integer part of the value as it is. -/
def KeepsFloor (u x : R) : Prop :=
  if u < 1 then x + u / 2 < ⌊x⌋ + 1
  else if u = 1 then x < ⌊x⌋ + 1 / 2 ∨ x = ⌊x⌋ + 1 / 2 ∧ Even ⌊x⌋
  else ∃ k : ℤ, (⌊x⌋ : R) = u * k

/-- **When the integer part is the same after rounding.** -/
theorem floor_toGrid_eq_iff (hu : 0 < u) (hfits : Fits u) :
    ⌊toGrid u x⌋ = ⌊x⌋ ↔ KeepsFloor u x := by
  unfold KeepsFloor
  cases hfits with
  | fine N h heven =>
      have hN : (2 : R) ≤ N := by
        have hpos : (0 : R) < N := by
          by_contra hle
          nlinarith
        have htwo : (2 : ℤ) ≤ N := by
          have hpos : 0 < N := by exact_mod_cast hpos
          obtain ⟨k, rfl⟩ := heven
          omega
        exact_mod_cast htwo
      have hlt : u < 1 := by nlinarith
      rw [if_pos hlt, floor_toGrid_eq_iff_of_fine hu h, not_or, not_lt]
      constructor
      · rintro ⟨hle, hne⟩
        refine lt_of_le_of_ne (by linarith) fun heq => hne ⟨by linarith, heven.mul_right _⟩
      · intro hlt
        exact ⟨by linarith, fun h => by linarith [h.1]⟩
  | coarse U h =>
      have hone : (1 : R) ≤ u := by
        rw [h] at hu ⊢
        exact_mod_cast hu
      rw [if_neg (not_lt.mpr hone)]
      by_cases hu1 : u = 1
      · rw [if_pos hu1, floor_toGrid_eq_iff_of_fine hu (N := 1) (by simpa using hu1), hu1, one_mul,
          not_or, not_lt, Int.even_add_one]
        constructor
        · rintro ⟨hle, hne⟩
          rcases lt_or_eq_of_le (show x ≤ ⌊x⌋ + 1 / 2 by linarith) with hlt | heq
          · exact .inl hlt
          · refine .inr ⟨heq, ?_⟩
            by_contra hodd
            exact hne ⟨by linarith, hodd⟩
        · rintro (hlt | ⟨heq, heven⟩)
          · exact ⟨by linarith, fun h => by linarith [h.1]⟩
          · exact ⟨by linarith, fun h => h.2 heven⟩
      · rw [if_neg hu1]
        refine floor_toGrid_eq_iff_of_coarse h ?_
        have hU : (1 : ℤ) < U := by
          have hlt : (1 : R) < u := lt_of_le_of_ne hone (Ne.symm hu1)
          rw [h] at hlt
          exact_mod_cast hlt
        rw [h]
        exact_mod_cast hU

end Superorganism.Rounding
