/-
What the operations of `decimal` make of the values.

`_fix` keeps the sign, and of the magnitude it makes the nearest multiple of a unit that depends
on the magnitude alone (`Context.round`): the place of the last of `prec` digits, or `10 ^ Etiny`
for the smallest ones. `fix_spec` says so of every coefficient and exponent, with the magnitudes
that overflow. Comparison, `to_integral_value` and `int` are exact, whatever the precision.
-/
import Mathlib.Data.Int.Log
import Mathlib.Data.Rat.Floor
import Mathlib.Algebra.Order.Floor.Semifield
import Mathlib.Algebra.Order.Field.Power
import Mathlib.Tactic.Positivity
import Superorganism.Decimal
import Superorganism.Rounding

set_option autoImplicit false

open Superorganism.Rounding

namespace Superorganism.Py

namespace Decimal

/-! ## Digits -/

theorem len_pos (c : ℕ) : 0 < len c := Nat.length_toDigits_pos

theorem len_le_iff {c k : ℕ} (hk : 0 < k) : len c ≤ k ↔ c < 10 ^ k :=
  Nat.length_toDigits_le_iff (by decide) hk

theorem lt_pow_len (c : ℕ) : c < 10 ^ len c := (len_le_iff (len_pos c)).mp le_rfl

theorem pow_len_le {c : ℕ} (hc : c ≠ 0) : 10 ^ (len c - 1) ≤ c := by
  rcases Nat.eq_zero_or_pos (len c - 1) with hone | hpos
  · rw [hone, pow_zero]
    exact Nat.one_le_iff_ne_zero.mpr hc
  · by_contra hlt
    have hle := (len_le_iff hpos).mpr (not_le.mp hlt)
    have := len_pos c
    omega

/-- The value of a coefficient and an exponent. -/
def magnitude (int : ℕ) (exp : ℤ) : ℚ := int * 10 ^ exp

@[simp] theorem magnitude_zero (exp : ℤ) : magnitude 0 exp = 0 := by
  rw [magnitude, Nat.cast_zero, zero_mul]

theorem magnitude_nonneg (int : ℕ) (exp : ℤ) : 0 ≤ magnitude int exp := by
  unfold magnitude
  positivity

theorem magnitude_pos {int : ℕ} (h : int ≠ 0) (exp : ℤ) : 0 < magnitude int exp := by
  have : 0 < int := Nat.pos_of_ne_zero h
  unfold magnitude
  positivity

/-- Zeros behind the coefficient make up for a smaller exponent. -/
theorem magnitude_mul_pow (int n : ℕ) (exp : ℤ) :
    magnitude (int * 10 ^ n) exp = magnitude int (exp + n) := by
  unfold magnitude
  push_cast
  rw [zpow_add₀ (by norm_num), zpow_natCast]
  ring

theorem magnitude_lt (int : ℕ) (exp : ℤ) : magnitude int exp < (10 : ℚ) ^ (exp + len int) := by
  have hcast : (int : ℚ) < 10 ^ len int := by exact_mod_cast lt_pow_len int
  rw [magnitude, add_comm, zpow_add₀ (by norm_num), zpow_natCast]
  exact mul_lt_mul_of_pos_right hcast (by positivity)

theorem le_magnitude {int : ℕ} (h : int ≠ 0) (exp : ℤ) :
    (10 : ℚ) ^ (exp + len int - 1) ≤ magnitude int exp := by
  have hlen := len_pos int
  have hcast : (10 : ℚ) ^ (len int - 1) ≤ int := by exact_mod_cast pow_len_le h
  rw [magnitude, show exp + (len int : ℤ) - 1 = ((len int - 1 : ℕ) : ℤ) + exp by omega,
    zpow_add₀ (by norm_num), zpow_natCast]
  exact mul_le_mul_of_nonneg_right hcast (by positivity)

/-- The place of the first digit. -/
theorem log_magnitude {int : ℕ} (h : int ≠ 0) (exp : ℤ) :
    Int.log 10 (magnitude int exp) = exp + len int - 1 := by
  have hpos := magnitude_pos h exp
  have hge := (Int.zpow_le_iff_le_log (b := 10) (by norm_num) hpos).mp (le_magnitude h exp)
  have hlt := (Int.lt_zpow_iff_log_lt (b := 10) (by norm_num) hpos).mp (magnitude_lt int exp)
  omega

/-! ## Rounding to a place -/

/-- The powers of ten divide the integers evenly, or are integers. -/
theorem fits_ten_zpow (place : ℤ) : Fits ((10 : ℚ) ^ place) := by
  rcases le_or_gt 0 place with hnonneg | hneg
  · obtain ⟨n, rfl⟩ := Int.eq_ofNat_of_zero_le hnonneg
    refine .coarse (10 ^ n) ?_
    push_cast
    rw [zpow_natCast]
  · obtain ⟨n, hn⟩ : ∃ n : ℕ, place = -(n + 1 : ℕ) := ⟨(-place).toNat - 1, by omega⟩
    refine .fine (10 ^ (n + 1)) ?_ ?_
    · rw [hn, zpow_neg, zpow_natCast]
      push_cast
      exact inv_mul_cancel₀ (by positivity)
    · exact (by decide : Even (10 : ℤ)).pow_of_ne_zero n.succ_ne_zero

theorem ROUND_HALF_EVEN_eq (int : ℕ) {unit : ℕ} (hunit : 0 < unit) :
    (ROUND_HALF_EVEN int unit : ℤ) = halfEven ((int : ℚ) / unit) := by
  have hcast : (0 : ℚ) < unit := by exact_mod_cast hunit
  have hsplit : (int : ℚ) / unit = (int / unit : ℕ) + (int % unit : ℕ) / (unit : ℚ) := by
    field_simp
    exact_mod_cast (Nat.div_add_mod int unit).symm
  have hnonneg : (0 : ℚ) ≤ (int % unit : ℕ) / (unit : ℚ) := by positivity
  have hlt : ((int % unit : ℕ) : ℚ) / unit < 1 := by
    rw [div_lt_one hcast]
    exact_mod_cast Nat.mod_lt int hunit
  -- what is left over, compared with half a unit
  have habove : unit < 2 * (int % unit) ↔ (1 / 2 : ℚ) < (int % unit : ℕ) / (unit : ℚ) := by
    rw [lt_div_iff₀ hcast, ← Nat.cast_lt (α := ℚ)]
    push_cast
    constructor <;> intro h <;> linarith
  have htie : 2 * (int % unit) = unit ↔ ((int % unit : ℕ) : ℚ) / unit = 1 / 2 := by
    rw [div_eq_iff hcast.ne', ← Nat.cast_inj (R := ℚ)]
    push_cast
    constructor <;> intro h <;> linarith
  symm
  rw [halfEven_eq_iff, hsplit]
  unfold ROUND_HALF_EVEN
  dsimp only
  split_ifs with hup <;> rw [habove, htie] at hup
  · rw [Nat.cast_add, Nat.cast_one, Int.cast_add, Int.cast_natCast, Int.cast_one,
      abs_of_nonpos (by linarith)]
    rcases hup with hgt | ⟨heq, hodd⟩
    · exact .inl (by linarith)
    · refine .inr ⟨by linarith, ?_⟩
      rw [Int.even_add_one, Int.not_even_iff_odd, Int.odd_coe_nat]
      exact Nat.odd_iff.mpr hodd
  · rw [not_or, not_lt, not_and] at hup
    rw [Int.cast_natCast, add_sub_cancel_left, abs_of_nonneg hnonneg]
    refine (lt_or_eq_of_le hup.1).imp_right fun heq => ⟨heq, ?_⟩
    rw [Int.even_coe_nat, Nat.even_iff]
    have := hup.2 heq
    omega

end Decimal

namespace Context

variable (context : Context)

/-- The unit in the last place of a magnitude. -/
def ulp (x : ℚ) : ℚ := 10 ^ max (Int.log 10 x - context.prec + 1) context.Etiny

/-- A magnitude to the precision of the context. -/
def round (x : ℚ) : ℚ := toGrid (context.ulp x) x

/-- The magnitude is rounded to more than the largest number. -/
def Overflows (x : ℚ) : Prop := (10 : ℚ) ^ (context.Emax + 1) ≤ x + 10 ^ context.Etop / 2

theorem ulp_pos (x : ℚ) : 0 < context.ulp x := by
  unfold ulp
  positivity

theorem fits_ulp (x : ℚ) : Fits (context.ulp x) := Decimal.fits_ten_zpow _

end Context

namespace Decimal

variable {context : Context} {sign : Bool} {int : ℕ} {exp : ℤ}

theorem ulp_magnitude (h : int ≠ 0) : context.ulp (magnitude int exp) =
    10 ^ max (len int + exp - context.prec) context.Etiny := by
  rw [Context.ulp, log_magnitude h, show exp + (len int : ℤ) - 1 - context.prec + 1 =
    len int + exp - context.prec by ring]

/-! ## `_fix` -/

/-- A power of ten in units of a smaller one. -/
theorem zpow_div_zpow {a b : ℤ} (h : b ≤ a) : (10 : ℚ) ^ a / 10 ^ b = ((10 ^ (a - b).toNat : ℕ) : ℚ) := by
  rw [← zpow_sub₀ (by norm_num), Nat.cast_pow, ← zpow_natCast, Int.toNat_of_nonneg (by omega)]
  norm_num

/-- The coefficient that rounding to a place leaves. -/
theorem halfEven_magnitude {place : ℤ} (h : exp ≤ place) :
    halfEven (magnitude int exp / 10 ^ place) =
      (ROUND_HALF_EVEN int (10 ^ (place - exp).toNat) : ℤ) := by
  rw [ROUND_HALF_EVEN_eq int (by positivity), ← zpow_div_zpow h, magnitude]
  congr 1
  have hpos : (10 : ℚ) ^ exp ≠ 0 := by positivity
  field_simp

/-- A magnitude with its last digit at the place or before it is a multiple of the place. -/
theorem magnitude_div {place : ℤ} (h : place ≤ exp) :
    magnitude int exp / 10 ^ place = ((int * 10 ^ (exp - place).toNat : ℕ) : ℤ) := by
  rw [magnitude, mul_div_assoc, zpow_div_zpow h]
  push_cast
  rfl

/-- So it needs no rounding. -/
theorem toGrid_magnitude_of_le {place : ℤ} (h : place ≤ exp) :
    toGrid (10 ^ place) (magnitude int exp) = magnitude int exp := by
  have hpos : (10 : ℚ) ^ place ≠ 0 := by positivity
  rw [toGrid_eq_self_iff (by positivity)]
  exact ⟨_, (mul_div_cancel₀ _ hpos).symm.trans (congrArg _ (magnitude_div h))⟩

/-- Well below the largest numbers nothing overflows. -/
theorem not_overflows_of_lt {x : ℚ} (h : x < 10 ^ context.Emax) : ¬ context.Overflows x := by
  have htop : (10 : ℚ) ^ context.Etop ≤ 10 ^ context.Emax :=
    zpow_le_zpow_right₀ (by norm_num) (by have := context.prec_pos; unfold Context.Etop; omega)
  have hpos : (0 : ℚ) < 10 ^ context.Emax := by positivity
  rw [Context.Overflows, zpow_add_one₀ (by norm_num), not_le]
  linarith

theorem zpow_Emax_add_one (context : Context) :
    (10 : ℚ) ^ (context.Emax + 1) = 10 ^ context.prec * 10 ^ context.Etop := by
  rw [← zpow_natCast, ← zpow_add₀ (by norm_num), Context.Etop]
  congr 1
  ring

/-- In the last decade, what is rounded to one digit more than there is room for overflows. The
midpoint does too: the larger neighbour is even. -/
theorem overflows_iff_of_top {x : ℚ} :
    context.Overflows x ↔ ((10 ^ context.prec : ℕ) : ℤ) ≤ halfEven (x / 10 ^ context.Etop) := by
  have hpos : (0 : ℚ) < 10 ^ context.Etop := by positivity
  have heven : Even ((10 ^ context.prec : ℕ) : ℤ) := by
    push_cast
    exact (by decide : Even (10 : ℤ)).pow_of_ne_zero context.prec_pos.ne'
  rw [Context.Overflows, le_halfEven_iff, zpow_Emax_add_one, lt_div_iff₀ hpos, div_eq_iff hpos.ne']
  push_cast
  constructor
  · intro h
    rcases lt_or_eq_of_le h with hlt | heq
    · exact .inl (by linarith)
    · exact .inr ⟨by linarith, by exact_mod_cast heven⟩
  · rintro (h | ⟨h, -⟩) <;> linarith

/-- What does not need rounding does not overflow, if it ends at `Emax`. -/
theorem not_overflows_of_place (hplace : len int + exp - context.prec ≤ exp)
    (htop : len int + exp - context.prec ≤ context.Etop) :
    ¬ context.Overflows (magnitude int exp) := by
  have hlt := magnitude_lt int exp
  rcases lt_or_eq_of_le htop with hbelow | hlast
  · refine not_overflows_of_lt (hlt.trans_le (zpow_le_zpow_right₀ (by norm_num) ?_))
    rw [Context.Etop] at hbelow
    omega
  · -- in the last decade the coefficient is smaller than `10 ^ prec`
    rw [overflows_iff_of_top, not_le, ← hlast, magnitude_div hplace, halfEven_intCast,
      Nat.cast_lt]
    calc int * 10 ^ (exp - (len int + exp - context.prec)).toNat
        < 10 ^ len int * 10 ^ (exp - (len int + exp - context.prec)).toNat :=
          Nat.mul_lt_mul_of_pos_right (lt_pow_len int) (by positivity)
      _ = 10 ^ context.prec := by
          rw [← pow_add]
          congr 1
          omega

/-- The largest coefficient that rounding can leave. -/
theorem ROUND_HALF_EVEN_le {place : ℤ} (hplace : exp ≤ place)
    (hprec : len int + exp - context.prec ≤ place) :
    ROUND_HALF_EVEN int (10 ^ (place - exp).toNat) ≤ 10 ^ context.prec := by
  have hle : halfEven (magnitude int exp / 10 ^ place) ≤ ((10 ^ context.prec : ℕ) : ℤ) := by
    refine halfEven_le ?_
    rw [div_le_iff₀ (by positivity)]
    refine (magnitude_lt int exp).le.trans ?_
    push_cast
    rw [← zpow_natCast, ← zpow_add₀ (by norm_num)]
    exact zpow_le_zpow_right₀ (by norm_num) (by omega)
  rw [halfEven_magnitude hplace] at hle
  exact_mod_cast hle

/-- Before the last decade nothing overflows. -/
theorem not_overflows_of_lt_top {place : ℤ} (hprec : len int + exp - context.prec ≤ place)
    (htop : place < context.Etop) : ¬ context.Overflows (magnitude int exp) := by
  refine not_overflows_of_lt ((magnitude_lt int exp).trans_le ?_)
  refine zpow_le_zpow_right₀ (by norm_num) ?_
  rw [Context.Etop] at htop
  omega

/-- What becomes of a coefficient that is rounded at a place: either it is the largest one and the
place is the last, or it is kept, with a digit less if it has got one too many. -/
theorem fix_rounded {place : ℤ} (hplace : exp ≤ place)
    (hprec : len int + exp - context.prec ≤ place) (hlast : place ≤ context.Etop) :
    let coeff := ROUND_HALF_EVEN int (10 ^ (place - exp).toNat)
    let rounded : Except PyError Decimal :=
      if len coeff ≤ context.prec then pure (.finite sign coeff place)
      else if context.Etop < place + 1 then throw .Overflow
      else pure (.finite sign (coeff / 10) (place + 1))
    (context.Overflows (magnitude int exp) ∧ rounded = .error .Overflow) ∨
    (¬ context.Overflows (magnitude int exp) ∧ ∃ int' exp',
      rounded = .ok (.finite sign int' exp') ∧ magnitude int' exp' = magnitude coeff place) := by
  intro coeff rounded
  have hcoeff : coeff ≤ 10 ^ context.prec := ROUND_HALF_EVEN_le hplace hprec
  have hover (hEtop : place = context.Etop) :
      context.Overflows (magnitude int exp) ↔ 10 ^ context.prec ≤ coeff := by
    rw [overflows_iff_of_top, ← hEtop, halfEven_magnitude hplace, Nat.cast_le]
  by_cases hlen : len coeff ≤ context.prec
  · have hlt : coeff < 10 ^ context.prec := (len_le_iff context.prec_pos).mp hlen
    refine .inr ⟨?_, coeff, place, if_pos hlen, rfl⟩
    rcases lt_or_eq_of_le hlast with hbelow | hEtop
    · exact not_overflows_of_lt_top hprec hbelow
    · rw [hover hEtop]
      exact not_le.mpr hlt
  · -- all nines were rounded up
    have heq : coeff = 10 ^ context.prec :=
      le_antisymm hcoeff (not_lt.mp fun hlt => hlen ((len_le_iff context.prec_pos).mpr hlt))
    by_cases hnext : context.Etop < place + 1
    · exact .inl ⟨(hover (by omega)).mpr heq.ge, (if_neg hlen).trans (if_pos hnext)⟩
    · refine .inr ⟨not_overflows_of_lt_top hprec (by omega), _, _,
        (if_neg hlen).trans (if_neg hnext), ?_⟩
      obtain ⟨n, hn⟩ := Nat.exists_eq_succ_of_ne_zero context.prec_pos.ne'
      have hten : coeff = coeff / 10 * 10 ^ 1 := by
        rw [heq, hn, Nat.pow_succ, Nat.mul_div_cancel _ (by decide), pow_one]
      have hshift := magnitude_mul_pow (coeff / 10) 1 place
      rw [← hten, Nat.cast_one] at hshift
      exact hshift.symm

theorem Etiny_le_Etop (context : Context) : context.Etiny ≤ context.Etop := by
  have := context.Emin_nonpos
  have := context.Emax_nonneg
  unfold Context.Etiny Context.Etop
  omega

/-- **What `_fix` does**: it raises `Overflow`, or keeps the sign and makes the rounded magnitude
of the exact one. -/
theorem fix_spec (context : Context) (sign : Bool) (int : ℕ) (exp : ℤ) :
    (context.Overflows (magnitude int exp) ∧ fix context sign int exp = .error .Overflow) ∨
    (¬ context.Overflows (magnitude int exp) ∧ ∃ int' exp',
      fix context sign int exp = .ok (.finite sign int' exp') ∧
      magnitude int' exp' = context.round (magnitude int exp)) := by
  unfold fix
  by_cases hzero : int = 0
  · subst hzero
    rw [magnitude_zero]
    refine .inr ⟨not_overflows_of_lt (by positivity), 0, _, if_pos rfl, ?_⟩
    rw [magnitude_zero, Context.round, toGrid_zero]
  rw [if_neg hzero]
  dsimp only
  by_cases htop : context.Etop < len int + exp - context.prec
  · -- the first digit is beyond `Emax`
    rw [if_pos htop]
    refine .inl ⟨?_, rfl⟩
    have hle : (10 : ℚ) ^ (context.Emax + 1) ≤ magnitude int exp := by
      refine le_trans (zpow_le_zpow_right₀ (by norm_num) ?_) (le_magnitude hzero exp)
      rw [Context.Etop] at htop
      omega
    exact hle.trans (le_add_of_nonneg_right (by positivity))
  rw [if_neg htop]
  have hround : context.round (magnitude int exp) =
      toGrid (10 ^ max (len int + exp - context.prec) context.Etiny) (magnitude int exp) := by
    rw [Context.round, ulp_magnitude hzero]
  obtain ⟨place, hplace⟩ : ∃ place,
    max (len int + exp - context.prec) context.Etiny = place := ⟨_, rfl⟩
  have hprec : len int + exp - context.prec ≤ place := hplace ▸ le_max_left _ _
  have hlast : place ≤ context.Etop := hplace ▸ max_le (not_lt.mp htop) (Etiny_le_Etop context)
  rw [hplace] at hround ⊢
  rw [hround]
  by_cases hshort : place ≤ exp
  · rw [if_neg (not_lt.mpr hshort), toGrid_magnitude_of_le hshort]
    exact .inr ⟨not_overflows_of_place (hprec.trans hshort) (not_lt.mp htop), int, exp, rfl, rfl⟩
  · have hlong : exp ≤ place := (not_le.mp hshort).le
    rw [if_pos (not_le.mp hshort), toGrid, halfEven_magnitude hlong, mul_comm]
    exact fix_rounded hlong hprec hlast

/-- A number that the context has room for is left as it is. -/
theorem fix_of_fits (hzero : int ≠ 0) (hlen : len int ≤ context.prec) (htiny : context.Etiny ≤ exp)
    (htop : len int + exp - context.prec ≤ context.Etop) :
    fix context sign int exp = .ok (.finite sign int exp) := by
  unfold fix
  rw [if_neg hzero]
  dsimp only
  rw [if_neg (not_lt.mpr htop), if_neg (not_lt.mpr (max_le (by omega) htiny))]
  rfl

/-! ## The rounded value -/

/-- A power of ten is on the grid of every magnitude that is not below it by a digit or more. -/
theorem zpow_eq_ulp_mul {x : ℚ} {k : ℤ} (hk : context.Etiny ≤ k)
    (hlog : Int.log 10 x - context.prec + 1 ≤ k) : ∃ n : ℤ, (10 : ℚ) ^ k = context.ulp x * n := by
  have hplace : max (Int.log 10 x - context.prec + 1) context.Etiny ≤ k := max_le hlog hk
  refine ⟨(10 ^ (k - max (Int.log 10 x - context.prec + 1) context.Etiny).toNat : ℕ), ?_⟩
  have hdiv := zpow_div_zpow hplace
  rw [div_eq_iff (by positivity)] at hdiv
  rw [hdiv, Context.ulp, mul_comm, Int.cast_natCast]

/-- A number with no more digits than the context has room for is not rounded. -/
theorem round_magnitude_of_lt (hlt : int < 10 ^ context.prec) (htiny : context.Etiny ≤ exp) :
    context.round (magnitude int exp) = magnitude int exp := by
  by_cases hzero : int = 0
  · rw [hzero, magnitude_zero, Context.round, toGrid_zero]
  have hlog : Int.log 10 (magnitude int exp) - context.prec + 1 ≤ exp := by
    have hlen : len int ≤ context.prec := (len_le_iff context.prec_pos).mpr hlt
    rw [log_magnitude hzero]
    omega
  obtain ⟨k, hk⟩ := zpow_eq_ulp_mul htiny hlog
  refine (toGrid_eq_self_iff (context.ulp_pos _)).mpr ⟨int * k, ?_⟩
  calc magnitude int exp = int * (context.ulp (magnitude int exp) * k) := by rw [← hk]; rfl
    _ = context.ulp (magnitude int exp) * ((int * k : ℤ) : ℚ) := by
        push_cast
        ring

/-- A magnitude is not rounded below its first digit. -/
theorem zpow_le_round {x : ℚ} {k : ℤ} (hk : context.Etiny ≤ k) (h : 10 ^ k ≤ x) :
    10 ^ k ≤ context.round x := by
  have hpos : 0 < x := lt_of_lt_of_le (by positivity) h
  have hlog : k ≤ Int.log 10 x := (Int.zpow_le_iff_le_log (b := 10) (by norm_num) hpos).mp h
  have hprec := context.prec_pos
  obtain ⟨n, hn⟩ := zpow_eq_ulp_mul (x := x) (hk.trans hlog) (by omega)
  have hself : (10 : ℚ) ^ Int.log 10 x ≤ x := Int.zpow_log_le_self (b := 10) (by norm_num) hpos
  calc (10 : ℚ) ^ k ≤ 10 ^ Int.log 10 x := zpow_le_zpow_right₀ (by norm_num) hlog
    _ ≤ context.round x := by
        rw [hn] at hself ⊢
        exact mul_le_toGrid (context.ulp_pos x) hself

theorem round_le_zpow {x : ℚ} {k : ℤ} (hk : context.Etiny ≤ k) (hpos : 0 < x) (h : x < 10 ^ k) :
    context.round x ≤ 10 ^ k := by
  have hlog : Int.log 10 x < k := (Int.lt_zpow_iff_log_lt (b := 10) (by norm_num) hpos).mp h
  have hprec := context.prec_pos
  obtain ⟨n, hn⟩ := zpow_eq_ulp_mul (x := x) hk (by omega)
  rw [hn] at h ⊢
  exact toGrid_le_mul (context.ulp_pos x) h.le

theorem Etiny_le_Emax (context : Context) : context.Etiny ≤ context.Emax := by
  have := context.Emin_nonpos
  have := context.Emax_nonneg
  have := context.prec_pos
  unfold Context.Etiny
  omega

/-- What overflows can be told from the rounded value. -/
theorem overflows_iff_le_round {x : ℚ} (hpos : 0 < x) :
    context.Overflows x ↔ (10 : ℚ) ^ (context.Emax + 1) ≤ context.round x := by
  have hEmax := Etiny_le_Emax context
  rcases lt_trichotomy (Int.log 10 x) context.Emax with hbelow | htop | habove
  · have hlt : x < 10 ^ context.Emax :=
      (Int.lt_zpow_iff_log_lt (b := 10) (by norm_num) hpos).mpr hbelow
    refine iff_of_false (not_overflows_of_lt hlt) (not_le.mpr ?_)
    exact (round_le_zpow hEmax hpos hlt).trans_lt (zpow_lt_zpow_right₀ (by norm_num) (by omega))
  · have hulp : context.ulp x = 10 ^ context.Etop := by
      rw [Context.ulp, htop, max_eq_left]
      · rfl
      · exact Etiny_le_Etop context
    rw [overflows_iff_of_top, Context.round, hulp, zpow_Emax_add_one, toGrid, mul_comm (10 ^ _),
      mul_le_mul_iff_right₀ (by positivity), ← Int.cast_le (R := ℚ)]
    push_cast
    rfl
  · have hle : (10 : ℚ) ^ (context.Emax + 1) ≤ x :=
      (Int.zpow_le_iff_le_log (b := 10) (by norm_num) hpos).mpr habove
    refine iff_of_true (hle.trans (le_add_of_nonneg_right (by positivity))) ?_
    exact zpow_le_round (by omega) hle

/-! ## Comparison -/

/-- The value of a finite number. -/
def ratio (sign : Bool) (int : ℕ) (exp : ℤ) : ℚ :=
  if sign then -magnitude int exp else magnitude int exp

@[simp] theorem ratio_zero (sign : Bool) (exp : ℤ) : ratio sign 0 exp = 0 := by
  rw [ratio, magnitude_zero, neg_zero, ite_self]

theorem ratio_nonneg_iff : 0 ≤ ratio sign int exp ↔ sign = false ∨ int = 0 := by
  cases sign with
  | false => simp [ratio, magnitude_nonneg]
  | true =>
      rw [ratio, if_pos rfl, Left.nonneg_neg_iff]
      constructor
      · intro hle
        right
        by_contra hne
        exact absurd (magnitude_pos hne exp) (not_lt.mpr hle)
      · rintro (h | rfl)
        · cases h
        · rw [magnitude_zero]

/-- At a common exponent the coefficients are the values. -/
theorem signed_eq_ratio_div (sign : Bool) (int : ℕ) {common : ℤ} (h : common ≤ exp) :
    ((signed sign (int * 10 ^ (exp - common).toNat) : ℤ) : ℚ) = ratio sign int exp / 10 ^ common := by
  unfold signed ratio
  cases sign with
  | false => exact (magnitude_div h).symm
  | true =>
      rw [if_pos rfl, if_pos rfl, neg_div, magnitude_div h]
      push_cast
      rfl

theorem cmp_finite (sign : Bool) (int : ℕ) (exp : ℤ) (sign' : Bool) (int' : ℕ) (exp' : ℤ) :
    cmp (.finite sign int exp) (.finite sign' int' exp') =
      some (compare (ratio sign int exp) (ratio sign' int' exp')) := by
  have hpos : (0 : ℚ) < 10 ^ min exp exp' := by positivity
  have hmono : StrictMono fun n : ℤ => (n : ℚ) * 10 ^ min exp exp' :=
    fun a b hlt => mul_lt_mul_of_pos_right (Int.cast_lt.mpr hlt) hpos
  have hleft := signed_eq_ratio_div sign int (min_le_left exp exp')
  have hright := signed_eq_ratio_div sign' int' (min_le_right exp exp')
  rw [eq_div_iff hpos.ne'] at hleft hright
  unfold cmp
  dsimp only
  rw [← hleft, ← hright, ← cmp_eq_compare, ← cmp_eq_compare]
  exact congrArg some (hmono.cmp_map_eq _ _).symm

theorem lt_finite (sign : Bool) (int : ℕ) (exp : ℤ) (sign' : Bool) (int' : ℕ) (exp' : ℤ) :
    lt (.finite sign int exp) (.finite sign' int' exp') =
      .ok (decide (ratio sign int exp < ratio sign' int' exp')) := by
  rw [lt, cmp_finite]
  refine congrArg Except.ok (Bool.eq_iff_iff.mpr ?_)
  rw [beq_iff_eq, decide_eq_true_eq, compare_lt_iff_lt]

theorem ne_finite (sign : Bool) (int : ℕ) (exp : ℤ) (sign' : Bool) (int' : ℕ) (exp' : ℤ) :
    ne (.finite sign int exp) (.finite sign' int' exp') =
      .ok (decide (ratio sign int exp ≠ ratio sign' int' exp')) := by
  change Except.ok (cmp _ _ != some .eq) = _
  rw [cmp_finite]
  refine congrArg Except.ok (Bool.eq_iff_iff.mpr ?_)
  rw [bne_iff_ne, decide_eq_true_eq, Ne, Option.some_inj, compare_eq_iff_eq]

/-! ## Integers -/

/-- How often a place goes into a magnitude. -/
theorem floor_magnitude_div (int : ℕ) (exp place : ℤ) :
    ⌊magnitude int exp / 10 ^ place⌋ = (rescale int exp place ROUND_DOWN : ℤ) := by
  unfold rescale
  split_ifs with hint hplace
  · rw [hint, magnitude_zero, zero_div, Int.floor_zero, Nat.cast_zero]
  · rw [magnitude_div hplace, Int.floor_intCast]
  · have hdiv : magnitude int exp / 10 ^ place =
        (int : ℚ) / ((10 ^ (place - exp).toNat : ℕ) : ℚ) := by
      have hpos : (10 : ℚ) ^ exp ≠ 0 := by positivity
      rw [← zpow_div_zpow (not_le.mp hplace).le, magnitude]
      field_simp
    rw [hdiv, Rat.floor_natCast_div_natCast, ROUND_DOWN, Int.natCast_ediv]

/-- `int(d)` drops what is behind the point. -/
theorem int_finite (sign : Bool) (int : ℕ) (exp : ℤ) : Decimal.int (.finite sign int exp) =
    .ok (if sign then -⌊magnitude int exp⌋ else ⌊magnitude int exp⌋) := by
  have hfloor : ⌊magnitude int exp⌋ =
      ((if 0 ≤ exp then int * 10 ^ exp.toNat else int / 10 ^ (-exp).toNat : ℕ) : ℤ) := by
    have h := floor_magnitude_div int exp 0
    rw [zpow_zero, div_one, rescale, sub_zero, zero_sub] at h
    rw [h]
    split_ifs with hint <;> simp [ROUND_DOWN, *]
  rw [hfloor]
  by_cases hexp : 0 ≤ exp
  · rw [if_pos hexp]
    exact if_pos hexp
  · rw [if_neg hexp]
    exact if_neg hexp

theorem to_integral_value_finite (sign : Bool) (int : ℕ) (exp : ℤ) :
    ∃ int' exp', to_integral_value (.finite sign int exp) = .ok (.finite sign int' exp') ∧
      magnitude int' exp' = halfEven (magnitude int exp) := by
  have hzero : magnitude int exp = magnitude int exp / 10 ^ (0 : ℤ) := by
    rw [zpow_zero, div_one]
  unfold to_integral_value
  dsimp only
  by_cases hexp : 0 ≤ exp
  · refine ⟨int, exp, if_pos hexp, ?_⟩
    rw [hzero, magnitude_div hexp, halfEven_intCast]
  · refine ⟨rescale int exp 0 ROUND_HALF_EVEN, 0, if_neg hexp, ?_⟩
    unfold rescale
    by_cases hint : int = 0
    · subst hint
      have hhalf : halfEven (0 : ℚ) = 0 := by exact_mod_cast halfEven_intCast (R := ℚ) 0
      rw [if_pos rfl, magnitude_zero, magnitude_zero, hhalf, Int.cast_zero]
    · have hround : halfEven (magnitude int exp / 10 ^ (0 : ℤ)) = _ :=
        halfEven_magnitude (not_le.mp hexp).le
      rw [← hzero] at hround
      rw [if_neg hint, if_neg hexp, hround, magnitude, zpow_zero, mul_one, Int.cast_natCast]

/-! ## `quantize` -/

/-- A small number at a place within the range is left as it is. -/
theorem fix_of_lt (hlt : int < 10 ^ context.prec) (htiny : context.Etiny ≤ exp)
    (htop : exp ≤ context.Etop) : fix context sign int exp = .ok (.finite sign int exp) := by
  have hlen : len int ≤ context.prec := (len_le_iff context.prec_pos).mpr hlt
  by_cases hzero : int = 0
  · have hEmax : exp ≤ context.Emax := by
      have := context.prec_pos
      rw [Context.Etop] at htop
      omega
    rw [fix, if_pos hzero, max_eq_left htiny, min_eq_left hEmax, hzero]
    rfl
  · exact fix_of_fits hzero hlen htiny (by omega)

/-- A number with the last digit at a place. It must have no more digits than the context has room
for; what is behind the place is dropped. -/
theorem quantize_down_spec {target : ℤ} (htiny : context.Etiny ≤ target)
    (htop : target ≤ context.Etop) :
    (10 ^ (target + context.prec) ≤ magnitude int exp →
      quantize context target ROUND_DOWN (.finite sign int exp) = .error .InvalidOperation) ∧
    (magnitude int exp < 10 ^ (target + context.prec) →
      quantize context target ROUND_DOWN (.finite sign int exp) =
        .ok (.finite sign ⌊magnitude int exp / 10 ^ target⌋.toNat target)) := by
  have hprec := context.prec_pos
  have hEmax : target + context.prec ≤ context.Emax + 1 := by
    rw [Context.Etop] at htop
    omega
  have hrange : ¬ (target < context.Etiny ∨ context.Emax < target) := by omega
  rw [floor_magnitude_div, Int.toNat_natCast]
  unfold quantize
  dsimp only
  rw [if_neg hrange]
  constructor
  · intro hle
    have hzero : int ≠ 0 := by
      rintro rfl
      rw [magnitude_zero] at hle
      exact absurd hle (not_le.mpr (by positivity))
    have hlog := (Int.zpow_le_iff_le_log (b := 10) (by norm_num) (magnitude_pos hzero exp)).mp hle
    rw [log_magnitude hzero] at hlog
    rw [if_neg hzero, if_pos (.inr (by omega))]
    rfl
  · intro hlt
    by_cases hzero : int = 0
    · rw [if_pos hzero, fix_of_lt (by positivity) htiny htop, rescale, if_pos hzero]
    have hlog := (Int.lt_zpow_iff_log_lt (b := 10) (by norm_num) (magnitude_pos hzero exp)).mp hlt
    rw [log_magnitude hzero] at hlog
    have hcoeff : rescale int exp target ROUND_DOWN < 10 ^ context.prec := by
      have hdiv : magnitude int exp / 10 ^ target < ((10 ^ context.prec : ℕ) : ℤ) := by
        rw [div_lt_iff₀ (by positivity)]
        push_cast
        rwa [← zpow_natCast, ← zpow_add₀ (by norm_num), add_comm]
      have hfloor := Int.floor_lt.mpr hdiv
      rw [floor_magnitude_div] at hfloor
      exact_mod_cast hfloor
    have hlen := (len_le_iff hprec).mpr hcoeff
    rw [if_neg hzero, if_neg (by omega), if_neg (by omega), fix_of_lt hcoeff htiny htop]

end Decimal

end Superorganism.Py
