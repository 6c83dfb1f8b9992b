/-
The division of `decimal` is correctly rounded.

The quotient of the coefficients has one digit more than the precision at least. If the division
leaves a remainder, the last digit of the quotient is made one that is no multiple of five. No
midpoint of the rounding is then between the quotient and the exact ratio: the midpoints are
multiples of five at this place. So `_fix` rounds the quotient to what it would make of the ratio
(`div_spec`).
-/
import Superorganism.DecimalRounding

set_option autoImplicit false

open Superorganism.Rounding

namespace Superorganism.Py.Decimal

variable {context : Context} {int int' : ℕ} {exp exp' : ℤ}

/-! ## Zeros at the end -/

theorem magnitude_stripZeros (n coeff : ℕ) (exp : ℤ) :
    magnitude (stripZeros n coeff exp).1 (stripZeros n coeff exp).2 = magnitude coeff exp := by
  induction n generalizing coeff exp with
  | zero => rfl
  | succ n ih =>
      rw [stripZeros]
      split_ifs with hten
      · have hcoeff : coeff = coeff / 10 * 10 ^ 1 := by omega
        rw [ih, ← Nat.cast_one, ← magnitude_mul_pow, ← hcoeff]
      · rfl

/-! ## No midpoint in between -/

/-- Midpoints at a higher place are multiples of five. -/
theorem midpoint_eq {place : ℤ} (h : exp + 1 ≤ place) (k : ℤ) :
    ∃ j : ℤ, (10 : ℚ) ^ place * k + 10 ^ place / 2 = ((5 * j : ℤ) : ℚ) * 10 ^ exp := by
  refine ⟨10 ^ (place - (exp + 1)).toNat * (2 * k + 1), ?_⟩
  have hdiv := zpow_div_zpow h
  rw [div_eq_iff (by positivity), zpow_add_one₀ (by norm_num)] at hdiv
  rw [hdiv]
  push_cast
  ring

/-- The unit of a value with so many digits before the place. -/
theorem ulp_mul_zpow {n : ℕ} {y : ℚ} (hlow : 10 ^ n ≤ y) (hhigh : y < 10 ^ (n + 1)) (exp : ℤ) :
    context.ulp (y * 10 ^ exp) = 10 ^ max (n + 1 + exp - context.prec) context.Etiny := by
  have hten : (0 : ℚ) < 10 ^ exp := by positivity
  have hpos : 0 < y * 10 ^ exp := mul_pos (lt_of_lt_of_le (by positivity) hlow) hten
  have hge : n + exp ≤ Int.log 10 (y * 10 ^ exp) := by
    rw [← Int.zpow_le_iff_le_log (by norm_num) hpos]
    push_cast
    rw [zpow_add₀ (by norm_num), zpow_natCast]
    exact mul_le_mul_of_nonneg_right hlow hten.le
  have hlt : Int.log 10 (y * 10 ^ exp) < n + 1 + exp := by
    rw [← Int.lt_zpow_iff_log_lt (by norm_num) hpos]
    push_cast
    rw [zpow_add₀ (by norm_num), ← Nat.cast_one, ← Nat.cast_add, zpow_natCast]
    exact mul_lt_mul_of_pos_right hhigh hten
  rw [Context.ulp]
  congr 2
  omega

/-- A ratio and its quotient with the last digit changed are rounded to the same. -/
theorem round_sticky {coeff : ℕ} {y : ℚ} (hlow : (coeff : ℚ) < y) (hhigh : y < coeff + 1)
    (hlen : context.prec < len coeff) (exp : ℤ) :
    context.round (magnitude (if coeff % 5 = 0 then coeff + 1 else coeff) exp) =
      context.round (y * 10 ^ exp) := by
  obtain ⟨n, hn⟩ := Nat.exists_eq_succ_of_ne_zero (len_pos coeff).ne'
  have hcoeff : coeff ≠ 0 := by
    rintro rfl
    have := context.prec_pos
    rw [show len 0 = 1 from rfl] at hlen
    omega
  have hmin : 10 ^ n ≤ coeff := by
    have h := pow_len_le hcoeff
    rwa [hn, Nat.succ_sub_one] at h
  have hmax : coeff < 10 ^ (n + 1) := by
    have h := lt_pow_len coeff
    rwa [hn] at h
  have hten : (0 : ℚ) < 10 ^ exp := by positivity
  -- the last digit stays below the next power of ten, which is a multiple of five
  have hsticky : (if coeff % 5 = 0 then coeff + 1 else coeff) < 10 ^ (n + 1) := by
    split_ifs with hfive
    · have : (10 : ℕ) ^ (n + 1) % 5 = 0 := by
        rw [pow_succ, Nat.mul_mod]
        simp
      omega
    · exact hmax
  have hulp : context.ulp (y * 10 ^ exp) =
      10 ^ max (n + 1 + exp - context.prec) context.Etiny := by
    refine ulp_mul_zpow ?_ ?_ exp
    · exact (by exact_mod_cast hmin : (10 : ℚ) ^ n ≤ coeff).trans hlow.le
    · exact hhigh.trans_le (by exact_mod_cast hmax)
  have hulp' : context.ulp (magnitude (if coeff % 5 = 0 then coeff + 1 else coeff) exp) =
      10 ^ max (n + 1 + exp - context.prec) context.Etiny := by
    refine ulp_mul_zpow ?_ (by exact_mod_cast hsticky) exp
    have hle : 10 ^ n ≤ if coeff % 5 = 0 then coeff + 1 else coeff := by
      split_ifs <;> omega
    exact_mod_cast hle
  have hplace : exp + 1 ≤ max (n + 1 + exp - context.prec) context.Etiny := by
    rw [hn] at hlen
    exact le_max_of_le_left (by omega)
  rw [Context.round, Context.round, hulp, hulp']
  generalize max ((n : ℤ) + 1 + exp - context.prec) context.Etiny = place at hplace ⊢
  rw [magnitude]
  -- a midpoint between the two would be a multiple of five there
  split_ifs with hfive
  · refine (toGrid_congr (by positivity) ?_ fun k => ?_).symm
    · push_cast
      exact mul_le_mul_of_nonneg_right hhigh.le hten.le
    · obtain ⟨j, hj⟩ := midpoint_eq hplace k
      rw [hj, mul_le_mul_iff_left₀ hten, mul_le_mul_iff_left₀ hten]
      intro hy hnext
      have hgt : (coeff : ℚ) < ((5 * j : ℤ) : ℚ) := hlow.trans_le hy
      have hgt : (coeff : ℤ) < 5 * j := by exact_mod_cast hgt
      have hle : 5 * j ≤ (coeff : ℤ) + 1 := by exact_mod_cast hnext
      omega
  · refine toGrid_congr (by positivity) ?_ fun k => ?_
    · exact mul_le_mul_of_nonneg_right hlow.le hten.le
    · obtain ⟨j, hj⟩ := midpoint_eq hplace k
      rw [hj, mul_le_mul_iff_left₀ hten, mul_le_mul_iff_left₀ hten]
      intro hcoeff hy
      have hlt : ((5 * j : ℤ) : ℚ) < coeff + 1 := hy.trans_lt hhigh
      have hlt : 5 * j < (coeff : ℤ) + 1 := by exact_mod_cast hlt
      have hge : (coeff : ℤ) ≤ 5 * j := by exact_mod_cast hcoeff
      omega

/-! ## The quotient -/

theorem divisor_pos (hint' : int' ≠ 0) (shift : ℤ) : 0 < divisor int' shift := by
  have := Nat.pos_of_ne_zero hint'
  unfold divisor
  split_ifs <;> positivity

/-- They are the ratio at the place the quotient gets. -/
theorem dividend_div_divisor (hint' : int' ≠ 0) (shift : ℤ) :
    (dividend int shift : ℚ) / divisor int' shift * 10 ^ (exp - exp' - shift) =
      magnitude int exp / magnitude int' exp' := by
  have hint' : (int' : ℚ) ≠ 0 := Nat.cast_ne_zero.mpr hint'
  have hratio : magnitude int exp / magnitude int' exp' =
      (int : ℚ) / int' * 10 ^ (exp - exp' - shift) * 10 ^ shift := by
    rw [magnitude, magnitude, mul_assoc, ← zpow_add₀ (by norm_num), sub_add_cancel,
      zpow_sub₀ (by norm_num), mul_div_mul_comm]
  rw [hratio]
  unfold dividend divisor
  split_ifs with hshift
  · have hpow : (10 : ℚ) ^ shift = 10 ^ shift.toNat := by
      rw [← zpow_natCast, Int.toNat_of_nonneg hshift]
    rw [hpow]
    push_cast
    ring
  · have hpow : (10 : ℚ) ^ shift = (10 ^ (-shift).toNat)⁻¹ := by
      rw [← zpow_natCast, ← zpow_neg, Int.toNat_of_nonneg (by omega), neg_neg]
    rw [hpow]
    push_cast
    field_simp

/-- The operands are shifted so far that the quotient has a digit more than the precision. -/
theorem prec_lt_len (hint : int ≠ 0) (hint' : int' ≠ 0) {shift : ℤ}
    (hshift : shift = len int' - len int + context.prec + 1) :
    context.prec < len (dividend int shift / divisor int' shift) := by
  have hmin := pow_len_le hint
  have hpos := len_pos int
  have hmax := (lt_pow_len int').le
  have hle : 10 ^ context.prec * divisor int' shift ≤ dividend int shift := by
    unfold dividend divisor
    split_ifs with hnonneg
    · calc 10 ^ context.prec * int' ≤ 10 ^ context.prec * 10 ^ len int' :=
            Nat.mul_le_mul_left _ hmax
        _ = 10 ^ (len int - 1) * 10 ^ shift.toNat := by
            rw [← pow_add, ← pow_add]
            congr 1
            omega
        _ ≤ int * 10 ^ shift.toNat := Nat.mul_le_mul_right _ hmin
    · calc 10 ^ context.prec * (int' * 10 ^ (-shift).toNat)
          ≤ 10 ^ context.prec * (10 ^ len int' * 10 ^ (-shift).toNat) :=
            Nat.mul_le_mul_left _ (Nat.mul_le_mul_right _ hmax)
        _ = 10 ^ (len int - 1) := by
            rw [← pow_add, ← pow_add]
            congr 1
            omega
        _ ≤ int := hmin
  refine not_le.mp fun hlen => ?_
  rw [len_le_iff context.prec_pos, Nat.div_lt_iff_lt_mul (divisor_pos hint' shift)] at hlen
  exact absurd hle (not_le.mpr hlen)

/-- The quotient is rounded to what the ratio is. -/
theorem round_quotient (context : Context) (hint : int ≠ 0) (hint' : int' ≠ 0) (exp exp' : ℤ) :
    let q := quotient context int exp int' exp'
    q.1 ≠ 0 ∧ context.round (magnitude q.1 q.2) =
      context.round (magnitude int exp / magnitude int' exp') := by
  unfold quotient
  rw [if_neg hint]
  dsimp only
  generalize hshift : (len int' : ℤ) - len int + context.prec + 1 = shift
  have hlen := prec_lt_len hint hint' hshift.symm
  have hcoeff : dividend int shift / divisor int' shift ≠ 0 := by
    intro hzero
    have := context.prec_pos
    rw [hzero, show len 0 = 1 from rfl] at hlen
    omega
  have hdivisor : (0 : ℚ) < divisor int' shift := by exact_mod_cast divisor_pos hint' shift
  have hsplit : (dividend int shift : ℚ) / divisor int' shift =
      (dividend int shift / divisor int' shift : ℕ) +
        (dividend int shift % divisor int' shift : ℕ) / (divisor int' shift : ℚ) := by
    field_simp
    exact_mod_cast (Nat.div_add_mod (dividend int shift) (divisor int' shift)).symm
  rw [← dividend_div_divisor hint' shift]
  by_cases hrem : dividend int shift % divisor int' shift = 0
  · rw [if_neg (not_not.mpr hrem), magnitude_stripZeros, hsplit, hrem, Nat.cast_zero, zero_div,
      add_zero]
    refine ⟨fun hzero => ?_, rfl⟩
    have hmagnitude := magnitude_stripZeros shift.toNat (dividend int shift / divisor int' shift)
      (exp - exp' - shift)
    rw [hzero, magnitude_zero] at hmagnitude
    exact (magnitude_pos hcoeff _).ne hmagnitude
  · rw [if_pos hrem]
    have hrem : 0 < dividend int shift % divisor int' shift := Nat.pos_of_ne_zero hrem
    have hlow : (0 : ℚ) < (dividend int shift % divisor int' shift : ℕ) / (divisor int' shift : ℚ) :=
      div_pos (by exact_mod_cast hrem) hdivisor
    have hhigh : ((dividend int shift % divisor int' shift : ℕ) : ℚ) / divisor int' shift < 1 := by
      rw [div_lt_one hdivisor]
      exact_mod_cast Nat.mod_lt _ (divisor_pos hint' shift)
    refine ⟨?_, round_sticky (by linarith) (by linarith) hlen _⟩
    dsimp only
    split_ifs <;> omega

/-- What overflows is the same for the quotient and the ratio. -/
theorem quotient_spec (context : Context) (int : ℕ) (hint' : int' ≠ 0) (exp exp' : ℤ) :
    let q := quotient context int exp int' exp'
    let x := magnitude int exp / magnitude int' exp'
    (context.Overflows (magnitude q.1 q.2) ↔ context.Overflows x) ∧
      context.round (magnitude q.1 q.2) = context.round x := by
  intro q x
  by_cases hint : int = 0
  · have hq : q = (0, exp - exp') := if_pos hint
    have hx : x = 0 := by
      change magnitude int exp / _ = 0
      rw [hint, magnitude_zero, zero_div]
    rw [hq, magnitude_zero, hx]
    exact ⟨Iff.rfl, rfl⟩
  · obtain ⟨hne, hround⟩ := round_quotient context hint hint' exp exp'
    have hx : 0 < x := div_pos (magnitude_pos hint exp) (magnitude_pos hint' exp')
    have hq : 0 < magnitude q.1 q.2 := magnitude_pos hne q.2
    rw [overflows_iff_le_round hq, overflows_iff_le_round hx]
    exact ⟨by rw [hround], hround⟩

/-- **The division of finite numbers is correctly rounded.** -/
theorem div_spec (context : Context) (sign sign' : Bool) (int : ℕ) (hint' : int' ≠ 0)
    (exp exp' : ℤ) :
    let x := magnitude int exp / magnitude int' exp'
    let ratio := div context (.finite sign int exp) (.finite sign' int' exp')
    (context.Overflows x ∧ ratio = .error .Overflow) ∨
    (¬ context.Overflows x ∧ ∃ quotient exponent,
      ratio = .ok (.finite (sign ^^ sign') quotient exponent) ∧
      magnitude quotient exponent = context.round x) := by
  intro x ratio
  obtain ⟨hover, hround⟩ := quotient_spec context int hint' exp exp'
  have hratio : ratio = fix context (sign ^^ sign') (quotient context int exp int' exp').1
      (quotient context int exp int' exp').2 := if_neg hint'
  have hfix := fix_spec context (sign ^^ sign') (quotient context int exp int' exp').1
    (quotient context int exp int' exp').2
  rw [← hratio, hround, hover] at hfix
  exact hfix

end Superorganism.Py.Decimal
