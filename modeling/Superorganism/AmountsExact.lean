/-
When the conversions to satoshis are exact, and when the two of them agree.

Both look at the product after it was rounded to 28 digits. `btc_value_to_sats` refuses a negative
value, and takes an integer as it is; `RpcVerifier._btc_to_sats` does neither: it takes the product
of a negative value, and the text of an integer, which is not made for one of more than 4300 digits.
-/
import Superorganism.Amounts
import Superorganism.DecimalText

set_option autoImplicit false

open Superorganism.Py Superorganism.Py.Decimal Superorganism.Rounding

namespace Superorganism.Bitcoin

/-! ## What is to hold -/

/-- The conversion of the value is exact: it returns the satoshis if they are a whole number, and
raises `ValueError` otherwise. -/
def ConvertsExactly (btc_value : BtcValue) (value : ℚ) : Prop :=
  (∀ n : ℤ, btc_value_to_sats btc_value = .ok n ↔ value * 10 ^ 8 = n) ∧
  ((¬ ∃ n : ℤ, value * 10 ^ 8 = n) →
    ∃ message, btc_value_to_sats btc_value = .error (.ValueError message))

/-- Both conversions return the same of the value, or neither returns. -/
def Agree (repr : BtcValue → String) (btc_value : BtcValue) : Prop :=
  ∀ n : ℤ, _btc_to_sats repr btc_value = .ok n ↔ btc_value_to_sats btc_value = .ok n

/-! ## When it holds -/

/-- The product is not changed by rounding. -/
def FitsContext (product : ℚ) : Prop := ∃ k : ℤ, product = DefaultContext.ulp product * k

/-- The product is rounded, but not to a whole number. -/
def FarFromIntegers (product : ℚ) : Prop :=
  ∀ n : ℤ, DefaultContext.ulp product / 2 < |product - n|

theorem rounds_exactly_iff (product : ℚ) :
    (∀ n : ℤ, DefaultContext.round product = n ↔ product = n) ↔
      FitsContext product ∨ FarFromIntegers product :=
  toGrid_int_exact_iff (DefaultContext.ulp_pos product) (DefaultContext.fits_ulp product)

theorem not_exists_round_iff (product : ℚ) :
    (¬ ∃ n : ℤ, DefaultContext.round product = n) ↔ FarFromIntegers product := by
  have hexists := exists_toGrid_eq_int_iff (x := product) (DefaultContext.ulp_pos product)
    (DefaultContext.fits_ulp product)
  unfold Context.round FarFromIntegers
  rw [hexists, not_exists]
  exact forall_congr' fun n => not_le

/-! ## Exactness -/

theorem convertsExactly_iff {btc_value : BtcValue} {value : ℚ} (hbool : ∀ b, btc_value ≠ .bool b)
    (hvalue : Denotes btc_value value) (hnonneg : 0 ≤ value) :
    ConvertsExactly btc_value value ↔ ¬ DefaultContext.Overflows (value * 10 ^ 8) ∧
      (FitsContext (value * 10 ^ 8) ∨ FarFromIntegers (value * 10 ^ 8)) := by
  obtain ⟨sign, int, exp, hdecimal, rfl⟩ := hvalue
  have hsats := decimal_to_sats_of_nonneg hnonneg
  dsimp only at hsats
  rw [← btc_value_to_sats_of_ok hdecimal hbool] at hsats
  unfold ConvertsExactly
  rw [← rounds_exactly_iff]
  -- from here on the product is any number
  generalize ratio sign int exp * 10 ^ 8 = product at hsats ⊢
  rcases hsats with ⟨hover, herror⟩ | ⟨hover, ⟨n, hround, hok⟩ | ⟨hnone, herror⟩⟩
  · -- `Overflow` is neither a number nor a `ValueError`
    rw [herror]
    refine iff_of_false ?_ fun h => h.1 hover
    rintro ⟨hexact, hvalue⟩
    by_cases hint : ∃ n : ℤ, product = n
    · obtain ⟨n, hn⟩ := hint
      exact absurd ((hexact n).mpr hn) nofun
    · obtain ⟨message, hmessage⟩ := hvalue hint
      cases hmessage
  · -- the rounded product is an integer, and returned
    rw [hok]
    have hreturns (m : ℤ) : (Except.ok n : Except PyError ℤ) = .ok m ↔
        DefaultContext.round product = m := by
      rw [Except.ok.injEq, hround, Int.cast_inj]
    constructor
    · rintro ⟨hexact, -⟩
      exact ⟨hover, fun m => (hreturns m).symm.trans (hexact m)⟩
    · rintro ⟨-, hexact⟩
      exact ⟨fun m => (hreturns m).trans (hexact m),
        fun hint => absurd ⟨n, (hexact n).mp hround⟩ hint⟩
  · rw [herror]
    constructor
    · rintro ⟨hexact, -⟩
      refine ⟨hover, fun m => ?_⟩
      exact iff_of_false (fun h => hnone ⟨m, h⟩) fun h => nomatch (hexact m).mpr h
    · rintro ⟨-, hexact⟩
      refine ⟨fun m => iff_of_false nofun fun h => hnone ⟨m, (hexact m).mpr h⟩, fun _ => ⟨_, rfl⟩⟩

/-! ## Agreement -/

section Verifier

variable {repr : BtcValue → String} {btc_value : BtcValue}

/-- What the verifier returns is the product of the number that the text denotes. -/
theorem verifier_eq_ok_iff {text : String} (htext : verifier_text repr btc_value = .ok text)
    {n : ℤ} : _btc_to_sats repr btc_value = .ok n ↔
      (ofStr text >>= fun value => value.mul DefaultContext SATOSHIS_PER_BTC >>= integral_sats
        s!"BTC amount is not representable in satoshis: {repr btc_value}") = .ok n := by
  have hproduct : (ofStr text >>= fun value => value.mul DefaultContext SATOSHIS_PER_BTC >>=
      integral_sats s!"BTC amount is not representable in satoshis: {repr btc_value}") =
      verifier_product text >>= integral_sats
        s!"BTC amount is not representable in satoshis: {repr btc_value}" := by
    rw [verifier_product, bind_assoc]
  rw [hproduct, _btc_to_sats, htext]
  dsimp only
  cases verifier_product text with
  | ok sats_decimal => exact Iff.rfl
  | error e => cases e <;> exact iff_of_false nofun nofun

theorem not_returns_of_not_finite {value : Decimal} (h : value.is_finite = false)
    (message : String) (n : ℤ) :
    (value.mul DefaultContext SATOSHIS_PER_BTC >>= integral_sats message) ≠ .ok n := by
  cases value with
  | finite sign int exp => cases h
  | infinity sign => cases sign <;> exact nofun
  | nan signaling => cases signaling <;> exact nofun

/-- What is returned does not depend on the message. -/
theorem product_eq_ok_iff (message : String) (sign : Bool) (int : ℕ) (exp : ℤ) (m : ℤ) :
    (Decimal.finite sign int exp).mul DefaultContext SATOSHIS_PER_BTC >>= integral_sats message =
      .ok m ↔ ¬ DefaultContext.Overflows (magnitude int exp * 10 ^ 8) ∧
        ∃ n : ℤ, DefaultContext.round (magnitude int exp * 10 ^ 8) = n ∧
          (if sign then -n else n) = m := by
  rcases product_finite message sign int exp with
    ⟨hover, herror⟩ | ⟨hover, ⟨n, hn, hok⟩ | ⟨hnone, herror⟩⟩
  · rw [herror]
    exact iff_of_false nofun fun h => h.1 hover
  · rw [hok, Except.ok.injEq]
    constructor
    · intro hm
      exact ⟨hover, n, hn, hm⟩
    · rintro ⟨-, n', hn', hm⟩
      rw [← hm, Int.cast_inj.mp (hn.symm.trans hn')]
  · rw [herror]
    exact iff_of_false nofun fun ⟨_, n, hn, _⟩ => hnone ⟨n, hn⟩

/-- A finite value, however it came to be one: only the sign can make a difference. -/
theorem agree_iff_of_finite {text : String} {sign : Bool} {int : ℕ} {exp : ℤ}
    (htext : verifier_text repr btc_value = .ok text)
    (hread : ofStr text = .ok (.finite sign int exp))
    (hsats : btc_value_to_sats btc_value = decimal_to_sats (.finite sign int exp)) :
    Agree repr btc_value ↔ (ratio sign int exp < 0 →
      DefaultContext.Overflows (magnitude int exp * 10 ^ 8) ∨
      FarFromIntegers (magnitude int exp * 10 ^ 8)) := by
  have hverifier (n : ℤ) : _btc_to_sats repr btc_value = .ok n ↔
      (Decimal.finite sign int exp).mul DefaultContext SATOSHIS_PER_BTC >>= integral_sats
        s!"BTC amount is not representable in satoshis: {repr btc_value}" = .ok n := by
    rw [verifier_eq_ok_iff htext, hread, ok_bind]
  unfold Agree
  simp only [hverifier, hsats, decimal_to_sats_finite]
  rw [← not_exists_round_iff]
  by_cases hneg : ratio sign int exp < 0
  · -- the one raises, the other returns the integer that it finds
    simp only [if_pos hneg, product_eq_ok_iff]
    constructor
    · intro hagree _
      by_contra hreturns
      obtain ⟨hover, hsome⟩ := not_or.mp hreturns
      obtain ⟨n, hn⟩ := not_not.mp hsome
      cases (hagree _).mp ⟨hover, n, hn, rfl⟩
    · intro hnever n
      refine iff_of_false ?_ nofun
      rintro ⟨hover, k, hk, -⟩
      rcases hnever hneg with hyes | hnone
      · exact hover hyes
      · exact hnone ⟨k, hk⟩
  · simp only [if_neg hneg]
    refine iff_of_true (fun n => ?_) fun h => absurd h hneg
    rw [product_eq_ok_iff, product_eq_ok_iff]

theorem agree_of_error {text : String} {e e' : PyError}
    (htext : verifier_text repr btc_value = .ok text) (hread : ofStr text = .error e)
    (hsats : btc_value_to_sats btc_value = .error e') : Agree repr btc_value := by
  intro n
  rw [verifier_eq_ok_iff htext, hread, hsats]
  exact iff_of_false nofun nofun

theorem agree_of_not_finite {text : String} {value : Decimal}
    (htext : verifier_text repr btc_value = .ok text) (hread : ofStr text = .ok value)
    (hfinite : value.is_finite = false)
    (hsats : btc_value_to_sats btc_value = decimal_to_sats value) : Agree repr btc_value := by
  have herror : decimal_to_sats value = .error (.ValueError "Invalid BTC value.") := by
    refine if_pos ?_
    rw [hfinite]
    exact Bool.false_ne_true
  intro n
  rw [verifier_eq_ok_iff htext, hread, hsats, herror]
  exact iff_of_false (not_returns_of_not_finite hfinite _ n) nofun

theorem neg_ratio_eq {sign : Bool} {int : ℕ} {exp : ℤ} (h : ratio sign int exp < 0) :
    -ratio sign int exp = magnitude int exp := by
  cases sign with
  | false => exact absurd h (not_lt.mpr (magnitude_nonneg int exp))
  | true => exact neg_neg _

/-- Of a text the two make the same number. -/
theorem agree_str_iff (s : String) : Agree repr (.str s) ↔
    ∀ value < 0, Denotes (.str s) value → DefaultContext.Overflows (-value * 10 ^ 8) ∨
      FarFromIntegers (-value * 10 ^ 8) := by
  have htext : verifier_text repr (.str s) = .ok s := rfl
  cases hread : ofStr s with
  | error e =>
      have hdecimal : (BtcValue.str s).toDecimal = .error e := hread
      obtain ⟨e', hsats⟩ := btc_value_to_sats_of_error hdecimal
      refine iff_of_true (agree_of_error htext hread hsats) ?_
      rintro value - ⟨sign, int, exp, hfinite, -⟩
      cases hread.symm.trans hfinite
  | ok d =>
      have hsats := btc_value_to_sats_str hread
      cases d with
      | finite sign int exp =>
          rw [agree_iff_of_finite htext hread hsats]
          constructor
          · rintro h value hneg ⟨sign', int', exp', hdecimal, rfl⟩
            cases hread.symm.trans hdecimal
            rw [neg_ratio_eq hneg]
            exact h hneg
          · intro h hneg
            rw [← neg_ratio_eq hneg]
            exact h _ hneg ⟨sign, int, exp, hread, rfl⟩
      | infinity sign =>
          refine iff_of_true (agree_of_not_finite htext hread rfl hsats) ?_
          rintro value - ⟨sign', int', exp', hdecimal, -⟩
          cases hread.symm.trans hdecimal
      | nan signaling =>
          refine iff_of_true (agree_of_not_finite htext hread rfl hsats) ?_
          rintro value - ⟨sign', int', exp', hdecimal, -⟩
          cases hread.symm.trans hdecimal

theorem ratio_integer (n : ℤ) : ratio (decide (n < 0)) n.natAbs 0 = n := by
  have habs : magnitude n.natAbs 0 = |(n : ℚ)| := by
    rw [magnitude, zpow_zero, mul_one, Nat.cast_natAbs, Int.cast_abs]
  rw [ratio, habs]
  by_cases hneg : n < 0
  · rw [if_pos (decide_eq_true hneg), abs_of_neg (Int.cast_lt_zero.mpr hneg), neg_neg]
  · rw [if_neg (decide_eq_true_iff.not.mpr hneg)]
    exact abs_of_nonneg (Int.cast_nonneg (not_lt.mp hneg))

theorem not_farFromIntegers_integer (k : ℕ) : ¬ FarFromIntegers (magnitude k 0 * 10 ^ 8) := by
  intro hfar
  have hint : magnitude k 0 * 10 ^ 8 = ((k * 10 ^ 8 : ℤ) : ℚ) := by
    rw [magnitude, zpow_zero, mul_one]
    push_cast
    rfl
  have hlt := hfar (k * 10 ^ 8)
  rw [← hint, sub_self, abs_zero] at hlt
  exact absurd hlt (half_pos (DefaultContext.ulp_pos _)).not_gt

theorem magnitude_mul_satoshis (k : ℕ) : magnitude k 0 * 10 ^ 8 = magnitude k 8 := by
  rw [magnitude, magnitude, zpow_zero, mul_one]
  rfl

theorem int_ne_bool (n : ℤ) (b : Bool) : BtcValue.int n ≠ .bool b := by
  intro h
  cases h

/-- The text of an integer is its digits, so that there is a number if they are not too many. -/
theorem agree_int_of_len_le {n : ℤ} (hlen : len n.natAbs ≤ INT_MAX_STR_DIGITS) :
    Agree repr (.int n) ↔ 0 ≤ n := by
  have htext : verifier_text repr (.int n) = .ok (String.ofList
      ((if n < 0 then ['-'] else []) ++ Nat.toDigits 10 n.natAbs)) := if_neg (not_lt.mpr hlen)
  have hvalue : Decimal.ofInt n = .ok (.finite (decide (n < 0)) n.natAbs 0) :=
    exact_of_len (by decide) le_rfl (hlen.trans (by decide))
  have hread := (ofStr_integer n).trans hvalue
  have hsats : btc_value_to_sats (.int n) = decimal_to_sats _ :=
    btc_value_to_sats_of_ok hvalue (int_ne_bool n)
  -- 4300 digits are far from the exponent range
  have hover : ¬ DefaultContext.Overflows (magnitude n.natAbs 0 * 10 ^ 8) := by
    rw [magnitude_mul_satoshis]
    refine not_overflows_of_lt ((magnitude_lt _ 8).trans_le ?_)
    refine zpow_le_zpow_right₀ (by norm_num) ?_
    have hmax : (INT_MAX_STR_DIGITS : ℤ) + 8 ≤ DefaultContext.Emax := by decide
    omega
  rw [agree_iff_of_finite htext hread hsats, ratio_integer, Int.cast_lt_zero, ← not_lt]
  refine imp_congr_right fun _ => iff_false_intro ?_
  rintro (hyes | hfar)
  · exact hover hyes
  · exact not_farFromIntegers_integer _ hfar

/-- There is no text, but there is a value. -/
theorem agree_int_of_lt_len {n : ℤ} (hlen : INT_MAX_STR_DIGITS < len n.natAbs) :
    Agree repr (.int n) ↔ n < 0 ∨ DefaultContext.Overflows (n * 10 ^ 8) := by
  have hnever (m : ℤ) : _btc_to_sats repr (.int n) ≠ .ok m := by
    have htext : ∃ e, verifier_text repr (.int n) = .error e := ⟨_, if_pos hlen⟩
    obtain ⟨e, htext⟩ := htext
    rw [_btc_to_sats, htext]
    intro hok
    cases hok
  have hagree : Agree repr (.int n) ↔ ∀ m : ℤ, btc_value_to_sats (.int n) ≠ .ok m :=
    forall_congr' fun m => iff_false_left (hnever m)
  have hzero : n.natAbs ≠ 0 := by
    intro hzero
    rw [hzero] at hlen
    exact absurd hlen (by decide)
  have hmagnitude (hneg : ¬ n < 0) : (n : ℚ) = magnitude n.natAbs 0 := by
    have hratio := ratio_integer n
    rw [ratio, if_neg (decide_eq_true_iff.not.mpr hneg)] at hratio
    exact hratio.symm
  rw [hagree]
  rcases exact_or (.finite (decide (n < 0)) n.natAbs 0) with hvalue | hvalue
  · -- an integer is rounded to an integer, so that only the exponent range is left
    have hsats : btc_value_to_sats (.int n) = decimal_to_sats _ :=
      btc_value_to_sats_of_ok hvalue (int_ne_bool n)
    rw [hsats, decimal_to_sats_finite, ratio_integer]
    by_cases hneg : n < 0
    · rw [if_pos (Int.cast_lt_zero.mpr hneg)]
      refine iff_of_true ?_ (.inl hneg)
      intro m hok
      cases hok
    · rw [if_neg (Int.cast_lt_zero.not.mpr hneg), or_iff_right hneg, hmagnitude hneg]
      simp only [ne_eq, product_eq_ok_iff]
      have hsome := not_not.mp ((not_exists_round_iff _).not.mpr
        (not_farFromIntegers_integer n.natAbs))
      obtain ⟨k, hk⟩ := hsome
      constructor
      · intro h
        by_contra hover
        exact h _ ⟨hover, k, hk, rfl⟩
      · intro hyes m hreturns
        exact hreturns.1 hyes
  · -- beyond what the library represents
    have hdecimal : (BtcValue.int n).toDecimal = .error .InvalidOperation := hvalue
    obtain ⟨e, hsats⟩ := btc_value_to_sats_of_error hdecimal
    rw [hsats]
    refine iff_of_true ?_ (or_iff_not_imp_left.mpr fun hneg => ?_)
    · intro m hok
      cases hok
    rw [hmagnitude hneg, magnitude_mul_satoshis]
    have hlong : MAX_PREC < len n.natAbs := by
      by_contra hle
      rw [exact_of_len (by decide) le_rfl (not_lt.mp hle)] at hvalue
      cases hvalue
    have hmax : DefaultContext.Emax ≤ MAX_PREC := by decide
    refine le_trans ?_ (le_add_of_nonneg_right (by positivity))
    refine le_trans (zpow_le_zpow_right₀ (by norm_num) ?_) (le_magnitude hzero 8)
    omega

theorem agree_int_iff (n : ℤ) : Agree repr (.int n) ↔
    if len n.natAbs ≤ INT_MAX_STR_DIGITS then 0 ≤ n
    else n < 0 ∨ DefaultContext.Overflows (n * 10 ^ 8) := by
  split_ifs with hlen
  · exact agree_int_of_len_le hlen
  · exact agree_int_of_lt_len (not_le.mp hlen)

end Verifier

/-! ## The main result -/

/-- **When the conversions are exact and agree.** A conversion is exact if the product fits the
context, or is too far from every whole number to be rounded to one, and does not overflow. The
verifier returns the same of an integer that has a text unless it is negative, and of a text
unless it denotes a negative value with a product that is rounded to a whole number. -/
theorem conversions_exact_and_agree (repr : BtcValue → String) :
    (∀ btc_value value, (∀ b, btc_value ≠ .bool b) → Denotes btc_value value → 0 ≤ value →
      (ConvertsExactly btc_value value ↔ ¬ DefaultContext.Overflows (value * 10 ^ 8) ∧
        (FitsContext (value * 10 ^ 8) ∨ FarFromIntegers (value * 10 ^ 8)))) ∧
    (∀ n : ℤ, Agree repr (.int n) ↔ if len n.natAbs ≤ INT_MAX_STR_DIGITS then 0 ≤ n
      else n < 0 ∨ DefaultContext.Overflows (n * 10 ^ 8)) ∧
    ∀ s, Agree repr (.str s) ↔ ∀ value < 0, Denotes (.str s) value →
      DefaultContext.Overflows (-value * 10 ^ 8) ∨ FarFromIntegers (-value * 10 ^ 8) :=
  ⟨fun _ _ hbool hvalue hnonneg => convertsExactly_iff hbool hvalue hnonneg,
    agree_int_iff, agree_str_iff⟩

theorem fitsContext_of_lt {int : ℕ} {exp : ℤ} (hlt : int < 10 ^ DefaultContext.prec)
    (htiny : DefaultContext.Etiny ≤ exp) : FitsContext (magnitude int exp) :=
  (toGrid_eq_self_iff (DefaultContext.ulp_pos _)).mp (round_magnitude_of_lt hlt htiny)

/-- A fee of 0.0006, and an amount of 3. -/
theorem fee_converts_exactly :
    ConvertsExactly (.str "0.0006") (ratio false 6 (-4)) ∧ Agree (fun _ => "") (.int 3) := by
  have hproduct : ratio false 6 (-4) * 10 ^ 8 = magnitude 6 4 := by
    change magnitude 6 (-4) * 10 ^ 8 = magnitude 6 4
    norm_num [magnitude]
  have hover : ¬ DefaultContext.Overflows (ratio false 6 (-4) * 10 ^ 8) := by
    rw [hproduct]
    refine not_overflows_of_lt ((magnitude_lt 6 4).trans_le ?_)
    exact zpow_le_zpow_right₀ (by norm_num) (by decide)
  have hfits : FitsContext (ratio false 6 (-4) * 10 ^ 8) := by
    rw [hproduct]
    exact fitsContext_of_lt (by decide) (by decide)
  have hvalue : Denotes (.str "0.0006") (ratio false 6 (-4)) :=
    ⟨false, 6, -4, by decide +kernel, rfl⟩
  have hshort : len (Int.natAbs 3) ≤ INT_MAX_STR_DIGITS := by decide +kernel
  have hthree : (if len (Int.natAbs 3) ≤ INT_MAX_STR_DIGITS then 0 ≤ (3 : ℤ)
      else (3 : ℤ) < 0 ∨ DefaultContext.Overflows ((3 : ℤ) * 10 ^ 8)) := by
    rw [if_pos hshort]
    decide
  have hbool (b : Bool) : BtcValue.str "0.0006" ≠ .bool b := by
    intro h
    cases h
  have hall := conversions_exact_and_agree fun _ => ""
  exact ⟨(hall.1 (.str "0.0006") _ hbool hvalue (ratio_nonneg_iff.mpr (.inl rfl))).mpr
    ⟨hover, .inl hfits⟩, (hall.2.1 3).mpr hthree⟩

/-- Thirty zeros behind the point hide a digit, and the verifier takes a negative amount. -/
theorem hidden_digit_is_converted :
    Denotes (.str "1.0000000000000000000000000000001")
      (ratio false 10000000000000000000000000000001 (-31)) ∧
    btc_value_to_sats (.str "1.0000000000000000000000000000001") = .ok 100000000 ∧
    ¬ ConvertsExactly (.str "1.0000000000000000000000000000001")
      (ratio false 10000000000000000000000000000001 (-31)) ∧
    _btc_to_sats (fun _ => "'-1'") (.str "-1") = .ok (-100000000) ∧
    btc_value_to_sats (.str "-1") = .error (.ValueError "BTC value must be non-negative.") := by
  have hok : btc_value_to_sats (.str "1.0000000000000000000000000000001") = .ok 100000000 := by
    decide +kernel
  refine ⟨⟨false, _, -31, by decide +kernel, rfl⟩, hok, ?_, by decide +kernel, by decide +kernel⟩
  rintro ⟨hexact, -⟩
  have heq := (hexact 100000000).mp hok
  change magnitude 10000000000000000000000000000001 (-31) * 10 ^ 8 = _ at heq
  norm_num [magnitude] at heq

end Superorganism.Bitcoin
