/-
Amounts in bitcoin and in satoshis: `sats_to_btc_string` and `btc_value_to_sats` of
`bitcoin/utils.py`, and `RpcVerifier._btc_to_sats` of
`authentication/transaction_verification/rpc_verifier.py`.

All three compute in the default context of `decimal`, 28 digits half to even. The product is
rounded before it is looked at: what is tested for being an integer, and what is returned, is the
rounded product (`decimal_to_sats_of_nonneg`). `repr` is a parameter.
-/
import Superorganism.DecimalRounding

set_option autoImplicit false

open Superorganism.Py Superorganism.Py.Decimal Superorganism.Rounding

namespace Superorganism.Bitcoin

def SATOSHIS_PER_BTC : Decimal := .finite false 100000000 0

/-- The exponent of `Decimal("0.00000001")`. -/
def SATOSHI_EXPONENT : ℤ := -8

def sats_to_btc_string (amount_sats : ℤ) : Except PyError String :=
  if amount_sats < 0 then throw (.ValueError "amount_sats must be non-negative.")
  else do
    let amount ← Decimal.ofInt amount_sats
    let btc ← amount.div DefaultContext SATOSHIS_PER_BTC
    let btc ← btc.quantize DefaultContext SATOSHI_EXPONENT ROUND_DOWN
    pure btc.format_f

/-- A value that the conversions take. A float is given by its `str`. -/
inductive BtcValue where
  | bool (b : Bool)
  | int (n : ℤ)
  | float (text : String)
  | str (s : String)
  | decimal (d : Decimal)
deriving DecidableEq, Repr

/-- The conversion in the `try` block of `btc_value_to_sats`. -/
def BtcValue.toDecimal : BtcValue → Except PyError Decimal
  | .bool b => Decimal.ofInt (if b then 1 else 0)
  | .int n => Decimal.ofInt n
  | .float text => Decimal.ofStr text
  | .str s => Decimal.ofStr s
  | .decimal d => pure d

/-- `except (InvalidOperation, ValueError, TypeError)`. -/
def isInvalid : PyError → Bool
  | .InvalidOperation => true
  | .TypeError _ => true
  | e => e.isValueError

/-- The test of a product in satoshis, and its conversion. -/
def integral_sats (message : String) (sats_decimal : Decimal) : Except PyError ℤ := do
  let integral ← sats_decimal.to_integral_value
  if ← sats_decimal.ne integral then throw (.ValueError message)
  else sats_decimal.int

/-- The part of `btc_value_to_sats` after the conversion. -/
def decimal_to_sats (value : Decimal) : Except PyError ℤ :=
  if ¬ value.is_finite then throw (.ValueError "Invalid BTC value.")
  else do
    if ← value.lt (.finite false 0 0) then throw (.ValueError "BTC value must be non-negative.")
    else
      let sats_decimal ← value.mul DefaultContext SATOSHIS_PER_BTC
      integral_sats "BTC value is not exactly representable in satoshis." sats_decimal

def btc_value_to_sats (btc_value : BtcValue) : Except PyError ℤ :=
  match btc_value with
  | .bool _ => throw (.ValueError "Invalid BTC value.")
  | btc_value =>
    match btc_value.toDecimal with
    | .error e => throw (if isInvalid e then .ValueError "Invalid BTC value." else e)
    | .ok value => decimal_to_sats value

/-- `sys.get_int_max_str_digits()`. -/
def INT_MAX_STR_DIGITS : ℕ := 4300

/-- `str(n)`. -/
def str_int (n : ℤ) : Except PyError String :=
  if INT_MAX_STR_DIGITS < len n.natAbs then
    throw (.ValueError ("Exceeds the limit (4300 digits) for integer string conversion; " ++
      "use sys.set_int_max_str_digits() to increase the limit"))
  else pure (String.ofList ((if n < 0 then ['-'] else []) ++ Nat.toDigits 10 n.natAbs))

/-- `str(value_btc)` of the types the verifier lets pass, and an error for the others. -/
def verifier_text (repr : BtcValue → String) : BtcValue → Except PyError String
  | .int n => str_int n
  | .float text => pure text
  | .str s => pure s
  | value_btc => throw (.ValueError s!"Invalid BTC amount in RPC response: {repr value_btc}")

/-- The product in the `try` block of `_btc_to_sats`. -/
def verifier_product (text : String) : Except PyError Decimal := do
  let value ← Decimal.ofStr text
  value.mul DefaultContext SATOSHIS_PER_BTC

/-- `RpcVerifier._btc_to_sats`. -/
def _btc_to_sats (repr : BtcValue → String) (value_btc : BtcValue) : Except PyError ℤ :=
  match verifier_text repr value_btc with
  | .error e => throw e
  | .ok text =>
    match verifier_product text with
    | .error .InvalidOperation =>
      throw (.ValueError s!"Invalid BTC amount in RPC response: {repr value_btc}")
    | .error e => throw e
    | .ok sats_decimal =>
      integral_sats s!"BTC amount is not representable in satoshis: {repr value_btc}" sats_decimal

/-! ## The rounded product -/

/-- The value is the finite number that the argument is converted to. -/
def Denotes (btc_value : BtcValue) (value : ℚ) : Prop :=
  ∃ sign int exp, btc_value.toDecimal = .ok (.finite sign int exp) ∧ value = ratio sign int exp

theorem mul_satoshis (sign : Bool) (int : ℕ) (exp : ℤ) :
    let p := magnitude int exp * 10 ^ 8
    let product := (Decimal.finite sign int exp).mul DefaultContext SATOSHIS_PER_BTC
    (DefaultContext.Overflows p ∧ product = .error .Overflow) ∨
    (¬ DefaultContext.Overflows p ∧ ∃ int' exp', product = .ok (.finite sign int' exp') ∧
      magnitude int' exp' = DefaultContext.round p) := by
  intro p product
  have hp : magnitude (int * 100000000) (exp + 0) = p := by
    change magnitude _ _ = magnitude int exp * 10 ^ 8
    unfold magnitude
    push_cast
    rw [add_zero]
    ring
  have hproduct : product = fix DefaultContext sign (int * 100000000) (exp + 0) := by
    change fix DefaultContext (sign ^^ false) _ _ = _
    rw [Bool.xor_false]
  have hfix := fix_spec DefaultContext sign (int * 100000000) (exp + 0)
  rw [hp, ← hproduct] at hfix
  exact hfix

/-- The test for integrality, and what is returned, are exact. -/
theorem integral_sats_finite (message : String) (sign : Bool) (int : ℕ) (exp : ℤ) :
    let sats := integral_sats message (.finite sign int exp)
    (∃ n : ℤ, magnitude int exp = n ∧ sats = .ok (if sign then -n else n)) ∨
    ((¬ ∃ n : ℤ, magnitude int exp = n) ∧ sats = .error (.ValueError message)) := by
  intro sats
  obtain ⟨int', exp', hintegral, hround⟩ := to_integral_value_finite sign int exp
  have hratio : ratio sign int exp ≠ ratio sign int' exp' ↔
      magnitude int exp ≠ halfEven (magnitude int exp) := by
    rw [← hround]
    unfold ratio
    cases sign with
    | false => rfl
    | true => exact neg_inj.not
  have hsats : sats = (if magnitude int exp ≠ halfEven (magnitude int exp) then
      .error (.ValueError message) else Decimal.int (.finite sign int exp)) := by
    change integral_sats _ _ = _
    unfold integral_sats
    rw [hintegral]
    change (do if ← ne (.finite sign int exp) (.finite sign int' exp') then _ else _) = _
    rw [ne_finite, decide_eq_decide.mpr hratio]
    split_ifs with hne
    · rw [decide_eq_true hne]
      rfl
    · rw [decide_eq_false hne]
      rfl
  rw [hsats]
  by_cases hint : ∃ n : ℤ, magnitude int exp = n
  · obtain ⟨n, hn⟩ := hint
    refine .inl ⟨n, hn, ?_⟩
    rw [if_neg, int_finite, hn, Int.floor_intCast]
    rw [hn, halfEven_intCast]
    exact not_not.mpr rfl
  · exact .inr ⟨hint, if_pos fun h => hint ⟨_, h⟩⟩

/-- The product as either function looks at it. The sign is that of the value. -/
theorem product_finite (message : String) (sign : Bool) (int : ℕ) (exp : ℤ) :
    let p := magnitude int exp * 10 ^ 8
    let sats := (Decimal.finite sign int exp).mul DefaultContext SATOSHIS_PER_BTC >>=
      integral_sats message
    (DefaultContext.Overflows p ∧ sats = .error .Overflow) ∨
    (¬ DefaultContext.Overflows p ∧
      ((∃ n : ℤ, DefaultContext.round p = n ∧ sats = .ok (if sign then -n else n)) ∨
      ((¬ ∃ n : ℤ, DefaultContext.round p = n) ∧ sats = .error (.ValueError message)))) := by
  intro p sats
  rcases mul_satoshis sign int exp with ⟨hover, hproduct⟩ | ⟨hover, int', exp', hproduct, hround⟩
  · refine .inl ⟨hover, ?_⟩
    change _ >>= _ = _
    rw [hproduct]
    rfl
  · refine .inr ⟨hover, ?_⟩
    have hsats : sats = integral_sats message (.finite sign int' exp') := by
      change _ >>= _ = _
      rw [hproduct]
      rfl
    rw [hsats, ← hround]
    exact integral_sats_finite message sign int' exp'

/-- The sign is looked at before the product. -/
theorem decimal_to_sats_of_lt {value : Decimal} {negative : Bool}
    (hfinite : value.is_finite = true) (hlt : value.lt (.finite false 0 0) = .ok negative) :
    decimal_to_sats value =
      if negative then .error (.ValueError "BTC value must be non-negative.")
      else value.mul DefaultContext SATOSHIS_PER_BTC >>=
        integral_sats "BTC value is not exactly representable in satoshis." := by
  unfold decimal_to_sats
  rw [if_neg (not_not.mpr hfinite), hlt]
  generalize value.mul DefaultContext SATOSHIS_PER_BTC = product
  cases negative <;> rfl

theorem decimal_to_sats_finite (sign : Bool) (int : ℕ) (exp : ℤ) :
    decimal_to_sats (.finite sign int exp) =
      if ratio sign int exp < 0 then .error (.ValueError "BTC value must be non-negative.")
      else (Decimal.finite sign int exp).mul DefaultContext SATOSHIS_PER_BTC >>=
        integral_sats "BTC value is not exactly representable in satoshis." := by
  have hlt := lt_finite sign int exp false 0 0
  rw [ratio_zero] at hlt
  rw [decimal_to_sats_of_lt rfl hlt]
  simp only [decide_eq_true_eq]

/-- What becomes of a finite number that is not negative. -/
theorem decimal_to_sats_of_nonneg {sign : Bool} {int : ℕ} {exp : ℤ}
    (hnonneg : 0 ≤ ratio sign int exp) :
    let p := ratio sign int exp * 10 ^ 8
    let sats := decimal_to_sats (.finite sign int exp)
    (DefaultContext.Overflows p ∧ sats = .error .Overflow) ∨
    (¬ DefaultContext.Overflows p ∧
      ((∃ n : ℤ, DefaultContext.round p = n ∧ sats = .ok n) ∨
      ((¬ ∃ n : ℤ, DefaultContext.round p = n) ∧
        sats = .error (.ValueError "BTC value is not exactly representable in satoshis.")))) := by
  have hproduct := product_finite "BTC value is not exactly representable in satoshis." sign int exp
  rw [decimal_to_sats_finite, if_neg (not_lt.mpr hnonneg)]
  cases sign with
  | false => exact hproduct
  | true =>
      -- the negative zero
      have hzero : int = 0 := (ratio_nonneg_iff.mp hnonneg).resolve_left nofun
      have hp : ratio true int exp = magnitude int exp := by
        rw [hzero, ratio_zero, magnitude_zero]
      rw [hp]
      refine hproduct.imp id (And.imp id (Or.imp ?_ id))
      rintro ⟨n, hn, hok⟩
      have hround : DefaultContext.round (magnitude int exp * 10 ^ 8) = 0 := by
        rw [hzero, magnitude_zero, zero_mul, Context.round, toGrid_zero]
      have hn0 : n = 0 := by
        rw [hround] at hn
        exact_mod_cast hn.symm
      rw [hn0, if_pos rfl, neg_zero] at hok
      exact ⟨0, hround, hok⟩

/-- A number that the conversion makes of the argument is taken from there. -/
theorem btc_value_to_sats_of_ok {btc_value : BtcValue} {value : Decimal}
    (h : btc_value.toDecimal = .ok value) (hbool : ∀ b, btc_value ≠ .bool b) :
    btc_value_to_sats btc_value = decimal_to_sats value := by
  cases btc_value with
  | bool b => exact absurd rfl (hbool b)
  | int n => simp only [btc_value_to_sats, h]
  | float text => simp only [btc_value_to_sats, h]
  | str s => simp only [btc_value_to_sats, h]
  | decimal d => simp only [btc_value_to_sats, h]

theorem btc_value_to_sats_of_error {btc_value : BtcValue} {e : PyError}
    (h : btc_value.toDecimal = .error e) : ∃ e', btc_value_to_sats btc_value = .error e' := by
  cases btc_value with
  | bool b => exact ⟨_, rfl⟩
  | int n => exact ⟨_, by simp only [btc_value_to_sats, h]; rfl⟩
  | float text => exact ⟨_, by simp only [btc_value_to_sats, h]; rfl⟩
  | str s => exact ⟨_, by simp only [btc_value_to_sats, h]; rfl⟩
  | decimal d => exact ⟨_, by simp only [btc_value_to_sats, h]; rfl⟩

theorem btc_value_to_sats_str {s : String} {value : Decimal} (h : ofStr s = .ok value) :
    btc_value_to_sats (.str s) = decimal_to_sats value := by
  have hvalue : (BtcValue.str s).toDecimal = .ok value := h
  exact btc_value_to_sats_of_ok hvalue fun b => nofun

end Superorganism.Bitcoin
