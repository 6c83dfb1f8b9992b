/-
Python's `decimal`: numbers with a coefficient and an exponent, in a context.

An operation on finite numbers makes an exact result first, and `_fix` rounds its coefficient to
the precision of the context, half to even. Only a result that would need an exponent beyond
`Emax` is refused; `Overflow` is raised by default, as is `InvalidOperation`, and the other signals
are flags that nothing here reads.

A number is built exactly, whatever the context: `Decimal(s)` refuses what is no numeral or has
an exponent beyond what the library represents.
-/
import Superorganism.Py

set_option autoImplicit false

namespace Superorganism.Py

/-! ## Numbers and contexts -/

/-- A `Decimal`. A NaN carries no payload. -/
inductive Decimal where
  | finite (sign : Bool) (int : ℕ) (exp : ℤ)
  | infinity (sign : Bool)
  | nan (signaling : Bool)
deriving DecidableEq, Repr

/-- A context that rounds half to even, does not clamp, and traps the signals of the default
one. -/
structure Context where
  prec : ℕ
  Emin : ℤ
  Emax : ℤ
  prec_pos : 0 < prec
  Emin_nonpos : Emin ≤ 0
  Emax_nonneg : 0 ≤ Emax

def DefaultContext : Context := ⟨28, -999999, 999999, by decide, by decide, by decide⟩

namespace Context

variable (context : Context)

def Etiny : ℤ := context.Emin - context.prec + 1

def Etop : ℤ := context.Emax - context.prec + 1

end Context

def MAX_PREC : ℕ := 999999999999999999

def MAX_EMAX : ℤ := 999999999999999999

def MIN_ETINY : ℤ := -1999999999999999997

namespace Decimal

/-- `len(str(coefficient))`. -/
def len (coefficient : ℕ) : ℕ := (Nat.toDigits 10 coefficient).length

/-! ## Rounding a coefficient -/

/-- How many units a coefficient has, rounded down. -/
def ROUND_DOWN (coefficient unit : ℕ) : ℕ := coefficient / unit

/-- How many units a coefficient has, half to even. -/
def ROUND_HALF_EVEN (coefficient unit : ℕ) : ℕ :=
  let quotient := coefficient / unit
  let remainder := coefficient % unit
  if unit < 2 * remainder ∨ 2 * remainder = unit ∧ quotient % 2 = 1 then quotient + 1
  else quotient

/-- The coefficient that `_rescale` gives a finite number at another exponent. -/
def rescale (int : ℕ) (exp target : ℤ) (rounding : ℕ → ℕ → ℕ) : ℕ :=
  if int = 0 then 0
  else if target ≤ exp then int * 10 ^ (exp - target).toNat
  else rounding int (10 ^ (target - exp).toNat)

/-- `_fix` of a finite number. -/
def fix (context : Context) (sign : Bool) (int : ℕ) (exp : ℤ) : Except PyError Decimal :=
  if int = 0 then pure (.finite sign 0 (min (max exp context.Etiny) context.Emax))
  else
    -- at this exponent the coefficient has as many digits as the precision
    let exp_min := len int + exp - context.prec
    if context.Etop < exp_min then throw .Overflow
    else
      let exp_min := max exp_min context.Etiny
      if exp < exp_min then
        let coeff := ROUND_HALF_EVEN int (10 ^ (exp_min - exp).toNat)
        if len coeff ≤ context.prec then pure (.finite sign coeff exp_min)
        -- a row of nines was rounded up to a power of ten, which has one digit more
        else if context.Etop < exp_min + 1 then throw .Overflow
        else pure (.finite sign (coeff / 10) (exp_min + 1))
      else pure (.finite sign int exp)

/-! ## Operations -/

/-- `self * other`. -/
def mul (context : Context) : Decimal → Decimal → Except PyError Decimal
  | .nan true, _ => throw .InvalidOperation
  | _, .nan true => throw .InvalidOperation
  | .nan false, _ => pure (.nan false)
  | _, .nan false => pure (.nan false)
  | .infinity sign, .infinity sign' => pure (.infinity (sign ^^ sign'))
  | .infinity sign, .finite sign' int _ =>
    if int = 0 then throw .InvalidOperation else pure (.infinity (sign ^^ sign'))
  | .finite sign int _, .infinity sign' =>
    if int = 0 then throw .InvalidOperation else pure (.infinity (sign ^^ sign'))
  | .finite sign int exp, .finite sign' int' exp' =>
    fix context (sign ^^ sign') (int * int') (exp + exp')

/-- A coefficient less its last zeros, so many of them at most. -/
def stripZeros : ℕ → ℕ → ℤ → ℕ × ℤ
  | 0, coeff, exp => (coeff, exp)
  | n + 1, coeff, exp =>
    if coeff % 10 = 0 then stripZeros n (coeff / 10) (exp + 1) else (coeff, exp)

/-- The coefficients of a division, one of them with zeros behind. -/
def dividend (int : ℕ) (shift : ℤ) : ℕ := if 0 ≤ shift then int * 10 ^ shift.toNat else int

def divisor (int' : ℕ) (shift : ℤ) : ℕ := if 0 ≤ shift then int' else int' * 10 ^ (-shift).toNat

/-- The quotient of two finite numbers, the divisor not zero. It is exact, or has one digit more
than the precision, which is made to show that it is not. -/
def quotient (context : Context) (int : ℕ) (exp : ℤ) (int' : ℕ) (exp' : ℤ) : ℕ × ℤ :=
  if int = 0 then (0, exp - exp')
  else
    let shift : ℤ := len int' - len int + context.prec + 1
    let coeff := dividend int shift / divisor int' shift
    if dividend int shift % divisor int' shift ≠ 0 then
      -- a last digit 0 or 5 would pass for an exact quotient or a tie
      (if coeff % 5 = 0 then coeff + 1 else coeff, exp - exp' - shift)
    else stripZeros shift.toNat coeff (exp - exp' - shift)

/-- `self / other`. -/
def div (context : Context) : Decimal → Decimal → Except PyError Decimal
  | .nan true, _ => throw .InvalidOperation
  | _, .nan true => throw .InvalidOperation
  | .nan false, _ => pure (.nan false)
  | _, .nan false => pure (.nan false)
  | .infinity _, .infinity _ => throw .InvalidOperation
  | .infinity sign, .finite sign' _ _ => pure (.infinity (sign ^^ sign'))
  | .finite sign _ _, .infinity sign' => pure (.finite (sign ^^ sign') 0 context.Etiny)
  | .finite sign int exp, .finite sign' int' exp' =>
    if int' = 0 then throw (if int = 0 then .InvalidOperation else .DivisionByZero)
    else
      let (coeff, exponent) := quotient context int exp int' exp'
      fix context (sign ^^ sign') coeff exponent

/-- `self.quantize(other, rounding)`, the exponent of `other` given. -/
def quantize (context : Context) (target : ℤ) (rounding : ℕ → ℕ → ℕ) :
    Decimal → Except PyError Decimal
  | .nan true => throw .InvalidOperation
  | .nan false => pure (.nan false)
  | .infinity _ => throw .InvalidOperation
  | .finite sign int exp =>
    if target < context.Etiny ∨ context.Emax < target then throw .InvalidOperation
    else if int = 0 then fix context sign 0 target
    else if context.Emax < exp + len int - 1 ∨ context.prec < exp + len int - target then
      throw .InvalidOperation
    else
      -- the rounding may have made one digit more
      let coeff := rescale int exp target rounding
      if context.Emax < target + len coeff - 1 ∨ context.prec < len coeff then
        throw .InvalidOperation
      else fix context sign coeff target

/-- `self.to_integral_value()`. The precision does not matter. -/
def to_integral_value : Decimal → Except PyError Decimal
  | .nan true => throw .InvalidOperation
  | .nan false => pure (.nan false)
  | .infinity sign => pure (.infinity sign)
  | .finite sign int exp =>
    if 0 ≤ exp then pure (.finite sign int exp)
    else pure (.finite sign (rescale int exp 0 ROUND_HALF_EVEN) 0)

/-- A magnitude with its sign. -/
def signed (sign : Bool) (magnitude : ℕ) : ℤ := if sign then -magnitude else magnitude

/-- How two numbers compare, if neither is a NaN. Finite ones are put to one exponent. -/
def cmp : Decimal → Decimal → Option Ordering
  | .nan _, _ => none
  | _, .nan _ => none
  | .infinity sign, .infinity sign' => some (compare sign' sign)
  | .infinity sign, .finite _ _ _ => some (if sign then .lt else .gt)
  | .finite _ _ _, .infinity sign' => some (if sign' then .gt else .lt)
  | .finite sign int exp, .finite sign' int' exp' =>
    -- at the lower exponent both coefficients are integers
    let common := min exp exp'
    some (compare (signed sign (int * 10 ^ (exp - common).toNat))
      (signed sign' (int' * 10 ^ (exp' - common).toNat)))

/-- `self < other`. -/
def lt (self other : Decimal) : Except PyError Bool :=
  match self.cmp other with
  | none => throw .InvalidOperation
  | some order => pure (order == .lt)

/-- `self != other`. -/
def ne : Decimal → Decimal → Except PyError Bool
  | .nan true, _ => throw .InvalidOperation
  | _, .nan true => throw .InvalidOperation
  | self, other => pure (self.cmp other != some .eq)

def is_finite : Decimal → Bool
  | .finite _ _ _ => true
  | _ => false

/-- `int(self)`. -/
def int : Decimal → Except PyError ℤ
  | .nan _ => throw (.ValueError "cannot convert NaN to integer")
  | .infinity _ => throw (.OverflowError "cannot convert Infinity to integer")
  | .finite sign int exp =>
    if 0 ≤ exp then pure (signed sign (int * 10 ^ exp.toNat))
    else pure (signed sign (int / 10 ^ (-exp).toNat))

/-! ## Construction -/

/-- A number as it is, if the library can represent it. -/
def exact : Decimal → Except PyError Decimal
  | .finite sign int exp =>
    if MIN_ETINY ≤ exp ∧ (if int = 0 then exp ≤ MAX_EMAX
        else exp + len int - 1 ≤ MAX_EMAX ∧ len int ≤ MAX_PREC) then pure (.finite sign int exp)
    else throw .InvalidOperation
  | d => pure d

/-- `Decimal(n)`. -/
def ofInt (n : ℤ) : Except PyError Decimal := exact (.finite (decide (n < 0)) n.natAbs 0)

/-- A sign that may be there, and the rest. -/
def splitSign : List Char → Bool × List Char
  | '-' :: cs => (true, cs)
  | '+' :: cs => (false, cs)
  | cs => (false, cs)

/-- The exponent part of a numeral; nothing is the exponent 0. -/
def readExponent : List Char → Option ℤ
  | [] => some 0
  | c :: cs =>
    if c = 'e' ∨ c = 'E' then
      let (sign, digits) := splitSign cs
      if digits ≠ [] ∧ digits.all Char.isDigit then
        some (signed sign (Nat.ofDigitChars 10 digits 0))
      else none
    else none

/-- The digits behind a point that may be there, and the rest. -/
def splitFraction : List Char → List Char × List Char
  | '.' :: cs => (cs.takeWhile Char.isDigit, cs.dropWhile Char.isDigit)
  | cs => ([], cs)

/-- The unsigned part of a numeral that is a number. -/
def readNumber (sign : Bool) (cs : List Char) : Option Decimal :=
  let whole := cs.takeWhile Char.isDigit
  let (frac, rest) := splitFraction (cs.dropWhile Char.isDigit)
  if whole = [] ∧ frac = [] then none
  else (readExponent rest).map fun exp =>
    .finite sign (Nat.ofDigitChars 10 (whole ++ frac) 0) (exp - frac.length)

/-- A numeral of ASCII characters. -/
def read (cs : List Char) : Option Decimal :=
  let (sign, body) := splitSign cs
  let word := body.map Char.toLower
  if word = "inf".toList ∨ word = "infinity".toList then some (.infinity sign)
  else if "nan".toList <+: word ∧ (word.drop 3).all Char.isDigit then some (.nan false)
  else if "snan".toList <+: word ∧ (word.drop 4).all Char.isDigit then some (.nan true)
  else readNumber sign body

/-- `Decimal(s)`. Blanks around the numeral and underscores in it do not count. -/
def ofStr (s : String) : Except PyError Decimal :=
  match read (((strip s).toList.filter (· ≠ '_')).map toAscii) with
  | none => throw .InvalidOperation
  | some d => d.exact

/-! ## Text -/

/-- The decimal digits of a number, with zeros in front up to a width. -/
def zeroPadded (width n : ℕ) : List Char :=
  let digits := Nat.toDigits 10 n
  List.replicate (width - digits.length) '0' ++ digits

/-- `format(self, "f")`. -/
def format_f : Decimal → String
  | .nan true => "sNaN"
  | .nan false => "NaN"
  | .infinity sign => if sign then "-Infinity" else "Infinity"
  | .finite sign int exp =>
    let front := if sign then ['-'] else []
    if 0 ≤ exp then String.ofList (front ++ Nat.toDigits 10 (int * 10 ^ exp.toNat))
    else
      let places := (-exp).toNat
      let digits := zeroPadded (places + 1) int
      String.ofList (front ++ digits.take (digits.length - places) ++
        '.' :: digits.drop (digits.length - places))

end Decimal

end Superorganism.Py
