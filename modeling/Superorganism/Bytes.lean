/-
Byte strings: fixed-width integers in either byte order, and the hexadecimal
text of a byte string.

Both halves follow the built-in `bytes` of the Python language: `leOfNat` and
`natOfLE` are `int.to_bytes(k, "little")` and `int.from_bytes(_, "little")`,
`beOfNat` and `natOfBE` the same in big-endian order, `hex` and `fromhex` are
`bytes.hex` and `bytes.fromhex`. Nothing here is about one program.

The integer side is exact rather than modular wherever it can be: a width-`k`
encoding of `n < 256 ^ k` reads back as `n`, and a byte string of length `k` reads
as a number below `256 ^ k`. The hexadecimal side is only one way: `hex` writes
lower case without blanks, while `fromhex` also accepts upper case and skips
ASCII whitespace between two bytes.
-/
import Mathlib.Data.Nat.Basic
import Mathlib.Tactic.Ring
import Mathlib.Tactic.NormNum

set_option autoImplicit false

namespace Superorganism.Bytes

/-! ## Little-endian integers -/

/-- The number a byte string denotes in little-endian order. -/
def natOfLE : List UInt8 → ℕ
  | [] => 0
  | b :: bs => b.toNat + 256 * natOfLE bs

/-- The `k` low bytes of `n` in little-endian order. -/
def leOfNat : ℕ → ℕ → List UInt8
  | 0, _ => []
  | k + 1, n => UInt8.ofNat n :: leOfNat k (n / 256)

@[simp] theorem leOfNat_length (k n : ℕ) : (leOfNat k n).length = k := by
  induction k generalizing n with
  | zero => rfl
  | succ k ih => simp only [leOfNat, List.length_cons, ih]

/-- A byte string of length `k` denotes a number below `256 ^ k`. -/
theorem natOfLE_lt (bs : List UInt8) : natOfLE bs < 256 ^ bs.length := by
  induction bs with
  | nil => simp only [natOfLE, List.length_nil, pow_zero, Nat.lt_one_iff]
  | cons b bs ih =>
      have hb : b.toNat < 256 := b.toNat_lt
      simp only [natOfLE, List.length_cons, pow_succ]
      omega

/-- Writing a number that fits and reading it back is the identity. -/
theorem natOfLE_leOfNat (k n : ℕ) (hn : n < 256 ^ k) : natOfLE (leOfNat k n) = n := by
  induction k generalizing n with
  | zero =>
      have h0 : n = 0 := by simpa using hn
      simp only [leOfNat, natOfLE, h0]
  | succ k ih =>
      have hdiv : n / 256 < 256 ^ k := by
        rw [pow_succ] at hn
        exact Nat.div_lt_of_lt_mul (by omega)
      simp only [leOfNat, natOfLE, ih _ hdiv, UInt8.toNat_ofNat']
      omega

/-! ## Big-endian integers -/

/-- The number a byte string denotes in big-endian order. -/
def natOfBE (bs : List UInt8) : ℕ := natOfLE bs.reverse

/-- The `k` low bytes of `n` in big-endian order. -/
def beOfNat (k n : ℕ) : List UInt8 := (leOfNat k n).reverse

@[simp] theorem beOfNat_length (k n : ℕ) : (beOfNat k n).length = k := by
  simp only [beOfNat, List.length_reverse, leOfNat_length]

theorem natOfBE_beOfNat (k n : ℕ) (hn : n < 256 ^ k) : natOfBE (beOfNat k n) = n := by
  rw [natOfBE, beOfNat, List.reverse_reverse, natOfLE_leOfNat k n hn]

/-! ## Hexadecimal text -/

/-- The lower-case digit of a value below sixteen. -/
def hexDigit (v : ℕ) : Char := Char.ofNat (if v < 10 then 48 + v else 87 + v)

/-- The value of a hexadecimal digit of either case. -/
def hexValue (c : Char) : Option ℕ :=
  let n := c.toNat
  if 48 ≤ n ∧ n ≤ 57 then some (n - 48)
  else if 97 ≤ n ∧ n ≤ 102 then some (n - 87)
  else if 65 ≤ n ∧ n ≤ 70 then some (n - 55)
  else none

/-- ASCII whitespace: space, and the controls from tab to carriage return. -/
def isSpace (c : Char) : Bool := c.toNat == 32 || (9 ≤ c.toNat && c.toNat ≤ 13)

/-- The digits of a byte string, high half first. -/
def hexChars : List UInt8 → List Char
  | [] => []
  | b :: bs => hexDigit (b.toNat / 16) :: hexDigit (b.toNat % 16) :: hexChars bs

/-- `bytes.hex`. -/
def hex (bs : List UInt8) : String := String.ofList (hexChars bs)

/-- The bytes a text spells: whitespace is skipped before a pair of digits and
at the end, and never inside a pair. -/
def fromhexChars : List Char → Option (List UInt8)
  | [] => some []
  | [c] => if isSpace c then some [] else none
  | c :: d :: cs =>
    if isSpace c then fromhexChars (d :: cs)
    else
      match hexValue c, hexValue d with
      | some a, some b => (fromhexChars cs).map (UInt8.ofNat (16 * a + b) :: ·)
      | _, _ => none

/-- `bytes.fromhex`; `none` stands for its `ValueError`. -/
def fromhex (s : String) : Option (List UInt8) := fromhexChars s.toList

/-- What is written of bytes are digits. -/
theorem exists_hexDigit {bs : List UInt8} : ∀ c ∈ hexChars bs, ∃ v < 16, hexDigit v = c := by
  induction bs with
  | nil =>
      intro c hc
      exact absurd hc List.not_mem_nil
  | cons b bs ih =>
      have hb : b.toNat < 256 := b.toNat_lt
      intro c hc
      rw [hexChars, List.mem_cons, List.mem_cons] at hc
      rcases hc with rfl | rfl | hc
      · exact ⟨b.toNat / 16, by omega, rfl⟩
      · exact ⟨b.toNat % 16, by omega, rfl⟩
      · exact ih c hc

/-- A digit is no blank and reads back as its value. -/
theorem hexDigit_spec : ∀ v < 16, isSpace (hexDigit v) = false ∧ hexValue (hexDigit v) = some v := by
  decide

theorem fromhexChars_hexChars (bs : List UInt8) : fromhexChars (hexChars bs) = some bs := by
  induction bs with
  | nil => rfl
  | cons b bs ih =>
      have hb : b.toNat < 256 := b.toNat_lt
      obtain ⟨hs, hhi⟩ := hexDigit_spec (b.toNat / 16) (by omega)
      obtain ⟨-, hlo⟩ := hexDigit_spec (b.toNat % 16) (by omega)
      have hbyte : UInt8.ofNat (16 * (b.toNat / 16) + b.toNat % 16) = b := by
        apply UInt8.toNat_inj.mp
        rw [UInt8.toNat_ofNat']
        omega
      simp only [hexChars, fromhexChars, hs, Bool.false_eq_true, if_false, hhi, hlo, ih,
        Option.map_some, hbyte]

/-- The text `hex` writes is read back as the bytes it was written from. -/
@[simp] theorem fromhex_hex (bs : List UInt8) : fromhex (hex bs) = some bs := by
  rw [fromhex, hex, String.toList_ofList, fromhexChars_hexChars]

/-- Different byte strings have different texts. -/
theorem hex_injective : Function.Injective hex := by
  intro a b h
  have h2 : fromhex (hex a) = fromhex (hex b) := by rw [h]
  simpa using h2

end Superorganism.Bytes
