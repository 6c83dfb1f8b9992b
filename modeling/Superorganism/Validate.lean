/-
The text checks of `bitcoin/utils.py`.

A transaction id is trimmed and must then spell bytes in 64 characters. Both halves
leave room: `bytes.fromhex` reads either case and skips blanks between two bytes, so
one transaction id has many texts that pass, and a text of 64 characters may spell
fewer than 32 bytes.
-/
import Superorganism.Py

set_option autoImplicit false

open Superorganism.Bytes Superorganism.Py

namespace Superorganism.Bitcoin

def validate_txid (txid : String) : Except PyError String :=
  let normalized := strip txid
  if normalized = "" then throw (.ValueError "txid must not be empty.")
  else if normalized.length ≠ 64 then
    throw (.ValueError "txid must be a 64-character hexadecimal string.")
  else
    match fromhex normalized with
    | none => throw (.ValueError "txid must be a 64-character hexadecimal string.")
    | some _ => pure normalized

/-- A digit of the base64 alphabet. -/
def isBase64Digit (c : Char) : Bool := c.isAlphanum || c == '+' || c == '/'

/-- `base64.b64decode(s, validate=True)` accepts the text: digits, then padding that
completes the last group of four. Padding after a complete group is ignored. -/
def isBase64 (s : String) : Bool :=
  let digits := (s.toList.takeWhile isBase64Digit).length
  let padding := s.toList.dropWhile isBase64Digit
  padding.all (· == '=') &&
    match digits % 4 with
    | 0 => decide (0 < digits) || padding.isEmpty
    | 1 => false
    | 2 => padding.length == 2
    | _ => padding.length == 1

def validate_psbt_base64 (psbt_base64 : String) : Except PyError String :=
  let normalized := strip psbt_base64
  if normalized = "" then throw (.ValueError "psbt_base64 must not be empty.")
  else if isBase64 normalized then pure normalized
  else throw (.ValueError "psbt_base64 must be a base64 string.")

theorem validate_txid_eq_ok {txid normalized : String} :
    validate_txid txid = .ok normalized ↔
      strip txid = normalized ∧ normalized ≠ "" ∧ normalized.length = 64 ∧
        ∃ raw, fromhex normalized = some raw := by
  unfold validate_txid
  dsimp only
  constructor
  · intro h
    split_ifs at h with hempty hlength
    rw [not_not] at hlength
    cases hraw : fromhex (strip txid) with
    | none => simp [hraw, throw, throwThe, MonadExceptOf.throw] at h
    | some raw =>
        rw [hraw] at h
        cases h
        exact ⟨rfl, hempty, hlength, raw, hraw⟩
  · rintro ⟨rfl, hempty, hlength, raw, hraw⟩
    rw [if_neg hempty, if_neg (not_not.mpr hlength), hraw]
    rfl

theorem validate_psbt_base64_eq_ok {psbt_base64 normalized : String} :
    validate_psbt_base64 psbt_base64 = .ok normalized ↔
      strip psbt_base64 = normalized ∧ normalized ≠ "" ∧ isBase64 normalized := by
  unfold validate_psbt_base64
  dsimp only
  constructor
  · intro h
    split_ifs at h with hempty hbase64
    cases h
    exact ⟨rfl, hempty, hbase64⟩
  · rintro ⟨rfl, hempty, hbase64⟩
    rw [if_neg hempty, if_pos hbase64]
    rfl

/-- A text that passed passes again, unchanged. -/
theorem validate_txid_idem {txid normalized : String} (h : validate_txid txid = .ok normalized) :
    validate_txid normalized = .ok normalized := by
  obtain ⟨hstrip, hrest⟩ := validate_txid_eq_ok.mp h
  rw [validate_txid_eq_ok, ← hstrip, strip_strip, hstrip]
  exact ⟨rfl, hrest⟩

theorem validate_psbt_base64_idem {psbt_base64 normalized : String}
    (h : validate_psbt_base64 psbt_base64 = .ok normalized) :
    validate_psbt_base64 normalized = .ok normalized := by
  obtain ⟨hstrip, hrest⟩ := validate_psbt_base64_eq_ok.mp h
  rw [validate_psbt_base64_eq_ok, ← hstrip, strip_strip, hstrip]
  exact ⟨rfl, hrest⟩

end Superorganism.Bitcoin
