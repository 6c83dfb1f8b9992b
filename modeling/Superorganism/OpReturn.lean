/-
What `_extract_op_return_payload_hex` takes for an `OP_RETURN` script with one push.

The scripts it is written for are spelled in hexadecimal digits (`SinglePush`). The code cuts the
text at fixed places and hands the pieces to `int(·, 16)` and `bytes.fromhex`, and what those let
pass is more than digits (`LenientPush`): in the two characters of the opcode and of the length
behind `OP_PUSHDATA1` a `+`, a `-` before a zero, a blank on either side of one digit, and decimal
digits of other scripts; in the longer lengths and in the payload whitespace before, between and
behind the pairs of digits. No other check looks at the characters. On a text of digits the two
readings are the same one, so a text of digits, or one that the lenient readers refuse, is judged as
it should be, and no other text is.
-/
import Superorganism.Codes
import Superorganism.Registration

set_option autoImplicit false

open Superorganism.Bytes Superorganism.Py Superorganism.Codes

namespace Superorganism.Authentication.BaseVerifier

/-! ## The two readings -/

/-- The pushes of `n` bytes: an opcode, with the length behind it where the opcode is not the
length itself. -/
inductive DataPush : List UInt8 → ℕ → Prop where
  | op_0 : DataPush [0x00] 0
  | direct {n : ℕ} : 0x01 ≤ n → n ≤ 0x4b → DataPush [UInt8.ofNat n] n
  | op_pushdata1 {n : ℕ} : n < 256 ^ 1 → DataPush (0x4c :: leOfNat 1 n) n
  | op_pushdata2 {n : ℕ} : n < 256 ^ 2 → DataPush (0x4d :: leOfNat 2 n) n
  | op_pushdata4 {n : ℕ} : n < 256 ^ 4 → DataPush (0x4e :: leOfNat 4 n) n

/-- The digits of `OP_RETURN` with exactly one push behind it, and those of what it pushes. -/
def SinglePush (script_hex payload_hex : String) : Prop :=
  ∃ push payload, DataPush push payload.length ∧ script_hex = hex (0x6a :: (push ++ payload)) ∧
    payload_hex = hex payload

/-- The opcodes with a length behind them: its digits, and how the code reads them. -/
inductive Extended : ℤ → ℕ → (List Char → Option ℤ) → Prop where
  | op_pushdata1 : Extended 0x4c 2 int16
  | op_pushdata2 : Extended 0x4d 4 int_from_hex_le
  | op_pushdata4 : Extended 0x4e 8 int_from_hex_le

/-- The code reads the two pieces as the opcode and the length of a push of `n` bytes. -/
inductive Announces (opcode : List Char) : List Char → ℕ → Prop where
  | op_0 : int16 opcode = some 0 → Announces opcode [] 0
  | direct {n : ℕ} : 0x01 ≤ n → n ≤ 0x4b → int16 opcode = some (n : ℤ) → Announces opcode [] n
  | extended {op : ℤ} {digits : ℕ} {read : List Char → Option ℤ} {length : List Char} {n : ℕ} :
      int16 opcode = some op → Extended op digits read → length.length = digits →
      read length = some (n : ℤ) → Announces opcode length n

/-- The text falls into `6a`, an opcode, a length and a payload as `int(·, 16)` and
`bytes.fromhex` read them: `"6a+4deadbeef"`, `"6a 4deadbeef"`, `"6a4 deadbeef"` and
`"6a04dead  ef"` beside `"6a04deadbeef"`. -/
def LenientPush (script_hex payload_hex : List Char) : Prop :=
  ∃ opcode length n, script_hex = ['6', 'a'] ++ opcode ++ (length ++ payload_hex) ∧
    opcode.length = 2 ∧ Announces opcode length n ∧ payload_hex.length = 2 * n ∧
    (fromhexChars payload_hex).isSome

/-- The digits `bytes.hex` writes. -/
def HEX_DIGITS : List Char := "0123456789abcdef".toList

/-! ## What the code extracts -/

/-- A piece that the code cuts out is the one that stands there. -/
theorem slice_append {front piece rest : List Char} {i j : ℕ} (hi : front.length = i)
    (hj : i + piece.length = j) : slice i j (front ++ (piece ++ rest)) = piece := by
  subst hi hj
  rw [slice, List.drop_left, Nat.add_sub_cancel_left, List.take_left]

theorem slice_end {front piece : List Char} {i j : ℕ} (hi : front.length = i)
    (hj : i + piece.length = j) : slice i j (front ++ piece) = piece := by
  have h : slice i j (front ++ (piece ++ [])) = piece := slice_append hi hj
  rwa [List.append_nil] at h

theorem slice_opcode {opcode tail : List Char} (hwidth : opcode.length = 2) :
    slice 2 4 (['6', 'a'] ++ opcode ++ tail) = opcode := by
  rw [List.append_assoc]
  exact slice_append rfl (by rw [hwidth])

/-- The opcodes of the three longer pushes are no other's. -/
theorem Extended.push_length {op : ℤ} {digits : ℕ} {read : List Char → Option ℤ}
    (h : Extended op digits read) (cursor : ℕ) (text : List Char) :
    push_length op cursor text =
      if text.length < cursor + digits then none
      else (read (slice cursor (cursor + digits) text)).map (·, cursor + digits) := by
  cases h <;> rfl

/-- The code announces a push in three ways. -/
theorem push_length_cases {op k : ℤ} {cursor cursor' : ℕ} {text : List Char}
    (h : push_length op cursor text = some (k, cursor')) :
    (op = 0 ∧ k = 0 ∧ cursor' = cursor) ∨
      (0x01 ≤ op ∧ op ≤ 0x4b ∧ k = op ∧ cursor' = cursor) ∨
      ∃ digits read, Extended op digits read ∧ cursor + digits ≤ text.length ∧
        read (slice cursor (cursor + digits) text) = some k ∧ cursor' = cursor + digits := by
  have hextended {digits : ℕ} {read : List Char → Option ℤ} (hext : Extended op digits read) :
      cursor + digits ≤ text.length ∧ read (slice cursor (cursor + digits) text) = some k ∧
        cursor' = cursor + digits := by
    rw [hext.push_length] at h
    split_ifs at h with hshort
    obtain ⟨value, hread, hpair⟩ := Option.map_eq_some_iff.mp h
    obtain ⟨rfl, rfl⟩ := Prod.mk.inj hpair
    exact ⟨not_lt.mp hshort, hread, rfl⟩
  by_cases hzero : op = 0x00
  · rw [push_length, if_pos hzero] at h
    obtain ⟨rfl, rfl⟩ := Prod.mk.inj (Option.some.inj h)
    exact .inl ⟨hzero, rfl, rfl⟩
  by_cases hdirect : 0x01 ≤ op ∧ op ≤ 0x4b
  · rw [push_length, if_neg hzero, if_pos hdirect] at h
    obtain ⟨rfl, rfl⟩ := Prod.mk.inj (Option.some.inj h)
    exact .inr (.inl ⟨hdirect.1, hdirect.2, rfl, rfl⟩)
  refine .inr (.inr ?_)
  by_cases h1 : op = 0x4c
  · subst h1
    exact ⟨2, int16, .op_pushdata1, hextended .op_pushdata1⟩
  by_cases h2 : op = 0x4d
  · subst h2
    exact ⟨4, int_from_hex_le, .op_pushdata2, hextended .op_pushdata2⟩
  by_cases h4 : op = 0x4e
  · subst h4
    exact ⟨8, int_from_hex_le, .op_pushdata4, hextended .op_pushdata4⟩
  -- any other opcode pushes nothing that the code knows
  rw [push_length, if_neg hzero, if_neg hdirect, if_neg h1, if_neg h2, if_neg h4] at h
  exact nomatch h

/-- What is announced is read off again. -/
theorem Announces.push_length {opcode length : List Char} {n : ℕ} (h : Announces opcode length n)
    (rest : List Char) {front : List Char} {cursor : ℕ} (hcursor : front.length = cursor) :
    ∃ op, int16 opcode = some op ∧
      push_length op cursor (front ++ (length ++ rest)) = some ((n : ℤ), cursor + length.length) := by
  cases h with
  | op_0 hop => exact ⟨0, hop, rfl⟩
  | direct hlow hhigh hop =>
      refine ⟨n, hop, ?_⟩
      rw [BaseVerifier.push_length, if_neg (by omega), if_pos (by omega)]
      rfl
  | extended hop hext hlength hread =>
      refine ⟨_, hop, ?_⟩
      rw [hext.push_length, if_neg, slice_append hcursor (by rw [hlength]), hread, hlength]
      · rfl
      · rw [List.length_append, List.length_append]
        omega

/-- The digits of a length are whole bytes. -/
theorem Announces.even {opcode length : List Char} {n : ℕ} (h : Announces opcode length n) :
    length.length % 2 = 0 := by
  cases h with
  | op_0 _ => rfl
  | direct _ _ _ => rfl
  | extended _ hext hlength _ =>
      rw [hlength]
      cases hext <;> rfl

variable {lower : String → String}

/-- A push that was read off, with as many bytes behind it as it says, was announced. -/
theorem announces_of_push_length {opcode tail : List Char} {op k : ℤ} {cursor : ℕ}
    (hwidth : opcode.length = 2) (hop : int16 opcode = some op)
    (hpush : push_length op 4 (['6', 'a'] ++ opcode ++ tail) = some (k, cursor))
    (htotal : ((['6', 'a'] ++ opcode ++ tail).length : ℤ) = cursor + k * 2) :
    ∃ length payload_hex, ∃ n : ℕ, tail = length ++ payload_hex ∧ cursor = 4 + length.length ∧
      k = (n : ℤ) ∧ payload_hex.length = 2 * n ∧ Announces opcode length n := by
  have hfront : (['6', 'a'] ++ opcode).length = 4 := by
    rw [List.length_append, hwidth]
    rfl
  rw [List.length_append, hfront] at htotal
  rcases push_length_cases hpush with ⟨rfl, rfl, rfl⟩ | ⟨hlow, hhigh, rfl, rfl⟩ |
    ⟨digits, read, hext, hfits, hread, rfl⟩
  -- OP_0: nothing may follow
  · refine ⟨[], tail, 0, rfl, rfl, rfl, by omega, .op_0 hop⟩
  -- a direct push: the opcode is the length
  · lift k to ℕ using by omega
    exact ⟨[], tail, k, rfl, rfl, rfl, by omega, .direct (by omega) (by omega) hop⟩
  -- a length behind the opcode, which `int` may have read with a sign
  · rw [List.length_append, hfront] at hfits
    have hlength : (tail.take digits).length = digits := by
      rw [List.length_take]
      omega
    have hslice : slice 4 (4 + digits) (['6', 'a'] ++ opcode ++ tail) = tail.take digits := by
      rw [← List.take_append_drop digits tail, slice_append hfront (by rw [hlength]),
        List.take_append_drop]
    rw [hslice] at hread
    -- a negative length would leave less than the length itself
    lift k to ℕ using by omega
    refine ⟨tail.take digits, tail.drop digits, k, (List.take_append_drop digits tail).symm,
      by rw [hlength], rfl, ?_, .extended hop hext hlength hread⟩
    rw [List.length_drop]
    omega

/-- What a call that extracts something has gone through: an even number of characters, the
prefix, two for the opcode, and the checks on the push and on its end. -/
theorem checks_of_extract {script_hex payload_hex : String}
    (h : _extract_op_return_payload_hex lower script_hex = some payload_hex) :
    ∃ opcode tail op k cursor, (lower (strip script_hex)).toList = ['6', 'a'] ++ opcode ++ tail ∧
      opcode.length = 2 ∧ int16 opcode = some op ∧
      push_length op 4 (['6', 'a'] ++ opcode ++ tail) = some (k, cursor) ∧
      ((['6', 'a'] ++ opcode ++ tail).length : ℤ) = cursor + k * 2 ∧
      payload_hex.toList =
        slice cursor (cursor + (k * 2).toNat) (['6', 'a'] ++ opcode ++ tail) ∧
      (fromhexChars payload_hex.toList).isSome := by
  unfold _extract_op_return_payload_hex at h
  generalize (lower (strip script_hex)).toList = text at h ⊢
  dsimp only at h
  split_ifs at h with heven hprefix hshort
  obtain ⟨rest, rfl⟩ := hprefix
  have hwidth : (rest.take 2).length = 2 := by
    rw [List.length_append] at hshort
    rw [List.length_take]
    simp only [List.length_cons, List.length_nil] at hshort
    omega
  have hsplit : ['6', 'a'] ++ rest = ['6', 'a'] ++ rest.take 2 ++ rest.drop 2 := by
    rw [List.append_assoc, List.take_append_drop]
  rw [hsplit, slice_opcode hwidth] at h
  -- the opcode is two characters that `int(., 16)` reads
  cases hop : int16 (rest.take 2) with
  | none =>
      rw [hop] at h
      exact nomatch h
  | some op =>
  rw [hop] at h
  dsimp only at h
  -- the length behind it, in one of the encodings
  cases hpush : push_length op 4 (['6', 'a'] ++ rest.take 2 ++ rest.drop 2) with
  | none =>
      rw [hpush] at h
      exact nomatch h
  | some found =>
  rw [hpush] at h
  dsimp only at h
  split_ifs at h with htotal
  -- and the payload, which `bytes.fromhex` accepts
  cases hpayload : fromhexChars (slice found.2 (found.2 + (found.1 * 2).toNat)
      (['6', 'a'] ++ rest.take 2 ++ rest.drop 2)) with
  | none =>
      rw [hpayload] at h
      exact nomatch h
  | some payload =>
  rw [hpayload] at h
  obtain rfl := Option.some.inj h
  rw [String.toList_ofList, hpayload]
  exact ⟨_, _, op, found.1, found.2, hsplit, hwidth, hop, hpush, not_not.mp htotal, rfl, rfl⟩

/-- What is extracted stands behind a push that the code reads. -/
theorem lenientPush_of_extract {script_hex payload_hex : String}
    (h : _extract_op_return_payload_hex lower script_hex = some payload_hex) :
    LenientPush (lower (strip script_hex)).toList payload_hex.toList := by
  obtain ⟨opcode, tail, op, k, cursor, htext, hwidth, hop, hpush, htotal, hpiece, hvalid⟩ :=
    checks_of_extract h
  obtain ⟨length, piece, n, rfl, rfl, rfl, hlength, hannounces⟩ :=
    announces_of_push_length hwidth hop hpush htotal
  have hslice : slice (4 + length.length) (4 + length.length + ((n : ℤ) * 2).toNat)
      (['6', 'a'] ++ opcode ++ (length ++ piece)) = piece := by
    rw [← List.append_assoc]
    refine slice_end ?_ (by omega)
    simp only [List.length_append, List.length_cons, List.length_nil, hwidth]
  rw [hslice] at hpiece
  rw [← hpiece] at htext hlength
  exact ⟨opcode, length, n, htext, hwidth, hannounces, hlength, hvalid⟩

/-- A push that the code reads is extracted. -/
theorem extract_of_lenientPush {script_hex payload_hex : String}
    (h : LenientPush (lower (strip script_hex)).toList payload_hex.toList) :
    _extract_op_return_payload_hex lower script_hex = some payload_hex := by
  unfold _extract_op_return_payload_hex
  generalize (lower (strip script_hex)).toList = text at h ⊢
  obtain ⟨opcode, length, n, rfl, hwidth, hannounces, hlength, hpayload⟩ := h
  have hfront : (['6', 'a'] ++ opcode).length = 4 := by
    rw [List.length_append, hwidth]
    rfl
  have htotal : (['6', 'a'] ++ opcode ++ (length ++ payload_hex.toList)).length =
      4 + length.length + 2 * n := by
    simp only [List.length_append, List.length_cons, List.length_nil, hwidth, hlength]
    omega
  have heven := hannounces.even
  obtain ⟨op, hop, hpush⟩ := hannounces.push_length payload_hex.toList hfront
  obtain ⟨payload, hpayload⟩ := Option.isSome_iff_exists.mp hpayload
  have hpiece : slice (4 + length.length) (4 + length.length + ((n : ℤ) * 2).toNat)
      (['6', 'a'] ++ opcode ++ (length ++ payload_hex.toList)) = payload_hex.toList := by
    rw [← List.append_assoc]
    exact slice_end (by rw [List.length_append, hfront]) (by omega)
  dsimp only
  -- even, with the prefix, long enough for an opcode
  rw [if_neg (by omega), if_neg (by simp), if_neg (by omega), slice_opcode hwidth, hop]
  dsimp only
  rw [hpush]
  dsimp only
  rw [if_neg (by rw [htotal]; omega), hpiece, hpayload]
  exact congrArg some (String.ofList_toList)

/-- **What the code extracts**: the payload of a lenient push, in the characters that spell it. -/
theorem extract_eq_some {script_hex payload_hex : String} :
    _extract_op_return_payload_hex lower script_hex = some payload_hex ↔
      LenientPush (lower (strip script_hex)).toList payload_hex.toList :=
  ⟨lenientPush_of_extract, extract_of_lenientPush⟩

/-! ## Texts of digits -/

theorem mem_hex_digits {c : Char} : c ∈ HEX_DIGITS ↔ ∃ v < 16, hexDigit v = c := by
  have hall : HEX_DIGITS = (List.range 16).map hexDigit := by decide
  rw [hall, List.mem_map]
  simp only [List.mem_range]

theorem hexChars_mem_digits (bs : List UInt8) : ∀ c ∈ hexChars bs, c ∈ HEX_DIGITS := by
  intro c hc
  exact mem_hex_digits.mpr (exists_hexDigit c hc)

@[simp] theorem length_hexChars (bs : List UInt8) : (hexChars bs).length = 2 * bs.length := by
  induction bs with
  | nil => rfl
  | cons b bs ih =>
      rw [hexChars, List.length_cons, List.length_cons, List.length_cons, ih]
      omega

theorem hexChars_append (bs cs : List UInt8) : hexChars (bs ++ cs) = hexChars bs ++ hexChars cs := by
  induction bs with
  | nil => rfl
  | cons b bs ih => rw [List.cons_append, hexChars, hexChars, ih, List.cons_append, List.cons_append]

theorem hexDigits_of_byte {hi lo : ℕ} (hhi : hi < 16) (hlo : lo < 16) :
    hexChars [UInt8.ofNat (16 * hi + lo)] = [hexDigit hi, hexDigit lo] := by
  have hbyte : (UInt8.ofNat (16 * hi + lo)).toNat = 16 * hi + lo := by
    rw [UInt8.toNat_ofNat']
    omega
  have hdiv : (16 * hi + lo) / 16 = hi := by omega
  have hmod : (16 * hi + lo) % 16 = lo := by omega
  rw [hexChars, hexChars, hbyte, hdiv, hmod]

/-- Digits in pairs are what `bytes.hex` writes. -/
theorem exists_hexChars {k : ℕ} {cs : List Char} (hlength : cs.length = 2 * k)
    (hdigits : ∀ c ∈ cs, c ∈ HEX_DIGITS) : ∃ bs, bs.length = k ∧ cs = hexChars bs := by
  induction k generalizing cs with
  | zero => exact ⟨[], rfl, List.length_eq_zero_iff.mp hlength⟩
  | succ k ih =>
      match cs, hlength with
      | c :: d :: cs, hlength =>
        obtain ⟨hi, hhi, rfl⟩ := mem_hex_digits.mp (hdigits c (by simp))
        obtain ⟨lo, hlo, rfl⟩ := mem_hex_digits.mp (hdigits d (by simp))
        simp only [List.length_cons] at hlength
        have htail : cs.length = 2 * k := by omega
        obtain ⟨bs, hbs, rfl⟩ := ih htail fun c hc => hdigits c (by simp [hc])
        refine ⟨UInt8.ofNat (16 * hi + lo) :: bs, by rw [List.length_cons, hbs], ?_⟩
        exact congrArg (· ++ hexChars bs) (hexDigits_of_byte hhi hlo).symm

/-- Of two digits `int` reads the byte they spell. -/
theorem int16_hexChars (b : UInt8) : int16 (hexChars [b]) = some (b.toNat : ℤ) := by
  have hb : b.toNat < 256 := b.toNat_lt
  have hread : ∀ hi < 16, ∀ lo < 16,
      int16 [hexDigit hi, hexDigit lo] = some ((16 * hi + lo : ℕ) : ℤ) := by
    decide +kernel
  rw [hexChars, hexChars, hread _ (by omega) _ (by omega)]
  congr 2
  omega

theorem int_from_hex_le_hexChars (bs : List UInt8) :
    int_from_hex_le (hexChars bs) = some (natOfLE bs : ℤ) := by
  rw [int_from_hex_le, fromhexChars_hexChars]
  rfl

/-- The lengths behind an opcode are read as little-endian numbers. -/
theorem Extended.read_hexChars {op : ℤ} {digits : ℕ} {read : List Char → Option ℤ}
    (h : Extended op digits read) {bs : List UInt8} (hwidth : (hexChars bs).length = digits) :
    read (hexChars bs) = some (natOfLE bs : ℤ) := by
  rw [length_hexChars] at hwidth
  cases h with
  | op_pushdata1 =>
      match bs, hwidth with
      | [b], _ =>
        have hone : natOfLE [b] = b.toNat := by simp [natOfLE]
        rw [int16_hexChars, hone]
  | op_pushdata2 => exact int_from_hex_le_hexChars bs
  | op_pushdata4 => exact int_from_hex_le_hexChars bs

/-- In digits, a push that is announced is a data push. -/
theorem Announces.dataPush {b : UInt8} {bs : List UInt8} {n : ℕ}
    (h : Announces (hexChars [b]) (hexChars bs) n) : DataPush (b :: bs) n := by
  have hopcode {op : ℤ} (hop : int16 (hexChars [b]) = some op) : (b.toNat : ℤ) = op :=
    Option.some.inj ((int16_hexChars b).symm.trans hop)
  have hbyte {m : ℕ} (hm : b.toNat = m) : b = UInt8.ofNat m := by
    rw [← hm, UInt8.ofNat_toNat]
  have hnone (hlength : (hexChars bs).length = 0) : bs = [] := by
    rw [length_hexChars] at hlength
    exact List.length_eq_zero_iff.mp (by omega)
  -- in two hex digits nothing lenient is left: each case of `Announces` fixes the opcode
  generalize hchars : hexChars bs = length at h
  cases h with
  | op_0 hop =>
      obtain rfl := hbyte (m := 0) (by have := hopcode hop; omega)
      obtain rfl := hnone (by rw [hchars]; rfl)
      exact .op_0
  | direct hlow hhigh hop =>
      obtain rfl := hbyte (m := n) (by have := hopcode hop; omega)
      obtain rfl := hnone (by rw [hchars]; rfl)
      exact .direct hlow hhigh
  | extended hop hext hwidth hread =>
      subst hchars
      -- the length is read little-endian, whichever of the two readers does it
      rw [hext.read_hexChars hwidth, Option.some.injEq, Nat.cast_inj] at hread
      have hlt := natOfLE_lt bs
      have hle := leOfNat_natOfLE bs
      rw [length_hexChars] at hwidth
      rw [hread] at hlt hle
      have hop := hopcode hop
      cases hext with
      | op_pushdata1 =>
          obtain rfl := hbyte (m := 0x4c) (by omega)
          rw [show bs.length = 1 by omega] at hlt hle
          rw [← hle]
          exact .op_pushdata1 hlt
      | op_pushdata2 =>
          obtain rfl := hbyte (m := 0x4d) (by omega)
          rw [show bs.length = 2 by omega] at hlt hle
          rw [← hle]
          exact .op_pushdata2 hlt
      | op_pushdata4 =>
          obtain rfl := hbyte (m := 0x4e) (by omega)
          rw [show bs.length = 4 by omega] at hlt hle
          rw [← hle]
          exact .op_pushdata4 hlt

/-- A length behind an opcode is announced by its digits. -/
theorem Extended.announces {op : ℤ} {k n : ℕ} {read : List Char → Option ℤ} {b : UInt8}
    (h : Extended op (2 * k) read) (hop : (b.toNat : ℤ) = op) (hn : n < 256 ^ k) :
    Announces (hexChars [b]) (hexChars (leOfNat k n)) n := by
  have hwidth : (hexChars (leOfNat k n)).length = 2 * k := by
    rw [length_hexChars, leOfNat_length]
  refine .extended (by rw [int16_hexChars, hop]) h hwidth ?_
  rw [h.read_hexChars hwidth, natOfLE_leOfNat k n hn]

/-- A data push is announced by its digits. -/
theorem DataPush.announces {push : List UInt8} {n : ℕ} (h : DataPush push n) :
    ∃ b bs, push = b :: bs ∧ Announces (hexChars [b]) (hexChars bs) n := by
  cases h with
  | op_0 => exact ⟨_, _, rfl, .op_0 (int16_hexChars 0)⟩
  | direct hlow hhigh =>
      refine ⟨_, _, rfl, .direct hlow hhigh ?_⟩
      rw [int16_hexChars, UInt8.toNat_ofNat', Nat.mod_eq_of_lt (by omega)]
  | op_pushdata1 hn => exact ⟨_, _, rfl, Extended.announces .op_pushdata1 rfl hn⟩
  | op_pushdata2 hn => exact ⟨_, _, rfl, Extended.announces .op_pushdata2 rfl hn⟩
  | op_pushdata4 hn => exact ⟨_, _, rfl, Extended.announces .op_pushdata4 rfl hn⟩

/-- The digits of a script with one push are read as what they are. -/
theorem SinglePush.lenient {script_hex payload_hex : String} (h : SinglePush script_hex payload_hex) :
    LenientPush script_hex.toList payload_hex.toList := by
  obtain ⟨push, payload, hpush, rfl, rfl⟩ := h
  obtain ⟨b, bs, rfl, hannounces⟩ := hpush.announces
  refine ⟨hexChars [b], hexChars bs, payload.length, ?_, rfl, hannounces, ?_, ?_⟩
  · simp only [hex, String.toList_ofList, ← hexChars_append]
    rfl
  · rw [hex, String.toList_ofList, length_hexChars]
  · rw [hex, String.toList_ofList, fromhexChars_hexChars]
    rfl

/-- A text of digits that is read as a script with one push is one. -/
theorem LenientPush.single {script_hex payload_hex : String}
    (h : LenientPush script_hex.toList payload_hex.toList)
    (hdigits : ∀ c ∈ script_hex.toList, c ∈ HEX_DIGITS) : SinglePush script_hex payload_hex := by
  obtain ⟨opcode, length, n, htext, hwidth, hannounces, hlength, -⟩ := h
  have heven := hannounces.even
  rw [htext] at hdigits
  obtain ⟨opcodes, hone, rfl⟩ := exists_hexChars (k := 1) hwidth fun c hc => hdigits c (by simp [hc])
  have hpairs : length.length = 2 * (length.length / 2) := by omega
  obtain ⟨bs, -, rfl⟩ := exists_hexChars hpairs fun c hc => hdigits c (by simp [hc])
  obtain ⟨payload, hn, hpayload⟩ := exists_hexChars hlength fun c hc => hdigits c (by simp [hc])
  obtain ⟨b, rfl⟩ := List.length_eq_one_iff.mp hone
  refine ⟨b :: bs, payload, ?_, ?_, ?_⟩
  · rw [hn]
    exact hannounces.dataPush
  · rw [← String.toList_inj, htext, hpayload, hex, String.toList_ofList, ← hexChars_append,
      List.append_assoc, ← hexChars_append]
    rfl
  · rw [← String.toList_inj, hpayload, hex, String.toList_ofList]

theorem SinglePush.digits {script_hex payload_hex : String} (h : SinglePush script_hex payload_hex) :
    ∀ c ∈ script_hex.toList, c ∈ HEX_DIGITS := by
  obtain ⟨push, payload, -, rfl, -⟩ := h
  rw [hex, String.toList_ofList]
  exact hexChars_mem_digits _

/-! ## When the code extracts what it should -/

/-- **The extraction of a payload** follows the format, for a script and every payload, exactly
when the stripped lower-cased script has no characters but digits, or is not read as a script with
one push by the lenient readers either. -/
theorem extracts_single_push_iff (lower : String → String) (script_hex : String) :
    (∀ payload_hex, _extract_op_return_payload_hex lower script_hex = some payload_hex ↔
        SinglePush (lower (strip script_hex)) payload_hex) ↔
      (∀ c ∈ (lower (strip script_hex)).toList, c ∈ HEX_DIGITS) ∨
        ∀ payload_hex, ¬ LenientPush (lower (strip script_hex)).toList payload_hex := by
  constructor
  · intro hformat
    by_contra hboth
    push Not at hboth
    obtain ⟨⟨c, hc, hdigit⟩, payload_hex, hlenient⟩ := hboth
    have hextract : _extract_op_return_payload_hex lower script_hex =
        some (String.ofList payload_hex) := by
      rw [extract_eq_some, String.toList_ofList]
      exact hlenient
    exact hdigit (((hformat _).mp hextract).digits c hc)
  · rintro (hdigits | hrefused) payload_hex
    · rw [extract_eq_some]
      exact ⟨fun h => h.single hdigits, SinglePush.lenient⟩
    · rw [extract_eq_some]
      exact ⟨fun h => absurd h (hrefused _), fun h => absurd h.lenient (hrefused _)⟩

/-- `"+4"` is read as a direct push of four bytes: the script is no hexadecimal text, and a payload
is extracted. -/
theorem signed_opcode_extracted :
    _extract_op_return_payload_hex String.toLower "6a+4deadbeef" = some "deadbeef" ∧
      ¬ ∃ payload_hex, SinglePush (String.toLower (strip "6a+4deadbeef")) payload_hex := by
  constructor
  · decide +kernel
  · rintro ⟨payload_hex, h⟩
    have hplus : '+' ∈ (String.toLower (strip "6a+4deadbeef")).toList := by decide +kernel
    exact absurd (h.digits _ hplus) (by decide)

end Superorganism.Authentication.BaseVerifier
