/-
`sats_to_btc_string`: what is written for an amount in satoshis, and that `btc_value_to_sats` reads
the amount back.

An amount of at most 28 digits is not rounded by the division: its quotient by 100000000 has the
same digits, and `quantize` puts the last of them eight places behind the point. Any larger amount
has a digit too many for `quantize`, which raises.
-/
import Superorganism.Amounts
import Superorganism.DecimalDivision
import Superorganism.DecimalText

set_option autoImplicit false

open Superorganism.Py Superorganism.Py.Decimal Superorganism.Rounding

namespace Superorganism.Bitcoin

/-! ## Writing -/

/-- The quotient by 100000000 is the amount eight places down. -/
theorem quotient_satoshis (sats : ℕ) :
    magnitude sats 0 / magnitude 100000000 0 = magnitude sats (-8) := by
  unfold magnitude
  rw [zpow_zero, mul_one, mul_one, zpow_neg, div_eq_mul_inv]
  norm_num

theorem magnitude_satoshis_lt_iff (sats : ℕ) :
    magnitude sats (-8) < 10 ^ (20 : ℤ) ↔ sats < 10 ^ 28 := by
  have hpow : (10 : ℚ) ^ (20 : ℤ) = 10 ^ (28 : ℕ) * 10 ^ (-8 : ℤ) := by norm_num
  rw [hpow, magnitude, mul_lt_mul_iff_left₀ (by positivity)]
  exact_mod_cast Iff.rfl

theorem not_overflows_satoshis {sats : ℕ} (h : sats < 10 ^ 28) :
    ¬ DefaultContext.Overflows (magnitude sats (-8)) := by
  refine not_overflows_of_lt (((magnitude_satoshis_lt_iff sats).mpr h).trans_le ?_)
  exact zpow_le_zpow_right₀ (by norm_num) (by decide)

theorem div_satoshis (sats : ℕ) :
    let btc := (Decimal.finite false sats 0).div DefaultContext SATOSHIS_PER_BTC
    (DefaultContext.Overflows (magnitude sats (-8)) ∧ btc = .error .Overflow) ∨
    (¬ DefaultContext.Overflows (magnitude sats (-8)) ∧ ∃ int exp,
      btc = .ok (.finite false int exp) ∧
      magnitude int exp = DefaultContext.round (magnitude sats (-8))) := by
  have hne : (100000000 : ℕ) ≠ 0 := by decide
  rw [← quotient_satoshis]
  exact div_spec DefaultContext false false sats hne 0 0

/-- What the division and `quantize` make of an amount. -/
theorem quantize_satoshis_of_lt {sats : ℕ} (h : sats < 10 ^ 28) :
    (Decimal.finite false sats 0).div DefaultContext SATOSHIS_PER_BTC >>=
      quantize DefaultContext SATOSHI_EXPONENT ROUND_DOWN = .ok (.finite false sats (-8)) := by
  obtain ⟨-, quotient, exponent, hquotient, hround⟩ :=
    (div_satoshis sats).resolve_left fun hover => not_overflows_satoshis h hover.1
  rw [round_magnitude_of_lt h (by decide)] at hround
  have hlt : magnitude quotient exponent < 10 ^ (SATOSHI_EXPONENT + (DefaultContext.prec : ℤ)) := by
    rw [hround]
    exact (magnitude_satoshis_lt_iff sats).mpr h
  have hfloor : ⌊magnitude quotient exponent / 10 ^ SATOSHI_EXPONENT⌋.toNat = sats := by
    rw [hround, SATOSHI_EXPONENT, magnitude, mul_div_assoc, div_self (by positivity), mul_one,
      Int.floor_natCast, Int.toNat_natCast]
  have hquantize : quantize DefaultContext SATOSHI_EXPONENT ROUND_DOWN
      (.finite false quotient exponent) = _ :=
    (quantize_down_spec (by decide) (by decide)).2 hlt
  rw [hfloor] at hquantize
  rw [hquotient, ok_bind, hquantize]
  rfl

theorem quantize_satoshis_of_le {sats : ℕ} (h : 10 ^ 28 ≤ sats) (d : Decimal) :
    (Decimal.finite false sats 0).div DefaultContext SATOSHIS_PER_BTC >>=
      quantize DefaultContext SATOSHI_EXPONENT ROUND_DOWN ≠ .ok d := by
  have hle : (10 : ℚ) ^ (20 : ℤ) ≤ magnitude sats (-8) :=
    not_lt.mp fun hlt => absurd ((magnitude_satoshis_lt_iff sats).mp hlt) (not_lt.mpr h)
  rcases div_satoshis sats with ⟨-, herror⟩ | ⟨-, quotient, exponent, hquotient, hround⟩
  · rw [herror]
    exact nofun
  · -- rounding does not take the digit away
    have hlarge : 10 ^ (SATOSHI_EXPONENT + (DefaultContext.prec : ℤ)) ≤
        magnitude quotient exponent := by
      rw [hround]
      exact zpow_le_round (by decide) hle
    have hquantize : quantize DefaultContext SATOSHI_EXPONENT ROUND_DOWN
        (.finite false quotient exponent) = _ :=
      (quantize_down_spec (by decide) (by decide)).1 hlarge
    rw [hquotient, ok_bind, hquantize]
    exact nofun

/-- **What is written**: eight places, the last of them satoshis. -/
theorem sats_to_btc_string_eq_ok_iff {amount_sats : ℤ} {s : String} :
    sats_to_btc_string amount_sats = .ok s ↔ 0 ≤ amount_sats ∧ amount_sats < 10 ^ 28 ∧
      s = format_f (.finite false amount_sats.toNat (-8)) := by
  by_cases hnonneg : 0 ≤ amount_sats
  swap
  · have herror : sats_to_btc_string amount_sats =
        .error (.ValueError "amount_sats must be non-negative.") := if_pos (not_le.mp hnonneg)
    rw [herror]
    exact iff_of_false nofun fun h => hnonneg h.1
  obtain ⟨sats, rfl⟩ := Int.eq_ofNat_of_zero_le hnonneg
  have hsats : sats_to_btc_string sats = (Decimal.ofInt sats >>= fun amount =>
      amount.div DefaultContext SATOSHIS_PER_BTC >>=
        quantize DefaultContext SATOSHI_EXPONENT ROUND_DOWN) >>= fun btc => pure btc.format_f := by
    rw [sats_to_btc_string, if_neg (not_lt.mpr hnonneg)]
    simp only [bind_assoc]
  have hamount : Decimal.ofInt sats = exact (.finite false sats 0) := by
    rw [Decimal.ofInt, decide_eq_false (not_lt.mpr hnonneg), Int.natAbs_natCast]
  rw [hsats, hamount, Int.toNat_natCast]
  by_cases hlt : sats < 10 ^ 28
  · have hlen : len sats ≤ MAX_PREC :=
      ((len_le_iff (by decide)).mpr hlt).trans (by decide : 28 ≤ MAX_PREC)
    rw [exact_of_len (by decide) le_rfl hlen]
    change ((Decimal.finite false sats 0).div DefaultContext SATOSHIS_PER_BTC >>=
      quantize DefaultContext SATOSHI_EXPONENT ROUND_DOWN) >>= _ = _ ↔ _
    rw [quantize_satoshis_of_lt hlt]
    exact ⟨fun h => ⟨hnonneg, by exact_mod_cast hlt, (Except.ok.inj h).symm⟩,
      fun h => congrArg Except.ok h.2.2.symm⟩
  · refine iff_of_false ?_ fun h => hlt (by exact_mod_cast h.2.1)
    rcases exact_or (.finite false sats 0) with hok | herror
    · rw [hok]
      change ((Decimal.finite false sats 0).div DefaultContext SATOSHIS_PER_BTC >>=
        quantize DefaultContext SATOSHI_EXPONENT ROUND_DOWN) >>= _ ≠ _
      have hnever := quantize_satoshis_of_le (not_lt.mp hlt)
      generalize (Decimal.finite false sats 0).div DefaultContext SATOSHIS_PER_BTC >>=
        quantize DefaultContext SATOSHI_EXPONENT ROUND_DOWN = btc at hnever
      cases btc with
      | error e => exact nofun
      | ok d => exact absurd rfl (hnever d)
    · rw [herror]
      exact nofun

/-! ## Reading back -/

/-- An amount of at most 28 digits is read as it was written. -/
theorem btc_value_to_sats_format_f {sats : ℕ} (h : sats < 10 ^ 28) :
    btc_value_to_sats (.str (format_f (.finite false sats (-8)))) = .ok sats := by
  have hlen : len sats ≤ MAX_PREC :=
    ((len_le_iff (by decide)).mpr h).trans (by decide : 28 ≤ MAX_PREC)
  have hread : ofStr (format_f (.finite false sats (-8))) = .ok (.finite false sats (-8)) := by
    have hexact : exact (.finite false sats (-(8 : ℕ))) = .ok (.finite false sats (-(8 : ℕ))) :=
      exact_of_len (by decide) (by decide) hlen
    exact (ofStr_format_f (by decide)).trans hexact
  have hp : ratio false sats (-8) * 10 ^ 8 = magnitude sats 0 := by
    change magnitude sats (-8) * 10 ^ 8 = magnitude sats 0
    rw [magnitude, magnitude, mul_assoc]
    norm_num
  have hround : DefaultContext.round (magnitude sats 0) = (sats : ℤ) := by
    rw [round_magnitude_of_lt h (by decide), magnitude, zpow_zero, mul_one, Int.cast_natCast]
  have hover : ¬ DefaultContext.Overflows (magnitude sats 0) := by
    have hlt : magnitude sats 0 < 10 ^ (28 : ℤ) := by
      rw [magnitude, zpow_zero, mul_one]
      exact_mod_cast h
    refine not_overflows_of_lt (hlt.trans_le ?_)
    exact zpow_le_zpow_right₀ (by norm_num) (by decide)
  have hnonneg : 0 ≤ ratio false sats (-8) := ratio_nonneg_iff.mpr (.inl rfl)
  have hsats := decimal_to_sats_of_nonneg hnonneg
  dsimp only at hsats
  rw [hp, hround] at hsats
  rw [btc_value_to_sats_str hread]
  -- the product is the amount itself, so that only one of the three cases is left
  rcases hsats with ⟨hyes, -⟩ | ⟨-, ⟨n, hn, hok⟩ | ⟨hno, -⟩⟩
  · exact absurd hyes hover
  · rw [hok, Int.cast_inj.mp hn]
  · exact absurd ⟨(sats : ℤ), rfl⟩ hno

/-- **No amount is silently truncated**: what is written denotes the amount, and it is read back.
Nothing is written for an amount of more than 28 digits. -/
theorem sats_to_btc_string_round_trip (amount_sats : ℤ) (hnonneg : 0 ≤ amount_sats) :
    ((∃ s, sats_to_btc_string amount_sats = .ok s) ↔ amount_sats < 10 ^ 28) ∧
    ∀ s, sats_to_btc_string amount_sats = .ok s →
      IsFixedPoint 8 (amount_sats / 10 ^ 8) s ∧ btc_value_to_sats (.str s) = .ok amount_sats := by
  simp only [sats_to_btc_string_eq_ok_iff]
  refine ⟨⟨fun ⟨_, _, hlt, _⟩ => hlt, fun hlt => ⟨_, hnonneg, hlt, rfl⟩⟩, ?_⟩
  rintro s ⟨-, hlt, rfl⟩
  obtain ⟨sats, rfl⟩ := Int.eq_ofNat_of_zero_le hnonneg
  rw [Int.toNat_natCast, Int.cast_natCast]
  exact ⟨isFixedPoint_format_f sats (by decide : 0 < 8),
    btc_value_to_sats_format_f (by exact_mod_cast hlt)⟩

/-- A fee of 60000 satoshis. -/
theorem sixty_thousand_round_trip :
    ((∃ s, sats_to_btc_string 60000 = .ok s) ↔ (60000 : ℤ) < 10 ^ 28) ∧
    ∀ s, sats_to_btc_string 60000 = .ok s →
      IsFixedPoint 8 ((60000 : ℤ) / 10 ^ 8) s ∧ btc_value_to_sats (.str s) = .ok 60000 :=
  sats_to_btc_string_round_trip 60000 (by decide)

example : sats_to_btc_string 60000 = .ok "0.00060000" := by decide +kernel

end Superorganism.Bitcoin
