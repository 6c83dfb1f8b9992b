/-
Numerals: what `format(d, "f")` writes, `Decimal(s)` reads.

A text of digits with a point among them is read as the digits without the point, and one place
behind the point is one down of the exponent. A number with so many places is written with exactly
these digits, zeros in front included.
-/
import Superorganism.DecimalRounding

set_option autoImplicit false

namespace Superorganism.Py.Decimal

/-! ## Fixed point -/

/-- The text is a decimal fraction with so many places, and denotes the value. -/
def IsFixedPoint (places : ℕ) (value : ℚ) (s : String) : Prop :=
  ∃ whole frac : List Char, s = String.ofList (whole ++ '.' :: frac) ∧ whole ≠ [] ∧
    (∀ c ∈ whole ++ frac, c.isDigit = true) ∧ frac.length = places ∧
    value = Nat.ofDigitChars 10 whole 0 + Nat.ofDigitChars 10 frac 0 / 10 ^ places

/-! ## Padding -/

theorem isDigit_zeroPadded {width n : ℕ} : ∀ c ∈ zeroPadded width n, c.isDigit = true := by
  intro c hc
  rcases List.mem_append.mp hc with hzero | hdigit
  · rw [List.eq_of_mem_replicate hzero]
    rfl
  · exact Nat.isDigit_of_mem_toDigits (by decide) (by decide) hdigit

theorem le_length_zeroPadded (width n : ℕ) : width ≤ (zeroPadded width n).length := by
  unfold zeroPadded
  simp only [List.length_append, List.length_replicate]
  omega

theorem ofDigitChars_zeroPadded (width n : ℕ) : Nat.ofDigitChars 10 (zeroPadded width n) 0 = n := by
  unfold zeroPadded
  rw [Nat.ofDigitChars_append, Nat.ofDigitChars_replicate_zero, mul_zero,
    Nat.ofDigitChars_ten_toDigits]

/-! ## Writing -/

/-- What is written for a number with places behind the point. -/
theorem format_f_eq (int : ℕ) {places : ℕ} (hplaces : 0 < places) :
    ∃ whole frac, format_f (.finite false int (-places)) = String.ofList (whole ++ '.' :: frac) ∧
      whole ≠ [] ∧ (∀ c ∈ whole ++ frac, c.isDigit = true) ∧ frac.length = places ∧
      Nat.ofDigitChars 10 (whole ++ frac) 0 = int := by
  let digits := zeroPadded (places + 1) int
  have hlength : places + 1 ≤ digits.length := le_length_zeroPadded _ int
  have hsplit : digits.take (digits.length - places) ++ digits.drop (digits.length - places) =
    digits := List.take_append_drop _ _
  refine ⟨digits.take (digits.length - places), digits.drop (digits.length - places),
    ?_, ?_, ?_, ?_, ?_⟩
  · have hneg : ¬ (0 : ℤ) ≤ -places := by omega
    unfold format_f
    dsimp only
    rw [if_neg hneg, neg_neg, Int.toNat_natCast]
    rfl
  · intro hnil
    have := congrArg List.length hnil
    rw [List.length_take, List.length_nil] at this
    omega
  · rw [hsplit]
    exact isDigit_zeroPadded
  · rw [List.length_drop]
    omega
  · rw [hsplit]
    exact ofDigitChars_zeroPadded _ int

theorem isFixedPoint_format_f (int : ℕ) {places : ℕ} (hplaces : 0 < places) :
    IsFixedPoint places (int / 10 ^ places) (format_f (.finite false int (-places))) := by
  obtain ⟨whole, frac, htext, hwhole, hdigits, hfrac, hint⟩ := format_f_eq int hplaces
  refine ⟨whole, frac, htext, hwhole, hdigits, hfrac, ?_⟩
  rw [Nat.ofDigitChars_append, Nat.ofDigitChars_eq_ofDigitChars_zero, hfrac] at hint
  rw [← hint]
  push_cast
  field_simp

/-! ## Reading -/

/-- A character of a plain numeral. -/
def isPlain (c : Char) : Bool := c.isDigit || c == '.' || c == '-'

theorem isPlain_of_isDigit {c : Char} (h : c.isDigit = true) : isPlain c = true := by
  rw [isPlain, h, Bool.true_or, Bool.true_or]

theorem isPlain_range {c : Char} (h : isPlain c = true) : 45 ≤ c.toNat ∧ c.toNat ≤ 57 := by
  rw [isPlain, Bool.or_eq_true, Bool.or_eq_true, beq_iff_eq, beq_iff_eq, Char.isDigit,
    Bool.and_eq_true, decide_eq_true_eq, decide_eq_true_eq] at h
  rcases h with (⟨hlow, hhigh⟩ | rfl) | rfl
  · exact ⟨le_trans (by decide) (UInt32.le_iff_toNat_le.mp hlow), UInt32.le_iff_toNat_le.mp hhigh⟩
  · decide
  · decide

theorem isspace_of_isPlain {c : Char} (h : isPlain c = true) : isspace c = false := by
  have hrange := isPlain_range h
  simp only [isspace, Bool.or_eq_false_iff, Bool.and_eq_false_iff, decide_eq_false_iff_not,
    beq_eq_false_iff_ne]
  omega

/-- Nothing is stripped or removed or replaced in a plain numeral. -/
theorem ofStr_of_isPlain {cs : List Char} (h : ∀ c ∈ cs, isPlain c = true) {d : Decimal}
    (hread : read cs = some d) : ofStr (String.ofList cs) = d.exact := by
  have hdrop : cs.dropWhile isspace = cs := by
    cases cs with
    | nil => rfl
    | cons c rest =>
        have hc : ¬ isspace c = true := by
          rw [isspace_of_isPlain (h c List.mem_cons_self)]
          exact Bool.false_ne_true
        exact List.dropWhile_cons_of_neg hc
  have hrdrop : cs.rdropWhile isspace = cs := by
    rw [List.rdropWhile_eq_self_iff]
    intro hne hspace
    rw [isspace_of_isPlain (h _ (List.getLast_mem hne))] at hspace
    cases hspace
  have hfilter : cs.filter (· ≠ '_') = cs := by
    refine List.filter_eq_self.mpr fun c hc => decide_eq_true ?_
    rintro rfl
    exact absurd (isPlain_range (h _ hc)) (by decide)
  have hascii : cs.map toAscii = cs := by
    refine (List.map_congr_left fun c hc => ?_).trans (List.map_id cs)
    have hrange := isPlain_range (h c hc)
    exact if_pos (by omega)
  have hchars : ((strip (String.ofList cs)).toList.filter (· ≠ '_')).map toAscii = cs := by
    rw [strip, String.toList_ofList, String.toList_ofList, hdrop, hrdrop, hfilter, hascii]
  simp only [ofStr, hchars, hread]

theorem ne_of_isDigit {d c : Char} (hd : d.isDigit = true) (hc : c.isDigit = false) : d ≠ c := by
  rintro rfl
  rw [hd] at hc
  cases hc

theorem splitSign_of_isDigit {d : Char} (hd : d.isDigit = true) (cs : List Char) :
    splitSign (d :: cs) = (false, d :: cs) := by
  unfold splitSign
  split
  · rename_i heq
    exact absurd (List.cons.inj heq).1 (ne_of_isDigit hd rfl)
  · rename_i heq
    exact absurd (List.cons.inj heq).1 (ne_of_isDigit hd rfl)
  · rfl

theorem toLower_of_isDigit {d : Char} (hd : d.isDigit = true) : d.toLower = d := by
  refine dif_neg fun hupper => ?_
  rw [Char.isDigit, Bool.and_eq_true, decide_eq_true_eq, decide_eq_true_eq] at hd
  have hle := UInt32.le_iff_toNat_le.mp hd.2
  have hge := UInt32.le_iff_toNat_le.mp hupper.1
  exact absurd (hge.trans hle) (by decide)

/-- What begins with a digit, a sign aside, is no word. -/
theorem read_of_isDigit {cs rest : List Char} {sign : Bool} {d : Char} (hd : d.isDigit = true)
    (hsign : splitSign cs = (sign, d :: rest)) : read cs = readNumber sign (d :: rest) := by
  have hne (c : Char) (hc : c.isDigit = false) : d ≠ c := ne_of_isDigit hd hc
  unfold read
  rw [hsign]
  dsimp only
  rw [List.map_cons, toLower_of_isDigit hd, if_neg, if_neg, if_neg]
  · rintro ⟨hword, -⟩
    exact hne 's' rfl (List.cons_prefix_cons.mp hword).1.symm
  · rintro ⟨hword, -⟩
    exact hne 'n' rfl (List.cons_prefix_cons.mp hword).1.symm
  · rintro (hword | hword) <;> exact hne 'i' rfl (List.cons.inj hword).1

theorem read_fixed_point {whole frac : List Char} (hwhole : whole ≠ [])
    (hdigits : ∀ c ∈ whole ++ frac, c.isDigit = true) : read (whole ++ '.' :: frac) =
      some (.finite false (Nat.ofDigitChars 10 (whole ++ frac) 0) (-frac.length)) := by
  have hfrac (c : Char) (hc : c ∈ frac) : c.isDigit = true :=
    hdigits c (List.mem_append_right _ hc)
  have hfront (c : Char) (hc : c ∈ whole) : c.isDigit = true :=
    hdigits c (List.mem_append_left _ hc)
  have htake : (whole ++ '.' :: frac).takeWhile Char.isDigit = whole := by
    rw [List.takeWhile_append_of_pos hfront, List.takeWhile_cons_of_neg (by decide),
      List.append_nil]
  have hdrop : (whole ++ '.' :: frac).dropWhile Char.isDigit = '.' :: frac := by
    rw [List.dropWhile_append_of_pos hfront, List.dropWhile_cons_of_neg (by decide)]
  obtain ⟨d, ds, hcons⟩ := List.exists_cons_of_ne_nil hwhole
  have hread : read (whole ++ '.' :: frac) = readNumber false (whole ++ '.' :: frac) := by
    rw [hcons, List.cons_append]
    have hd : d.isDigit = true := hfront d (by rw [hcons]; exact List.mem_cons_self)
    exact read_of_isDigit hd (splitSign_of_isDigit hd _)
  have hsplit : splitFraction ('.' :: frac) = (frac, []) := by
    rw [splitFraction, List.takeWhile_eq_self_iff.mpr hfrac, List.dropWhile_eq_nil_iff.mpr hfrac]
  rw [hread, readNumber, htake, hdrop, hsplit]
  dsimp only
  rw [if_neg fun h => hwhole h.1, readExponent, Option.map_some, zero_sub]

/-- An integer: digits, with a minus in front or not. -/
theorem read_integer (sign : Bool) {digits : List Char} (hne : digits ≠ [])
    (hdigits : ∀ c ∈ digits, c.isDigit = true) :
    read ((if sign then ['-'] else []) ++ digits) =
      some (.finite sign (Nat.ofDigitChars 10 digits 0) 0) := by
  obtain ⟨d, ds, rfl⟩ := List.exists_cons_of_ne_nil hne
  have hd : d.isDigit = true := hdigits d List.mem_cons_self
  have hsign : splitSign ((if sign then ['-'] else []) ++ d :: ds) = (sign, d :: ds) := by
    cases sign with
    | false => exact splitSign_of_isDigit hd ds
    | true => rfl
  have hsplit : splitFraction [] = ([], []) := rfl
  rw [read_of_isDigit hd hsign, readNumber, List.takeWhile_eq_self_iff.mpr hdigits,
    List.dropWhile_eq_nil_iff.mpr hdigits, hsplit]
  dsimp only
  rw [if_neg fun h => hne h.1, List.append_nil, readExponent, Option.map_some]
  rfl

/-! ## Construction -/

theorem exact_or (d : Decimal) : exact d = .ok d ∨ exact d = .error .InvalidOperation := by
  cases d with
  | finite sign int exp => exact ite_eq_or_eq _ _ _
  | infinity sign => exact .inl rfl
  | nan signaling => exact .inl rfl

theorem exact_of_len {sign : Bool} {int : ℕ} {exp : ℤ} (htiny : MIN_ETINY ≤ exp) (hexp : exp ≤ 0)
    (hlen : len int ≤ MAX_PREC) : exact (.finite sign int exp) = .ok (.finite sign int exp) := by
  have hprec : (MAX_PREC : ℤ) = MAX_EMAX := rfl
  refine if_pos ⟨htiny, ?_⟩
  split_ifs
  · exact hexp.trans (by decide)
  · omega

/-- What is written is read as it was, if the library can represent it. -/
theorem ofStr_format_f {int places : ℕ} (hplaces : 0 < places) :
    ofStr (format_f (.finite false int (-places))) = exact (.finite false int (-places)) := by
  obtain ⟨whole, frac, htext, hwhole, hdigits, hfrac, hint⟩ := format_f_eq int hplaces
  have hplain : ∀ c ∈ whole ++ '.' :: frac, isPlain c = true := by
    intro c hc
    rcases List.mem_append.mp hc with hfront | hback
    · exact isPlain_of_isDigit (hdigits c (List.mem_append_left _ hfront))
    · rcases List.mem_cons.mp hback with rfl | hback
      · rfl
      · exact isPlain_of_isDigit (hdigits c (List.mem_append_right _ hback))
  rw [htext, ofStr_of_isPlain hplain (read_fixed_point hwhole hdigits), hint, hfrac]

/-- The text of an integer is read as the integer. -/
theorem ofStr_integer (n : ℤ) :
    ofStr (String.ofList ((if n < 0 then ['-'] else []) ++ Nat.toDigits 10 n.natAbs)) =
      ofInt n := by
  have hdigits (c : Char) (hc : c ∈ Nat.toDigits 10 n.natAbs) : c.isDigit = true :=
    Nat.isDigit_of_mem_toDigits (by decide) (by decide) hc
  have hplain : ∀ c ∈ (if n < 0 then ['-'] else []) ++ Nat.toDigits 10 n.natAbs,
      isPlain c = true := by
    intro c hc
    rcases List.mem_append.mp hc with hsign | hdigit
    · split_ifs at hsign
      · rw [List.mem_singleton.mp hsign]
        rfl
      · exact absurd hsign List.not_mem_nil
    · exact isPlain_of_isDigit (hdigits c hdigit)
  have hread := read_integer (decide (n < 0)) Nat.toDigits_ne_nil hdigits
  simp only [decide_eq_true_eq] at hread
  rw [ofStr_of_isPlain hplain hread, Nat.ofDigitChars_ten_toDigits]
  rfl

end Superorganism.Py.Decimal
