/-
`parse_bitcoin_uri` of `core/wallet.py`: the address and the amount of a payment URI.

The amount is converted as it stands. Nothing looks at its sign or catches what `Decimal` and `int`
raise, and the product with 100000000 is rounded to 28 digits before it is cut to an integer.
-/
import Superorganism.Amounts
import Superorganism.Lists

set_option autoImplicit false

open Superorganism.Lists Superorganism.Py Superorganism.Py.Decimal Superorganism.Rounding
open Superorganism.Bitcoin (SATOSHIS_PER_BTC Denotes mul_satoshis)

namespace Superorganism.Spawn

/-! ## The parser -/

/-- The loop over the parameters: the first amount. -/
def first_amount : List (List Char) → Option (List Char)
  | [] => none
  | param :: params =>
    if "amount=".toList <+: param then some (param.drop 7) else first_amount params

/-- The address and the text of the amount, if the URI has both. -/
def address_and_amount (uri : String) : Option (String × String) :=
  if "bitcoin:".toList <+: uri.toList then
    match (uri.toList.drop 8).splitOn '?' with
    | address :: params :: _ =>
      match first_amount (params.splitOn '&') with
      | none => none
      | some amount_btc_str =>
        if address = [] then none else some (String.ofList address, String.ofList amount_btc_str)
    | _ => none
  else none

/-- `int(Decimal(amount_btc_str) * 100_000_000)`. -/
def to_amount_sat (amount_btc_str : String) : Except PyError ℤ := do
  let value ← Decimal.ofStr amount_btc_str
  let sats ← value.mul DefaultContext SATOSHIS_PER_BTC
  sats.int

def parse_bitcoin_uri (uri : String) : Except PyError (Option (String × ℤ)) :=
  match address_and_amount uri with
  | none => pure none
  | some (address, amount_btc_str) => do
    let amount_sat ← to_amount_sat amount_btc_str
    pure (some (address, amount_sat))

/-! ## What is requested -/

/-- The URI is `bitcoin:ADDRESS?PARAM&...&PARAM`, with anything behind another question mark, and
the first amount among the parameters is this one. -/
def Requests (uri address amount : String) : Prop :=
  ∃ earlier later others : List (List Char),
    uri.toList = "bitcoin:".toList ++ ['?'].intercalate (address.toList ::
      ['&'].intercalate (earlier ++ ("amount=".toList ++ amount.toList) :: later) :: others) ∧
    address.toList ≠ [] ∧
    (∀ part ∈ address.toList ::
      ['&'].intercalate (earlier ++ ("amount=".toList ++ amount.toList) :: later) :: others,
      '?' ∉ part) ∧
    (∀ param ∈ earlier ++ ("amount=".toList ++ amount.toList) :: later, '&' ∉ param) ∧
    ∀ param ∈ earlier, ¬ "amount=".toList <+: param

theorem first_amount_eq_some_iff {params : List (List Char)} {amount : List Char} :
    first_amount params = some amount ↔ ∃ earlier later,
      params = earlier ++ ("amount=".toList ++ amount) :: later ∧
      ∀ param ∈ earlier, ¬ "amount=".toList <+: param := by
  induction params with
  | nil =>
      refine iff_of_false nofun ?_
      rintro ⟨earlier, later, hnil, -⟩
      exact absurd hnil.symm (List.append_ne_nil_of_right_ne_nil _ (List.cons_ne_nil _ _))
  | cons param params ih =>
      rw [first_amount]
      split_ifs with hamount
      · obtain ⟨text, rfl⟩ := hamount
        have hdrop : ("amount=".toList ++ text).drop 7 = text := List.drop_left' (by decide)
        rw [hdrop, Option.some.injEq]
        constructor
        · rintro rfl
          exact ⟨[], params, rfl, List.forall_mem_nil _⟩
        · rintro ⟨earlier, later, hparams, hearlier⟩
          cases earlier with
          | nil => exact List.append_cancel_left (List.cons.inj hparams).1
          | cons param' earlier =>
              obtain ⟨rfl, -⟩ := List.cons.inj hparams
              exact absurd (List.prefix_append _ _) (hearlier _ List.mem_cons_self)
      · rw [ih]
        constructor
        · rintro ⟨earlier, later, rfl, hearlier⟩
          refine ⟨param :: earlier, later, rfl, ?_⟩
          exact List.forall_mem_cons.mpr ⟨hamount, hearlier⟩
        · rintro ⟨earlier, later, hparams, hearlier⟩
          cases earlier with
          | nil =>
              obtain ⟨rfl, -⟩ := List.cons.inj hparams
              exact absurd (List.prefix_append _ _) hamount
          | cons param' earlier =>
              obtain ⟨rfl, rfl⟩ := List.cons.inj hparams
              exact ⟨earlier, later, rfl, (List.forall_mem_cons.mp hearlier).2⟩

theorem address_and_amount_eq_some_iff {uri address amount : String} :
    address_and_amount uri = some (address, amount) ↔ Requests uri address amount := by
  unfold address_and_amount
  split_ifs with hscheme
  swap
  · refine iff_of_false nofun ?_
    rintro ⟨earlier, later, others, huri, -⟩
    exact hscheme ⟨_, huri.symm⟩
  -- what is behind the scheme, first split at the marks, then at the ampersands
  obtain ⟨body, hbody⟩ := hscheme
  have hdrop : uri.toList.drop 8 = body := by
    rw [← hbody]
    exact List.drop_left' (by decide)
  rw [hdrop]
  constructor
  · intro h
    split at h
    · rename_i address' query others hparts
      split at h
      · cases h
      · rename_i text hamount
        split_ifs at h with hempty
        cases h
        obtain ⟨earlier, later, hparams, hearlier⟩ := first_amount_eq_some_iff.mp hamount
        obtain ⟨hquery, hsep⟩ := (splitOn_eq_iff (List.append_ne_nil_of_right_ne_nil _
          (List.cons_ne_nil _ _))).mp hparams
        obtain ⟨hjoin, hmark⟩ := (splitOn_eq_iff (List.cons_ne_nil _ _)).mp hparts
        rw [hquery] at hjoin hmark
        have haddress : (String.ofList address').toList = address' := String.toList_ofList
        have htext : (String.ofList text).toList = text := String.toList_ofList
        unfold Requests
        rw [haddress, htext]
        exact ⟨earlier, later, others, by rw [← hbody, hjoin], hempty, hmark, hsep, hearlier⟩
    · cases h
  · rintro ⟨earlier, later, others, huri, hempty, hmark, hsep, hearlier⟩
    rw [← hbody] at huri
    have hparts := (splitOn_eq_iff (List.cons_ne_nil _ _)).mpr
      ⟨List.append_cancel_left huri, hmark⟩
    have hparams := (splitOn_eq_iff (List.append_ne_nil_of_right_ne_nil _
      (List.cons_ne_nil _ _))).mpr ⟨rfl, hsep⟩
    have hamount := first_amount_eq_some_iff.mpr ⟨earlier, later, hparams, hearlier⟩
    rw [hparts]
    dsimp only
    rw [hamount]
    dsimp only
    rw [if_neg hempty, String.ofList_toList, String.ofList_toList]

/-! ## The amount -/

/-- What becomes of the amount, if it denotes a finite number that is not negative. -/
theorem to_amount_sat_of_nonneg {amount : String} {value : ℚ} (hvalue : Denotes (.str amount) value)
    (hnonneg : 0 ≤ value) :
    (DefaultContext.Overflows (value * 10 ^ 8) ∧ to_amount_sat amount = .error .Overflow) ∨
    (¬ DefaultContext.Overflows (value * 10 ^ 8) ∧
      to_amount_sat amount = .ok ⌊DefaultContext.round (value * 10 ^ 8)⌋) := by
  obtain ⟨sign, int, exp, hread, rfl⟩ := hvalue
  have hread : Decimal.ofStr amount = .ok (.finite sign int exp) := hread
  have hmagnitude : ratio sign int exp = magnitude int exp := by
    rcases ratio_nonneg_iff.mp hnonneg with rfl | rfl
    · rfl
    · rw [ratio_zero, magnitude_zero]
  rw [to_amount_sat, hread, ok_bind, hmagnitude]
  rcases mul_satoshis sign int exp with ⟨hover, hproduct⟩ | ⟨hover, int', exp', hproduct, hround⟩
  · rw [hproduct]
    exact .inl ⟨hover, rfl⟩
  · rw [hproduct, ok_bind, int_finite, hround]
    refine .inr ⟨hover, congrArg Except.ok ?_⟩
    rcases ratio_nonneg_iff.mp hnonneg with rfl | rfl
    · rfl
    · -- the negative zero
      rw [magnitude_zero, zero_mul, Context.round, toGrid_zero, Int.floor_zero]
      exact ite_self _

/-! ## The parsed URI -/

/-- Nothing is parsed, or what the URI requests: its address, and its amount in satoshis, rounded
down. The amount is a finite number that is not negative. -/
def ParsedAsRequested (uri : String) : Prop :=
  parse_bitcoin_uri uri = .ok none ∨
  ∃ address amount value, Requests uri address amount ∧ Denotes (.str amount) value ∧ 0 ≤ value ∧
    parse_bitcoin_uri uri = .ok (some (address, ⌊value * 10 ^ 8⌋))

/-- The amount is a finite number that is not negative, and its product does not overflow and is
not rounded across an integer. -/
def PlainAmount (amount : String) : Prop :=
  ∃ value, Denotes (.str amount) value ∧ 0 ≤ value ∧
    ¬ DefaultContext.Overflows (value * 10 ^ 8) ∧
    KeepsFloor (DefaultContext.ulp (value * 10 ^ 8)) (value * 10 ^ 8)

theorem requests_unique {uri address amount address' amount' : String}
    (h : Requests uri address amount) (h' : Requests uri address' amount') :
    address = address' ∧ amount = amount' := by
  have hsome := address_and_amount_eq_some_iff.mpr h
  rw [address_and_amount_eq_some_iff.mpr h'] at hsome
  cases hsome
  exact ⟨rfl, rfl⟩

theorem parse_of_requests {uri address amount : String} (h : Requests uri address amount) :
    parse_bitcoin_uri uri =
      to_amount_sat amount >>= fun amount_sat => pure (some (address, amount_sat)) := by
  rw [parse_bitcoin_uri, address_and_amount_eq_some_iff.mpr h]

theorem parse_of_not_requests {uri : String} (h : ∀ address amount, ¬ Requests uri address amount) :
    parse_bitcoin_uri uri = .ok none := by
  have hnone : address_and_amount uri = none := by
    cases hsome : address_and_amount uri with
    | none => rfl
    | some request => exact absurd (address_and_amount_eq_some_iff.mp hsome) (h _ _)
  rw [parse_bitcoin_uri, hnone]
  rfl

theorem denotes_unique {amount : String} {value value' : ℚ} (h : Denotes (.str amount) value)
    (h' : Denotes (.str amount) value') : value = value' := by
  obtain ⟨sign, int, exp, hread, rfl⟩ := h
  obtain ⟨sign', int', exp', hread', rfl⟩ := h'
  cases hread.symm.trans hread'
  rfl

theorem to_amount_sat_eq_floor_iff {amount : String} {value : ℚ}
    (hvalue : Denotes (.str amount) value) (hnonneg : 0 ≤ value) :
    to_amount_sat amount = .ok ⌊value * 10 ^ 8⌋ ↔ PlainAmount amount := by
  have hplain : PlainAmount amount ↔ ¬ DefaultContext.Overflows (value * 10 ^ 8) ∧
      KeepsFloor (DefaultContext.ulp (value * 10 ^ 8)) (value * 10 ^ 8) := by
    constructor
    · rintro ⟨value', hvalue', -, hrest⟩
      rwa [denotes_unique hvalue hvalue']
    · rintro hrest
      exact ⟨value, hvalue, hnonneg, hrest⟩
  rw [hplain, ← floor_toGrid_eq_iff (DefaultContext.ulp_pos _) (DefaultContext.fits_ulp _)]
  rcases to_amount_sat_of_nonneg hvalue hnonneg with ⟨hover, herror⟩ | ⟨hover, hok⟩
  · rw [herror]
    exact iff_of_false nofun fun h => h.1 hover
  · rw [hok, Except.ok.injEq]
    exact (and_iff_right hover).symm

/-- **When a URI is parsed as it requests**: when it requests nothing, or a plain amount. -/
theorem parsed_as_requested_iff (uri : String) :
    ParsedAsRequested uri ↔ ∀ address amount, Requests uri address amount → PlainAmount amount := by
  constructor
  · -- a request is unique, so that the parsed one is the one given
    intro hparsed address amount hrequest
    have hparse := parse_of_requests hrequest
    rcases hparsed with hnone | ⟨address', amount', value, hrequest', hvalue, hnonneg, hsome⟩
    · rw [hnone] at hparse
      cases hsat : to_amount_sat amount with
      | error e =>
          rw [hsat] at hparse
          cases hparse
      | ok amount_sat =>
          rw [hsat] at hparse
          cases hparse
    · obtain ⟨rfl, rfl⟩ := requests_unique hrequest hrequest'
      refine (to_amount_sat_eq_floor_iff hvalue hnonneg).mp ?_
      rw [hsome] at hparse
      obtain ⟨amount_sat, hsat, hpair⟩ := bind_eq_ok.mp hparse.symm
      cases hpair
      exact hsat
  · intro hplain
    by_cases hrequest : ∃ address amount, Requests uri address amount
    · obtain ⟨address, amount, hrequest⟩ := hrequest
      obtain ⟨value, hvalue, hnonneg, hrest⟩ := hplain address amount hrequest
      refine .inr ⟨address, amount, value, hrequest, hvalue, hnonneg, ?_⟩
      have hsat := (to_amount_sat_eq_floor_iff hvalue hnonneg).mpr ⟨value, hvalue, hnonneg, hrest⟩
      rw [parse_of_requests hrequest, hsat]
      rfl
    · refine .inl (parse_of_not_requests fun address amount h => hrequest ⟨address, amount, h⟩)

/-- An amount that is no number is raised out of the parser, and a negative one is passed on. -/
theorem word_is_raised :
    parse_bitcoin_uri "bitcoin:bc1qinvoice?amount=abc" = .error .InvalidOperation ∧
    ¬ ParsedAsRequested "bitcoin:bc1qinvoice?amount=abc" ∧
    parse_bitcoin_uri "bitcoin:bc1qinvoice?amount=-1" =
      .ok (some ("bc1qinvoice", -100000000)) := by
  have herror : parse_bitcoin_uri "bitcoin:bc1qinvoice?amount=abc" = .error .InvalidOperation := by
    decide +kernel
  refine ⟨herror, ?_, by decide +kernel⟩
  rintro (hnone | ⟨address, amount, value, -, -, -, hsome⟩)
  · rw [herror] at hnone
    cases hnone
  · rw [herror] at hsome
    cases hsome

example : parse_bitcoin_uri "bitcoin:bc1qinvoice?label=vps&amount=0.0006&amount=2" =
    .ok (some ("bc1qinvoice", 60000)) := by
  decide +kernel

end Superorganism.Spawn
