/-
`authentication/services/registration_service.py`, and the checks of
`authentication/transaction_verification/base_verifier.py` that it rests on.

A registration is accepted for a payment to the treasury that carries the commitment of
its public key in an `OP_RETURN` output. The service refuses a key it has stored already;
it never asks whether the transaction was used before. What keeps two keys apart is the
commitment: different keys need different `OP_RETURN` outputs. A transaction with two of
them registers two keys, and its payment, which is summed over the whole transaction,
counts for both (`one_payment_two_keys`).

So receipts are counted by transaction, not by key (`registrations_paid`): each accepted
transaction paid the fee once, and it was accepted for at most as many keys as it has
`OP_RETURN` outputs with a payload.

`str.lower`, SHA-256 and the node's answers are parameters; the node may answer
differently at every call. A transaction is identified by the bytes its id spells.
-/
import Mathlib.Algebra.Order.BigOperators.Group.Finset
import Superorganism.Authentication

set_option autoImplicit false

open Superorganism.Bytes Superorganism.Py Superorganism.Bitcoin

namespace Superorganism.Authentication

/-! ## Transactions -/

structure NormalizedTxOutput where
  value_sats : ℤ
  address : Option String
  script_hex : String
deriving DecidableEq, Repr

structure NormalizedTransaction where
  txid : String
  confirmations : ℤ
  outputs : List NormalizedTxOutput
deriving DecidableEq, Repr

/-- What `_fetch_transaction` raises. -/
inductive FetchError where
  | TransactionFetchError (message : String)
  | other (e : PyError)
deriving DecidableEq, Repr

/-- `_fetch_transaction` of a backend, as it answers during one call. -/
abbrev Fetch := String → Except FetchError (Option NormalizedTransaction)

def MIN_CONFIRMATIONS : ℤ := 1

namespace BaseVerifier

/-- `s[i:j]`. -/
def slice (i j : ℕ) (s : List Char) : List Char := (s.drop i).take (j - i)

/-- `int(s, 16)` of two characters: a sign and blanks are allowed, and digits of other scripts. -/
def int16 (s : List Char) : Option ℤ :=
  match ((s.map toAscii).dropWhile isSpace).rdropWhile isSpace with
  | ['+', d] => (hexValue d).map fun n => (n : ℤ)
  | ['-', d] => (hexValue d).map fun n => -(n : ℤ)
  | [d] => (hexValue d).map fun n => (n : ℤ)
  | [c, d] => match hexValue c, hexValue d with
    | some a, some b => some (16 * a + b)
    | _, _ => none
  | _ => none

/-- `int.from_bytes(bytes.fromhex(s), "little")`. -/
def int_from_hex_le (s : List Char) : Option ℤ := (fromhexChars s).map fun bs => (natOfLE bs : ℤ)

/-- The length of the push in bytes, and where its payload begins. -/
def push_length (opcode : ℤ) (cursor : ℕ) (script_hex : List Char) : Option (ℤ × ℕ) :=
  let read (digits : ℕ) (length : List Char → Option ℤ) : Option (ℤ × ℕ) :=
    if script_hex.length < cursor + digits then none
    else (length (slice cursor (cursor + digits) script_hex)).map (·, cursor + digits)
  if opcode = 0x00 then some (0, cursor)
  else if 0x01 ≤ opcode ∧ opcode ≤ 0x4b then some (opcode, cursor)
  else if opcode = 0x4c then read 2 int16
  else if opcode = 0x4d then read 4 int_from_hex_le
  else if opcode = 0x4e then read 8 int_from_hex_le
  else none

section
variable (lower : String → String)

def _sum_outputs_for_address (tx : NormalizedTransaction) (address : String) : ℤ :=
  ((tx.outputs.filter (·.address = some address)).map (·.value_sats)).sum

def _extract_op_return_payload_hex (script_hex : String) : Option String :=
  let script_hex := (lower (strip script_hex)).toList
  if script_hex.length % 2 ≠ 0 then none
  else if ¬ ['6', 'a'] <+: script_hex then none
  else if script_hex.length < 4 then none
  else
    match int16 (slice 2 4 script_hex) with
    | none => none
    | some opcode =>
      match push_length opcode 4 script_hex with
      | none => none
      | some (payload_len_bytes, cursor) =>
        let payload_len_hex := payload_len_bytes * 2
        if (script_hex.length : ℤ) ≠ cursor + payload_len_hex then none
        else
          let payload_hex := slice cursor (cursor + payload_len_hex.toNat) script_hex
          match fromhexChars payload_hex with
          | none => none
          | some _ => some (String.ofList payload_hex)

/-- The payload of an output that the loop over the outputs does not skip. -/
def op_return_payload (output : NormalizedTxOutput) : Option String :=
  if ¬ ['6', 'a'] <+: (lower (strip output.script_hex)).toList then none
  else _extract_op_return_payload_hex lower output.script_hex

def _contains_registration_commitment (tx : NormalizedTransaction) (expected_commitment : String) :
    Bool :=
  let normalized_expected := lower (strip expected_commitment)
  if normalized_expected = "" then false
  else
    match fromhex normalized_expected with
    | none => false
    | some _ => tx.outputs.any (op_return_payload lower · = some normalized_expected)

def verify (_fetch_transaction : Fetch) (request : TransactionVerificationRequest) :
    Except PyError TransactionVerificationResult :=
  match _fetch_transaction request.txid with
  | .error (.TransactionFetchError exc) =>
    .ok ⟨false, some ("Transaction verification failed: " ++ exc), none, none⟩
  -- `except TransactionFetchError` lets the other exceptions through
  | .error (.other e) => .error e
  | .ok none => .ok ⟨false, some "Transaction not found.", none, none⟩
  | .ok (some tx) =>
    if tx.confirmations < MIN_CONFIRMATIONS then
      .ok ⟨false, some "Transaction does not have enough confirmations.", none,
        some tx.confirmations⟩
    else
      let amount_paid_sats := _sum_outputs_for_address tx request.expected_treasury_address
      if amount_paid_sats < request.expected_fee_sats then
        .ok ⟨false, some "Transaction paid too little to the treasury address.",
          some amount_paid_sats, some tx.confirmations⟩
      else if _contains_registration_commitment lower tx request.expected_registration_commitment =
          false then
        .ok ⟨false, some "Transaction does not contain the expected registration commitment.",
          some amount_paid_sats, some tx.confirmations⟩
      else .ok ⟨true, none, some amount_paid_sats, some tx.confirmations⟩

/-! ## What a verification has checked -/

variable {lower}

/-- The payloads of the `OP_RETURN` outputs that push exactly one. -/
def op_return_payloads (lower : String → String) (outputs : List NormalizedTxOutput) :
    List String :=
  outputs.filterMap (op_return_payload lower)

theorem contains_registration_commitment {tx : NormalizedTransaction} {commitment : String}
    (h : _contains_registration_commitment lower tx commitment = true) :
    lower (strip commitment) ∈ op_return_payloads lower tx.outputs := by
  unfold _contains_registration_commitment at h
  dsimp only at h
  by_cases hempty : lower (strip commitment) = ""
  · rw [if_pos hempty] at h
    exact absurd h Bool.false_ne_true
  rw [if_neg hempty] at h
  cases hraw : fromhex (lower (strip commitment)) with
  | none =>
      rw [hraw] at h
      exact absurd h Bool.false_ne_true
  | some raw =>
      rw [hraw] at h
      obtain ⟨output, hmem, hout⟩ := List.any_eq_true.mp h
      exact List.mem_filterMap.mpr ⟨output, hmem, of_decide_eq_true hout⟩

/-- **A transaction that verifies** is one the node returned; it paid the fee in total and
pushes the commitment. -/
theorem verify_success {fetch : Fetch} {request : TransactionVerificationRequest}
    {result : TransactionVerificationResult} (h : verify lower fetch request = .ok result)
    (hsuccess : result.success = true) :
    ∃ tx, fetch request.txid = .ok (some tx) ∧
      request.expected_fee_sats ≤ _sum_outputs_for_address tx request.expected_treasury_address ∧
      lower (strip request.expected_registration_commitment) ∈
        op_return_payloads lower tx.outputs := by
  unfold verify at h
  cases hfetch : fetch request.txid with
  | error e =>
      rw [hfetch] at h
      cases e with
      | TransactionFetchError exc =>
          cases h
          exact absurd hsuccess Bool.false_ne_true
      | other e => exact nomatch h
  | ok found =>
      rw [hfetch] at h
      cases found with
      | none =>
          cases h
          exact absurd hsuccess Bool.false_ne_true
      | some tx =>
          dsimp only at h
          -- too few confirmations, too little paid, no commitment: each answers without success
          split_ifs at h with hconfirmations hpaid hcommitment
          · cases h
            exact absurd hsuccess Bool.false_ne_true
          · cases h
            exact absurd hsuccess Bool.false_ne_true
          · cases h
            exact absurd hsuccess Bool.false_ne_true
          · rw [Bool.not_eq_false] at hcommitment
            exact ⟨tx, rfl, not_lt.mp hpaid, contains_registration_commitment hcommitment⟩

end

end BaseVerifier

/-! ## The service -/

structure ApplicationIdentity where
  public_key_hex : String
  private_key_hex : String
deriving DecidableEq, Repr

structure RegistrationResult where
  success : Bool
  public_key_hex : Option String
  reason : Option String
  txid : Option String
  registered_at : Option ℤ
deriving DecidableEq, Repr

structure StoredRegistration where
  public_key_hex : String
  private_key_hex : String
  txid : String
  registered_at : ℤ
deriving DecidableEq, Repr

/-- `JsonRegistrationStore`: the records under the text of their public key. -/
abbrev RegistrationStore := PyDict String StoredRegistration

structure RegistrationService where
  lower : String → String
  sha256 : List UInt8 → List UInt8
  expected_treasury_address : String
  expected_fee_sats : ℕ

/-- A call of `register`: its time, and what the node answers during it. -/
structure RegisterCall where
  now : ℤ
  fetch : Fetch
  identity : ApplicationIdentity
  txid : String

/-- What the node returns during the call is on the chain, which has the transactions by
the bytes of their id: the outputs are those of the transaction asked for. -/
def RegisterCall.Reads (call : RegisterCall) (chain : List UInt8 → NormalizedTransaction) : Prop :=
  ∀ txid tx raw, call.fetch txid = .ok (some tx) → fromhex txid = some raw →
    tx.outputs = (chain raw).outputs

namespace RegistrationService

variable (service : RegistrationService)

def compute_registration_commitment (public_key_bytes : List UInt8) : String :=
  hex (service.sha256 (utf8 REGISTRATION_PROTOCOL_LABEL ++ utf8 NETWORK_ID ++ public_key_bytes))

/-- The message of `bytes.fromhex` is given without the position it ends with. -/
def registration_commitment_hex (identity : ApplicationIdentity) : Except PyError String :=
  match fromhex identity.public_key_hex with
  | none => .error (.ValueError "non-hexadecimal number found in fromhex() arg")
  | some public_key_bytes => .ok (service.compute_registration_commitment public_key_bytes)

def register (call : RegisterCall) (store : RegistrationStore) :
    Except PyError RegistrationResult × RegistrationStore :=
  let identity := call.identity
  match validate_txid call.txid with
  | .error e =>
    -- `except ValueError`
    if e.isValueError then
      (.ok ⟨false, some identity.public_key_hex,
        some "Transaction ID must be a 64-character hexadecimal string.", none, none⟩, store)
    else (.error e, store)
  | .ok normalized_txid =>
    match store.get? identity.public_key_hex with
    | some existing =>
      (.ok ⟨false, some identity.public_key_hex, some "Public key is already registered.",
        some existing.txid, some existing.registered_at⟩, store)
    | none =>
      match service.registration_commitment_hex identity with
      | .error e => (.error e, store)
      | .ok commitment =>
        match BaseVerifier.verify service.lower call.fetch ⟨normalized_txid,
            service.expected_treasury_address, service.expected_fee_sats, commitment⟩ with
        | .error e => (.error e, store)
        | .ok tx_result =>
          if tx_result.success = false then
            (.ok ⟨false, some identity.public_key_hex, tx_result.reason, none, none⟩, store)
          else
            (.ok ⟨true, some identity.public_key_hex, none, some normalized_txid, some call.now⟩,
              store.set identity.public_key_hex ⟨identity.public_key_hex,
                identity.private_key_hex, normalized_txid, call.now⟩)

/-- The public key and the transaction of a call that registers: the bytes their texts
spell. -/
def acceptance (call : RegisterCall) (store : RegistrationStore) :
    Option (List UInt8 × List UInt8) :=
  match (service.register call store).1 with
  | .ok ⟨true, some public_key_hex, _, some txid, _⟩ =>
    match fromhex public_key_hex, fromhex txid with
    | some public_key, some transaction => some (public_key, transaction)
    | _, _ => none
  | _ => none

/-- The public keys that a run registers, each with the transaction it was accepted for. -/
def accepted (store : RegistrationStore) : List RegisterCall → Finset (List UInt8 × List UInt8)
  | [] => ∅
  | call :: calls =>
    (service.acceptance call store).toFinset ∪ accepted (service.register call store).2 calls

/-! ## One registration -/

/-- What a transaction paid to the treasury. -/
def receipt (chain : List UInt8 → NormalizedTransaction) (transaction : List UInt8) : ℤ :=
  BaseVerifier._sum_outputs_for_address (chain transaction) service.expected_treasury_address

/-- The payloads a transaction pushes in its `OP_RETURN` outputs. -/
def payloads (chain : List UInt8 → NormalizedTransaction) (transaction : List UInt8) :
    List String :=
  BaseVerifier.op_return_payloads service.lower (chain transaction).outputs

/-- A registration that is paid for: the transaction paid the fee, and pushes the
commitment of the key. -/
structure PaidFor (chain : List UInt8 → NormalizedTransaction)
    (registration : List UInt8 × List UInt8) : Prop where
  fee : (service.expected_fee_sats : ℤ) ≤ service.receipt chain registration.2
  commitment : service.compute_registration_commitment registration.1 ∈
    service.payloads chain registration.2

variable {service}

theorem sum_outputs_congr {tx tx' : NormalizedTransaction} (h : tx.outputs = tx'.outputs)
    (address : String) :
    BaseVerifier._sum_outputs_for_address tx address =
      BaseVerifier._sum_outputs_for_address tx' address := by
  rw [BaseVerifier._sum_outputs_for_address, h]
  rfl

/-- What a call that answers with success has done. -/
theorem register_success {call : RegisterCall} {store : RegistrationStore}
    {result : RegistrationResult} (h : (service.register call store).1 = .ok result)
    (hsuccess : result.success = true) :
    result.public_key_hex = some call.identity.public_key_hex ∧
      ∃ txid commitment tx_result, result.txid = some txid ∧
        service.registration_commitment_hex call.identity = .ok commitment ∧
        BaseVerifier.verify service.lower call.fetch ⟨txid, service.expected_treasury_address,
          service.expected_fee_sats, commitment⟩ = .ok tx_result ∧ tx_result.success = true := by
  -- one case for each way out; all but the last are exceptions or refusals
  unfold register at h
  dsimp only at h
  cases htxid : validate_txid call.txid with
  | error e =>
      simp only [htxid] at h
      by_cases he : e.isValueError = true
      · rw [if_pos he] at h
        cases h
        exact absurd hsuccess Bool.false_ne_true
      · rw [if_neg he] at h
        cases h
  | ok txid =>
      simp only [htxid] at h
      cases hexisting : store.get? call.identity.public_key_hex with
      | some existing =>
          simp only [hexisting] at h
          cases h
          exact absurd hsuccess Bool.false_ne_true
      | none =>
          simp only [hexisting] at h
          cases hcommitment : service.registration_commitment_hex call.identity with
          | error e =>
              simp only [hcommitment] at h
              cases h
          | ok commitment =>
              simp only [hcommitment] at h
              cases hverify : BaseVerifier.verify service.lower call.fetch ⟨txid,
                  service.expected_treasury_address, service.expected_fee_sats, commitment⟩ with
              | error e =>
                  simp only [hverify] at h
                  cases h
              | ok tx_result =>
                  simp only [hverify] at h
                  by_cases hfailed : tx_result.success = false
                  · rw [if_pos hfailed] at h
                    cases h
                    exact absurd hsuccess Bool.false_ne_true
                  · rw [if_neg hfailed] at h
                    cases h
                    exact ⟨rfl, txid, commitment, tx_result, rfl, rfl, hverify,
                      Bool.not_eq_false _ ▸ hfailed⟩

/-- **Every registration is paid for**, by the transaction it was accepted for. -/
theorem acceptance_paidFor {chain : List UInt8 → NormalizedTransaction} {call : RegisterCall}
    {store : RegistrationStore} {registration : List UInt8 × List UInt8}
    (hlower : ∀ bs, service.lower (hex bs) = hex bs) (hreads : call.Reads chain)
    (h : service.acceptance call store = some registration) :
    service.PaidFor chain registration := by
  unfold acceptance at h
  split at h
  · rename_i public_key_hex reason txid registered_at hresult
    obtain ⟨hkey, txid', commitment, tx_result, htxid, hcommitment, hverify, hok⟩ :=
      register_success hresult rfl
    cases hkey
    cases htxid
    unfold registration_commitment_hex at hcommitment
    cases hraw : fromhex call.identity.public_key_hex with
    | none =>
        rw [hraw] at hcommitment
        exact nomatch hcommitment
    | some public_key =>
        rw [hraw] at h hcommitment
        cases hcommitment
        cases htx : fromhex txid with
        | none =>
            rw [htx] at h
            exact nomatch h
        | some transaction =>
            rw [htx] at h
            cases h
            obtain ⟨tx, hfetch, hfee, hpayload⟩ := BaseVerifier.verify_success hverify hok
            -- what the node answered is what the chain has
            have houtputs : tx.outputs = (chain transaction).outputs :=
              hreads _ _ _ hfetch htx
            refine ⟨?_, ?_⟩
            · rw [receipt, ← sum_outputs_congr houtputs]
              exact hfee
            · rw [houtputs, compute_registration_commitment, strip_hex, hlower] at hpayload
              exact hpayload
  · exact nomatch h

/-! ## A run of registrations -/

theorem accepted_paidFor {chain : List UInt8 → NormalizedTransaction} {calls : List RegisterCall}
    (hlower : ∀ bs, service.lower (hex bs) = hex bs) (hreads : ∀ call ∈ calls, call.Reads chain)
    (store : RegistrationStore) :
    ∀ registration ∈ service.accepted store calls, service.PaidFor chain registration := by
  induction calls generalizing store with
  | nil => exact fun registration h => nomatch h
  | cons call calls ih =>
      intro registration h
      rw [accepted, Finset.mem_union, Option.mem_toFinset] at h
      rcases h with h | h
      · exact acceptance_paidFor hlower (hreads call (List.mem_cons_self ..)) h
      · exact ih (fun call hcall => hreads call (List.mem_cons_of_mem _ hcall)) _ _ h

/-- The keys that a transaction was accepted for. -/
def keysOf (registrations : Finset (List UInt8 × List UInt8)) (transaction : List UInt8) :
    Finset (List UInt8) :=
  (registrations.filter (·.2 = transaction)).image Prod.fst

/-- A transaction is accepted for at most as many keys as it pushes payloads. -/
theorem card_keysOf_le {chain : List UInt8 → NormalizedTransaction}
    {registrations : Finset (List UInt8 × List UInt8)}
    (hinj : Function.Injective service.compute_registration_commitment)
    (hpaid : ∀ registration ∈ registrations, service.PaidFor chain registration)
    (transaction : List UInt8) :
    (keysOf registrations transaction).card ≤ (service.payloads chain transaction).length := by
  have hcard : (keysOf registrations transaction).card ≤
      (service.payloads chain transaction).toFinset.card := by
    apply Finset.card_le_card_of_injOn service.compute_registration_commitment
    · intro key hkey
      obtain ⟨registration, hmem, rfl⟩ := Finset.mem_image.mp hkey
      obtain ⟨hmem, htransaction⟩ := Finset.mem_filter.mp hmem
      rw [← htransaction]
      exact List.mem_toFinset.mpr (hpaid registration hmem).commitment
    · exact fun a _ b _ h => hinj h
  exact hcard.trans (List.toFinset_card_le _)

/-- Transactions that push one payload at most tell the keys apart. -/
theorem key_unique {chain : List UInt8 → NormalizedTransaction}
    {registrations : Finset (List UInt8 × List UInt8)}
    (hinj : Function.Injective service.compute_registration_commitment)
    (hpaid : ∀ registration ∈ registrations, service.PaidFor chain registration)
    (hone : ∀ registration ∈ registrations,
      (service.payloads chain registration.2).length ≤ 1) :
    ∀ p ∈ registrations, ∀ q ∈ registrations, p.2 = q.2 → p.1 = q.1 := by
  intro p hp q hq h
  have hkeys : (keysOf registrations p.2).card ≤ 1 :=
    (card_keysOf_le hinj hpaid p.2).trans (hone p hp)
  have hmem : ∀ r ∈ registrations, r.2 = p.2 → r.1 ∈ keysOf registrations p.2 :=
    fun r hr h => Finset.mem_image_of_mem _ (Finset.mem_filter.mpr ⟨hr, h⟩)
  exact Finset.card_le_one.mp hkeys _ (hmem p hp rfl) _ (hmem q hq h.symm)

/-- There are then no fewer transactions than keys. -/
theorem card_keys_le {chain : List UInt8 → NormalizedTransaction}
    {registrations : Finset (List UInt8 × List UInt8)}
    (hinj : Function.Injective service.compute_registration_commitment)
    (hpaid : ∀ registration ∈ registrations, service.PaidFor chain registration)
    (hone : ∀ transaction ∈ registrations.image Prod.snd,
      (service.payloads chain transaction).length ≤ 1) :
    (registrations.image Prod.fst).card ≤ (registrations.image Prod.snd).card := by
  have hsubset : registrations.image Prod.fst ⊆
      (registrations.image Prod.snd).biUnion (keysOf registrations) := by
    intro key hkey
    obtain ⟨registration, hmem, rfl⟩ := Finset.mem_image.mp hkey
    refine Finset.mem_biUnion.mpr ⟨registration.2, Finset.mem_image_of_mem _ hmem, ?_⟩
    exact Finset.mem_image_of_mem _ (Finset.mem_filter.mpr ⟨hmem, rfl⟩)
  have hle := Finset.card_biUnion_le_card_mul (registrations.image Prod.snd)
    (keysOf registrations) 1 fun transaction h =>
      (card_keysOf_le hinj hpaid transaction).trans (hone transaction h)
  rw [mul_one] at hle
  exact (Finset.card_le_card hsubset).trans hle

/-- The transactions of a set of registrations paid the fee once each. -/
theorem card_mul_fee_le {chain : List UInt8 → NormalizedTransaction}
    {registrations : Finset (List UInt8 × List UInt8)}
    (hpaid : ∀ registration ∈ registrations, service.PaidFor chain registration) :
    ((registrations.image Prod.snd).card * service.expected_fee_sats : ℤ) ≤
      ∑ transaction ∈ registrations.image Prod.snd, service.receipt chain transaction := by
  rw [← nsmul_eq_mul]
  apply Finset.card_nsmul_le_sum
  intro transaction h
  obtain ⟨registration, hmem, rfl⟩ := Finset.mem_image.mp h
  exact (hpaid registration hmem).fee

/-- **What registered keys have paid.** Over any run and any chain: a registered key's
transaction paid the fee and pushes the commitment of the key; it was accepted for at most
as many keys as it pushes payloads; and the transactions together paid the fee once each.
When each of them pushes at most one payload, no two keys share a transaction, and the
receipts cover the fee of every key. -/
theorem registrations_paid (service : RegistrationService)
    (hlower : ∀ bs, service.lower (hex bs) = hex bs)
    (hinj : Function.Injective service.compute_registration_commitment)
    (chain : List UInt8 → NormalizedTransaction) (calls : List RegisterCall)
    (hreads : ∀ call ∈ calls, call.Reads chain) (store : RegistrationStore) :
    let registrations := service.accepted store calls
    let transactions := registrations.image Prod.snd
    let receipts := ∑ transaction ∈ transactions, service.receipt chain transaction
    (∀ registration ∈ registrations, service.PaidFor chain registration) ∧
      (∀ transaction, (keysOf registrations transaction).card ≤
        (service.payloads chain transaction).length) ∧
      (transactions.card * service.expected_fee_sats : ℤ) ≤ receipts ∧
      ((∀ transaction ∈ transactions, (service.payloads chain transaction).length ≤ 1) →
        (∀ p ∈ registrations, ∀ q ∈ registrations, p.2 = q.2 → p.1 = q.1) ∧
          ((registrations.image Prod.fst).card * service.expected_fee_sats : ℤ) ≤ receipts) := by
  intro registrations transactions receipts
  have hpaid : ∀ registration ∈ registrations, service.PaidFor chain registration :=
    accepted_paidFor hlower hreads store
  refine ⟨hpaid, card_keysOf_le hinj hpaid, card_mul_fee_le hpaid, fun hone => ?_⟩
  have hunique := key_unique hinj hpaid fun registration hmem =>
    hone _ (Finset.mem_image_of_mem _ hmem)
  refine ⟨hunique, ?_⟩
  have hcard : (registrations.image Prod.fst).card ≤ transactions.card :=
    card_keys_le hinj hpaid hone
  -- with one payload each, a transaction stands for one key, and each paid the fee
  calc ((registrations.image Prod.fst).card * service.expected_fee_sats : ℤ)
      ≤ transactions.card * service.expected_fee_sats := by gcongr
    _ ≤ receipts := card_mul_fee_le hpaid

/-! ## One payment for two keys -/

/-- SHA-256 of the registration messages of the two keys below; other messages stand for
themselves. -/
def demoSha256 (message : List UInt8) : List UInt8 :=
  let label := utf8 REGISTRATION_PROTOCOL_LABEL ++ utf8 NETWORK_ID
  if message = label ++ List.replicate 32 1 then
    [0x99, 0x02, 0xf7, 0x79, 0xb6, 0xdf, 0xde, 0xea, 0xd9, 0x53, 0x4a, 0x82, 0xbb, 0x1a, 0xf3, 0x05,
      0x86, 0x61, 0xb7, 0xf6, 0xe4, 0x8b, 0xc0, 0x0d, 0xd1, 0xf5, 0x7c, 0xc9, 0x52, 0xaf, 0xac, 0xd4]
  else if message = label ++ List.replicate 32 2 then
    [0xe1, 0x4a, 0x83, 0x96, 0xfd, 0x27, 0x7a, 0xd2, 0xcd, 0x75, 0x94, 0xe4, 0x04, 0x62, 0x21, 0xd0,
      0x57, 0x09, 0x90, 0x44, 0x5d, 0xd4, 0x8a, 0x03, 0xc6, 0x15, 0x73, 0xaf, 0xc2, 0x0f, 0x15, 0xbd]
  else message

def demoService : RegistrationService where
  lower := id
  sha256 := demoSha256
  expected_treasury_address := "treasury"
  expected_fee_sats := 1000

def demoIdentity (b : UInt8) : ApplicationIdentity where
  public_key_hex := hex (List.replicate 32 b)
  private_key_hex := ""

/-- One payment of the fee, and an `OP_RETURN` output for each of the keys. -/
def demoTransaction (keys : List UInt8) : NormalizedTransaction where
  txid := hex (List.replicate 32 0xab)
  confirmations := 1
  outputs := ⟨1000, some "treasury", "0014" ++ hex (List.replicate 20 7)⟩ :: keys.map fun b =>
    ⟨0, none, "6a20" ++ demoService.compute_registration_commitment (List.replicate 32 b)⟩

/-- A call whose node knows one transaction. -/
def demoCall (keys : List UInt8) (b : UInt8) : RegisterCall where
  now := 0
  fetch txid :=
    if fromhex txid = some (List.replicate 32 0xab) then .ok (some (demoTransaction keys))
    else .ok none
  identity := demoIdentity b
  txid := hex (List.replicate 32 0xab)

theorem demoCall_reads (keys : List UInt8) (b : UInt8) :
    (demoCall keys b).Reads fun _ => demoTransaction keys := by
  intro txid tx raw h _
  unfold demoCall at h
  dsimp only at h
  split_ifs at h
  · cases h
    rfl
  · exact nomatch h

theorem demoCalls_read (keys : List UInt8) (b c : UInt8) :
    ∀ call ∈ [demoCall keys b, demoCall keys c], call.Reads fun _ => demoTransaction keys := by
  intro call hcall
  rw [List.mem_cons, List.mem_singleton] at hcall
  rcases hcall with rfl | rfl
  · exact demoCall_reads keys b
  · exact demoCall_reads keys c

/-- A digest is no message. -/
theorem label_append_ne {digest : List UInt8} (hd : digest.head? ≠ some 0x73) (key : List UInt8) :
    utf8 REGISTRATION_PROTOCOL_LABEL ++ utf8 NETWORK_ID ++ key ≠ digest := by
  have hlabel : (utf8 REGISTRATION_PROTOCOL_LABEL).head? = some 0x73 := by decide +kernel
  intro h
  apply hd
  rw [← h, List.append_assoc, List.head?_append, hlabel]
  rfl

theorem compute_registration_commitment_demo :
    Function.Injective demoService.compute_registration_commitment := by
  intro a b h
  have hsha := hex_injective h
  simp only [demoService, demoSha256, List.append_cancel_left_eq] at hsha
  split_ifs at hsha with ha hb hb ha' hb hb' hb hb'
  · rw [ha, hb]
  · exact absurd hsha (by decide)
  · exact absurd hsha.symm (label_append_ne (by decide) b)
  · exact absurd hsha (by decide)
  · rw [ha', hb']
  · exact absurd hsha.symm (label_append_ne (by decide) b)
  · exact absurd hsha (label_append_ne (by decide) a)
  · exact absurd hsha (label_append_ne (by decide) a)
  · exact List.append_cancel_left hsha

/-- One payment of the fee registers two keys. -/
theorem one_payment_two_keys :
    let calls := [demoCall [1, 2] 1, demoCall [1, 2] 2]
    let chain := fun _ => demoTransaction [1, 2]
    Function.Injective demoService.compute_registration_commitment ∧
      (∀ call ∈ calls, call.Reads chain) ∧
      demoService.accepted PyDict.empty calls =
        {(List.replicate 32 1, List.replicate 32 0xab),
          (List.replicate 32 2, List.replicate 32 0xab)} ∧
      ∑ transaction ∈ {List.replicate 32 0xab}, demoService.receipt chain transaction <
        2 * demoService.expected_fee_sats := by
  refine ⟨compute_registration_commitment_demo, demoCalls_read [1, 2] 1 2, ?_, ?_⟩
  · decide +kernel
  · decide +kernel

/-- The receipts of two keys that were registered with one payment. -/
theorem registrations_paid_demo :
    let registrations := demoService.accepted PyDict.empty [demoCall [1, 2] 1, demoCall [1, 2] 2]
    ((registrations.image Prod.snd).card * demoService.expected_fee_sats : ℤ) ≤
      ∑ transaction ∈ registrations.image Prod.snd,
        demoService.receipt (fun _ => demoTransaction [1, 2]) transaction := by
  exact (registrations_paid demoService (fun _ => rfl) compute_registration_commitment_demo
    (fun _ => demoTransaction [1, 2]) [demoCall [1, 2] 1, demoCall [1, 2] 2]
    (demoCalls_read [1, 2] 1 2) PyDict.empty).2.2.1

end RegistrationService

end Superorganism.Authentication
