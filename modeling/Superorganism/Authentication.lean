/-
`authentication/services/authentication_service.py`: challenges are handed out, and a
login is checked against the challenge of its key.

`str.lower`, `datetime.isoformat` and `hashlib.sha256` are parameters; nothing below
depends on what they compute. The signature verifier and the transaction verifier may
answer differently at every call, so each login carries its own pair of them, and each
request for a challenge the nonce that `secrets.token_hex` draws for it. A call is made
at a time, the one `datetime.now` gives throughout it.

A run is a list of such calls against one store. What a login proves is a fact about the
calls before it: `login_matched` finds for every login that succeeded the request whose
challenge it used up.
-/
import Mathlib.Data.Set.Function
import Superorganism.Challenges
import Superorganism.Validate

set_option autoImplicit false

open Superorganism.Bytes Superorganism.Py Superorganism.Bitcoin

namespace Superorganism.Authentication

/-! ## The service -/

structure VerifyRequest where
  public_key_hex : String
  txid : String
  signature : List UInt8
deriving DecidableEq, Repr

structure AuthenticationResult where
  success : Bool
  reason : Option String
deriving DecidableEq, Repr

structure TransactionVerificationRequest where
  txid : String
  expected_treasury_address : String
  expected_fee_sats : ℤ
  expected_registration_commitment : String
deriving DecidableEq, Repr

structure TransactionVerificationResult where
  success : Bool
  reason : Option String
  amount_paid_sats : Option ℤ
  confirmations : Option ℤ
deriving DecidableEq, Repr

/-- `from_public_key_hex`, and `verify_signature` of the verifier it gives, on a message
and a signature. -/
abbrev SignatureVerifier :=
  String → Except PyError (List UInt8 → List UInt8 → Except PyError Bool)

/-- `TransactionVerifier.verify`. -/
abbrev TransactionVerifier :=
  TransactionVerificationRequest → Except PyError TransactionVerificationResult

structure AuthenticationService where
  lower : String → String
  isoformat : ℤ → String
  sha256 : List UInt8 → List UInt8
  expected_treasury_address : String
  expected_fee_sats : ℤ

/-- `config.NETWORK_ID.decode("ascii")`. -/
def NETWORK_ID : String := "regtest"

def AUTHENTICATION_PROTOCOL_LABEL : String := "superorganism-authenticate-v1"

def REGISTRATION_PROTOCOL_LABEL : String := "superorganism-register-v1"

namespace AuthenticationService

variable (service : AuthenticationService)

def normalize_hex_string (value : String) : String :=
  let normalized := service.lower (strip value)
  match normalized.toList with
  | '0' :: 'x' :: rest => String.ofList rest
  | _ => normalized

def compute_registration_commitment (public_key_bytes : List UInt8) : String :=
  hex (service.sha256 (utf8 REGISTRATION_PROTOCOL_LABEL ++ utf8 NETWORK_ID ++ public_key_bytes))

def build_message (public_key_hex nonce : String) (issued_at : ℤ) : String :=
  "\n".intercalate [
    "protocol=" ++ AUTHENTICATION_PROTOCOL_LABEL,
    "network=" ++ NETWORK_ID,
    "action=login",
    "public_key_hex=" ++ public_key_hex,
    "nonce=" ++ nonce,
    "issued_at=" ++ service.isoformat issued_at]

/-- The challenge of a key, as it is stored. -/
def challenge (public_key_hex nonce : String) (issued_at : ℤ) : StoredChallenge where
  public_key_hex := public_key_hex
  message := service.build_message public_key_hex nonce issued_at
  issued_at := issued_at

def create_challenge_message (now : ℤ) (nonce public_key_hex : String)
    (store : InMemoryChallengeStore) : Except PyError String × InMemoryChallengeStore :=
  let normalized_public_key_hex := service.normalize_hex_string public_key_hex
  if normalized_public_key_hex = "" then
    (.error (.ValueError "Public key must not be empty."), store)
  else
    let challenge := service.challenge normalized_public_key_hex nonce now
    match store.save now challenge with
    | (.error e, store) => (.error e, store)
    | (.ok (), store) => (.ok challenge.message, store)

/-- What the transaction verifier is asked. -/
def transaction_request (normalized_txid : String) (public_key_bytes : List UInt8) :
    TransactionVerificationRequest where
  txid := normalized_txid
  expected_treasury_address := service.expected_treasury_address
  expected_fee_sats := service.expected_fee_sats
  expected_registration_commitment := service.compute_registration_commitment public_key_bytes

/-- `reason or default`. -/
def reasonOr (reason : Option String) (default : String) : String :=
  match reason with
  | none => default
  | some reason => if reason = "" then default else reason

/-- The part of `verify_login` after the challenge is found: the checks of the signature
and of the transaction. The store changes only where all of them pass. -/
def check_login (signature_verifier : SignatureVerifier)
    (transaction_verifier : TransactionVerifier) (request : VerifyRequest)
    (normalized_public_key_hex normalized_txid : String) (stored : StoredChallenge)
    (store : InMemoryChallengeStore) :
    Except PyError AuthenticationResult × InMemoryChallengeStore :=
  match signature_verifier normalized_public_key_hex with
  | .error e =>
    if e.isValueError then (.ok ⟨false, some "Public key must be valid hex."⟩, store)
    else (.error e, store)
  | .ok verifier =>
    match fromhex normalized_public_key_hex with
    | none => (.ok ⟨false, some "Public key must be valid hex."⟩, store)
    | some public_key_bytes =>
      match verifier (utf8 stored.message) request.signature with
      -- `except Exception` lets nothing through
      | .error e => (.ok ⟨false, some ("Signature verification failed: " ++ e.str)⟩, store)
      | .ok false => (.ok ⟨false, some "Invalid signature."⟩, store)
      | .ok true =>
        match transaction_verifier (service.transaction_request normalized_txid public_key_bytes) with
        | .error e => (.error e, store)
        | .ok tx_result =>
          if tx_result.success then
            -- the challenge is consumed only here
            (.ok ⟨true, none⟩, store.delete normalized_public_key_hex)
          else
            (.ok ⟨false, some (reasonOr tx_result.reason "Transaction verification failed.")⟩, store)

def verify_login (now : ℤ) (signature_verifier : SignatureVerifier)
    (transaction_verifier : TransactionVerifier) (request : VerifyRequest)
    (store : InMemoryChallengeStore) :
    Except PyError AuthenticationResult × InMemoryChallengeStore :=
  let normalized_public_key_hex := service.normalize_hex_string request.public_key_hex
  if normalized_public_key_hex = "" then
    (.ok ⟨false, some "Public key must not be empty."⟩, store)
  else
    match validate_txid request.txid with
    | .error e =>
      -- `except ValueError`
      if e.isValueError then
        (.ok ⟨false, some "Transaction ID must be a 64-character hexadecimal string."⟩, store)
      else (.error e, store)
    | .ok normalized_txid =>
      match store.get now normalized_public_key_hex with
      | (none, store) => (.ok ⟨false, some "No active challenge found."⟩, store)
      | (some stored, store) =>
        service.check_login signature_verifier transaction_verifier request
          normalized_public_key_hex normalized_txid stored store

end AuthenticationService

/-! ## Runs -/

inductive LoginCall where
  | create_challenge_message (nonce public_key_hex : String)
  | verify_login (signature_verifier : SignatureVerifier)
      (transaction_verifier : TransactionVerifier) (request : VerifyRequest)

inductive Answer where
  | message (answer : Except PyError String)
  | result (answer : Except PyError AuthenticationResult)

def Answer.succeeded : Answer → Bool
  | .result (.ok login) => login.success
  | _ => false

/-- A call that was made: when, what it answered, and the store before and after it. -/
structure Entry where
  time : ℤ
  call : LoginCall
  answer : Answer
  before : InMemoryChallengeStore
  after : InMemoryChallengeStore

namespace AuthenticationService

variable (service : AuthenticationService)

def serve (now : ℤ) (call : LoginCall) (store : InMemoryChallengeStore) : Entry :=
  match call with
  | .create_challenge_message nonce public_key_hex =>
    let answer := service.create_challenge_message now nonce public_key_hex store
    ⟨now, call, .message answer.1, store, answer.2⟩
  | .verify_login signature_verifier transaction_verifier request =>
    let answer := service.verify_login now signature_verifier transaction_verifier request store
    ⟨now, call, .result answer.1, store, answer.2⟩

/-- The calls of a run, in order, each with its answer. -/
def transcript (store : InMemoryChallengeStore) : List (ℤ × LoginCall) → List Entry
  | [] => []
  | (now, call) :: calls =>
    service.serve now call store :: transcript (service.serve now call store).after calls

/-- The store after a run. -/
def storeAfter (store : InMemoryChallengeStore) (calls : List (ℤ × LoginCall)) :
    InMemoryChallengeStore :=
  calls.foldl (fun store call => (service.serve call.1 call.2 store).after) store

/-- The entry is a request for a challenge of the key. -/
def Requests (entry : Entry) (key : String) : Prop :=
  ∃ nonce public_key_hex, entry.call = .create_challenge_message nonce public_key_hex ∧
    service.normalize_hex_string public_key_hex = key

/-- The entry is a login of the key, and it succeeded. -/
def LogsIn (entry : Entry) (key : String) : Prop :=
  ∃ signature_verifier transaction_verifier request,
    entry.call = .verify_login signature_verifier transaction_verifier request ∧
    service.normalize_hex_string request.public_key_hex = key ∧ entry.answer.succeeded = true

/-- The entry is a request for a challenge of the key, and this is the challenge it
handed out. -/
def Issues (entry : Entry) (key : String) (challenge : StoredChallenge) : Prop :=
  ∃ nonce public_key_hex, entry.call = .create_challenge_message nonce public_key_hex ∧
    service.normalize_hex_string public_key_hex = key ∧
    challenge = service.challenge key nonce entry.time ∧
    entry.answer = .message (.ok challenge.message)

/-! ## One call -/

variable {service} {now : ℤ} {store : InMemoryChallengeStore}

/-- What a login that succeeds has checked of its key and the challenge stored for it. -/
structure Verified (service : AuthenticationService) (signature_verifier : SignatureVerifier)
    (transaction_verifier : TransactionVerifier) (request : VerifyRequest) (key message : String) :
    Prop where
  signature : ∃ verifier, signature_verifier key = .ok verifier ∧
    verifier (utf8 message) request.signature = .ok true
  transaction : ∃ normalized_txid public_key_bytes tx_result,
    validate_txid request.txid = .ok normalized_txid ∧ fromhex key = some public_key_bytes ∧
    transaction_verifier (service.transaction_request normalized_txid public_key_bytes) =
      .ok tx_result ∧ tx_result.success = true

/-- The checks after the challenge is found: all pass and the challenge is consumed, or one
fails and the store stays. -/
theorem check_login_cases (signature_verifier : SignatureVerifier)
    (transaction_verifier : TransactionVerifier) (request : VerifyRequest)
    {key normalized_txid : String} (htxid : validate_txid request.txid = .ok normalized_txid)
    (stored : StoredChallenge) :
    let out := service.check_login signature_verifier transaction_verifier request key
      normalized_txid stored store
    ((Answer.result out.1).succeeded = true ∧ out.2 = store.delete key ∧
        service.Verified signature_verifier transaction_verifier request key stored.message) ∨
      ((Answer.result out.1).succeeded = false ∧ out.2 = store) := by
  unfold check_login
  -- the checks one after the other: every one that fails answers before the challenge is deleted
  cases hverifier : signature_verifier key with
  | error e =>
      right
      dsimp only
      by_cases he : e.isValueError = true
      · rw [if_pos he]
        exact ⟨rfl, rfl⟩
      · rw [if_neg he]
        exact ⟨rfl, rfl⟩
  | ok verifier =>
      cases hbytes : fromhex key with
      | none => exact .inr ⟨rfl, rfl⟩
      | some public_key_bytes =>
          cases hsignature : verifier (utf8 stored.message) request.signature with
          | error e => simp [Answer.succeeded, hsignature]
          | ok valid =>
              cases valid with
              | false => simp [Answer.succeeded, hsignature]
              | true =>
                  cases htx : transaction_verifier
                      (service.transaction_request normalized_txid public_key_bytes) with
                  | error e => simp [Answer.succeeded, hsignature, htx]
                  | ok tx_result =>
                      by_cases hsuccess : tx_result.success = true
                      · refine .inl ⟨?_, ?_, ⟨verifier, hverifier, hsignature⟩, normalized_txid,
                          public_key_bytes, tx_result, htxid, hbytes, htx, hsuccess⟩
                        · simp [Answer.succeeded, hsignature, htx, hsuccess]
                        · simp [hsignature, htx, hsuccess]
                      · right
                        simp [Answer.succeeded, hsignature, htx, hsuccess]

/-- A login succeeds against the stored challenge, and the challenge is gone; or it fails,
and at most what has expired under its key is gone. -/
theorem verify_login_cases (now : ℤ) (signature_verifier : SignatureVerifier)
    (transaction_verifier : TransactionVerifier) (request : VerifyRequest)
    (store : InMemoryChallengeStore) :
    let key := service.normalize_hex_string request.public_key_hex
    let out := service.verify_login now signature_verifier transaction_verifier request store
    ((Answer.result out.1).succeeded = true ∧ out.2 = (store.get now key).2.delete key ∧
        ∃ stored, (store.get now key).1 = some stored ∧
          service.Verified signature_verifier transaction_verifier request key stored.message) ∨
      ((Answer.result out.1).succeeded = false ∧ (out.2 = store ∨ out.2 = (store.get now key).2)) := by
  intro key out
  by_cases hkey : key = ""
  · right
    have hout : out = (.ok ⟨false, some "Public key must not be empty."⟩, store) := if_pos hkey
    rw [hout]
    exact ⟨rfl, .inl rfl⟩
  -- the rest of the function, one `match` after the other
  have hunfold : out = match validate_txid request.txid with
      | .error e =>
        if e.isValueError then
          (.ok ⟨false, some "Transaction ID must be a 64-character hexadecimal string."⟩, store)
        else (.error e, store)
      | .ok normalized_txid =>
        match store.get now key with
        | (none, store) => (.ok ⟨false, some "No active challenge found."⟩, store)
        | (some stored, store) =>
          service.check_login signature_verifier transaction_verifier request key normalized_txid
            stored store := if_neg hkey
  cases htxid : validate_txid request.txid with
  | error e =>
      right
      rw [hunfold, htxid]
      dsimp only
      by_cases he : e.isValueError = true
      · rw [if_pos he]
        exact ⟨rfl, .inl rfl⟩
      · rw [if_neg he]
        exact ⟨rfl, .inl rfl⟩
  | ok normalized_txid =>
      rw [htxid] at hunfold
      dsimp only at hunfold
      rcases hget : store.get now key with ⟨found, left⟩
      rw [hget] at hunfold
      cases found with
      | none =>
          right
          rw [hunfold]
          exact ⟨rfl, .inr rfl⟩
      | some stored =>
          dsimp only at hunfold
          rw [hunfold]
          rcases check_login_cases signature_verifier transaction_verifier request htxid stored with
            ⟨hsucc, hstore, hverified⟩ | ⟨hfail, hstore⟩
          · exact .inl ⟨hsucc, hstore, stored, rfl, hverified⟩
          · exact .inr ⟨hfail, .inr hstore⟩

/-- After a request for a challenge, what is stored was stored before, under another key,
or is the challenge handed out. The text that normalizes to nothing is refused. -/
theorem get?_create (now : ℤ) (nonce public_key_hex : String) (store : InMemoryChallengeStore)
    {key' : String} {stored : StoredChallenge} :
    let key := service.normalize_hex_string public_key_hex
    let out := service.create_challenge_message now nonce public_key_hex store
    out.2.challenges.get? key' = some stored →
      (key' = key ∧ key ≠ "" ∧ stored = service.challenge key nonce now ∧
        out.1 = .ok stored.message) ∨
      (store.challenges.get? key' = some stored ∧ (key' = key → key = "")) := by
  intro key out hget
  by_cases hkey : key = ""
  · have hout : out = (.error (.ValueError "Public key must not be empty."), store) := if_pos hkey
    rw [hout] at hget
    exact .inr ⟨hget, fun _ => hkey⟩
  have hunfold : out = match store.save now (service.challenge key nonce now) with
      | (.error e, store) => (.error e, store)
      | (.ok (), store) => (.ok (service.challenge key nonce now).message, store) := if_neg hkey
  by_cases hfull : Tracks.Full store now (service.challenge key nonce now)
  · -- the store raised: nothing is stored under the key
    rw [Tracks.save_of_full hfull] at hunfold
    rw [hunfold, InMemoryChallengeStore.get?_cleanup_expired, Option.filter_eq_some_iff] at hget
    refine .inr ⟨hget.1, fun hk => ?_⟩
    have hnone : store.challenges.get? key = none := hfull.1.1
    rw [hk, hnone] at hget
    simp at hget
  · rw [Tracks.save_of_not_full hfull] at hunfold
    dsimp only at hunfold
    rw [hunfold, InMemoryChallengeStore.put, PyDict.get?_set] at hget
    by_cases hk : key' = key
    · rw [if_pos (show key' = (service.challenge key nonce now).public_key_hex from hk)] at hget
      cases hget
      exact .inl ⟨hk, hkey, rfl, by rw [hunfold]⟩
    · rw [if_neg (show key' ≠ (service.challenge key nonce now).public_key_hex from hk)] at hget
      refine .inr ⟨?_, fun h => absurd h hk⟩
      by_cases hblocks : store.blocks (service.challenge key nonce now)
      · rw [if_pos hblocks, InMemoryChallengeStore.get?_cleanup_expired,
          Option.filter_eq_some_iff] at hget
        exact hget.1
      · rw [if_neg hblocks] at hget
        exact hget

/-- Asking for a challenge brings no other into being, and loses only what has expired. -/
theorem get?_get_iff {key key' : String} {stored : StoredChallenge}
    (hexp : stored.is_expired now = false) :
    (store.get now key).2.challenges.get? key' = some stored ↔
      store.challenges.get? key' = some stored := by
  rw [InMemoryChallengeStore.get?_get_snd]
  by_cases hk : key' = key
  · rw [if_pos hk, InMemoryChallengeStore.get_fst, Option.filter_eq_some_iff, hk]
    simp [hexp]
  · rw [if_neg hk]

theorem get?_of_get?_get {key key' : String} {stored : StoredChallenge}
    (h : (store.get now key).2.challenges.get? key' = some stored) :
    store.challenges.get? key' = some stored := by
  rw [InMemoryChallengeStore.get?_get_snd] at h
  by_cases hk : key' = key
  · rw [if_pos hk, InMemoryChallengeStore.get_fst, Option.filter_eq_some_iff] at h
    rw [hk]
    exact h.1
  · rw [if_neg hk] at h
    exact h

/-- After a login, what is stored was stored before; and nothing is under the key of a login
that succeeded. -/
theorem get?_verify (now : ℤ) (signature_verifier : SignatureVerifier)
    (transaction_verifier : TransactionVerifier) (request : VerifyRequest)
    (store : InMemoryChallengeStore) {key' : String} {stored : StoredChallenge} :
    let out := service.verify_login now signature_verifier transaction_verifier request store
    out.2.challenges.get? key' = some stored →
      store.challenges.get? key' = some stored ∧
        (key' = service.normalize_hex_string request.public_key_hex →
          (Answer.result out.1).succeeded = false) := by
  intro out hget
  rcases service.verify_login_cases now signature_verifier transaction_verifier request store with
    ⟨-, hstore, -⟩ | ⟨hfail, hstore | hstore⟩
  · rw [hstore, InMemoryChallengeStore.delete, PyDict.get?_erase] at hget
    by_cases hk : key' = service.normalize_hex_string request.public_key_hex
    · rw [if_pos hk] at hget
      contradiction
    · rw [if_neg hk] at hget
      exact ⟨get?_of_get?_get hget, fun h => absurd h hk⟩
  · rw [hstore] at hget
    exact ⟨hget, fun _ => hfail⟩
  · rw [hstore] at hget
    exact ⟨get?_of_get?_get hget, fun _ => hfail⟩

/-! ## Standing challenges -/

/-- The challenge was handed out for the key, and neither requested again nor used up
since. -/
def Standing (service : AuthenticationService) (entries : List Entry) (key : String)
    (stored : StoredChallenge) : Prop :=
  ∃ (j : ℕ) (entry : Entry), entries[j]? = some entry ∧ service.Issues entry key stored ∧
    ∀ (k : ℕ) (later : Entry), j < k → entries[k]? = some later →
      ¬ service.Requests later key ∧ ¬ service.LogsIn later key

theorem Standing.of_issues {entries : List Entry} {entry : Entry} {key : String}
    {stored : StoredChallenge} (h : service.Issues entry key stored) :
    service.Standing (entries ++ [entry]) key stored := by
  refine ⟨entries.length, entry, by simp, h, fun k later hk hlater => ?_⟩
  have hlt : k < (entries ++ [entry]).length := (List.getElem?_eq_some_iff.mp hlater).1
  rw [List.length_append, List.length_singleton] at hlt
  omega

theorem Standing.append {entries : List Entry} {entry : Entry} {key : String}
    {stored : StoredChallenge} (h : service.Standing entries key stored)
    (hrequests : ¬ service.Requests entry key) (hlogsin : ¬ service.LogsIn entry key) :
    service.Standing (entries ++ [entry]) key stored := by
  obtain ⟨j, creation, hj, hissues, hsince⟩ := h
  have hjlt : j < entries.length := (List.getElem?_eq_some_iff.mp hj).1
  refine ⟨j, creation, by rw [List.getElem?_append_left hjlt, hj], hissues,
    fun k later hk hlater => ?_⟩
  by_cases hklt : k < entries.length
  · rw [List.getElem?_append_left hklt] at hlater
    exact hsince k later hk hlater
  · -- the entry is the last one
    have hlt : k < (entries ++ [entry]).length := (List.getElem?_eq_some_iff.mp hlater).1
    rw [List.length_append, List.length_singleton] at hlt
    have hlast : k = entries.length := by omega
    rw [hlast, List.getElem?_concat_length] at hlater
    rw [← Option.some.inj hlater]
    exact ⟨hrequests, hlogsin⟩

/-- One call: what is stored after it stands, if what was stored before it stood. -/
theorem standing_serve {entries : List Entry} {call : LoginCall}
    (h : ∀ key stored, store.challenges.get? key = some stored →
      key ≠ "" ∧ service.Standing entries key stored) :
    ∀ key stored, (service.serve now call store).after.challenges.get? key = some stored →
      key ≠ "" ∧ service.Standing (entries ++ [service.serve now call store]) key stored := by
  intro key stored hget
  cases call with
  | create_challenge_message nonce public_key_hex =>
      rcases service.get?_create now nonce public_key_hex store hget with
        ⟨rfl, hne, hstored, hanswer⟩ | ⟨hbefore, hkey⟩
      · exact ⟨hne, .of_issues ⟨nonce, public_key_hex, rfl, rfl, hstored,
          congrArg Answer.message hanswer⟩⟩
      · -- an older challenge under another key: the call neither replaces nor consumes it
        obtain ⟨hne, hstanding⟩ := h key stored hbefore
        refine ⟨hne, hstanding.append ?_ ?_⟩
        · rintro ⟨nonce', public_key_hex', hcall, hnormal⟩
          cases hcall
          exact hne (hnormal.symm.trans (hkey hnormal.symm))
        · rintro ⟨_, _, _, hcall, -⟩
          cases hcall
  | verify_login signature_verifier transaction_verifier request =>
      obtain ⟨hbefore, hfail⟩ :=
        service.get?_verify now signature_verifier transaction_verifier request store hget
      obtain ⟨hne, hstanding⟩ := h key stored hbefore
      refine ⟨hne, hstanding.append ?_ ?_⟩
      · rintro ⟨_, _, hcall, -⟩
        cases hcall
      · rintro ⟨signature_verifier', transaction_verifier', request', hcall, hnormal, hsucc⟩
        cases hcall
        have hsucc' := hfail hnormal.symm
        rw [show (Answer.result (service.verify_login now signature_verifier transaction_verifier
          request store).1).succeeded = true from hsucc] at hsucc'
        contradiction

/-! ## Transcripts -/

theorem transcript_append (store : InMemoryChallengeStore) (calls : List (ℤ × LoginCall))
    (call : ℤ × LoginCall) :
    service.transcript store (calls ++ [call]) = service.transcript store calls ++
      [service.serve call.1 call.2 (service.storeAfter store calls)] := by
  induction calls generalizing store with
  | nil => rfl
  | cons first calls ih =>
      rw [List.cons_append, transcript, ih]
      rfl

theorem storeAfter_append (store : InMemoryChallengeStore) (calls : List (ℤ × LoginCall))
    (call : ℤ × LoginCall) :
    service.storeAfter store (calls ++ [call]) =
      (service.serve call.1 call.2 (service.storeAfter store calls)).after := by
  rw [storeAfter, List.foldl_append]
  rfl

/-- The entry of a call: it was served in the store the calls before it left. -/
theorem transcript_getElem? (store : InMemoryChallengeStore) (calls : List (ℤ × LoginCall)) (i : ℕ) :
    (service.transcript store calls)[i]? = calls[i]?.map fun call =>
      service.serve call.1 call.2 (service.storeAfter store (calls.take i)) := by
  induction calls generalizing store i with
  | nil => simp [transcript]
  | cons first calls ih =>
      cases i with
      | zero => rfl
      | succ i =>
          rw [transcript, List.getElem?_cons_succ, ih, List.getElem?_cons_succ, List.take_succ_cons]
          rfl

theorem transcript_take (store : InMemoryChallengeStore) (calls : List (ℤ × LoginCall)) (i : ℕ) :
    service.transcript store (calls.take i) = (service.transcript store calls).take i := by
  induction calls generalizing store i with
  | nil => simp [transcript]
  | cons first calls ih =>
      cases i with
      | zero => rfl
      | succ i => rw [List.take_succ_cons, transcript, transcript, ih, List.take_succ_cons]

/-- What the store holds after a run stands. -/
theorem standing_transcript (max_size : ℕ) (hpos : 0 < max_size) (calls : List (ℤ × LoginCall)) :
    ∀ key stored,
      (service.storeAfter (.new max_size hpos) calls).challenges.get? key = some stored →
        key ≠ "" ∧ service.Standing (service.transcript (.new max_size hpos) calls) key stored := by
  induction calls using List.reverseRecOn with
  | nil =>
      intro key stored hget
      simp [storeAfter, InMemoryChallengeStore.new] at hget
  | append_singleton calls call ih =>
      rw [storeAfter_append, transcript_append]
      exact standing_serve ih

theorem time_serve (now : ℤ) (call : LoginCall) (store : InMemoryChallengeStore) :
    (service.serve now call store).time = now := by
  cases call <;> rfl

theorem time_le_of_lt {calls : List (ℤ × LoginCall)} {i j : ℕ} {earlier later : Entry}
    (hmono : (calls.map Prod.fst).Pairwise (· ≤ ·)) (hlt : j < i)
    (hj : (service.transcript store calls)[j]? = some earlier)
    (hi : (service.transcript store calls)[i]? = some later) : earlier.time ≤ later.time := by
  rw [transcript_getElem?, Option.map_eq_some_iff] at hi hj
  obtain ⟨call, hcall, rfl⟩ := hi
  obtain ⟨call', hcall', rfl⟩ := hj
  rw [time_serve, time_serve]
  obtain ⟨hilt, rfl⟩ := List.getElem?_eq_some_iff.mp hcall
  obtain ⟨hjlt, rfl⟩ := List.getElem?_eq_some_iff.mp hcall'
  have h := List.pairwise_iff_getElem.mp hmono j i (by simpa using hjlt) (by simpa using hilt) hlt
  simpa using h

/-! ## Logins and the challenges they use up -/

/-- Entry `j` is a request for a challenge of the key that the login `i` is for; the
challenge had not expired at the login and no other had been requested for the key; and
the signature and the transaction of the login were verified, against the message that `j`
handed out and the commitment of the key. -/
structure UsesUp (service : AuthenticationService) (entries : List Entry) (i j : ℕ) (login : Entry)
    (signature_verifier : SignatureVerifier) (transaction_verifier : TransactionVerifier)
    (request : VerifyRequest) : Prop where
  earlier : j < i
  created : ∃ creation nonce public_key_hex, entries[j]? = some creation ∧
    creation.call = .create_challenge_message nonce public_key_hex ∧
    service.normalize_hex_string public_key_hex =
      service.normalize_hex_string request.public_key_hex ∧
    creation.time ≤ login.time ∧
    login.time ≤ creation.time + AUTHENTICATION_CHALLENGE_TTL_SECONDS * 1000000 ∧
    creation.answer = .message (.ok (service.build_message
      (service.normalize_hex_string request.public_key_hex) nonce creation.time)) ∧
    service.Verified signature_verifier transaction_verifier request
      (service.normalize_hex_string request.public_key_hex)
      (service.build_message (service.normalize_hex_string request.public_key_hex) nonce
        creation.time)
  latest : ∀ (k : ℕ) (entry : Entry), j < k → k < i → entries[k]? = some entry →
    ¬ service.Requests entry (service.normalize_hex_string request.public_key_hex)
  unused : ∀ (k : ℕ) (entry : Entry), j < k → k < i → entries[k]? = some entry →
    ¬ service.LogsIn entry (service.normalize_hex_string request.public_key_hex)

/-- The challenge a login succeeded against was standing. -/
theorem exists_usesUp {max_size : ℕ} {hpos : 0 < max_size} {calls : List (ℤ × LoginCall)}
    (hmono : (calls.map Prod.fst).Pairwise (· ≤ ·)) {i : ℕ} {login : Entry}
    (hi : (service.transcript (.new max_size hpos) calls)[i]? = some login)
    {signature_verifier : SignatureVerifier} {transaction_verifier : TransactionVerifier}
    {request : VerifyRequest}
    (hcall : login.call = .verify_login signature_verifier transaction_verifier request)
    (hsucc : login.answer.succeeded = true) :
    ∃ j, service.UsesUp (service.transcript (.new max_size hpos) calls) i j login signature_verifier
      transaction_verifier request := by
  have hentry := hi
  rw [transcript_getElem?, Option.map_eq_some_iff] at hi
  obtain ⟨⟨now, call⟩, hget, rfl⟩ := hi
  have hkind : call = .verify_login signature_verifier transaction_verifier request := by
    cases call <;> exact hcall
  subst hkind
  rcases service.verify_login_cases now signature_verifier transaction_verifier request
    (service.storeAfter (.new max_size hpos) (calls.take i)) with
    ⟨-, -, stored, hstored, hverified⟩ | ⟨hfail, -⟩
  · rw [InMemoryChallengeStore.get_fst, Option.filter_eq_some_iff] at hstored
    obtain ⟨-, j, creation, hj, ⟨nonce, public_key_hex, hcreate, hnormal, rfl, hanswer⟩, hsince⟩ :=
      standing_transcript max_size hpos (calls.take i) _ stored hstored.1
    rw [transcript_take] at hj hsince
    -- the entries before the login are those of the whole run
    have hji : j < i := by
      have hlt := (List.getElem?_eq_some_iff.mp hj).1
      rw [List.length_take] at hlt
      omega
    rw [List.getElem?_take_of_lt hji] at hj
    have hexp : now ≤ creation.time + AUTHENTICATION_CHALLENGE_TTL_SECONDS * 1000000 :=
      not_lt.mp (by simpa [StoredChallenge.is_expired, challenge] using hstored.2)
    have htime := time_le_of_lt hmono hji hj hentry
    refine ⟨j, hji, ⟨creation, nonce, public_key_hex, hj, hcreate, hnormal, htime, hexp, hanswer,
      hverified⟩, fun k entry hjk hki hk => ?_, fun k entry hjk hki hk => ?_⟩
    · rw [← List.getElem?_take_of_lt hki] at hk
      exact (hsince k entry hjk hk).1
    · rw [← List.getElem?_take_of_lt hki] at hk
      exact (hsince k entry hjk hk).2
  · have hsucc' : (Answer.result (service.verify_login now signature_verifier transaction_verifier
      request (service.storeAfter (.new max_size hpos) (calls.take i))).1).succeeded = true := hsucc
    rw [hfail] at hsucc'
    contradiction

/-- Two logins that use up one challenge are one login. -/
theorem UsesUp.unique {entries : List Entry} {i i' j : ℕ} {login login' : Entry}
    {sv sv' : SignatureVerifier} {tv tv' : TransactionVerifier} {request request' : VerifyRequest}
    (h : service.UsesUp entries i j login sv tv request)
    (h' : service.UsesUp entries i' j login' sv' tv' request')
    (hi : entries[i]? = some login) (hcall : login.call = .verify_login sv tv request)
    (hsucc : login.answer.succeeded = true) : ¬ i < i' := by
  intro hlt
  obtain ⟨creation, nonce, public_key_hex, hj, hcreate, hnormal, -⟩ := h.created
  obtain ⟨creation', nonce', public_key_hex', hj', hcreate', hnormal', -⟩ := h'.created
  rw [hj] at hj'
  cases hj'
  rw [hcreate] at hcreate'
  cases hcreate'
  exact h'.unused i login h.earlier hlt hi
    ⟨sv, tv, request, hcall, hnormal.symm.trans hnormal', hsucc⟩

/-- Every entry has an origin, the default one if it is no login that succeeded. -/
theorem exists_origin {max_size : ℕ} {hpos : 0 < max_size} {calls : List (ℤ × LoginCall)}
    (hmono : (calls.map Prod.fst).Pairwise (· ≤ ·)) (i : ℕ) :
    ∃ j, ∀ login signature_verifier transaction_verifier request,
      (service.transcript (.new max_size hpos) calls)[i]? = some login →
      login.call = .verify_login signature_verifier transaction_verifier request →
      login.answer.succeeded = true →
      service.UsesUp (service.transcript (.new max_size hpos) calls) i j login signature_verifier
        transaction_verifier request := by
  by_cases h : ∃ login signature_verifier transaction_verifier request,
      (service.transcript (.new max_size hpos) calls)[i]? = some login ∧
      login.call = .verify_login signature_verifier transaction_verifier request ∧
      login.answer.succeeded = true
  · obtain ⟨login, sv, tv, request, hi, hcall, hsucc⟩ := h
    obtain ⟨j, hj⟩ := exists_usesUp hmono hi hcall hsucc
    -- the entry and its call determine the login and its arguments
    refine ⟨j, fun login' sv' tv' request' hi' hcall' _ => ?_⟩
    rw [hi] at hi'
    cases hi'
    rw [hcall] at hcall'
    cases hcall'
    exact hj
  · exact ⟨0, fun login sv tv request hi hcall hsucc =>
      absurd ⟨login, sv, tv, request, hi, hcall, hsucc⟩ h⟩

/-- A login that does not succeed drops no challenge but expired ones. -/
theorem failed_login_keeps {max_size : ℕ} {hpos : 0 < max_size} {calls : List (ℤ × LoginCall)}
    {i : ℕ} {login : Entry} (hi : (service.transcript (.new max_size hpos) calls)[i]? = some login)
    {sv : SignatureVerifier} {tv : TransactionVerifier} {request : VerifyRequest}
    (hcall : login.call = .verify_login sv tv request) (hfail : login.answer.succeeded = false)
    (key : String) (stored : StoredChallenge) (hexp : stored.is_expired login.time = false) :
    login.after.challenges.get? key = some stored ↔
      login.before.challenges.get? key = some stored := by
  rw [transcript_getElem?, Option.map_eq_some_iff] at hi
  obtain ⟨⟨now, call⟩, hget, rfl⟩ := hi
  have hkind : call = .verify_login sv tv request := by
    cases call <;> exact hcall
  subst hkind
  rcases service.verify_login_cases now sv tv request
    (service.storeAfter (.new max_size hpos) (calls.take i)) with
    ⟨hsucc, -⟩ | ⟨-, hstore | hstore⟩
  · have hfail' : (Answer.result (service.verify_login now sv tv request
      (service.storeAfter (.new max_size hpos) (calls.take i))).1).succeeded = false := hfail
    rw [hsucc] at hfail'
    contradiction
  · -- refused before the store was asked
    show (service.verify_login now sv tv request _).2.challenges.get? key = some stored ↔ _
    rw [hstore]
    exact Iff.rfl
  · -- refused with the store as `get` leaves it, without its expired challenges
    show (service.verify_login now sv tv request _).2.challenges.get? key = some stored ↔ _
    rw [hstore]
    exact get?_get_iff hexp

end AuthenticationService

open AuthenticationService in
/-- **Every login that succeeds uses up a challenge of its own.** In every run at
non-decreasing times, each successful `verify_login` is matched, injectively, with an
earlier `create_challenge_message` for the same normalized key, at most
`AUTHENTICATION_CHALLENGE_TTL_SECONDS` before it and the last one for the key, whose
message the signature verifies and for whose key the transaction was verified. A
`verify_login` that does not succeed leaves every unexpired challenge as it was. -/
theorem login_matched (service : AuthenticationService) (max_size : ℕ) (hpos : 0 < max_size)
    (calls : List (ℤ × LoginCall)) (hmono : (calls.map Prod.fst).Pairwise (· ≤ ·)) :
    let entries := service.transcript (.new max_size hpos) calls
    (∃ origin : ℕ → ℕ,
      Set.InjOn origin {i | ∃ login key, entries[i]? = some login ∧ service.LogsIn login key} ∧
      ∀ (i : ℕ) (login : Entry) signature_verifier transaction_verifier request,
        entries[i]? = some login →
        login.call = .verify_login signature_verifier transaction_verifier request →
        login.answer.succeeded = true →
        service.UsesUp entries i (origin i) login signature_verifier transaction_verifier request) ∧
    ∀ (i : ℕ) (login : Entry) signature_verifier transaction_verifier request,
      entries[i]? = some login →
      login.call = .verify_login signature_verifier transaction_verifier request →
      login.answer.succeeded = false →
      ∀ key stored, stored.is_expired login.time = false →
        (login.after.challenges.get? key = some stored ↔
          login.before.challenges.get? key = some stored) := by
  intro entries
  constructor
  · have hexists : ∀ i : ℕ, ∃ j, ∀ login signature_verifier transaction_verifier request,
        entries[i]? = some login →
        login.call = .verify_login signature_verifier transaction_verifier request →
        login.answer.succeeded = true →
        service.UsesUp entries i j login signature_verifier transaction_verifier request :=
      exists_origin hmono
    choose origin horigin using hexists
    -- two logins of one origin would each come before the other
    refine ⟨origin, ?_, horigin⟩
    rintro i ⟨login, key, hi, sv, tv, request, hcall, -, hsucc⟩ i'
      ⟨login', key', hi', sv', tv', request', hcall', -, hsucc'⟩ heq
    have huse := horigin i login sv tv request hi hcall hsucc
    have huse' := horigin i' login' sv' tv' request' hi' hcall' hsucc'
    rw [← heq] at huse'
    have hle := UsesUp.unique huse huse' hi hcall hsucc
    have hge := UsesUp.unique huse' huse hi' hcall' hsucc'
    omega
  · intro i login sv tv request hi hcall hfail key stored hexp
    exact failed_login_keeps hi hcall hfail key stored hexp

/-- A service over the real lower-case letters of ASCII. -/
def exampleService : AuthenticationService where
  lower s := String.ofList (s.toList.map Char.toLower)
  isoformat _ := "1970-01-01T00:00:00+00:00"
  sha256 _ := List.replicate 32 0
  expected_treasury_address := "bcrt1qtreasury"
  expected_fee_sats := 1000

/-- A public key in the spelling of a client, and its normal form. -/
def exampleKey : String := " 0xD75A980182B10AB7D54BFED3C964073A0EE172F3DAA62325AF021A68F707511A"

def exampleLogin : VerifyRequest :=
  ⟨"d75a980182b10ab7d54bfed3c964073a0ee172f3daa62325af021a68f707511a",
    "00000000000000000000000000000000000000000000000000000000000000ff", [1, 2, 3]⟩

/-- One signature is good, and every transaction. -/
def exampleVerifiers : SignatureVerifier × TransactionVerifier :=
  (fun _ => .ok fun _ signature => .ok (signature == [1, 2, 3]),
    fun _ => .ok ⟨true, none, some 1000, some 6⟩)

/-- A challenge, the login that uses it up, and the same login again. -/
def loginTwice : List (ℤ × LoginCall) :=
  [(0, .create_challenge_message "00ff" exampleKey),
    (300000000, .verify_login exampleVerifiers.1 exampleVerifiers.2 exampleLogin),
    (300000000, .verify_login exampleVerifiers.1 exampleVerifiers.2 exampleLogin)]

theorem login_matched_twice :
    ((exampleService.transcript (.new 1 one_pos) loginTwice).map fun e => e.answer.succeeded) =
        [false, true, false] ∧
      ∃ origin : ℕ → ℕ, origin 1 = 0 := by
  obtain ⟨⟨origin, -, horigin⟩, -⟩ := login_matched exampleService 1 one_pos loginTwice (by decide)
  have heval : ((exampleService.transcript (.new 1 one_pos) loginTwice).map
      fun e => e.answer.succeeded) = [false, true, false] := by
    decide +kernel
  have hsucc := congrArg (fun answers => answers[1]?) heval
  simp only [List.getElem?_map, AuthenticationService.transcript_getElem?] at hsucc
  have huse := horigin 1 _ exampleVerifiers.1 exampleVerifiers.2 exampleLogin
    (AuthenticationService.transcript_getElem? ..) rfl (Option.some.inj hsucc)
  exact ⟨heval, origin, Nat.lt_one_iff.mp huse.earlier⟩

end Superorganism.Authentication
