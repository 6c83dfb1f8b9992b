/-
`LTRMABCommunity` of `ltr-benchmarking/local_experiment.py`: a peer that learns which ranking
model is best from its own queries and from signed gossip.

What is not the peer's own is an argument: the cryptography of IPv8 (`Crypto`), the draws of
the generators, the readings of the clock, the order in which a set is gone through, and
what `confidence_bounds` returns where an exclusion check calls it. None of the latter is a
NaN, since `max(0.0, x)` and `min(1.0, x)` are not one for any `x`.

The `_state` that the communities of a process share grows as any of them adds models
(`Event.share`). A download is dispatched when an unknown arm is announced and ends at some
later time, with scores or without.
-/
import Mathlib.Data.Finset.Sort
import Mathlib.Data.String.Basic
import Superorganism.MabGossip

set_option autoImplicit false

open Superorganism.Bytes Superorganism.Py Superorganism.Mab

namespace Superorganism.LtrMab

/-! ## Gossip messages -/

structure GossipMessage (F : Type) where
  sender_id : ℤ
  sender_key : String
  arm_name : String
  pulls : ℤ
  total_reward : F
  alpha : F
  beta : F
  lamport : ℤ
  info_hash : List UInt8
  metadata_json : String
  model_type : String
  host : String
  port : ℤ
  public_key : List UInt8
  signature : List UInt8
deriving DecidableEq

/-- The keys of `ipv8/keyvault/public`: `LibNaCLPK`, or `M2CryptoPK` over a key of
`cryptography`. -/
inductive PublicKey (E : Type) where
  | LibNaCLPK (pk vk : List UInt8)
  | M2CryptoPK (ec : E)

/-- What of a public key its `verify` uses: the first half of a `LibNaCLPK` is no part of it. -/
inductive Verifier (E : Type) where
  | LibNaCLPK (vk : List UInt8)
  | M2CryptoPK (ec : E)
deriving DecidableEq

def PublicKey.verifier {E : Type} : PublicKey E → Verifier E
  | .LibNaCLPK _ vk => .LibNaCLPK vk
  | .M2CryptoPK ec => .M2CryptoPK ec

/-- What the code takes from `hashlib`, `struct`, `libnacl` and `cryptography`. -/
structure Crypto (F : Type) where
  sha1 : List UInt8 → List UInt8
  EcPublicKey : Type
  /-- The key of an `M2CryptoPK` made from the bytes, nothing if that raises. -/
  key_from_pem : List UInt8 → Option EcPublicKey
  /-- `libnacl.public.PublicKey` takes the bytes, and `Verifier` takes the others. -/
  libnacl_takes : List UInt8 → List UInt8 → Bool
  /-- Nothing if it raises. -/
  verify : Verifier EcPublicKey → List UInt8 → List UInt8 → Option Bool
  /-- What the owner of a public key signs a text with. -/
  sign : List UInt8 → List UInt8 → List UInt8
  /-- `struct.pack(">d", x)` -/
  pack_double : F → List UInt8

/-- `crypto_box_SECRETKEYBYTES` and `crypto_sign_SEEDBYTES` -/
def KEY_BYTES : ℕ := 32

/-- The integers that fit in `k` bytes with a sign. -/
def Signed (k : ℕ) (n : ℤ) : Prop := -(256 ^ k / 2) ≤ n ∧ n < 256 ^ k / 2

instance (k : ℕ) (n : ℤ) : Decidable (Signed k n) := inferInstanceAs (Decidable (_ ∧ _))

/-- The last `size` bytes of an integer in two's complement, big-endian. -/
def twos_complement (size : ℕ) (n : ℤ) : List UInt8 := beOfNat size (n % 256 ^ size).toNat

/-- `struct.pack` of an integer with a sign in `size` bytes; nothing on `struct.error`. -/
def pack_int (size : ℕ) (n : ℤ) : Option (List UInt8) :=
  if Signed size n then some (twos_complement size n) else none

/-- `struct.pack(">I", len(b)) + b` -/
def _pack_bytes (b : List UInt8) : Option (List UInt8) :=
  if b.length < 256 ^ 4 then some (beOfNat 4 b.length ++ b) else none

def _pack_str (s : String) : Option (List UInt8) := _pack_bytes (utf8 s)

def _GOSSIP_DOMAIN : List UInt8 := utf8 "LTR-MAB-gossip-v1" ++ [0]

section

variable {F : Type} (crypto : Crypto F)

/-- `LibNaCLPK(binarykey)`, which ignores what follows the two keys. -/
def LibNaCLPK (binarykey : List UInt8) : Option (PublicKey crypto.EcPublicKey) :=
  let pk := binarykey.take KEY_BYTES
  let vk := (binarykey.drop KEY_BYTES).take KEY_BYTES
  if binarykey ≠ [] ∧ crypto.libnacl_takes pk vk then some (.LibNaCLPK pk vk) else none

def key_from_public_bin (string : List UInt8) : Option (PublicKey crypto.EcPublicKey) :=
  if utf8 "LibNaCLPK:" <+: string then LibNaCLPK crypto (string.drop 10)
  else (crypto.key_from_pem string).map .M2CryptoPK

/-- The fields of a message under its signature; nothing if one cannot be packed. -/
def _gossip_canonical_bytes (payload : GossipMessage F) : Option (List UInt8) := do
  let sender_id ← pack_int 8 payload.sender_id
  let sender_key ← _pack_str payload.sender_key
  let arm_name ← _pack_str payload.arm_name
  let pulls ← pack_int 8 payload.pulls
  let lamport ← pack_int 8 payload.lamport
  let info_hash ← _pack_bytes payload.info_hash
  let metadata_json ← _pack_str payload.metadata_json
  let model_type ← _pack_str payload.model_type
  let host ← _pack_str payload.host
  let port ← pack_int 4 payload.port
  return _GOSSIP_DOMAIN ++ sender_id ++ sender_key ++ arm_name ++ pulls ++
    crypto.pack_double payload.total_reward ++ crypto.pack_double payload.alpha ++
    crypto.pack_double payload.beta ++ lamport ++ info_hash ++ metadata_json ++ model_type ++
    host ++ port

/-- Nothing if the `struct.error` of a field that cannot be packed escapes from it. -/
def _verify_gossip_signature (payload : GossipMessage F) : Option Bool :=
  if payload.public_key = [] ∨ payload.signature = [] then some false
  else match fromhex payload.sender_key with
    | none => some false
    | some claimed_mid =>
      if crypto.sha1 payload.public_key ≠ claimed_mid then some false
      else match key_from_public_bin crypto payload.public_key with
        | none => some false
        | some public_key => do
          let canonical ← _gossip_canonical_bytes crypto payload
          return (crypto.verify public_key.verifier payload.signature canonical).getD false

/-- Whose signatures the bytes of a public key verify. -/
def signer (public_key : List UInt8) : Option (Verifier crypto.EcPublicKey) :=
  (key_from_public_bin crypto public_key).map PublicKey.verifier

/-- **What follows the two keys changes nothing but the digest.** -/
theorem signer_append {material : List UInt8} (h : material.length = 2 * KEY_BYTES)
    (rest : List UInt8) :
    signer crypto (utf8 "LibNaCLPK:" ++ material ++ rest) =
      signer crypto (utf8 "LibNaCLPK:" ++ material) := by
  have hprefix (tail : List UInt8) : key_from_public_bin crypto (utf8 "LibNaCLPK:" ++ tail) =
      LibNaCLPK crypto tail := by
    rw [key_from_public_bin, if_pos (List.prefix_append ..)]
    rfl
  have hne : material ≠ [] := by
    rintro rfl
    exact absurd h (by decide)
  have hpk : (material ++ rest).take KEY_BYTES = material.take KEY_BYTES :=
    List.take_append_of_le_length (by omega)
  have hvk : ((material ++ rest).drop KEY_BYTES).take KEY_BYTES =
      (material.drop KEY_BYTES).take KEY_BYTES := by
    rw [List.drop_append_of_le_length (by omega), List.take_append_of_le_length]
    rw [List.length_drop, h]
    omega
  rw [signer, signer, List.append_assoc, hprefix, hprefix, LibNaCLPK, LibNaCLPK, hpk, hvk]
  simp [hne]

/-- What a verified message has gone through. -/
theorem verified_iff {payload : GossipMessage F} :
    _verify_gossip_signature crypto payload = some true ↔
      (payload.public_key ≠ [] ∧ payload.signature ≠ []) ∧
      fromhex payload.sender_key = some (crypto.sha1 payload.public_key) ∧
      ∃ key canonical, signer crypto payload.public_key = some key ∧
        _gossip_canonical_bytes crypto payload = some canonical ∧
        crypto.verify key payload.signature canonical = some true := by
  unfold _verify_gossip_signature signer
  by_cases hempty : payload.public_key = [] ∨ payload.signature = []
  · rw [if_pos hempty]
    refine ⟨nofun, fun h => ?_⟩
    exact absurd hempty (not_or.mpr h.1)
  rw [if_neg hempty]
  have hfilled : payload.public_key ≠ [] ∧ payload.signature ≠ [] := not_or.mp hempty
  cases fromhex payload.sender_key with
  | none => exact ⟨nofun, fun h => nomatch h.2.1⟩
  | some claimed_mid =>
  dsimp only
  by_cases hmid : crypto.sha1 payload.public_key = claimed_mid
  · rw [if_neg (not_not.mpr hmid)]
    cases key_from_public_bin crypto payload.public_key with
    | none => exact ⟨nofun, fun ⟨_, _, _, _, hkey, _⟩ => nomatch hkey⟩
    | some public_key =>
    cases _gossip_canonical_bytes crypto payload with
    | none => exact ⟨nofun, fun ⟨_, _, _, _, _, hbytes, _⟩ => nomatch hbytes⟩
    | some canonical => simp [hfilled, hmid, Option.getD_eq_iff]
  · rw [if_pos hmid]
    refine ⟨nofun, fun h => ?_⟩
    exact absurd (Option.some.inj h.2.1).symm hmid

/-- The sender key of a verified message spells the digest of its public key. -/
theorem fromhex_of_verified {payload : GossipMessage F}
    (h : _verify_gossip_signature crypto payload = some true) :
    fromhex payload.sender_key = some (crypto.sha1 payload.public_key) :=
  ((verified_iff crypto).mp h).2.1

end

/-! ## The community and the shared state -/

/-- `model_scores[name]`: the score at a cutoff of a query. -/
abbrev Scores (F : Type) := ℕ → ℕ → F

/-- The parts of `_state` that change, or that the code branches on. -/
structure SharedState (F : Type) where
  disable_alias : Bool
  models : Finset String
  model_scores : PyDict String (Scores F)

structure LTRMABCommunity (F : Type) where
  peer_id : ℕ
  /-- `my_peer.public_key.key_to_bin()`, of which `my_peer.mid` is the digest. -/
  public_key : List UInt8
  bandit : Bandit F
  active_models : Finset String
  excluded_models : Finset String
  _announced_models : Finset String
  _downloading : Finset String

/-- A community beside the state it shares. -/
structure Sys (F : Type) where
  state : SharedState F
  community : LTRMABCommunity F

/-- What the generators draw. -/
structure Draws (F : Type) where
  integers : (n : ℕ) → Fin (n + 1)
  beta : ℕ → F → F → Except MabError F

/-- How a set is gone through. -/
structure SetOrder where
  list : Finset String → List String
  nodup : ∀ s, (list s).Nodup
  mem : ∀ s a, a ∈ list s ↔ a ∈ s

/-- What `confidence_bounds` returns in an exclusion check: the lower bounds that `max`
compares, then that of the best arm, then the upper bounds of the others. -/
structure Readings (B : Type) where
  lcb_in_max : String → B
  best_lcb : String → B
  arm_ucb : String → B

section

variable {F : Type} [PyFloat F] (crypto : Crypto F)

/-- `__init__`, with the arms of `initial_model_names`. -/
def LTRMABCommunity.new (peer_id : ℕ) (public_key : List UInt8) (algorithm : Algorithm F)
    (model_names : List String) : LTRMABCommunity F where
  peer_id
  public_key
  bandit := .new algorithm model_names (toString peer_id)
  active_models := model_names.toFinset
  excluded_models := ∅
  _announced_models := ∅
  _downloading := ∅

/-- `_stable_self_key`: the digest of the own key in hexadecimal. -/
def _stable_self_key (c : LTRMABCommunity F) : String := hex (crypto.sha1 c.public_key)

/-! ### Queries -/

/-- `bandit.select_arm(active=active_models)` -/
def select_arm (b : Bandit F) (draws : Draws F) (clock : ℕ → ℚ) (active : Finset String) :
    Calc String :=
  match b.algorithm with
  | .ucb1 c => UCB1.select_arm b c draws.integers clock (active.sort (· ≤ ·))
  | .thompson => ThompsonSampling.select_arm b draws.beta clock (active.sort (· ≤ ·))

/-- `bandit.update(selected, reward)` -/
def update (b : Bandit F) (now : ℚ) (arm_name : String) (reward : F) :
    Except MabError (Bandit F) :=
  match b.algorithm with
  | .ucb1 _ => UCB1.update b now arm_name reward
  | .thompson => ThompsonSampling.update b now arm_name reward

/-- The arm asked and its scores, or nothing if no arm is active. -/
def process_query (s : Sys F) (draws : Draws F) (clock : ℕ → ℚ) (now : ℚ) (query_idx : ℕ) :
    Except MabError (Sys F × Option (String × F × F × F)) :=
  if s.community.active_models = ∅ then .ok (s, none)
  else do
    let selected ← (select_arm s.community.bandit draws clock s.community.active_models).result
    match s.state.model_scores.get? selected with
    | none => .error (.KeyError selected)
    | some scores =>
      let s1 := scores 1 query_idx
      let bandit ← update s.community.bandit now selected s1
      .ok ({ s with community := { s.community with bandit } },
        some (selected, s1, scores 5 query_idx, scores 10 query_idx))

/-! ### New arms -/

def add_model (s : Sys F) (model_name : String) : Sys F :=
  if (s.community.bandit.own.get? model_name).isSome then s
  else if (s.state.model_scores.get? model_name).isNone then s
  else
    { s with community := { s.community with
      bandit := s.community.bandit.add_arm model_name
      active_models := insert model_name s.community.active_models } }

/-- `unique_name.rsplit("@", 1)[0]` of a name with an `@`. -/
def rsplit_base (unique_name : String) : Option String :=
  if '@' ∈ unique_name.toList then
    some (String.ofList ((unique_name.toList.reverse.dropWhile (· ≠ '@')).drop 1).reverse)
  else none

/-- `scores_map[name] = scores`, and `models_map[name] = model` if there is a model. -/
def SharedState.learn (state : SharedState F) (name : String) (scores : Scores F)
    (loaded : Bool) : SharedState F :=
  { state with
    models := if loaded then insert name state.models else state.models
    model_scores := state.model_scores.set name scores }

/-- The arm takes the scores of a base that is there, if it has one. -/
def _try_alias_to_local_base (s : Sys F) (unique_name : String) : Sys F × Bool :=
  if s.state.disable_alias then (s, false)
  else match rsplit_base unique_name with
    | none => (s, false)
    | some base =>
      match s.state.model_scores.get? base with
      | none => (s, false)
      | some scores =>
        if base ∉ s.state.models then (s, false)
        else (add_model { s with state := s.state.learn unique_name scores true } unique_name, true)

def discard_announced (s : Sys F) (name : String) : Sys F :=
  { s with community := { s.community with
      _announced_models := s.community._announced_models.erase name } }

def _start_download_if_idle (s : Sys F) (arm_name : String) : Sys F :=
  if (s.community.bandit.own.get? arm_name).isSome then discard_announced s arm_name
  else if arm_name ∈ s.community._downloading then s
  else match _try_alias_to_local_base s arm_name with
    | (aliased, true) => discard_announced aliased arm_name
    | (_, false) => { s with community := { s.community with
        _downloading := insert arm_name s.community._downloading } }

/-- The end of `_download_and_materialize`, with the scores of the model if it came and could
be scored. -/
def _download_and_materialize (s : Sys F) (model_name : String) (scores : Option (Scores F)) :
    Sys F :=
  let finish (s : Sys F) : Sys F := { s with community := { s.community with
    _downloading := s.community._downloading.erase model_name } }
  if model_name ∉ s.community._downloading then s
  else match scores with
    | none => finish s
    | some scores =>
      let added := add_model { s with state := s.state.learn model_name scores true } model_name
      finish (discard_announced added model_name)

/-- `propose_model` with the random bytes of the suffix. -/
def propose_model (s : Sys F) (base_model_name : String) (random : List UInt8) : Sys F :=
  let unique_name := base_model_name ++ "@" ++ hex random
  let state? : Option (SharedState F) :=
    -- another community of the process may have registered the name
    if (s.state.model_scores.get? unique_name).isSome then some s.state
    else match s.state.model_scores.get? base_model_name with
      | none => none
      | some scores =>
        some (s.state.learn unique_name scores (decide (base_model_name ∈ s.state.models)))
  match state? with
  | none => s
  | some state =>
    if (s.community.bandit.own.get? unique_name).isSome then { s with state }
    else
      { state
        community := { s.community with
          bandit := s.community.bandit.add_arm unique_name
          active_models := insert unique_name s.community.active_models } }

/-! ### Gossip -/

/-- What `_my_advertisements` has for an arm. -/
structure Advertisement where
  info_hash : List UInt8
  model_type : String
  metadata_json : String
  host : String
  port : ℤ

/-- The defaults for an arm that is not advertised. -/
def Advertisement.none : Advertisement :=
  { info_hash := [], model_type := "", metadata_json := "", host := "", port := 0 }

/-- The message of `send_gossip` about an arm, with its stamp and signature, if it can be
packed. -/
def gossip_message (c : LTRMABCommunity F) (arm : String) (own : PeerObservation F)
    (ad : Advertisement) (lamport : ℤ) : Option (GossipMessage F) :=
  let unsigned : GossipMessage F :=
    { sender_id := c.peer_id, sender_key := _stable_self_key crypto c, arm_name := arm,
      pulls := own.pulls, total_reward := own.total_reward, alpha := own.alpha,
      beta := own.beta, lamport, info_hash := ad.info_hash, metadata_json := ad.metadata_json,
      model_type := ad.model_type, host := ad.host, port := ad.port,
      public_key := c.public_key, signature := [] }
  (_gossip_canonical_bytes crypto unsigned).map fun canonical =>
    { unsigned with signature := crypto.sign c.public_key canonical }

/-- `send_gossip` to a connected peer, about the arm drawn. -/
def send_gossip (s : Sys F) (draws : Draws F) (ad : String → Advertisement) :
    Sys F × Option (GossipMessage F) :=
  match s.community.active_models.sort (· ≤ ·) with
  | [] => (s, none)
  | arm :: arms =>
    let arm := (arm :: arms).get (draws.integers arms.length)
    match s.community.bandit.own_observation arm with
    | none => (s, none)
    | some own =>
      let (bandit, lamport) := s.community.bandit.next_lamport
      ({ s with community := { s.community with bandit } },
        gossip_message crypto s.community arm own (ad arm) lamport)

/-- The arguments `on_gossip` gives to `apply_gossip`. -/
def GossipMessage.delivery (payload : GossipMessage F) (now : ℚ) : Delivery F where
  observation :=
    { arm := payload.arm_name, sender := payload.sender_key, pulls := payload.pulls,
      total_reward := payload.total_reward, alpha := payload.alpha, beta := payload.beta,
      lamport := payload.lamport }
  now

/-- An exception of the handler is logged, and the message is gone. -/
def on_gossip (s : Sys F) (now : ℚ) (payload : GossipMessage F) : Sys F :=
  let arm := payload.arm_name
  if arm = "" then s
  else if _verify_gossip_signature crypto payload ≠ some true then s
  -- an arm of this community: the observation goes to the bandit, if it is newer
  else if (s.community.bandit.own.get? arm).isSome then
    { s with community := { s.community with
      bandit := (s.community.bandit.receive (payload.delivery now)).1 } }
  -- an unknown arm is announced and its model fetched, given a torrent to fetch it from
  else if payload.info_hash.length ≠ 20 then s
  else if arm ∈ s.community._downloading then s
  else _start_download_if_idle { s with community := { s.community with
    _announced_models := insert arm s.community._announced_models } } arm

/-! ### Exclusions -/

/-- `MIN_PULLS_FOR_ELIMINATION` -/
def MIN_PULLS_FOR_ELIMINATION : ℤ := 10

section

variable {B : Type} [LinearOrder B]

/-- `max(names, key=key)`: the first of the greatest. -/
def maxBy (key : String → B) (name : String) (names : List String) : String :=
  names.foldl (fun best x => if key best < key x then x else best) name

def exclude_model (c : LTRMABCommunity F) (name : String) : LTRMABCommunity F :=
  if name ∉ c.active_models then c
  else { c with
    active_models := c.active_models.erase name
    excluded_models := insert name c.excluded_models }

/-- The loop of `check_exclusions`: the arms whose upper bound is below the best lower one. -/
def exclusion_loop (best_name : String) (best_lcb : B) (arm_ucb : String → B)
    (c : LTRMABCommunity F) (excluded : List String) :
    List String → LTRMABCommunity F × List String
  | [] => (c, excluded)
  | name :: names =>
    if name = best_name then exclusion_loop best_name best_lcb arm_ucb c excluded names
    else if arm_ucb name < best_lcb then
      exclusion_loop best_name best_lcb arm_ucb (exclude_model c name) (excluded ++ [name]) names
    else exclusion_loop best_name best_lcb arm_ucb c excluded names

/-- The active arms with enough evidence; the clock is read for each of them. -/
def active_with_pulls (c : LTRMABCommunity F) (clock : String → ℚ) : Finset String :=
  c.active_models.filter fun name =>
    MIN_PULLS_FOR_ELIMINATION ≤ c.bandit._aggregate_pulls (clock name) name

def check_exclusions [Zero B] (c : LTRMABCommunity F) (clock : String → ℚ) (order : SetOrder)
    (readings : Readings B) : LTRMABCommunity F × List String :=
  if c.active_models.card ≤ 1 then (c, [])
  else match order.list (active_with_pulls c clock) with
    | [] => (c, [])
    | [_] => (c, [])
    | name :: names =>
      let best_name := maxBy readings.lcb_in_max name names
      let best_lcb := readings.best_lcb best_name
      if best_lcb = 0 then (c, [])
      else exclusion_loop best_name best_lcb readings.arm_ucb c [] (name :: names)

end

/-! ## Runs -/

/-- What can happen to a community. -/
inductive Event (F B : Type) where
  | process_query (draws : Draws F) (clock : ℕ → ℚ) (now : ℚ) (query_idx : ℕ)
  | on_gossip (now : ℚ) (payload : GossipMessage F)
  | send_gossip (draws : Draws F) (ad : String → Advertisement)
  | downloaded (model_name : String) (scores : Option (Scores F))
  | add_model (model_name : String)
  | propose_model (base_model_name : String) (random : List UInt8)
  | check_exclusions (clock : String → ℚ) (order : SetOrder) (readings : Readings B)
  | evict_all_stale (now : ℚ)
  /-- Another community of the process adds scores, and the model if it has it. -/
  | share (name : String) (scores : Scores F) (loaded : Bool)

variable {B : Type} [LinearOrder B] [Zero B]

/-- A query that raises leaves everything as it was. -/
def apply (s : Sys F) : Event F B → Sys F
  | .process_query draws clock now query_idx =>
    match process_query s draws clock now query_idx with
    | .error _ => s
    | .ok (s', _) => s'
  | .on_gossip now payload => on_gossip crypto s now payload
  | .send_gossip draws ad => (send_gossip crypto s draws ad).1
  | .downloaded model_name scores => _download_and_materialize s model_name scores
  | .add_model model_name => add_model s model_name
  | .propose_model base_model_name random => propose_model s base_model_name random
  | .check_exclusions clock order readings =>
    { s with community := (check_exclusions s.community clock order readings).1 }
  | .evict_all_stale now =>
    { s with community := { s.community with
      bandit := (s.community.bandit.evict_all_stale now).1 } }
  | .share name scores loaded => { s with state := s.state.learn name scores loaded }

def run (s : Sys F) (events : List (Event F B)) : Sys F := events.foldl (apply crypto) s

/-! ## What an event does to the bandit -/

theorem table_add_arm (b : Bandit F) (name arm : String) : (b.add_arm name).table arm = b.table arm := by
  unfold Bandit.add_arm
  split
  · rfl
  · show ((b.peer_observations.set name (b.table name)).get? arm).getD .empty = b.table arm
    rw [PyDict.get?_set]
    by_cases h : arm = name
    · rw [if_pos h, h]
      rfl
    · rw [if_neg h]
      rfl

/-- An update counts one more pull of the arm and changes nothing else that counts. -/
theorem update_counts {b b' : Bandit F} {now : ℚ} {name : String} {reward : F}
    (h : update b now name reward = .ok b') :
    b'.peer_observations = b.peer_observations ∧ ∃ own own', b.own.get? name = some own ∧
      own'.pulls = own.pulls + 1 ∧ b'.own = b.own.set name own' := by
  unfold update UCB1.update ThompsonSampling.update at h
  cases hown : b.own.get? name with
  | none =>
      rw [hown] at h
      split at h
      · exact nomatch h
      · exact nomatch h
  | some own =>
      rw [hown] at h
      split at h
      · cases h
        exact ⟨rfl, own, _, rfl, rfl, rfl⟩
      · cases h
        exact ⟨rfl, own, _, rfl, rfl, rfl⟩

/-- What a community does to its bandit without gossip and evictions. -/
inductive Plain : Bandit F → Bandit F → Prop where
  | same (b : Bandit F) : Plain b b
  | add_arm (b : Bandit F) (name : String) : Plain b (b.add_arm name)
  | update {b b' : Bandit F} {now : ℚ} {name : String} {reward : F} :
      update b now name reward = .ok b' → Plain b b'
  | next_lamport (b : Bandit F) : Plain b b.next_lamport.1

theorem plain_add_model (s : Sys F) (model_name : String) :
    Plain s.community.bandit (add_model s model_name).community.bandit := by
  unfold add_model
  split
  · exact .same _
  · split
    · exact .same _
    · exact .add_arm _ model_name

theorem plain_alias (s : Sys F) (unique_name : String) :
    Plain s.community.bandit (_try_alias_to_local_base s unique_name).1.community.bandit := by
  unfold _try_alias_to_local_base
  split
  · exact .same _
  · split
    · exact .same _
    · split
      · exact .same _
      · rename_i scores _
        split
        · exact .same _
        · exact plain_add_model ⟨s.state.learn unique_name scores true, s.community⟩ unique_name

theorem plain_start_download (s : Sys F) (arm_name : String) :
    Plain s.community.bandit (_start_download_if_idle s arm_name).community.bandit := by
  have halias := plain_alias s arm_name
  unfold _start_download_if_idle
  split
  · exact .same _
  · split
    · exact .same _
    · generalize _try_alias_to_local_base s arm_name = result at halias
      obtain ⟨aliased, done⟩ := result
      cases done with
      | true => exact halias
      | false => exact .same _

theorem plain_download (s : Sys F) (model_name : String) (scores : Option (Scores F)) :
    Plain s.community.bandit (_download_and_materialize s model_name scores).community.bandit := by
  unfold _download_and_materialize
  dsimp only
  split
  · exact .same _
  · cases scores with
    | none => exact .same _
    | some scores =>
        exact plain_add_model ⟨s.state.learn model_name scores true, s.community⟩ model_name

theorem plain_propose (s : Sys F) (base : String) (random : List UInt8) :
    Plain s.community.bandit (propose_model s base random).community.bandit := by
  unfold propose_model
  dsimp only
  split
  · exact .same _
  · split
    · exact .same _
    · exact .add_arm _ _

theorem plain_process_query {s s' : Sys F} {draws : Draws F} {clock : ℕ → ℚ} {now : ℚ}
    {query_idx : ℕ} {answer : Option (String × F × F × F)}
    (h : process_query s draws clock now query_idx = .ok (s', answer)) :
    Plain s.community.bandit s'.community.bandit := by
  unfold process_query at h
  split at h
  · cases h
    exact .same _
  · obtain ⟨selected, -, hrest⟩ := bind_eq_ok.mp h
    split at hrest
    · cases hrest
    · obtain ⟨bandit, hupdate, hok⟩ := bind_eq_ok.mp hrest
      cases hok
      exact .update hupdate

/-- A message that goes into the tables: signed, about a known arm, not under the name of the
bandit, and with a stamp above the last one of its sender. -/
structure TakenIn (s : Sys F) (payload : GossipMessage F) : Prop where
  arm : payload.arm_name ≠ ""
  verified : _verify_gossip_signature crypto payload = some true
  known : (s.community.bandit.own.get? payload.arm_name).isSome
  foreign : payload.sender_key ≠ s.community.bandit.peer_id
  new : s.community.bandit.lamport_seen payload.sender_key payload.arm_name < payload.lamport

theorem bandit_of_takenIn {s : Sys F} {payload : GossipMessage F} (h : TakenIn crypto s payload)
    (now : ℚ) : (on_gossip crypto s now payload).community.bandit =
      s.community.bandit.accept (payload.delivery now) := by
  have hreceive : s.community.bandit.receive (payload.delivery now) =
      (s.community.bandit.accept (payload.delivery now), true) :=
    Bandit.receive_new h.foreign (not_le.mpr h.new)
  unfold on_gossip
  dsimp only
  rw [if_neg h.arm, if_neg (not_not.mpr h.verified), if_pos h.known, hreceive]

theorem plain_of_not_takenIn {s : Sys F} {payload : GossipMessage F}
    (h : ¬ TakenIn crypto s payload) (now : ℚ) :
    Plain s.community.bandit (on_gossip crypto s now payload).community.bandit := by
  unfold on_gossip
  dsimp only
  split
  · exact .same _
  · rename_i harm
    split
    · exact .same _
    · rename_i hverified
      split
      · rename_i hown
        rcases Bandit.receive_cases s.community.bandit (payload.delivery now) with
          hold | ⟨-, hforeign, hnew⟩
        · rw [hold]
          exact .same _
        · exact absurd ⟨harm, not_not.mp hverified, hown, hforeign, hnew⟩ h
      · -- what is said of an unknown arm is lost; the arm may come by an alias
        split
        · exact .same _
        · split
          · exact .same _
          · exact plain_start_download ⟨s.state, { s.community with
              _announced_models := insert payload.arm_name s.community._announced_models }⟩
              payload.arm_name

omit [PyFloat F] [Zero B] in
theorem bandit_exclusion_loop (best_name : String) (best_lcb : B) (arm_ucb : String → B)
    (c : LTRMABCommunity F) (excluded names : List String) :
    (exclusion_loop best_name best_lcb arm_ucb c excluded names).1.bandit = c.bandit := by
  have hexclude (c : LTRMABCommunity F) (name : String) :
      (exclude_model c name).bandit = c.bandit := by
    unfold exclude_model
    split
    · rfl
    · rfl
  induction names generalizing c excluded with
  | nil => rfl
  | cons name names ih =>
      rw [exclusion_loop]
      split
      · exact ih c excluded
      · split
        · rw [ih, hexclude]
        · exact ih c excluded

omit [PyFloat F] in
theorem bandit_check_exclusions (c : LTRMABCommunity F) (clock : String → ℚ) (order : SetOrder)
    (readings : Readings B) : (check_exclusions c clock order readings).1.bandit = c.bandit := by
  unfold check_exclusions
  split
  · rfl
  · split
    · rfl
    · rfl
    · dsimp only
      split
      · rfl
      · exact bandit_exclusion_loop ..

/-- The event takes a message in. -/
def Takes (s : Sys F) (e : Event F B) (payload : GossipMessage F) : Prop :=
  (∃ now, e = .on_gossip now payload) ∧ TakenIn crypto s payload

/-- **An event takes a message in, evicts, or does to the bandit what gossip has no part
in.** -/
theorem bandit_apply (s : Sys F) (e : Event F B) :
    ((∀ payload, ¬ Takes crypto s e payload) ∧
      Plain s.community.bandit (apply crypto s e).community.bandit) ∨
    (∃ now payload, e = .on_gossip now payload ∧ TakenIn crypto s payload ∧
      (apply crypto s e).community.bandit =
        s.community.bandit.accept (payload.delivery now)) ∨
    ∃ now, e = .evict_all_stale now ∧
      (apply crypto s e).community.bandit = (s.community.bandit.evict_all_stale now).1 := by
  have hother {e : Event F B} (he : ∀ now payload, e ≠ .on_gossip now payload) :
      ∀ payload, ¬ Takes crypto s e payload := fun payload ⟨⟨now, h⟩, _⟩ => he now payload h
  cases e with
  | process_query draws clock now query_idx =>
      refine .inl ⟨hother nofun, ?_⟩
      rw [apply]
      cases h : process_query s draws clock now query_idx with
      | error e => exact .same _
      | ok result => exact plain_process_query h
  | on_gossip now payload =>
      by_cases h : TakenIn crypto s payload
      · exact .inr (.inl ⟨now, payload, rfl, h, bandit_of_takenIn crypto h now⟩)
      · refine .inl ⟨?_, plain_of_not_takenIn crypto h now⟩
        rintro payload' ⟨⟨now', hevent⟩, htaken⟩
        cases hevent
        exact h htaken
  | send_gossip draws ad =>
      refine .inl ⟨hother nofun, ?_⟩
      rw [apply, send_gossip]
      split
      · exact .same _
      · dsimp only
        split
        · exact .same _
        · exact .next_lamport _
  | downloaded model_name scores => exact .inl ⟨hother nofun, plain_download s model_name scores⟩
  | add_model model_name => exact .inl ⟨hother nofun, plain_add_model s model_name⟩
  | propose_model base random => exact .inl ⟨hother nofun, plain_propose s base random⟩
  | check_exclusions clock order readings =>
      refine .inl ⟨hother nofun, ?_⟩
      rw [apply]
      dsimp only
      rw [bandit_check_exclusions]
      exact .same _
  | evict_all_stale now => exact .inr (.inr ⟨now, rfl, rfl⟩)
  | share name scores loaded => exact .inl ⟨hother nofun, .same _⟩

/-- The start of a run: a new community over models that are scored. -/
def Initial (s : Sys F) : Prop :=
  ∃ peer_id public_key algorithm model_names,
    s.community = .new peer_id public_key algorithm model_names ∧ model_names ≠ [] ∧
      ∀ name ∈ model_names, (s.state.model_scores.get? name).isSome

end

/-! ## A peer for concrete runs -/

/-- A `LibNaCLPK` of two equal halves, and bytes after it. -/
def demoKey (b : UInt8) (rest : List UInt8) : List UInt8 :=
  utf8 "LibNaCLPK:" ++ List.replicate (2 * KEY_BYTES) b ++ rest

/-- The SHA-1 digests of the keys of the runs; any other text stands for its own. -/
def demoSha1 (b : List UInt8) : List UInt8 :=
  if b = demoKey 1 [] then [0x41, 0xc7, 0x9b, 0xc8, 0x8b, 0xdd, 0x5b, 0xf0, 0x49, 0x9f, 0x65, 0x15,
    0xfc, 0x67, 0x3a, 0xa6, 0x74, 0x58, 0xa5, 0x80]
  else if b = demoKey 2 [] then [0x91, 0x90, 0x7c, 0x10, 0x9c, 0xc9, 0xf7, 0x15, 0xf1, 0x4c, 0x41,
    0xe6, 0xe0, 0x0e, 0x28, 0x84, 0x5f, 0x1d, 0x33, 0x78]
  else if b = demoKey 2 [0] then [0x57, 0x34, 0x37, 0xff, 0xd4, 0xc9, 0x7f, 0x00, 0xaa, 0x85, 0xc8,
    0x75, 0x1d, 0x9f, 0xb6, 0x36, 0x40, 0xca, 0x2b, 0x7e]
  else b

/-- The verification key of a `LibNaCLPK`. -/
def demoVk (key : List UInt8) : List UInt8 := (key.drop (10 + KEY_BYTES)).take KEY_BYTES

/-- A signature is the verification key with the text. -/
def demoCrypto : Crypto ℚ where
  sha1 := demoSha1
  EcPublicKey := Empty
  key_from_pem _ := none
  libnacl_takes pk vk := decide (pk.length = KEY_BYTES) && decide (vk.length = KEY_BYTES)
  verify
    | .LibNaCLPK vk, signature, text => some (decide (signature = vk ++ text))
    | .M2CryptoPK ec, _, _ => nomatch ec
  sign key text := demoVk key ++ text
  pack_double _ := List.replicate 8 0

/-- What the owner of a key says of an arm, under a sender key that it signs as well. -/
def demoGossip (key : List UInt8) (sender_key arm_name : String) (pulls lamport : ℤ) :
    GossipMessage ℚ :=
  let unsigned : GossipMessage ℚ :=
    { sender_id := 2, sender_key, arm_name, pulls, total_reward := 0, alpha := 1, beta := 1,
      lamport, info_hash := [], metadata_json := "", model_type := "", host := "", port := 0,
      public_key := key, signature := [] }
  { unsigned with
    signature := demoCrypto.sign key ((_gossip_canonical_bytes demoCrypto unsigned).getD []) }

/-- What the owner of `demoKey 2 []` says of an arm, under the digest of the key. -/
def pullsGossip (arm_name : String) (pulls lamport : ℤ) : GossipMessage ℚ :=
  demoGossip (demoKey 2 []) "91907c109cc9f715f14c41e6e00e28845f1d3378" arm_name pulls lamport

/-- The peer of the key `demoKey 1 []` with two models. -/
def demoStart : Sys ℚ where
  state :=
    { disable_alias := false
      models := {"lightgbm", "xgboost"}
      model_scores := .fromkeys ["lightgbm", "xgboost"] fun _ _ => 1 }
  community := .new 1 (demoKey 1 []) (.ucb1 2) ["lightgbm", "xgboost"]

theorem demoStart_initial : Initial demoStart :=
  ⟨1, demoKey 1 [], .ucb1 2, ["lightgbm", "xgboost"], rfl, nofun, by decide +kernel⟩

end Superorganism.LtrMab
