/-
`democracy/funding/service.py`: validating pledges, the funding status of a campaign
and the plan of its final transaction.

The Bitcoin node is one snapshot: `BitcoinRpc` gives for each client method the
answer it gives to each argument, an exception included, and the methods of the
service take it as part of `self`. What a decoded transaction says of the fields the
service reads is a `DecodedTx`; a missing key is `none`.

The `while` loop of `_select_pledges` takes one element out of `remaining` at each
turn, so `remaining.length` turns are enough; `select_loop` counts them.
-/
import Superorganism.Funding
import Superorganism.Tx

set_option autoImplicit false

open Superorganism.Bytes Superorganism.Py Superorganism.Tx Superorganism.Bitcoin

namespace Superorganism.Funding

/-! ## The node -/

/-- What the service reads of a `gettxout` answer. -/
structure Utxo where
  value : Option BtcValue
  confirmations : Option ℤ
deriving DecidableEq

structure DecodedInput where
  txid : Option String
  vout : Option ℤ
  sequence : Option ℤ
deriving DecidableEq

structure DecodedOutput where
  value_sats : ℤ
  script_pub_key : String
deriving DecidableEq

/-- What the service reads of a decoded transaction. -/
structure DecodedTx where
  vin : Option (List DecodedInput)
  vout : Option (List DecodedOutput)
deriving DecidableEq

/-- What `decoderawtransaction` reports of a transaction. -/
def decodedOf (tx : BitcoinTransaction) : DecodedTx where
  vin := some (tx.inputs.map fun txin =>
    ⟨some txin.outpoint_key.1, some txin.vout, some txin.sequence⟩)
  vout := some (tx.outputs.map fun txout => ⟨txout.value_sats, hex txout.script_pubkey.toList⟩)

structure RpcInput where
  txid : String
  vout : ℤ
  sequence : ℤ
deriving DecidableEq

inductive RpcOutput where
  | address (address amount : String)
  | data (payload_hex : String)
deriving DecidableEq

structure BitcoinRpc where
  get_block_count : Except PyError ℤ
  get_tx_out : String → ℤ → Except PyError (Option Utxo)
  create_raw_transaction : List RpcInput → List RpcOutput → ℤ → Bool → Except PyError String
  finalize_psbt_extract_tx_hex : String → Except PyError String
  decode_raw_transaction : String → Except PyError DecodedTx

/-! ## Results -/

def PLEDGE_INPUT_SEQUENCE : ℤ := 0xFFFFFFFD

def PLEDGE_LOCKTIME : ℤ := 0

structure PledgeValidationResult where
  valid : Bool
  reason : Option String
deriving DecidableEq

structure FundingStatus where
  campaign_id : UUID
  asking_price_sats : ℤ
  valid_pledge_total_sats : ℤ
  required_total_sats : ℤ
  valid_pledge_count : ℕ
  is_expired : Bool
  is_fundable : Bool
deriving DecidableEq

structure PreparedPledge where
  pledge : FundingPledge
  finalized_raw_tx_hex : String
deriving DecidableEq

structure FinalTransactionPlan where
  campaign_id : UUID
  selected_pledges : List FundingPledge
  selected_total_sats : ℤ
  required_total_sats : ℤ
  final_raw_tx_hex : String
deriving DecidableEq

/-! ## The service -/

structure FundingService where
  repository : FundingTables
  bitcoin_rpc : BitcoinRpc
  network_id : List UInt8
  min_confirmations : ℤ
  sha256 : List UInt8 → List UInt8
  /-- What `__init__` checks. -/
  network_id_ne : network_id ≠ []
  min_confirmations_nonneg : 0 ≤ min_confirmations

/-- `current_height > campaign.deadline_height`. -/
def FundingCampaign.expired_at (campaign : FundingCampaign) (current_height : ℤ) :
    Except PyError Bool :=
  match campaign.deadline_height with
  | some deadline_height => pure (decide (current_height > deadline_height))
  | none => throw (.TypeError "'>' not supported between instances of 'int' and 'NoneType'")

def require_active_campaign (campaign : FundingCampaign) : Except PyError Unit :=
  if campaign.is_active then pure ()
  else throw (.ValueError s!"Campaign {campaign.id.str} is inactive.")

namespace FundingService

variable (self : FundingService)

def require_campaign (campaign_id : UUID) : Except PyError FundingCampaign :=
  match self.repository.get_campaign campaign_id with
  | none => throw (.CampaignNotFoundError s!"Unknown campaign: {campaign_id.str}")
  | some campaign => pure campaign

/-- `if current_height is None: current_height = self.bitcoin_rpc.get_block_count()`. -/
def height_or_current : Option ℤ → Except PyError ℤ
  | none => self.bitcoin_rpc.get_block_count
  | some current_height => pure current_height

/-! ### One pledge -/

def ensure_utxo_has_min_confirmations (utxo : Utxo) : Except PyError ℤ :=
  let confirmations := utxo.confirmations.getD 0
  if confirmations < self.min_confirmations then
    throw (.ValueError
      s!"UTXO has {confirmations} confirmations, requires {self.min_confirmations}.")
  else pure confirmations

/-- `btc_value_to_sats(utxo["value"])`. -/
def utxo_value_sats (utxo : Utxo) : Except PyError ℤ :=
  match utxo.value with
  | none => throw (.KeyError "value")
  | some value => btc_value_to_sats value

/-- The part of `_validate_pledge_against_chain` after the height checks. -/
def validate_utxo (pledge : FundingPledge) : Except PyError (Option PledgeValidationResult) := do
  match ← self.bitcoin_rpc.get_tx_out pledge.txid pledge.vout with
  | none => pure (some ⟨false, "Pledged UTXO is spent or unknown."⟩)
  | some utxo =>
    match self.ensure_utxo_has_min_confirmations utxo with
    | .error _ => pure (some ⟨false, "Pledged UTXO has too few confirmations."⟩)
    | .ok _ =>
      let chain_value_sats ← utxo_value_sats utxo
      if chain_value_sats ≠ pledge.value_sats then
        pure (some ⟨false, "Stored pledge value does not match UTXO."⟩)
      else pure none

def validate_pledge_against_chain (pledge : FundingPledge) (campaign : FundingCampaign)
    (current_height : Option ℤ) : Except PyError (Option PledgeValidationResult) :=
  if !campaign.is_active then pure (some ⟨false, "Campaign is inactive."⟩)
  else do
    let current_height ← self.height_or_current current_height
    if ← campaign.expired_at current_height then
      pure (some ⟨false, "Campaign deadline has passed."⟩)
    else self.validate_utxo pledge

def build_pledge_inputs (txid : String) (vout : ℤ) : List RpcInput :=
  [⟨txid, vout, PLEDGE_INPUT_SEQUENCE⟩]

def build_campaign_outputs (campaign : FundingCampaign) (campaign_commitment_hex : String) :
    Except PyError (List RpcOutput) :=
  if !campaign.is_active then
    throw (.ValueError "Cannot build outputs for an inactive campaign.")
  else
    match campaign.developer_payout_address with
    | none => throw (.ValueError "Active campaigns must define a payout address.")
    | some payout_address => do
      let amount ← sats_to_btc_string campaign.asking_price_sats
      pure [.address payout_address amount, .data campaign_commitment_hex]

/-- The outputs every transaction of the campaign must have. -/
def campaign_outputs (campaign : FundingCampaign) : Except PyError (List RpcOutput) := do
  let campaign_commitment_hex ←
    campaign.compute_campaign_commitment_hex self.sha256 self.network_id
  build_campaign_outputs campaign campaign_commitment_hex

def build_unsigned_pledge_transaction (campaign : FundingCampaign) (txid : String) (vout : ℤ) :
    Except PyError String := do
  let outputs ← self.campaign_outputs campaign
  self.bitcoin_rpc.create_raw_transaction (build_pledge_inputs txid vout) outputs PLEDGE_LOCKTIME
    true

def extract_single_input_sequence (decoded_tx : DecodedTx) : Except PyError ℤ :=
  match decoded_tx.vin with
  | some [txin] =>
    match txin.sequence with
    | some sequence => pure sequence
    | none => throw (.ValueError "Transaction input does not contain an integer sequence.")
  | _ => throw (.ValueError "Transaction must have exactly one input.")

/-- `int(input_vout)`. -/
def int_of : Option ℤ → Except PyError ℤ
  | some value => pure value
  | none => throw (.TypeError ("int() argument must be a string, a bytes-like object or a real " ++
      "number, not 'NoneType'"))

/-- `input_txid != pledge.txid or int(input_vout) != pledge.vout`. -/
def spends_other (txin : DecodedInput) (pledge : FundingPledge) : Except PyError Bool :=
  if txin.txid ≠ some pledge.txid then pure true
  else do
    let input_vout ← int_of txin.vout
    pure (decide (input_vout ≠ pledge.vout))

/-- The part of `_validate_finalized_pledge_transaction` after the input check. -/
def validate_against_template (pledge : FundingPledge) (campaign : FundingCampaign)
    (decoded_pledge_tx : DecodedTx) : Except PyError (Option PledgeValidationResult) := do
  let expected_raw ← self.build_unsigned_pledge_transaction campaign pledge.txid pledge.vout
  let expected_decoded ← self.bitcoin_rpc.decode_raw_transaction expected_raw
  if decoded_pledge_tx.vout ≠ expected_decoded.vout then
    pure (some ⟨false, "Pledge transaction has wrong outputs."⟩)
  else
    let expected_sequence ← extract_single_input_sequence expected_decoded
    let actual_sequence ← extract_single_input_sequence decoded_pledge_tx
    if actual_sequence ≠ expected_sequence then
      pure (some ⟨false, "Pledge transaction uses wrong input sequence."⟩)
    else pure none

def validate_finalized_pledge_transaction (pledge : FundingPledge) (campaign : FundingCampaign)
    (decoded_pledge_tx : DecodedTx) : Except PyError (Option PledgeValidationResult) :=
  match decoded_pledge_tx.vin with
  | some [txin] => do
    if ← spends_other txin pledge then
      pure (some ⟨false, "Pledge transaction spends wrong UTXO."⟩)
    else self.validate_against_template pledge campaign decoded_pledge_tx
  | _ => pure (some ⟨false, "Pledge transaction must have exactly one input."⟩)

/-- `finalized_raw_tx_hex or self.bitcoin_rpc.finalize_psbt_extract_tx_hex(...)`: an empty
text counts as not supplied. -/
def finalized_or_computed (pledge : FundingPledge) :
    Option String → Except PyError String
  | none => self.bitcoin_rpc.finalize_psbt_extract_tx_hex pledge.signed_pledge_psbt
  | some raw_tx_hex =>
    if raw_tx_hex ≠ "" then pure raw_tx_hex
    else self.bitcoin_rpc.finalize_psbt_extract_tx_hex pledge.signed_pledge_psbt

/-- The body of the `try` of `_validate_pledge_for_campaign`: the finalized text and the
decoded transaction, each computed unless the caller supplied it. -/
def process_pledge (pledge : FundingPledge) (finalized_raw_tx_hex : Option String)
    (decoded_pledge_tx : Option DecodedTx) : Except PyError DecodedTx := do
  let raw_tx_hex ← self.finalized_or_computed pledge finalized_raw_tx_hex
  match decoded_pledge_tx with
  | some decoded => pure decoded
  | none => self.bitcoin_rpc.decode_raw_transaction raw_tx_hex

def validate_pledge_for_campaign (pledge : FundingPledge) (campaign : FundingCampaign)
    (finalized_raw_tx_hex : Option String) (decoded_pledge_tx : Option DecodedTx)
    (current_height : Option ℤ) : Except PyError PledgeValidationResult := do
  match ← self.validate_pledge_against_chain pledge campaign current_height with
  | some chain_validation => pure chain_validation
  | none =>
    match self.process_pledge pledge finalized_raw_tx_hex decoded_pledge_tx with
    | .error exc =>
      -- `except (BitcoinRpcError, ValueError)`; anything else escapes
      if exc.isBitcoinRpcError || exc.isValueError then
        pure ⟨false, s!"Cannot process pledge PSBT: {exc.str}"⟩
      else throw exc
    | .ok decoded =>
      match ← self.validate_finalized_pledge_transaction pledge campaign decoded with
      | some tx_validation => pure tx_validation
      | none => pure ⟨true, none⟩

def validate_pledge (pledge : FundingPledge) (finalized_raw_tx_hex : Option String) :
    Except PyError PledgeValidationResult :=
  match self.repository.get_campaign pledge.campaign_id with
  | none => pure ⟨false, "Unknown campaign."⟩
  | some campaign =>
    if !campaign.is_active then pure ⟨false, "Campaign is inactive."⟩
    else self.validate_pledge_for_campaign pledge campaign finalized_raw_tx_hex none none

/-! ### All pledges of a campaign -/

def cannot_process_message (pledge : FundingPledge) (campaign : FundingCampaign)
    (message : String) : String :=
  s!"Cannot process stored pledge {pledge.txid}:{pledge.vout} for campaign {campaign.id.str}: {message}"

/-- What the loop does with an exception of the first two calls. -/
def reraise (pledge : FundingPledge) (campaign : FundingCampaign) : PyError → PyError
  | .BitcoinRpcError method code rpc_message =>
    .BitcoinRpcError method code (cannot_process_message pledge campaign rpc_message)
  | exc =>
    if exc.isValueError then .ValueError (cannot_process_message pledge campaign exc.str) else exc

/-- `finalize_psbt_extract_tx_hex` and `decode_raw_transaction` of a stored pledge. -/
def finalize_and_decode (pledge : FundingPledge) : Except PyError (String × DecodedTx) := do
  let finalized_raw_tx_hex ←
    self.bitcoin_rpc.finalize_psbt_extract_tx_hex pledge.signed_pledge_psbt
  let decoded_pledge_tx ← self.bitcoin_rpc.decode_raw_transaction finalized_raw_tx_hex
  pure (finalized_raw_tx_hex, decoded_pledge_tx)

/-- The loop over the stored pledges. -/
def prepare_pledges (campaign : FundingCampaign) (current_height : ℤ) :
    List FundingPledge → Except PyError (List PreparedPledge)
  | [] => pure []
  | pledge :: pledges =>
    match self.finalize_and_decode pledge with
    | .error exc => throw (reraise pledge campaign exc)
    | .ok processed => do
      -- not under the `try`: an exception of the validation is raised as it is
      let validation ← self.validate_pledge_for_campaign pledge campaign (some processed.1)
        (some processed.2) (some current_height)
      let prepared_pledges ← prepare_pledges campaign current_height pledges
      pure (if validation.valid then ⟨pledge, processed.1⟩ :: prepared_pledges
        else prepared_pledges)

def prepare_valid_pledges_for_campaign (campaign : FundingCampaign) (current_height : Option ℤ) :
    Except PyError (List PreparedPledge) :=
  if !campaign.is_active then pure []
  else do
    let current_height ← self.height_or_current current_height
    if ← campaign.expired_at current_height then pure []
    else
      self.prepare_pledges campaign current_height
        (self.repository.get_pledges_for_campaign campaign.id)

/-- `sum(prepared.pledge.value_sats for prepared in prepared_pledges)`. -/
def total_sats (prepared_pledges : List PreparedPledge) : ℤ :=
  (prepared_pledges.map (·.pledge.value_sats)).sum

def compute_funding_status (campaign_id : UUID) (fee_buffer_sats : ℤ) :
    Except PyError FundingStatus :=
  if fee_buffer_sats < 0 then throw (.ValueError "fee_buffer_sats must be non-negative.")
  else do
    let campaign ← self.require_campaign campaign_id
    require_active_campaign campaign
    let current_height ← self.bitcoin_rpc.get_block_count
    let required_total := campaign.asking_price_sats + fee_buffer_sats
    if ← campaign.expired_at current_height then
      -- an expired campaign is reported without a look at its pledges
      pure ⟨campaign.id, campaign.asking_price_sats, 0, required_total, 0, true, false⟩
    else
      let prepared_pledges ←
        self.prepare_valid_pledges_for_campaign campaign (some current_height)
      let valid_total := total_sats prepared_pledges
      pure ⟨campaign.id, campaign.asking_price_sats, valid_total, required_total,
        prepared_pledges.length, false, decide (valid_total ≥ required_total)⟩

/-! ### The final transaction -/

def ensure_campaign_not_expired_at_height (campaign : FundingCampaign) (current_height : ℤ) :
    Except PyError Unit := do
  require_active_campaign campaign
  if ← campaign.expired_at current_height then
    throw (.ValueError (s!"Campaign expired at height {campaign.deadline_height.getD 0}; " ++
      s!"current height is {current_height}."))
  else pure ()

def prepare_valid_pledges_for_open_campaign (campaign : FundingCampaign)
    (current_height : Option ℤ) : Except PyError (List PreparedPledge) := do
  let current_height ← self.height_or_current current_height
  ensure_campaign_not_expired_at_height campaign current_height
  self.prepare_valid_pledges_for_campaign campaign (some current_height)

/-- A sort key: an amount, then `created_at`, `txid` and `vout`. -/
abbrev SelectionKey := ℤ × CreatedAt × String × ℤ

def prepared_pledge_smallest_first_key (prepared_pledge : PreparedPledge) : SelectionKey :=
  let pledge := prepared_pledge.pledge
  (pledge.value_sats, pledge.created_at, pledge.txid, pledge.vout)

def prepared_pledge_largest_first_key (prepared_pledge : PreparedPledge) : SelectionKey :=
  let pledge := prepared_pledge.pledge
  (-pledge.value_sats, pledge.created_at, pledge.txid, pledge.vout)

/-- `a < b` of two key tuples: the first fields that differ decide. -/
def key_lt (a b : SelectionKey) : Except PyError Bool :=
  if a.1 ≠ b.1 then pure (decide (a.1 < b.1))
  else if !a.2.1.eq b.2.1 then a.2.1.lt b.2.1
  else if a.2.2.1 ≠ b.2.2.1 then pure (decide (a.2.2.1 < b.2.2.1))
  else pure (decide (a.2.2.2 < b.2.2.2))

/-- `min(best, *items, key=key)`: the first of the smallest. -/
def min_by_key (key : PreparedPledge → SelectionKey) (best : PreparedPledge) :
    List PreparedPledge → Except PyError PreparedPledge
  | [] => pure best
  | item :: items => do
    if ← key_lt (key item) (key best) then min_by_key key item items
    else min_by_key key best items

/-- `finishing` in the loop of `_select_pledges`. -/
def finishing_pledges (shortfall : ℤ) (remaining : List PreparedPledge) : List PreparedPledge :=
  remaining.filter fun prepared => decide (prepared.pledge.value_sats ≥ shortfall)

/-- `next_prepared`, from what remains. -/
def next_pledge (shortfall : ℤ) (first : PreparedPledge) (rest : List PreparedPledge) :
    Except PyError PreparedPledge :=
  match finishing_pledges shortfall (first :: rest) with
  | best :: finishing => min_by_key prepared_pledge_smallest_first_key best finishing
  | [] => min_by_key prepared_pledge_largest_first_key first rest

/-- The loop of `_select_pledges`, at most `turns` turns: the selection and its total. -/
def select_loop (required : ℤ) :
    ℕ → List PreparedPledge → List PreparedPledge → ℤ → Except PyError (List PreparedPledge × ℤ)
  | 0, _, selected, total => pure (selected, total)
  | _ + 1, [], selected, total => pure (selected, total)
  | turns + 1, first :: rest, selected, total =>
    if total < required then do
      let next_prepared ← next_pledge (required - total) first rest
      select_loop required turns ((first :: rest).erase next_prepared)
        (selected ++ [next_prepared]) (total + next_prepared.pledge.value_sats)
    else pure (selected, total)

def select_pledges (campaign : FundingCampaign) (prepared_pledges : List PreparedPledge)
    (fee_buffer_sats : ℤ) : Except PyError (List PreparedPledge) :=
  if fee_buffer_sats < 0 then throw (.ValueError "fee_buffer_sats must be non-negative.")
  else do
    let required := campaign.asking_price_sats + fee_buffer_sats
    let result ← select_loop required prepared_pledges.length prepared_pledges [] 0
    if result.2 < required then
      throw (.ValueError
        s!"Not enough valid pledges. Have {result.2} sats, need {required} sats.")
    else pure result.1

def prepare_final_transaction (campaign_id : UUID) (fee_buffer_sats : ℤ) :
    Except PyError FinalTransactionPlan :=
  if fee_buffer_sats < 0 then throw (.ValueError "fee_buffer_sats must be non-negative.")
  else do
    let campaign ← self.require_campaign campaign_id
    require_active_campaign campaign
    let current_height ← self.bitcoin_rpc.get_block_count
    let prepared_pledges ←
      self.prepare_valid_pledges_for_open_campaign campaign (some current_height)
    let selected ← select_pledges campaign prepared_pledges fee_buffer_sats
    let final_raw_tx_hex ← combine_anyonecanpay_pledges (selected.map (·.finalized_raw_tx_hex))
    pure ⟨campaign.id, selected.map (·.pledge), total_sats selected,
      campaign.asking_price_sats + fee_buffer_sats, final_raw_tx_hex⟩

end FundingService

end Superorganism.Funding
