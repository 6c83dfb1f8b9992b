/-
`submit_signed_pledge` on the repository it writes, and `BitcoinRpcClient`, which it asks.

The service's calls are those of the client (`bitcoin/rpc_client.py`). The client checks and
trims what it is given before it hands it to the node, so the PSBT as it was submitted and the
trimmed one that is stored are the same to it: what was finalized before the pledge was stored
is what `validate_pledge` finalizes afterwards.

The submission is a sequence of reads with one write at its end, a transaction of one
statement. Such a sequence amounts to one statement (`Operation.reads_bind`), so whichever of
its steps raises, the repository is as it was.
-/
import Superorganism.Sql
import Superorganism.FundingOutpoint

set_option autoImplicit false

open Superorganism.Bytes Superorganism.Py Superorganism.Bitcoin
open Superorganism.Sql (Operation)

namespace Superorganism.Bitcoin

def validate_raw_tx_hex (raw_tx_hex : String) : Except PyError String :=
  let normalized := strip raw_tx_hex
  if normalized = "" then throw (.ValueError "raw_tx_hex must not be empty.")
  else
    match fromhex normalized with
    | none => throw (.ValueError "raw_tx_hex must be a hexadecimal string.")
    | some _ => pure normalized

end Superorganism.Bitcoin

namespace Superorganism.Funding

/-! ## The client -/

/-- A `finalizepsbt` answer; `none` where the key is missing or its value has another type. -/
structure FinalizedPsbt where
  complete : Option Bool
  hex : Option String
deriving DecidableEq

/-- What `call` returns for each method, or raises; `none` where the result has another type
than the client expects. -/
structure Node where
  getblockcount : Except PyError (Option ℤ)
  /-- The inner `none` is the result `null`. -/
  gettxout : String → ℤ → Except PyError (Option (Option Utxo))
  createrawtransaction : List RpcInput → List RpcOutput → ℤ → Bool → Except PyError (Option String)
  finalizepsbt : String → Except PyError (Option FinalizedPsbt)
  decoderawtransaction : String → Except PyError (Option DecodedTx)

namespace Node

variable (node : Node)

def get_block_count : Except PyError ℤ := do
  match ← node.getblockcount with
  | none => throw (.ValueError "getblockcount returned a non-int result.")
  | some result =>
    if result < 0 then throw (.ValueError "getblockcount returned a negative block height.")
    else pure result

def get_tx_out (txid : String) (vout : ℤ) : Except PyError (Option Utxo) := do
  let txid ← validate_txid txid
  if vout < 0 then throw (.ValueError "vout must be non-negative.")
  else
    match ← node.gettxout txid vout with
    | none => throw (.ValueError "gettxout returned a non-dict result.")
    | some result => pure result

def create_raw_transaction (inputs : List RpcInput) (outputs : List RpcOutput) (locktime : ℤ)
    (replaceable : Bool) : Except PyError String :=
  if locktime < 0 then throw (.ValueError "locktime must be non-negative.")
  else do
    match ← node.createrawtransaction inputs outputs locktime replaceable with
    | none => throw (.ValueError "createrawtransaction returned a non-string result.")
    | some result => pure result

def finalize_psbt (psbt_base64 : String) : Except PyError FinalizedPsbt := do
  let psbt_base64 ← validate_psbt_base64 psbt_base64
  match ← node.finalizepsbt psbt_base64 with
  | none => throw (.ValueError "finalizepsbt returned a non-dict result.")
  | some result => pure result

def finalize_psbt_extract_tx_hex (psbt_base64 : String) : Except PyError String := do
  let result ← node.finalize_psbt psbt_base64
  match result.complete with
  | none => throw (.ValueError "finalizepsbt returned a non-bool complete flag.")
  | some false => throw (.ValueError "finalizepsbt returned an incomplete PSBT.")
  | some true =>
    match result.hex with
    | none => throw (.ValueError "finalizepsbt returned a non-string hex result.")
    | some tx_hex => validate_raw_tx_hex tx_hex

def decode_raw_transaction (raw_tx_hex : String) : Except PyError DecodedTx := do
  let raw_tx_hex ← validate_raw_tx_hex raw_tx_hex
  match ← node.decoderawtransaction raw_tx_hex with
  | none => throw (.ValueError "decoderawtransaction returned a non-dict result.")
  | some result => pure result

/-- A client of the node. -/
def client : BitcoinRpc where
  get_block_count := node.get_block_count
  get_tx_out := node.get_tx_out
  create_raw_transaction := node.create_raw_transaction
  finalize_psbt_extract_tx_hex := node.finalize_psbt_extract_tx_hex
  decode_raw_transaction := node.decode_raw_transaction

/-- The client finalizes a PSBT and its trimmed text alike. -/
theorem finalize_validated {psbt_base64 normalized : String}
    (h : validate_psbt_base64 psbt_base64 = .ok normalized) :
    node.finalize_psbt_extract_tx_hex normalized = node.finalize_psbt_extract_tx_hex psbt_base64 := by
  simp only [finalize_psbt_extract_tx_hex, finalize_psbt, h, validate_psbt_base64_idem h]

end Node

/-! ## The submission as an operation -/

namespace FundingService

/-- The service with a client of a node, on a repository. -/
def at_node (self : FundingService) (node : Node) (tables : FundingTables) : FundingService :=
  { self with repository := tables, bitcoin_rpc := node.client }

/-- `add_pledge` of the repository: a transaction of one statement. -/
def store_pledge (pledge : FundingPledge) : Operation FundingTables PyError Unit :=
  Sql.transaction <| Sql.exec fun tables => do
    let stored ← tables.add_pledge pledge
    pure ((), stored)

/-- `submit_signed_pledge`, step by step. -/
def submit_signed_pledge_steps (self : FundingService) (node : Node) (id : UUID)
    (created_at : CreatedAt) (campaign_id pledger_id : UUID) (txid : String) (vout : ℤ)
    (signed_pledge_psbt : String) : Operation FundingTables PyError FundingPledge := do
  let txid ← .reads fun _ => validate_txid txid
  let campaign ← .reads fun tables => (self.at_node node tables).require_campaign campaign_id
  .reads fun _ => require_active_campaign campaign
  .reads fun tables => (self.at_node node tables).ensure_campaign_not_expired campaign
  let utxo ← .reads fun tables => (self.at_node node tables).require_utxo txid vout
  let _ ← .reads fun tables => (self.at_node node tables).ensure_utxo_has_min_confirmations utxo
  let value_sats ← .reads fun _ => utxo_value_sats utxo
  let finalized_raw_tx_hex ← .reads fun _ => node.finalize_psbt_extract_tx_hex signed_pledge_psbt
  let pledge ← .reads fun _ => FundingPledge.new campaign.id pledger_id txid vout value_sats
    signed_pledge_psbt id created_at
  let validation ← .reads fun tables =>
    (self.at_node node tables).validate_pledge pledge (some finalized_raw_tx_hex)
  .reads fun _ =>
    if !validation.valid then
      throw (.ValueError ("Invalid signed pledge: " ++ validation.reason.getD "None"))
    else pure ()
  .raising (add_pledge_error pledge) (store_pledge pledge)
  pure pledge

/-- The write, with what becomes of its exception. -/
theorem store_pledge_eq (pledge : FundingPledge) :
    (Operation.raising (add_pledge_error pledge) (store_pledge pledge) >>= fun _ => pure pledge) =
      Sql.exec fun tables =>
        match tables.add_pledge pledge with
        | .error exc => throw (add_pledge_error pledge exc)
        | .ok stored => pure (pledge, stored) := by
  -- a failed insert is rolled back before the exception is translated
  rw [store_pledge, Operation.raising_transaction_exec, Operation.exec_bind_pure]
  congr 1
  funext tables
  cases hadd : tables.add_pledge pledge with
  | error exc => rfl
  | ok stored => rfl

/-- The sequence amounts to one statement: the submission that answers with the repository
it leaves. -/
theorem submit_signed_pledge_steps_eq (self : FundingService) (node : Node) (id : UUID)
    (created_at : CreatedAt) (campaign_id pledger_id : UUID) (txid : String) (vout : ℤ)
    (signed_pledge_psbt : String) :
    self.submit_signed_pledge_steps node id created_at campaign_id pledger_id txid vout
        signed_pledge_psbt =
      Sql.exec fun tables => (self.at_node node tables).submit_signed_pledge id created_at campaign_id
        pledger_id txid vout signed_pledge_psbt := by
  unfold submit_signed_pledge_steps submit_signed_pledge
  -- one line for each read, in the order of the source
  refine Operation.reads_bind fun txid => ?_
  refine Operation.reads_bind fun campaign => ?_
  refine Operation.reads_bind fun _ => ?_
  refine Operation.reads_bind fun _ => ?_
  refine Operation.reads_bind fun utxo => ?_
  refine Operation.reads_bind fun _ => ?_
  refine Operation.reads_bind fun value_sats => ?_
  refine Operation.reads_bind fun finalized_raw_tx_hex => ?_
  refine Operation.reads_bind fun pledge => ?_
  refine Operation.reads_bind fun validation => ?_
  refine (Operation.reads_bind fun _ => store_pledge_eq pledge).trans ?_
  congr 1
  funext tables
  split_ifs with hinvalid
  · rfl
  · rfl

/-! ## What is stored -/

/-- What a submission that returns has done: the repository gained the pledge and nothing else,
its campaign is active and open, its output was not pledged to the campaign before, its value is
what the node reports of the output, and it is valid. -/
structure Stored (self : FundingService) (node : Node) (tables stored : FundingTables)
    (pledge : FundingPledge) : Prop where
  campaigns : stored.campaigns = tables.campaigns
  pledges : stored.pledges = tables.pledges ++ [pledge]
  campaign : ∃ campaign height deadline_height,
    tables.get_campaign pledge.campaign_id = some campaign ∧ campaign.is_active = true ∧
      node.get_block_count = .ok height ∧ campaign.deadline_height = some deadline_height ∧
      height ≤ deadline_height
  fresh : pledge.outpoint ∉ tables.pledges.map FundingPledge.outpoint
  value : ∃ utxo, node.get_tx_out pledge.txid pledge.vout = .ok (some utxo) ∧
    utxo_value_sats utxo = .ok pledge.value_sats
  valid : ∃ validation, (self.at_node node stored).validate_pledge pledge none = .ok validation ∧
    validation.valid = true

variable {self : FundingService} {node : Node} {tables stored : FundingTables}
  {campaign : FundingCampaign} {pledge : FundingPledge}

theorem pledge_new_eq_ok {campaign_id pledger_id : UUID} {txid : String} {vout value_sats : ℤ}
    {signed_pledge_psbt : String} {id : UUID} {created_at : CreatedAt}
    (h : FundingPledge.new campaign_id pledger_id txid vout value_sats signed_pledge_psbt id
      created_at = .ok pledge) :
    pledge.campaign_id = campaign_id ∧ validate_txid txid = .ok pledge.txid ∧ pledge.vout = vout ∧
      pledge.value_sats = value_sats ∧
      validate_psbt_base64 signed_pledge_psbt = .ok pledge.signed_pledge_psbt := by
  unfold FundingPledge.new at h
  split at h
  · cases h
  · rename_i normalized_txid htxid
    split at h
    · cases h
    · rename_i normalized_psbt hpsbt
      split_ifs at h
      cases h
      exact ⟨rfl, htxid, rfl, rfl, hpsbt⟩

/-- A campaign that is found has the id that was asked for. -/
theorem require_campaign_eq_ok {campaign_id : UUID}
    (h : self.require_campaign campaign_id = .ok campaign) :
    self.repository.get_campaign campaign_id = some campaign ∧ campaign.id = campaign_id := by
  rw [require_campaign] at h
  split at h
  · cases h
  · rename_i found hfound
    cases h
    have hid := List.find?_some hfound
    exact ⟨hfound, by simpa using hid⟩

theorem ensure_open_eq_ok (h : self.ensure_campaign_not_expired campaign = .ok ()) :
    campaign.is_active = true ∧ ∃ height deadline_height,
      self.bitcoin_rpc.get_block_count = .ok height ∧
      campaign.deadline_height = some deadline_height ∧ height ≤ deadline_height := by
  rw [ensure_campaign_not_expired] at h
  obtain ⟨_, hactive, h⟩ := bind_eq_ok.mp h
  obtain ⟨height, hheight, h⟩ := bind_eq_ok.mp h
  rw [ensure_campaign_not_expired_at_height] at h
  obtain ⟨_, -, h⟩ := bind_eq_ok.mp h
  obtain ⟨expired, hexpired, h⟩ := bind_eq_ok.mp h
  rw [require_active_campaign] at hactive
  split_ifs at hactive with hact
  split_ifs at h with hexp
  refine ⟨hact, height, ?_⟩
  rw [FundingCampaign.expired_at] at hexpired
  cases hdeadline : campaign.deadline_height with
  | none =>
      rw [hdeadline] at hexpired
      cases hexpired
  | some deadline_height =>
      rw [hdeadline] at hexpired
      obtain rfl := Except.ok.inj hexpired
      exact ⟨deadline_height, hheight, rfl, by simpa using hexp⟩

theorem require_utxo_eq_ok {txid : String} {vout : ℤ} {utxo : Utxo}
    (h : self.require_utxo txid vout = .ok utxo) :
    self.bitcoin_rpc.get_tx_out txid vout = .ok (some utxo) := by
  rw [require_utxo] at h
  obtain ⟨answer, hanswer, h⟩ := bind_eq_ok.mp h
  cases answer with
  | none => cases h
  | some found =>
      obtain rfl := Except.ok.inj h
      exact hanswer

/-- Validation reads the campaigns of the repository and nothing else of it. -/
theorem validate_pledge_at_node (h : stored.campaigns = tables.campaigns)
    (finalized_raw_tx_hex : Option String) :
    (self.at_node node stored).validate_pledge pledge finalized_raw_tx_hex =
      (self.at_node node tables).validate_pledge pledge finalized_raw_tx_hex := by
  have hget : stored.get_campaign pledge.campaign_id = tables.get_campaign pledge.campaign_id := by
    rw [FundingTables.get_campaign, FundingTables.get_campaign, h]
  have hsame (campaign : FundingCampaign) :
      (self.at_node node stored).validate_pledge_for_campaign pledge campaign finalized_raw_tx_hex
          none none =
        (self.at_node node tables).validate_pledge_for_campaign pledge campaign
          finalized_raw_tx_hex none none := rfl
  simp only [validate_pledge, hsame]
  rw [show (self.at_node node stored).repository.get_campaign pledge.campaign_id =
    (self.at_node node tables).repository.get_campaign pledge.campaign_id from hget]

/-- The rows of the repository are unique, so what was added was not there. -/
theorem fresh_of_added (hpledges : stored.pledges = tables.pledges ++ [pledge]) :
    pledge.outpoint ∉ tables.pledges.map FundingPledge.outpoint := by
  have hunique := stored.pledge_outpoints
  rw [hpledges, List.map_append, List.nodup_append'] at hunique
  intro hmem
  exact hunique.2.2 hmem (by simp)

/-- Each step on the way to the insert has left its fact. -/
theorem stored_of_submit {id : UUID} {created_at : CreatedAt} {campaign_id pledger_id : UUID}
    {txid : String} {vout : ℤ} {signed_pledge_psbt : String}
    (h : (self.at_node node tables).submit_signed_pledge id created_at campaign_id pledger_id txid
      vout signed_pledge_psbt = .ok (pledge, stored)) :
    self.Stored node tables stored pledge := by
  rw [submit_signed_pledge] at h
  obtain ⟨txid', htxid, h⟩ := bind_eq_ok.mp h
  obtain ⟨campaign, hcampaign, h⟩ := bind_eq_ok.mp h
  obtain ⟨_, -, h⟩ := bind_eq_ok.mp h
  obtain ⟨_, hopen, h⟩ := bind_eq_ok.mp h
  obtain ⟨utxo, hutxo, h⟩ := bind_eq_ok.mp h
  obtain ⟨_, -, h⟩ := bind_eq_ok.mp h
  obtain ⟨value_sats, hvalue, h⟩ := bind_eq_ok.mp h
  obtain ⟨raw_tx_hex, hfinal, h⟩ := bind_eq_ok.mp h
  obtain ⟨new, hnew, h⟩ := bind_eq_ok.mp h
  obtain ⟨validation, hval, h⟩ := bind_eq_ok.mp h
  split_ifs at h with hinvalid
  split at h
  · cases h
  rename_i repository hadd
  cases h
  obtain ⟨hid, htxid', hvout, hsats, hpsbt⟩ := pledge_new_eq_ok hnew
  obtain ⟨hfound, hcampaign_id⟩ := require_campaign_eq_ok hcampaign
  obtain ⟨hactive, height, deadline_height, hheight, hdeadline, hle⟩ := ensure_open_eq_ok hopen
  obtain ⟨hcampaigns, hpledges⟩ := FundingTables.add_pledge_eq_ok hadd
  -- the text of the id passes unchanged the second time, and so does the trimmed PSBT
  rw [validate_txid_idem htxid] at htxid'
  obtain rfl := Except.ok.inj htxid'
  have hfinal' : node.finalize_psbt_extract_tx_hex pledge.signed_pledge_psbt = .ok raw_tx_hex :=
    (node.finalize_validated hpsbt).trans hfinal
  exact {
    campaigns := hcampaigns
    pledges := hpledges
    campaign := by
      refine ⟨campaign, height, deadline_height, ?_, hactive, hheight, hdeadline, hle⟩
      rw [hid, hcampaign_id]
      exact hfound
    fresh := fresh_of_added hpledges
    value := ⟨utxo, by rw [hvout]; exact require_utxo_eq_ok hutxo, by rw [hsats]; exact hvalue⟩
    valid := by
      refine ⟨validation, ?_, by simpa using hinvalid⟩
      rw [validate_pledge_at_node hcampaigns, ← validate_pledge_finalized hfinal']
      exact hval }

/-- **All or nothing.** On any repository, with any node and any arguments, the submission
raises and leaves the repository as it was, or it returns a pledge that the repository gained
and nothing else, for an open campaign and an output that was not pledged to it, worth what the
node says and valid. -/
theorem submit_signed_pledge_stores_or_nothing (self : FundingService) (node : Node)
    (tables : FundingTables) (id : UUID) (created_at : CreatedAt) (campaign_id pledger_id : UUID)
    (txid : String) (vout : ℤ) (signed_pledge_psbt : String) :
    (∃ e, self.submit_signed_pledge_steps node id created_at campaign_id pledger_id txid vout
        signed_pledge_psbt tables = (.error e, tables)) ∨
      ∃ pledge stored, self.submit_signed_pledge_steps node id created_at campaign_id pledger_id
        txid vout signed_pledge_psbt tables = (.ok pledge, stored) ∧
        self.Stored node tables stored pledge := by
  rw [submit_signed_pledge_steps_eq]
  rcases Sql.exec_cases (fun tables => (self.at_node node tables).submit_signed_pledge id created_at
    campaign_id pledger_id txid vout signed_pledge_psbt) tables with ⟨e, -, hraise⟩ |
      ⟨pledge, stored, hsubmit, hreturn⟩
  · exact .inl ⟨e, hraise⟩
  · exact .inr ⟨pledge, stored, hreturn, stored_of_submit hsubmit⟩

end FundingService

end Superorganism.Funding
