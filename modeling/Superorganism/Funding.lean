/-
Campaigns, pledges and the tables that hold them: `democracy/funding/models.py`, the
funding tables of `democracy/storage/sqlite_repository.py`, and how a pledge from a peer
enters them (`democracy/network/replication.py`).

`FundingTables` carries what SQLite enforces: primary keys, UNIQUE clauses, the
foreign key of a pledge, and the number of rows a 64-bit rowid can tell apart. An
insert that would break one of them is an error and leaves the tables as they were.

A stored `created_at` is whatever `_datetime_from_storage` makes of the text: a
datetime without time zone, one with a time zone, or the text itself. Rows are
ordered by the text, pledges are compared by the value, and values of different
kinds cannot be compared.
-/
import Mathlib.Data.List.Sort
import Mathlib.Data.String.Basic
import Superorganism.Amounts
import Superorganism.Validate

set_option autoImplicit false

open Superorganism.Bytes Superorganism.Py Superorganism.Bitcoin

namespace Superorganism.Funding

/-! ## Timestamps -/

/-- A `created_at` value with the text it is stored as. The instants are in
microseconds, local for `naive` and UTC for `aware`. -/
inductive CreatedAt where
  | naive (instant : ℤ) (stored : String)
  | aware (instant : ℤ) (stored : String)
  | text (stored : String)
deriving DecidableEq, Repr

/-- `_datetime_to_storage`. -/
def CreatedAt.stored : CreatedAt → String
  | .naive _ stored => stored
  | .aware _ stored => stored
  | .text stored => stored

/-- `a == b`. -/
def CreatedAt.eq : CreatedAt → CreatedAt → Bool
  | .naive a _, .naive b _ => a == b
  | .aware a _, .aware b _ => a == b
  | .text a, .text b => a == b
  | _, _ => false

/-- `a < b`. -/
def CreatedAt.lt : CreatedAt → CreatedAt → Except PyError Bool
  | .naive a _, .naive b _ => pure (decide (a < b))
  | .aware a _, .aware b _ => pure (decide (a < b))
  | .text a, .text b => pure (decide (a < b))
  | .text _, _ =>
    throw (.TypeError "'<' not supported between instances of 'str' and 'datetime.datetime'")
  | _, .text _ =>
    throw (.TypeError "'<' not supported between instances of 'datetime.datetime' and 'str'")
  | _, _ => throw (.TypeError "can't compare offset-naive and offset-aware datetimes")

/-! ## Campaigns -/

structure FundingCampaign where
  solution_id : UUID
  solution_hash : String
  developer_payout_address : Option String
  asking_price_sats : ℤ
  deadline_height : Option ℤ
  id : UUID
  created_at : CreatedAt
  /-- What `__post_init__` checks. -/
  asking_price_nonneg : 0 ≤ asking_price_sats
  deadline_pos : ∀ height ∈ deadline_height, 0 < height
  terms : if asking_price_sats = 0 then developer_payout_address = none ∧ deadline_height = none
    else developer_payout_address ≠ none ∧ deadline_height ≠ none
  /-- What it makes of the address: trimmed, and never the empty text. -/
  address_normalized : ∀ address ∈ developer_payout_address, strip address = address ∧ address ≠ ""
deriving DecidableEq

/-- The address `__post_init__` keeps. -/
def normalize_payout_address (developer_payout_address : Option String) : Option String :=
  (developer_payout_address.map strip).filter fun address => address ≠ ""

theorem normalize_payout_address_spec {developer_payout_address : Option String} :
    ∀ address ∈ normalize_payout_address developer_payout_address,
      strip address = address ∧ address ≠ "" := by
  intro address haddress
  rw [normalize_payout_address, Option.mem_def, Option.filter_eq_some_iff] at haddress
  obtain ⟨hstrip, hne⟩ := haddress
  obtain ⟨given, -, rfl⟩ := Option.map_eq_some_iff.mp hstrip
  exact ⟨strip_strip given, by simpa using hne⟩

/-- `FundingCampaign(...)`: `__post_init__` normalizes the address and checks the terms. -/
def FundingCampaign.new (solution_id : UUID) (solution_hash : String)
    (developer_payout_address : Option String) (asking_price_sats : ℤ) (deadline_height : Option ℤ)
    (id : UUID) (created_at : CreatedAt) : Except PyError FundingCampaign :=
  let normalized_payout_address := normalize_payout_address developer_payout_address
  if hprice : asking_price_sats < 0 then
    throw (.ValueError "asking_price_sats must be non-negative.")
  else if hdeadline : ∃ height ∈ deadline_height, height ≤ 0 then
    throw (.ValueError "deadline_height must be positive.")
  else
    have hpos : ∀ height ∈ deadline_height, 0 < height := fun height hheight =>
      not_le.mp fun hle => hdeadline ⟨height, hheight, hle⟩
    if hzero : asking_price_sats = 0 then
      if haddress : normalized_payout_address ≠ none then
        throw (.ValueError "developer_payout_address must be omitted when asking_price_sats is 0.")
      else if hheight : deadline_height ≠ none then
        throw (.ValueError "deadline_height must be omitted when asking_price_sats is 0.")
      else
        pure ⟨solution_id, solution_hash, normalized_payout_address, asking_price_sats,
          deadline_height, id, created_at, not_lt.mp hprice, hpos,
          by rw [if_pos hzero]; exact ⟨not_not.mp haddress, not_not.mp hheight⟩,
          normalize_payout_address_spec⟩
    else if haddress : normalized_payout_address = none then
      throw (.ValueError "developer_payout_address is required when asking_price_sats is positive.")
    else if hheight : deadline_height = none then
      throw (.ValueError "deadline_height is required when asking_price_sats is positive.")
    else
      pure ⟨solution_id, solution_hash, normalized_payout_address, asking_price_sats,
        deadline_height, id, created_at, not_lt.mp hprice, hpos,
        by rw [if_neg hzero]; exact ⟨haddress, hheight⟩, normalize_payout_address_spec⟩

theorem FundingCampaign.normalize_self (campaign : FundingCampaign) :
    normalize_payout_address campaign.developer_payout_address =
      campaign.developer_payout_address := by
  have hnormal := campaign.address_normalized
  cases haddress : campaign.developer_payout_address with
  | none => rfl
  | some address =>
      obtain ⟨hstrip, hne⟩ := hnormal address haddress
      rw [normalize_payout_address, Option.map_some, hstrip]
      simp [Option.filter, hne]

/-- The fields of a campaign build it again, under any date. -/
theorem FundingCampaign.new_fields (campaign : FundingCampaign) (created_at : CreatedAt) :
    FundingCampaign.new campaign.solution_id campaign.solution_hash
      campaign.developer_payout_address campaign.asking_price_sats campaign.deadline_height
      campaign.id created_at = .ok { campaign with created_at := created_at } := by
  have hnormal := campaign.normalize_self
  have hdeadline : ¬ ∃ height ∈ campaign.deadline_height, height ≤ 0 := by
    rintro ⟨height, hheight, hle⟩
    exact not_le.mpr (campaign.deadline_pos height hheight) hle
  have hterms := campaign.terms
  unfold FundingCampaign.new
  dsimp only
  rw [dif_neg (not_lt.mpr campaign.asking_price_nonneg), dif_neg hdeadline]
  by_cases hzero : campaign.asking_price_sats = 0
  · rw [if_pos hzero] at hterms
    rw [dif_pos hzero, dif_neg (by rw [hnormal]; exact not_not.mpr hterms.1),
      dif_neg (not_not.mpr hterms.2)]
    simp only [hnormal]
    rfl
  · rw [if_neg hzero] at hterms
    rw [dif_neg hzero, dif_neg (by rw [hnormal]; exact hterms.1), dif_neg hterms.2]
    simp only [hnormal]
    rfl

def FundingCampaign.is_active (campaign : FundingCampaign) : Bool :=
  decide (campaign.asking_price_sats > 0)

/-- `b"superorganism-funding-v1"`. -/
def FUNDING_PROTOCOL_LABEL : List UInt8 :=
  [115, 117, 112, 101, 114, 111, 114, 103, 97, 110, 105, 115, 109, 45, 102, 117, 110, 100, 105, 110,
    103, 45, 118, 49]

/-- `value.to_bytes(size, "big", signed=False)` of an integer. -/
def uint_be (size : ℕ) (value : ℤ) : Except PyError (List UInt8) :=
  if value < 0 then throw (.OverflowError "can't convert negative int to unsigned")
  else if value < 256 ^ size then pure (beOfNat size value.toNat)
  else throw (.OverflowError "int too big to convert")

def length_prefix (value : List UInt8) : Except PyError (List UInt8) := do
  let len ← uint_be 4 value.length
  pure (len ++ value)

/-- The commitment, over the hash function `hashlib.sha256`. The message of a failing
`bytes.fromhex` is given without the position it ends with. -/
def FundingCampaign.compute_campaign_commitment_hex (sha256 : List UInt8 → List UInt8)
    (network_id : List UInt8) (campaign : FundingCampaign) : Except PyError String :=
  if network_id = [] then throw (.ValueError "network_id must be non-empty bytes.")
  else if !campaign.is_active then
    throw (.ValueError "Cannot compute campaign commitment for an inactive campaign.")
  else
    match fromhex campaign.solution_hash with
    | none => throw (.ValueError "non-hexadecimal number found in fromhex() arg")
    | some solution_hash_bytes =>
      match campaign.developer_payout_address, campaign.deadline_height with
      | some payout_address, some deadline_height => do
        let solution_hash_field ← length_prefix solution_hash_bytes
        let payout_address_field ← length_prefix (payout_address.toList.flatMap String.utf8EncodeChar)
        let asking_price_field ← uint_be 8 campaign.asking_price_sats
        let deadline_field ← uint_be 8 deadline_height
        pure (hex (sha256 (FUNDING_PROTOCOL_LABEL ++ network_id ++ campaign.id.bytes ++
          campaign.solution_id.bytes ++ solution_hash_field ++ payout_address_field ++
          asking_price_field ++ deadline_field)))
      | _, _ => throw (.ValueError "Active campaigns must define payout address and deadline.")

/-! ## Pledges -/

structure FundingPledge where
  campaign_id : UUID
  pledger_id : UUID
  txid : String
  vout : ℤ
  value_sats : ℤ
  signed_pledge_psbt : String
  id : UUID
  created_at : CreatedAt
  /-- What `__post_init__` checks of the numbers. -/
  value_pos : 0 < value_sats
  vout_nonneg : 0 ≤ vout
  /-- What it makes of the texts. -/
  txid_valid : validate_txid txid = .ok txid
  psbt_valid : validate_psbt_base64 signed_pledge_psbt = .ok signed_pledge_psbt
deriving DecidableEq

/-- `FundingPledge(...)`: `__post_init__` normalizes the texts and checks the numbers. -/
def FundingPledge.new (campaign_id pledger_id : UUID) (txid : String) (vout value_sats : ℤ)
    (signed_pledge_psbt : String) (id : UUID) (created_at : CreatedAt) :
    Except PyError FundingPledge :=
  match htxid : validate_txid txid with
  | .error e => throw e
  | .ok normalized_txid =>
    match hpsbt : validate_psbt_base64 signed_pledge_psbt with
    | .error e => throw e
    | .ok normalized_psbt =>
      if hvalue : value_sats ≤ 0 then throw (.ValueError "value_sats must be positive.")
      else if hvout : vout < 0 then throw (.ValueError "vout must be non-negative.")
      else
        pure ⟨campaign_id, pledger_id, normalized_txid, vout, value_sats, normalized_psbt, id,
          created_at, not_le.mp hvalue, not_lt.mp hvout, validate_txid_idem htxid,
          validate_psbt_base64_idem hpsbt⟩

/-- The fields of a pledge build it again, under any date. -/
theorem FundingPledge.new_fields (pledge : FundingPledge) (created_at : CreatedAt) :
    FundingPledge.new pledge.campaign_id pledge.pledger_id pledge.txid pledge.vout
      pledge.value_sats pledge.signed_pledge_psbt pledge.id created_at =
        .ok { pledge with created_at := created_at } := by
  unfold FundingPledge.new
  split
  · rename_i e htxid
    rw [pledge.txid_valid] at htxid
    cases htxid
  · rename_i normalized_txid htxid
    rw [pledge.txid_valid] at htxid
    cases htxid
    split
    · rename_i e hpsbt
      rw [pledge.psbt_valid] at hpsbt
      cases hpsbt
    · rename_i normalized_psbt hpsbt
      rw [pledge.psbt_valid] at hpsbt
      cases hpsbt
      rw [dif_neg (not_le.mpr pledge.value_pos), dif_neg (not_lt.mpr pledge.vout_nonneg)]
      rfl

/-- The columns of `UNIQUE(campaign_id, txid, vout)`. -/
def FundingPledge.outpoint (pledge : FundingPledge) : UUID × String × ℤ :=
  (pledge.campaign_id, pledge.txid, pledge.vout)

/-! ## The tables -/

structure FundingTables where
  campaigns : List FundingCampaign
  pledges : List FundingPledge
  campaign_ids : (campaigns.map (·.id)).Nodup
  campaign_solutions : (campaigns.map (·.solution_id)).Nodup
  pledge_ids : (pledges.map (·.id)).Nodup
  pledge_outpoints : (pledges.map FundingPledge.outpoint).Nodup
  pledge_campaigns : ∀ pledge ∈ pledges, ∃ campaign ∈ campaigns, campaign.id = pledge.campaign_id
  rows : pledges.length ≤ sys_maxsize

def FundingTables.get_campaign (tables : FundingTables) (campaign_id : UUID) :
    Option FundingCampaign :=
  tables.campaigns.find? fun campaign => campaign.id = campaign_id

def FundingTables.get_pledge (tables : FundingTables) (pledge_id : UUID) : Option FundingPledge :=
  tables.pledges.find? fun pledge => pledge.id = pledge_id

/-- The rows of a campaign in the order of the text of `created_at`. -/
def FundingTables.get_pledges_for_campaign (tables : FundingTables) (campaign_id : UUID) :
    List FundingPledge :=
  (tables.pledges.filter fun pledge => pledge.campaign_id = campaign_id).insertionSort
    fun a b => a.created_at.stored ≤ b.created_at.stored

/-- The insert itself, under what the constraints of the table ask for. -/
def FundingTables.insert_pledge (tables : FundingTables) (pledge : FundingPledge)
    (hid : pledge.id ∉ tables.pledges.map (·.id))
    (hout : pledge.outpoint ∉ tables.pledges.map FundingPledge.outpoint)
    (hcampaign : ∃ campaign ∈ tables.campaigns, campaign.id = pledge.campaign_id)
    (hrows : tables.pledges.length < sys_maxsize) : FundingTables :=
  { tables with
    pledges := tables.pledges ++ [pledge]
    pledge_ids := by
      rw [List.map_append, List.nodup_append']
      exact ⟨tables.pledge_ids, List.nodup_singleton _, by simpa using hid⟩
    pledge_outpoints := by
      rw [List.map_append, List.nodup_append']
      exact ⟨tables.pledge_outpoints, List.nodup_singleton _, by simpa using hout⟩
    pledge_campaigns := by
      intro p hp
      rcases List.mem_append.mp hp with hp | hp
      · exact tables.pledge_campaigns p hp
      · rw [List.mem_singleton.mp hp]
        exact hcampaign
    rows := by
      rw [List.length_append, List.length_singleton]
      exact hrows }

def FundingTables.add_pledge (tables : FundingTables) (pledge : FundingPledge) :
    Except PyError FundingTables :=
  if pledge.vout ≥ 2 ^ 63 ∨ pledge.value_sats ≥ 2 ^ 63 then
    throw (.OverflowError "Python int too large to convert to SQLite INTEGER")
  -- SQLite looks at a UNIQUE clause before the primary key
  else if hout : pledge.outpoint ∈ tables.pledges.map FundingPledge.outpoint then
    throw (.IntegrityError ("UNIQUE constraint failed: funding_pledges.campaign_id, " ++
      "funding_pledges.txid, funding_pledges.vout"))
  else if hid : pledge.id ∈ tables.pledges.map (·.id) then
    throw (.IntegrityError "UNIQUE constraint failed: funding_pledges.id")
  else if hcampaign : ∃ campaign ∈ tables.campaigns, campaign.id = pledge.campaign_id then
    if hrows : tables.pledges.length < sys_maxsize then
      pure (tables.insert_pledge pledge hid hout hcampaign hrows)
    else throw (.OperationalError "database or disk is full")
  else throw (.IntegrityError "FOREIGN KEY constraint failed")

/-- A pledge that was added is the one new row. -/
theorem FundingTables.add_pledge_eq_ok {tables tables' : FundingTables} {pledge : FundingPledge}
    (h : tables.add_pledge pledge = .ok tables') :
    tables'.campaigns = tables.campaigns ∧ tables'.pledges = tables.pledges ++ [pledge] := by
  rw [FundingTables.add_pledge] at h
  split_ifs at h
  · cases h
    exact ⟨rfl, rfl⟩

/-! ## Pledges from peers -/

inductive StoreStatus where
  | STORED
  | ALREADY_PRESENT
  | REJECTED
deriving DecidableEq, Repr

/-- `ReplicationHandler.store_remote` of the pledge handler: nothing of the pledge is
validated before it is stored. -/
def FundingTables.store_remote (tables : FundingTables) (pledge : FundingPledge) :
    Except PyError (StoreStatus × FundingTables) :=
  if tables.get_pledge pledge.id ≠ none then pure (.ALREADY_PRESENT, tables)
  else
    match tables.add_pledge pledge with
    | .ok tables' => pure (.STORED, tables')
    | .error (.IntegrityError _) => pure (.REJECTED, tables)
    | .error e => throw e

end Superorganism.Funding
