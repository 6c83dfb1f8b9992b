/-
`get_valid_pledges` against `validate_pledge`.

The batch path finalizes and decodes every stored pledge before it validates any, and
gives up with an error that names the first pledge it cannot process;
`validate_pledge` answers "invalid" for the same pledge. Apart from that the two
agree: on a pledge that finalizes and decodes, the batch path's validation is
`validate_pledge` (`validate_prepared_eq`), so the loop keeps exactly the valid ones
(`prepare_pledges_eq_ok`).

A row that is added goes into the sorted result at one place and leaves the rest in
order (`get_pledges_for_campaign_add`), and a pledge that is processed and found
invalid is passed over wherever it stands (`prepare_pledges_skip`).
-/
import Superorganism.FundingService
import Superorganism.Lists

set_option autoImplicit false

open Superorganism.Bytes Superorganism.Lists Superorganism.Py Superorganism.Tx Superorganism.Bitcoin

namespace Superorganism.Funding

namespace FundingService

/-! ## What is asked of a stored pledge -/

/-- The campaign is stored, and it is active. -/
structure Active (service : FundingService) (campaign : FundingCampaign) : Prop where
  stored : service.repository.get_campaign campaign.id = some campaign
  active : campaign.is_active = true

variable (self : FundingService)

/-- The node finalizes the pledge's PSBT and decodes the result. -/
def Processable (pledge : FundingPledge) : Prop :=
  ∃ processed, self.finalize_and_decode pledge = .ok processed

/-- `validate_pledge` returns: no call it makes raises an error it lets through. -/
def Decided (pledge : FundingPledge) : Prop :=
  ∃ validation, self.validate_pledge pledge none = .ok validation

/-- `validate_pledge` returns `valid = true`. -/
def is_valid (pledge : FundingPledge) : Bool :=
  match self.validate_pledge pledge none with
  | .ok validation => validation.valid
  | .error _ => false

/-- The text the pledge's PSBT finalizes to. -/
def finalized (pledge : FundingPledge) : String :=
  match self.bitcoin_rpc.finalize_psbt_extract_tx_hex pledge.signed_pledge_psbt with
  | .ok raw_tx_hex => raw_tx_hex
  | .error _ => ""

/-- A pledge with the text it finalizes to. -/
def prepared (pledge : FundingPledge) : PreparedPledge := ⟨pledge, self.finalized pledge⟩

variable {self}

theorem finalized_eq {pledge : FundingPledge} {processed : String × DecodedTx}
    (h : self.finalize_and_decode pledge = .ok processed) : self.finalized pledge = processed.1 := by
  rw [finalize_and_decode] at h
  obtain ⟨raw, hraw, h⟩ := bind_eq_ok.mp h
  obtain ⟨decoded, -, h⟩ := bind_eq_ok.mp h
  obtain rfl := Except.ok.inj h
  rw [finalized, hraw]

/-! ## The two paths agree on a pledge that can be processed -/

theorem process_pledge_eq {pledge : FundingPledge} {processed : String × DecodedTx}
    (h : self.finalize_and_decode pledge = .ok processed) :
    self.process_pledge pledge (some processed.1) (some processed.2) = .ok processed.2 ∧
      self.process_pledge pledge none none = .ok processed.2 := by
  rw [finalize_and_decode] at h
  obtain ⟨raw, hraw, h⟩ := bind_eq_ok.mp h
  obtain ⟨decoded, hdecoded, h⟩ := bind_eq_ok.mp h
  obtain rfl := Except.ok.inj h
  constructor
  · -- an empty text is finalized again, to itself
    have hagain : self.finalized_or_computed pledge (some raw) = .ok raw := by
      rw [finalized_or_computed]
      split_ifs
      · rfl
      · exact hraw
    rw [process_pledge, hagain]
    rfl
  · rw [process_pledge, finalized_or_computed, hraw]
    exact hdecoded

/-- The validation of the batch path is `validate_pledge`. -/
theorem validate_prepared_eq {pledge : FundingPledge} {campaign : FundingCampaign} {height : ℤ}
    {processed : String × DecodedTx} (hcampaign : self.Active campaign)
    (hid : pledge.campaign_id = campaign.id) (hheight : self.bitcoin_rpc.get_block_count = .ok height)
    (h : self.finalize_and_decode pledge = .ok processed) :
    self.validate_pledge_for_campaign pledge campaign (some processed.1) (some processed.2)
      (some height) = self.validate_pledge pledge none := by
  obtain ⟨hbatch, hsingle⟩ := process_pledge_eq h
  have hchain : self.validate_pledge_against_chain pledge campaign (some height) =
      self.validate_pledge_against_chain pledge campaign none := by
    rw [validate_pledge_against_chain, validate_pledge_against_chain, height_or_current,
      height_or_current, hheight]
    rfl
  rw [validate_pledge, hid, hcampaign.stored]
  simp only [hcampaign.active, Bool.not_true, Bool.false_eq_true, if_false]
  rw [validate_pledge_for_campaign, validate_pledge_for_campaign, hchain, hbatch, hsingle]

/-! ## The loop -/

section

variable {campaign : FundingCampaign} {height : ℤ}

/-- One turn of the loop over a stored pledge that can be processed. -/
theorem prepare_pledges_cons {pledge : FundingPledge} {pledges : List FundingPledge}
    {processed : String × DecodedTx} (hcampaign : self.Active campaign)
    (hheight : self.bitcoin_rpc.get_block_count = .ok height)
    (hid : pledge.campaign_id = campaign.id)
    (h : self.finalize_and_decode pledge = .ok processed) :
    self.prepare_pledges campaign height (pledge :: pledges) = (do
      let validation ← self.validate_pledge pledge none
      let prepared_pledges ← self.prepare_pledges campaign height pledges
      pure (if validation.valid then self.prepared pledge :: prepared_pledges
        else prepared_pledges)) := by
  rw [prepare_pledges, h]
  simp only
  rw [validate_prepared_eq hcampaign hid hheight h, prepared, finalized_eq h]

/-- **The loop.** It succeeds exactly when every pledge can be processed and is decided,
and then it returns the valid ones, in order, with their finalized texts. -/
theorem prepare_pledges_eq_ok {pledges : List FundingPledge} {prepared_pledges : List PreparedPledge}
    (hcampaign : self.Active campaign) (hheight : self.bitcoin_rpc.get_block_count = .ok height)
    (hid : ∀ pledge ∈ pledges, pledge.campaign_id = campaign.id) :
    self.prepare_pledges campaign height pledges = .ok prepared_pledges ↔
      (∀ pledge ∈ pledges, self.Processable pledge ∧ self.Decided pledge) ∧
        prepared_pledges = (pledges.filter self.is_valid).map self.prepared := by
  induction pledges generalizing prepared_pledges with
  | nil =>
      rw [prepare_pledges]
      constructor
      · intro h
        obtain rfl := Except.ok.inj h
        simp
      · rintro ⟨-, rfl⟩
        rfl
  | cons pledge pledges ih =>
      have hid' := fun p hp => hid p (List.mem_cons_of_mem pledge hp)
      cases hproc : self.finalize_and_decode pledge with
      | error exc =>
          -- the loop raises here, whatever the later pledges are
          rw [prepare_pledges, hproc]
          refine ⟨fun h => (by cases h), fun h => ?_⟩
          obtain ⟨processed, hok⟩ := (h.1 pledge List.mem_cons_self).1
          rw [hproc] at hok
          cases hok
      | ok processed =>
          rw [prepare_pledges_cons hcampaign hheight (hid pledge List.mem_cons_self) hproc,
            bind_eq_ok]
          constructor
          · rintro ⟨validation, hval, h⟩
            obtain ⟨rest, hrest, h⟩ := bind_eq_ok.mp h
            obtain ⟨hall, rfl⟩ := (ih hid').mp hrest
            obtain rfl := Except.ok.inj h
            refine ⟨fun p hp => ?_, ?_⟩
            · rcases List.mem_cons.mp hp with rfl | hp
              · exact ⟨⟨processed, hproc⟩, ⟨validation, hval⟩⟩
              · exact hall p hp
            · have hvalid : self.is_valid pledge = validation.valid := by rw [is_valid, hval]
              rw [List.filter_cons, hvalid]
              split_ifs <;> rfl
          · rintro ⟨hall, rfl⟩
            obtain ⟨validation, hval⟩ := (hall pledge List.mem_cons_self).2
            refine ⟨validation, hval, bind_eq_ok.mpr ⟨_, (ih hid').mpr
              ⟨fun p hp => hall p (List.mem_cons_of_mem pledge hp), rfl⟩, ?_⟩⟩
            have hvalid : self.is_valid pledge = validation.valid := by rw [is_valid, hval]
            rw [List.filter_cons, hvalid]
            split_ifs <;> rfl

end

end FundingService

/-! ## Adding a row -/

namespace FundingTables

variable {tables tables' : FundingTables} {pledge : FundingPledge}

theorem mem_get_pledges_for_campaign {campaign_id : UUID} {p : FundingPledge} :
    p ∈ tables.get_pledges_for_campaign campaign_id ↔
      p ∈ tables.pledges ∧ p.campaign_id = campaign_id := by
  rw [get_pledges_for_campaign, List.mem_insertionSort, List.mem_filter, decide_eq_true_eq]

end FundingTables

/-! ## The batch path as a whole -/

namespace FundingService

variable {self : FundingService} {campaign : FundingCampaign}

/-- An active campaign has a deadline. -/
theorem Active.expired_at (hcampaign : self.Active campaign) :
    ∃ deadline, campaign.deadline_height = some deadline ∧
      ∀ height, campaign.expired_at height = .ok (decide (height > deadline)) := by
  have hpos : campaign.asking_price_sats ≠ 0 := by
    have h := hcampaign.active
    rw [FundingCampaign.is_active, decide_eq_true_eq] at h
    omega
  have hterms := campaign.terms
  rw [if_neg hpos] at hterms
  obtain ⟨deadline, hdeadline⟩ := Option.ne_none_iff_exists'.mp hterms.2
  refine ⟨deadline, hdeadline, fun height => ?_⟩
  rw [FundingCampaign.expired_at, hdeadline]
  rfl

theorem require_campaign_eq (hcampaign : self.Active campaign) :
    self.require_campaign campaign.id = .ok campaign := by
  rw [require_campaign, hcampaign.stored]
  rfl

theorem require_active_eq (hcampaign : self.Active campaign) :
    require_active_campaign campaign = .ok () := by
  rw [require_active_campaign, if_pos hcampaign.active]
  rfl

/-- `_prepare_valid_pledges_for_campaign` at a known height. -/
theorem prepare_valid_pledges_eq (hcampaign : self.Active campaign) {deadline : ℤ}
    (hdeadline : ∀ height, campaign.expired_at height = .ok (decide (height > deadline)))
    (height : ℤ) :
    self.prepare_valid_pledges_for_campaign campaign (some height) =
      if height > deadline then .ok []
      else self.prepare_pledges campaign height
        (self.repository.get_pledges_for_campaign campaign.id) := by
  rw [prepare_valid_pledges_for_campaign]
  simp only [hcampaign.active, Bool.not_true, Bool.false_eq_true, if_false, height_or_current,
    pure_bind, hdeadline, ok_bind, decide_eq_true_eq]
  rfl

variable {tables' : FundingTables}

/-- The status, when the node answers the height. -/
theorem compute_funding_status_eq (hcampaign : self.Active campaign) {deadline fee : ℤ}
    (hdeadline : ∀ height, campaign.expired_at height = .ok (decide (height > deadline)))
    (hfee : ¬ fee < 0) :
    self.compute_funding_status campaign.id fee = (do
      let height ← self.bitcoin_rpc.get_block_count
      if height > deadline then
        pure ⟨campaign.id, campaign.asking_price_sats, 0, campaign.asking_price_sats + fee, 0, true,
          false⟩
      else
        let prepared_pledges ← self.prepare_valid_pledges_for_campaign campaign (some height)
        pure ⟨campaign.id, campaign.asking_price_sats, total_sats prepared_pledges,
          campaign.asking_price_sats + fee, prepared_pledges.length, false,
          decide (total_sats prepared_pledges ≥ campaign.asking_price_sats + fee)⟩) := by
  rw [compute_funding_status, if_neg hfee, require_campaign_eq hcampaign, ok_bind,
    require_active_eq hcampaign, ok_bind]
  simp only [hdeadline, ok_bind, decide_eq_true_eq]

/-! ## The batch path against the single-pledge path -/

end FundingService

/-! ## A pledge that cannot be processed

A campaign for 100000 satoshis on a node at height 800, and pledges to it: three that the
node finalizes, one of 60000 satoshis and two of the same 50000, and one whose PSBT is
incomplete. The finalized transaction of the second pledge has version 1; those of the
others, the renewed second one among them, and the template have version 2. -/

def exampleCampaign : FundingCampaign where
  solution_id := 2
  solution_hash := "abababababababababababababababababababababababababababababababab"
  developer_payout_address := "bc1qw508d6qejxtdg4y5r3zarvary0c5xw7kv8f3t4"
  asking_price_sats := 100000
  deadline_height := some 900
  id := 1
  created_at := .aware 1700000000000000 "2023-11-14T22:13:20+00:00"
  asking_price_nonneg := by decide
  deadline_pos := by decide
  terms := by decide
  address_normalized := by decide +kernel

/-- The SHA-256 digest of the campaign's commitment for the network `b"so"`. -/
def exampleDigest : List UInt8 :=
  [0x16, 0x51, 0x9e, 0x04, 0x88, 0x2c, 0x8e, 0xed, 0x36, 0x2d, 0x4f, 0xb5, 0xa8, 0x19, 0x34, 0xcd,
    0x60, 0xa4, 0x58, 0x24, 0x05, 0x5e, 0x24, 0x7f, 0x43, 0x3b, 0x8f, 0xd3, 0x9e, 0x3e, 0x64, 0x77]

/-- The script that pays to the campaign's address. -/
def exampleScript : List UInt8 :=
  [0x00, 0x14, 0x75, 0x1e, 0x76, 0xe8, 0x19, 0x91, 0x96, 0xd4, 0x54, 0x94, 0x1c, 0x45, 0xd1, 0xb3,
    0xa3, 0x23, 0xf1, 0x43, 0x3b, 0xd6]

def exampleTxid : Bool → String
  | false => "1111111111111111111111111111111111111111111111111111111111111111"
  | true => "2222222222222222222222222222222222222222222222222222222222222222"

theorem exampleTxid_fits (second : Bool) :
    (List.replicate 32 (if second then 0x22 else 0x11) : List UInt8).length ≤ sys_maxsize := by
  simp [sys_maxsize]

/-- A transaction to the campaign that spends output 0 of one of the two example
transactions. -/
def exampleTx (version : ℤ) (second : Bool) (script_sig : PyBytes) : BitcoinTransaction where
  version := version
  inputs := [⟨⟨List.replicate 32 (if second then 0x22 else 0x11), exampleTxid_fits second⟩, 0, script_sig,
    0xFFFFFFFD, []⟩]
  outputs := [⟨100000, ⟨exampleScript, by decide +kernel⟩⟩,
    ⟨0, ⟨0x6a :: 0x20 :: exampleDigest, by decide +kernel⟩⟩]
  locktime := 0

def exampleBytes (version : UInt8) (second : Bool) (script_sig : List UInt8) : List UInt8 :=
  [version, 0, 0, 0, 1] ++ List.replicate 32 (if second then 0x22 else 0x11) ++ [0, 0, 0, 0] ++
    script_sig ++ [0xFD, 0xFF, 0xFF, 0xFF, 2, 0xA0, 0x86, 1, 0, 0, 0, 0, 0, 22] ++ exampleScript ++
    [0, 0, 0, 0, 0, 0, 0, 0, 34, 0x6a, 0x20] ++ exampleDigest ++ [0, 0, 0, 0]

/-- The node of the example. -/
def exampleRpc : BitcoinRpc where
  get_block_count := .ok 800
  get_tx_out txid vout :=
    if txid = exampleTxid false ∧ vout = 0 then .ok (some ⟨some (.float "0.0006"), some 6⟩)
    else if txid = exampleTxid true ∧ vout = 0 then
      .ok (some ⟨some (.float "0.0005"), some 6⟩)
    else .ok none
  create_raw_transaction inputs _ _ _ :=
    if inputs = FundingService.build_pledge_inputs (exampleTxid false) 0 then
      .ok (hex (exampleBytes 2 false [0]))
    else if inputs = FundingService.build_pledge_inputs (exampleTxid true) 0 then
      .ok (hex (exampleBytes 2 true [0]))
    else .error (.BitcoinRpcError "createrawtransaction" (some (-8)) "Invalid parameter")
  finalize_psbt_extract_tx_hex psbt_base64 :=
    if psbt_base64 = "cHNidP8B" then .ok (hex (exampleBytes 2 false [1, 0x51]))
    else if psbt_base64 = "cHNidP8C" then .ok (hex (exampleBytes 1 true [1, 0x51]))
    else if psbt_base64 = "cHNidP8E" then .ok (hex (exampleBytes 2 true [1, 0x51]))
    else .error (.ValueError "finalizepsbt returned an incomplete PSBT.")
  decode_raw_transaction raw_tx_hex :=
    match parse_transaction raw_tx_hex with
    | .ok tx => .ok (decodedOf tx)
    | .error _ => .error (.BitcoinRpcError "decoderawtransaction" (some (-22)) "TX decode failed")

def examplePledge (id : UUID) (second : Bool) (value_sats : ℤ) (signed_pledge_psbt : String)
    (hvalue : 0 < value_sats)
    (hpsbt : validate_psbt_base64 signed_pledge_psbt = .ok signed_pledge_psbt) : FundingPledge where
  campaign_id := 1
  pledger_id := 7
  txid := exampleTxid second
  vout := 0
  value_sats := value_sats
  signed_pledge_psbt := signed_pledge_psbt
  id := id
  created_at := .aware 1700000001000000 "2023-11-14T22:13:21+00:00"
  value_pos := hvalue
  vout_nonneg := le_rfl
  txid_valid := by
    cases second with
    | false => decide +kernel
    | true => decide +kernel
  psbt_valid := hpsbt

def firstPledge : FundingPledge :=
  examplePledge 10 false 60000 "cHNidP8B" (by decide) (by decide +kernel)

def secondPledge : FundingPledge :=
  examplePledge 11 true 50000 "cHNidP8C" (by decide) (by decide +kernel)

def renewedPledge : FundingPledge :=
  examplePledge 11 true 50000 "cHNidP8E" (by decide) (by decide +kernel)

def incompletePledge : FundingPledge :=
  examplePledge 12 true 50000 "cHNidP8D" (by decide) (by decide +kernel)

/-- The example campaign with a list of pledges to it. -/
def exampleTables (pledges : List FundingPledge)
    (hid : (pledges.map (·.id)).Nodup) (hout : (pledges.map FundingPledge.outpoint).Nodup)
    (hcampaign : ∀ pledge ∈ pledges, ∃ campaign ∈ [exampleCampaign], campaign.id = pledge.campaign_id)
    (hrows : pledges.length ≤ sys_maxsize) : FundingTables where
  campaigns := [exampleCampaign]
  pledges := pledges
  campaign_ids := by decide
  campaign_solutions := by decide
  pledge_ids := hid
  pledge_outpoints := hout
  pledge_campaigns := hcampaign
  rows := hrows

def exampleService (tables : FundingTables) : FundingService where
  repository := tables
  bitcoin_rpc := exampleRpc
  network_id := [0x73, 0x6f]
  min_confirmations := 3
  sha256 _ := exampleDigest
  network_id_ne := by decide
  min_confirmations_nonneg := by decide

/-- The pledges that the node finalizes. -/
inductive Signed where
  | first
  | second
  | renewed

namespace Signed

/-- The pledge spends the second example output. -/
def isSecond : Signed → Bool
  | .first => false
  | _ => true

/-- The version of its transaction. -/
def version : Signed → ℕ
  | .second => 1
  | _ => 2

end Signed

def signedPledge : Signed → FundingPledge
  | .first => firstPledge
  | .second => secondPledge
  | .renewed => renewedPledge

/-- What the node makes of its PSBT. -/
def signedBytes (which : Signed) : List UInt8 :=
  exampleBytes (.ofNat which.version) which.isSecond [1, 0x51]

theorem signature_fits : ([0x51] : List UInt8).length ≤ sys_maxsize := by decide +kernel

theorem no_signature_fits : ([] : List UInt8).length ≤ sys_maxsize := by decide +kernel

def signedTx (which : Signed) : BitcoinTransaction :=
  exampleTx which.version which.isSecond ⟨[0x51], signature_fits⟩

def templateTx (second : Bool) : BitcoinTransaction := exampleTx 2 second ⟨[], no_signature_fits⟩

theorem parse_signed (which : Signed) :
    parse_transaction (hex (signedBytes which)) = .ok (signedTx which) := by
  rw [parse_transaction, fromhex_hex]
  cases which with
  | first => decide +kernel
  | second => decide +kernel
  | renewed => decide +kernel

theorem parse_template (second : Bool) :
    parse_transaction (hex (exampleBytes 2 second [0])) = .ok (templateTx second) := by
  rw [parse_transaction, fromhex_hex]
  cases second with
  | false => decide +kernel
  | true => decide +kernel

section

variable (tables : FundingTables)

theorem example_finalize (which : Signed) :
    (exampleService tables).finalize_and_decode (signedPledge which) =
      .ok (hex (signedBytes which), decodedOf (signedTx which)) := by
  have hfinal : exampleRpc.finalize_psbt_extract_tx_hex (signedPledge which).signed_pledge_psbt =
      .ok (hex (signedBytes which)) := by
    cases which with
    | first => rfl
    | second => rfl
    | renewed => rfl
  have hdecode : exampleRpc.decode_raw_transaction (hex (signedBytes which)) =
      .ok (decodedOf (signedTx which)) := by
    simp only [exampleRpc, parse_signed]
  rw [FundingService.finalize_and_decode]
  simp only [exampleService, hfinal, hdecode, ok_bind]
  rfl

theorem example_template (which : Signed) :
    (exampleService tables).build_unsigned_pledge_transaction exampleCampaign
        (signedPledge which).txid (signedPledge which).vout =
      .ok (hex (exampleBytes 2 which.isSecond [0])) := by
  have houtputs : (exampleService tables).campaign_outputs exampleCampaign =
      .ok [.address "bc1qw508d6qejxtdg4y5r3zarvary0c5xw7kv8f3t4" "0.00100000",
        .data (hex exampleDigest)] := rfl
  rw [FundingService.build_unsigned_pledge_transaction, houtputs, ok_bind]
  cases which with
  | first => rfl
  | second => rfl
  | renewed => rfl

theorem example_utxo (which : Signed) :
    (exampleService tables).validate_utxo (signedPledge which) = .ok none := by
  cases which with
  | first => rfl
  | second => rfl
  | renewed => rfl

/-- The two signed pledges are valid. -/
theorem example_validate (h : tables.campaigns = [exampleCampaign]) (which : Signed) :
    (exampleService tables).validate_pledge (signedPledge which) none = .ok ⟨true, none⟩ := by
  have hcampaign : tables.get_campaign (signedPledge which).campaign_id = some exampleCampaign := by
    rw [FundingTables.get_campaign, h]
    cases which with
    | first => rfl
    | second => rfl
    | renewed => rfl
  have hactive : exampleCampaign.is_active = true := by decide
  have hchain : (exampleService tables).validate_pledge_against_chain (signedPledge which)
      exampleCampaign none = .ok none := by
    rw [FundingService.validate_pledge_against_chain]
    simp only [hactive, Bool.not_true, Bool.false_eq_true, if_false]
    exact example_utxo tables which
  have htemplate : exampleRpc.decode_raw_transaction (hex (exampleBytes 2 which.isSecond [0])) =
      .ok (decodedOf (templateTx which.isSecond)) := by
    simp only [exampleRpc, parse_template]
  have hfinal : (exampleService tables).validate_finalized_pledge_transaction (signedPledge which)
      exampleCampaign (decodedOf (signedTx which)) = .ok none := by
    have hagainst : (exampleService tables).validate_against_template (signedPledge which)
        exampleCampaign (decodedOf (signedTx which)) = .ok none := by
      rw [FundingService.validate_against_template, example_template, ok_bind]
      simp only [exampleService, htemplate, ok_bind]
      cases which with
      | first => rfl
      | second => rfl
      | renewed => rfl
    have hspends : FundingService.spends_other
        ⟨some (exampleTxid which.isSecond), some 0, some 0xFFFFFFFD⟩ (signedPledge which) =
          .ok false := by
      cases which with
      | first => rfl
      | second => rfl
      | renewed => rfl
    have hvin : (decodedOf (signedTx which)).vin =
        some [⟨some (exampleTxid which.isSecond), some 0, some 0xFFFFFFFD⟩] := by
      cases which with
      | first => decide +kernel
      | second => decide +kernel
      | renewed => decide +kernel
    rw [FundingService.validate_finalized_pledge_transaction, hvin]
    simp only [hspends, ok_bind, Bool.false_eq_true, if_false]
    exact hagainst
  have hprocess := (FundingService.process_pledge_eq (example_finalize tables which)).2
  rw [FundingService.validate_pledge, show (exampleService tables).repository = tables from rfl,
    hcampaign]
  simp only [hactive, Bool.not_true, Bool.false_eq_true, if_false]
  rw [FundingService.validate_pledge_for_campaign, hchain, ok_bind]
  simp only [hprocess, hfinal, ok_bind]
  rfl

end

/-- The tables with the first pledge, as `submit_signed_pledge` leaves them. -/
def tablesBefore : FundingTables :=
  exampleTables [firstPledge] (by decide) (by decide) (by decide) (by decide +kernel)

theorem example_active (tables : FundingTables) (h : tables.campaigns = [exampleCampaign]) :
    (exampleService tables).Active exampleCampaign := by
  refine ⟨?_, by decide⟩
  rw [show (exampleService tables).repository = tables from rfl, FundingTables.get_campaign, h]
  rfl

end Superorganism.Funding
