/-
`build_final_transaction` and `broadcast_final_transaction` of `democracy/funding/service.py`, and
what a peer hands to its node in a whole run.

A pledge is signed for all outputs and for its own input only, so that it is good for any
transaction that makes those outputs. What keeps it from being taken for less is that nothing is
handed over before the selected pledges reach the asking price. `broadcasts_pay_in_full` says so
of a run, in which pledges and campaigns arrive from anywhere and every step has a node of its own.
What the nodes of the broadcasts are trusted with is how a transaction is made and read: that
`decoderawtransaction` reads what is in it (`BitcoinRpc.Faithful`), and that `createrawtransaction`
makes the outputs it is asked for and no others (`BitcoinRpc.Pays`). What they say of the chain and
of the mempool may be anything.
-/
import Superorganism.AmountsRoundTrip
import Superorganism.FundingSubmit

set_option autoImplicit false

open Superorganism.Bytes Superorganism.Py Superorganism.Tx Superorganism.Bitcoin

namespace Superorganism.Funding

/-! ## The mempool -/

/-- What the service reads of a `testmempoolaccept` item: the truth value of `allowed`, and the
text of `reject-reason`. -/
structure MempoolAcceptance where
  allowed : Bool
  reject_reason : Option String
deriving DecidableEq

/-- What `call` returns for the two methods, or raises; `none` where the result, or the item in
it, has another type than the client expects. -/
structure Mempool where
  testmempoolaccept : String → Except PyError (Option (List (Option MempoolAcceptance)))
  sendrawtransaction : String → Except PyError (Option String)

namespace Mempool

variable (mempool : Mempool)

def test_mempool_accept (raw_tx_hex : String) : Except PyError MempoolAcceptance := do
  let raw_tx_hex ← validate_raw_tx_hex raw_tx_hex
  match ← mempool.testmempoolaccept raw_tx_hex with
  | some [some item] => pure item
  | some [none] => throw (.ValueError "testmempoolaccept result item was not a dict.")
  | _ => throw (.ValueError "testmempoolaccept returned an unexpected result.")

/-- The answer, and the text that was handed to the node: it is handed over even where the answer
is an exception. -/
def send_raw_transaction (raw_tx_hex : String) : Except PyError String × Option String :=
  match validate_raw_tx_hex raw_tx_hex with
  | .error exc => (.error exc, none)
  | .ok raw_tx_hex =>
    ((do
      match ← mempool.sendrawtransaction raw_tx_hex with
      | none => throw (.ValueError "sendrawtransaction returned a non-string result.")
      | some result => pure result), some raw_tx_hex)

end Mempool

namespace FundingService

def build_final_transaction (self : FundingService) (campaign_id : UUID) (fee_buffer_sats : ℤ) :
    Except PyError String := do
  let plan ← self.prepare_final_transaction campaign_id fee_buffer_sats
  pure plan.final_raw_tx_hex

/-- The final transaction, if the mempool would take it. -/
def allowed_final_transaction (self : FundingService) (mempool : Mempool) (campaign_id : UUID)
    (fee_buffer_sats : ℤ) : Except PyError String := do
  let final_raw_tx_hex ← self.build_final_transaction campaign_id fee_buffer_sats
  let acceptance ← mempool.test_mempool_accept final_raw_tx_hex
  if !acceptance.allowed then
    throw (.ValueError ("Final transaction rejected by mempool policy: " ++
      acceptance.reject_reason.getD "unknown reason"))
  else pure final_raw_tx_hex

/-- `broadcast_final_transaction`: the answer, and what was handed to the node. -/
def broadcast_final_transaction (self : FundingService) (mempool : Mempool) (campaign_id : UUID)
    (fee_buffer_sats : ℤ) : Except PyError String × Option String :=
  match self.allowed_final_transaction mempool campaign_id fee_buffer_sats with
  | .error exc => (.error exc, none)
  | .ok final_raw_tx_hex => mempool.send_raw_transaction final_raw_tx_hex

end FundingService

/-! ## The node that makes the template -/

/-- The scripts that the node writes for an address and for the data of an OP_RETURN output. -/
structure Scripts where
  pay_to : String → PyBytes
  null_data : String → PyBytes

/-- The output that is made for a requested one. -/
def Scripts.Makes (scripts : Scripts) : RpcOutput → TxOutput → Prop
  | .address address amount, txout =>
    btc_value_to_sats (.str amount) = .ok txout.value_sats ∧
      txout.script_pubkey = scripts.pay_to address
  | .data payload_hex, txout =>
    txout.value_sats = 0 ∧ txout.script_pubkey = scripts.null_data payload_hex

/-- `createrawtransaction` makes the outputs it is asked for, in order. -/
def BitcoinRpc.Pays (rpc : BitcoinRpc) (scripts : Scripts) : Prop :=
  ∀ inputs outputs locktime replaceable raw tx,
    rpc.create_raw_transaction inputs outputs locktime replaceable = .ok raw →
    parse_transaction raw = .ok tx → List.Forall₂ scripts.Makes outputs tx.outputs

/-! ## What is handed over -/

/-- The transaction pays the campaign's whole price to its address and carries its commitment. It
spends the outputs of stored pledges to the campaign, each once, which the node reports as unspent,
confirmed and together worth the price and the fee buffer, and every signature in it covers what
its owner signed. -/
structure FundingService.PaysInFull (service : FundingService) (scripts : Scripts)
    (campaign : FundingCampaign) (fee_buffer_sats : ℤ) (pledges : List FundingPledge)
    (tx : BitcoinTransaction) : Prop where
  campaign_stored : campaign ∈ service.repository.campaigns
  pledges_stored : ∀ pledge ∈ pledges,
    pledge ∈ service.repository.pledges ∧ pledge.campaign_id = campaign.id
  not_expired : ∃ height deadline_height, service.bitcoin_rpc.get_block_count = .ok height ∧
    campaign.deadline_height = some deadline_height ∧ height ≤ deadline_height
  outputs : ∃ address commitment_hex, campaign.developer_payout_address = some address ∧
    campaign.compute_campaign_commitment_hex service.sha256 service.network_id = .ok commitment_hex ∧
    tx.outputs = [⟨campaign.asking_price_sats, scripts.pay_to address⟩,
      ⟨0, scripts.null_data commitment_hex⟩]
  inputs : tx.inputs.map TxInput.outpoint_key = pledges.map fun pledge => (pledge.txid, pledge.vout)
  once : (tx.inputs.map TxInput.outpoint).Nodup
  unspent : ∀ pledge ∈ pledges, ∃ utxo,
    service.bitcoin_rpc.get_tx_out pledge.txid pledge.vout = .ok (some utxo) ∧
      service.min_confirmations ≤ utxo.confirmations.getD 0 ∧
      FundingService.utxo_value_sats utxo = .ok pledge.value_sats
  funded : campaign.asking_price_sats + fee_buffer_sats ≤ (pledges.map (·.value_sats)).sum
  signed : ∀ i pledge, pledges[i]? = some pledge →
    tx.signedData i = (service.transaction pledge).signedData 0

/-! ## Runs -/

/-- A broadcast, with the node as it answers during the call. -/
structure Attempt where
  bitcoin_rpc : BitcoinRpc
  mempool : Mempool
  campaign_id : UUID
  fee_buffer_sats : ℤ

inductive PeerStep where
  | pledge (step : PledgeStep)
  | broadcast (attempt : Attempt)

/-- A text that was handed to the node, with the service that did so. -/
structure Transfer where
  service : FundingService
  campaign_id : UUID
  fee_buffer_sats : ℤ
  raw_tx_hex : String

namespace FundingService

/-- The service as it is after a step. -/
def after (self : FundingService) : PeerStep → FundingService
  | .pledge step => { self with repository := self.step step }
  | .broadcast _ => self

/-- What a step hands over. -/
def hands_over (self : FundingService) : PeerStep → List Transfer
  | .pledge _ => []
  | .broadcast attempt =>
    let service := { self with bitcoin_rpc := attempt.bitcoin_rpc }
    match (service.broadcast_final_transaction attempt.mempool attempt.campaign_id
        attempt.fee_buffer_sats).2 with
    | none => []
    | some raw_tx_hex => [⟨service, attempt.campaign_id, attempt.fee_buffer_sats, raw_tx_hex⟩]

/-- The service after a run. -/
def afterAll (self : FundingService) (steps : List PeerStep) : FundingService :=
  steps.foldl after self

/-- All that a run hands over, in order. -/
def transfers (self : FundingService) : List PeerStep → List Transfer
  | [] => []
  | step :: steps => self.hands_over step ++ (self.after step).transfers steps

end FundingService

namespace FundingService

/-! ## What acceptance says of the chain -/

variable {self : FundingService} {scripts : Scripts} {campaign : FundingCampaign}
  {pledge : FundingPledge}

/-- The pledged output passed: the node knows it unspent, it is confirmed, and it is worth what
the pledge says. -/
theorem validate_utxo_eq_none (h : self.validate_utxo pledge = .ok none) :
    ∃ utxo, self.bitcoin_rpc.get_tx_out pledge.txid pledge.vout = .ok (some utxo) ∧
      self.min_confirmations ≤ utxo.confirmations.getD 0 ∧
      utxo_value_sats utxo = .ok pledge.value_sats := by
  rw [validate_utxo] at h
  obtain ⟨answer, hanswer, h⟩ := bind_eq_ok.mp h
  cases answer with
  | none => cases h
  | some utxo =>
      have hconfirmed : self.min_confirmations ≤ utxo.confirmations.getD 0 := by
        by_contra hfew
        simp only [ensure_utxo_has_min_confirmations, if_pos (not_le.mp hfew)] at h
        cases h
      simp only [ensure_utxo_has_min_confirmations, if_neg (not_lt.mpr hconfirmed)] at h
      obtain ⟨value, hvalue, h⟩ := bind_eq_ok.mp h
      split_ifs at h with hsame
      · cases h
      · rw [not_not.mp hsame] at hvalue
        exact ⟨utxo, hanswer, hconfirmed, hvalue⟩

/-- An accepted pledge passed the checks against the chain. -/
theorem unspent_of_accepts (h : self.accepts campaign pledge = true) :
    self.validate_utxo pledge = .ok none := by
  rw [accepts] at h
  split at h
  · rename_i validation hval
    rw [validate_pledge_for_campaign] at hval
    obtain ⟨chain, hchain, hval⟩ := bind_eq_ok.mp hval
    cases chain with
    | some found =>
        obtain rfl := Except.ok.inj hval
        rw [validate_against_chain_some hchain] at h
        cases h
    | none =>
        rw [validate_pledge_against_chain] at hchain
        split_ifs at hchain
        · cases hchain
        · obtain ⟨height, -, hchain⟩ := bind_eq_ok.mp hchain
          obtain ⟨expired, -, hchain⟩ := bind_eq_ok.mp hchain
          split_ifs at hchain
          · cases hchain
          · exact hchain
  · cases h

/-! ## What the template pays -/

/-- The outputs that the service asks for. -/
theorem campaign_outputs_eq_ok {requested : List RpcOutput}
    (h : self.campaign_outputs campaign = .ok requested) :
    ∃ address amount commitment_hex, campaign.developer_payout_address = some address ∧
      sats_to_btc_string campaign.asking_price_sats = .ok amount ∧
      campaign.compute_campaign_commitment_hex self.sha256 self.network_id = .ok commitment_hex ∧
      requested = [.address address amount, .data commitment_hex] := by
  rw [campaign_outputs] at h
  obtain ⟨commitment_hex, hcommitment, h⟩ := bind_eq_ok.mp h
  rw [build_campaign_outputs] at h
  split_ifs at h
  split at h
  · cases h
  · rename_i address haddress
    obtain ⟨amount, hamount, h⟩ := bind_eq_ok.mp h
    exact ⟨address, amount, commitment_hex, haddress, hamount, hcommitment, (Except.ok.inj h).symm⟩

/-- An amount that was written is read back as it was. -/
theorem read_amount {sats value : ℤ} {amount : String} (hwrite : sats_to_btc_string sats = .ok amount)
    (hread : btc_value_to_sats (.str amount) = .ok value) : value = sats := by
  obtain ⟨hnonneg, hlt, rfl⟩ := sats_to_btc_string_eq_ok_iff.mp hwrite
  obtain ⟨n, rfl⟩ := Int.eq_ofNat_of_zero_le hnonneg
  rw [Int.toNat_natCast, btc_value_to_sats_format_f (by exact_mod_cast hlt)] at hread
  exact (Except.ok.inj hread).symm

/-- A node that makes what it is asked for puts the price and the commitment into the template. -/
theorem TemplateOutputs.pay (hpays : self.bitcoin_rpc.Pays scripts) {outputs : List TxOutput}
    (h : self.TemplateOutputs campaign outputs) :
    ∃ address commitment_hex, campaign.developer_payout_address = some address ∧
      campaign.compute_campaign_commitment_hex self.sha256 self.network_id = .ok commitment_hex ∧
      outputs = [⟨campaign.asking_price_sats, scripts.pay_to address⟩,
        ⟨0, scripts.null_data commitment_hex⟩] := by
  obtain ⟨requested, raw, template, inputs, hrequested, hraw, hparse, rfl⟩ := h
  obtain ⟨address, amount, commitment_hex, haddress, hamount, hcommitment, rfl⟩ :=
    campaign_outputs_eq_ok hrequested
  have hmade := hpays _ _ _ _ _ _ hraw hparse
  refine ⟨address, commitment_hex, haddress, hcommitment, ?_⟩
  obtain ⟨payout, rest, ⟨hvalue, hscript⟩, hrest, houtputs⟩ := List.forall₂_cons_left_iff.mp hmade
  obtain ⟨data, none, ⟨hzero, hdata⟩, hnone, rfl⟩ := List.forall₂_cons_left_iff.mp hrest
  obtain rfl := List.forall₂_nil_left_iff.mp hnone
  rw [houtputs, ← read_amount hamount hvalue, ← hscript, ← hzero, ← hdata]

/-! ## One broadcast -/

/-- A plan that was made is paid in full. -/
theorem paysInFull_of_plan (hcampaign : self.Active campaign) (hrpc : self.bitcoin_rpc.Faithful)
    (hpays : self.bitcoin_rpc.Pays scripts) {fee_buffer_sats : ℤ} (hfee : ¬ fee_buffer_sats < 0)
    {plan : FinalTransactionPlan}
    (hplan : self.prepare_final_transaction campaign.id fee_buffer_sats = .ok plan) :
    ∃ tx, tx.to_hex = .ok plan.final_raw_tx_hex ∧
      parse_transaction plan.final_raw_tx_hex = .ok tx ∧
      self.PaysInFull scripts campaign fee_buffer_sats plan.selected_pledges tx := by
  obtain ⟨deadline, hdeadline_height, hdeadline⟩ := hcampaign.expired_at
  have hasked : 0 < campaign.asking_price_sats := of_decide_eq_true hcampaign.active
  -- the height was asked for, or there would be no plan
  obtain ⟨height, hheight⟩ : ∃ height, self.bitcoin_rpc.get_block_count = .ok height := by
    rw [prepare_final_transaction, if_neg hfee, require_campaign_eq hcampaign, ok_bind,
      require_active_eq hcampaign, ok_bind] at hplan
    obtain ⟨height, hheight, -⟩ := bind_eq_ok.mp hplan
    exact ⟨height, hheight⟩
  obtain ⟨hopen, -, selected, final_raw_tx_hex, hselect, hcombine, rfl⟩ :=
    (prepare_final_transaction_eq hcampaign hdeadline hfee hheight).mp hplan
  obtain ⟨hnodup, hall, htexts, hreached⟩ := selected_accepted hselect
  set pledges := selected.map (·.pledge) with hpledges
  have hne : pledges ≠ [] := by
    intro hnil
    rw [List.map_eq_nil_iff.mp hnil, total_sats_nil] at hreached
    omega
  have hparse := parseAll_finalized hrpc hall
  rw [htexts] at hcombine
  obtain ⟨txs, tx, -, hparse', hcomp, hfinal, hhex⟩ := combine_eq_ok.mp hcombine
  obtain rfl := parseAll_unique hparse hparse'
  have hlen : (pledges.map self.finalized).length ≤ sys_maxsize := by
    rw [List.length_map]
    exact length_le_of_accepted hcampaign hnodup hall
  have hlist : (⟨pledges.map self.finalized, hlen⟩ : PySeq String).toList ≠ [] :=
    fun hnil => hne (List.map_eq_nil_iff.mp hnil)
  obtain ⟨text, hhex', hpt⟩ := hfinal.parse_to_hex hlist hparse hcomp
  rw [hhex] at hhex'
  obtain rfl := Except.ok.inj hhex'
  have hstored (p) (hp : p ∈ pledges) : p ∈ self.repository.pledges ∧ p.campaign_id = campaign.id :=
    ((mem_accepted_pledges hcampaign).mp (hall p hp)).1
  have haccepts (p) (hp : p ∈ pledges) : self.accepts campaign p = true :=
    (List.mem_filter.mp (hall p hp)).2
  refine ⟨tx, hhex, hpt, ?_⟩
  exact {
    campaign_stored := List.mem_of_find?_eq_some hcampaign.stored
    pledges_stored := hstored
    not_expired := ⟨height, deadline, hheight, hdeadline_height, not_lt.mp hopen⟩
    outputs := by
      -- all selected transactions have the outputs of one template
      obtain ⟨p, hp⟩ := List.exists_mem_of_ne_nil pledges hne
      rw [hfinal.outputs _ (List.mem_map_of_mem hp)]
      exact (transaction_of_accepts hrpc (haccepts p hp)).2.2.pay hpays
    inputs := by
      rw [hfinal.inputs]
      exact outpoint_keys_of_accepted hrpc hall
    once := by
      rw [hfinal.inputs]
      exact hcomp.outpoints
    unspent := fun p hp => validate_utxo_eq_none (unspent_of_accepts (haccepts p hp))
    funded := by
      rw [total_sats] at hreached
      rwa [hpledges, List.map_map]
    signed := fun i p hi => hfinal.signedData_eq hcomp.one_input i _ (by
      rw [List.getElem?_map, hi, Option.map_some]) }

/-- A plan is made of a stored campaign that is active, for a fee buffer that is not negative. -/
theorem active_of_plan {campaign_id : UUID} {fee_buffer_sats : ℤ} {plan : FinalTransactionPlan}
    (h : self.prepare_final_transaction campaign_id fee_buffer_sats = .ok plan) :
    ¬ fee_buffer_sats < 0 ∧ ∃ campaign, self.Active campaign ∧ campaign.id = campaign_id := by
  rw [prepare_final_transaction] at h
  split_ifs at h with hfee
  obtain ⟨campaign, hcampaign, h⟩ := bind_eq_ok.mp h
  obtain ⟨_, hactive, -⟩ := bind_eq_ok.mp h
  obtain ⟨hfound, rfl⟩ := require_campaign_eq_ok hcampaign
  rw [require_active_campaign] at hactive
  split_ifs at hactive with hact
  exact ⟨hfee, campaign, ⟨hfound, hact⟩, rfl⟩

/-- The client hands over the text of a transaction as it is. -/
theorem validate_raw_tx_hex_to_hex {tx : BitcoinTransaction} {raw_tx_hex sent : String}
    (hhex : tx.to_hex = .ok raw_tx_hex) (h : validate_raw_tx_hex raw_tx_hex = .ok sent) :
    sent = raw_tx_hex := by
  obtain ⟨bytes, -, hbytes⟩ := bind_eq_ok.mp hhex
  obtain rfl := Except.ok.inj hbytes
  rw [validate_raw_tx_hex, strip_hex] at h
  split_ifs at h
  rw [fromhex_hex] at h
  exact (Except.ok.inj h).symm

/-- And it takes every text that parses. -/
theorem validate_raw_tx_hex_parsed {bytes : List UInt8} {tx : BitcoinTransaction}
    (hparse : parse_transaction (hex bytes) = .ok tx) :
    validate_raw_tx_hex (hex bytes) = .ok (hex bytes) := by
  have hne : hex bytes ≠ "" := by
    intro hempty
    have hrefused : ∃ e, parse_transaction "" = .error e := ⟨_, rfl⟩
    obtain ⟨e, he⟩ := hrefused
    rw [hempty, he] at hparse
    cases hparse
  rw [validate_raw_tx_hex, strip_hex]
  simp only [if_neg hne, fromhex_hex]
  rfl

theorem validate_raw_tx_hex_of_parse {tx : BitcoinTransaction} {raw_tx_hex : String}
    (hhex : tx.to_hex = .ok raw_tx_hex) (hparse : parse_transaction raw_tx_hex = .ok tx) :
    validate_raw_tx_hex raw_tx_hex = .ok raw_tx_hex := by
  obtain ⟨bytes, -, hbytes⟩ := bind_eq_ok.mp hhex
  obtain rfl := Except.ok.inj hbytes
  exact validate_raw_tx_hex_parsed hparse

theorem hands_over_sent {attempt : Attempt} {service : FundingService} {raw_tx_hex : String}
    (hservice : { self with bitcoin_rpc := attempt.bitcoin_rpc } = service)
    (h : (service.broadcast_final_transaction attempt.mempool attempt.campaign_id
      attempt.fee_buffer_sats).2 = some raw_tx_hex) :
    self.hands_over (.broadcast attempt) =
      [⟨service, attempt.campaign_id, attempt.fee_buffer_sats, raw_tx_hex⟩] := by
  rw [hands_over]
  simp only [hservice, h]

/-- What a step hands over pays in full. -/
theorem hands_over_paid (self : FundingService) {step : PeerStep} {transfer : Transfer}
    (hnode : ∀ attempt, step = .broadcast attempt →
      attempt.bitcoin_rpc.Faithful ∧ attempt.bitcoin_rpc.Pays scripts)
    (h : transfer ∈ self.hands_over step) :
    transfer.service.repository = self.repository ∧ ∃ campaign pledges tx,
      campaign.id = transfer.campaign_id ∧ parse_transaction transfer.raw_tx_hex = .ok tx ∧
        transfer.service.PaysInFull scripts campaign transfer.fee_buffer_sats pledges tx := by
  cases step with
  | pledge step => cases h
  | broadcast attempt =>
      obtain ⟨hfaithful, hpays⟩ := hnode attempt rfl
      rw [hands_over] at h
      split at h
      · cases h
      rename_i raw_tx_hex hsent
      obtain rfl := List.mem_singleton.mp h
      refine ⟨rfl, ?_⟩
      -- something was handed over, so the plan was made and the mempool takes it
      rw [broadcast_final_transaction] at hsent
      split at hsent
      · cases hsent
      rename_i final_raw_tx_hex hallowed
      rw [allowed_final_transaction] at hallowed
      obtain ⟨built, hbuilt, hallowed⟩ := bind_eq_ok.mp hallowed
      obtain ⟨acceptance, -, hallowed⟩ := bind_eq_ok.mp hallowed
      split_ifs at hallowed
      obtain rfl := Except.ok.inj hallowed
      obtain ⟨plan, hplan, hbuilt⟩ := bind_eq_ok.mp hbuilt
      obtain rfl := Except.ok.inj hbuilt
      obtain ⟨hfee, campaign, hcampaign, hid⟩ := active_of_plan hplan
      rw [← hid] at hplan
      obtain ⟨tx, hhex, hparse, hpaid⟩ := paysInFull_of_plan hcampaign hfaithful hpays hfee hplan
      rw [Mempool.send_raw_transaction] at hsent
      split at hsent
      · cases hsent
      rename_i sent hvalid
      obtain rfl := Option.some.inj hsent
      rw [validate_raw_tx_hex_to_hex hhex hvalid]
      exact ⟨campaign, plan.selected_pledges, tx, hid, hparse, hpaid⟩

/-! ## The run -/

/-- A step takes no campaign and no pledge away. -/
theorem after_grows (self : FundingService) (step : PeerStep) :
    self.repository.campaigns ⊆ (self.after step).repository.campaigns ∧
      self.repository.pledges ⊆ (self.after step).repository.pledges := by
  cases step with
  | broadcast attempt => exact ⟨List.Subset.refl _, List.Subset.refl _⟩
  | pledge step =>
      change self.repository.campaigns ⊆ (self.step step).campaigns ∧
        self.repository.pledges ⊆ (self.step step).pledges
      have hadded {tables : FundingTables} {pledge : FundingPledge}
          (hadd : self.repository.add_pledge pledge = .ok tables) :
          self.repository.campaigns ⊆ tables.campaigns ∧ self.repository.pledges ⊆ tables.pledges := by
        obtain ⟨hcampaigns, hpledges⟩ := FundingTables.add_pledge_eq_ok hadd
        rw [hcampaigns, hpledges]
        exact ⟨List.Subset.refl _, List.subset_append_left _ _⟩
      have hsame : self.repository.campaigns ⊆ self.repository.campaigns ∧
          self.repository.pledges ⊆ self.repository.pledges :=
        ⟨List.Subset.refl _, List.Subset.refl _⟩
      cases step with
      | submit bitcoin_rpc id created_at campaign_id pledger_id txid vout signed_pledge_psbt =>
          rw [FundingService.step]
          split
          · rename_i stored hsubmit
            exact hadded (submit_signed_pledge_eq_ok hsubmit).1
          · exact hsame
      | receive pledge =>
          rw [FundingService.step]
          split
          · rename_i stored hstore
            rw [FundingTables.store_remote] at hstore
            split_ifs at hstore
            · obtain rfl := Except.ok.inj hstore
              exact hsame
            · split at hstore
              · rename_i tables hadd
                obtain rfl := Except.ok.inj hstore
                exact hadded hadd
              · obtain rfl := Except.ok.inj hstore
                exact hsame
              · cases hstore
          · exact hsame
      | campaign campaign =>
          rw [FundingService.step]
          split
          · rename_i repository hadd
            rw [FundingTables.add_campaign] at hadd
            split_ifs at hadd
            obtain rfl := Except.ok.inj hadd
            exact ⟨List.subset_append_left _ _, List.Subset.refl _⟩
          · exact hsame

theorem afterAll_grows (self : FundingService) (steps : List PeerStep) :
    self.repository.campaigns ⊆ (self.afterAll steps).repository.campaigns ∧
      self.repository.pledges ⊆ (self.afterAll steps).repository.pledges := by
  induction steps generalizing self with
  | nil => exact ⟨List.Subset.refl _, List.Subset.refl _⟩
  | cons step steps ih =>
      obtain ⟨hcampaigns, hpledges⟩ := self.after_grows step
      obtain ⟨hcampaigns', hpledges'⟩ := ih (self.after step)
      exact ⟨List.Subset.trans hcampaigns hcampaigns', List.Subset.trans hpledges hpledges'⟩

end FundingService

/-- **Nobody pays for less.** Start from any repository and let campaigns and pledges be added,
submitted and received in any order, and final transactions be broadcast in between, by nodes that
decode a transaction as it is and make a new one with just the outputs asked for, and otherwise
answer as they like. Every transaction that is handed to a node on the way pays a campaign that is
stored and open its whole asking price, carries the campaign's commitment, spends the outputs of
stored pledges to the campaign once each, which that node reports as unspent, confirmed and together
worth the price and the fee buffer, and changes nothing that a pledger signed. The campaign and the
pledges are still stored at the end of the run. -/
theorem broadcasts_pay_in_full (service : FundingService) (scripts : Scripts) (steps : List PeerStep)
    (hnodes : ∀ attempt, .broadcast attempt ∈ steps →
      attempt.bitcoin_rpc.Faithful ∧ attempt.bitcoin_rpc.Pays scripts) :
    ∀ transfer ∈ service.transfers steps, ∃ campaign pledges tx,
      campaign.id = transfer.campaign_id ∧ parse_transaction transfer.raw_tx_hex = .ok tx ∧
      transfer.service.PaysInFull scripts campaign transfer.fee_buffer_sats pledges tx ∧
      campaign ∈ (service.afterAll steps).repository.campaigns ∧
      ∀ pledge ∈ pledges, pledge ∈ (service.afterAll steps).repository.pledges := by
  induction steps generalizing service with
  | nil =>
      intro transfer htransfer
      cases htransfer
  | cons step steps ih =>
      intro transfer htransfer
      rcases List.mem_append.mp htransfer with hnow | hlater
      · obtain ⟨hsame, campaign, pledges, tx, hid, hparse, hpaid⟩ := service.hands_over_paid
          (fun attempt hattempt => hnodes attempt (hattempt ▸ List.mem_cons_self)) hnow
        obtain ⟨hcampaigns, hpledges⟩ := service.afterAll_grows (step :: steps)
        refine ⟨campaign, pledges, tx, hid, hparse, hpaid, hcampaigns ?_, fun p hp => hpledges ?_⟩
        · rw [← hsame]
          exact hpaid.campaign_stored
        · rw [← hsame]
          exact (hpaid.pledges_stored p hp).1
      · exact ih (service.after step)
          (fun attempt hattempt => hnodes attempt (List.mem_cons_of_mem step hattempt)) transfer hlater

/-! ## A campaign that one pledge pays -/

namespace FundingService

theorem exampleScript_fits : exampleScript.length ≤ sys_maxsize := by decide +kernel

theorem exampleData_fits : (0x6a :: 0x20 :: exampleDigest).length ≤ sys_maxsize := by decide +kernel

/-- A node that makes the template of the example campaign and nothing else. -/
def payingRpc : BitcoinRpc where
  get_block_count := .ok 800
  get_tx_out txid vout :=
    if txid = exampleTxid false ∧ vout = 0 then .ok (some ⟨some (.float "0.001"), some 6⟩)
    else .ok none
  create_raw_transaction inputs outputs _ _ :=
    if inputs = build_pledge_inputs (exampleTxid false) 0 ∧
        outputs = [.address "bc1qw508d6qejxtdg4y5r3zarvary0c5xw7kv8f3t4" "0.00100000",
          .data (hex exampleDigest)] then
      .ok (hex (exampleBytes 2 false [0]))
    else .error (.BitcoinRpcError "createrawtransaction" (some (-8)) "Invalid parameter")
  finalize_psbt_extract_tx_hex psbt_base64 :=
    if psbt_base64 = "cHNidP8B" then .ok (hex (signedBytes .first))
    else .error (.ValueError "finalizepsbt returned an incomplete PSBT.")
  decode_raw_transaction := exampleRpc.decode_raw_transaction

/-- The scripts of the template. -/
def exampleScripts : Scripts where
  pay_to _ := ⟨exampleScript, exampleScript_fits⟩
  null_data _ := ⟨0x6a :: 0x20 :: exampleDigest, exampleData_fits⟩

theorem wholePledge_pos : (0 : ℤ) < 100000 := by decide

/-- A pledge of the whole price. -/
def wholePledge : FundingPledge := { firstPledge with value_sats := 100000, value_pos := wholePledge_pos }

theorem wholePledge_ids : ([wholePledge].map (·.id)).Nodup := by decide

theorem wholePledge_outpoints : ([wholePledge].map FundingPledge.outpoint).Nodup := by decide

theorem wholePledge_campaigns :
    ∀ pledge ∈ [wholePledge], ∃ campaign ∈ [exampleCampaign], campaign.id = pledge.campaign_id := by
  decide

theorem wholePledge_rows : [wholePledge].length ≤ sys_maxsize := by decide +kernel

def tablesWhole : FundingTables :=
  exampleTables [wholePledge] wholePledge_ids wholePledge_outpoints wholePledge_campaigns
    wholePledge_rows

/-- The service with the pledge and the paying node. -/
def payingService : FundingService := { exampleService tablesWhole with bitcoin_rpc := payingRpc }

theorem paying_created {inputs : List RpcInput} {outputs : List RpcOutput} {locktime : ℤ}
    {replaceable : Bool} {raw : String} {tx : BitcoinTransaction}
    (h : payingRpc.create_raw_transaction inputs outputs locktime replaceable = .ok raw)
    (hparse : parse_transaction raw = .ok tx) :
    outputs = [.address "bc1qw508d6qejxtdg4y5r3zarvary0c5xw7kv8f3t4" "0.00100000",
      .data (hex exampleDigest)] ∧ tx = templateTx false := by
  simp only [payingRpc] at h
  split_ifs at h with hasked
  obtain rfl := Except.ok.inj h
  rw [parse_template] at hparse
  exact ⟨hasked.2, (Except.ok.inj hparse).symm⟩

theorem payingRpc_faithful : payingRpc.Faithful := by
  refine ⟨exampleRpc_faithful.decode_agrees, ?_⟩
  intro inputs inputs' outputs locktime replaceable raw raw' tx tx' h h' hparse hparse'
  rw [(paying_created h hparse).2, (paying_created h' hparse').2]

theorem payingRpc_pays : payingRpc.Pays exampleScripts := by
  intro inputs outputs locktime replaceable raw tx h hparse
  obtain ⟨rfl, rfl⟩ := paying_created h hparse
  refine .cons ⟨?_, rfl⟩ (.cons ⟨rfl, rfl⟩ .nil)
  decide +kernel

theorem paying_active : payingService.Active exampleCampaign := by
  refine ⟨?_, by decide⟩
  rfl

theorem paying_processed : payingService.finalize_and_decode wholePledge =
    .ok (hex (signedBytes .first), decodedOf (signedTx .first)) :=
  example_finalize tablesWhole .first

section

variable {self : FundingService} {pledge : FundingPledge} {campaign : FundingCampaign}
  {decoded expected : DecodedTx}

theorem validate_against_template_none {raw : String} {sequence : ℤ}
    (hbuilt : self.build_unsigned_pledge_transaction campaign pledge.txid pledge.vout = .ok raw)
    (hdecode : self.bitcoin_rpc.decode_raw_transaction raw = .ok expected)
    (hvout : decoded.vout = expected.vout)
    (hexpected : extract_single_input_sequence expected = .ok sequence)
    (hactual : extract_single_input_sequence decoded = .ok sequence) :
    self.validate_against_template pledge campaign decoded = .ok none := by
  rw [validate_against_template, hbuilt, ok_bind, hdecode, ok_bind, if_neg (not_not_intro hvout),
    hexpected, hactual, ok_bind, ok_bind, if_neg (not_not_intro rfl)]
  rfl

theorem validate_finalized_none {txin : DecodedInput} (hvin : decoded.vin = some [txin])
    (hspends : spends_other txin pledge = .ok false)
    (hagainst : self.validate_against_template pledge campaign decoded = .ok none) :
    self.validate_finalized_pledge_transaction pledge campaign decoded = .ok none := by
  rw [validate_finalized_pledge_transaction, hvin]
  simp only [hspends, ok_bind, Bool.false_eq_true, if_false]
  exact hagainst

theorem validate_against_chain_none {height : ℤ} (hactive : campaign.is_active = true)
    (hheight : self.height_or_current none = .ok height)
    (hdeadline : campaign.expired_at height = .ok false)
    (hutxo : self.validate_utxo pledge = .ok none) :
    self.validate_pledge_against_chain pledge campaign none = .ok none := by
  rw [validate_pledge_against_chain]
  simp only [hactive, hheight, hdeadline, hutxo, ok_bind, Bool.not_true, Bool.false_eq_true, if_false]

/-- The checks of `validate_pledge` in the order in which a valid pledge passes them. -/
theorem validate_pledge_valid
    (hcampaign : self.repository.get_campaign pledge.campaign_id = some campaign)
    (hactive : campaign.is_active = true)
    (hchain : self.validate_pledge_against_chain pledge campaign none = .ok none)
    (hprocess : self.process_pledge pledge none none = .ok decoded)
    (hfinal : self.validate_finalized_pledge_transaction pledge campaign decoded = .ok none) :
    self.validate_pledge pledge none = .ok ⟨true, none⟩ := by
  rw [validate_pledge, hcampaign]
  simp only [hactive, Bool.not_true, Bool.false_eq_true, if_false]
  rw [validate_pledge_for_campaign, hchain, ok_bind]
  simp only [hprocess, hfinal, ok_bind]
  rfl

end

theorem paying_template : payingService.build_unsigned_pledge_transaction exampleCampaign
    wholePledge.txid wholePledge.vout = .ok (hex (exampleBytes 2 false [0])) := rfl

theorem paying_utxo : payingService.validate_utxo wholePledge = .ok none := rfl

theorem paying_campaign :
    payingService.repository.get_campaign wholePledge.campaign_id = some exampleCampaign := rfl

theorem signed_vin : (decodedOf (signedTx .first)).vin =
    some [⟨some (exampleTxid false), some 0, some 0xFFFFFFFD⟩] := by
  decide +kernel

theorem signed_spends :
    spends_other ⟨some (exampleTxid false), some 0, some 0xFFFFFFFD⟩ wholePledge = .ok false := rfl

theorem paying_decode {raw : String} {tx : BitcoinTransaction}
    (h : parse_transaction raw = .ok tx) :
    payingService.bitcoin_rpc.decode_raw_transaction raw = .ok (decodedOf tx) := by
  have hsame : payingService.bitcoin_rpc.decode_raw_transaction raw =
      exampleRpc.decode_raw_transaction raw := rfl
  rw [hsame]
  simp only [exampleRpc, h]

theorem signed_sequence :
    extract_single_input_sequence (decodedOf (signedTx .first)) = .ok 0xFFFFFFFD := by
  decide +kernel

theorem template_sequence :
    extract_single_input_sequence (decodedOf (templateTx false)) = .ok 0xFFFFFFFD := by
  decide +kernel

theorem paying_validate : payingService.validate_pledge wholePledge none = .ok ⟨true, none⟩ := by
  have hactive : exampleCampaign.is_active = true := by decide
  have hchain : payingService.validate_pledge_against_chain wholePledge exampleCampaign none =
      .ok none :=
    validate_against_chain_none hactive rfl rfl paying_utxo
  have hagainst : payingService.validate_against_template wholePledge exampleCampaign
      (decodedOf (signedTx .first)) = .ok none :=
    validate_against_template_none paying_template (paying_decode (parse_template false)) rfl
      template_sequence signed_sequence
  exact validate_pledge_valid paying_campaign hactive hchain (process_pledge_eq paying_processed).2
    (validate_finalized_none signed_vin signed_spends hagainst)

theorem paying_accepted : payingService.accepted_pledges exampleCampaign = [wholePledge] := by
  have hvalid : payingService.is_valid wholePledge = true := by
    rw [is_valid, paying_validate]
  rw [accepted_pledges_eq paying_active,
    show payingService.repository.get_pledges_for_campaign exampleCampaign.id = [wholePledge] from rfl,
    List.filter_cons_of_pos hvalid]
  rfl

/-- The pledge is enough for a plan. -/
theorem paying_plan : ∃ plan, payingService.prepare_final_transaction exampleCampaign.id 0 = .ok plan := by
  have honly : ∀ a ∈ payingService.accepted_pledges exampleCampaign, a = wholePledge := by
    intro a ha
    rw [paying_accepted] at ha
    exact List.mem_singleton.mp ha
  have hmergeable : payingService.Mergeable exampleCampaign := by
    refine ⟨fun a ha b hb => ?_, fun a ha b hb => ?_, fun _ _ a ha b hb _ => ?_⟩
    · rw [honly a ha, honly b hb]
    · rw [honly a ha, honly b hb]
    · rw [honly a ha, honly b hb]
  have hassess : payingService.Assessable exampleCampaign := by
    refine ⟨800, rfl, rfl, fun pledge hpledge => ?_⟩
    obtain rfl : pledge = wholePledge :=
      List.mem_singleton.mp (FundingTables.mem_get_pledges_for_campaign.mp hpledge).1
    exact ⟨⟨_, paying_processed⟩, ⟨_, paying_validate⟩⟩
  have htotal : total_sats (payingService.prepared_pledges exampleCampaign) = 100000 := by
    rw [total_prepared, paying_accepted]
    rfl
  have hdeadline : ∀ height, exampleCampaign.expired_at height = .ok (decide (height > 900)) :=
    fun _ => rfl
  have hheight : payingService.bitcoin_rpc.get_block_count = .ok 800 := rfl
  have henough : true = decide (total_sats (payingService.prepared_pledges exampleCampaign) ≥
      exampleCampaign.asking_price_sats + 0) := by
    rw [htotal]
    rfl
  obtain ⟨status, hstatus, hfundable⟩ := (compute_funding_status_ok paying_active hdeadline
    (lt_irrefl 0) hheight).mpr (.inr ⟨by decide, hassess, henough⟩)
  exact (statusMatchesAssembly_of_mergeable paying_active payingRpc_faithful hmergeable).fundable 0
    le_rfl status hstatus hfundable

/-- A mempool that takes everything. -/
def openMempool : Mempool where
  testmempoolaccept _ := .ok (some [some ⟨true, none⟩])
  sendrawtransaction _ := .ok (some (exampleTxid true))

def payingAttempt : Attempt := ⟨payingRpc, openMempool, exampleCampaign.id, 0⟩

end FundingService

open FundingService in
/-- The pledge is received, and the campaign paid out. -/
theorem broadcasts_pay_in_full_one :
    ∃ transfer, payingService.transfers [.broadcast payingAttempt] = [transfer] ∧
      ∃ campaign pledges tx, campaign.id = transfer.campaign_id ∧
        parse_transaction transfer.raw_tx_hex = .ok tx ∧
        transfer.service.PaysInFull exampleScripts campaign transfer.fee_buffer_sats pledges tx ∧
        campaign ∈ (payingService.afterAll [.broadcast payingAttempt]).repository.campaigns ∧
        ∀ pledge ∈ pledges,
          pledge ∈ (payingService.afterAll [.broadcast payingAttempt]).repository.pledges := by
  obtain ⟨plan, hplan⟩ := paying_plan
  obtain ⟨tx, hhex, hparse, -⟩ := paysInFull_of_plan paying_active payingRpc_faithful payingRpc_pays
    (lt_irrefl 0) hplan
  have hraw := validate_raw_tx_hex_of_parse hhex hparse
  have hsent : (payingService.broadcast_final_transaction openMempool exampleCampaign.id 0).2 =
      some plan.final_raw_tx_hex := by
    have hallowed : payingService.allowed_final_transaction openMempool exampleCampaign.id 0 =
        .ok plan.final_raw_tx_hex := by
      rw [allowed_final_transaction, build_final_transaction, hplan, ok_bind, pure_bind,
        Mempool.test_mempool_accept, hraw, ok_bind]
      rfl
    rw [broadcast_final_transaction, hallowed]
    simp only [Mempool.send_raw_transaction, hraw]
  have htransfers : payingService.transfers [.broadcast payingAttempt] =
      [⟨payingService, exampleCampaign.id, 0, plan.final_raw_tx_hex⟩] := by
    rw [transfers, transfers, List.append_nil]
    exact hands_over_sent rfl hsent
  have hnodes : ∀ attempt, .broadcast attempt ∈ [PeerStep.broadcast payingAttempt] →
      attempt.bitcoin_rpc.Faithful ∧ attempt.bitcoin_rpc.Pays exampleScripts := by
    intro attempt hattempt
    obtain rfl := PeerStep.broadcast.inj (List.mem_singleton.mp hattempt)
    exact ⟨payingRpc_faithful, payingRpc_pays⟩
  have hmem : (⟨payingService, exampleCampaign.id, 0, plan.final_raw_tx_hex⟩ : Transfer) ∈
      payingService.transfers [.broadcast payingAttempt] := by
    rw [htransfers]
    exact List.mem_singleton_self _
  exact ⟨_, htransfers, broadcasts_pay_in_full payingService exampleScripts _ hnodes _ hmem⟩

end Superorganism.Funding
