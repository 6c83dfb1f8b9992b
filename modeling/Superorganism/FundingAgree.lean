/-
The funding status of a campaign against the assembly of its final transaction.

`compute_funding_status` adds up what validation accepts; `prepare_final_transaction`
selects among the same pledges and combines them. Validation compares a pledge's
transaction with the campaign's template: one input, the pledged outpoint, the same
outputs and sequence. Combining asks for more: one version and one locktime for all.
And selecting compares timestamps, which a naive and an aware datetime do not allow.

`status_matches_assembly_iff` says that these are the only gaps. What the node
contributes are two facts of its documentation (`Faithful`): a transaction it decodes
is the transaction the parser reads, and the outputs of a transaction it creates are
determined by the outputs that were asked for.
-/
import Superorganism.FundingSelect
import Superorganism.FundingValid
import Superorganism.TxCombine

set_option autoImplicit false

open Superorganism.Bytes Superorganism.Py Superorganism.Tx

namespace Superorganism.Funding

/-! ## The statement -/

/-- What is taken from Bitcoin Core. -/
structure BitcoinRpc.Faithful (rpc : BitcoinRpc) : Prop where
  /-- `decoderawtransaction` agrees with `parse_transaction`. -/
  decode_agrees : ∀ raw decoded, rpc.decode_raw_transaction raw = .ok decoded →
    ∃ tx, parse_transaction raw = .ok tx ∧ decoded = decodedOf tx
  /-- `createrawtransaction` makes the outputs from its argument `outputs`. -/
  create_outputs : ∀ inputs inputs' outputs locktime replaceable raw raw' tx tx',
    rpc.create_raw_transaction inputs outputs locktime replaceable = .ok raw →
    rpc.create_raw_transaction inputs' outputs locktime replaceable = .ok raw' →
    parse_transaction raw = .ok tx → parse_transaction raw' = .ok tx' → tx.outputs = tx'.outputs

namespace FundingService

section

variable (self : FundingService)

/-- `_validate_pledge_for_campaign` returns `valid = true`. -/
def accepts (campaign : FundingCampaign) (pledge : FundingPledge) : Bool :=
  match self.validate_pledge_for_campaign pledge campaign none none none with
  | .ok validation => validation.valid
  | .error _ => false

/-- The stored pledges of the campaign that it accepts. -/
def accepted_pledges (campaign : FundingCampaign) : List FundingPledge :=
  (self.repository.get_pledges_for_campaign campaign.id).filter (self.accepts campaign)

/-- The transaction a pledge finalizes to. -/
def transaction (pledge : FundingPledge) : BitcoinTransaction :=
  match parse_transaction (self.finalized pledge) with
  | .ok tx => tx
  | .error _ => ⟨0, [], [], 0⟩

end

/-- The status and the assembly agree for every fee buffer, and every set of accepted
pledges can be combined. -/
structure StatusMatchesAssembly (service : FundingService) (campaign : FundingCampaign) : Prop where
  fundable : ∀ fee_buffer_sats ≥ 0, ∀ status,
    service.compute_funding_status campaign.id fee_buffer_sats = .ok status →
    status.is_fundable = true →
    ∃ plan, service.prepare_final_transaction campaign.id fee_buffer_sats = .ok plan
  not_fundable : ∀ fee_buffer_sats ≥ 0, ∀ status,
    service.compute_funding_status campaign.id fee_buffer_sats = .ok status →
    status.is_fundable = false →
    ∃ exc, service.prepare_final_transaction campaign.id fee_buffer_sats = .error exc
  combinable : ∀ pledges : List FundingPledge, pledges ≠ [] → pledges.Nodup →
    (∀ pledge ∈ pledges, pledge ∈ service.accepted_pledges campaign) →
    ∃ out, combine_anyonecanpay_pledges (pledges.map service.finalized) = .ok out

/-- The status of the campaign can be computed and is not that of an expired one: the
node answers the height, the deadline has not passed, and every stored pledge finalizes,
decodes and is decided. -/
def Assessable (service : FundingService) (campaign : FundingCampaign) : Prop :=
  ∃ height, service.bitcoin_rpc.get_block_count = .ok height ∧
    campaign.expired_at height = .ok false ∧
    ∀ pledge ∈ service.repository.get_pledges_for_campaign campaign.id,
      service.Processable pledge ∧ service.Decided pledge

/-- The accepted pledges have one version and one locktime, and once they reach the asking
price, those of equal value have timestamps of one kind. -/
structure Mergeable (service : FundingService) (campaign : FundingCampaign) : Prop where
  version : ∀ a ∈ service.accepted_pledges campaign, ∀ b ∈ service.accepted_pledges campaign,
    (service.transaction a).version = (service.transaction b).version
  locktime : ∀ a ∈ service.accepted_pledges campaign, ∀ b ∈ service.accepted_pledges campaign,
    (service.transaction a).locktime = (service.transaction b).locktime
  timestamps : service.Assessable campaign →
    campaign.asking_price_sats ≤ ((service.accepted_pledges campaign).map (·.value_sats)).sum →
    ∀ a ∈ service.accepted_pledges campaign, ∀ b ∈ service.accepted_pledges campaign,
      a.value_sats = b.value_sats → a.created_at.kind = b.created_at.kind

/-! ## What acceptance says of the transaction -/

theorem decodedOf_outputs {a b : BitcoinTransaction} (h : (decodedOf a).vout = (decodedOf b).vout) :
    a.outputs = b.outputs := by
  have hinj : Function.Injective fun txout : TxOutput =>
      (⟨txout.value_sats, hex txout.script_pubkey.toList⟩ : DecodedOutput) := by
    rintro ⟨value, script⟩ ⟨value', script'⟩ heq
    obtain ⟨hvalue, hscript⟩ := DecodedOutput.mk.inj heq
    exact congrArg₂ TxOutput.mk hvalue (PySeq.ext (hex_injective hscript))
  exact List.map_injective_iff.mpr hinj (Option.some.inj h)

variable {self : FundingService} {campaign : FundingCampaign} {pledge : FundingPledge}

theorem accepts_eq (hcampaign : self.Active campaign) (hid : pledge.campaign_id = campaign.id) :
    self.accepts campaign pledge = self.is_valid pledge := by
  have hvalidate : self.validate_pledge pledge none =
      self.validate_pledge_for_campaign pledge campaign none none none := by
    rw [validate_pledge, hid, hcampaign.stored]
    simp [hcampaign.active]
  cases h : self.validate_pledge_for_campaign pledge campaign none none none with
  | ok validation => simp only [accepts, is_valid, hvalidate, h]
  | error e => simp only [accepts, is_valid, hvalidate, h]

theorem mem_accepted_pledges (hcampaign : self.Active campaign) :
    pledge ∈ self.accepted_pledges campaign ↔
      (pledge ∈ self.repository.pledges ∧ pledge.campaign_id = campaign.id) ∧
        self.is_valid pledge = true := by
  rw [accepted_pledges, List.mem_filter, FundingTables.mem_get_pledges_for_campaign]
  exact and_congr_right fun h => by rw [accepts_eq hcampaign h.2]

theorem accepted_pledges_eq (hcampaign : self.Active campaign) :
    self.accepted_pledges campaign =
      (self.repository.get_pledges_for_campaign campaign.id).filter self.is_valid :=
  List.filter_congr fun _ hp =>
    accepts_eq hcampaign (FundingTables.mem_get_pledges_for_campaign.mp hp).2

/-- The outputs that the template of the campaign has, whatever input it is made for. -/
def TemplateOutputs (service : FundingService) (campaign : FundingCampaign)
    (outputs : List TxOutput) : Prop :=
  ∃ requested raw template inputs, service.campaign_outputs campaign = .ok requested ∧
    service.bitcoin_rpc.create_raw_transaction inputs requested PLEDGE_LOCKTIME true = .ok raw ∧
    parse_transaction raw = .ok template ∧ outputs = template.outputs

theorem TemplateOutputs.unique {outputs outputs' : List TxOutput}
    (hrpc : self.bitcoin_rpc.Faithful) (h : self.TemplateOutputs campaign outputs)
    (h' : self.TemplateOutputs campaign outputs') : outputs = outputs' := by
  obtain ⟨requested, raw, template, inputs, hreq, hraw, hparse, rfl⟩ := h
  obtain ⟨requested', raw', template', inputs', hreq', hraw', hparse', rfl⟩ := h'
  rw [hreq] at hreq'
  obtain rfl := Except.ok.inj hreq'
  exact hrpc.create_outputs _ _ _ _ _ _ _ _ _ hraw hraw' hparse hparse'

/-- A result that ends the chain checks early is a rejection. -/
theorem validate_against_chain_some {height : Option ℤ} {validation : PledgeValidationResult}
    (h : self.validate_pledge_against_chain pledge campaign height = .ok (some validation)) :
    validation.valid = false := by
  -- every result that `validate_utxo` builds has `valid = false`; it returns none otherwise
  have hutxo : ∀ v, self.validate_utxo pledge = .ok (some v) → v.valid = false := by
    intro v hv
    rw [validate_utxo] at hv
    obtain ⟨utxo, -, hv⟩ := bind_eq_ok.mp hv
    split at hv
    · cases hv
      rfl
    · split at hv
      · cases hv
        rfl
      · obtain ⟨value, -, hv⟩ := bind_eq_ok.mp hv
        split_ifs at hv
        · cases hv
          rfl
        · cases hv
  rw [validate_pledge_against_chain] at h
  split_ifs at h
  · cases h
    rfl
  · obtain ⟨height, -, h⟩ := bind_eq_ok.mp h
    obtain ⟨expired, -, h⟩ := bind_eq_ok.mp h
    split_ifs at h
    · cases h
      rfl
    · exact hutxo validation h

/-- So is a result that ends the checks of the transaction early. -/
theorem validate_finalized_some {decoded : DecodedTx} {validation : PledgeValidationResult}
    (h : self.validate_finalized_pledge_transaction pledge campaign decoded = .ok (some validation)) :
    validation.valid = false := by
  rw [validate_finalized_pledge_transaction] at h
  split at h
  · obtain ⟨other, -, h⟩ := bind_eq_ok.mp h
    split_ifs at h
    · cases h
      rfl
    · rw [validate_against_template] at h
      obtain ⟨raw, -, h⟩ := bind_eq_ok.mp h
      obtain ⟨expected, -, h⟩ := bind_eq_ok.mp h
      split_ifs at h
      · cases h
        rfl
      · obtain ⟨expected_sequence, -, h⟩ := bind_eq_ok.mp h
        obtain ⟨actual_sequence, -, h⟩ := bind_eq_ok.mp h
        split_ifs at h
        · cases h
          rfl
        · cases h
  · cases h
    rfl

/-- The transaction passed `_validate_finalized_pledge_transaction`: one input that spends
the pledged outpoint, and the outputs of the template. -/
theorem validate_finalized_eq_none {decoded : DecodedTx}
    (h : self.validate_finalized_pledge_transaction pledge campaign decoded = .ok none) :
    ∃ txin expected_raw expected, decoded.vin = some [txin] ∧ txin.txid = some pledge.txid ∧
      txin.vout = some pledge.vout ∧
      self.build_unsigned_pledge_transaction campaign pledge.txid pledge.vout = .ok expected_raw ∧
      self.bitcoin_rpc.decode_raw_transaction expected_raw = .ok expected ∧
      decoded.vout = expected.vout := by
  rw [validate_finalized_pledge_transaction] at h
  split at h
  · rename_i txin hvin
    obtain ⟨other, hother, h⟩ := bind_eq_ok.mp h
    cases other with
    | true => cases h
    | false =>
        -- `spends_other` is false: both the txid and the vout are the pledge's
        rw [spends_other] at hother
        split_ifs at hother with htxid
        · cases hother
        obtain ⟨vout, hvout, hother⟩ := bind_eq_ok.mp hother
        have hsame := of_decide_eq_false (Except.ok.inj hother)
        rw [not_not] at hsame
        simp only [Bool.false_eq_true, if_false] at h
        rw [validate_against_template] at h
        obtain ⟨expected_raw, hraw, h⟩ := bind_eq_ok.mp h
        obtain ⟨expected, hdecode, h⟩ := bind_eq_ok.mp h
        split_ifs at h with houtputs
        · cases h
        · refine ⟨txin, expected_raw, expected, hvin, not_not.mp htxid, ?_, hraw, hdecode,
            not_not.mp houtputs⟩
          cases hv : txin.vout with
          | none => rw [hv] at hvout; cases hvout
          | some v =>
              rw [hv] at hvout
              rw [Except.ok.inj hvout, hsame]
  · cases h

/-- A valid result comes from a pledge that was processed and whose transaction passed the
checks. -/
theorem validate_for_campaign_true {validation : PledgeValidationResult}
    {finalized : Option String} {decoded_pledge_tx : Option DecodedTx} {height : Option ℤ}
    (hval : self.validate_pledge_for_campaign pledge campaign finalized decoded_pledge_tx height =
      .ok validation)
    (hvalid : validation.valid = true) :
    ∃ decoded, self.process_pledge pledge finalized decoded_pledge_tx = .ok decoded ∧
      self.validate_finalized_pledge_transaction pledge campaign decoded = .ok none := by
  rw [validate_pledge_for_campaign] at hval
  obtain ⟨chain, hchain, hval⟩ := bind_eq_ok.mp hval
  -- whatever a check returns is an invalid result
  cases chain with
  | some v =>
      obtain rfl := Except.ok.inj hval
      rw [validate_against_chain_some hchain] at hvalid
      cases hvalid
  | none =>
      simp only at hval
      split at hval
      · split_ifs at hval
        · obtain rfl := Except.ok.inj hval
          cases hvalid
      · rename_i decoded hprocess
        obtain ⟨result, hresult, hval⟩ := bind_eq_ok.mp hval
        cases result with
        | some v =>
            obtain rfl := Except.ok.inj hval
            rw [validate_finalized_some hresult] at hvalid
            cases hvalid
        | none => exact ⟨decoded, hprocess, hresult⟩

/-- An accepted pledge finalizes to a transaction that parses, spends the pledged outpoint
and nothing else, and has the outputs of the template. -/
theorem transaction_of_accepts (hrpc : self.bitcoin_rpc.Faithful)
    (h : self.accepts campaign pledge = true) :
    parse_transaction (self.finalized pledge) = .ok (self.transaction pledge) ∧
      (∃ txin, (self.transaction pledge).inputs = [txin] ∧
        txin.outpoint_key = (pledge.txid, pledge.vout)) ∧
      self.TemplateOutputs campaign (self.transaction pledge).outputs := by
  rw [accepts] at h
  split at h
  · rename_i validation hval
    obtain ⟨decoded, hprocess, hfinal⟩ := validate_for_campaign_true hval h
    rw [process_pledge] at hprocess
    obtain ⟨raw, hraw, hdecode⟩ := bind_eq_ok.mp hprocess
    obtain ⟨txin, expected_raw, expected, hvin, htxid, hvout, hexpected, hdecode', houtputs⟩ :=
      validate_finalized_eq_none hfinal
    -- what the node decoded is what our parser reads, of the pledge and of the template
    obtain ⟨tx, hparse, rfl⟩ := hrpc.decode_agrees _ _ hdecode
    obtain ⟨template, hparse', rfl⟩ := hrpc.decode_agrees _ _ hdecode'
    rw [finalized_or_computed] at hraw
    have hfinalized : self.finalized pledge = raw := by rw [finalized, hraw]
    have htx : self.transaction pledge = tx := by rw [transaction, hfinalized, hparse]
    rw [hfinalized, htx]
    refine ⟨hparse, ?_, ?_⟩
    · obtain ⟨x, rest, hinputs, hx, hrest⟩ := List.map_eq_cons_iff.mp (Option.some.inj hvin)
      obtain rfl := List.map_eq_nil_iff.mp hrest
      subst hx
      exact ⟨x, hinputs, Prod.ext (Option.some.inj htxid) (Option.some.inj hvout)⟩
    · rw [build_unsigned_pledge_transaction] at hexpected
      obtain ⟨requested, hrequested, hexpected⟩ := bind_eq_ok.mp hexpected
      exact ⟨requested, expected_raw, template, _, hrequested, hexpected, hparse',
        decodedOf_outputs houtputs⟩
  · cases h

/-! ## Combining accepted pledges -/

theorem nodup_accepted_pledges (self : FundingService) (campaign : FundingCampaign) :
    (self.accepted_pledges campaign).Nodup := by
  refine List.Nodup.filter _ ?_
  rw [FundingTables.get_pledges_for_campaign, (List.perm_insertionSort _ _).nodup_iff]
  exact List.Nodup.filter _ (List.Nodup.of_map _ self.repository.pledge_ids)

/-- Two stored pledges of one campaign with the same outpoint are the same pledge. -/
theorem eq_of_outpoint (hcampaign : self.Active campaign) {a b : FundingPledge}
    (ha : a ∈ self.accepted_pledges campaign) (hb : b ∈ self.accepted_pledges campaign)
    (h : (a.txid, a.vout) = (b.txid, b.vout)) : a = b := by
  obtain ⟨⟨ha, haid⟩, -⟩ := (mem_accepted_pledges hcampaign).mp ha
  obtain ⟨⟨hb, hbid⟩, -⟩ := (mem_accepted_pledges hcampaign).mp hb
  obtain ⟨htxid, hvout⟩ := Prod.mk.inj h
  refine List.inj_on_of_nodup_map self.repository.pledge_outpoints ha hb ?_
  rw [FundingPledge.outpoint, FundingPledge.outpoint, haid, hbid, htxid, hvout]

section

variable {pledges : List FundingPledge}

theorem parseAll_finalized (hrpc : self.bitcoin_rpc.Faithful)
    (hall : ∀ pledge ∈ pledges, pledge ∈ self.accepted_pledges campaign) :
    ParseAll (pledges.map self.finalized) (pledges.map self.transaction) := by
  rw [ParseAll, List.forall₂_map_left_iff, List.forall₂_map_right_iff, List.forall₂_same]
  intro pledge hpledge
  exact (transaction_of_accepts hrpc (List.mem_filter.mp (hall pledge hpledge)).2).1

/-- The inputs of accepted pledges spend the pledged outpoints, in order. -/
theorem outpoint_keys_of_accepted (hrpc : self.bitcoin_rpc.Faithful)
    (hall : ∀ pledge ∈ pledges, pledge ∈ self.accepted_pledges campaign) :
    ((pledges.map self.transaction).flatMap (·.inputs)).map TxInput.outpoint_key =
      pledges.map fun pledge => (pledge.txid, pledge.vout) := by
  induction pledges with
  | nil => rfl
  | cons pledge pledges ih =>
      obtain ⟨-, ⟨txin, hinputs, hkey⟩, -⟩ := transaction_of_accepts hrpc
        (List.mem_filter.mp (hall pledge List.mem_cons_self)).2
      rw [List.map_cons, List.flatMap_cons, List.map_append,
        ih fun p hp => hall p (List.mem_cons_of_mem pledge hp), hinputs, List.map_singleton, hkey]
      rfl

/-- Accepted pledges of one version and one locktime are compatible. -/
theorem compatible_of_accepted (hcampaign : self.Active campaign) (hrpc : self.bitcoin_rpc.Faithful)
    (hnodup : pledges.Nodup) (hall : ∀ pledge ∈ pledges, pledge ∈ self.accepted_pledges campaign)
    (hversion : ∀ a ∈ self.accepted_pledges campaign, ∀ b ∈ self.accepted_pledges campaign,
      (self.transaction a).version = (self.transaction b).version)
    (hlocktime : ∀ a ∈ self.accepted_pledges campaign, ∀ b ∈ self.accepted_pledges campaign,
      (self.transaction a).locktime = (self.transaction b).locktime) :
    Compatible (pledges.map self.transaction) := by
  have hacc := fun p hp =>
    transaction_of_accepts hrpc (List.mem_filter.mp (hall p hp)).2
  refine ⟨?_, ?_, ?_, ?_, ?_⟩
  · intro tx htx
    obtain ⟨p, hp, rfl⟩ := List.mem_map.mp htx
    obtain ⟨-, ⟨txin, hinputs, -⟩, -⟩ := hacc p hp
    rw [hinputs, List.length_singleton]
  · intro a ha b hb
    obtain ⟨p, hp, rfl⟩ := List.mem_map.mp ha
    obtain ⟨q, hq, rfl⟩ := List.mem_map.mp hb
    -- the outputs are those of one template, whichever pledge it was made for
    exact (hacc p hp).2.2.unique hrpc (hacc q hq).2.2
  · intro a ha b hb
    obtain ⟨p, hp, rfl⟩ := List.mem_map.mp ha
    obtain ⟨q, hq, rfl⟩ := List.mem_map.mp hb
    exact hlocktime p (hall p hp) q (hall q hq)
  · intro a ha b hb
    obtain ⟨p, hp, rfl⟩ := List.mem_map.mp ha
    obtain ⟨q, hq, rfl⟩ := List.mem_map.mp hb
    exact hversion p (hall p hp) q (hall q hq)
  -- the outpoints are distinct since the table holds no outpoint of a campaign twice
  · rw [← nodup_outpoint_key, outpoint_keys_of_accepted hrpc hall]
    exact List.Nodup.map_on (fun a ha b hb => eq_of_outpoint hcampaign (hall a ha) (hall b hb)) hnodup

/-- A list of accepted pledges is a list object. -/
theorem length_le_of_accepted (hcampaign : self.Active campaign) (hnodup : pledges.Nodup)
    (hall : ∀ pledge ∈ pledges, pledge ∈ self.accepted_pledges campaign) :
    pledges.length ≤ sys_maxsize := by
  have hsub : pledges ⊆ self.repository.pledges := fun p hp =>
    ((mem_accepted_pledges hcampaign).mp (hall p hp)).1.1
  exact (List.subperm_of_subset hnodup hsub).length_le.trans self.repository.rows

/-- Accepted pledges can be combined exactly when their transactions are compatible. -/
theorem combine_accepted_iff (hcampaign : self.Active campaign) (hrpc : self.bitcoin_rpc.Faithful)
    (hne : pledges ≠ []) (hnodup : pledges.Nodup)
    (hall : ∀ pledge ∈ pledges, pledge ∈ self.accepted_pledges campaign) :
    (∃ out, combine_anyonecanpay_pledges (pledges.map self.finalized) = .ok out) ↔
      Compatible (pledges.map self.transaction) := by
  have hlen : (pledges.map self.finalized).length ≤ sys_maxsize := by
    rw [List.length_map]
    exact length_le_of_accepted hcampaign hnodup hall
  have hparse := parseAll_finalized hrpc hall
  refine (combine_isOk_iff ⟨pledges.map self.finalized, hlen⟩).trans ⟨?_, fun hcomp => ?_⟩
  · rintro ⟨-, txs, hparse', hcomp⟩
    rwa [parseAll_unique hparse hparse']
  · exact ⟨fun hnil => hne (List.map_eq_nil_iff.mp hnil), _, hparse, hcomp⟩

end

/-! ## Status and assembly -/

/-- The pledges with their texts, as the status and the assembly prepare them. -/
def prepared_pledges (service : FundingService) (campaign : FundingCampaign) : List PreparedPledge :=
  (service.accepted_pledges campaign).map service.prepared

theorem total_prepared (self : FundingService) (campaign : FundingCampaign) :
    total_sats (self.prepared_pledges campaign) =
      ((self.accepted_pledges campaign).map (·.value_sats)).sum := by
  rw [total_sats, prepared_pledges, List.map_map]
  rfl

theorem prepare_valid_pledges_ok (hcampaign : self.Active campaign) {height deadline : ℤ}
    (hdeadline : ∀ height, campaign.expired_at height = .ok (decide (height > deadline)))
    (hheight : self.bitcoin_rpc.get_block_count = .ok height) (hopen : ¬ height > deadline)
    {prepared : List PreparedPledge} :
    self.prepare_valid_pledges_for_campaign campaign (some height) = .ok prepared ↔
      self.Assessable campaign ∧ prepared = self.prepared_pledges campaign := by
  have hids : ∀ p ∈ self.repository.get_pledges_for_campaign campaign.id,
      p.campaign_id = campaign.id := fun p hp =>
    (FundingTables.mem_get_pledges_for_campaign.mp hp).2
  rw [prepare_valid_pledges_eq hcampaign hdeadline, if_neg hopen,
    prepare_pledges_eq_ok hcampaign hheight hids, prepared_pledges, accepted_pledges_eq hcampaign]
  refine and_congr_left fun _ => ⟨fun hall => ⟨height, hheight, ?_, hall⟩, ?_⟩
  · rw [hdeadline, decide_eq_false hopen]
  · rintro ⟨_, -, -, hall⟩
    exact hall

/-- The assembly of the final transaction of an active campaign. -/
theorem prepare_final_transaction_eq (hcampaign : self.Active campaign) {deadline fee : ℤ}
    (hdeadline : ∀ height, campaign.expired_at height = .ok (decide (height > deadline)))
    (hfee : ¬ fee < 0) {height : ℤ} (hheight : self.bitcoin_rpc.get_block_count = .ok height)
    {plan : FinalTransactionPlan} :
    self.prepare_final_transaction campaign.id fee = .ok plan ↔
      ¬ height > deadline ∧ self.Assessable campaign ∧ ∃ selected final_raw_tx_hex,
        select_pledges campaign (self.prepared_pledges campaign) fee = .ok selected ∧
        combine_anyonecanpay_pledges (selected.map (·.finalized_raw_tx_hex)) = .ok final_raw_tx_hex ∧
        plan = ⟨campaign.id, selected.map (·.pledge), total_sats selected,
          campaign.asking_price_sats + fee, final_raw_tx_hex⟩ := by
  rw [prepare_final_transaction, if_neg hfee, require_campaign_eq hcampaign, ok_bind,
    require_active_eq hcampaign, ok_bind, hheight, ok_bind, prepare_valid_pledges_for_open_campaign,
    height_or_current, pure_bind, ensure_campaign_not_expired_at_height, require_active_eq hcampaign,
    ok_bind, hdeadline, ok_bind]
  by_cases hexpired : height > deadline
  · rw [decide_eq_true hexpired]
    refine ⟨fun h => (by cases h), fun h => absurd hexpired h.1⟩
  · rw [decide_eq_false hexpired]
    simp only [Bool.false_eq_true, if_false, pure_bind, bind_eq_ok,
      prepare_valid_pledges_ok hcampaign hdeadline hheight hexpired]
    constructor
    · rintro ⟨_, ⟨hassess, rfl⟩, selected, hselect, out, hout, h⟩
      exact ⟨hexpired, hassess, selected, out, hselect, hout, (Except.ok.inj h).symm⟩
    · rintro ⟨-, hassess, selected, out, hselect, hout, rfl⟩
      exact ⟨_, ⟨hassess, rfl⟩, selected, hselect, out, hout, rfl⟩

/-- The status of an active campaign: that of an expired one, or the sum of what is
accepted against what is required. -/
theorem compute_funding_status_ok (hcampaign : self.Active campaign) {deadline fee : ℤ}
    (hdeadline : ∀ height, campaign.expired_at height = .ok (decide (height > deadline)))
    (hfee : ¬ fee < 0) {height : ℤ} (hheight : self.bitcoin_rpc.get_block_count = .ok height)
    {fundable : Bool} :
    (∃ status, self.compute_funding_status campaign.id fee = .ok status ∧
        status.is_fundable = fundable) ↔
      (height > deadline ∧ fundable = false) ∨
        (¬ height > deadline ∧ self.Assessable campaign ∧ fundable = decide
          (total_sats (self.prepared_pledges campaign) ≥ campaign.asking_price_sats + fee)) := by
  rw [compute_funding_status_eq hcampaign hdeadline hfee, hheight]
  simp only [ok_bind]
  -- expired campaigns are answered before any pledge is looked at
  by_cases hexpired : height > deadline
  · simp only [if_pos hexpired]
    constructor
    · rintro ⟨status, h, rfl⟩
      obtain rfl := Except.ok.inj h
      exact .inl ⟨hexpired, rfl⟩
    · rintro (⟨-, rfl⟩ | ⟨h, -⟩)
      · exact ⟨_, rfl, rfl⟩
      · exact absurd hexpired h
  · simp only [if_neg hexpired, bind_eq_ok,
      prepare_valid_pledges_ok hcampaign hdeadline hheight hexpired]
    constructor
    · rintro ⟨status, ⟨_, ⟨hassess, rfl⟩, h⟩, rfl⟩
      obtain rfl := Except.ok.inj h
      exact .inr ⟨hexpired, hassess, rfl⟩
    · rintro (⟨h, -⟩ | ⟨-, hassess, rfl⟩)
      · exact absurd h hexpired
      · exact ⟨_, ⟨_, ⟨hassess, rfl⟩, rfl⟩, rfl⟩

/-- What is selected are accepted pledges, each once, with their own texts. -/
theorem selected_accepted {selected : List PreparedPledge} {fee : ℤ}
    (h : select_pledges campaign (self.prepared_pledges campaign) fee = .ok selected) :
    (selected.map (·.pledge)).Nodup ∧
      (∀ pledge ∈ selected.map (·.pledge), pledge ∈ self.accepted_pledges campaign) ∧
      selected.map (·.finalized_raw_tx_hex) = (selected.map (·.pledge)).map self.finalized ∧
      campaign.asking_price_sats + fee ≤ total_sats selected := by
  obtain ⟨left, hperm, htotal⟩ := select_pledges_eq_ok h
  have hpledges : (self.prepared_pledges campaign).map (·.pledge) =
      self.accepted_pledges campaign := by
    rw [prepared_pledges, List.map_map]
    exact List.map_id _
  have hmap := hperm.map (·.pledge)
  rw [List.map_append, hpledges] at hmap
  refine ⟨?_, fun p hp => ?_, ?_, htotal⟩
  · exact (List.nodup_append.mp (hmap.nodup_iff.mpr (nodup_accepted_pledges self campaign))).1
  · exact hmap.mem_iff.mp (List.mem_append_left _ hp)
  · rw [List.map_map]
    refine List.map_congr_left fun x hx => ?_
    obtain ⟨pledge, -, rfl⟩ := List.mem_map.mp (hperm.mem_iff.mp (List.mem_append_left _ hx))
    rfl

/-- The prepared pledges can be compared exactly when the accepted ones can. -/
theorem comparable_prepared :
    Comparable (self.prepared_pledges campaign) ↔
      ∀ a ∈ self.accepted_pledges campaign, ∀ b ∈ self.accepted_pledges campaign,
        a.value_sats = b.value_sats → a.created_at.kind = b.created_at.kind := by
  simp only [Comparable, prepared_pledges, List.forall_mem_map, prepared]

/-! ## The two directions -/

/-- Accepted pledges of mergeable ones can be combined, however they are chosen. -/
theorem Mergeable.combinable (h : self.Mergeable campaign) (hcampaign : self.Active campaign)
    (hrpc : self.bitcoin_rpc.Faithful) {pledges : List FundingPledge} (hne : pledges ≠ [])
    (hnodup : pledges.Nodup) (hall : ∀ pledge ∈ pledges, pledge ∈ self.accepted_pledges campaign) :
    ∃ out, combine_anyonecanpay_pledges (pledges.map self.finalized) = .ok out :=
  (combine_accepted_iff hcampaign hrpc hne hnodup hall).mpr
    (compatible_of_accepted hcampaign hrpc hnodup hall h.version h.locktime)

/-- A status was computed, so the node answered the height. -/
theorem height_of_status (hcampaign : self.Active campaign) {deadline fee : ℤ}
    (hdeadline : ∀ height, campaign.expired_at height = .ok (decide (height > deadline)))
    (hfee : 0 ≤ fee) {status : FundingStatus}
    (hstatus : self.compute_funding_status campaign.id fee = .ok status) :
    ∃ height, self.bitcoin_rpc.get_block_count = .ok height := by
  rw [compute_funding_status_eq hcampaign hdeadline (not_lt.mpr hfee)] at hstatus
  obtain ⟨height, hheight, -⟩ := bind_eq_ok.mp hstatus
  exact ⟨height, hheight⟩

/-- Compatible pledges and comparable timestamps are enough. -/
theorem statusMatchesAssembly_of_mergeable (hcampaign : self.Active campaign)
    (hrpc : self.bitcoin_rpc.Faithful) (h : self.Mergeable campaign) :
    self.StatusMatchesAssembly campaign := by
  obtain ⟨deadline, -, hdeadline⟩ := hcampaign.expired_at
  refine ⟨?_, ?_, fun pledges => h.combinable hcampaign hrpc⟩
  · intro fee hfee status hstatus hfundable
    obtain ⟨height, hheight⟩ := height_of_status hcampaign hdeadline hfee hstatus
    rcases (compute_funding_status_ok hcampaign hdeadline (not_lt.mpr hfee) hheight).mp
      ⟨status, hstatus, hfundable⟩ with ⟨-, h'⟩ | ⟨hopen, hassess, htotal⟩
    · cases h'
    · have hpos : 0 < campaign.asking_price_sats := of_decide_eq_true hcampaign.active
      have htotal := of_decide_eq_true htotal.symm
      have hcomp : Comparable (self.prepared_pledges campaign) := by
        refine comparable_prepared.mpr (h.timestamps hassess ?_)
        rw [← total_prepared]
        omega
      obtain ⟨selected, hselect⟩ := select_pledges_isOk hfee hcomp htotal
      obtain ⟨hnodup, hall, htexts, hreached⟩ := selected_accepted hselect
      -- something is asked for, so something is selected
      have hne : selected.map (·.pledge) ≠ [] := by
        intro hnil
        rw [List.map_eq_nil_iff.mp hnil, total_sats_nil] at hreached
        omega
      obtain ⟨out, hout⟩ := h.combinable hcampaign hrpc hne hnodup hall
      rw [← htexts] at hout
      exact ⟨_, (prepare_final_transaction_eq hcampaign hdeadline (not_lt.mpr hfee) hheight).mpr
        ⟨hopen, hassess, selected, out, hselect, hout, rfl⟩⟩
  · intro fee hfee status hstatus hfundable
    obtain ⟨height, hheight⟩ := height_of_status hcampaign hdeadline hfee hstatus
    cases hplan : self.prepare_final_transaction campaign.id fee with
    | error exc => exact ⟨exc, rfl⟩
    | ok plan =>
        -- what was selected is a part of a list that is worth too little
        obtain ⟨hopen, -, selected, -, hselect, -⟩ :=
          (prepare_final_transaction_eq hcampaign hdeadline (not_lt.mpr hfee) hheight).mp hplan
        obtain ⟨left, hperm, hreached⟩ := select_pledges_eq_ok hselect
        rcases (compute_funding_status_ok hcampaign hdeadline (not_lt.mpr hfee) hheight).mp
          ⟨status, hstatus, hfundable⟩ with ⟨hexpired, -⟩ | ⟨-, -, htotal⟩
        · exact absurd hexpired hopen
        · have hshort := of_decide_eq_false htotal.symm
          have hle := total_sats_nonneg left
          rw [← total_sats_perm hperm, total_sats_append] at hshort
          omega

/-- And they are needed: a pair of accepted pledges tells the version and the locktime, and
the fee that makes every pledge necessary makes the selection compare them all. -/
theorem mergeable_of_statusMatchesAssembly (hcampaign : self.Active campaign)
    (hrpc : self.bitcoin_rpc.Faithful) (h : self.StatusMatchesAssembly campaign) :
    self.Mergeable campaign := by
  obtain ⟨deadline, -, hdeadline⟩ := hcampaign.expired_at
  have hpair : ∀ a ∈ self.accepted_pledges campaign, ∀ b ∈ self.accepted_pledges campaign, a ≠ b →
      Compatible [self.transaction a, self.transaction b] := by
    intro a ha b hb hab
    have hnodup : [a, b].Nodup := by simpa using hab
    have hall : ∀ p ∈ [a, b], p ∈ self.accepted_pledges campaign := by
      intro p hp
      rcases List.mem_pair.mp hp with rfl | rfl
      · exact ha
      · exact hb
    exact (combine_accepted_iff hcampaign hrpc (List.cons_ne_nil a [b]) hnodup hall).mp
      (h.combinable [a, b] (List.cons_ne_nil a [b]) hnodup hall)
  refine ⟨fun a ha b hb => ?_, fun a ha b hb => ?_, fun hassess htotal => ?_⟩
  · rcases eq_or_ne a b with rfl | hab
    · rfl
    · exact (hpair a ha b hb hab).version _ (by simp) _ (by simp)
  · rcases eq_or_ne a b with rfl | hab
    · rfl
    · exact (hpair a ha b hb hab).locktime _ (by simp) _ (by simp)
  · rw [← comparable_prepared]
    by_contra hcomp
    obtain ⟨height, hheight, hopen, -⟩ := id hassess
    rw [hdeadline, Except.ok.injEq, decide_eq_false_iff_not] at hopen
    rw [← total_prepared] at htotal
    -- the fee that leaves no pledge to spare
    set fee := total_sats (self.prepared_pledges campaign) - campaign.asking_price_sats with hfee
    have hnonneg : 0 ≤ fee := by omega
    have hfunded : ∃ status, self.compute_funding_status campaign.id fee = .ok status ∧
        status.is_fundable = true :=
      (compute_funding_status_ok hcampaign hdeadline (not_lt.mpr hnonneg) hheight).mpr
        (.inr ⟨hopen, hassess, (decide_eq_true (by omega)).symm⟩)
    obtain ⟨status, hstatus, hfundable⟩ := hfunded
    obtain ⟨plan, hplan⟩ := h.fundable fee hnonneg status hstatus hfundable
    obtain ⟨-, -, selected, -, hselect, -⟩ :=
      (prepare_final_transaction_eq hcampaign hdeadline (not_lt.mpr hnonneg) hheight).mp hplan
    exact select_pledges_error (by omega) hcomp hselect

/-- **Status and assembly.** For every content of the tables, every snapshot of a faithful
node and every active campaign: the funding status and the final transaction agree for
every fee buffer and all accepted pledges can be combined if and only if the accepted
pledges have one version and one locktime and, when the campaign can be assessed and they
reach its asking price, those of equal value have timestamps that can be compared. -/
theorem status_matches_assembly_iff (service : FundingService) (campaign : FundingCampaign)
    (hcampaign : service.Active campaign) (hrpc : service.bitcoin_rpc.Faithful) :
    service.StatusMatchesAssembly campaign ↔ service.Mergeable campaign :=
  ⟨mergeable_of_statusMatchesAssembly hcampaign hrpc,
    statusMatchesAssembly_of_mergeable hcampaign hrpc⟩

/-! ## Two versions -/

/-- The node of the example is faithful. -/
theorem exampleRpc_faithful : exampleRpc.Faithful := by
  constructor
  · intro raw decoded h
    simp only [exampleRpc] at h
    split at h
    · rename_i tx hparse
      exact ⟨tx, hparse, (Except.ok.inj h).symm⟩
    · cases h
  · -- every created text is one of the two templates
    have htemplate : ∀ inputs outputs locktime replaceable raw tx,
        exampleRpc.create_raw_transaction inputs outputs locktime replaceable = .ok raw →
        parse_transaction raw = .ok tx → ∃ second, tx = templateTx second := by
      intro inputs outputs locktime replaceable raw tx h hparse
      simp only [exampleRpc] at h
      split_ifs at h
      · obtain rfl := Except.ok.inj h
        rw [parse_template] at hparse
        exact ⟨false, (Except.ok.inj hparse).symm⟩
      · obtain rfl := Except.ok.inj h
        rw [parse_template] at hparse
        exact ⟨true, (Except.ok.inj hparse).symm⟩
    intro inputs inputs' outputs locktime replaceable raw raw' tx tx' h h' hparse hparse'
    obtain ⟨second, rfl⟩ := htemplate _ _ _ _ _ _ h hparse
    obtain ⟨second', rfl⟩ := htemplate _ _ _ _ _ _ h' hparse'
    rfl

/-- The tables with both signed pledges. -/
def tablesBoth : FundingTables :=
  exampleTables [firstPledge, secondPledge] (by decide) (by decide) (by decide) (by decide +kernel)

/-- The tables with the first pledge and the second one signed anew. -/
def tablesRenewed : FundingTables :=
  exampleTables [firstPledge, renewedPledge] (by decide) (by decide) (by decide) (by decide +kernel)

/-- The pledges of tables whose pledges the node finalizes are all accepted. -/
theorem example_accepted_of_signed {tables : FundingTables} (which : List Signed)
    (h : tables.campaigns = [exampleCampaign])
    (hpledges : tables.get_pledges_for_campaign exampleCampaign.id = which.map signedPledge) :
    (exampleService tables).accepted_pledges exampleCampaign = which.map signedPledge := by
  have hvalid : ∀ w, (exampleService tables).is_valid (signedPledge w) = true := by
    intro w
    rw [is_valid, example_validate tables h]
  rw [accepted_pledges_eq (example_active tables h),
    show (exampleService tables).repository = tables from rfl, hpledges]
  refine List.filter_eq_self.mpr fun pledge hpledge => ?_
  obtain ⟨w, -, rfl⟩ := List.mem_map.mp hpledge
  exact hvalid w

theorem example_accepted :
    (exampleService tablesBoth).accepted_pledges exampleCampaign = [firstPledge, secondPledge] :=
  example_accepted_of_signed [.first, .second] rfl rfl

theorem example_assessable_of_signed {tables : FundingTables}
    (which : List Signed) (h : tables.campaigns = [exampleCampaign])
    (hpledges : tables.get_pledges_for_campaign exampleCampaign.id = which.map signedPledge) :
    (exampleService tables).Assessable exampleCampaign := by
  refine ⟨800, rfl, rfl, fun pledge hpledge => ?_⟩
  rw [show (exampleService tables).repository = tables from rfl, hpledges] at hpledge
  obtain ⟨w, -, rfl⟩ := List.mem_map.mp hpledge
  exact ⟨⟨_, example_finalize tables w⟩, ⟨_, example_validate tables h w⟩⟩

theorem example_transaction (tables : FundingTables) (which : Signed) :
    (exampleService tables).finalized (signedPledge which) = hex (signedBytes which) ∧
      (exampleService tables).transaction (signedPledge which) = signedTx which := by
  have hfinal := finalized_eq (example_finalize tables which)
  exact ⟨hfinal, by rw [transaction, hfinal, parse_signed]⟩

theorem exampleCampaign_expired_at (height : ℤ) :
    exampleCampaign.expired_at height = .ok (decide (height > 900)) := rfl

/-- Pledges of 60000 and 50000 sats cover the asking price if no fee is to be paid. -/
theorem example_fundable (tables : FundingTables) (which : Signed)
    (h : tables.campaigns = [exampleCampaign])
    (hpledges : tables.get_pledges_for_campaign exampleCampaign.id =
      [.first, which].map signedPledge) (hvalue : (signedPledge which).value_sats = 50000) :
    ∃ status, (exampleService tables).compute_funding_status exampleCampaign.id 0 = .ok status ∧
      status.is_fundable = true := by
  have htotal : total_sats ((exampleService tables).prepared_pledges exampleCampaign) = 110000 := by
    rw [total_prepared, example_accepted_of_signed [.first, which] h hpledges]
    show 60000 + ((signedPledge which).value_sats + 0) = 110000
    rw [hvalue]
    rfl
  have hheight : (exampleService tables).bitcoin_rpc.get_block_count = .ok 800 := rfl
  refine (compute_funding_status_ok (example_active tables h) exampleCampaign_expired_at
    (lt_irrefl 0) hheight).mpr
    (.inr ⟨by decide, example_assessable_of_signed [.first, which] h hpledges, ?_⟩)
  rw [htotal]
  rfl

/-- At a fee buffer of zero the two pledges cover the asking price, and the status says so;
but their transactions have different versions, and no final transaction is built. -/
theorem status_without_assembly :
    exampleRpc.Faithful ∧ (exampleService tablesBoth).Active exampleCampaign ∧
      (∃ status, (exampleService tablesBoth).compute_funding_status exampleCampaign.id 0 = .ok status ∧
        status.is_fundable = true) ∧
      ¬ ∃ plan, (exampleService tablesBoth).prepare_final_transaction exampleCampaign.id 0 =
        .ok plan := by
  have hactive := example_active tablesBoth rfl
  have htotal : total_sats ((exampleService tablesBoth).prepared_pledges exampleCampaign) = 110000 := by
    rw [total_prepared, example_accepted]
    rfl
  have hheight : (exampleService tablesBoth).bitcoin_rpc.get_block_count = .ok 800 := rfl
  refine ⟨exampleRpc_faithful, hactive, example_fundable tablesBoth .second rfl rfl rfl, ?_⟩
  rintro ⟨plan, hplan⟩
  obtain ⟨-, -, selected, out, hselect, hout, -⟩ := (prepare_final_transaction_eq hactive
    exampleCampaign_expired_at (lt_irrefl 0) hheight).mp hplan
  obtain ⟨hnodup, hall, htexts, hreached⟩ := selected_accepted hselect
  obtain ⟨left, hperm, -⟩ := select_pledges_eq_ok hselect
  have hasked : exampleCampaign.asking_price_sats = 100000 := rfl
  -- either pledge alone is below the asking price, so both are selected
  have hboth : ∀ p ∈ (exampleService tablesBoth).prepared_pledges exampleCampaign, p ∈ selected := by
    intro p hp
    rcases List.mem_append.mp (hperm.mem_iff.mpr hp) with hsel | hleft
    · exact hsel
    · obtain ⟨pledge, hpledge, rfl⟩ := List.mem_map.mp hp
      have hvalue : 50000 ≤ pledge.value_sats := by
        rw [example_accepted] at hpledge
        rcases List.mem_pair.mp hpledge with rfl | rfl
        · decide
        · decide
      have hsum := total_sats_perm hperm
      have hrest := total_sats_nonneg (left.erase ((exampleService tablesBoth).prepared pledge))
      rw [total_sats_append, htotal, total_sats_erase hleft] at hsum
      have : ((exampleService tablesBoth).prepared pledge).pledge.value_sats = pledge.value_sats := rfl
      omega
  have hne : selected.map (·.pledge) ≠ [] := by
    intro hnil
    rw [List.map_eq_nil_iff.mp hnil, total_sats_nil] at hreached
    omega
  rw [htexts] at hout
  have hcomp := (combine_accepted_iff hactive exampleRpc_faithful hne hnodup hall).mp ⟨out, hout⟩
  have hmem : ∀ w, signedPledge w ∈ [firstPledge, secondPledge] → signedTx w ∈
      (selected.map (·.pledge)).map (exampleService tablesBoth).transaction := by
    intro w hw
    rw [← (example_transaction tablesBoth w).2]
    refine List.mem_map_of_mem (List.mem_map.mpr ⟨_, hboth _ (List.mem_map_of_mem ?_), rfl⟩)
    rw [example_accepted]
    exact hw
  have hversion := hcomp.version _ (hmem .first List.mem_cons_self) _
    (hmem .second (List.mem_cons_of_mem _ List.mem_cons_self))
  cases hversion

/-- With the second pledge signed anew, the two pledges reach the asking price together and no
sooner, and the status and the assembly agree: the campaign can be funded, and is. -/
theorem status_matches_assembly_iff_renewed :
    (exampleService tablesRenewed).StatusMatchesAssembly exampleCampaign ∧
      (∃ status, (exampleService tablesRenewed).compute_funding_status exampleCampaign.id 0 =
        .ok status ∧ status.is_fundable = true) ∧
      ∃ plan, (exampleService tablesRenewed).prepare_final_transaction exampleCampaign.id 0 =
        .ok plan := by
  have hactive := example_active tablesRenewed rfl
  have haccepted : (exampleService tablesRenewed).accepted_pledges exampleCampaign =
      [Signed.first, .renewed].map signedPledge :=
    example_accepted_of_signed [.first, .renewed] rfl rfl
  have hone {a : FundingPledge} (ha : a ∈ (exampleService tablesRenewed).accepted_pledges
      exampleCampaign) : ∃ w, a = signedPledge w ∧ Signed.version w = 2 ∧
        (exampleService tablesRenewed).transaction a = signedTx w := by
    rw [haccepted] at ha
    rcases List.mem_pair.mp ha with rfl | rfl
    · exact ⟨.first, rfl, rfl, (example_transaction tablesRenewed .first).2⟩
    · exact ⟨.renewed, rfl, rfl, (example_transaction tablesRenewed .renewed).2⟩
  have hmatches := (status_matches_assembly_iff (exampleService tablesRenewed) exampleCampaign hactive
    exampleRpc_faithful).mpr ⟨fun a ha b hb => ?_, fun a ha b hb => ?_, fun _ _ a ha b hb _ => ?_⟩
  · obtain ⟨status, hok, hfundable⟩ := example_fundable tablesRenewed .renewed rfl rfl rfl
    exact ⟨hmatches, ⟨status, hok, hfundable⟩, hmatches.fundable 0 le_rfl status hok hfundable⟩
  · obtain ⟨w, -, hw, htx⟩ := hone ha
    obtain ⟨w', -, hw', htx'⟩ := hone hb
    rw [htx, htx', signedTx, signedTx]
    show (w.version : ℤ) = w'.version
    rw [hw, hw']
  · obtain ⟨w, -, -, htx⟩ := hone ha
    obtain ⟨w', -, -, htx'⟩ := hone hb
    rw [htx, htx']
    rfl
  · have hkind : ∀ w, (signedPledge w).created_at.kind = firstPledge.created_at.kind := by
      intro w
      cases w with
      | first => rfl
      | second => rfl
      | renewed => rfl
    obtain ⟨w, rfl, -⟩ := hone ha
    obtain ⟨w', rfl, -⟩ := hone hb
    rw [hkind, hkind]

end FundingService

end Superorganism.Funding
