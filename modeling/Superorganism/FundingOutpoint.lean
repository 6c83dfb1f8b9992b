/-
`submit_signed_pledge` of `democracy/funding/service.py`, and for which transaction outputs the
pledges of a campaign are.

The UNIQUE clause of the pledge table compares the text of the transaction id. What is submitted
here is compared with the transaction that the node decodes, so its text is the one the node
writes; what comes from a peer is stored as it is, and the same 32 bytes have many texts that
`validate_txid` lets through. So one output can be pledged twice to a campaign, and it cannot if
peers send the text that `bytes.hex` writes.
-/
import Superorganism.FundingAgree

set_option autoImplicit false

open Superorganism.Bytes Superorganism.Py Superorganism.Tx Superorganism.Bitcoin

namespace Superorganism.Funding

/-! ## Submitting a pledge -/

/-- What `submit_signed_pledge` makes of an exception of `add_pledge`. -/
def add_pledge_error (pledge : FundingPledge) (exc : PyError) : PyError :=
  if exc.isIntegrityError &&
      contains exc.str ("UNIQUE constraint failed: funding_pledges.campaign_id, " ++
        "funding_pledges.txid, funding_pledges.vout") then
    .ValueError (s!"Pledge already exists for outpoint {pledge.txid}:{pledge.vout} " ++
      s!"in campaign {pledge.campaign_id.str}.")
  else if exc.isIntegrityError && contains exc.str "FOREIGN KEY constraint failed" then
    .ValueError s!"Cannot submit pledge for unknown campaign: {pledge.campaign_id.str}"
  else exc

namespace FundingService

variable (self : FundingService)

def ensure_campaign_not_expired (campaign : FundingCampaign) : Except PyError Unit := do
  require_active_campaign campaign
  let current_height ← self.bitcoin_rpc.get_block_count
  ensure_campaign_not_expired_at_height campaign current_height

/-- The UTXO of `submit_signed_pledge`. -/
def require_utxo (txid : String) (vout : ℤ) : Except PyError Utxo := do
  match ← self.bitcoin_rpc.get_tx_out txid vout with
  | none => throw (.ValueError "Cannot submit pledge for a spent or unknown UTXO.")
  | some utxo => pure utxo

/-- `submit_signed_pledge`, with the id and the date that the model draws: the pledge, and the
repository that holds it. An error leaves the repository as it was. -/
def submit_signed_pledge (id : UUID) (created_at : CreatedAt) (campaign_id pledger_id : UUID)
    (txid : String) (vout : ℤ) (signed_pledge_psbt : String) :
    Except PyError (FundingPledge × FundingTables) := do
  let txid ← validate_txid txid
  let campaign ← self.require_campaign campaign_id
  require_active_campaign campaign
  self.ensure_campaign_not_expired campaign
  let utxo ← self.require_utxo txid vout
  let _ ← self.ensure_utxo_has_min_confirmations utxo
  let value_sats ← utxo_value_sats utxo
  let finalized_raw_tx_hex ← self.bitcoin_rpc.finalize_psbt_extract_tx_hex signed_pledge_psbt
  let pledge ← FundingPledge.new campaign.id pledger_id txid vout value_sats signed_pledge_psbt id
    created_at
  -- the UTXO and the height are asked for again in here
  let validation ← self.validate_pledge pledge (some finalized_raw_tx_hex)
  if !validation.valid then
    throw (.ValueError ("Invalid signed pledge: " ++ validation.reason.getD "None"))
  else
    match self.repository.add_pledge pledge with
    | .error exc => throw (add_pledge_error pledge exc)
    | .ok repository => pure (pledge, repository)

end FundingService

/-! ## Runs -/

/-- The insert of a campaign whose solution is stored. -/
def FundingTables.add_campaign (tables : FundingTables) (campaign : FundingCampaign) :
    Except PyError FundingTables :=
  -- the values are bound before the constraints are checked
  if campaign.asking_price_sats ≥ 2 ^ 63 ∨ ∃ height ∈ campaign.deadline_height, height ≥ 2 ^ 63 then
    throw (.OverflowError "Python int too large to convert to SQLite INTEGER")
  else if hsolution : campaign.solution_id ∈ tables.campaigns.map (·.solution_id) then
    throw (.IntegrityError "UNIQUE constraint failed: funding_campaigns.solution_id")
  else if hid : campaign.id ∈ tables.campaigns.map (·.id) then
    throw (.IntegrityError "UNIQUE constraint failed: funding_campaigns.id")
  else
    pure { tables with
      campaigns := tables.campaigns ++ [campaign]
      campaign_ids := by
        rw [List.map_append, List.nodup_append']
        exact ⟨tables.campaign_ids, List.nodup_singleton _, by simpa using hid⟩
      campaign_solutions := by
        rw [List.map_append, List.nodup_append']
        exact ⟨tables.campaign_solutions, List.nodup_singleton _, by simpa using hsolution⟩
      pledge_campaigns := by
        intro pledge hpledge
        obtain ⟨stored, hstored, hsame⟩ := tables.pledge_campaigns pledge hpledge
        exact ⟨stored, List.mem_append_left _ hstored, hsame⟩ }

/-- What happens to the repository: a pledge is submitted here, while the node is in some
state, a pledge arrives from a peer, or a campaign is created or arrives. -/
inductive PledgeStep where
  | submit (bitcoin_rpc : BitcoinRpc) (id : UUID) (created_at : CreatedAt)
      (campaign_id pledger_id : UUID) (txid : String) (vout : ℤ) (signed_pledge_psbt : String)
  | receive (pledge : FundingPledge)
  | campaign (campaign : FundingCampaign)

/-- A node that decodes transactions as they are, where the step asks one. -/
def PledgeStep.OnFaithfulNode : PledgeStep → Prop
  | .submit bitcoin_rpc _ _ _ _ _ _ _ => bitcoin_rpc.Faithful
  | _ => True

namespace FundingService

/-- The repository after one step; an error leaves it as it was. -/
def step (self : FundingService) : PledgeStep → FundingTables
  | .submit bitcoin_rpc id created_at campaign_id pledger_id txid vout signed_pledge_psbt =>
    match { self with bitcoin_rpc := bitcoin_rpc }.submit_signed_pledge id created_at campaign_id
        pledger_id txid vout signed_pledge_psbt with
    | .ok stored => stored.2
    | .error _ => self.repository
  | .receive pledge =>
    match self.repository.store_remote pledge with
    | .ok stored => stored.2
    | .error _ => self.repository
  | .campaign campaign =>
    match self.repository.add_campaign campaign with
    | .ok repository => repository
    | .error _ => self.repository

/-- The repository after a run. -/
def run (self : FundingService) : List PledgeStep → FundingTables
  | [] => self.repository
  | step :: steps => run { self with repository := self.step step } steps

end FundingService

/-! ## Transaction ids -/

/-- The transaction id is the text that `bytes.hex` writes: lower case and without blanks. -/
def FundingPledge.Canonical (pledge : FundingPledge) : Prop := ∃ raw, pledge.txid = hex raw

/-- No campaign holds two pledges for one output: transaction ids are compared as bytes. -/
def FundingTables.DistinctOutpoints (tables : FundingTables) : Prop :=
  ∀ a ∈ tables.pledges, ∀ b ∈ tables.pledges, a.campaign_id = b.campaign_id →
    fromhex a.txid = fromhex b.txid → a.vout = b.vout → a = b

/-- Texts that `bytes.hex` writes are equal when their bytes are, and those the UNIQUE clause
keeps apart. -/
theorem FundingTables.distinctOutpoints_of_canonical {tables : FundingTables}
    (h : ∀ pledge ∈ tables.pledges, pledge.Canonical) : tables.DistinctOutpoints := by
  intro a ha b hb hcampaign htxid hvout
  obtain ⟨raw, hraw⟩ := h a ha
  obtain ⟨raw', hraw'⟩ := h b hb
  have hbytes : raw = raw' := by
    rw [hraw, hraw', fromhex_hex, fromhex_hex] at htxid
    exact Option.some.inj htxid
  refine List.inj_on_of_nodup_map tables.pledge_outpoints ha hb ?_
  rw [FundingPledge.outpoint, FundingPledge.outpoint, hcampaign, hraw, hraw', hbytes, hvout]

/-- A pledge from a peer is added as it is, or nothing is. -/
theorem FundingTables.mem_store_remote {tables : FundingTables} {received pledge : FundingPledge}
    {stored : StoreStatus × FundingTables} (h : tables.store_remote received = .ok stored)
    (hpledge : pledge ∈ stored.2.pledges) : pledge ∈ tables.pledges ∨ pledge = received := by
  rw [FundingTables.store_remote] at h
  split_ifs at h
  · -- its id is stored
    cases h
    exact .inl hpledge
  · split at h
    · rename_i tables' hadd
      cases h
      rw [(FundingTables.add_pledge_eq_ok hadd).2] at hpledge
      exact (List.mem_append.mp hpledge).imp_right List.mem_singleton.mp
    · -- the insert has failed
      cases h
      exact .inl hpledge
    · cases h

namespace FundingService

variable {self : FundingService}

/-- A valid pledge has the transaction id of the input it spends, as the node writes it. -/
theorem canonical_of_valid (hrpc : self.bitcoin_rpc.Faithful) {pledge : FundingPledge}
    {raw_tx_hex : String} {validation : PledgeValidationResult}
    (hval : self.validate_pledge pledge (some raw_tx_hex) = .ok validation)
    (hvalid : validation.valid = true) : pledge.Canonical := by
  rw [validate_pledge] at hval
  split at hval
  · obtain rfl := Except.ok.inj hval
    cases hvalid
  · rename_i campaign hcampaign
    split_ifs at hval
    · obtain rfl := Except.ok.inj hval
      cases hvalid
    · obtain ⟨decoded, hprocess, hfinal⟩ := validate_for_campaign_true hval hvalid
      obtain ⟨txin, -, -, hvin, htxid, -⟩ := validate_finalized_eq_none hfinal
      rw [process_pledge] at hprocess
      obtain ⟨raw, -, hdecode⟩ := bind_eq_ok.mp hprocess
      obtain ⟨tx, -, rfl⟩ := hrpc.decode_agrees raw decoded hdecode
      -- the one input of the decoded transaction is the one input of the transaction
      obtain ⟨x, rest, -, hx, -⟩ := List.map_eq_cons_iff.mp (Option.some.inj hvin)
      subst hx
      exact ⟨x.prev_txid_le.toList.reverse, (Option.some.inj htxid).symm⟩

/-- The finalized text that `submit_signed_pledge` hands over is the one `validate_pledge` would
compute. -/
theorem validate_pledge_finalized {pledge : FundingPledge}
    {raw_tx_hex : String}
    (h : self.bitcoin_rpc.finalize_psbt_extract_tx_hex pledge.signed_pledge_psbt = .ok raw_tx_hex) :
    self.validate_pledge pledge (some raw_tx_hex) = self.validate_pledge pledge none := by
  have hprocess : self.process_pledge pledge (some raw_tx_hex) none =
      self.process_pledge pledge none none := by
    rw [process_pledge, process_pledge, finalized_or_computed, finalized_or_computed, h]
    split_ifs <;> rfl
  simp only [validate_pledge, validate_pledge_for_campaign, hprocess]

/-- What `submit_signed_pledge` stores has passed `validate_pledge`. -/
theorem submit_signed_pledge_eq_ok {id : UUID} {created_at : CreatedAt}
    {campaign_id pledger_id : UUID} {txid : String} {vout : ℤ} {signed_pledge_psbt : String}
    {pledge : FundingPledge} {repository : FundingTables}
    (h : self.submit_signed_pledge id created_at campaign_id pledger_id txid vout
      signed_pledge_psbt = .ok (pledge, repository)) :
    self.repository.add_pledge pledge = .ok repository ∧
      ∃ raw_tx_hex validation, self.validate_pledge pledge (some raw_tx_hex) = .ok validation ∧
        validation.valid = true := by
  rw [submit_signed_pledge] at h
  obtain ⟨_, -, h⟩ := bind_eq_ok.mp h
  obtain ⟨_, -, h⟩ := bind_eq_ok.mp h
  obtain ⟨_, -, h⟩ := bind_eq_ok.mp h
  obtain ⟨_, -, h⟩ := bind_eq_ok.mp h
  obtain ⟨_, -, h⟩ := bind_eq_ok.mp h
  obtain ⟨_, -, h⟩ := bind_eq_ok.mp h
  obtain ⟨_, -, h⟩ := bind_eq_ok.mp h
  obtain ⟨raw_tx_hex, -, h⟩ := bind_eq_ok.mp h
  obtain ⟨new, -, h⟩ := bind_eq_ok.mp h
  obtain ⟨validation, hval, h⟩ := bind_eq_ok.mp h
  split_ifs at h with hinvalid
  split at h
  · cases h
  · rename_i stored hadd
    cases h
    exact ⟨hadd, raw_tx_hex, validation, hval, by simpa using hinvalid⟩

/-- A step adds no pledge, or one that a peer sent, or one that was found valid here. -/
theorem step_pledges (self : FundingService) (step : PledgeStep) (hnode : step.OnFaithfulNode) :
    ∀ pledge ∈ (self.step step).pledges,
      pledge ∈ self.repository.pledges ∨ step = .receive pledge ∨ pledge.Canonical := by
  intro pledge hpledge
  cases step with
  | submit bitcoin_rpc id created_at campaign_id pledger_id txid vout signed_pledge_psbt =>
      rw [FundingService.step] at hpledge
      split at hpledge
      · rename_i stored hsubmit
        -- only a pledge that was found valid is added, and validity fixes the text of its txid
        obtain ⟨hadd, raw_tx_hex, validation, hval, hvalid⟩ := submit_signed_pledge_eq_ok hsubmit
        rw [(FundingTables.add_pledge_eq_ok hadd).2] at hpledge
        rcases List.mem_append.mp hpledge with hold | hnew
        · exact .inl hold
        · rw [List.mem_singleton.mp hnew]
          refine .inr (.inr (canonical_of_valid ?_ hval hvalid))
          exact hnode
      · exact .inl hpledge
  | receive received =>
      rw [FundingService.step] at hpledge
      split at hpledge
      · rename_i stored hstore
        refine (FundingTables.mem_store_remote hstore hpledge).imp_right fun hnew => .inl ?_
        rw [hnew]
      · exact .inl hpledge
  | campaign campaign =>
      rw [FundingService.step] at hpledge
      split at hpledge
      · rename_i repository hadd
        rw [FundingTables.add_campaign] at hadd
        split_ifs at hadd
        cases hadd
        exact .inl hpledge
      · exact .inl hpledge

/-- Along a run every stored pledge stays canonical. -/
theorem run_canonical {steps : List PledgeStep} (hnodes : ∀ step ∈ steps, step.OnFaithfulNode)
    (hpeers : ∀ pledge, .receive pledge ∈ steps → pledge.Canonical)
    (hstart : ∀ pledge ∈ self.repository.pledges, pledge.Canonical) :
    ∀ pledge ∈ (self.run steps).pledges, pledge.Canonical := by
  induction steps generalizing self with
  | nil => exact hstart
  | cons step steps ih =>
      refine ih (fun later hlater => hnodes later (List.mem_cons_of_mem _ hlater))
        (fun pledge hpledge => hpeers pledge (List.mem_cons_of_mem _ hpledge)) fun pledge hpledge => ?_
      rcases self.step_pledges step (hnodes step (List.mem_cons_self ..)) pledge hpledge with
        hold | hreceived | hcanonical
      · exact hstart pledge hold
      · rw [hreceived] at hpeers
        exact hpeers pledge (List.mem_cons_self ..)
      · exact hcanonical

end FundingService

/-- **One pledge for an output.** Start from a repository without pledges and let pledges be
submitted through `submit_signed_pledge`, each on a node that decodes transactions as they are,
pledges arrive from peers and campaigns be added, in any order. If every pledge that a peer
sends has its transaction id in the form that `bytes.hex` writes, then in every state on the way
no campaign holds two pledges for one output of one transaction. -/
theorem outpoints_distinct (service : FundingService) (hstart : service.repository.pledges = [])
    (steps : List PledgeStep) (hnodes : ∀ step ∈ steps, step.OnFaithfulNode)
    (hpeers : ∀ pledge, .receive pledge ∈ steps → pledge.Canonical) :
    ∀ reached, reached <+: steps → (service.run reached).DistinctOutpoints := by
  intro reached hreached
  apply FundingTables.distinctOutpoints_of_canonical
  refine FundingService.run_canonical (fun step hstep => hnodes step (hreached.subset hstep))
    (fun pledge hpledge => hpeers pledge (hreached.subset hpledge)) fun pledge hpledge => ?_
  rw [hstart] at hpledge
  exact absurd hpledge List.not_mem_nil

/-! ## One output under two texts -/

/-- The example campaign before anything is pledged to it. -/
def tablesUnpledged : FundingTables :=
  exampleTables [] (by decide) (by decide) (by decide) (by decide)

/-- A pledge that a peer sends, under a text for the id of the transaction. -/
def peerPledge (id : UUID) (txid : String) (htxid : validate_txid txid = .ok txid) : FundingPledge where
  campaign_id := 1
  pledger_id := 8
  txid := txid
  vout := 0
  value_sats := 40000
  signed_pledge_psbt := "cHNidP8D"
  id := id
  created_at := .aware 1700000002000000 "2023-11-14T22:13:22+00:00"
  value_pos := by decide
  vout_nonneg := incompletePledge.vout_nonneg
  txid_valid := htxid
  psbt_valid := incompletePledge.psbt_valid

def lowerCasePledge : FundingPledge :=
  peerPledge 20 "abababababababababababababababababababababababababababababababab" (by decide +kernel)

def upperCasePledge : FundingPledge :=
  peerPledge 21 "ABABABABABABABABABABABABABABABABABABABABABABABABABABABABABABABAB" (by decide +kernel)

/-- Two pledges from peers for one output, under two texts of its transaction id, are both
stored. -/
theorem outpoint_pledged_twice :
    fromhex lowerCasePledge.txid = some (List.replicate 32 0xab) ∧
      fromhex upperCasePledge.txid = some (List.replicate 32 0xab) ∧
      tablesUnpledged.pledges = [] ∧
      ((exampleService tablesUnpledged).run
        [.receive lowerCasePledge, .receive upperCasePledge]).pledges =
          [lowerCasePledge, upperCasePledge] ∧
      ¬ ((exampleService tablesUnpledged).run
        [.receive lowerCasePledge, .receive upperCasePledge]).DistinctOutpoints := by
  have hlower : fromhex lowerCasePledge.txid = some (List.replicate 32 0xab) := by decide +kernel
  have hupper : fromhex upperCasePledge.txid = some (List.replicate 32 0xab) := by decide +kernel
  have hpledges : ((exampleService tablesUnpledged).run
      [.receive lowerCasePledge, .receive upperCasePledge]).pledges =
        [lowerCasePledge, upperCasePledge] := by
    decide +kernel
  refine ⟨hlower, hupper, rfl, hpledges, fun hdistinct => ?_⟩
  have hsame : lowerCasePledge = upperCasePledge := by
    refine hdistinct _ ?_ _ ?_ rfl (hlower.trans hupper.symm) rfl
    · rw [hpledges]
      exact List.mem_cons_self ..
    · rw [hpledges]
      exact List.mem_cons_of_mem _ (List.mem_cons_self ..)
  have hid : (20 : UUID) = 21 := congrArg FundingPledge.id hsame
  cases hid

theorem FundingService.step_submit {self : FundingService} {bitcoin_rpc : BitcoinRpc} {id : UUID}
    {created_at : CreatedAt} {campaign_id pledger_id : UUID} {txid : String} {vout : ℤ}
    {signed_pledge_psbt : String} {pledge : FundingPledge} {repository : FundingTables}
    (h : { self with bitcoin_rpc := bitcoin_rpc }.submit_signed_pledge id created_at campaign_id
      pledger_id txid vout signed_pledge_psbt = .ok (pledge, repository)) :
    self.step (.submit bitcoin_rpc id created_at campaign_id pledger_id txid vout
      signed_pledge_psbt) = repository := by
  rw [FundingService.step, h]

/-- The first pledge is submitted on the example node. -/
theorem submit_first :
    (exampleService tablesUnpledged).submit_signed_pledge 10
      (.aware 1700000001000000 "2023-11-14T22:13:21+00:00") 1 7 (exampleTxid false) 0 "cHNidP8B" =
        .ok (firstPledge, tablesBefore) := by
  have htxid : validate_txid (exampleTxid false) = .ok (exampleTxid false) := firstPledge.txid_valid
  have hfinal : exampleRpc.finalize_psbt_extract_tx_hex "cHNidP8B" =
      .ok (hex (signedBytes .first)) := by
    rfl
  have hnew : FundingPledge.new 1 7 (exampleTxid false) 0 60000 "cHNidP8B" 10
      (.aware 1700000001000000 "2023-11-14T22:13:21+00:00") = .ok firstPledge :=
    firstPledge.new_fields _
  have hval : (exampleService tablesUnpledged).validate_pledge firstPledge
      (some (hex (signedBytes .first))) = .ok ⟨true, none⟩ :=
    (FundingService.validate_pledge_finalized hfinal).trans (example_validate tablesUnpledged rfl .first)
  have hcampaign : (exampleService tablesUnpledged).require_campaign 1 = .ok exampleCampaign := by
    rfl
  have hactive : require_active_campaign exampleCampaign = .ok () := by rfl
  have hopen : (exampleService tablesUnpledged).ensure_campaign_not_expired exampleCampaign =
      .ok () := by
    rfl
  have hutxo : (exampleService tablesUnpledged).require_utxo (exampleTxid false) 0 =
      .ok ⟨some (.float "0.0006"), some 6⟩ := by
    rfl
  have hconfirmed : (exampleService tablesUnpledged).ensure_utxo_has_min_confirmations
      ⟨some (.float "0.0006"), some 6⟩ = .ok 6 := by
    rfl
  have hvalue : FundingService.utxo_value_sats ⟨some (.float "0.0006"), some 6⟩ =
      .ok 60000 := by
    decide +kernel
  have hadd : tablesUnpledged.add_pledge firstPledge = .ok tablesBefore := by rfl
  rw [FundingService.submit_signed_pledge, htxid, ok_bind, hcampaign, ok_bind, hactive, ok_bind,
    hopen, ok_bind, hutxo, ok_bind, hconfirmed, ok_bind, hvalue, ok_bind,
    show (exampleService tablesUnpledged).bitcoin_rpc = exampleRpc from rfl, hfinal, ok_bind,
    show exampleCampaign.id = 1 from rfl, hnew, ok_bind, hval, ok_bind]
  simp only [Bool.not_true, Bool.false_eq_true, if_false,
    show (exampleService tablesUnpledged).repository = tablesUnpledged from rfl, hadd]
  rfl

/-- A pledge is submitted here and another arrives in lower case: both are stored, and they are
for different outputs. -/
theorem outpoints_distinct_submitted :
    ((exampleService tablesUnpledged).run [.submit exampleRpc 10
        (.aware 1700000001000000 "2023-11-14T22:13:21+00:00") 1 7 (exampleTxid false) 0 "cHNidP8B",
      .receive lowerCasePledge]).pledges = [firstPledge, lowerCasePledge] ∧
    ((exampleService tablesUnpledged).run [.submit exampleRpc 10
        (.aware 1700000001000000 "2023-11-14T22:13:21+00:00") 1 7 (exampleTxid false) 0 "cHNidP8B",
      .receive lowerCasePledge]).DistinctOutpoints := by
  constructor
  · have hstep : (exampleService tablesUnpledged).step (.submit exampleRpc 10
        (.aware 1700000001000000 "2023-11-14T22:13:21+00:00") 1 7 (exampleTxid false) 0
        "cHNidP8B") = tablesBefore :=
      FundingService.step_submit submit_first
    rw [FundingService.run, hstep]
    decide +kernel
  · refine outpoints_distinct (exampleService tablesUnpledged) rfl _ ?_ ?_ _ (List.prefix_refl _)
    · intro step hstep
      rcases List.mem_pair.mp hstep with rfl | rfl
      · exact FundingService.exampleRpc_faithful
      · trivial
    · intro pledge hpledge
      rcases List.mem_pair.mp hpledge with h | h
      · cases h
      · cases h
        exact ⟨List.replicate 32 0xab, by decide +kernel⟩

end Superorganism.Funding
