/-
Campaigns and pledges among peers: `create_campaign` of `democracy/funding/service.py`, and
what peers agree on that have been handed the same campaigns and pledges.

A solution has one campaign in a store, the first that arrives, and a campaign one pledge for
an outpoint. Two peers that create campaigns for one solution before they hear of each other
therefore stay apart, and with the campaigns their pledges. What the stores agree on are the
solutions that have a campaign, the campaign of a solution that only one was created for, and
the outpoints pledged to a campaign that both hold.
-/
import Superorganism.Converge

set_option autoImplicit false

open Superorganism.Bytes Superorganism.Py Superorganism.Funding Superorganism.Gossip
open Superorganism.Sql Superorganism.Replica

namespace Superorganism.Democracy

/-! ## Creating a campaign -/

/-- The deadline of a new campaign, from its terms and the height of the chain. -/
def campaign_deadline (get_block_count : Except PyError ℤ)
    (normalized_payout_address : Option String) (asking_price_sats : ℤ)
    (deadline_height_offset : Option ℤ) : Except PyError (Option ℤ) :=
  if asking_price_sats < 0 then throw (.ValueError "asking_price_sats must be non-negative.")
  else if asking_price_sats = 0 then
    if normalized_payout_address ≠ none then
      throw (.ValueError "developer_payout_address must be omitted when asking_price_sats is 0.")
    else if deadline_height_offset ≠ none then
      throw (.ValueError "deadline_height_offset must be omitted when asking_price_sats is 0.")
    else pure none
  else if normalized_payout_address = none then
    throw (.ValueError "developer_payout_address is required when asking_price_sats is positive.")
  else
    match deadline_height_offset with
    | none =>
      throw (.ValueError "deadline_height_offset is required when asking_price_sats is positive.")
    | some offset =>
      if offset ≤ 0 then throw (.ValueError "deadline_height_offset must be positive.")
      else do
        -- the node is asked only when everything else is in order
        let current_height ← get_block_count
        pure (some (current_height + offset))

namespace Runtime

/-- `create_campaign`, with the id and the date that the model draws. -/
def create_campaign (rt : Runtime) (get_block_count : Except PyError ℤ) (id : UUID)
    (created_at : CreatedAt) (solution : Solution) (developer_payout_address : Option String)
    (asking_price_sats : ℤ) (deadline_height_offset : Option ℤ) (t : Tables) :
    Except PyError FundingCampaign × Tables :=
  let normalized_payout_address := normalize_payout_address developer_payout_address
  let campaign : Except PyError FundingCampaign := do
    let deadline_height ← campaign_deadline get_block_count normalized_payout_address
      asking_price_sats deadline_height_offset
    let solution_hash ← solution.compute_hash rt.sha256
    FundingCampaign.new solution.id solution_hash normalized_payout_address asking_price_sats
      deadline_height id created_at
  match campaign with
  | .error e => (.error e, t)
  | .ok campaign =>
    match add_campaign campaign t with
    | (.ok (), t') => (.ok campaign, t')
    | (.error exc, t') =>
      -- which of the two it is, the source reads off the text of SQLite's error
      if exc.isIntegrityError &&
          contains exc.str "UNIQUE constraint failed: funding_campaigns.solution_id" then
        (.error (.ValueError ("Campaign already exists for solution: " ++ solution.id.str)), t')
      else if exc.isIntegrityError && contains exc.str "FOREIGN KEY constraint failed" then
        (.error (.ValueError ("Cannot create campaign for unknown solution: " ++
          solution.id.str)), t')
      else (.error exc, t')

/-! ## Campaigns and pledges of settled stores -/

variable {rt : Runtime} {texts : Set String} {t : Tables}

/-- A stored campaign is found by its solution. -/
theorem IsStore.get_campaign_for_solution_of_mem (h : rt.IsStore texts t) {campaign : FundingCampaign}
    (hcampaign : .campaign campaign ∈ rt.stored texts t) :
    rt.get_campaign_for_solution campaign.solution_id t = .ok (some campaign) :=
  fetchone_of_mem h.sane.1.campaign_solution_key hcampaign.2
    (row_to_campaign_genuine hcampaign.1.created_at)

theorem IsStore.get_campaign_for_solution_of_not_mem (h : rt.IsStore texts t) {solution_id : UUID}
    (hnone : ∀ campaign, .campaign campaign ∈ rt.stored texts t →
      campaign.solution_id ≠ solution_id) :
    rt.get_campaign_for_solution solution_id t = .ok none := by
  refine fetchone_of_not_mem fun hid => ?_
  obtain ⟨row, hrow, hid⟩ := List.mem_map.mp hid
  obtain ⟨campaign, hcampaign, rfl⟩ := h.campaign_of_row hrow
  exact hnone campaign hcampaign (UUID.str_injective hid)

section

variable {objects a b : Set Object}
  (hids : ∀ x ∈ objects, ∀ y ∈ objects, links.key x = links.key y → x = y)

include hids

/-- A solution that has a campaign in one store has one in the other. -/
theorem Ended.campaign_of_campaign (ha : Ended objects a) (hb : Ended objects b)
    {campaign : FundingCampaign} (hcampaign : .campaign campaign ∈ a) :
    ∃ campaign', .campaign campaign' ∈ b ∧ campaign'.solution_id = campaign.solution_id := by
  obtain ⟨p, hp, hs⟩ := ha.hasSlot_of_free hids hb hcampaign (s := .campaign campaign.solution_id)
    rfl fun p hparent => Object.slot_of_item (.inr (Option.some.inj hparent).symm)
  cases p with
  | campaign campaign' => exact ⟨campaign', hp, Slot.campaign.inj (Option.some.inj hs)⟩
  | _ => cases hs

/-- An outpoint pledged to a campaign that the other store holds is pledged to it there. -/
theorem Ended.pledge_of_pledge (ha : Ended objects a) (hb : Ended objects b) {pledge : FundingPledge}
    (hpledge : .pledge pledge ∈ a) {campaign : FundingCampaign} (hcampaign : .campaign campaign ∈ b)
    (hid : pledge.campaign_id = campaign.id) :
    ∃ pledge', .pledge pledge' ∈ b ∧ pledge'.outpoint = pledge.outpoint := by
  have hslot := hb.settled.hasSlot hids hb.subset (ha.subset hpledge)
    (s := .pledge pledge.campaign_id pledge.txid pledge.vout) rfl fun item hitem => by
      have hitem : some (⟨.FUNDING_CAMPAIGN, pledge.campaign_id⟩ : GossipItem) = some item := hitem
      exact ⟨.campaign campaign, hcampaign, by rw [← Option.some.inj hitem, hid]; rfl⟩
  obtain ⟨p, hp, hs⟩ := hslot
  cases p with
  | pledge pledge' =>
      obtain ⟨hcampaign_id, htxid, hvout⟩ := Slot.pledge.inj (Option.some.inj hs)
      refine ⟨pledge', hp, ?_⟩
      rw [FundingPledge.outpoint, FundingPledge.outpoint, hcampaign_id, htxid, hvout]
  | _ => cases hs

/-- A pledge to a campaign that both hold is in both, if M has no other one for its outpoint. -/
theorem Ended.mem_of_pledge (ha : Ended objects a) (hb : Ended objects b) {pledge : FundingPledge}
    (hpledge : .pledge pledge ∈ a) {campaign : FundingCampaign} (hcampaign : .campaign campaign ∈ b)
    (hid : pledge.campaign_id = campaign.id)
    (hone : ∀ p, .pledge p ∈ objects → p.outpoint = pledge.outpoint → p = pledge) :
    .pledge pledge ∈ b := by
  obtain ⟨pledge', hpledge', hout⟩ := ha.pledge_of_pledge hids hb hpledge hcampaign hid
  rwa [hone pledge' (hb.subset hpledge') hout] at hpledge'

/-- A campaign is in both stores, if M has no other one for its solution. -/
theorem Ended.mem_of_campaign (ha : Ended objects a) (hb : Ended objects b)
    {campaign : FundingCampaign} (hcampaign : .campaign campaign ∈ a)
    (hone : ∀ c, .campaign c ∈ objects → c.solution_id = campaign.solution_id → c = campaign) :
    .campaign campaign ∈ b := by
  obtain ⟨campaign', hcampaign', hsolution⟩ := ha.campaign_of_campaign hids hb hcampaign
  rwa [hone campaign' (hb.subset hcampaign') hsolution] at hcampaign'

omit hids in
/-- The campaign of a stored pledge is stored. -/
theorem Ended.campaign_of_pledge (ha : Ended objects a) {pledge : FundingPledge}
    (hpledge : .pledge pledge ∈ a) :
    ∃ campaign, .campaign campaign ∈ a ∧ pledge.campaign_id = campaign.id := by
  obtain ⟨p, hp, hitem⟩ :=
    ha.coherent.parents _ hpledge ⟨.FUNDING_CAMPAIGN, pledge.campaign_id⟩ rfl
  have htype : p.object_type = .FUNDING_CAMPAIGN := congrArg GossipItem.object_type hitem
  cases p with
  | campaign campaign => exact ⟨campaign, hp, (congrArg GossipItem.object_uuid hitem).symm⟩
  | _ => cases htype

/-- Where M has no rivals, all pledges of one store are in the other: a pledge needs its campaign,
which both stores have. -/
theorem Ended.pledges_subset (ha : Ended objects a) (hb : Ended objects b)
    (hcampaigns : ∀ campaign, .campaign campaign ∈ a → .campaign campaign ∈ b)
    (hone : ∀ p p', .pledge p ∈ objects → .pledge p' ∈ objects → p.outpoint = p'.outpoint → p = p')
    {pledge : FundingPledge} (hpledge : .pledge pledge ∈ a) : .pledge pledge ∈ b := by
  obtain ⟨campaign, hcampaign, hid⟩ := ha.campaign_of_pledge hpledge
  exact ha.mem_of_pledge hids hb hpledge (hcampaigns campaign hcampaign) hid fun p hp hout =>
    hone p pledge hp (ha.subset hpledge) hout

/-- An outpoint that is pledged in one store to a campaign of the other is pledged there. -/
theorem Ended.outpoint_of_outpoint (ha : Ended objects a) (hb : Ended objects b)
    {campaign : FundingCampaign} (hcampaign : .campaign campaign ∈ b) {txid : String} {vout : ℤ}
    (h : ∃ p, .pledge p ∈ a ∧ p.outpoint = (campaign.id, txid, vout)) :
    ∃ p, .pledge p ∈ b ∧ p.outpoint = (campaign.id, txid, vout) := by
  obtain ⟨p, hpledge, hp⟩ := h
  obtain ⟨p', hpledge', hp'⟩ := ha.pledge_of_pledge hids hb hpledge hcampaign (congrArg Prod.fst hp)
  exact ⟨p', hpledge', hp'.trans hp⟩

/-- The one pledge that M has for an outpoint. -/
theorem Ended.only_pledge_mem (ha : Ended objects a) (hb : Ended objects b)
    {campaign : FundingCampaign} (hcampaign : .campaign campaign ∈ b) {txid : String} {vout : ℤ}
    (hone : ∀ p p', .pledge p ∈ objects → .pledge p' ∈ objects →
      p.outpoint = (campaign.id, txid, vout) → p'.outpoint = (campaign.id, txid, vout) → p = p')
    {p : FundingPledge} (hp : p.outpoint = (campaign.id, txid, vout)) (hpledge : .pledge p ∈ a) :
    .pledge p ∈ b :=
  ha.mem_of_pledge hids hb hpledge hcampaign (congrArg Prod.fst hp) fun p' hp'M hp' =>
    hone p' p hp'M (ha.subset hpledge) (hp'.trans hp) hp

end

/-- Settled stores agree on the campaign of a solution for which there is only one. -/
theorem IsStore.get_campaign_for_solution_congr {objects : Set Object} {s t : Tables}
    (hids : ∀ x ∈ objects, ∀ y ∈ objects, links.key x = links.key y → x = y)
    (hs : rt.IsStore texts s) (ht : rt.IsStore texts t) (hsend : Ended objects (rt.stored texts s))
    (htend : Ended objects (rt.stored texts t)) {solution_id : UUID}
    (hone : ∀ c c', .campaign c ∈ objects → .campaign c' ∈ objects → c.solution_id = solution_id →
      c'.solution_id = solution_id → c = c') :
    rt.get_campaign_for_solution solution_id s = rt.get_campaign_for_solution solution_id t := by
  by_cases hsome : ∃ campaign, .campaign campaign ∈ rt.stored texts s ∧
      campaign.solution_id = solution_id
  · obtain ⟨campaign, hcampaign, rfl⟩ := hsome
    have hcampaign' := hsend.mem_of_campaign hids htend hcampaign fun c hc hsolution =>
      hone c campaign hc (hsend.subset hcampaign) hsolution rfl
    rw [hs.get_campaign_for_solution_of_mem hcampaign,
      ht.get_campaign_for_solution_of_mem hcampaign']
  · have hnone : ∀ campaign, .campaign campaign ∈ rt.stored texts t →
        campaign.solution_id ≠ solution_id := by
      intro c hc hid
      obtain ⟨c', hc', hsolution⟩ := htend.campaign_of_campaign hids hsend hc
      exact hsome ⟨c', hc', hsolution.trans hid⟩
    rw [hs.get_campaign_for_solution_of_not_mem fun c hc hid => hsome ⟨c, hc, hid⟩,
      ht.get_campaign_for_solution_of_not_mem hnone]

end Runtime

/-- **What peers agree on about funding.** Take M and two settled sequences of deliveries as for
votes. The stores hold campaigns for the same solutions, and the same campaign for every
solution for which M has only one. To a campaign that both hold, the same outpoints are
pledged, and where M has only one pledge for the outpoint it is the same pledge. So the stores
hold the same campaigns and pledges if no two campaigns of M are for one solution and no two
pledges of M are for one campaign and outpoint. -/
theorem funding_converges (rt : Runtime) (M : Finset Object) (hM : rt.Models M)
    (first second : List (String × Object)) (hfirst : rt.Settles M first)
    (hsecond : rt.Settles M second) :
    let a := rt.storeAll Tables.empty first
    let b := rt.storeAll Tables.empty second
    (∀ solution_id, (∃ campaign, .campaign campaign ∈ rt.objects a ∧
        campaign.solution_id = solution_id) ↔
      ∃ campaign, .campaign campaign ∈ rt.objects b ∧ campaign.solution_id = solution_id) ∧
    (∀ solution_id, (∀ c c', .campaign c ∈ M → .campaign c' ∈ M → c.solution_id = solution_id →
        c'.solution_id = solution_id → c = c') →
      rt.get_campaign_for_solution solution_id a = rt.get_campaign_for_solution solution_id b) ∧
    (∀ campaign, .campaign campaign ∈ rt.objects a → .campaign campaign ∈ rt.objects b →
      ∀ txid vout,
        ((∃ p, .pledge p ∈ rt.objects a ∧ p.outpoint = (campaign.id, txid, vout)) ↔
          ∃ p, .pledge p ∈ rt.objects b ∧ p.outpoint = (campaign.id, txid, vout)) ∧
        ((∀ p p', .pledge p ∈ M → .pledge p' ∈ M → p.outpoint = (campaign.id, txid, vout) →
            p'.outpoint = (campaign.id, txid, vout) → p = p') →
          ∀ p, p.outpoint = (campaign.id, txid, vout) →
            (.pledge p ∈ rt.objects a ↔ .pledge p ∈ rt.objects b))) ∧
    ((∀ c c', .campaign c ∈ M → .campaign c' ∈ M → c.solution_id = c'.solution_id → c = c') →
      (∀ p p', .pledge p ∈ M → .pledge p' ∈ M → p.outpoint = p'.outpoint → p = p') →
      (∀ campaign, .campaign campaign ∈ rt.objects a ↔ .campaign campaign ∈ rt.objects b) ∧
      ∀ pledge, .pledge pledge ∈ rt.objects a ↔ .pledge pledge ∈ rt.objects b) := by
  intro a b
  obtain ⟨ha, haend⟩ := hfirst.ended hM
  obtain ⟨hb, hbend⟩ := hsecond.ended hM
  have hids : ∀ x ∈ (M : Set Object), ∀ y ∈ (M : Set Object), links.key x = links.key y → x = y :=
    hM.ids
  rw [ha.objects_eq hM.hashes, hb.objects_eq hM.hashes]
  -- what one store has, the other has in the same slot, and itself where M has no rival for it
  refine ⟨fun solution_id => ?_, fun solution_id hone => ?_, fun campaign hca hcb txid vout => ?_,
    fun hcampaigns hpledges => ?_⟩
  · constructor
    · rintro ⟨campaign, hcampaign, rfl⟩
      exact haend.campaign_of_campaign hids hbend hcampaign
    · rintro ⟨campaign, hcampaign, rfl⟩
      exact hbend.campaign_of_campaign hids haend hcampaign
  · exact ha.get_campaign_for_solution_congr hids hb haend hbend hone
  · refine ⟨⟨?_, ?_⟩, fun hone p hp => ⟨?_, ?_⟩⟩
    · exact haend.outpoint_of_outpoint hids hbend hcb
    · exact hbend.outpoint_of_outpoint hids haend hca
    · exact haend.only_pledge_mem hids hbend hcb hone hp
    · exact hbend.only_pledge_mem hids haend hca hone hp
  · have hleft : ∀ campaign, .campaign campaign ∈ rt.stored (descriptions M) a →
        .campaign campaign ∈ rt.stored (descriptions M) b := fun campaign h =>
      haend.mem_of_campaign hids hbend h fun c hc hid => hcampaigns c campaign hc (haend.subset h) hid
    have hright : ∀ campaign, .campaign campaign ∈ rt.stored (descriptions M) b →
        .campaign campaign ∈ rt.stored (descriptions M) a := fun campaign h =>
      hbend.mem_of_campaign hids haend h fun c hc hid => hcampaigns c campaign hc (hbend.subset h) hid
    refine ⟨fun campaign => ⟨hleft campaign, hright campaign⟩, fun pledge => ⟨fun h => ?_, fun h => ?_⟩⟩
    · exact haend.pledges_subset hids hbend hleft hpledges h
    · exact hbend.pledges_subset hids haend hright hpledges h

/-! ## Two campaigns for one solution -/

/-- What the hash of `exampleSolution` is taken of. -/
def exampleSolutionJson : List UInt8 :=
  utf8 "\x7b\"created_at\":\"2024-01-01T00:00:00+00:00\"," ++
    utf8 "\"creator_id\":\"00000000-0000-0000-0000-000000000007\"," ++
    utf8 "\"description\":\"revised\",\"id\":\"00000000-0000-0000-0000-000000000005\"," ++
    utf8 "\"issue_id\":\"00000000-0000-0000-0000-000000000001\"," ++
    utf8 "\"title\":\"Use three hosts\"\x7d"

/-- `exampleRuntime`, with the hash of `exampleSolution` besides those of two short texts. -/
def campaignRuntime : Runtime :=
  { exampleRuntime with
    sha256 := fun bytes =>
      if bytes.length ≤ 7 then exampleRuntime.sha256 bytes
      else if bytes = exampleSolutionJson then
        [0xd1, 0x90, 0x2d, 0x89, 0x59, 0xb0, 0x81, 0xea, 0x4e, 0x7d, 0x7a, 0x4a, 0x79, 0x82, 0xeb, 0x0c,
          0xc0, 0x2c, 0x98, 0xed, 0xb4, 0x76, 0x65, 0x8a, 0x03, 0x60, 0x62, 0x8c, 0xbf, 0x61, 0x57, 0x58]
      else [] }

/-- A campaign for `exampleSolution` that asks for nothing. -/
theorem no_price_nonneg : (0 : ℤ) ≤ 0 := le_rfl

def exampleCampaign (id : UUID) : FundingCampaign where
  solution_id := 5
  solution_hash := "d1902d8959b081ea4e7d7a4a7982eb0cc02c98edb476658a0360628cbf615758"
  developer_payout_address := none
  asking_price_sats := 0
  deadline_height := none
  id := id
  created_at := exampleDate
  asking_price_nonneg := no_price_nonneg
  deadline_pos := fun _ hheight => absurd hheight (Option.not_mem_none _)
  terms := ⟨rfl, rfl⟩
  address_normalized := fun _ haddress => absurd haddress (Option.not_mem_none _)

/-- The issue, its solution, two campaigns for it. -/
def contested : Finset Object :=
  {.issue (exampleIssue 1 ""), .solution exampleSolution, .campaign (exampleCampaign 10),
    .campaign (exampleCampaign 11)}

/-- The issue and its solution arrive. -/
def solved : List (String × Object) :=
  [("2024-01-01T00:00:01+00:00", .issue (exampleIssue 1 "")),
    ("2024-01-01T00:00:02+00:00", .solution exampleSolution)]

/-- And then the campaigns, one after the other. -/
def campaignBefore (first second : UUID) : List (String × Object) :=
  solved ++ [("2024-01-01T00:00:03+00:00", .campaign (exampleCampaign first)),
    ("2024-01-01T00:00:04+00:00", .campaign (exampleCampaign second))]

/-- The repository with the issue, the solution and these campaigns. -/
def solvedStore (campaigns : List CampaignRow) : Tables where
  content_objects := [campaignRuntime.content_row "2024-01-01T00:00:01+00:00" "",
    campaignRuntime.content_row "2024-01-01T00:00:02+00:00" "revised"]
  issues := [campaignRuntime.issue_row (exampleIssue 1 "")]
  issue_votes := []
  solutions := [campaignRuntime.solution_row exampleSolution]
  solution_votes := []
  funding_campaigns := campaigns
  funding_pledges := []

theorem storeAll_solved : campaignRuntime.storeAll Tables.empty solved = solvedStore [] := by
  decide +kernel

theorem storeAll_first : campaignRuntime.storeAll Tables.empty (campaignBefore 10 11) =
    solvedStore [campaign_row (exampleCampaign 10)] := by
  decide +kernel

theorem storeAll_second : campaignRuntime.storeAll Tables.empty (campaignBefore 11 10) =
    solvedStore [campaign_row (exampleCampaign 11)] := by
  decide +kernel

theorem exampleSolution_hash : exampleSolution.compute_hash campaignRuntime.sha256 =
    .ok "d1902d8959b081ea4e7d7a4a7982eb0cc02c98edb476658a0360628cbf615758" := by
  have hjson : utf8 (jsonObject [("created_at", "2024-01-01T00:00:00+00:00"),
      ("creator_id", UUID.str 7), ("description", "revised"), ("id", UUID.str 5),
      ("issue_id", UUID.str 1), ("title", "Use three hosts")]) = exampleSolutionJson := by
    simp only [jsonObject, List.map_cons, List.map_nil, String.intercalate_cons_cons,
      String.intercalate_singleton, utf8_append]
    decide +kernel
  have hlong : ¬ exampleSolutionJson.length ≤ 7 := by decide +kernel
  have hencoded : exampleSolution.compute_hash campaignRuntime.sha256 =
      .ok (hex (campaignRuntime.sha256 (utf8 (jsonObject [("created_at", "2024-01-01T00:00:00+00:00"),
        ("creator_id", UUID.str 7), ("description", "revised"), ("id", UUID.str 5),
        ("issue_id", UUID.str 1), ("title", "Use three hosts")])))) := by
    rfl
  rw [hencoded, hjson, campaignRuntime]
  dsimp only
  rw [if_neg hlong, if_pos rfl]
  decide +kernel

/-- The campaign that `create_campaign` makes for the solution. -/
theorem create_campaign_example (get_block_count : Except PyError ℤ) (id : UUID) :
    campaignRuntime.create_campaign get_block_count id exampleDate exampleSolution none 0 none
      (solvedStore []) =
        (.ok (exampleCampaign id), solvedStore [campaign_row (exampleCampaign id)]) := by
  have hprice : (0 : ℤ) < 2 ^ 63 := by norm_num
  have hinsert : (solvedStore []).insert_campaign (campaign_row (exampleCampaign id)) =
      .ok ((), solvedStore [campaign_row (exampleCampaign id)]) :=
    Tables.insert_campaign_of_new hprice (fun _ hheight => absurd hheight (Option.not_mem_none _))
      List.not_mem_nil List.not_mem_nil (List.mem_singleton_self _)
  have hadd : add_campaign (exampleCampaign id) (solvedStore []) =
      (.ok (), solvedStore [campaign_row (exampleCampaign id)]) :=
    transaction_exec_ok _ _ hinsert
  have hnew : FundingCampaign.new exampleSolution.id
      "d1902d8959b081ea4e7d7a4a7982eb0cc02c98edb476658a0360628cbf615758"
      (normalize_payout_address none) 0 none id exampleDate = .ok (exampleCampaign id) := by
    rfl
  have hdeadline : campaign_deadline get_block_count (normalize_payout_address none) 0 none =
      .ok none := by
    rfl
  simp only [Runtime.create_campaign, hdeadline, exampleSolution_hash, ok_bind, hnew, hadd]

theorem contested_models : campaignRuntime.Models contested where
  created_at := by
    intro o ho
    have hdate : o.created_at = exampleDate := by
      simp only [contested, Finset.mem_insert, Finset.mem_singleton] at ho
      rcases ho with rfl | rfl | rfl | rfl <;> rfl
    rw [hdate]
    refine ⟨by decide +kernel, by decide +kernel, fun stored => ?_⟩
    simp [exampleDate]
  fits := by
    intro o ho
    simp only [contested, Finset.mem_insert, Finset.mem_singleton] at ho
    rcases ho with rfl | rfl | rfl | rfl
    · trivial
    · trivial
    · exact ⟨by decide, by decide⟩
    · exact ⟨by decide, by decide⟩
  ids := by decide +kernel
  hashes := by
    have hne : campaignRuntime.text_hash "" ≠ campaignRuntime.text_hash "revised" := by
      decide +kernel
    have htexts : descriptions contested ⊆ {"", "revised"} := by
      rintro text ⟨o, ho, htext⟩
      simp only [contested, Finset.mem_insert, Finset.mem_singleton] at ho
      rcases ho with rfl | rfl | rfl | rfl <;> cases htext
      · exact .inl rfl
      · exact .inr rfl
    refine Set.InjOn.mono htexts ?_
    rintro a (rfl | rfl) b (rfl | rfl) hab
    · rfl
    · exact absurd hab hne
    · exact absurd hab.symm hne
    · rfl

/-- The solution is taken for both campaigns. -/
theorem solvedStore_taken (id kept : UUID) :
    ∃ s, (campaignRuntime.row (.campaign (exampleCampaign id))).slot = some s ∧
      (solvedStore [campaign_row (exampleCampaign kept)]).TakenSlot s := by
  have hsolution : (5 : UUID).str ∈ (solvedStore
      [campaign_row (exampleCampaign kept)]).funding_campaigns.map CampaignRow.solution_id :=
    List.mem_singleton_self _
  exact ⟨_, rfl, hsolution⟩

theorem firstCampaign_settles : campaignRuntime.Settles contested (campaignBefore 10 11) := by
  refine .of_taken contested_models (by decide +kernel) fun o ho => ?_
  rw [storeAll_first]
  simp only [contested, Finset.mem_insert, Finset.mem_singleton] at ho
  rcases ho with rfl | rfl | rfl | rfl
  · exact .inl (List.mem_singleton_self _)
  · exact .inl (List.mem_singleton_self _)
  · exact .inr (solvedStore_taken _ _)
  · exact .inr (solvedStore_taken _ _)

theorem secondCampaign_settles : campaignRuntime.Settles contested (campaignBefore 11 10) := by
  refine .of_taken contested_models (by decide +kernel) fun o ho => ?_
  rw [storeAll_second]
  simp only [contested, Finset.mem_insert, Finset.mem_singleton] at ho
  rcases ho with rfl | rfl | rfl | rfl
  · exact .inl (List.mem_singleton_self _)
  · exact .inl (List.mem_singleton_self _)
  · exact .inr (solvedStore_taken _ _)
  · exact .inr (solvedStore_taken _ _)

/-- Two peers create a campaign for one solution. Of the peers that hear of both, each keeps the
one it hears of first. -/
theorem concurrent_campaigns_differ :
    (campaignRuntime.create_campaign (.ok 100) 10 exampleDate exampleSolution none 0 none
      (campaignRuntime.storeAll Tables.empty solved)).1 = .ok (exampleCampaign 10) ∧
    (campaignRuntime.create_campaign (.ok 100) 11 exampleDate exampleSolution none 0 none
      (campaignRuntime.storeAll Tables.empty solved)).1 = .ok (exampleCampaign 11) ∧
    campaignRuntime.Models contested ∧
    campaignRuntime.Settles contested (campaignBefore 10 11) ∧
    campaignRuntime.Settles contested (campaignBefore 11 10) ∧
    campaignRuntime.get_campaign_for_solution 5
      (campaignRuntime.storeAll Tables.empty (campaignBefore 10 11)) ≠
    campaignRuntime.get_campaign_for_solution 5
      (campaignRuntime.storeAll Tables.empty (campaignBefore 11 10)) := by
  rw [storeAll_solved, storeAll_first, storeAll_second]
  refine ⟨?_, ?_, contested_models, firstCampaign_settles, secondCampaign_settles, ?_⟩
  · rw [create_campaign_example]
  · rw [create_campaign_example]
  · decide +kernel

/-- Both of their stores have a campaign for the solution. -/
theorem funding_converges_contested :
    ∃ campaign, .campaign campaign ∈ campaignRuntime.objects
      (campaignRuntime.storeAll Tables.empty (campaignBefore 11 10)) ∧ campaign.solution_id = 5 := by
  obtain ⟨hsolutions, -⟩ := funding_converges campaignRuntime contested contested_models
    (campaignBefore 10 11) (campaignBefore 11 10) firstCampaign_settles secondCampaign_settles
  refine (hsolutions 5).mp ⟨exampleCampaign 10, ?_, rfl⟩
  rw [storeAll_first]
  exact ⟨[.campaign (exampleCampaign 10)], by decide +kernel, List.mem_singleton_self _⟩

end Superorganism.Democracy
