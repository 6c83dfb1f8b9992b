/-
The six object messages of `democracy/network/messages`: what `from_model` writes and what
`to_model` makes of it.

A message holds texts and integers. UUIDs travel as `str` writes them and dates as
`isoformat` writes them; a campaign without payout address or deadline travels with an empty
text and a height of 0. Reading a message may raise at every field, in the order in which
the fields are read.

`Object` is a model of any of the six types, and `Message` a message of any of the six
classes.
-/
import Superorganism.Democracy
import Superorganism.Gossip

set_option autoImplicit false

open Superorganism.Py Superorganism.Funding Superorganism.Gossip

namespace Superorganism.Democracy

/-! ## Messages -/

structure IssueMessage where
  title : String
  creator_id : String
  description : String
  id : String
  created_at : String
deriving DecidableEq, Repr

structure IssueVoteMessage where
  voter_id : String
  issue_id : String
  id : String
  created_at : String
deriving DecidableEq, Repr

structure SolutionMessage where
  title : String
  description : String
  creator_id : String
  issue_id : String
  id : String
  created_at : String
deriving DecidableEq, Repr

structure SolutionVoteMessage where
  voter_id : String
  solution_id : String
  id : String
  created_at : String
deriving DecidableEq, Repr

structure FundingCampaignMessage where
  id : String
  solution_id : String
  solution_hash : String
  developer_payout_address : String
  asking_price_sats : ℤ
  deadline_height : ℤ
  created_at : String
deriving DecidableEq, Repr

structure FundingPledgeMessage where
  id : String
  campaign_id : String
  pledger_id : String
  txid : String
  vout : ℤ
  value_sats : ℤ
  signed_pledge_psbt : String
  created_at : String
deriving DecidableEq, Repr

/-! ## From models -/

def IssueMessage.from_model (issue : Issue) : Except PyError IssueMessage := do
  let created_at ← isoformat issue.created_at
  pure ⟨issue.title, issue.creator_id.str, issue.description, issue.id.str, created_at⟩

def IssueVoteMessage.from_model (vote : IssueVote) : Except PyError IssueVoteMessage := do
  let created_at ← isoformat vote.created_at
  pure ⟨vote.voter_id.str, vote.issue_id.str, vote.id.str, created_at⟩

def SolutionMessage.from_model (solution : Solution) : Except PyError SolutionMessage := do
  let created_at ← isoformat solution.created_at
  pure ⟨solution.title, solution.description, solution.creator_id.str, solution.issue_id.str,
    solution.id.str, created_at⟩

def SolutionVoteMessage.from_model (vote : SolutionVote) : Except PyError SolutionVoteMessage := do
  let created_at ← isoformat vote.created_at
  pure ⟨vote.voter_id.str, vote.solution_id.str, vote.id.str, created_at⟩

/-- `address or ""` and `height or 0` stand for what is missing. -/
def FundingCampaignMessage.from_model (campaign : FundingCampaign) :
    Except PyError FundingCampaignMessage := do
  let created_at ← isoformat campaign.created_at
  pure ⟨campaign.id.str, campaign.solution_id.str, campaign.solution_hash,
    campaign.developer_payout_address.getD "", campaign.asking_price_sats,
    campaign.deadline_height.getD 0, created_at⟩

def FundingPledgeMessage.from_model (pledge : FundingPledge) : Except PyError FundingPledgeMessage := do
  let created_at ← isoformat pledge.created_at
  pure ⟨pledge.id.str, pledge.campaign_id.str, pledge.pledger_id.str, pledge.txid, pledge.vout,
    pledge.value_sats, pledge.signed_pledge_psbt, created_at⟩

/-! ## To models -/

variable (rt : Runtime)

def IssueMessage.to_model (message : IssueMessage) : Except PyError Issue := do
  let creator_id ← rt.parse_uuid message.creator_id
  let id ← rt.parse_uuid message.id
  let created_at ← rt.parse_datetime message.created_at
  pure ⟨message.title, creator_id, message.description, id, created_at⟩

def IssueVoteMessage.to_model (message : IssueVoteMessage) : Except PyError IssueVote := do
  let voter_id ← rt.parse_uuid message.voter_id
  let issue_id ← rt.parse_uuid message.issue_id
  let id ← rt.parse_uuid message.id
  let created_at ← rt.parse_datetime message.created_at
  pure ⟨voter_id, issue_id, id, created_at⟩

def SolutionMessage.to_model (message : SolutionMessage) : Except PyError Solution := do
  let creator_id ← rt.parse_uuid message.creator_id
  let issue_id ← rt.parse_uuid message.issue_id
  let id ← rt.parse_uuid message.id
  let created_at ← rt.parse_datetime message.created_at
  pure ⟨message.title, message.description, creator_id, issue_id, id, created_at⟩

def SolutionVoteMessage.to_model (message : SolutionVoteMessage) : Except PyError SolutionVote := do
  let voter_id ← rt.parse_uuid message.voter_id
  let solution_id ← rt.parse_uuid message.solution_id
  let id ← rt.parse_uuid message.id
  let created_at ← rt.parse_datetime message.created_at
  pure ⟨voter_id, solution_id, id, created_at⟩

def FundingCampaignMessage.to_model (message : FundingCampaignMessage) :
    Except PyError FundingCampaign := do
  let payout_address :=
    if message.developer_payout_address = "" then none else some message.developer_payout_address
  let deadline_height := if message.deadline_height = 0 then none else some message.deadline_height
  let id ← rt.parse_uuid message.id
  let solution_id ← rt.parse_uuid message.solution_id
  let created_at ← rt.parse_datetime message.created_at
  FundingCampaign.new solution_id message.solution_hash payout_address message.asking_price_sats
    deadline_height id created_at

def FundingPledgeMessage.to_model (message : FundingPledgeMessage) : Except PyError FundingPledge := do
  let id ← rt.parse_uuid message.id
  let campaign_id ← rt.parse_uuid message.campaign_id
  let pledger_id ← rt.parse_uuid message.pledger_id
  let created_at ← rt.parse_datetime message.created_at
  FundingPledge.new campaign_id pledger_id message.txid message.vout message.value_sats
    message.signed_pledge_psbt id created_at

/-! ## Any of the six -/

inductive Object where
  | issue (issue : Issue)
  | issue_vote (vote : IssueVote)
  | solution (solution : Solution)
  | solution_vote (vote : SolutionVote)
  | campaign (campaign : FundingCampaign)
  | pledge (pledge : FundingPledge)
deriving DecidableEq

inductive Message where
  | issue (message : IssueMessage)
  | issue_vote (message : IssueVoteMessage)
  | solution (message : SolutionMessage)
  | solution_vote (message : SolutionVoteMessage)
  | campaign (message : FundingCampaignMessage)
  | pledge (message : FundingPledgeMessage)
deriving DecidableEq

namespace Object

def object_type : Object → ObjectType
  | .issue _ => .ISSUE
  | .issue_vote _ => .ISSUE_VOTE
  | .solution _ => .SOLUTION
  | .solution_vote _ => .SOLUTION_VOTE
  | .campaign _ => .FUNDING_CAMPAIGN
  | .pledge _ => .FUNDING_PLEDGE

def id : Object → UUID
  | .issue i => i.id
  | .issue_vote v => v.id
  | .solution s => s.id
  | .solution_vote v => v.id
  | .campaign c => c.id
  | .pledge p => p.id

def created_at : Object → CreatedAt
  | .issue i => i.created_at
  | .issue_vote v => v.created_at
  | .solution s => s.created_at
  | .solution_vote v => v.created_at
  | .campaign c => c.created_at
  | .pledge p => p.created_at

/-- `handler.build_item(model)`. -/
def item (object : Object) : GossipItem := ⟨object.object_type, object.id⟩

/-- `handler.build_message(model)`. -/
def build_message : Object → Except PyError Message
  | .issue i => (IssueMessage.from_model i).map .issue
  | .issue_vote v => (IssueVoteMessage.from_model v).map .issue_vote
  | .solution s => (SolutionMessage.from_model s).map .solution
  | .solution_vote v => (SolutionVoteMessage.from_model v).map .solution_vote
  | .campaign c => (FundingCampaignMessage.from_model c).map .campaign
  | .pledge p => (FundingPledgeMessage.from_model p).map .pledge

end Object

/-- `payload.to_model()`. -/
def Message.to_model : Message → Except PyError Object
  | .issue message => (message.to_model rt).map .issue
  | .issue_vote message => (message.to_model rt).map .issue_vote
  | .solution message => (message.to_model rt).map .solution
  | .solution_vote message => (message.to_model rt).map .solution_vote
  | .campaign message => (message.to_model rt).map .campaign
  | .pledge message => (message.to_model rt).map .pledge

/-! ## A message is read as the model it was written from -/

variable {rt}

/-- What stands for a missing address and a missing deadline is read as missing. -/
theorem campaign_sentinels (campaign : FundingCampaign) :
    (if campaign.developer_payout_address.getD "" = "" then none
      else some (campaign.developer_payout_address.getD "")) = campaign.developer_payout_address ∧
    (if campaign.deadline_height.getD 0 = 0 then none
      else some (campaign.deadline_height.getD 0)) = campaign.deadline_height := by
  constructor
  · cases haddress : campaign.developer_payout_address with
    | none => rfl
    | some address =>
        have hne := (campaign.address_normalized address haddress).2
        rw [Option.getD_some, if_neg hne]
  · cases hheight : campaign.deadline_height with
    | none => rfl
    | some height =>
        have hpos := campaign.deadline_pos height hheight
        rw [Option.getD_some, if_neg (by omega)]

/-- **`from_model` and `to_model` are inverse**, on a model whose date is a datetime. -/
theorem Object.to_model_build_message (object : Object) (h : rt.IsDatetime object.created_at) :
    ∃ message, object.build_message = .ok message ∧ message.to_model rt = .ok object := by
  have hiso := h.isoformat_eq
  have hparse := h.parse_eq
  cases object with
  | issue issue =>
      refine ⟨.issue ⟨issue.title, issue.creator_id.str, issue.description, issue.id.str,
        issue.created_at.stored⟩, ?_, ?_⟩
      · simp only [Object.created_at] at hiso
        rw [Object.build_message, IssueMessage.from_model, hiso]
        rfl
      · simp only [Object.created_at] at hparse
        simp only [Message.to_model, IssueMessage.to_model, Runtime.parse_uuid_str, hparse, ok_bind]
        rfl
  | issue_vote vote =>
      refine ⟨.issue_vote ⟨vote.voter_id.str, vote.issue_id.str, vote.id.str,
        vote.created_at.stored⟩, ?_, ?_⟩
      · simp only [Object.created_at] at hiso
        rw [Object.build_message, IssueVoteMessage.from_model, hiso]
        rfl
      · simp only [Object.created_at] at hparse
        simp only [Message.to_model, IssueVoteMessage.to_model, Runtime.parse_uuid_str, hparse,
          ok_bind]
        rfl
  | solution solution =>
      refine ⟨.solution ⟨solution.title, solution.description, solution.creator_id.str,
        solution.issue_id.str, solution.id.str, solution.created_at.stored⟩, ?_, ?_⟩
      · simp only [Object.created_at] at hiso
        rw [Object.build_message, SolutionMessage.from_model, hiso]
        rfl
      · simp only [Object.created_at] at hparse
        simp only [Message.to_model, SolutionMessage.to_model, Runtime.parse_uuid_str, hparse,
          ok_bind]
        rfl
  | solution_vote vote =>
      refine ⟨.solution_vote ⟨vote.voter_id.str, vote.solution_id.str, vote.id.str,
        vote.created_at.stored⟩, ?_, ?_⟩
      · simp only [Object.created_at] at hiso
        rw [Object.build_message, SolutionVoteMessage.from_model, hiso]
        rfl
      · simp only [Object.created_at] at hparse
        simp only [Message.to_model, SolutionVoteMessage.to_model, Runtime.parse_uuid_str, hparse,
          ok_bind]
        rfl
  | campaign campaign =>
      -- the address and the deadline that are absent travel as the sentinels "" and 0, which no
      -- campaign has as values, so that `to_model` reads them as absent again
      refine ⟨.campaign ⟨campaign.id.str, campaign.solution_id.str, campaign.solution_hash,
        campaign.developer_payout_address.getD "", campaign.asking_price_sats,
        campaign.deadline_height.getD 0, campaign.created_at.stored⟩, ?_, ?_⟩
      · simp only [Object.created_at] at hiso
        rw [Object.build_message, FundingCampaignMessage.from_model, hiso]
        rfl
      · simp only [Object.created_at] at hparse
        simp only [Message.to_model, FundingCampaignMessage.to_model, Runtime.parse_uuid_str, hparse,
          ok_bind, (campaign_sentinels campaign).1, (campaign_sentinels campaign).2, campaign.new_fields]
        rfl
  | pledge pledge =>
      refine ⟨.pledge ⟨pledge.id.str, pledge.campaign_id.str, pledge.pledger_id.str, pledge.txid,
        pledge.vout, pledge.value_sats, pledge.signed_pledge_psbt, pledge.created_at.stored⟩, ?_, ?_⟩
      · simp only [Object.created_at] at hiso
        rw [Object.build_message, FundingPledgeMessage.from_model, hiso]
        rfl
      · simp only [Object.created_at] at hparse
        simp only [Message.to_model, FundingPledgeMessage.to_model, Runtime.parse_uuid_str, hparse,
          ok_bind, pledge.new_fields]
        rfl

end Superorganism.Democracy
