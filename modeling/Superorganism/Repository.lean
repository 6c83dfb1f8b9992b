/-
`democracy/storage/sqlite_repository.py`: the tables, the statements that write them, and
the operations built from these.

A row holds what is bound to the statement: ids as text, dates as text, descriptions by
their hash. SQLite's part is what `_create_schema` declares. An INSERT or UPDATE that breaks
a constraint fails with the message SQLite gives, UNIQUE clauses before the primary key and
references last; an integer that does not fit in 64 bits is refused before the statement
runs; deleting a row deletes what refers to it.

`ORDER BY` is a stable sort of the rows in insertion order, and a join is the list of
matching pairs.
-/
import Mathlib.Data.List.Infix
import Superorganism.Democracy
import Superorganism.Sql

set_option autoImplicit false

open Superorganism.Bytes Superorganism.Py Superorganism.Funding

namespace Superorganism.Democracy

/-! ## Rows -/

structure ContentRow where
  hash : String
  content_type : String
  size_bytes : ℕ
  text_content : String
  created_at : String
deriving DecidableEq, Repr

structure IssueRow where
  id : String
  title : String
  creator_id : String
  description_hash : String
  created_at : String
deriving DecidableEq, Repr

/-- A row of `issue_votes` or `solution_votes`; `target_id` is its `issue_id` or its
`solution_id`. -/
structure VoteRow where
  id : String
  target_id : String
  voter_id : String
  created_at : String
deriving DecidableEq, Repr

/-- The columns of `UNIQUE (issue_id, voter_id)` or `UNIQUE (solution_id, voter_id)`. -/
def VoteRow.pair (row : VoteRow) : String × String := (row.target_id, row.voter_id)

structure SolutionRow where
  id : String
  issue_id : String
  title : String
  creator_id : String
  description_hash : String
  created_at : String
deriving DecidableEq, Repr

structure CampaignRow where
  id : String
  solution_id : String
  solution_hash : String
  developer_payout_address : Option String
  asking_price_sats : ℤ
  deadline_height : Option ℤ
  created_at : String
deriving DecidableEq, Repr

structure PledgeRow where
  id : String
  campaign_id : String
  pledger_id : String
  txid : String
  vout : ℤ
  value_sats : ℤ
  signed_pledge_psbt : String
  created_at : String
deriving DecidableEq, Repr

/-- The columns of `UNIQUE(campaign_id, txid, vout)`. -/
def PledgeRow.outpoint (row : PledgeRow) : String × String × ℤ :=
  (row.campaign_id, row.txid, row.vout)

structure Tables where
  content_objects : List ContentRow
  issues : List IssueRow
  issue_votes : List VoteRow
  solutions : List SolutionRow
  solution_votes : List VoteRow
  funding_campaigns : List CampaignRow
  funding_pledges : List PledgeRow
deriving DecidableEq, Repr

/-- The tables `_create_schema` makes. -/
def Tables.empty : Tables := ⟨[], [], [], [], [], [], []⟩

/-! ## Statements -/

def uniqueFailed (columns : String) : PyError :=
  .IntegrityError ("UNIQUE constraint failed: " ++ columns)

def foreignKeyFailed : PyError := .IntegrityError "FOREIGN KEY constraint failed"

def intTooLarge : PyError := .OverflowError "Python int too large to convert to SQLite INTEGER"

namespace Tables

variable (t : Tables)

/-- `INSERT OR IGNORE INTO content_objects`. -/
def insert_content (row : ContentRow) : Tables :=
  if row.hash ∈ t.content_objects.map ContentRow.hash then t
  else { t with content_objects := t.content_objects ++ [row] }

def insert_issue (row : IssueRow) : Except PyError (Unit × Tables) :=
  if row.id ∈ t.issues.map IssueRow.id then throw (uniqueFailed "issues.id")
  else if row.description_hash ∈ t.content_objects.map ContentRow.hash then
    pure ((), { t with issues := t.issues ++ [row] })
  else throw foreignKeyFailed

/-- The new votes of a table whose rows refer to `parents`. -/
def insert_vote (table target : String) (parents : List String) (votes : List VoteRow)
    (row : VoteRow) : Except PyError (List VoteRow) :=
  if row.pair ∈ votes.map VoteRow.pair then
    throw (uniqueFailed (table ++ "." ++ target ++ ", " ++ table ++ ".voter_id"))
  else if row.id ∈ votes.map VoteRow.id then throw (uniqueFailed (table ++ ".id"))
  else if row.target_id ∈ parents then pure (votes ++ [row])
  else throw foreignKeyFailed

def insert_issue_vote (row : VoteRow) : Except PyError (Unit × Tables) := do
  let issue_votes ←
    insert_vote "issue_votes" "issue_id" (t.issues.map IssueRow.id) t.issue_votes row
  pure ((), { t with issue_votes := issue_votes })

def insert_solution (row : SolutionRow) : Except PyError (Unit × Tables) :=
  if row.id ∈ t.solutions.map SolutionRow.id then throw (uniqueFailed "solutions.id")
  else if row.issue_id ∈ t.issues.map IssueRow.id ∧
      row.description_hash ∈ t.content_objects.map ContentRow.hash then
    pure ((), { t with solutions := t.solutions ++ [row] })
  else throw foreignKeyFailed

def insert_solution_vote (row : VoteRow) : Except PyError (Unit × Tables) := do
  let solution_votes ←
    insert_vote "solution_votes" "solution_id" (t.solutions.map SolutionRow.id) t.solution_votes row
  pure ((), { t with solution_votes := solution_votes })

def insert_campaign (row : CampaignRow) : Except PyError (Unit × Tables) :=
  if row.asking_price_sats ≥ 2 ^ 63 ∨ ∃ height ∈ row.deadline_height, height ≥ 2 ^ 63 then
    throw intTooLarge
  else if row.solution_id ∈ t.funding_campaigns.map CampaignRow.solution_id then
    throw (uniqueFailed "funding_campaigns.solution_id")
  else if row.id ∈ t.funding_campaigns.map CampaignRow.id then
    throw (uniqueFailed "funding_campaigns.id")
  else if row.solution_id ∈ t.solutions.map SolutionRow.id then
    pure ((), { t with funding_campaigns := t.funding_campaigns ++ [row] })
  else throw foreignKeyFailed

def insert_pledge (row : PledgeRow) : Except PyError (Unit × Tables) :=
  if row.vout ≥ 2 ^ 63 ∨ row.value_sats ≥ 2 ^ 63 then throw intTooLarge
  else if row.outpoint ∈ t.funding_pledges.map PledgeRow.outpoint then
    throw (uniqueFailed ("funding_pledges.campaign_id, funding_pledges.txid, " ++
      "funding_pledges.vout"))
  else if row.id ∈ t.funding_pledges.map PledgeRow.id then
    throw (uniqueFailed "funding_pledges.id")
  else if row.campaign_id ∈ t.funding_campaigns.map CampaignRow.id then
    pure ((), { t with funding_pledges := t.funding_pledges ++ [row] })
  else throw foreignKeyFailed

/-- `UPDATE issues ... WHERE id = old`, with the number of rows it changes. A row that others
refer to keeps its id. -/
def update_issue (old : String) (row : IssueRow) : Except PyError (ℕ × Tables) :=
  if old ∈ t.issues.map IssueRow.id then
    if row.id ≠ old ∧ row.id ∈ t.issues.map IssueRow.id then throw (uniqueFailed "issues.id")
    else if row.description_hash ∉ t.content_objects.map ContentRow.hash ∨
        (row.id ≠ old ∧ (old ∈ t.issue_votes.map VoteRow.target_id ∨
          old ∈ t.solutions.map SolutionRow.issue_id)) then
      throw foreignKeyFailed
    else pure (1, { t with issues := Sql.replaceRow IssueRow.id old row t.issues })
  else pure (0, t)

def update_solution (old : String) (row : SolutionRow) : Except PyError (ℕ × Tables) :=
  if old ∈ t.solutions.map SolutionRow.id then
    if row.id ≠ old ∧ row.id ∈ t.solutions.map SolutionRow.id then
      throw (uniqueFailed "solutions.id")
    else if row.issue_id ∉ t.issues.map IssueRow.id ∨
        row.description_hash ∉ t.content_objects.map ContentRow.hash ∨
        (row.id ≠ old ∧ (old ∈ t.solution_votes.map VoteRow.target_id ∨
          old ∈ t.funding_campaigns.map CampaignRow.solution_id)) then
      throw foreignKeyFailed
    else pure (1, { t with solutions := Sql.replaceRow SolutionRow.id old row t.solutions })
  else pure (0, t)

/-- The ids of the solutions that are deleted with those that satisfy `gone`, and of their
campaigns. -/
def goneSolutions (gone : SolutionRow → Bool) : List String :=
  (t.solutions.filter gone).map SolutionRow.id

def goneCampaigns (gone : SolutionRow → Bool) : List String :=
  (t.funding_campaigns.filter fun row => decide (row.solution_id ∈ t.goneSolutions gone)).map
    CampaignRow.id

/-- Deleting solutions, and by ON DELETE CASCADE their votes, campaigns and pledges. -/
def delete_solutions (gone : SolutionRow → Bool) : Tables :=
  { t with
    solutions := t.solutions.filter fun row => !gone row
    solution_votes := t.solution_votes.filter fun row => decide (row.target_id ∉ t.goneSolutions gone)
    funding_campaigns := t.funding_campaigns.filter fun row =>
      decide (row.solution_id ∉ t.goneSolutions gone)
    funding_pledges := t.funding_pledges.filter fun row =>
      decide (row.campaign_id ∉ t.goneCampaigns gone) }

def delete_issue_row (id : String) : ℕ × Tables :=
  ((t.issues.filter fun row => row.id = id).length,
    { t.delete_solutions (fun row => row.issue_id = id) with
      issues := t.issues.filter fun row => row.id ≠ id
      issue_votes := t.issue_votes.filter fun row => row.target_id ≠ id })

def delete_solution_row (id : String) : ℕ × Tables :=
  ((t.solutions.filter fun row => row.id = id).length,
    t.delete_solutions fun row => row.id = id)

end Tables

/-! ## Models as rows -/

variable (rt : Runtime)

def Runtime.compute_content_hash (content_bytes : List UInt8) : String :=
  "sha256:" ++ hex (rt.sha256 content_bytes)

/-- The hash a description is stored under. -/
def Runtime.text_hash (text : String) : String := rt.compute_content_hash (utf8 text)

def Runtime.content_row (now text : String) : ContentRow where
  hash := rt.text_hash text
  content_type := "text/plain; charset=utf-8"
  size_bytes := (utf8 text).length
  text_content := text
  created_at := now

def Runtime.issue_row (issue : Issue) : IssueRow where
  id := issue.id.str
  title := issue.title
  creator_id := issue.creator_id.str
  description_hash := rt.text_hash issue.description
  created_at := issue.created_at.stored

def issue_vote_row (vote : IssueVote) : VoteRow where
  id := vote.id.str
  target_id := vote.issue_id.str
  voter_id := vote.voter_id.str
  created_at := vote.created_at.stored

def Runtime.solution_row (solution : Solution) : SolutionRow where
  id := solution.id.str
  issue_id := solution.issue_id.str
  title := solution.title
  creator_id := solution.creator_id.str
  description_hash := rt.text_hash solution.description
  created_at := solution.created_at.stored

def solution_vote_row (vote : SolutionVote) : VoteRow where
  id := vote.id.str
  target_id := vote.solution_id.str
  voter_id := vote.voter_id.str
  created_at := vote.created_at.stored

def campaign_row (campaign : FundingCampaign) : CampaignRow where
  id := campaign.id.str
  solution_id := campaign.solution_id.str
  solution_hash := campaign.solution_hash
  developer_payout_address := campaign.developer_payout_address
  asking_price_sats := campaign.asking_price_sats
  deadline_height := campaign.deadline_height
  created_at := campaign.created_at.stored

def pledge_row (pledge : FundingPledge) : PledgeRow where
  id := pledge.id.str
  campaign_id := pledge.campaign_id.str
  pledger_id := pledge.pledger_id.str
  txid := pledge.txid
  vout := pledge.vout
  value_sats := pledge.value_sats
  signed_pledge_psbt := pledge.signed_pledge_psbt
  created_at := pledge.created_at.stored

/-! ## Writing

An operation answers with an exception or a value, and with the tables it leaves; `now` is
the text `_utc_now` gives in it. -/

inductive VoteRecordResult where
  | CREATED
  | ALREADY_VOTED
deriving DecidableEq, Repr

namespace Runtime

def store_text_content (now text : String) (t : Tables) : Tables :=
  t.insert_content (rt.content_row now text)

def add_issue (now : String) (issue : Issue) : Tables → Except PyError Unit × Tables :=
  Sql.transaction fun t =>
    Sql.exec (fun t => t.insert_issue (rt.issue_row issue))
      (rt.store_text_content now issue.description t)

def add_solution (now : String) (solution : Solution) : Tables → Except PyError Unit × Tables :=
  Sql.transaction fun t =>
    Sql.exec (fun t => t.insert_solution (rt.solution_row solution))
      (rt.store_text_content now solution.description t)

def replace_issue (now : String) (issue_id : UUID) (issue : Issue) (t : Tables) :
    Except PyError Bool × Tables :=
  let cursor := Sql.transaction (fun t =>
    Sql.exec (fun t => t.update_issue issue_id.str (rt.issue_row issue))
      (rt.store_text_content now issue.description t)) t
  (cursor.1.map fun rowcount => decide (rowcount > 0), cursor.2)

def replace_solution (now : String) (solution_id : UUID) (solution : Solution) (t : Tables) :
    Except PyError Bool × Tables :=
  let cursor := Sql.transaction (fun t =>
    Sql.exec (fun t => t.update_solution solution_id.str (rt.solution_row solution))
      (rt.store_text_content now solution.description t)) t
  (cursor.1.map fun rowcount => decide (rowcount > 0), cursor.2)

end Runtime

def add_issue_vote (vote : IssueVote) : Tables → Except PyError Unit × Tables :=
  Sql.transaction fun t => Sql.exec (fun t => t.insert_issue_vote (issue_vote_row vote)) t

def add_solution_vote (vote : SolutionVote) : Tables → Except PyError Unit × Tables :=
  Sql.transaction fun t => Sql.exec (fun t => t.insert_solution_vote (solution_vote_row vote)) t

def add_campaign (campaign : FundingCampaign) : Tables → Except PyError Unit × Tables :=
  Sql.transaction fun t => Sql.exec (fun t => t.insert_campaign (campaign_row campaign)) t

def add_pledge (pledge : FundingPledge) : Tables → Except PyError Unit × Tables :=
  Sql.transaction fun t => Sql.exec (fun t => t.insert_pledge (pledge_row pledge)) t

def delete_issue (issue_id : UUID) (t : Tables) : Except PyError Bool × Tables :=
  let cursor := Sql.transaction
    (Sql.exec fun t => (.ok (t.delete_issue_row issue_id.str) : Except PyError _)) t
  (cursor.1.map fun rowcount => decide (rowcount > 0), cursor.2)

def delete_solution (solution_id : UUID) (t : Tables) : Except PyError Bool × Tables :=
  let cursor := Sql.transaction
    (Sql.exec fun t => (.ok (t.delete_solution_row solution_id.str) : Except PyError _)) t
  (cursor.1.map fun rowcount => decide (rowcount > 0), cursor.2)

/-- The message tells of a vote that is there already: the two columns are named. -/
def is_duplicate_vote_error (table target : String) (error : PyError) : Bool :=
  contains error.str "UNIQUE constraint failed" && contains error.str (table ++ "." ++ target) &&
    contains error.str (table ++ ".voter_id")

def is_duplicate_issue_vote_error : PyError → Bool :=
  is_duplicate_vote_error "issue_votes" "issue_id"

def is_duplicate_solution_vote_error : PyError → Bool :=
  is_duplicate_vote_error "solution_votes" "solution_id"

/-- `record_issue_vote` and `record_solution_vote`, from what the plain add answered. -/
def record_vote (is_duplicate : PyError → Bool) (added : Except PyError Unit × Tables) :
    Except PyError VoteRecordResult × Tables :=
  match added with
  | (.ok (), t) => (.ok .CREATED, t)
  | (.error exc, t) =>
    if exc.isIntegrityError && is_duplicate exc then (.ok .ALREADY_VOTED, t) else (.error exc, t)

def record_issue_vote (vote : IssueVote) (t : Tables) : Except PyError VoteRecordResult × Tables :=
  record_vote is_duplicate_issue_vote_error (add_issue_vote vote t)

def record_solution_vote (vote : SolutionVote) (t : Tables) :
    Except PyError VoteRecordResult × Tables :=
  record_vote is_duplicate_solution_vote_error (add_solution_vote vote t)

/-! ## Reading -/

/-- `ORDER BY created_at DESC`. -/
def newestFirst {ρ : Type} (created_at : ρ → String) (rows : List ρ) : List ρ :=
  rows.insertionSort fun a b => created_at b ≤ created_at a

/-- `value.replace("Z", "+00:00")`. -/
def replaceZ (value : String) : String :=
  String.ofList (value.toList.flatMap fun c =>
    if c = 'Z' then ['+', '0', '0', ':', '0', '0'] else [c])

def Runtime.datetime_from_storage (value : String) : CreatedAt :=
  match rt.fromisoformat (replaceZ value) with
  | some created_at => created_at
  | none => .text value

/-- `issues JOIN content_objects`, with the description. -/
def Tables.issuesJoin (t : Tables) : List (IssueRow × String) :=
  Sql.join IssueRow.description_hash t.issues ContentRow.hash ContentRow.text_content
    t.content_objects

/-- `solutions JOIN content_objects`. -/
def Tables.solutionsJoin (t : Tables) : List (SolutionRow × String) :=
  Sql.join SolutionRow.description_hash t.solutions ContentRow.hash ContentRow.text_content
    t.content_objects

/-- The rows of a join, each with the votes on it, as LEFT JOIN pairs them. -/
def leftJoinVotes {ρ : Type} (id : ρ → String) (votes : List VoteRow) (rows : List ρ) :
    List (ρ × Option VoteRow) :=
  rows.flatMap fun row =>
    match votes.filter fun vote => vote.target_id = id row with
    | [] => [(row, none)]
    | vote :: votes => (vote :: votes).map fun vote => (row, some vote)

/-- `COUNT(votes.id)` of a group of such pairs. -/
def countVotes {ρ : Type} (group : List (ρ × Option VoteRow)) : ℕ :=
  (group.filter fun pair => pair.2.isSome).length

structure IssueWithVotes where
  issue : Issue
  votes : ℕ
deriving DecidableEq, Repr

structure SolutionWithVotes where
  solution : Solution
  votes : ℕ
deriving DecidableEq, Repr

namespace Runtime

def row_to_issue (row : IssueRow × String) : Except PyError Issue := do
  let id ← rt.parse_uuid row.1.id
  let creator_id ← rt.parse_uuid row.1.creator_id
  pure ⟨row.1.title, creator_id, row.2, id, rt.datetime_from_storage row.1.created_at⟩

def row_to_issue_vote (row : VoteRow) : Except PyError IssueVote := do
  let id ← rt.parse_uuid row.id
  let issue_id ← rt.parse_uuid row.target_id
  let voter_id ← rt.parse_uuid row.voter_id
  pure ⟨voter_id, issue_id, id, rt.datetime_from_storage row.created_at⟩

def row_to_solution (row : SolutionRow × String) : Except PyError Solution := do
  let id ← rt.parse_uuid row.1.id
  let issue_id ← rt.parse_uuid row.1.issue_id
  let creator_id ← rt.parse_uuid row.1.creator_id
  pure ⟨row.1.title, row.2, creator_id, issue_id, id, rt.datetime_from_storage row.1.created_at⟩

def row_to_solution_vote (row : VoteRow) : Except PyError SolutionVote := do
  let id ← rt.parse_uuid row.id
  let solution_id ← rt.parse_uuid row.target_id
  let voter_id ← rt.parse_uuid row.voter_id
  pure ⟨voter_id, solution_id, id, rt.datetime_from_storage row.created_at⟩

def row_to_campaign (row : CampaignRow) : Except PyError FundingCampaign := do
  let id ← rt.parse_uuid row.id
  let solution_id ← rt.parse_uuid row.solution_id
  FundingCampaign.new solution_id row.solution_hash row.developer_payout_address
    row.asking_price_sats row.deadline_height id (rt.datetime_from_storage row.created_at)

def row_to_pledge (row : PledgeRow) : Except PyError FundingPledge := do
  let id ← rt.parse_uuid row.id
  let campaign_id ← rt.parse_uuid row.campaign_id
  let pledger_id ← rt.parse_uuid row.pledger_id
  FundingPledge.new campaign_id pledger_id row.txid row.vout row.value_sats row.signed_pledge_psbt
    id (rt.datetime_from_storage row.created_at)

/-- `fetchone`, with the row read as a model. -/
def fetchone {ρ α : Type} (read : ρ → Except PyError α) (rows : List ρ) :
    Except PyError (Option α) :=
  match rows with
  | [] => pure none
  | row :: _ => do
    let model ← read row
    pure (some model)

def get_issue (issue_id : UUID) (t : Tables) : Except PyError (Option Issue) :=
  fetchone rt.row_to_issue (t.issuesJoin.filter fun row => row.1.id = issue_id.str)

def get_all_issues (t : Tables) : Except PyError (List Issue) :=
  (newestFirst (fun row => row.1.created_at) t.issuesJoin).mapM rt.row_to_issue

def get_issue_vote (vote_id : UUID) (t : Tables) : Except PyError (Option IssueVote) :=
  fetchone rt.row_to_issue_vote (t.issue_votes.filter fun row => row.id = vote_id.str)

def get_all_issue_votes (t : Tables) : Except PyError (List IssueVote) :=
  (newestFirst VoteRow.created_at t.issue_votes).mapM rt.row_to_issue_vote

def get_solution (solution_id : UUID) (t : Tables) : Except PyError (Option Solution) :=
  fetchone rt.row_to_solution (t.solutionsJoin.filter fun row => row.1.id = solution_id.str)

def get_all_solutions (t : Tables) : Except PyError (List Solution) :=
  (newestFirst (fun row => row.1.created_at) t.solutionsJoin).mapM rt.row_to_solution

def get_solution_vote (vote_id : UUID) (t : Tables) : Except PyError (Option SolutionVote) :=
  fetchone rt.row_to_solution_vote (t.solution_votes.filter fun row => row.id = vote_id.str)

def get_all_solution_votes (t : Tables) : Except PyError (List SolutionVote) :=
  (newestFirst VoteRow.created_at t.solution_votes).mapM rt.row_to_solution_vote

def get_campaign (campaign_id : UUID) (t : Tables) : Except PyError (Option FundingCampaign) :=
  fetchone rt.row_to_campaign (t.funding_campaigns.filter fun row => row.id = campaign_id.str)

def get_campaign_for_solution (solution_id : UUID) (t : Tables) :
    Except PyError (Option FundingCampaign) :=
  fetchone rt.row_to_campaign
    (t.funding_campaigns.filter fun row => row.solution_id = solution_id.str)

def get_all_campaigns (t : Tables) : Except PyError (List FundingCampaign) :=
  (newestFirst CampaignRow.created_at t.funding_campaigns).mapM rt.row_to_campaign

def get_pledge (pledge_id : UUID) (t : Tables) : Except PyError (Option FundingPledge) :=
  fetchone rt.row_to_pledge (t.funding_pledges.filter fun row => row.id = pledge_id.str)

def get_all_pledges (t : Tables) : Except PyError (List FundingPledge) :=
  (newestFirst PledgeRow.created_at t.funding_pledges).mapM rt.row_to_pledge

def get_issue_with_votes (issue_id : UUID) (t : Tables) : Except PyError (Option IssueWithVotes) :=
  let group := leftJoinVotes (fun row => row.1.id) t.issue_votes
    (t.issuesJoin.filter fun row => row.1.id = issue_id.str)
  fetchone (fun pair => do
    let issue ← rt.row_to_issue pair.1
    pure ⟨issue, countVotes group⟩) group

def get_solution_with_votes (solution_id : UUID) (t : Tables) :
    Except PyError (Option SolutionWithVotes) :=
  let group := leftJoinVotes (fun row => row.1.id) t.solution_votes
    (t.solutionsJoin.filter fun row => row.1.id = solution_id.str)
  fetchone (fun pair => do
    let solution ← rt.row_to_solution pair.1
    pure ⟨solution, countVotes group⟩) group

end Runtime

end Superorganism.Democracy
