/-
What the schema of `democracy/storage/sqlite_repository.py` keeps.

`Schema` is what `_create_schema` declares, field by field: the primary keys, the UNIQUE
clauses, and the references. `Addressed` is what `_store_text_content` adds to it: a
content object is stored under the hash of its text. Each statement that succeeds keeps
both.
-/
import Superorganism.Repository

set_option autoImplicit false

open Superorganism.Py Superorganism.Funding Superorganism.Sql

namespace Superorganism.Democracy

/-! ## The constraints -/

structure Schema (t : Tables) : Prop where
  content_key : Unique ContentRow.hash t.content_objects
  issue_key : Unique IssueRow.id t.issues
  issue_content : Refers IssueRow.description_hash t.issues ContentRow.hash t.content_objects
  issue_vote_key : Unique VoteRow.id t.issue_votes
  issue_vote_pair : Unique VoteRow.pair t.issue_votes
  issue_vote_issue : Refers VoteRow.target_id t.issue_votes IssueRow.id t.issues
  solution_key : Unique SolutionRow.id t.solutions
  solution_issue : Refers SolutionRow.issue_id t.solutions IssueRow.id t.issues
  solution_content :
    Refers SolutionRow.description_hash t.solutions ContentRow.hash t.content_objects
  solution_vote_key : Unique VoteRow.id t.solution_votes
  solution_vote_pair : Unique VoteRow.pair t.solution_votes
  solution_vote_solution : Refers VoteRow.target_id t.solution_votes SolutionRow.id t.solutions
  campaign_key : Unique CampaignRow.id t.funding_campaigns
  campaign_solution_key : Unique CampaignRow.solution_id t.funding_campaigns
  campaign_solution : Refers CampaignRow.solution_id t.funding_campaigns SolutionRow.id t.solutions
  pledge_key : Unique PledgeRow.id t.funding_pledges
  pledge_outpoint : Unique PledgeRow.outpoint t.funding_pledges
  pledge_campaign : Refers PledgeRow.campaign_id t.funding_pledges CampaignRow.id t.funding_campaigns

/-- Every content object is stored under the hash of its text. -/
def Runtime.Addressed (rt : Runtime) (t : Tables) : Prop :=
  ∀ content ∈ t.content_objects, content.hash = rt.text_hash content.text_content

theorem Schema.empty : Schema Tables.empty where
  content_key := Unique.nil
  issue_key := Unique.nil
  issue_content := Refers.nil
  issue_vote_key := Unique.nil
  issue_vote_pair := Unique.nil
  issue_vote_issue := Refers.nil
  solution_key := Unique.nil
  solution_issue := Refers.nil
  solution_content := Refers.nil
  solution_vote_key := Unique.nil
  solution_vote_pair := Unique.nil
  solution_vote_solution := Refers.nil
  campaign_key := Unique.nil
  campaign_solution_key := Unique.nil
  campaign_solution := Refers.nil
  pledge_key := Unique.nil
  pledge_outpoint := Unique.nil
  pledge_campaign := Refers.nil

/-! ## What a statement that succeeds has done -/

namespace Tables

variable {t t' : Tables}

theorem insert_issue_eq_ok {row : IssueRow} {u : Unit} (h : t.insert_issue row = .ok (u, t')) :
    row.id ∉ t.issues.map IssueRow.id ∧
      row.description_hash ∈ t.content_objects.map ContentRow.hash ∧
      t' = { t with issues := t.issues ++ [row] } := by
  unfold insert_issue at h
  split_ifs at h with hid hcontent
  cases h
  exact ⟨hid, hcontent, rfl⟩

theorem insert_vote_eq_ok {table target : String} {parents : List String} {votes votes' : List VoteRow}
    {row : VoteRow} (h : insert_vote table target parents votes row = .ok votes') :
    row.pair ∉ votes.map VoteRow.pair ∧ row.id ∉ votes.map VoteRow.id ∧ row.target_id ∈ parents ∧
      votes' = votes ++ [row] := by
  unfold insert_vote at h
  split_ifs at h with hpair hid hparent
  cases h
  exact ⟨hpair, hid, hparent, rfl⟩

theorem insert_issue_vote_eq_ok {row : VoteRow} {u : Unit}
    (h : t.insert_issue_vote row = .ok (u, t')) :
    row.pair ∉ t.issue_votes.map VoteRow.pair ∧ row.id ∉ t.issue_votes.map VoteRow.id ∧
      row.target_id ∈ t.issues.map IssueRow.id ∧
      t' = { t with issue_votes := t.issue_votes ++ [row] } := by
  obtain ⟨votes, hvotes, h⟩ := bind_eq_ok.mp h
  obtain ⟨hpair, hid, hparent, rfl⟩ := insert_vote_eq_ok hvotes
  cases h
  exact ⟨hpair, hid, hparent, rfl⟩

theorem insert_solution_eq_ok {row : SolutionRow} {u : Unit}
    (h : t.insert_solution row = .ok (u, t')) :
    row.id ∉ t.solutions.map SolutionRow.id ∧ row.issue_id ∈ t.issues.map IssueRow.id ∧
      row.description_hash ∈ t.content_objects.map ContentRow.hash ∧
      t' = { t with solutions := t.solutions ++ [row] } := by
  unfold insert_solution at h
  split_ifs at h with hid hrefs
  cases h
  exact ⟨hid, hrefs.1, hrefs.2, rfl⟩

theorem insert_solution_vote_eq_ok {row : VoteRow} {u : Unit}
    (h : t.insert_solution_vote row = .ok (u, t')) :
    row.pair ∉ t.solution_votes.map VoteRow.pair ∧ row.id ∉ t.solution_votes.map VoteRow.id ∧
      row.target_id ∈ t.solutions.map SolutionRow.id ∧
      t' = { t with solution_votes := t.solution_votes ++ [row] } := by
  obtain ⟨votes, hvotes, h⟩ := bind_eq_ok.mp h
  obtain ⟨hpair, hid, hparent, rfl⟩ := insert_vote_eq_ok hvotes
  cases h
  exact ⟨hpair, hid, hparent, rfl⟩

theorem insert_campaign_eq_ok {row : CampaignRow} {u : Unit}
    (h : t.insert_campaign row = .ok (u, t')) :
    row.solution_id ∉ t.funding_campaigns.map CampaignRow.solution_id ∧
      row.id ∉ t.funding_campaigns.map CampaignRow.id ∧
      row.solution_id ∈ t.solutions.map SolutionRow.id ∧
      t' = { t with funding_campaigns := t.funding_campaigns ++ [row] } := by
  unfold insert_campaign at h
  split_ifs at h with hsize hsolution hid hparent
  cases h
  exact ⟨hsolution, hid, hparent, rfl⟩

theorem insert_pledge_eq_ok {row : PledgeRow} {u : Unit} (h : t.insert_pledge row = .ok (u, t')) :
    row.outpoint ∉ t.funding_pledges.map PledgeRow.outpoint ∧
      row.id ∉ t.funding_pledges.map PledgeRow.id ∧
      row.campaign_id ∈ t.funding_campaigns.map CampaignRow.id ∧
      t' = { t with funding_pledges := t.funding_pledges ++ [row] } := by
  unfold insert_pledge at h
  split_ifs at h with hsize houtpoint hid hparent
  cases h
  exact ⟨houtpoint, hid, hparent, rfl⟩

/-! ### Rows that break no constraint -/

theorem insert_issue_of_new {row : IssueRow} (hid : row.id ∉ t.issues.map IssueRow.id)
    (hcontent : row.description_hash ∈ t.content_objects.map ContentRow.hash) :
    t.insert_issue row = .ok ((), { t with issues := t.issues ++ [row] }) := by
  rw [insert_issue, if_neg hid, if_pos hcontent]
  rfl

theorem insert_vote_of_new {table target : String} {parents : List String} {votes : List VoteRow}
    {row : VoteRow} (hpair : row.pair ∉ votes.map VoteRow.pair)
    (hid : row.id ∉ votes.map VoteRow.id) (hparent : row.target_id ∈ parents) :
    insert_vote table target parents votes row = .ok (votes ++ [row]) := by
  rw [insert_vote, if_neg hpair, if_neg hid, if_pos hparent]
  rfl

theorem insert_issue_vote_of_new {row : VoteRow} (hpair : row.pair ∉ t.issue_votes.map VoteRow.pair)
    (hid : row.id ∉ t.issue_votes.map VoteRow.id)
    (hparent : row.target_id ∈ t.issues.map IssueRow.id) :
    t.insert_issue_vote row = .ok ((), { t with issue_votes := t.issue_votes ++ [row] }) := by
  rw [insert_issue_vote, insert_vote_of_new hpair hid hparent, ok_bind]
  rfl

theorem insert_solution_of_new {row : SolutionRow} (hid : row.id ∉ t.solutions.map SolutionRow.id)
    (hissue : row.issue_id ∈ t.issues.map IssueRow.id)
    (hcontent : row.description_hash ∈ t.content_objects.map ContentRow.hash) :
    t.insert_solution row = .ok ((), { t with solutions := t.solutions ++ [row] }) := by
  rw [insert_solution, if_neg hid, if_pos ⟨hissue, hcontent⟩]
  rfl

theorem insert_solution_vote_of_new {row : VoteRow}
    (hpair : row.pair ∉ t.solution_votes.map VoteRow.pair)
    (hid : row.id ∉ t.solution_votes.map VoteRow.id)
    (hparent : row.target_id ∈ t.solutions.map SolutionRow.id) :
    t.insert_solution_vote row =
      .ok ((), { t with solution_votes := t.solution_votes ++ [row] }) := by
  rw [insert_solution_vote, insert_vote_of_new hpair hid hparent, ok_bind]
  rfl

/-- The integers of a campaign fit in 64 bits. -/
theorem campaign_not_too_large {row : CampaignRow} (hprice : row.asking_price_sats < 2 ^ 63)
    (hheight : ∀ height ∈ row.deadline_height, height < 2 ^ 63) :
    ¬ (row.asking_price_sats ≥ 2 ^ 63 ∨ ∃ height ∈ row.deadline_height, height ≥ 2 ^ 63) := by
  rintro (hlarge | ⟨height, hmem, hlarge⟩)
  · omega
  · exact absurd (hheight height hmem) (not_lt.mpr hlarge)

theorem insert_campaign_of_new {row : CampaignRow} (hprice : row.asking_price_sats < 2 ^ 63)
    (hheight : ∀ height ∈ row.deadline_height, height < 2 ^ 63)
    (hsolution : row.solution_id ∉ t.funding_campaigns.map CampaignRow.solution_id)
    (hid : row.id ∉ t.funding_campaigns.map CampaignRow.id)
    (hparent : row.solution_id ∈ t.solutions.map SolutionRow.id) :
    t.insert_campaign row =
      .ok ((), { t with funding_campaigns := t.funding_campaigns ++ [row] }) := by
  rw [insert_campaign, if_neg (campaign_not_too_large hprice hheight), if_neg hsolution,
    if_neg hid, if_pos hparent]
  rfl

theorem pledge_not_too_large {row : PledgeRow} (hvout : row.vout < 2 ^ 63)
    (hvalue : row.value_sats < 2 ^ 63) : ¬ (row.vout ≥ 2 ^ 63 ∨ row.value_sats ≥ 2 ^ 63) := by
  omega

theorem insert_pledge_of_new {row : PledgeRow} (hvout : row.vout < 2 ^ 63)
    (hvalue : row.value_sats < 2 ^ 63)
    (houtpoint : row.outpoint ∉ t.funding_pledges.map PledgeRow.outpoint)
    (hid : row.id ∉ t.funding_pledges.map PledgeRow.id)
    (hparent : row.campaign_id ∈ t.funding_campaigns.map CampaignRow.id) :
    t.insert_pledge row = .ok ((), { t with funding_pledges := t.funding_pledges ++ [row] }) := by
  rw [insert_pledge, if_neg (pledge_not_too_large hvout hvalue), if_neg houtpoint, if_neg hid,
    if_pos hparent]
  rfl

/-! ### Updates -/

/-- An update found its row and kept every reference, or found none. -/
theorem update_issue_eq_ok {old : String} {row : IssueRow} {n : ℕ}
    (h : t.update_issue old row = .ok (n, t')) :
    (n = 1 ∧ old ∈ t.issues.map IssueRow.id ∧
      (row.id = old ∨ (row.id ∉ t.issues.map IssueRow.id ∧
        old ∉ t.issue_votes.map VoteRow.target_id ∧ old ∉ t.solutions.map SolutionRow.issue_id)) ∧
      row.description_hash ∈ t.content_objects.map ContentRow.hash ∧
      t' = { t with issues := replaceRow IssueRow.id old row t.issues }) ∨
    (n = 0 ∧ old ∉ t.issues.map IssueRow.id ∧ t' = t) := by
  unfold update_issue at h
  by_cases hold : old ∈ t.issues.map IssueRow.id
  · rw [if_pos hold] at h
    split_ifs at h with hunique hrefs
    cases h
    rw [not_or, not_not] at hrefs
    refine .inl ⟨rfl, hold, ?_, hrefs.1, rfl⟩
    by_cases hid : row.id = old
    · exact .inl hid
    · have hchildren := not_or.mp fun hchild => hrefs.2 ⟨hid, hchild⟩
      exact .inr ⟨fun hmem => hunique ⟨hid, hmem⟩, hchildren.1, hchildren.2⟩
  · rw [if_neg hold] at h
    cases h
    exact .inr ⟨rfl, hold, rfl⟩

theorem update_solution_eq_ok {old : String} {row : SolutionRow} {n : ℕ}
    (h : t.update_solution old row = .ok (n, t')) :
    (n = 1 ∧ old ∈ t.solutions.map SolutionRow.id ∧
      (row.id = old ∨ (row.id ∉ t.solutions.map SolutionRow.id ∧
        old ∉ t.solution_votes.map VoteRow.target_id ∧
        old ∉ t.funding_campaigns.map CampaignRow.solution_id)) ∧
      row.issue_id ∈ t.issues.map IssueRow.id ∧
      row.description_hash ∈ t.content_objects.map ContentRow.hash ∧
      t' = { t with solutions := replaceRow SolutionRow.id old row t.solutions }) ∨
    (n = 0 ∧ old ∉ t.solutions.map SolutionRow.id ∧ t' = t) := by
  unfold update_solution at h
  by_cases hold : old ∈ t.solutions.map SolutionRow.id
  · rw [if_pos hold] at h
    split_ifs at h with hunique hrefs
    cases h
    rw [not_or, not_not, not_or, not_not] at hrefs
    refine .inl ⟨rfl, hold, ?_, hrefs.1, hrefs.2.1, rfl⟩
    by_cases hid : row.id = old
    · exact .inl hid
    · have hchildren := not_or.mp fun hchild => hrefs.2.2 ⟨hid, hchild⟩
      exact .inr ⟨fun hmem => hunique ⟨hid, hmem⟩, hchildren.1, hchildren.2⟩
  · rw [if_neg hold] at h
    cases h
    exact .inr ⟨rfl, hold, rfl⟩

end Tables

/-! ## Every statement keeps the schema -/

namespace Schema

variable {t t' : Tables}

theorem insert_content (h : Schema t) (row : ContentRow) : Schema (t.insert_content row) := by
  unfold Tables.insert_content
  by_cases hash : row.hash ∈ t.content_objects.map ContentRow.hash
  · rw [if_pos hash]
    exact h
  · rw [if_neg hash]
    exact { h with
      content_key := h.content_key.append hash
      issue_content := h.issue_content.append_row row
      solution_content := h.solution_content.append_row row }

theorem insert_issue (h : Schema t) {row : IssueRow} {u : Unit}
    (hok : t.insert_issue row = .ok (u, t')) : Schema t' := by
  obtain ⟨hid, hcontent, rfl⟩ := Tables.insert_issue_eq_ok hok
  exact { h with
    issue_key := h.issue_key.append hid
    issue_content := h.issue_content.append_child hcontent
    issue_vote_issue := h.issue_vote_issue.append_row row
    solution_issue := h.solution_issue.append_row row }

theorem insert_issue_vote (h : Schema t) {row : VoteRow} {u : Unit}
    (hok : t.insert_issue_vote row = .ok (u, t')) : Schema t' := by
  obtain ⟨hpair, hid, hparent, rfl⟩ := Tables.insert_issue_vote_eq_ok hok
  exact { h with
    issue_vote_key := h.issue_vote_key.append hid
    issue_vote_pair := h.issue_vote_pair.append hpair
    issue_vote_issue := h.issue_vote_issue.append_child hparent }

theorem insert_solution (h : Schema t) {row : SolutionRow} {u : Unit}
    (hok : t.insert_solution row = .ok (u, t')) : Schema t' := by
  obtain ⟨hid, hissue, hcontent, rfl⟩ := Tables.insert_solution_eq_ok hok
  exact { h with
    solution_key := h.solution_key.append hid
    solution_issue := h.solution_issue.append_child hissue
    solution_content := h.solution_content.append_child hcontent
    solution_vote_solution := h.solution_vote_solution.append_row row
    campaign_solution := h.campaign_solution.append_row row }

theorem insert_solution_vote (h : Schema t) {row : VoteRow} {u : Unit}
    (hok : t.insert_solution_vote row = .ok (u, t')) : Schema t' := by
  obtain ⟨hpair, hid, hparent, rfl⟩ := Tables.insert_solution_vote_eq_ok hok
  exact { h with
    solution_vote_key := h.solution_vote_key.append hid
    solution_vote_pair := h.solution_vote_pair.append hpair
    solution_vote_solution := h.solution_vote_solution.append_child hparent }

theorem insert_campaign (h : Schema t) {row : CampaignRow} {u : Unit}
    (hok : t.insert_campaign row = .ok (u, t')) : Schema t' := by
  obtain ⟨hsolution, hid, hparent, rfl⟩ := Tables.insert_campaign_eq_ok hok
  exact { h with
    campaign_key := h.campaign_key.append hid
    campaign_solution_key := h.campaign_solution_key.append hsolution
    campaign_solution := h.campaign_solution.append_child hparent
    pledge_campaign := h.pledge_campaign.append_row row }

theorem insert_pledge (h : Schema t) {row : PledgeRow} {u : Unit}
    (hok : t.insert_pledge row = .ok (u, t')) : Schema t' := by
  obtain ⟨houtpoint, hid, hparent, rfl⟩ := Tables.insert_pledge_eq_ok hok
  exact { h with
    pledge_key := h.pledge_key.append hid
    pledge_outpoint := h.pledge_outpoint.append houtpoint
    pledge_campaign := h.pledge_campaign.append_child hparent }

theorem update_issue (h : Schema t) {old : String} {row : IssueRow} {n : ℕ}
    (hok : t.update_issue old row = .ok (n, t')) : Schema t' := by
  rcases Tables.update_issue_eq_ok hok with ⟨-, -, hid, hcontent, rfl⟩ | ⟨-, -, rfl⟩
  · have hvotes : row.id = old ∨ ∀ vote ∈ t.issue_votes, vote.target_id ≠ old :=
      hid.imp_right fun hfresh vote hvote heq => hfresh.2.1 (heq ▸ List.mem_map_of_mem hvote)
    have hsolutions : row.id = old ∨ ∀ solution ∈ t.solutions, solution.issue_id ≠ old :=
      hid.imp_right fun hfresh solution hsolution heq =>
        hfresh.2.2 (heq ▸ List.mem_map_of_mem hsolution)
    exact { h with
      issue_key := h.issue_key.replace (hid.imp_right And.left)
      issue_content := h.issue_content.replace_child hcontent
      issue_vote_issue := h.issue_vote_issue.replace_row hvotes
      solution_issue := h.solution_issue.replace_row hsolutions }
  · exact h

theorem update_solution (h : Schema t) {old : String} {row : SolutionRow} {n : ℕ}
    (hok : t.update_solution old row = .ok (n, t')) : Schema t' := by
  rcases Tables.update_solution_eq_ok hok with ⟨-, -, hid, hissue, hcontent, rfl⟩ | ⟨-, -, rfl⟩
  · have hvotes : row.id = old ∨ ∀ vote ∈ t.solution_votes, vote.target_id ≠ old :=
      hid.imp_right fun hfresh vote hvote heq => hfresh.2.1 (heq ▸ List.mem_map_of_mem hvote)
    have hcampaigns : row.id = old ∨
        ∀ campaign ∈ t.funding_campaigns, campaign.solution_id ≠ old :=
      hid.imp_right fun hfresh campaign hcampaign heq =>
        hfresh.2.2 (heq ▸ List.mem_map_of_mem hcampaign)
    exact { h with
      solution_key := h.solution_key.replace (hid.imp_right And.left)
      solution_issue := h.solution_issue.replace_child hissue
      solution_content := h.solution_content.replace_child hcontent
      solution_vote_solution := h.solution_vote_solution.replace_row hvotes
      campaign_solution := h.campaign_solution.replace_row hcampaigns }
  · exact h

theorem delete_solutions (h : Schema t) (gone : SolutionRow → Bool) :
    Schema (t.delete_solutions gone) := by
  -- a solution that goes is among the ids its children are compared with
  have hgone : ∀ row ∈ t.solutions, (!gone row) = false → row.id ∈ t.goneSolutions gone := by
    intro row hrow hkeep
    exact List.mem_map_of_mem (List.mem_filter.mpr ⟨hrow, by simpa using hkeep⟩)
  have hcampaigns : ∀ row ∈ t.funding_campaigns,
      decide (row.solution_id ∉ t.goneSolutions gone) = false → row.id ∈ t.goneCampaigns gone := by
    intro row hrow hkeep
    exact List.mem_map_of_mem (List.mem_filter.mpr ⟨hrow, by simpa using hkeep⟩)
  exact { h with
    solution_key := h.solution_key.filter _
    solution_issue := h.solution_issue.filter_child _
    solution_content := h.solution_content.filter_child _
    solution_vote_key := h.solution_vote_key.filter _
    solution_vote_pair := h.solution_vote_pair.filter _
    solution_vote_solution := h.solution_vote_solution.cascade fun row hrow hkeep vote _ hvote => by
      rw [hvote]
      simpa using hgone row hrow hkeep
    campaign_key := h.campaign_key.filter _
    campaign_solution_key := h.campaign_solution_key.filter _
    campaign_solution := h.campaign_solution.cascade fun row hrow hkeep campaign _ hcampaign => by
      rw [hcampaign]
      simpa using hgone row hrow hkeep
    pledge_key := h.pledge_key.filter _
    pledge_outpoint := h.pledge_outpoint.filter _
    pledge_campaign := h.pledge_campaign.cascade fun row hrow hkeep pledge _ hpledge => by
      rw [hpledge]
      simpa using hcampaigns row hrow hkeep }

theorem delete_issue_row (h : Schema t) (id : String) : Schema (t.delete_issue_row id).2 := by
  have hrest := h.delete_solutions fun row => row.issue_id = id
  exact { hrest with
    issue_key := h.issue_key.filter _
    issue_content := h.issue_content.filter_child _
    issue_vote_key := h.issue_vote_key.filter _
    issue_vote_pair := h.issue_vote_pair.filter _
    issue_vote_issue := h.issue_vote_issue.cascade fun row _ hkeep vote _ hvote => by
      rw [hvote]
      simpa using hkeep
    solution_issue := h.solution_issue.cascade fun row _ hkeep solution _ hsolution => by
      have hid : row.id = id := by simpa using hkeep
      simp [hsolution, hid] }

theorem delete_solution_row (h : Schema t) (id : String) : Schema (t.delete_solution_row id).2 :=
  h.delete_solutions fun row => row.id = id

end Schema

end Superorganism.Democracy
