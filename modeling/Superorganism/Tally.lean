/-
The counts of `get_issue_with_votes` and `get_solution_with_votes`.

The query joins the issue or the solution with the votes on it and counts the rows that have
one. Since a voter has one vote on a target, that is the number of distinct voters.
-/
import Mathlib.Data.Set.Card
import Superorganism.Refinement

set_option autoImplicit false

open Superorganism.Py Superorganism.Funding Superorganism.Gossip Superorganism.Sql

namespace Superorganism.Democracy

/-! ## Groups -/

/-- The group of one row has a pair for each vote on it, and never less than one. -/
theorem leftJoinVotes_singleton {ρ : Type} (id : ρ → String) (votes : List VoteRow) (row : ρ) :
    ∃ vote rest, leftJoinVotes id votes [row] = (row, vote) :: rest ∧
      countVotes (leftJoinVotes id votes [row]) =
        (votes.filter fun vote => vote.target_id = id row).length := by
  unfold leftJoinVotes countVotes
  rw [List.flatMap_singleton]
  generalize votes.filter (fun vote => decide (vote.target_id = id row)) = onRow
  cases onRow with
  | nil => exact ⟨none, [], rfl, rfl⟩
  | cons vote rest =>
      refine ⟨some vote, rest.map fun vote => (row, some vote), rfl, ?_⟩
      have hall : ((vote :: rest).map fun vote => (row, some vote)).filter
          (fun pair => pair.2.isSome) = (vote :: rest).map fun vote => (row, some vote) := by
        rw [List.filter_eq_self]
        intro pair hpair
        obtain ⟨vote', -, rfl⟩ := List.mem_map.mp hpair
        rfl
      dsimp only
      rw [hall, List.length_map]

/-- One row for each voter on a target: the number of rows is the number of voters. -/
theorem length_votes_on {votes : List VoteRow} (hpair : Unique VoteRow.pair votes) {target : String}
    {voters : Set UUID}
    (h : ∀ voter : UUID, voter ∈ voters ↔ ∃ vote ∈ votes, vote.target_id = target ∧
      vote.voter_id = voter.str)
    (huuid : ∀ vote ∈ votes, ∃ voter : UUID, vote.voter_id = voter.str) :
    (votes.filter fun vote => vote.target_id = target).length = voters.ncard := by
  -- rows of one target with one voter are one row, by the unique pair
  have hnodup : ((votes.filter fun vote => vote.target_id = target).map VoteRow.voter_id).Nodup := by
    refine List.Nodup.map_on ?_ ((List.Nodup.of_map _ hpair).filter _)
    intro a ha b hb hab
    rw [List.mem_filter, decide_eq_true_eq] at ha hb
    exact hpair.inj ha.1 hb.1 (Prod.ext (ha.2.trans hb.2.symm) hab)
  -- the voters of the rows are the texts of the voters
  have himage : UUID.str '' voters =
      ((votes.filter fun vote => vote.target_id = target).map VoteRow.voter_id).toFinset := by
    ext x
    rw [Set.mem_image, Finset.mem_coe, List.mem_toFinset, List.mem_map]
    constructor
    · rintro ⟨voter, hvoter, rfl⟩
      obtain ⟨vote, hvote, htarget, hid⟩ := (h voter).mp hvoter
      exact ⟨vote, List.mem_filter.mpr ⟨hvote, by simpa using htarget⟩, hid⟩
    · rintro ⟨vote, hvote, rfl⟩
      rw [List.mem_filter, decide_eq_true_eq] at hvote
      obtain ⟨voter, hvoter⟩ := huuid vote hvote.1
      exact ⟨voter, (h voter).mpr ⟨vote, hvote.1, hvote.2, hvoter⟩, hvoter.symm⟩
  rw [← Set.ncard_image_of_injective voters UUID.str_injective, himage, Set.ncard_coe_finset,
    List.toFinset_card_of_nodup hnodup, List.length_map]

/-! ## Counts -/

namespace Runtime

variable {rt : Runtime} {texts : Set String} {t : Tables} (hinj : Set.InjOn rt.text_hash texts)
  (h : rt.IsStore texts t)

/-- Who has voted on an issue. -/
def issueVoters (store : Set Object) (issue_id : UUID) : Set UUID :=
  {voter | ∃ vote, .issue_vote vote ∈ store ∧ vote.issue_id = issue_id ∧ vote.voter_id = voter}

/-- Who has voted on a solution. -/
def solutionVoters (store : Set Object) (solution_id : UUID) : Set UUID :=
  {voter | ∃ vote, .solution_vote vote ∈ store ∧ vote.solution_id = solution_id ∧
    vote.voter_id = voter}

include h in
theorem IsStore.length_issue_votes (issue_id : UUID) :
    (t.issue_votes.filter fun vote => vote.target_id = issue_id.str).length =
      (issueVoters (rt.stored texts t) issue_id).ncard := by
  refine length_votes_on h.sane.1.issue_vote_pair (fun voter => ?_) fun row hrow => ?_
  · constructor
    · rintro ⟨vote, hvote, rfl, rfl⟩
      exact ⟨issue_vote_row vote, hvote.2, rfl, rfl⟩
    · rintro ⟨row, hrow, htarget, hvoter⟩
      obtain ⟨vote, hvote, rfl⟩ := h.issue_vote_of_row hrow
      exact ⟨vote, hvote, UUID.str_injective htarget, UUID.str_injective hvoter⟩
  · obtain ⟨vote, -, rfl⟩ := h.issue_vote_of_row hrow
    exact ⟨vote.voter_id, rfl⟩

include h in
theorem IsStore.length_solution_votes (solution_id : UUID) :
    (t.solution_votes.filter fun vote => vote.target_id = solution_id.str).length =
      (solutionVoters (rt.stored texts t) solution_id).ncard := by
  refine length_votes_on h.sane.1.solution_vote_pair (fun voter => ?_) fun row hrow => ?_
  · constructor
    · rintro ⟨vote, hvote, rfl, rfl⟩
      exact ⟨solution_vote_row vote, hvote.2, rfl, rfl⟩
    · rintro ⟨row, hrow, htarget, hvoter⟩
      obtain ⟨vote, hvote, rfl⟩ := h.solution_vote_of_row hrow
      exact ⟨vote, hvote, UUID.str_injective htarget, UUID.str_injective hvoter⟩
  · obtain ⟨vote, -, rfl⟩ := h.solution_vote_of_row hrow
    exact ⟨vote.voter_id, rfl⟩

include hinj h

/-- A stored issue is read with the number of its voters. -/
theorem IsStore.get_issue_with_votes_of_mem {issue : Issue}
    (hissue : .issue issue ∈ rt.stored texts t) :
    rt.get_issue_with_votes issue.id t =
      .ok (some ⟨issue, (issueVoters (rt.stored texts t) issue.id).ncard⟩) := by
  obtain ⟨content, hcontent, hhash⟩ := h.sane.1.issue_content _ hissue.2
  have hjoin : t.issuesJoin.filter (fun row => row.1.id = issue.id.str) =
      [(rt.issue_row issue, content.text_content)] :=
    filter_join_eq h.sane.1.issue_key h.sane.1.content_key hissue.2 hcontent hhash
  have htext := h.content_eq hinj hcontent (hissue.1.description _ rfl) hhash
  rw [htext] at hjoin
  obtain ⟨vote, rest, hgroup, hcount⟩ := leftJoinVotes_singleton
    (fun row : IssueRow × String => row.1.id) t.issue_votes (rt.issue_row issue, issue.description)
  have hlength : countVotes (leftJoinVotes (fun row : IssueRow × String => row.1.id) t.issue_votes
      [(rt.issue_row issue, issue.description)]) =
      (issueVoters (rt.stored texts t) issue.id).ncard :=
    hcount.trans (h.length_issue_votes issue.id)
  rw [get_issue_with_votes]
  simp only [hjoin, hlength]
  rw [hgroup, fetchone]
  simp only [row_to_issue_genuine hissue.1.created_at, ok_bind]
  rfl

/-- A stored solution is read with the number of its voters. -/
theorem IsStore.get_solution_with_votes_of_mem {solution : Solution}
    (hsolution : .solution solution ∈ rt.stored texts t) :
    rt.get_solution_with_votes solution.id t =
      .ok (some ⟨solution, (solutionVoters (rt.stored texts t) solution.id).ncard⟩) := by
  obtain ⟨content, hcontent, hhash⟩ := h.sane.1.solution_content _ hsolution.2
  have hjoin : t.solutionsJoin.filter (fun row => row.1.id = solution.id.str) =
      [(rt.solution_row solution, content.text_content)] :=
    filter_join_eq h.sane.1.solution_key h.sane.1.content_key hsolution.2 hcontent hhash
  have htext := h.content_eq hinj hcontent (hsolution.1.description _ rfl) hhash
  rw [htext] at hjoin
  obtain ⟨vote, rest, hgroup, hcount⟩ := leftJoinVotes_singleton
    (fun row : SolutionRow × String => row.1.id) t.solution_votes
    (rt.solution_row solution, solution.description)
  have hlength : countVotes (leftJoinVotes (fun row : SolutionRow × String => row.1.id) t.solution_votes
      [(rt.solution_row solution, solution.description)]) =
      (solutionVoters (rt.stored texts t) solution.id).ncard :=
    hcount.trans (h.length_solution_votes solution.id)
  rw [get_solution_with_votes]
  simp only [hjoin, hlength]
  rw [hgroup, fetchone]
  simp only [row_to_solution_genuine hsolution.1.created_at, ok_bind]
  rfl

omit hinj h in
theorem get_issue_with_votes_of_not_mem {issue_id : UUID} (hid : issue_id.str ∉ t.ids .ISSUE) :
    rt.get_issue_with_votes issue_id t = .ok none := by
  have hjoin : t.issuesJoin.filter (fun row => row.1.id = issue_id.str) = [] :=
    filter_join_eq_nil fun row hrow heq => hid (heq ▸ List.mem_map_of_mem hrow)
  rw [get_issue_with_votes]
  simp only [hjoin]
  rfl

omit hinj h in
theorem get_solution_with_votes_of_not_mem {solution_id : UUID} (hid : solution_id.str ∉ t.ids .SOLUTION) :
    rt.get_solution_with_votes solution_id t = .ok none := by
  have hjoin : t.solutionsJoin.filter (fun row => row.1.id = solution_id.str) = [] :=
    filter_join_eq_nil fun row hrow heq => hid (heq ▸ List.mem_map_of_mem hrow)
  rw [get_solution_with_votes]
  simp only [hjoin]
  rfl

omit hinj in
/-- The issue is stored, or the answer is none. -/
theorem IsStore.issue_or_none (issue_id : UUID) :
    (∃ issue, .issue issue ∈ rt.stored texts t ∧ issue.id = issue_id) ∨
      (∀ issue, .issue issue ∈ rt.stored texts t → issue.id ≠ issue_id) ∧
        rt.get_issue_with_votes issue_id t = .ok none := by
  by_cases hid : issue_id.str ∈ t.ids .ISSUE
  · obtain ⟨row, hrow, hid⟩ := List.mem_map.mp hid
    obtain ⟨issue, hissue, rfl⟩ := h.issue_of_row hrow
    exact .inl ⟨issue, hissue, UUID.str_injective hid⟩
  · refine .inr ⟨fun issue hissue heq => hid ?_, get_issue_with_votes_of_not_mem hid⟩
    rw [← heq]
    exact List.mem_map.mpr ⟨rt.issue_row issue, hissue.2, rfl⟩

omit hinj in
/-- The solution is stored, or the answer is none. -/
theorem IsStore.solution_or_none (solution_id : UUID) :
    (∃ solution, .solution solution ∈ rt.stored texts t ∧ solution.id = solution_id) ∨
      (∀ solution, .solution solution ∈ rt.stored texts t → solution.id ≠ solution_id) ∧
        rt.get_solution_with_votes solution_id t = .ok none := by
  by_cases hid : solution_id.str ∈ t.ids .SOLUTION
  · obtain ⟨row, hrow, hid⟩ := List.mem_map.mp hid
    obtain ⟨solution, hsolution, rfl⟩ := h.solution_of_row hrow
    exact .inl ⟨solution, hsolution, UUID.str_injective hid⟩
  · refine .inr ⟨fun solution hsolution heq => hid ?_, get_solution_with_votes_of_not_mem hid⟩
    rw [← heq]
    exact List.mem_map.mpr ⟨rt.solution_row solution, hsolution.2, rfl⟩

end Runtime

end Superorganism.Democracy
