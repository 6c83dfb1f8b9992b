/-
What peers agree on that have been handed the same objects.

Two stores start empty and receive objects of one set through `store_remote`, in whatever
order and as often as it takes, until handing over any of them again changes nothing. Which of
several objects for one slot a store keeps is decided by arrival: the vote of a voter on a
target, the campaign of a solution, the pledge of an outpoint. What does not depend on that
choice is the same in both: the issues, the solutions, who has voted on what, and with it the
counts; which solutions have a campaign, and which outpoints a campaign has pledges for.
-/
import Superorganism.Exchange
import Superorganism.Tally

set_option autoImplicit false

open Superorganism.Py Superorganism.Funding Superorganism.Gossip Superorganism.Sql
open Superorganism.Replica

namespace Superorganism.Democracy

/-! ## Deliveries -/

/-- The descriptions of the objects. -/
def descriptions (M : Finset Object) : Set String := {text | ∃ o ∈ M, o.description = some text}

namespace Runtime

/-- `store_remote` of one model after the other, each at its time. -/
def storeAll (rt : Runtime) (t : Tables) (deliveries : List (String × Object)) : Tables :=
  deliveries.foldl (fun t delivery => (rt.store_remote delivery.1 delivery.2 t).2) t

/-- The deliveries are of objects of M, and afterwards delivering any object of M changes
nothing. -/
structure Settles (rt : Runtime) (M : Finset Object) (deliveries : List (String × Object)) : Prop where
  mem : ∀ delivery ∈ deliveries, delivery.2 ∈ M
  unchanged : ∀ o ∈ M, ∀ now, (rt.store_remote now o (rt.storeAll Tables.empty deliveries)).2 =
    rt.storeAll Tables.empty deliveries

/-- Models with datetimes and 64-bit integers, in which distinct objects of one type have
distinct ids, and no two descriptions one hash. -/
structure Models (rt : Runtime) (M : Finset Object) : Prop where
  created_at : ∀ o ∈ M, rt.IsDatetime o.created_at
  fits : ∀ o ∈ M, (rt.row o).FitsColumns
  ids : ∀ a ∈ M, ∀ b ∈ M, a.item = b.item → a = b
  hashes : Set.InjOn rt.text_hash (descriptions M)

variable {rt : Runtime} {M : Finset Object} {texts : Set String} {t : Tables}

theorem Models.genuine (h : rt.Models M) {o : Object} (ho : o ∈ M) :
    rt.Genuine (descriptions M) o where
  created_at := h.created_at o ho
  description := fun _ htext => ⟨o, ho, htext⟩
  fits := h.fits o ho

theorem IsStore.storeAll_spec (hinj : Set.InjOn rt.text_hash texts) (h : rt.IsStore texts t)
    {deliveries : List (String × Object)} (hgenuine : ∀ d ∈ deliveries, rt.Genuine texts d.2) :
    rt.IsStore texts (rt.storeAll t deliveries) ∧
      rt.stored texts (rt.storeAll t deliveries) =
        links.receiveAll (rt.stored texts t) (deliveries.map Prod.snd) := by
  induction deliveries generalizing t with
  | nil => exact ⟨h, rfl⟩
  | cons delivery deliveries ih =>
      obtain ⟨status, t', hstore, hstore', hstored, -⟩ :=
        h.store_remote_spec (hgenuine delivery (List.mem_cons_self ..)) delivery.1 hinj
      have hstep : rt.storeAll t (delivery :: deliveries) = rt.storeAll t' deliveries := by
        rw [storeAll, List.foldl_cons, hstore]
        rfl
      rw [hstep, List.map_cons, Links.receiveAll_cons, ← hstored]
      exact ih hstore' fun d hd => hgenuine d (List.mem_cons_of_mem _ hd)

theorem stored_empty : rt.stored texts Tables.empty = ∅ := by
  rw [Set.eq_empty_iff_forall_notMem]
  rintro o ⟨-, ho⟩
  cases o <;> exact absurd ho List.not_mem_nil

/-- An object whose id or whose slot is taken changes nothing. -/
theorem IsStore.unchanged_of_taken (hinj : Set.InjOn rt.text_hash texts) (h : rt.IsStore texts t)
    {o : Object} (ho : rt.Genuine texts o)
    (htaken : o.id.str ∈ t.ids o.object_type ∨ ∃ s, (rt.row o).slot = some s ∧ t.TakenSlot s)
    (now : String) : (rt.store_remote now o t).2 = t := by
  have hnot : ¬ links.Fits (rt.stored texts t) o := by
    intro hfits
    have hadmits := (h.admits_iff o).mpr hfits
    rcases htaken with hid | ⟨s, hs, hslot⟩
    · refine hadmits.id ?_
      rw [row_id, row_object_type]
      exact hid
    · exact hadmits.slot s hs hslot
  obtain ⟨status, hstore, -⟩ := h.store_remote_of_not_fits ho now hinj hnot
  rw [hstore]

end Runtime

/-- What an issue or a solution refers to has no slot. -/
theorem Object.slot_of_parent {o p : Object} (ho : o.slot = none) (h : o.parent = some p.item) :
    p.slot = none := by
  have htype : o.parent.map GossipItem.object_type = some p.object_type := by rw [h]; rfl
  cases o <;> cases ho <;> cases p <;> cases htype
  rfl

/-- Votes and campaigns refer to issues and solutions, which have no slot. -/
theorem Object.slot_of_item {p : Object} {id : UUID}
    (h : p.item = ⟨.ISSUE, id⟩ ∨ p.item = ⟨.SOLUTION, id⟩) : p.slot = none := by
  cases p with
  | issue issue => rfl
  | solution solution => rfl
  | _ => rcases h with h | h <;> cases congrArg GossipItem.object_type h

/-- Only votes of a voter on an issue are in the slot for them. -/
theorem Object.issue_vote_of_slot {p : Object} {issue_id voter_id : UUID}
    (h : p.slot = some (.issue_vote issue_id voter_id)) :
    ∃ vote : IssueVote, p = .issue_vote vote ∧ vote.issue_id = issue_id ∧
      vote.voter_id = voter_id := by
  cases p with
  | issue_vote vote =>
      obtain ⟨hissue, hvoter⟩ := Slot.issue_vote.inj (Option.some.inj h)
      exact ⟨vote, rfl, hissue, hvoter⟩
  | _ => exact nomatch h

theorem Object.solution_vote_of_slot {p : Object} {solution_id voter_id : UUID}
    (h : p.slot = some (.solution_vote solution_id voter_id)) :
    ∃ vote : SolutionVote, p = .solution_vote vote ∧ vote.solution_id = solution_id ∧
      vote.voter_id = voter_id := by
  cases p with
  | solution_vote vote =>
      obtain ⟨hsolution, hvoter⟩ := Slot.solution_vote.inj (Option.some.inj h)
      exact ⟨vote, rfl, hsolution, hvoter⟩
  | _ => exact nomatch h

namespace Runtime

variable {rt : Runtime} {M : Finset Object}

/-! ## Stores that have settled -/

/-- A store that has settled, as a set of objects. -/
structure Ended (M : Set Object) (a : Set Object) : Prop where
  subset : a ⊆ M
  coherent : links.Coherent a
  settled : links.Settled M a

theorem Settles.ended (hM : rt.Models M) {deliveries : List (String × Object)}
    (h : rt.Settles M deliveries) :
    rt.IsStore (descriptions M) (rt.storeAll Tables.empty deliveries) ∧
      Ended M (rt.stored (descriptions M) (rt.storeAll Tables.empty deliveries)) := by
  obtain ⟨hstore, hstored⟩ := IsStore.empty.storeAll_spec hM.hashes
    fun d hd => hM.genuine (h.mem d hd)
  refine ⟨hstore, ⟨?_, hstore.coherent hM.hashes, fun o ho => ?_⟩⟩
  · rw [hstored, stored_empty]
    refine Links.receiveAll_subset (Set.empty_subset _) fun o ho => ?_
    obtain ⟨d, hd, rfl⟩ := List.mem_map.mp ho
    exact h.mem d hd
  · obtain ⟨status, t', hremote, -, hreceive, -⟩ :=
      hstore.store_remote_spec (hM.genuine ho) "" hM.hashes
    rw [← hreceive, ← h.unchanged o ho "", hremote]

section

variable {objects a b : Set Object}
  (hids : ∀ x ∈ objects, ∀ y ∈ objects, links.key x = links.key y → x = y)

include hids

/-- Objects without slot are the same in both: what they refer to has no slot either. -/
theorem Ended.mem_of_free (ha : Ended objects a) (hb : Ended objects b) {o : Object} (ho : o ∈ a)
    (hslot : o.slot = none) : o ∈ b := by
  refine hb.settled.mem_of_mem hids hb.subset ha.coherent ha.subset
    (fun x _ y _ hparent => Object.generation_lt hparent) ?_ ho hslot
  intro x _ hx y _ hparent
  exact Object.slot_of_parent hx hparent

/-- A slot is taken in the other store as well, if what its holder refers to has no slot. -/
theorem Ended.hasSlot_of_free (ha : Ended objects a) (hb : Ended objects b) {o : Object} (ho : o ∈ a)
    {s : Slot UUID} (hs : o.slot = some s)
    (hfree : ∀ p : Object, o.parent = some p.item → p.slot = none) : links.HasSlot b s := by
  refine hb.settled.hasSlot hids hb.subset (ha.subset ho) hs fun item hitem => ?_
  obtain ⟨p, hp, rfl⟩ := ha.coherent.parents o ho item hitem
  exact ⟨p, ha.mem_of_free hids hb hp (hfree p hitem), rfl⟩

/-- Whoever has voted on an issue in one store has done so in the other. -/
theorem Ended.issueVoters_subset (ha : Ended objects a) (hb : Ended objects b) (issue_id : UUID) :
    issueVoters a issue_id ⊆ issueVoters b issue_id := by
  rintro voter ⟨vote, hvote, rfl, rfl⟩
  obtain ⟨p, hp, hs⟩ := ha.hasSlot_of_free hids hb hvote (s := .issue_vote vote.issue_id vote.voter_id)
    rfl fun p hparent => Object.slot_of_item (.inl (Option.some.inj hparent).symm)
  obtain ⟨vote', rfl, hissue, hvoter⟩ := Object.issue_vote_of_slot hs
  exact ⟨vote', hp, hissue, hvoter⟩

theorem Ended.solutionVoters_subset (ha : Ended objects a) (hb : Ended objects b)
    (solution_id : UUID) : solutionVoters a solution_id ⊆ solutionVoters b solution_id := by
  rintro voter ⟨vote, hvote, rfl, rfl⟩
  obtain ⟨p, hp, hs⟩ :=
    ha.hasSlot_of_free hids hb hvote (s := .solution_vote vote.solution_id vote.voter_id)
      rfl fun p hparent => Object.slot_of_item (.inr (Option.some.inj hparent).symm)
  obtain ⟨vote', rfl, hsolution, hvoter⟩ := Object.solution_vote_of_slot hs
  exact ⟨vote', hp, hsolution, hvoter⟩

/-- On an issue that is stored everybody has voted who has a vote on it among the objects. -/
theorem Ended.issueVoters_eq (ha : Ended objects a) {issue : Issue} (hissue : .issue issue ∈ a) :
    issueVoters a issue.id = issueVoters objects issue.id := by
  apply subset_antisymm
  · rintro voter ⟨vote, hvote, hid, rfl⟩
    exact ⟨vote, ha.subset hvote, hid, rfl⟩
  · rintro voter ⟨vote, hvote, hid, rfl⟩
    have hslot := ha.settled.hasSlot hids ha.subset hvote
      (s := .issue_vote vote.issue_id vote.voter_id) rfl fun item hitem => by
        have hitem : some (⟨.ISSUE, vote.issue_id⟩ : GossipItem) = some item := hitem
        exact ⟨.issue issue, hissue, by rw [← Option.some.inj hitem, hid]; rfl⟩
    obtain ⟨p, hp, hs⟩ := hslot
    obtain ⟨vote', rfl, hissue', hvoter⟩ := Object.issue_vote_of_slot hs
    exact ⟨vote', hp, hissue'.trans hid, hvoter⟩

theorem Ended.solutionVoters_eq (ha : Ended objects a) {solution : Solution}
    (hsolution : .solution solution ∈ a) :
    solutionVoters a solution.id = solutionVoters objects solution.id := by
  apply subset_antisymm
  · rintro voter ⟨vote, hvote, hid, rfl⟩
    exact ⟨vote, ha.subset hvote, hid, rfl⟩
  · rintro voter ⟨vote, hvote, hid, rfl⟩
    have hslot := ha.settled.hasSlot hids ha.subset hvote
      (s := .solution_vote vote.solution_id vote.voter_id) rfl fun item hitem => by
        have hitem : some (⟨.SOLUTION, vote.solution_id⟩ : GossipItem) = some item := hitem
        exact ⟨.solution solution, hsolution, by rw [← Option.some.inj hitem, hid]; rfl⟩
    obtain ⟨p, hp, hs⟩ := hslot
    obtain ⟨vote', rfl, hsolution', hvoter⟩ := Object.solution_vote_of_slot hs
    exact ⟨vote', hp, hsolution'.trans hid, hvoter⟩

end

section

variable {texts : Set String} {s t : Tables} (hinj : Set.InjOn rt.text_hash texts)
  (hs : rt.IsStore texts s) (ht : rt.IsStore texts t)

include hinj hs ht

/-- Stores with the same issues and the same voters on each answer the same. -/
theorem IsStore.get_issue_with_votes_congr
    (hissue : ∀ issue, .issue issue ∈ rt.stored texts s ↔ .issue issue ∈ rt.stored texts t)
    (hvoters : ∀ issue_id,
      issueVoters (rt.stored texts s) issue_id = issueVoters (rt.stored texts t) issue_id)
    (issue_id : UUID) : rt.get_issue_with_votes issue_id s = rt.get_issue_with_votes issue_id t := by
  rcases hs.issue_or_none issue_id with ⟨issue, hstored, rfl⟩ | ⟨hnone, hget⟩
  · rw [hs.get_issue_with_votes_of_mem hinj hstored,
      ht.get_issue_with_votes_of_mem hinj ((hissue issue).mp hstored), hvoters]
  · rcases ht.issue_or_none issue_id with ⟨issue, hstored, hid⟩ | ⟨-, hget'⟩
    · exact absurd hid (hnone issue ((hissue issue).mpr hstored))
    · rw [hget, hget']

theorem IsStore.get_solution_with_votes_congr
    (hsolution : ∀ solution,
      .solution solution ∈ rt.stored texts s ↔ .solution solution ∈ rt.stored texts t)
    (hvoters : ∀ solution_id,
      solutionVoters (rt.stored texts s) solution_id = solutionVoters (rt.stored texts t) solution_id)
    (solution_id : UUID) :
    rt.get_solution_with_votes solution_id s = rt.get_solution_with_votes solution_id t := by
  rcases hs.solution_or_none solution_id with ⟨solution, hstored, rfl⟩ | ⟨hnone, hget⟩
  · rw [hs.get_solution_with_votes_of_mem hinj hstored,
      ht.get_solution_with_votes_of_mem hinj ((hsolution solution).mp hstored), hvoters]
  · rcases ht.solution_or_none solution_id with ⟨solution, hstored, hid⟩ | ⟨-, hget'⟩
    · exact absurd hid (hnone solution ((hsolution solution).mpr hstored))
    · rw [hget, hget']

end

end Runtime

/-! ## Votes -/

/-- **Peers agree on issues, solutions and votes.** Let M be a finite set of models in which
distinct objects of one type have distinct ids, and take any two sequences of `store_remote`
calls over M, from empty stores, after which delivering any object of M changes nothing. Then
the two stores hold the same issues, the same solutions and the same voters on each of them,
and `get_issue_with_votes` and `get_solution_with_votes` answer the same; for what is stored
the count is the number of distinct voters with a vote on it in M. -/
theorem votes_converge (rt : Runtime) (M : Finset Object) (hM : rt.Models M)
    (first second : List (String × Object)) (hfirst : rt.Settles M first)
    (hsecond : rt.Settles M second) :
    let a := rt.storeAll Tables.empty first
    let b := rt.storeAll Tables.empty second
    (∀ issue, .issue issue ∈ rt.objects a ↔ .issue issue ∈ rt.objects b) ∧
    (∀ solution, .solution solution ∈ rt.objects a ↔ .solution solution ∈ rt.objects b) ∧
    (∀ issue_id, Runtime.issueVoters (rt.objects a) issue_id =
      Runtime.issueVoters (rt.objects b) issue_id) ∧
    (∀ solution_id, Runtime.solutionVoters (rt.objects a) solution_id =
      Runtime.solutionVoters (rt.objects b) solution_id) ∧
    (∀ issue_id, rt.get_issue_with_votes issue_id a = rt.get_issue_with_votes issue_id b) ∧
    (∀ solution_id, rt.get_solution_with_votes solution_id a =
      rt.get_solution_with_votes solution_id b) ∧
    (∀ issue, .issue issue ∈ rt.objects a → rt.get_issue_with_votes issue.id a =
      .ok (some ⟨issue, (Runtime.issueVoters M issue.id).ncard⟩)) ∧
    ∀ solution, .solution solution ∈ rt.objects a → rt.get_solution_with_votes solution.id a =
      .ok (some ⟨solution, (Runtime.solutionVoters M solution.id).ncard⟩) := by
  intro a b
  obtain ⟨ha, haend⟩ := hfirst.ended hM
  obtain ⟨hb, hbend⟩ := hsecond.ended hM
  have hids : ∀ x ∈ (M : Set Object), ∀ y ∈ (M : Set Object), links.key x = links.key y → x = y :=
    hM.ids
  rw [ha.objects_eq hM.hashes, hb.objects_eq hM.hashes]
  -- nothing can keep an issue or a solution out of a settled store, so each store has the other's
  have hissue : ∀ issue, .issue issue ∈ rt.stored (descriptions M) a ↔
      .issue issue ∈ rt.stored (descriptions M) b := fun issue =>
    ⟨fun h => haend.mem_of_free hids hbend h rfl, fun h => hbend.mem_of_free hids haend h rfl⟩
  have hsolution : ∀ solution, .solution solution ∈ rt.stored (descriptions M) a ↔
      .solution solution ∈ rt.stored (descriptions M) b := fun solution =>
    ⟨fun h => haend.mem_of_free hids hbend h rfl, fun h => hbend.mem_of_free hids haend h rfl⟩
  have hissueVoters (issue_id : UUID) :
      Runtime.issueVoters (rt.stored (descriptions M) a) issue_id =
        Runtime.issueVoters (rt.stored (descriptions M) b) issue_id :=
    subset_antisymm (haend.issueVoters_subset hids hbend issue_id)
      (hbend.issueVoters_subset hids haend issue_id)
  have hsolutionVoters (solution_id : UUID) :
      Runtime.solutionVoters (rt.stored (descriptions M) a) solution_id =
        Runtime.solutionVoters (rt.stored (descriptions M) b) solution_id :=
    subset_antisymm (haend.solutionVoters_subset hids hbend solution_id)
      (hbend.solutionVoters_subset hids haend solution_id)
  refine ⟨hissue, hsolution, hissueVoters, hsolutionVoters,
    ha.get_issue_with_votes_congr hM.hashes hb hissue hissueVoters,
    ha.get_solution_with_votes_congr hM.hashes hb hsolution hsolutionVoters,
    fun issue hstored => ?_, fun solution hstored => ?_⟩
  · rw [ha.get_issue_with_votes_of_mem hM.hashes hstored, haend.issueVoters_eq hids hstored]
  · rw [ha.get_solution_with_votes_of_mem hM.hashes hstored, haend.solutionVoters_eq hids hstored]

/-- An issue and two votes of one voter on it. -/
def votedTwice : Finset Object :=
  {.issue (exampleIssue 1 ""), .issue_vote ⟨7, 1, 2, exampleDate⟩, .issue_vote ⟨7, 1, 3, exampleDate⟩}

theorem votedTwice_models : exampleRuntime.Models votedTwice where
  created_at := by
    intro o ho
    simp only [votedTwice, Finset.mem_insert, Finset.mem_singleton] at ho
    rcases ho with rfl | rfl | rfl <;> exact exampleDate_isDatetime
  fits := by
    intro o ho
    simp only [votedTwice, Finset.mem_insert, Finset.mem_singleton] at ho
    rcases ho with rfl | rfl | rfl <;> trivial
  ids := by decide +kernel
  hashes := by
    refine exampleTexts_injOn.mono ?_
    rintro text ⟨o, ho, htext⟩
    simp only [votedTwice, Finset.mem_insert, Finset.mem_singleton] at ho
    rcases ho with rfl | rfl | rfl <;> cases htext
    exact .inl rfl

/-- One vote before the other. -/
def firstVoteFirst : List (String × Object) :=
  [("2024-01-01T00:00:01+00:00", .issue (exampleIssue 1 "")),
    ("2024-01-01T00:00:02+00:00", .issue_vote ⟨7, 1, 2, exampleDate⟩),
    ("2024-01-01T00:00:03+00:00", .issue_vote ⟨7, 1, 3, exampleDate⟩)]

/-- The other one before it, and once before the issue. -/
def secondVoteFirst : List (String × Object) :=
  [("2024-01-01T00:00:01+00:00", .issue_vote ⟨7, 1, 3, exampleDate⟩),
    ("2024-01-01T00:00:02+00:00", .issue (exampleIssue 1 "")),
    ("2024-01-01T00:00:03+00:00", .issue_vote ⟨7, 1, 3, exampleDate⟩),
    ("2024-01-01T00:00:04+00:00", .issue_vote ⟨7, 1, 2, exampleDate⟩)]

/-- Deliveries after which every id or slot is taken have settled. -/
theorem Runtime.Settles.of_taken {rt : Runtime} {M : Finset Object} (hM : rt.Models M)
    {deliveries : List (String × Object)} (hmem : ∀ delivery ∈ deliveries, delivery.2 ∈ M)
    (htaken : ∀ o ∈ M, o.id.str ∈ (rt.storeAll Tables.empty deliveries).ids o.object_type ∨
      ∃ s, (rt.row o).slot = some s ∧ (rt.storeAll Tables.empty deliveries).TakenSlot s) :
    rt.Settles M deliveries where
  mem := hmem
  unchanged := by
    intro o ho now
    obtain ⟨hstore, -⟩ := IsStore.empty.storeAll_spec hM.hashes
      fun d hd => hM.genuine (hmem d hd)
    exact hstore.unchanged_of_taken hM.hashes (hM.genuine ho) (htaken o ho) now

/-- The repository with the issue, which arrived at that time, and one vote on it. -/
def votedStore (now : String) (vote : IssueVote) : Tables where
  content_objects := [exampleRuntime.content_row now ""]
  issues := [exampleRuntime.issue_row (exampleIssue 1 "")]
  issue_votes := [issue_vote_row vote]
  solutions := []
  solution_votes := []
  funding_campaigns := []
  funding_pledges := []

theorem storeAll_firstVoteFirst : exampleRuntime.storeAll Tables.empty firstVoteFirst =
    votedStore "2024-01-01T00:00:01+00:00" ⟨7, 1, 2, exampleDate⟩ := by
  decide +kernel

theorem storeAll_secondVoteFirst : exampleRuntime.storeAll Tables.empty secondVoteFirst =
    votedStore "2024-01-01T00:00:02+00:00" ⟨7, 1, 3, exampleDate⟩ := by
  decide +kernel

/-- The pair of the kept vote is taken for both votes. -/
theorem votedStore_taken (now : String) (id kept : UUID) :
    ∃ s, (exampleRuntime.row (.issue_vote ⟨7, 1, id, exampleDate⟩)).slot = some s ∧
      (votedStore now ⟨7, 1, kept, exampleDate⟩).TakenSlot s := by
  have hpair : ((1 : UUID).str, (7 : UUID).str) ∈
      (votedStore now ⟨7, 1, kept, exampleDate⟩).issue_votes.map VoteRow.pair :=
    List.mem_singleton_self _
  exact ⟨_, rfl, hpair⟩

theorem firstVoteFirst_settles : exampleRuntime.Settles votedTwice firstVoteFirst := by
  refine .of_taken votedTwice_models (by decide +kernel) fun o ho => ?_
  rw [storeAll_firstVoteFirst]
  simp only [votedTwice, Finset.mem_insert, Finset.mem_singleton] at ho
  rcases ho with rfl | rfl | rfl
  · exact .inl (List.mem_singleton_self _)
  · exact .inr (votedStore_taken _ _ _)
  · exact .inr (votedStore_taken _ _ _)

theorem secondVoteFirst_settles : exampleRuntime.Settles votedTwice secondVoteFirst := by
  refine .of_taken votedTwice_models (by decide +kernel) fun o ho => ?_
  rw [storeAll_secondVoteFirst]
  simp only [votedTwice, Finset.mem_insert, Finset.mem_singleton] at ho
  rcases ho with rfl | rfl | rfl
  · exact .inl (List.mem_singleton_self _)
  · exact .inr (votedStore_taken _ _ _)
  · exact .inr (votedStore_taken _ _ _)

/-- Different votes were kept, and the issue has the same count. -/
theorem votes_converge_twice :
    (exampleRuntime.storeAll Tables.empty firstVoteFirst).issue_votes ≠
      (exampleRuntime.storeAll Tables.empty secondVoteFirst).issue_votes ∧
    exampleRuntime.get_issue_with_votes 1 (exampleRuntime.storeAll Tables.empty firstVoteFirst) =
      exampleRuntime.get_issue_with_votes 1
        (exampleRuntime.storeAll Tables.empty secondVoteFirst) := by
  constructor
  · rw [storeAll_firstVoteFirst, storeAll_secondVoteFirst]
    decide +kernel
  obtain ⟨-, -, -, -, hcounts, -⟩ := votes_converge exampleRuntime votedTwice votedTwice_models
    firstVoteFirst secondVoteFirst firstVoteFirst_settles secondVoteFirst_settles
  exact hcounts 1

end Superorganism.Democracy
