/-
What goes with a deleted row.

The tables name each other through foreign keys, and `_create_schema` gives the five references
between objects ON DELETE CASCADE: votes and solutions go with their issue, votes and campaigns
with their solution, pledges with their campaign. The chain from a pledge up to an issue has four
links. `DependsOn` follows the references through whatever rows there are, without a word on which
table comes after which; the deletions of the model go table by table. The two agree in every
repository that writes have made, and nothing else changes, the descriptions included.
-/
import Superorganism.RepositoryRuns
import Superorganism.Rows

set_option autoImplicit false

open Superorganism.Py Superorganism.Gossip Superorganism.Sql

namespace Superorganism.Democracy

/-! ## Dependence -/

/-- The table of a row and its primary key. -/
def Row.key (row : Row) : ObjectType × String := (row.object_type, row.id)

theorem Row.issue_of_key {row : Row} {k : String} (h : row.key = (.ISSUE, k)) :
    ∃ r : IssueRow, row = .issue r ∧ r.id = k := by
  cases row <;> cases h
  exact ⟨_, rfl, rfl⟩

theorem Row.solution_of_key {row : Row} {k : String} (h : row.key = (.SOLUTION, k)) :
    ∃ r : SolutionRow, row = .solution r ∧ r.id = k := by
  cases row <;> cases h
  exact ⟨_, rfl, rfl⟩

theorem Row.campaign_of_key {row : Row} {k : String} (h : row.key = (.FUNDING_CAMPAIGN, k)) :
    ∃ r : CampaignRow, row = .campaign r ∧ r.id = k := by
  cases row <;> cases h
  exact ⟨_, rfl, rfl⟩

namespace Tables

variable (t : Tables)

/-- A foreign key of the row names the other one, which is there. -/
def RefersTo (row other : Row) : Prop := t.HasRow other ∧ row.parent = some other.key

/-- The row is the one with the key, or leads to it through references. -/
def DependsOn (target : ObjectType × String) (row : Row) : Prop :=
  ∃ gone, t.HasRow gone ∧ gone.key = target ∧ Relation.ReflTransGen t.RefersTo row gone

open Classical in
/-- The tables less some of the rows; the other rows keep their order. -/
noncomputable def without (gone : Row → Prop) : Tables :=
  { t with
    issues := t.issues.filter fun row => ¬ gone (.issue row)
    issue_votes := t.issue_votes.filter fun row => ¬ gone (.issue_vote row)
    solutions := t.solutions.filter fun row => ¬ gone (.solution row)
    solution_votes := t.solution_votes.filter fun row => ¬ gone (.solution_vote row)
    funding_campaigns := t.funding_campaigns.filter fun row => ¬ gone (.campaign row)
    funding_pledges := t.funding_pledges.filter fun row => ¬ gone (.pledge row) }

variable {t} {target : ObjectType × String} (row : Row)

/-- One reference: a row that is not the target depends on it through what it refers to. -/
theorem dependsOn_iff (hrow : t.HasRow row) : t.DependsOn target row ↔
    row.key = target ∨ ∃ other, t.RefersTo row other ∧ t.DependsOn target other := by
  constructor
  · rintro ⟨gone, hgone, hkey, hpath⟩
    rcases hpath.cases_head with rfl | ⟨other, hfirst, hrest⟩
    · exact .inl hkey
    · exact .inr ⟨other, hfirst, gone, hgone, hkey, hrest⟩
  · rintro (hkey | ⟨other, hfirst, gone, hgone, hkey, hrest⟩)
    · exact ⟨row, hrow, hkey, .refl⟩
    · exact ⟨gone, hgone, hkey, hrest.head hfirst⟩

/-- A row without a foreign key between objects depends on itself alone. -/
theorem dependsOn_of_root (hrow : t.HasRow row) (hparent : row.parent = none) :
    t.DependsOn target row ↔ row.key = target := by
  rw [dependsOn_iff row hrow]
  constructor
  · rintro (hkey | ⟨other, ⟨-, hother⟩, -⟩)
    · exact hkey
    · exact nomatch hparent.symm.trans hother
  · exact .inl

/-- A row of another table goes with the row it names. -/
theorem dependsOn_of_parent (hrow : t.HasRow row) (htable : row.object_type ≠ target.1)
    {key : ObjectType × String} (hparent : row.parent = some key) :
    t.DependsOn target row ↔
      ∃ other, t.HasRow other ∧ other.key = key ∧ t.DependsOn target other := by
  have hkey : row.key ≠ target := fun h => htable (congrArg Prod.fst h)
  rw [dependsOn_iff row hrow, or_iff_right hkey]
  constructor
  · rintro ⟨other, ⟨hother, hname⟩, hdepends⟩
    exact ⟨other, hother, Option.some.inj (hname.symm.trans hparent), hdepends⟩
  · rintro ⟨other, hother, rfl, hdepends⟩
    exact ⟨other, ⟨hother, hparent⟩, hdepends⟩

/-! ## Below a solution -/

/-- The rows that name a solution go with the solutions that go. -/
theorem dependsOn_of_solution {gone : SolutionRow → Bool}
    (hgone : ∀ r ∈ t.solutions, t.DependsOn target (.solution r) ↔ gone r = true)
    (hrow : t.HasRow row) (htable : row.object_type ≠ target.1) {id : String}
    (hparent : row.parent = some (.SOLUTION, id)) :
    t.DependsOn target row ↔ id ∈ t.goneSolutions gone := by
  rw [dependsOn_of_parent row hrow htable hparent, goneSolutions, List.mem_map]
  constructor
  · rintro ⟨other, hother, hkey, hdepends⟩
    obtain ⟨r, rfl, hid⟩ := Row.solution_of_key hkey
    exact ⟨r, List.mem_filter.mpr ⟨hother, (hgone r hother).mp hdepends⟩, hid⟩
  · rintro ⟨r, hr, rfl⟩
    obtain ⟨hmem, hr⟩ := List.mem_filter.mp hr
    exact ⟨.solution r, hmem, rfl, (hgone r hmem).mpr hr⟩

/-- The pledges go with the campaigns that go. -/
theorem dependsOn_of_campaign {gone : SolutionRow → Bool}
    (hgone : ∀ r ∈ t.solutions, t.DependsOn target (.solution r) ↔ gone r = true)
    (hcampaign : ObjectType.FUNDING_CAMPAIGN ≠ target.1)
    (hpledge : ObjectType.FUNDING_PLEDGE ≠ target.1) {r : PledgeRow} (hr : r ∈ t.funding_pledges) :
    t.DependsOn target (.pledge r) ↔ r.campaign_id ∈ t.goneCampaigns gone := by
  have hcampaigns (c : CampaignRow) (hc : c ∈ t.funding_campaigns) :
      t.DependsOn target (.campaign c) ↔ c.solution_id ∈ t.goneSolutions gone :=
    dependsOn_of_solution (.campaign c) hgone hc hcampaign rfl
  rw [dependsOn_of_parent (.pledge r) hr hpledge rfl, goneCampaigns, List.mem_map]
  constructor
  · rintro ⟨other, hother, hkey, hdepends⟩
    obtain ⟨c, rfl, hid⟩ := Row.campaign_of_key hkey
    have hname := (hcampaigns c hother).mp hdepends
    exact ⟨c, List.mem_filter.mpr ⟨hother, decide_eq_true hname⟩, hid⟩
  · rintro ⟨c, hc, hid⟩
    obtain ⟨hmem, hname⟩ := List.mem_filter.mp hc
    exact ⟨.campaign c, hmem, congrArg (Prod.mk ObjectType.FUNDING_CAMPAIGN) hid,
      (hcampaigns c hmem).mpr (of_decide_eq_true hname)⟩

/-- Deleting solutions deletes what depends on them, if the target is no row below. -/
theorem delete_solutions_eq {gone : SolutionRow → Bool}
    (hgone : ∀ r ∈ t.solutions, t.DependsOn target (.solution r) ↔ gone r = true)
    (hvote : ObjectType.SOLUTION_VOTE ≠ target.1)
    (hcampaign : ObjectType.FUNDING_CAMPAIGN ≠ target.1)
    (hpledge : ObjectType.FUNDING_PLEDGE ≠ target.1) :
    t.delete_solutions gone = { t.without (t.DependsOn target) with
      issues := t.issues
      issue_votes := t.issue_votes } := by
  have hsolutions : t.solutions.filter (fun r => !gone r) =
      (t.without (t.DependsOn target)).solutions := by
    refine List.filter_congr fun r hr => ?_
    simp [hgone r hr]
  have hvotes : t.solution_votes.filter (fun r => decide (r.target_id ∉ t.goneSolutions gone)) =
      (t.without (t.DependsOn target)).solution_votes := by
    refine List.filter_congr fun r hr => ?_
    simp [dependsOn_of_solution (.solution_vote r) hgone hr hvote rfl]
  have hcampaigns : t.funding_campaigns.filter
      (fun r => decide (r.solution_id ∉ t.goneSolutions gone)) =
      (t.without (t.DependsOn target)).funding_campaigns := by
    refine List.filter_congr fun r hr => ?_
    simp [dependsOn_of_solution (.campaign r) hgone hr hcampaign rfl]
  have hpledges : t.funding_pledges.filter
      (fun r => decide (r.campaign_id ∉ t.goneCampaigns gone)) =
      (t.without (t.DependsOn target)).funding_pledges := by
    refine List.filter_congr fun r hr => ?_
    simp [dependsOn_of_campaign hgone hcampaign hpledge hr]
  rw [delete_solutions, hsolutions, hvotes, hcampaigns, hpledges]
  rfl

/-! ## The two deletions -/

/-- The row with the key and what depends on it are removed, everything else is as it was, and
the answer says whether the row was there. -/
def RemovesDependents (operation : Tables → Except PyError Bool × Tables)
    (target : ObjectType × String) (t : Tables) : Prop :=
  (operation t).1 = .ok (decide (target.2 ∈ t.ids target.1)) ∧
    (operation t).2 = t.without (t.DependsOn target)

/-- `cursor.rowcount > 0`. -/
theorem rowcount_pos {ρ : Type} {id : ρ → String} {rows : List ρ} {k : String} :
    decide ((rows.filter fun row => id row = k).length > 0) = decide (k ∈ rows.map id) := by
  rw [decide_eq_decide, gt_iff_lt, List.length_pos_iff_exists_mem, List.mem_map]
  simp only [List.mem_filter, decide_eq_true_eq]

theorem removes_issue (h : Schema t) (issue_id : UUID) :
    RemovesDependents (Democracy.delete_issue issue_id) (.ISSUE, issue_id.str) t := by
  have hissue (r : IssueRow) (hr : r ∈ t.issues) :
      t.DependsOn (.ISSUE, issue_id.str) (.issue r) ↔ r.id = issue_id.str := by
    rw [dependsOn_of_root (.issue r) hr rfl]
    exact ⟨congrArg Prod.snd, congrArg (Prod.mk ObjectType.ISSUE)⟩
  -- what names an issue goes exactly if it names this one, for the issue it names is there
  have hnames (row : Row) (hrow : t.HasRow row) (htable : row.object_type ≠ .ISSUE) {k : String}
      (hparent : row.parent = some (.ISSUE, k)) (hthere : ∃ r ∈ t.issues, r.id = k) :
      t.DependsOn (.ISSUE, issue_id.str) row ↔ k = issue_id.str := by
    rw [dependsOn_of_parent row hrow htable hparent]
    constructor
    · rintro ⟨other, hother, hkey, hdepends⟩
      obtain ⟨r, rfl, hid⟩ := Row.issue_of_key hkey
      exact hid.symm.trans ((hissue r hother).mp hdepends)
    · rintro rfl
      obtain ⟨r, hr, hid⟩ := hthere
      exact ⟨.issue r, hr, congrArg (Prod.mk ObjectType.ISSUE) hid, (hissue r hr).mpr hid⟩
  have hsolutions (r : SolutionRow) (hr : r ∈ t.solutions) :
      t.DependsOn (.ISSUE, issue_id.str) (.solution r) ↔
        decide (r.issue_id = issue_id.str) = true := by
    rw [decide_eq_true_eq]
    exact hnames (.solution r) hr nofun rfl (h.solution_issue r hr)
  have hissues : t.issues.filter (fun r => r.id ≠ issue_id.str) =
      (t.without (t.DependsOn (.ISSUE, issue_id.str))).issues := by
    refine List.filter_congr fun r hr => ?_
    simp [hissue r hr]
  have hvotes : t.issue_votes.filter (fun r => r.target_id ≠ issue_id.str) =
      (t.without (t.DependsOn (.ISSUE, issue_id.str))).issue_votes := by
    refine List.filter_congr fun r hr => ?_
    simp [hnames (.issue_vote r) hr nofun rfl (h.issue_vote_issue r hr)]
  refine ⟨congrArg Except.ok rowcount_pos, ?_⟩
  show (t.delete_issue_row issue_id.str).2 = _
  rw [delete_issue_row, delete_solutions_eq hsolutions nofun nofun nofun, hissues, hvotes]

theorem removes_solution (solution_id : UUID) :
    RemovesDependents (Democracy.delete_solution solution_id) (.SOLUTION, solution_id.str) t := by
  -- nothing above a solution depends on one
  have hissue (r : IssueRow) (hr : r ∈ t.issues) :
      ¬ t.DependsOn (.SOLUTION, solution_id.str) (.issue r) := by
    rw [dependsOn_of_root (.issue r) hr rfl]
    intro hkey
    cases hkey
  have hnames {row : Row} {k : String} (hparent : row.parent = some (.ISSUE, k)) :
      ¬ ∃ other, t.RefersTo row other ∧ t.DependsOn (.SOLUTION, solution_id.str) other := by
    rintro ⟨other, ⟨hother, hkey⟩, hdepends⟩
    obtain ⟨r, rfl, -⟩ := Row.issue_of_key (Option.some.inj (hkey.symm.trans hparent))
    exact hissue r hother hdepends
  have hsolutions (r : SolutionRow) (hr : r ∈ t.solutions) :
      t.DependsOn (.SOLUTION, solution_id.str) (.solution r) ↔
        decide (r.id = solution_id.str) = true := by
    rw [dependsOn_iff (.solution r) hr, or_iff_left (hnames rfl), decide_eq_true_eq]
    exact ⟨congrArg Prod.snd, congrArg (Prod.mk ObjectType.SOLUTION)⟩
  have hdeleted := delete_solutions_eq hsolutions nofun nofun nofun
  have hissues : t.issues = (t.without (t.DependsOn (.SOLUTION, solution_id.str))).issues := by
    symm
    refine List.filter_eq_self.mpr fun r hr => ?_
    simpa using hissue r hr
  have hvotes : t.issue_votes =
      (t.without (t.DependsOn (.SOLUTION, solution_id.str))).issue_votes := by
    symm
    refine List.filter_eq_self.mpr fun r hr => ?_
    have hvote : ¬ t.DependsOn (.SOLUTION, solution_id.str) (.issue_vote r) := by
      rw [dependsOn_iff (.issue_vote r) hr]
      rintro (hkey | hother)
      · cases hkey
      · exact hnames rfl hother
    simpa using hvote
  refine ⟨congrArg Except.ok rowcount_pos, ?_⟩
  show (t.delete_solution_row solution_id.str).2 = _
  rw [delete_solution_row, hdeleted]
  dsimp only
  rw [hissues, hvotes]

end Tables

/-- **What the deletions remove**: in every repository that writes have made, exactly the row and
the rows that depend on it, at whatever depth; and the answer is `True` exactly if the row was
there. -/
theorem deletions_remove_dependents (rt : Runtime) (writes : List (String × Write)) :
    let t := (rt.runWrites writes).1
    (∀ issue_id : UUID,
      Tables.RemovesDependents (delete_issue issue_id) (.ISSUE, issue_id.str) t) ∧
    ∀ solution_id : UUID,
      Tables.RemovesDependents (delete_solution solution_id) (.SOLUTION, solution_id.str) t := by
  intro t
  have hschema : Schema t := (rt.runWrites_keeps writes).1.1
  exact ⟨Tables.removes_issue hschema, Tables.removes_solution⟩

end Superorganism.Democracy
