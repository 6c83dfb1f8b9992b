/-
The six tables of replicated objects as one.

A row of any of them is a `Row`, with the id, the reference and the unique columns that the
schema gives its table, and `Tables.insert_row` is the INSERT of its table. What a table
refuses and what the schema keeps is said here once for all of them: a row is added when its
id and its slot are new and its parent is there; a slot that is taken is named in the answer,
and a missing parent is a failed foreign key.
-/
import Superorganism.Gossip
import Superorganism.Schema

set_option autoImplicit false

open Superorganism.Py Superorganism.Gossip Superorganism.Sql

namespace Superorganism.Democracy

/-! ## Slots -/

/-- What is unique besides the ids, over texts in the tables and UUIDs in the models. -/
inductive Slot (ι : Type) where
  | issue_vote (issue voter : ι)
  | solution_vote (solution voter : ι)
  | campaign (solution : ι)
  | pledge (campaign : ι) (txid : String) (vout : ℤ)
deriving DecidableEq

def Slot.map {ι ι' : Type} (f : ι → ι') : Slot ι → Slot ι'
  | .issue_vote i v => .issue_vote (f i) (f v)
  | .solution_vote s v => .solution_vote (f s) (f v)
  | .campaign s => .campaign (f s)
  | .pledge c txid vout => .pledge (f c) txid vout

theorem Slot.map_injective {ι ι' : Type} {f : ι → ι'} (hf : Function.Injective f) :
    Function.Injective (Slot.map f) := by
  intro a b h
  cases a <;> cases b <;> simp only [Slot.map, Slot.issue_vote.injEq, Slot.solution_vote.injEq,
    Slot.campaign.injEq, Slot.pledge.injEq, hf.eq_iff, reduceCtorEq] at h ⊢ <;> exact h

/-! ## Rows -/

inductive Row where
  | issue (row : IssueRow)
  | issue_vote (row : VoteRow)
  | solution (row : SolutionRow)
  | solution_vote (row : VoteRow)
  | campaign (row : CampaignRow)
  | pledge (row : PledgeRow)

namespace Row

def object_type : Row → ObjectType
  | .issue _ => .ISSUE
  | .issue_vote _ => .ISSUE_VOTE
  | .solution _ => .SOLUTION
  | .solution_vote _ => .SOLUTION_VOTE
  | .campaign _ => .FUNDING_CAMPAIGN
  | .pledge _ => .FUNDING_PLEDGE

def id : Row → String
  | .issue r => r.id
  | .issue_vote r => r.id
  | .solution r => r.id
  | .solution_vote r => r.id
  | .campaign r => r.id
  | .pledge r => r.id

/-- The reference to another object, with the type of the table it points into. -/
def parent : Row → Option (ObjectType × String)
  | .issue _ => none
  | .issue_vote r => some (.ISSUE, r.target_id)
  | .solution r => some (.ISSUE, r.issue_id)
  | .solution_vote r => some (.SOLUTION, r.target_id)
  | .campaign r => some (.SOLUTION, r.solution_id)
  | .pledge r => some (.FUNDING_CAMPAIGN, r.campaign_id)

def slot : Row → Option (Slot String)
  | .issue _ => none
  | .issue_vote r => some (.issue_vote r.target_id r.voter_id)
  | .solution _ => none
  | .solution_vote r => some (.solution_vote r.target_id r.voter_id)
  | .campaign r => some (.campaign r.solution_id)
  | .pledge r => some (.pledge r.campaign_id r.txid r.vout)

def description_hash : Row → Option String
  | .issue r => some r.description_hash
  | .solution r => some r.description_hash
  | _ => none

/-- The columns that the UNIQUE clause of the slot names. -/
def slot_columns : Row → String
  | .issue _ => ""
  | .issue_vote _ => "issue_votes.issue_id, issue_votes.voter_id"
  | .solution _ => ""
  | .solution_vote _ => "solution_votes.solution_id, solution_votes.voter_id"
  | .campaign _ => "funding_campaigns.solution_id"
  | .pledge _ => "funding_pledges.campaign_id, funding_pledges.txid, funding_pledges.vout"

/-- The integers fit in 64 bits. -/
def FitsColumns : Row → Prop
  | .campaign r => r.asking_price_sats < 2 ^ 63 ∧ ∀ height ∈ r.deadline_height, height < 2 ^ 63
  | .pledge r => r.vout < 2 ^ 63 ∧ r.value_sats < 2 ^ 63
  | _ => True

end Row

namespace Tables

variable (t : Tables)

def HasRow : Row → Prop
  | .issue r => r ∈ t.issues
  | .issue_vote r => r ∈ t.issue_votes
  | .solution r => r ∈ t.solutions
  | .solution_vote r => r ∈ t.solution_votes
  | .campaign r => r ∈ t.funding_campaigns
  | .pledge r => r ∈ t.funding_pledges

/-- The ids of a table. -/
def ids : ObjectType → List String
  | .ISSUE => t.issues.map IssueRow.id
  | .ISSUE_VOTE => t.issue_votes.map VoteRow.id
  | .SOLUTION => t.solutions.map SolutionRow.id
  | .SOLUTION_VOTE => t.solution_votes.map VoteRow.id
  | .FUNDING_CAMPAIGN => t.funding_campaigns.map CampaignRow.id
  | .FUNDING_PLEDGE => t.funding_pledges.map PledgeRow.id

/-- The slot is taken in its table. -/
def TakenSlot : Slot String → Prop
  | .issue_vote i v => (i, v) ∈ t.issue_votes.map VoteRow.pair
  | .solution_vote s v => (s, v) ∈ t.solution_votes.map VoteRow.pair
  | .campaign s => s ∈ t.funding_campaigns.map CampaignRow.solution_id
  | .pledge c txid vout => (c, txid, vout) ∈ t.funding_pledges.map PledgeRow.outpoint

/-- The INSERT of the row's table. -/
def insert_row : Row → Except PyError (Unit × Tables)
  | .issue r => t.insert_issue r
  | .issue_vote r => t.insert_issue_vote r
  | .solution r => t.insert_solution r
  | .solution_vote r => t.insert_solution_vote r
  | .campaign r => t.insert_campaign r
  | .pledge r => t.insert_pledge r

variable {t}

theorem mem_ids {object_type : ObjectType} {x : String} :
    x ∈ t.ids object_type ↔ ∃ row, t.HasRow row ∧ row.object_type = object_type ∧ row.id = x := by
  constructor
  · intro h
    cases object_type with
    | ISSUE =>
        obtain ⟨r, hr, rfl⟩ := List.mem_map.mp h
        exact ⟨.issue r, hr, rfl, rfl⟩
    | ISSUE_VOTE =>
        obtain ⟨r, hr, rfl⟩ := List.mem_map.mp h
        exact ⟨.issue_vote r, hr, rfl, rfl⟩
    | SOLUTION =>
        obtain ⟨r, hr, rfl⟩ := List.mem_map.mp h
        exact ⟨.solution r, hr, rfl, rfl⟩
    | SOLUTION_VOTE =>
        obtain ⟨r, hr, rfl⟩ := List.mem_map.mp h
        exact ⟨.solution_vote r, hr, rfl, rfl⟩
    | FUNDING_CAMPAIGN =>
        obtain ⟨r, hr, rfl⟩ := List.mem_map.mp h
        exact ⟨.campaign r, hr, rfl, rfl⟩
    | FUNDING_PLEDGE =>
        obtain ⟨r, hr, rfl⟩ := List.mem_map.mp h
        exact ⟨.pledge r, hr, rfl, rfl⟩
  · rintro ⟨row, hrow, rfl, rfl⟩
    cases row <;> exact List.mem_map_of_mem hrow

theorem takenSlot_iff {s : Slot String} :
    t.TakenSlot s ↔ ∃ row, t.HasRow row ∧ row.slot = some s := by
  constructor
  · intro h
    cases s with
    | issue_vote i v =>
        obtain ⟨r, hr, hpair⟩ := List.mem_map.mp h
        cases hpair
        exact ⟨.issue_vote r, hr, rfl⟩
    | solution_vote s v =>
        obtain ⟨r, hr, hpair⟩ := List.mem_map.mp h
        cases hpair
        exact ⟨.solution_vote r, hr, rfl⟩
    | campaign s =>
        obtain ⟨r, hr, rfl⟩ := List.mem_map.mp h
        exact ⟨.campaign r, hr, rfl⟩
    | pledge c txid vout =>
        obtain ⟨r, hr, houtpoint⟩ := List.mem_map.mp h
        cases houtpoint
        exact ⟨.pledge r, hr, rfl⟩
  · rintro ⟨row, hrow, hslot⟩
    cases row <;> cases hslot <;> exact List.mem_map_of_mem hrow

/-! ## The INSERT of any table -/

/-- What the constraints of the row's table ask for. -/
structure Admits (t : Tables) (row : Row) : Prop where
  id : row.id ∉ t.ids row.object_type
  slot : ∀ s, row.slot = some s → ¬ t.TakenSlot s
  parent : ∀ p, row.parent = some p → p.2 ∈ t.ids p.1

/-- Only the rows matter. -/
theorem Admits.congr {t' : Tables} {row : Row} (h : t.Admits row)
    (hrows : ∀ r, t'.HasRow r ↔ t.HasRow r) : t'.Admits row := by
  have hids : ∀ object_type x, x ∈ t'.ids object_type ↔ x ∈ t.ids object_type := by
    intro object_type x
    rw [mem_ids, mem_ids]
    simp only [hrows]
  refine ⟨fun hid => h.id ((hids _ _).mp hid), fun s hs htaken => h.slot s hs ?_,
    fun p hp => (hids _ _).mpr (h.parent p hp)⟩
  rw [takenSlot_iff] at htaken ⊢
  simpa only [hrows] using htaken

/-- An INSERT that succeeds adds its row. -/
theorem insert_row_rows {t' : Tables} {row : Row} {u : Unit} (h : t.insert_row row = .ok (u, t')) :
    ∀ r, t'.HasRow r ↔ t.HasRow r ∨ r = row := by
  intro r
  cases row with
  | issue row =>
      obtain ⟨-, -, rfl⟩ := insert_issue_eq_ok h
      cases r <;> simp [HasRow]
  | issue_vote row =>
      obtain ⟨-, -, -, rfl⟩ := insert_issue_vote_eq_ok h
      cases r <;> simp [HasRow]
  | solution row =>
      obtain ⟨-, -, -, rfl⟩ := insert_solution_eq_ok h
      cases r <;> simp [HasRow]
  | solution_vote row =>
      obtain ⟨-, -, -, rfl⟩ := insert_solution_vote_eq_ok h
      cases r <;> simp [HasRow]
  | campaign row =>
      obtain ⟨-, -, -, rfl⟩ := insert_campaign_eq_ok h
      cases r <;> simp [HasRow]
  | pledge row =>
      obtain ⟨-, -, -, rfl⟩ := insert_pledge_eq_ok h
      cases r <;> simp [HasRow]

variable {row : Row} (hcontent : ∀ h, row.description_hash = some h →
    h ∈ t.content_objects.map ContentRow.hash) (hfits : row.FitsColumns)

include hcontent hfits

/-- A row that the constraints admit is added. -/
theorem insert_row_of_admits (h : t.Admits row) :
    ∃ t', t.insert_row row = .ok ((), t') ∧ (∀ r, t'.HasRow r ↔ t.HasRow r ∨ r = row) ∧
      t'.content_objects = t.content_objects := by
  have hok : ∃ t', t.insert_row row = .ok ((), t') ∧ t'.content_objects = t.content_objects := by
    cases row with
    | issue row => exact ⟨_, insert_issue_of_new h.id (hcontent _ rfl), rfl⟩
    | issue_vote row =>
        exact ⟨_, insert_issue_vote_of_new (h.slot _ rfl) h.id (h.parent _ rfl), rfl⟩
    | solution row =>
        exact ⟨_, insert_solution_of_new h.id (h.parent _ rfl) (hcontent _ rfl), rfl⟩
    | solution_vote row =>
        exact ⟨_, insert_solution_vote_of_new (h.slot _ rfl) h.id (h.parent _ rfl), rfl⟩
    | campaign row =>
        exact ⟨_, insert_campaign_of_new hfits.1 hfits.2 (h.slot _ rfl) h.id (h.parent _ rfl), rfl⟩
    | pledge row =>
        exact ⟨_, insert_pledge_of_new hfits.1 hfits.2 (h.slot _ rfl) h.id (h.parent _ rfl), rfl⟩
  obtain ⟨t', hinsert, hcontents⟩ := hok
  exact ⟨t', hinsert, insert_row_rows hinsert, hcontents⟩

omit hcontent in
/-- A taken slot is what the answer tells, whatever else is wrong with the row. -/
theorem insert_row_of_taken {s : Slot String} (hslot : row.slot = some s) (htaken : t.TakenSlot s) :
    t.insert_row row = .error (uniqueFailed row.slot_columns) := by
  cases row with
  | issue row => cases hslot
  | issue_vote row =>
      cases hslot
      have hpair : row.pair ∈ t.issue_votes.map VoteRow.pair := htaken
      rw [insert_row, insert_issue_vote, insert_vote, if_pos hpair]
      rfl
  | solution row => cases hslot
  | solution_vote row =>
      cases hslot
      have hpair : row.pair ∈ t.solution_votes.map VoteRow.pair := htaken
      rw [insert_row, insert_solution_vote, insert_vote, if_pos hpair]
      rfl
  | campaign row =>
      cases hslot
      have hsolution : row.solution_id ∈ t.funding_campaigns.map CampaignRow.solution_id := htaken
      -- SQLite binds the values before it looks for a conflict, so the integers have to fit
      rw [insert_row, insert_campaign, if_neg (campaign_not_too_large hfits.1 hfits.2),
        if_pos hsolution]
      rfl
  | pledge row =>
      cases hslot
      have houtpoint : row.outpoint ∈ t.funding_pledges.map PledgeRow.outpoint := htaken
      rw [insert_row, insert_pledge, if_neg (pledge_not_too_large hfits.1 hfits.2), if_pos houtpoint]
      rfl

omit hcontent in
/-- A row whose parent is missing is refused, when nothing else is wrong with it. -/
theorem insert_row_of_orphan (hid : row.id ∉ t.ids row.object_type)
    (hslot : ∀ s, row.slot = some s → ¬ t.TakenSlot s) {p : ObjectType × String}
    (hparent : row.parent = some p) (hmissing : p.2 ∉ t.ids p.1) :
    t.insert_row row = .error foreignKeyFailed := by
  cases row with
  | issue row => cases hparent
  | issue_vote row =>
      cases hparent
      have hid : row.id ∉ t.issue_votes.map VoteRow.id := hid
      have hpair : row.pair ∉ t.issue_votes.map VoteRow.pair := hslot _ rfl
      have hissue : row.target_id ∉ t.issues.map IssueRow.id := hmissing
      -- the keys are checked before the foreign key, hence the two hypotheses
      rw [insert_row, insert_issue_vote, insert_vote, if_neg hpair, if_neg hid, if_neg hissue]
      rfl
  | solution row =>
      cases hparent
      have hid : row.id ∉ t.solutions.map SolutionRow.id := hid
      have hissue : row.issue_id ∉ t.issues.map IssueRow.id := hmissing
      rw [insert_row, insert_solution, if_neg hid, if_neg fun h => hissue h.1]
      rfl
  | solution_vote row =>
      cases hparent
      have hid : row.id ∉ t.solution_votes.map VoteRow.id := hid
      have hpair : row.pair ∉ t.solution_votes.map VoteRow.pair := hslot _ rfl
      have hsolution : row.target_id ∉ t.solutions.map SolutionRow.id := hmissing
      rw [insert_row, insert_solution_vote, insert_vote, if_neg hpair, if_neg hid,
        if_neg hsolution]
      rfl
  | campaign row =>
      cases hparent
      have hid : row.id ∉ t.funding_campaigns.map CampaignRow.id := hid
      have hnew : row.solution_id ∉ t.funding_campaigns.map CampaignRow.solution_id := hslot _ rfl
      have hsolution : row.solution_id ∉ t.solutions.map SolutionRow.id := hmissing
      rw [insert_row, insert_campaign, if_neg (campaign_not_too_large hfits.1 hfits.2), if_neg hnew,
        if_neg hid, if_neg hsolution]
      rfl
  | pledge row =>
      cases hparent
      have hid : row.id ∉ t.funding_pledges.map PledgeRow.id := hid
      have hnew : row.outpoint ∉ t.funding_pledges.map PledgeRow.outpoint := hslot _ rfl
      have hcampaign : row.campaign_id ∉ t.funding_campaigns.map CampaignRow.id := hmissing
      rw [insert_row, insert_pledge, if_neg (pledge_not_too_large hfits.1 hfits.2), if_neg hnew,
        if_neg hid, if_neg hcampaign]
      rfl

end Tables

/-! ## What the schema says of any table -/

namespace Schema

variable {t t' : Tables} (h : Schema t) {a b : Row}

include h

theorem insert_row (hok : t.insert_row a = .ok ((), t')) : Schema t' := by
  cases a with
  | issue row => exact h.insert_issue hok
  | issue_vote row => exact h.insert_issue_vote hok
  | solution row => exact h.insert_solution hok
  | solution_vote row => exact h.insert_solution_vote hok
  | campaign row => exact h.insert_campaign hok
  | pledge row => exact h.insert_pledge hok

theorem row_slot (ha : t.HasRow a) (hb : t.HasRow b) {s : Slot String} (has : a.slot = some s)
    (hbs : b.slot = some s) : a = b := by
  have hslot : a.slot = b.slot := has.trans hbs.symm
  cases a <;> cases has <;> cases b <;>
    simp only [Row.slot, Option.some.injEq, Slot.issue_vote.injEq, Slot.solution_vote.injEq,
      Slot.campaign.injEq, Slot.pledge.injEq, reduceCtorEq] at hslot
  · exact congrArg Row.issue_vote (h.issue_vote_pair.inj ha hb (Prod.ext hslot.1 hslot.2))
  · exact congrArg Row.solution_vote (h.solution_vote_pair.inj ha hb (Prod.ext hslot.1 hslot.2))
  · exact congrArg Row.campaign (h.campaign_solution_key.inj ha hb hslot)
  · exact congrArg Row.pledge
      (h.pledge_outpoint.inj ha hb (Prod.ext hslot.1 (Prod.ext hslot.2.1 hslot.2.2)))

theorem row_parent (ha : t.HasRow a) {p : ObjectType × String} (hp : a.parent = some p) :
    p.2 ∈ t.ids p.1 := by
  cases a <;> cases hp
  case issue_vote row =>
    obtain ⟨parent, hparent, hid⟩ := h.issue_vote_issue row ha
    exact List.mem_map.mpr ⟨parent, hparent, hid⟩
  case solution row =>
    obtain ⟨parent, hparent, hid⟩ := h.solution_issue row ha
    exact List.mem_map.mpr ⟨parent, hparent, hid⟩
  case solution_vote row =>
    obtain ⟨parent, hparent, hid⟩ := h.solution_vote_solution row ha
    exact List.mem_map.mpr ⟨parent, hparent, hid⟩
  case campaign row =>
    obtain ⟨parent, hparent, hid⟩ := h.campaign_solution row ha
    exact List.mem_map.mpr ⟨parent, hparent, hid⟩
  case pledge row =>
    obtain ⟨parent, hparent, hid⟩ := h.pledge_campaign row ha
    exact List.mem_map.mpr ⟨parent, hparent, hid⟩

end Schema

end Superorganism.Democracy
