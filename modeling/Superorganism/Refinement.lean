/-
The tables of a repository as a set of objects.

`links` says of the objects what the schema says of their rows: how they are named, what they
refer to and the slot they claim. `stored` are the models whose rows are in the tables. A
description is found under its hash, because no two of the texts at hand have the same one.

On that footing reading gives back what is stored, and `store_remote` is
`Replica.Links.receive`.
-/
import Superorganism.Replica
import Superorganism.Replication
import Superorganism.RepositoryRuns
import Superorganism.Rows

set_option autoImplicit false

open Superorganism.Py Superorganism.Funding Superorganism.Gossip Superorganism.Sql
open Superorganism.Replica

namespace Superorganism.Democracy

/-! ## Objects -/

namespace Object

/-- The object that the object refers to. -/
def parent : Object → Option GossipItem
  | .issue _ => none
  | .issue_vote v => some ⟨.ISSUE, v.issue_id⟩
  | .solution s => some ⟨.ISSUE, s.issue_id⟩
  | .solution_vote v => some ⟨.SOLUTION, v.solution_id⟩
  | .campaign c => some ⟨.SOLUTION, c.solution_id⟩
  | .pledge p => some ⟨.FUNDING_CAMPAIGN, p.campaign_id⟩

def slot : Object → Option (Slot UUID)
  | .issue _ => none
  | .issue_vote v => some (.issue_vote v.issue_id v.voter_id)
  | .solution _ => none
  | .solution_vote v => some (.solution_vote v.solution_id v.voter_id)
  | .campaign c => some (.campaign c.solution_id)
  | .pledge p => some (.pledge p.campaign_id p.txid p.vout)

def description : Object → Option String
  | .issue i => some i.description
  | .solution s => some s.description
  | _ => none

/-- The object with another description, where it has one. -/
def described (text : String) : Object → Object
  | .issue i => .issue { i with description := text }
  | .solution s => .solution { s with description := text }
  | o => o

/-- The object with another date. -/
def dated (date : CreatedAt) : Object → Object
  | .issue i => .issue { i with created_at := date }
  | .issue_vote v => .issue_vote { v with created_at := date }
  | .solution s => .solution { s with created_at := date }
  | .solution_vote v => .solution_vote { v with created_at := date }
  | .campaign c => .campaign { c with created_at := date }
  | .pledge p => .pledge { p with created_at := date }

theorem dated_self (o : Object) : o.dated o.created_at = o := by cases o <;> rfl

theorem described_self {o : Object} {text : String}
    (h : ∀ d, o.description = some d → text = d) : o.described text = o := by
  cases o with
  | issue i =>
      obtain rfl := h _ rfl
      rfl
  | solution s =>
      obtain rfl := h _ rfl
      rfl
  | _ => rfl

def IsVote : Object → Prop
  | .issue_vote _ => True
  | .solution_vote _ => True
  | _ => False

end Object

/-- How the replicated objects hang together. -/
def links : Links Object GossipItem (Slot UUID) where
  key := Object.item
  parent := Object.parent
  slot := Object.slot

/-- The row that stores the object. -/
def Runtime.row (rt : Runtime) : Object → Row
  | .issue i => .issue (rt.issue_row i)
  | .issue_vote v => .issue_vote (issue_vote_row v)
  | .solution s => .solution (rt.solution_row s)
  | .solution_vote v => .solution_vote (solution_vote_row v)
  | .campaign c => .campaign (campaign_row c)
  | .pledge p => .pledge (pledge_row p)

section

variable {rt : Runtime} (o : Object)

theorem Runtime.row_object_type : (rt.row o).object_type = o.object_type := by cases o <;> rfl

theorem Runtime.row_id : (rt.row o).id = o.id.str := by cases o <;> rfl

theorem Runtime.row_parent :
    (rt.row o).parent = o.parent.map fun item => (item.object_type, item.object_uuid.str) := by
  cases o <;> rfl

theorem Runtime.row_slot : (rt.row o).slot = o.slot.map (Slot.map UUID.str) := by cases o <;> rfl

theorem Runtime.row_description_hash :
    (rt.row o).description_hash = o.description.map rt.text_hash := by
  cases o <;> rfl

end

/-! ## Stores -/

/-- A model as the program makes them: its date is a datetime, its integers fit in the
columns, and its description is one of the texts. -/
structure Runtime.Genuine (rt : Runtime) (texts : Set String) (o : Object) : Prop where
  created_at : rt.IsDatetime o.created_at
  description : ∀ text, o.description = some text → text ∈ texts
  fits : (rt.row o).FitsColumns

/-- A repository that satisfies the schema and whose rows come from models. -/
structure Runtime.IsStore (rt : Runtime) (texts : Set String) (t : Tables) : Prop where
  sane : rt.Sane t
  contents : ∀ content ∈ t.content_objects, content.text_content ∈ texts
  rows : ∀ row, t.HasRow row → ∃ o, rt.Genuine texts o ∧ rt.row o = row

/-- The models whose rows are in the tables. -/
def Runtime.stored (rt : Runtime) (texts : Set String) (t : Tables) : Set Object :=
  {o | rt.Genuine texts o ∧ t.HasRow (rt.row o)}

/-- The models that the repository reads back. -/
def Runtime.objects (rt : Runtime) (t : Tables) : Set Object :=
  {o | ∃ models, rt.get_all_models o.object_type t = .ok models ∧ o ∈ models}

variable {rt : Runtime} {texts : Set String} {t : Tables}

theorem Runtime.IsStore.empty : rt.IsStore texts Tables.empty where
  sane := Runtime.Sane.empty
  contents := fun content hcontent => absurd hcontent List.not_mem_nil
  rows := fun row hrow => by cases row <;> exact absurd hrow List.not_mem_nil

/-! ### Keys, slots and parents -/

section

variable (h : rt.IsStore texts t)

include h

theorem Runtime.IsStore.hasKey_iff (item : GossipItem) :
    links.HasKey (rt.stored texts t) item ↔ item.object_uuid.str ∈ t.ids item.object_type := by
  rw [Tables.mem_ids]
  constructor
  · rintro ⟨o, ho, rfl⟩
    exact ⟨rt.row o, ho.2, Runtime.row_object_type o, Runtime.row_id o⟩
  · rintro ⟨row, hrow, htype, hid⟩
    obtain ⟨o, ho, rfl⟩ := h.rows row hrow
    refine ⟨o, ⟨ho, hrow⟩, ?_⟩
    rw [Runtime.row_object_type] at htype
    rw [Runtime.row_id] at hid
    show (⟨o.object_type, o.id⟩ : GossipItem) = item
    rw [htype, UUID.str_injective hid]

theorem Runtime.IsStore.hasSlot_iff (s : Slot UUID) :
    links.HasSlot (rt.stored texts t) s ↔ t.TakenSlot (s.map UUID.str) := by
  rw [Tables.takenSlot_iff]
  constructor
  · rintro ⟨o, ho, hs⟩
    have hs : o.slot = some s := hs
    exact ⟨rt.row o, ho.2, by rw [Runtime.row_slot, hs, Option.map_some]⟩
  · rintro ⟨row, hrow, hslot⟩
    obtain ⟨o, ho, rfl⟩ := h.rows row hrow
    rw [Runtime.row_slot, Option.map_eq_some_iff] at hslot
    obtain ⟨s', hs', hmap⟩ := hslot
    exact ⟨o, ⟨ho, hrow⟩, Slot.map_injective UUID.str_injective hmap ▸ hs'⟩

/-- The constraints of the tables are those of the links. -/
theorem Runtime.IsStore.admits_iff (o : Object) :
    t.Admits (rt.row o) ↔ links.Fits (rt.stored texts t) o := by
  constructor
  · intro hadmits
    refine ⟨?_, fun s hs => ?_, fun item hitem => ?_⟩
    · rw [h.hasKey_iff]
      have hid := hadmits.id
      rwa [Runtime.row_id, Runtime.row_object_type] at hid
    · have hs : o.slot = some s := hs
      rw [h.hasSlot_iff]
      exact hadmits.slot _ (by rw [Runtime.row_slot, hs, Option.map_some])
    · have hitem : o.parent = some item := hitem
      rw [h.hasKey_iff]
      exact hadmits.parent (item.object_type, item.object_uuid.str)
        (by rw [Runtime.row_parent, hitem, Option.map_some])
  · intro hfits
    refine ⟨?_, fun s hs => ?_, fun p hp => ?_⟩
    · rw [Runtime.row_id, Runtime.row_object_type]
      exact fun hid => hfits.key ((h.hasKey_iff o.item).mpr hid)
    · rw [Runtime.row_slot, Option.map_eq_some_iff] at hs
      obtain ⟨s', hs', rfl⟩ := hs
      exact fun htaken => hfits.slot s' hs' ((h.hasSlot_iff s').mpr htaken)
    · rw [Runtime.row_parent, Option.map_eq_some_iff] at hp
      obtain ⟨item, hitem, rfl⟩ := hp
      exact (h.hasKey_iff item).mp (hfits.parent item hitem)

end

/-! ## Reading -/

theorem replaceZ_eq_self {value : String} (h : 'Z' ∉ value.toList) : replaceZ value = value := by
  have hchars : ∀ cs : List Char, 'Z' ∉ cs →
      (cs.flatMap fun c => if c = 'Z' then ['+', '0', '0', ':', '0', '0'] else [c]) = cs := by
    intro cs hcs
    induction cs with
    | nil => rfl
    | cons c cs ih =>
        rw [List.mem_cons, not_or] at hcs
        rw [List.flatMap_cons, if_neg (Ne.symm hcs.1), ih hcs.2]
        rfl
  rw [replaceZ, hchars _ h, String.ofList_toList]

/-- A datetime is read as it was stored. -/
theorem Runtime.IsDatetime.storage_eq {created_at : CreatedAt} (h : rt.IsDatetime created_at) :
    rt.datetime_from_storage created_at.stored = created_at := by
  rw [Runtime.datetime_from_storage, replaceZ_eq_self h.2.1, h.1]

/-- `SELECT` of every row, each read as a model. -/
theorem getAll_spec {ρ α : Type} {read : ρ → Except PyError α} {rows : List ρ}
    (created_at : ρ → String) {P : α → Prop} (hread : ∀ r ∈ rows, ∃ a, read r = .ok a ∧ P a)
    (hall : ∀ a, P a → ∃ r ∈ rows, read r = .ok a) :
    ∃ models, (newestFirst created_at rows).mapM read = .ok models ∧ ∀ a, a ∈ models ↔ P a := by
  have hmem : ∀ r, r ∈ newestFirst created_at rows ↔ r ∈ rows := fun r =>
    (List.perm_insertionSort _ rows).mem_iff
  obtain ⟨models, hmodels, hspec⟩ := mapM_of_ok fun r hr => by
    obtain ⟨a, ha, -⟩ := hread r ((hmem r).mp hr)
    exact ⟨a, ha⟩
  refine ⟨models, hmodels, fun a => ?_⟩
  rw [hspec]
  constructor
  · rintro ⟨r, hr, hra⟩
    obtain ⟨a', ha', hP⟩ := hread r ((hmem r).mp hr)
    rw [hra] at ha'
    exact Except.ok.inj ha' ▸ hP
  · intro ha
    obtain ⟨r, hr, hra⟩ := hall a ha
    exact ⟨r, (hmem r).mpr hr, hra⟩

/-- `SELECT ... WHERE id = ?` of a table. -/
theorem fetchone_of_mem {ρ α : Type} {read : ρ → Except PyError α} {id : ρ → String} {rows : List ρ}
    (hkey : Unique id rows) {row : ρ} (hrow : row ∈ rows) {a : α} (hread : read row = .ok a) :
    Runtime.fetchone read (rows.filter fun r => id r = id row) = .ok (some a) := by
  rw [hkey.filter_eq hrow, Runtime.fetchone, hread]
  rfl

theorem fetchone_of_not_mem {ρ α : Type} {read : ρ → Except PyError α} {id : ρ → String}
    {rows : List ρ} {k : String} (h : k ∉ rows.map id) :
    Runtime.fetchone read (rows.filter fun r => id r = k) = .ok none := by
  have hnone : rows.filter (fun r => id r = k) = [] := by
    rw [List.filter_eq_nil_iff]
    intro r hr
    have hne : id r ≠ k := fun heq => h (heq ▸ List.mem_map_of_mem hr)
    simpa using hne
  rw [hnone]
  rfl

/-- The models of one table among all objects. -/
theorem getAll_map {α : Type} (wrap : α → Object) {object_type : ObjectType}
    (htype : ∀ o : Object, o.object_type = object_type ↔ ∃ a, wrap a = o)
    {all : Except PyError (List α)} {P : Object → Prop}
    (h : ∃ models, all = .ok models ∧ ∀ a, a ∈ models ↔ P (wrap a)) :
    ∃ models, all.map (List.map wrap) = .ok models ∧
      ∀ o, o ∈ models ↔ P o ∧ o.object_type = object_type := by
  obtain ⟨models, rfl, hspec⟩ := h
  refine ⟨models.map wrap, rfl, fun o => ?_⟩
  rw [List.mem_map, htype]
  constructor
  · rintro ⟨a, ha, rfl⟩
    exact ⟨(hspec a).mp ha, a, rfl⟩
  · rintro ⟨ho, a, rfl⟩
    exact ⟨a, (hspec a).mpr ho, rfl⟩

/-! ### A row is read as the model it was written from -/

namespace Runtime

theorem row_to_issue_vote_eq (vote : IssueVote) : rt.row_to_issue_vote (issue_vote_row vote) =
    .ok { vote with created_at := rt.datetime_from_storage vote.created_at.stored } := by
  simp only [row_to_issue_vote, issue_vote_row, parse_uuid_str, ok_bind]
  rfl

theorem row_to_solution_vote_eq (vote : SolutionVote) :
    rt.row_to_solution_vote (solution_vote_row vote) =
      .ok { vote with created_at := rt.datetime_from_storage vote.created_at.stored } := by
  simp only [row_to_solution_vote, solution_vote_row, parse_uuid_str, ok_bind]
  rfl

theorem row_to_campaign_eq (campaign : FundingCampaign) : rt.row_to_campaign (campaign_row campaign) =
    .ok { campaign with created_at := rt.datetime_from_storage campaign.created_at.stored } := by
  simp only [row_to_campaign, campaign_row, parse_uuid_str, ok_bind, campaign.new_fields]

theorem row_to_pledge_eq (pledge : FundingPledge) : rt.row_to_pledge (pledge_row pledge) =
    .ok { pledge with created_at := rt.datetime_from_storage pledge.created_at.stored } := by
  simp only [row_to_pledge, pledge_row, parse_uuid_str, ok_bind, pledge.new_fields]

/-- A row is found under its id, and read with a text stored under the hash of its
description and with the date its text stands for. -/
theorem Sane.get_stored_model_eq (h : rt.Sane t) {o : Object} (hrow : t.HasRow (rt.row o)) :
    ∃ text, (∀ d, o.description = some d → ∃ content ∈ t.content_objects,
        rt.text_hash content.text_content = rt.text_hash d ∧ content.text_content = text) ∧
      rt.get_stored_model o.item t = .ok (some ((o.described text).dated
        (rt.datetime_from_storage o.created_at.stored))) := by
  cases o with
  | issue issue =>
      -- an issue is joined with the text under its description's hash
      obtain ⟨content, hcontent, hhash, hget⟩ := get_issue_of_mem h hrow
      refine ⟨content.text_content, fun d hd => ?_, ?_⟩
      · cases hd
        exact ⟨content, hcontent, hhash, rfl⟩
      · show (rt.get_issue issue.id t).map (Option.map Object.issue) = _
        rw [hget]
        rfl
  | issue_vote vote =>
      -- a vote refers to no text, so that any text will do for the description
      have hget : rt.get_issue_vote vote.id t = .ok (some { vote with
          created_at := rt.datetime_from_storage vote.created_at.stored }) :=
        fetchone_of_mem h.1.issue_vote_key hrow (row_to_issue_vote_eq vote)
      refine ⟨"", fun d hd => absurd hd (by simp [Object.description]), ?_⟩
      show (rt.get_issue_vote vote.id t).map (Option.map Object.issue_vote) = _
      rw [hget]
      rfl
  | solution solution =>
      obtain ⟨content, hcontent, hhash, hget⟩ := get_solution_of_mem h hrow
      refine ⟨content.text_content, fun d hd => ?_, ?_⟩
      · cases hd
        exact ⟨content, hcontent, hhash, rfl⟩
      · show (rt.get_solution solution.id t).map (Option.map Object.solution) = _
        rw [hget]
        rfl
  | solution_vote vote =>
      have hget : rt.get_solution_vote vote.id t = .ok (some { vote with
          created_at := rt.datetime_from_storage vote.created_at.stored }) :=
        fetchone_of_mem h.1.solution_vote_key hrow (row_to_solution_vote_eq vote)
      refine ⟨"", fun d hd => absurd hd (by simp [Object.description]), ?_⟩
      show (rt.get_solution_vote vote.id t).map (Option.map Object.solution_vote) = _
      rw [hget]
      rfl
  | campaign campaign =>
      have hget : rt.get_campaign campaign.id t = .ok (some { campaign with
          created_at := rt.datetime_from_storage campaign.created_at.stored }) :=
        fetchone_of_mem h.1.campaign_key hrow (row_to_campaign_eq campaign)
      refine ⟨"", fun d hd => absurd hd (by simp [Object.description]), ?_⟩
      show (rt.get_campaign campaign.id t).map (Option.map Object.campaign) = _
      rw [hget]
      rfl
  | pledge pledge =>
      have hget : rt.get_pledge pledge.id t = .ok (some { pledge with
          created_at := rt.datetime_from_storage pledge.created_at.stored }) :=
        fetchone_of_mem h.1.pledge_key hrow (row_to_pledge_eq pledge)
      refine ⟨"", fun d hd => absurd hd (by simp [Object.description]), ?_⟩
      show (rt.get_pledge pledge.id t).map (Option.map Object.pledge) = _
      rw [hget]
      rfl

/-- Whatever has the id is found under it. -/
theorem Sane.get_stored_model_of_id (h : rt.Sane t)
    (hrows : ∀ row, t.HasRow row → ∃ o, rt.row o = row) {item : GossipItem}
    (hid : item.object_uuid.str ∈ t.ids item.object_type) :
    ∃ o, rt.get_stored_model item t = .ok (some o) := by
  obtain ⟨row, hrow, htype, hid⟩ := Tables.mem_ids.mp hid
  obtain ⟨o, rfl⟩ := hrows row hrow
  obtain ⟨text, -, hget⟩ := h.get_stored_model_eq hrow
  rw [row_object_type] at htype
  rw [row_id] at hid
  have hitem : o.item = item := by
    rw [Object.item, htype, UUID.str_injective hid]
  exact ⟨_, hitem ▸ hget⟩

/-- Where the description is the only text stored under its hash, and the date a datetime,
that is the model the row was written from. -/
theorem Sane.get_stored_model_of_row (h : rt.Sane t) {o : Object} (hdate : rt.IsDatetime o.created_at)
    (hrow : t.HasRow (rt.row o))
    (htext : ∀ text, o.description = some text → ∀ content ∈ t.content_objects,
      rt.text_hash content.text_content = rt.text_hash text → content.text_content = text) :
    rt.get_stored_model o.item t = .ok (some o) := by
  obtain ⟨text, hcontent, hget⟩ := h.get_stored_model_eq hrow
  have hsame : ∀ d, o.description = some d → text = d := by
    intro d hd
    obtain ⟨content, hmem, hhash, rfl⟩ := hcontent d hd
    exact htext d hd content hmem hhash
  rw [hget, Object.described_self hsame, hdate.storage_eq, Object.dated_self]

theorem row_to_issue_genuine {issue : Issue} (h : rt.IsDatetime issue.created_at) :
    rt.row_to_issue (rt.issue_row issue, issue.description) = .ok issue := by
  rw [row_to_issue_eq, h.storage_eq]

theorem row_to_issue_vote_genuine {vote : IssueVote} (h : rt.IsDatetime vote.created_at) :
    rt.row_to_issue_vote (issue_vote_row vote) = .ok vote := by
  rw [row_to_issue_vote_eq, h.storage_eq]

theorem row_to_solution_genuine {solution : Solution} (h : rt.IsDatetime solution.created_at) :
    rt.row_to_solution (rt.solution_row solution, solution.description) = .ok solution := by
  rw [row_to_solution_eq, h.storage_eq]

theorem row_to_solution_vote_genuine {vote : SolutionVote} (h : rt.IsDatetime vote.created_at) :
    rt.row_to_solution_vote (solution_vote_row vote) = .ok vote := by
  rw [row_to_solution_vote_eq, h.storage_eq]

theorem row_to_campaign_genuine {campaign : FundingCampaign} (h : rt.IsDatetime campaign.created_at) :
    rt.row_to_campaign (campaign_row campaign) = .ok campaign := by
  rw [row_to_campaign_eq, h.storage_eq]

theorem row_to_pledge_genuine {pledge : FundingPledge} (h : rt.IsDatetime pledge.created_at) :
    rt.row_to_pledge (pledge_row pledge) = .ok pledge := by
  rw [row_to_pledge_eq, h.storage_eq]

/-! ### A row in a table is the row of a model -/

section

variable (h : rt.IsStore texts t)

include h

theorem IsStore.issue_of_row {row : IssueRow} (hrow : row ∈ t.issues) :
    ∃ issue, .issue issue ∈ rt.stored texts t ∧ rt.issue_row issue = row := by
  obtain ⟨o, ho, hro⟩ := h.rows (.issue row) hrow
  cases o with
  | issue issue => exact ⟨issue, ⟨ho, hro ▸ hrow⟩, Row.issue.inj hro⟩
  | _ => cases hro

theorem IsStore.issue_vote_of_row {row : VoteRow} (hrow : row ∈ t.issue_votes) :
    ∃ vote, .issue_vote vote ∈ rt.stored texts t ∧ issue_vote_row vote = row := by
  obtain ⟨o, ho, hro⟩ := h.rows (.issue_vote row) hrow
  cases o with
  | issue_vote vote => exact ⟨vote, ⟨ho, hro ▸ hrow⟩, Row.issue_vote.inj hro⟩
  | _ => cases hro

theorem IsStore.solution_of_row {row : SolutionRow} (hrow : row ∈ t.solutions) :
    ∃ solution, .solution solution ∈ rt.stored texts t ∧ rt.solution_row solution = row := by
  obtain ⟨o, ho, hro⟩ := h.rows (.solution row) hrow
  cases o with
  | solution solution => exact ⟨solution, ⟨ho, hro ▸ hrow⟩, Row.solution.inj hro⟩
  | _ => cases hro

theorem IsStore.solution_vote_of_row {row : VoteRow} (hrow : row ∈ t.solution_votes) :
    ∃ vote, .solution_vote vote ∈ rt.stored texts t ∧ solution_vote_row vote = row := by
  obtain ⟨o, ho, hro⟩ := h.rows (.solution_vote row) hrow
  cases o with
  | solution_vote vote => exact ⟨vote, ⟨ho, hro ▸ hrow⟩, Row.solution_vote.inj hro⟩
  | _ => cases hro

theorem IsStore.campaign_of_row {row : CampaignRow} (hrow : row ∈ t.funding_campaigns) :
    ∃ campaign, .campaign campaign ∈ rt.stored texts t ∧ campaign_row campaign = row := by
  obtain ⟨o, ho, hro⟩ := h.rows (.campaign row) hrow
  cases o with
  | campaign campaign => exact ⟨campaign, ⟨ho, hro ▸ hrow⟩, Row.campaign.inj hro⟩
  | _ => cases hro

theorem IsStore.pledge_of_row {row : PledgeRow} (hrow : row ∈ t.funding_pledges) :
    ∃ pledge, .pledge pledge ∈ rt.stored texts t ∧ pledge_row pledge = row := by
  obtain ⟨o, ho, hro⟩ := h.rows (.pledge row) hrow
  cases o with
  | pledge pledge => exact ⟨pledge, ⟨ho, hro ▸ hrow⟩, Row.pledge.inj hro⟩
  | _ => cases hro

end

/-! ### Descriptions -/

section

variable (hinj : Set.InjOn rt.text_hash texts) (h : rt.IsStore texts t)

include hinj h

/-- The content stored under the hash of a text is the text. -/
theorem IsStore.content_eq {content : ContentRow} (hcontent : content ∈ t.content_objects)
    {text : String} (htext : text ∈ texts) (hhash : content.hash = rt.text_hash text) :
    content.text_content = text :=
  hinj (h.contents content hcontent) htext ((h.sane.2 content hcontent).symm.trans hhash)

theorem IsStore.mem_issuesJoin {row : IssueRow × String} : row ∈ t.issuesJoin ↔
    ∃ issue, .issue issue ∈ rt.stored texts t ∧ (rt.issue_row issue, issue.description) = row := by
  unfold Tables.issuesJoin
  rw [mem_join]
  constructor
  · rintro ⟨hrow, content, hcontent, hhash, htext⟩
    obtain ⟨issue, hissue, hir⟩ := h.issue_of_row hrow
    rw [← hir] at hhash
    have hdescription := h.content_eq hinj hcontent (hissue.1.description _ rfl) hhash
    exact ⟨issue, hissue, Prod.ext hir (hdescription ▸ htext)⟩
  · rintro ⟨issue, hissue, rfl⟩
    obtain ⟨content, hcontent, hhash⟩ := h.sane.1.issue_content _ hissue.2
    exact ⟨hissue.2, content, hcontent, hhash,
      h.content_eq hinj hcontent (hissue.1.description _ rfl) hhash⟩

theorem IsStore.mem_solutionsJoin {row : SolutionRow × String} : row ∈ t.solutionsJoin ↔
    ∃ solution, .solution solution ∈ rt.stored texts t ∧
      (rt.solution_row solution, solution.description) = row := by
  unfold Tables.solutionsJoin
  rw [mem_join]
  constructor
  · rintro ⟨hrow, content, hcontent, hhash, htext⟩
    obtain ⟨solution, hsolution, hsr⟩ := h.solution_of_row hrow
    rw [← hsr] at hhash
    have hdescription := h.content_eq hinj hcontent (hsolution.1.description _ rfl) hhash
    exact ⟨solution, hsolution, Prod.ext hsr (hdescription ▸ htext)⟩
  · rintro ⟨solution, hsolution, rfl⟩
    obtain ⟨content, hcontent, hhash⟩ := h.sane.1.solution_content _ hsolution.2
    exact ⟨hsolution.2, content, hcontent, hhash,
      h.content_eq hinj hcontent (hsolution.1.description _ rfl) hhash⟩

/-! ### What the handlers read -/

/-- A stored model is found under its id. -/
theorem IsStore.get_stored_model_of_mem {o : Object} (ho : o ∈ rt.stored texts t) :
    rt.get_stored_model o.item t = .ok (some o) := by
  refine h.sane.get_stored_model_of_row ho.1.created_at ho.2 fun text htext content hcontent hhash => ?_
  exact hinj (h.contents content hcontent) (ho.1.description text htext) hhash

/-- The stored models of a type are read back, in some order. -/
theorem IsStore.get_all_models_spec (object_type : ObjectType) :
    ∃ models, rt.get_all_models object_type t = .ok models ∧
      ∀ o, o ∈ models ↔ o ∈ rt.stored texts t ∧ o.object_type = object_type := by
  cases object_type with
  | ISSUE =>
      refine getAll_map .issue (fun o => by cases o <;> simp [Object.object_type])
        (getAll_spec _ (fun row hrow => ?_) fun issue hstored => ?_)
      -- no row is lost in the join, since every description hash leads to a text
      · obtain ⟨issue, hstored, rfl⟩ := (h.mem_issuesJoin hinj).mp hrow
        exact ⟨issue, row_to_issue_genuine hstored.1.created_at, hstored⟩
      · exact ⟨_, (h.mem_issuesJoin hinj).mpr ⟨issue, hstored, rfl⟩,
          row_to_issue_genuine hstored.1.created_at⟩
  | ISSUE_VOTE =>
      refine getAll_map .issue_vote (fun o => by cases o <;> simp [Object.object_type])
        (getAll_spec _ (fun row hrow => ?_) fun vote hstored => ?_)
      · obtain ⟨vote, hstored, rfl⟩ := h.issue_vote_of_row hrow
        exact ⟨vote, row_to_issue_vote_genuine hstored.1.created_at, hstored⟩
      · exact ⟨_, hstored.2, row_to_issue_vote_genuine hstored.1.created_at⟩
  | SOLUTION =>
      refine getAll_map .solution (fun o => by cases o <;> simp [Object.object_type])
        (getAll_spec _ (fun row hrow => ?_) fun solution hstored => ?_)
      · obtain ⟨solution, hstored, rfl⟩ := (h.mem_solutionsJoin hinj).mp hrow
        exact ⟨solution, row_to_solution_genuine hstored.1.created_at, hstored⟩
      · exact ⟨_, (h.mem_solutionsJoin hinj).mpr ⟨solution, hstored, rfl⟩,
          row_to_solution_genuine hstored.1.created_at⟩
  | SOLUTION_VOTE =>
      refine getAll_map .solution_vote (fun o => by cases o <;> simp [Object.object_type])
        (getAll_spec _ (fun row hrow => ?_) fun vote hstored => ?_)
      · obtain ⟨vote, hstored, rfl⟩ := h.solution_vote_of_row hrow
        exact ⟨vote, row_to_solution_vote_genuine hstored.1.created_at, hstored⟩
      · exact ⟨_, hstored.2, row_to_solution_vote_genuine hstored.1.created_at⟩
  | FUNDING_CAMPAIGN =>
      refine getAll_map .campaign (fun o => by cases o <;> simp [Object.object_type])
        (getAll_spec _ (fun row hrow => ?_) fun campaign hstored => ?_)
      · obtain ⟨campaign, hstored, rfl⟩ := h.campaign_of_row hrow
        exact ⟨campaign, row_to_campaign_genuine hstored.1.created_at, hstored⟩
      · exact ⟨_, hstored.2, row_to_campaign_genuine hstored.1.created_at⟩
  | FUNDING_PLEDGE =>
      refine getAll_map .pledge (fun o => by cases o <;> simp [Object.object_type])
        (getAll_spec _ (fun row hrow => ?_) fun pledge hstored => ?_)
      · obtain ⟨pledge, hstored, rfl⟩ := h.pledge_of_row hrow
        exact ⟨pledge, row_to_pledge_genuine hstored.1.created_at, hstored⟩
      · exact ⟨_, hstored.2, row_to_pledge_genuine hstored.1.created_at⟩

/-- What is read back is what is stored. -/
theorem IsStore.objects_eq : rt.objects t = rt.stored texts t := by
  ext o
  obtain ⟨models, hmodels, hspec⟩ := h.get_all_models_spec hinj o.object_type
  constructor
  · rintro ⟨models', hmodels', ho⟩
    rw [hmodels] at hmodels'
    rw [← Except.ok.inj hmodels'] at ho
    exact ((hspec o).mp ho).1
  · intro ho
    exact ⟨models, hmodels, (hspec o).mpr ⟨ho, rfl⟩⟩

/-- Two stored models with one id are what is found under it. -/
theorem IsStore.eq_of_item {a b : Object} (ha : a ∈ rt.stored texts t) (hb : b ∈ rt.stored texts t)
    (hitem : a.item = b.item) : a = b := by
  have hread := h.get_stored_model_of_mem hinj ha
  rw [hitem, h.get_stored_model_of_mem hinj hb] at hread
  exact (Option.some.inj (Except.ok.inj hread)).symm

omit hinj h in
theorem item_eq_of_row {a b : Object} (h : rt.row a = rt.row b) : a.item = b.item := by
  have htype := congrArg Row.object_type h
  have hid := congrArg Row.id h
  rw [row_object_type, row_object_type] at htype
  rw [row_id, row_id] at hid
  rw [Object.item, Object.item, htype, UUID.str_injective hid]

/-- What is stored is coherent. -/
theorem IsStore.coherent : links.Coherent (rt.stored texts t) := by
  refine ⟨fun a ha b hb hkey => h.eq_of_item hinj ha hb hkey, fun a ha b hb s has hbs => ?_,
    fun a ha item hitem => ?_⟩
  · have has : a.slot = some s := has
    have hbs : b.slot = some s := hbs
    refine h.eq_of_item hinj ha hb (item_eq_of_row (h.sane.1.row_slot ha.2 hb.2
      (s := s.map UUID.str) ?_ ?_))
    · rw [row_slot, has, Option.map_some]
    · rw [row_slot, hbs, Option.map_some]
  · have hitem : a.parent = some item := hitem
    rw [h.hasKey_iff]
    exact h.sane.1.row_parent ha.2 (p := (item.object_type, item.object_uuid.str))
      (by rw [row_parent, hitem, Option.map_some])

omit hinj h in
/-- Nothing is found under an id that no row has. -/
theorem get_stored_model_of_not_mem {item : GossipItem}
    (hitem : item.object_uuid.str ∉ t.ids item.object_type) :
    rt.get_stored_model item t = .ok none := by
  obtain ⟨object_type, object_uuid⟩ := item
  cases object_type with
  | ISSUE =>
      have hget : rt.get_issue object_uuid t = .ok none := get_issue_of_not_mem hitem
      show (rt.get_issue object_uuid t).map (Option.map Object.issue) = _
      rw [hget]
      rfl
  | ISSUE_VOTE =>
      have hget : rt.get_issue_vote object_uuid t = .ok none := fetchone_of_not_mem hitem
      show (rt.get_issue_vote object_uuid t).map (Option.map Object.issue_vote) = _
      rw [hget]
      rfl
  | SOLUTION =>
      have hget : rt.get_solution object_uuid t = .ok none := get_solution_of_not_mem hitem
      show (rt.get_solution object_uuid t).map (Option.map Object.solution) = _
      rw [hget]
      rfl
  | SOLUTION_VOTE =>
      have hget : rt.get_solution_vote object_uuid t = .ok none := fetchone_of_not_mem hitem
      show (rt.get_solution_vote object_uuid t).map (Option.map Object.solution_vote) = _
      rw [hget]
      rfl
  | FUNDING_CAMPAIGN =>
      have hget : rt.get_campaign object_uuid t = .ok none := fetchone_of_not_mem hitem
      show (rt.get_campaign object_uuid t).map (Option.map Object.campaign) = _
      rw [hget]
      rfl
  | FUNDING_PLEDGE =>
      have hget : rt.get_pledge object_uuid t = .ok none := fetchone_of_not_mem hitem
      show (rt.get_pledge object_uuid t).map (Option.map Object.pledge) = _
      rw [hget]
      rfl

end

/-! ## Storing -/

/-- What an INSERT of the object is preceded by in its transaction. -/
def prepare (rt : Runtime) (now : String) (o : Object) (t : Tables) : Tables :=
  match o.description with
  | some text => rt.store_text_content now text t
  | none => t

/-- How the handler of the object tells a vote that is there already. -/
def is_duplicate : Object → PyError → Bool
  | .issue_vote _ => is_duplicate_issue_vote_error
  | .solution_vote _ => is_duplicate_solution_vote_error
  | _ => fun _ => false

/-- Adding is a transaction of the preparation and the INSERT of the object's table. -/
theorem add_one_eq (now : String) (o : Object) : rt.add_one now o t =
    transaction (fun t => exec (fun t => t.insert_row (rt.row o)) (rt.prepare now o t)) t := by
  cases o <;> rfl

theorem add_one_of_ok {now : String} {o : Object} {t' : Tables}
    (h : (rt.prepare now o t).insert_row (rt.row o) = .ok ((), t')) :
    rt.add_one now o t = (.ok (), t') := by
  rw [add_one_eq]
  exact transaction_exec_ok (rt.prepare now o) (fun t => t.insert_row (rt.row o)) h

theorem add_one_of_error {now : String} {o : Object} {e : PyError}
    (h : (rt.prepare now o t).insert_row (rt.row o) = .error e) :
    rt.add_one now o t = (.error e, t) := by
  rw [add_one_eq]
  exact transaction_exec_error (rt.prepare now o) (fun t => t.insert_row (rt.row o)) h

theorem store_new_of_ok {now : String} {o : Object} {t' : Tables}
    (h : (rt.prepare now o t).insert_row (rt.row o) = .ok ((), t')) :
    rt.store_new now o t = (.ok .STORED, t') := by
  have hadd := add_one_of_ok h
  cases o with
  | issue_vote vote =>
      have hadd : add_issue_vote vote t = (.ok (), t') := hadd
      rw [store_new, record_issue_vote, hadd]
      rfl
  | solution_vote vote =>
      have hadd : add_solution_vote vote t = (.ok (), t') := hadd
      rw [store_new, record_solution_vote, hadd]
      rfl
  | _ =>
      rw [store_new, hadd]
      · rfl
      · intro vote hvote
        cases hvote
      · intro vote hvote
        cases hvote

theorem voteStatus_of_error (is_duplicate : PyError → Bool) {e : PyError}
    (he : e.isIntegrityError = true) :
    voteStatus (record_vote is_duplicate (.error e, t)) =
      (.ok (if is_duplicate e then .ALREADY_PRESENT else .REJECTED), t) := by
  rw [record_vote, he, Bool.true_and]
  by_cases hduplicate : is_duplicate e = true
  · rw [if_pos hduplicate, if_pos hduplicate]
    rfl
  · rw [if_neg hduplicate, if_neg hduplicate, voteStatus, if_pos he]

theorem store_new_of_error {now : String} {o : Object} {e : PyError}
    (h : (rt.prepare now o t).insert_row (rt.row o) = .error e) (he : e.isIntegrityError = true) :
    rt.store_new now o t =
      (.ok (if is_duplicate o e then .ALREADY_PRESENT else .REJECTED), t) := by
  have hadd := add_one_of_error h
  cases o with
  | issue_vote vote =>
      have hadd : add_issue_vote vote t = (.error e, t) := hadd
      rw [store_new, record_issue_vote, hadd]
      exact voteStatus_of_error is_duplicate_issue_vote_error he
  | solution_vote vote =>
      have hadd : add_solution_vote vote t = (.error e, t) := hadd
      rw [store_new, record_solution_vote, hadd]
      exact voteStatus_of_error is_duplicate_solution_vote_error he
  | _ =>
      rw [store_new, hadd, storeStatus, if_pos he]
      · rfl
      · intro vote hvote
        cases hvote
      · intro vote hvote
        cases hvote

theorem insert_content_hasRow {content : ContentRow} {row : Row} :
    (t.insert_content content).HasRow row ↔ t.HasRow row := by
  unfold Tables.insert_content
  split
  · exact Iff.rfl
  · cases row <;> exact Iff.rfl

theorem prepare_hasRow {now : String} {o : Object} {row : Row} :
    (rt.prepare now o t).HasRow row ↔ t.HasRow row := by
  unfold prepare
  cases o.description with
  | some text => exact insert_content_hasRow
  | none => exact Iff.rfl

theorem mem_prepare_content {now : String} {o : Object} {content : ContentRow}
    (h : content ∈ (rt.prepare now o t).content_objects) :
    content ∈ t.content_objects ∨
      ∃ text, o.description = some text ∧ content = rt.content_row now text := by
  unfold prepare at h
  cases hd : o.description with
  | some text =>
      rw [hd] at h
      rcases Tables.mem_insert_content h with hold | hnew
      · exact .inl hold
      · exact .inr ⟨text, rfl, hnew⟩
  | none =>
      rw [hd] at h
      exact .inl h

theorem Sane.prepare (h : rt.Sane t) (now : String) (o : Object) : rt.Sane (rt.prepare now o t) := by
  unfold Runtime.prepare
  cases o.description with
  | some text => exact h.store_text_content now text
  | none => exact h

theorem prepare_stored (now : String) (o : Object) :
    rt.stored texts (rt.prepare now o t) = rt.stored texts t := by
  ext p
  show rt.Genuine texts p ∧ (rt.prepare now o t).HasRow (rt.row p) ↔ _
  rw [prepare_hasRow]
  exact Iff.rfl

/-- The description of the object is stored. -/
theorem prepare_content {now : String} {o : Object} {hash : String}
    (h : (rt.row o).description_hash = some hash) :
    hash ∈ (rt.prepare now o t).content_objects.map ContentRow.hash := by
  rw [row_description_hash, Option.map_eq_some_iff] at h
  obtain ⟨text, htext, rfl⟩ := h
  rw [prepare, htext]
  show rt.text_hash text ∈ (t.insert_content (rt.content_row now text)).content_objects.map _
  unfold Tables.insert_content
  by_cases hold : (rt.content_row now text).hash ∈ t.content_objects.map ContentRow.hash
  · rw [if_pos hold]
    exact hold
  · rw [if_neg hold, List.map_append]
    exact List.mem_append_right _ (List.mem_singleton.mpr rfl)

section

variable (h : rt.IsStore texts t) {o : Object} (ho : rt.Genuine texts o) (now : String)

include h ho

theorem IsStore.prepare : rt.IsStore texts (rt.prepare now o t) := by
  refine ⟨h.sane.prepare now o, fun content hcontent => ?_,
    fun row hrow => h.rows row (prepare_hasRow.mp hrow)⟩
  rcases mem_prepare_content hcontent with hold | ⟨text, htext, rfl⟩
  · exact h.contents content hold
  · exact ho.description text htext

omit h ho in
theorem is_duplicate_of_taken (o : Object) :
    is_duplicate o (uniqueFailed (rt.row o).slot_columns) = true ↔ o.IsVote := by
  cases o with
  | issue_vote vote =>
      have htrue : is_duplicate_issue_vote_error
          (uniqueFailed "issue_votes.issue_id, issue_votes.voter_id") = true := by decide +kernel
      exact ⟨fun _ => trivial, fun _ => htrue⟩
  | solution_vote vote =>
      have htrue : is_duplicate_solution_vote_error
          (uniqueFailed "solution_votes.solution_id, solution_votes.voter_id") = true := by
        decide +kernel
      exact ⟨fun _ => trivial, fun _ => htrue⟩
  | _ => exact ⟨fun hfalse => absurd hfalse Bool.false_ne_true, False.elim⟩

omit h ho in
theorem is_duplicate_foreignKey (o : Object) : is_duplicate o foreignKeyFailed = false := by
  cases o with
  | issue_vote vote =>
      show is_duplicate_issue_vote_error foreignKeyFailed = false
      decide +kernel
  | solution_vote vote =>
      show is_duplicate_solution_vote_error foreignKeyFailed = false
      decide +kernel
  | _ => rfl

variable (hinj : Set.InjOn rt.text_hash texts)

include hinj

/-- An object that fits is stored. -/
theorem IsStore.store_remote_of_fits (hfits : links.Fits (rt.stored texts t) o) :
    ∃ t', rt.store_remote now o t = (.ok .STORED, t') ∧ rt.IsStore texts t' ∧
      rt.stored texts t' = links.receive (rt.stored texts t) o := by
  have hprepare := h.prepare ho now
  have hadmits : (rt.prepare now o t).Admits (rt.row o) := by
    rw [hprepare.admits_iff, prepare_stored]
    exact hfits
  obtain ⟨t', hinsert, hrows, hcontents⟩ :=
    Tables.insert_row_of_admits (fun _ => prepare_content) ho.fits hadmits
  have hnone : rt.get_stored_model o.item t = .ok none :=
    get_stored_model_of_not_mem fun hid => hfits.key ((h.hasKey_iff o.item).mpr hid)
  have hstore' : rt.IsStore texts t' := by
    -- the inserted row is the only new one, and it is the row of a genuine object
    refine ⟨hprepare.sane.of_schema (hprepare.sane.1.insert_row hinsert) hcontents,
      fun content hcontent => hprepare.contents content (hcontents ▸ hcontent), fun row hrow => ?_⟩
    rcases (hrows row).mp hrow with hold | rfl
    · exact hprepare.rows row hold
    · exact ⟨o, ho, rfl⟩
  refine ⟨t', ?_, hstore', ?_⟩
  · rw [store_remote, hnone]
    exact store_new_of_ok hinsert
  · have ho' : o ∈ rt.stored texts t' := ⟨ho, (hrows _).mpr (.inr rfl)⟩
    rw [Links.receive_of_fits hfits]
    ext p
    constructor
    · intro hp
      rcases (hrows _).mp hp.2 with hold | hnew
      · exact .inr ⟨hp.1, prepare_hasRow.mp hold⟩
      -- a stored object is known by its item: whatever has this row is the object itself
      · exact .inl (hstore'.eq_of_item hinj hp ho' (item_eq_of_row hnew))
    · rintro (rfl | hp)
      · exact ho'
      · exact ⟨hp.1, (hrows _).mpr (.inl (prepare_hasRow.mpr hp.2))⟩

omit hinj in
/-- A new id in a slot that is taken: the answer of the INSERT names the slot's columns. -/
theorem IsStore.store_remote_of_taken (hkey : ¬ links.HasKey (rt.stored texts t) o.item)
    {s : Slot UUID} (hs : o.slot = some s) (htaken : links.HasSlot (rt.stored texts t) s) :
    ∃ status, rt.store_remote now o t = (.ok status, t) ∧ status ≠ .STORED ∧
      (status = .ALREADY_PRESENT ↔ o.IsVote) := by
  have hnone : rt.get_stored_model o.item t = .ok none :=
    get_stored_model_of_not_mem fun hid => hkey ((h.hasKey_iff o.item).mpr hid)
  have hprepare := h.prepare ho now
  have hinsert : (rt.prepare now o t).insert_row (rt.row o) =
      .error (uniqueFailed (rt.row o).slot_columns) := by
    refine Tables.insert_row_of_taken ho.fits (s := s.map UUID.str) ?_ ?_
    · rw [row_slot, hs, Option.map_some]
    · rw [← hprepare.hasSlot_iff, prepare_stored]
      exact htaken
  refine ⟨_, by rw [store_remote, hnone]; exact store_new_of_error hinsert rfl, ?_, ?_⟩
  · split <;> simp
  · by_cases hvote : o.IsVote
    · rw [if_pos ((is_duplicate_of_taken o).mpr hvote)]
      exact ⟨fun _ => hvote, fun _ => rfl⟩
    · rw [if_neg fun hduplicate => hvote ((is_duplicate_of_taken o).mp hduplicate)]
      simp only [reduceCtorEq, false_iff]
      exact hvote

omit hinj in
/-- A new id in a free slot, without the object it refers to. -/
theorem IsStore.store_remote_of_orphan (hkey : ¬ links.HasKey (rt.stored texts t) o.item)
    (hslot : ¬ ∃ s, o.slot = some s ∧ links.HasSlot (rt.stored texts t) s) {item : GossipItem}
    (hitem : o.parent = some item) (hmissing : ¬ links.HasKey (rt.stored texts t) item) :
    ∃ status, rt.store_remote now o t = (.ok status, t) ∧ status ≠ .STORED ∧
      status ≠ .ALREADY_PRESENT := by
  have hnone : rt.get_stored_model o.item t = .ok none :=
    get_stored_model_of_not_mem fun hid => hkey ((h.hasKey_iff o.item).mpr hid)
  have hprepare := h.prepare ho now
  -- the keys are free, so that what SQLite reports is the foreign key
  have hinsert : (rt.prepare now o t).insert_row (rt.row o) = .error foreignKeyFailed := by
    refine Tables.insert_row_of_orphan ho.fits ?_ (fun s' hs' => ?_)
      (p := (item.object_type, item.object_uuid.str)) ?_ ?_
    · rw [row_id, row_object_type]
      have hkey' := hprepare.hasKey_iff o.item
      rw [prepare_stored] at hkey'
      exact fun hmem => hkey (hkey'.mpr hmem)
    · rw [row_slot, Option.map_eq_some_iff] at hs'
      obtain ⟨s, hs, rfl⟩ := hs'
      rw [← hprepare.hasSlot_iff, prepare_stored]
      exact fun htaken => hslot ⟨s, hs, htaken⟩
    · rw [row_parent, hitem, Option.map_some]
    · have hitem' := hprepare.hasKey_iff item
      rw [prepare_stored] at hitem'
      exact fun hmem => hmissing (hitem'.mpr hmem)
  refine ⟨_, by rw [store_remote, hnone]; exact store_new_of_error hinsert rfl, ?_, ?_⟩
  · rw [is_duplicate_foreignKey]
    simp
  · rw [is_duplicate_foreignKey]
    simp

/-- An object that does not fit leaves everything as it is. It counts as present when its id
is stored, and a vote also when its voter has voted. -/
theorem IsStore.store_remote_of_not_fits (hfits : ¬ links.Fits (rt.stored texts t) o) :
    ∃ status, rt.store_remote now o t = (.ok status, t) ∧ status ≠ .STORED ∧
      (status = .ALREADY_PRESENT ↔ links.HasKey (rt.stored texts t) o.item ∨
        (o.IsVote ∧ ∃ s, o.slot = some s ∧ links.HasSlot (rt.stored texts t) s)) := by
  by_cases hkey : links.HasKey (rt.stored texts t) o.item
  · -- the lookup before the INSERT finds it
    obtain ⟨p, hp, hpo⟩ := hkey
    have hsome : rt.get_stored_model o.item t = .ok (some p) := hpo ▸ h.get_stored_model_of_mem hinj hp
    refine ⟨.ALREADY_PRESENT, by rw [store_remote, hsome], by simp, ?_⟩
    exact ⟨fun _ => .inl ⟨p, hp, hpo⟩, fun _ => rfl⟩
  by_cases hslot : ∃ s, o.slot = some s ∧ links.HasSlot (rt.stored texts t) s
  · obtain ⟨s, hs, htaken⟩ := hslot
    obtain ⟨status, hstore, hnew, hpresent⟩ := h.store_remote_of_taken ho now hkey hs htaken
    refine ⟨status, hstore, hnew, hpresent.trans ?_⟩
    exact ⟨fun hvote => .inr ⟨hvote, s, hs, htaken⟩, fun hor => (hor.resolve_left hkey).1⟩
  · -- the slot is free, so the parent is missing
    have hparent : ∃ item, o.parent = some item ∧ ¬ links.HasKey (rt.stored texts t) item := by
      by_contra hnot
      refine hfits ⟨hkey, fun s hs htaken => hslot ⟨s, hs, htaken⟩, fun item hitem => ?_⟩
      by_contra hmissing
      exact hnot ⟨item, hitem, hmissing⟩
    obtain ⟨item, hitem, hmissing⟩ := hparent
    obtain ⟨status, hstore, hnew, habsent⟩ :=
      h.store_remote_of_orphan ho now hkey hslot hitem hmissing
    refine ⟨status, hstore, hnew, iff_of_false habsent ?_⟩
    exact fun hor => hslot (hor.resolve_left hkey).2

/-- **`store_remote` is `receive`**, with a status that tells why. -/
theorem IsStore.store_remote_spec :
    ∃ status t', rt.store_remote now o t = (.ok status, t') ∧ rt.IsStore texts t' ∧
      rt.stored texts t' = links.receive (rt.stored texts t) o ∧
      (status = .STORED ↔ links.Fits (rt.stored texts t) o) ∧
      (status = .ALREADY_PRESENT ↔ links.HasKey (rt.stored texts t) o.item ∨
        (o.IsVote ∧ ∃ s, o.slot = some s ∧ links.HasSlot (rt.stored texts t) s)) ∧
      (¬ links.Fits (rt.stored texts t) o → t' = t) := by
  by_cases hfits : links.Fits (rt.stored texts t) o
  · obtain ⟨t', hstore, hstore', hstored⟩ := h.store_remote_of_fits ho now hinj hfits
    refine ⟨.STORED, t', hstore, hstore', hstored, ⟨fun _ => hfits, fun _ => rfl⟩, ?_,
      fun hnot => absurd hfits hnot⟩
    simp only [reduceCtorEq, false_iff, not_or]
    exact ⟨hfits.key, fun ⟨_, s, hs, htaken⟩ => hfits.slot s hs htaken⟩
  · obtain ⟨status, hstore, hstatus, hpresent⟩ := h.store_remote_of_not_fits ho now hinj hfits
    refine ⟨status, t, hstore, h, (Links.receive_of_not_fits hfits).symm,
      ⟨fun heq => absurd heq hstatus, fun hfits' => absurd hfits' hfits⟩, hpresent, fun _ => rfl⟩

theorem IsStore.store_remote : rt.IsStore texts (rt.store_remote now o t).2 := by
  obtain ⟨status, t', hstore, hstore', -⟩ := h.store_remote_spec ho now hinj
  rw [hstore]
  exact hstore'

end

end Runtime

/-! ## Two objects -/

/-- A solution of `exampleIssue 1`. -/
def exampleSolution : Solution := hosts 5 "revised"

theorem exampleDate_isDatetime : exampleRuntime.IsDatetime exampleDate := by
  refine ⟨by decide +kernel, by decide +kernel, fun stored => ?_⟩
  simp [exampleDate]

theorem exampleIssue_genuine (id : UUID) :
    exampleRuntime.Genuine {"", "revised"} (.issue (exampleIssue id "")) where
  created_at := exampleDate_isDatetime
  description := by
    intro text htext
    cases htext
    exact .inl rfl
  fits := trivial

theorem exampleSolution_genuine :
    exampleRuntime.Genuine {"", "revised"} (.solution exampleSolution) where
  created_at := exampleDate_isDatetime
  description := by
    intro text htext
    cases htext
    exact .inr rfl
  fits := trivial

end Superorganism.Democracy
