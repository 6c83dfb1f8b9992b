/-
Runs of the repository: any sequence of the operations of
`democracy/storage/sqlite_repository.py` that write.

Every operation keeps the schema and the addressing of contents, whatever it answers, and
one that raises leaves the tables as they were, the content it had stored before the
failing statement included.

What a reader gets back is the last thing a writer gave. `lastIssue` and `lastSolution`
read that off the operations made so far, with what they answered, and `Follows` ties the
tables to it. A description is found by its hash, so that the text that comes back is the
one given, up to a collision of the hash function among the texts given so far.
-/
import Mathlib.Data.Set.Function
import Superorganism.Schema

set_option autoImplicit false

open Superorganism.Py Superorganism.Funding Superorganism.Sql

namespace Superorganism.Democracy

/-! ## Operations -/

inductive Write where
  | add_issue (issue : Issue)
  | add_issue_vote (vote : IssueVote)
  | record_issue_vote (vote : IssueVote)
  | add_solution (solution : Solution)
  | add_solution_vote (vote : SolutionVote)
  | record_solution_vote (vote : SolutionVote)
  | replace_issue (issue_id : UUID) (issue : Issue)
  | delete_issue (issue_id : UUID)
  | replace_solution (solution_id : UUID) (solution : Solution)
  | delete_solution (solution_id : UUID)
  | add_campaign (campaign : FundingCampaign)
  | add_pledge (pledge : FundingPledge)
deriving DecidableEq

/-- The descriptions an operation is given. -/
def Write.texts : Write → List String
  | .add_issue issue => [issue.description]
  | .add_solution solution => [solution.description]
  | .replace_issue _ issue => [issue.description]
  | .replace_solution _ solution => [solution.description]
  | _ => []

/-- The answer of an operation: whether it did what it is for. -/
def answered {α : Type} (did : α → Bool) (result : Except PyError α × Tables) :
    Except PyError Bool × Tables :=
  (result.1.map did, result.2)

variable (rt : Runtime)

def Runtime.perform (now : String) (write : Write) (t : Tables) : Except PyError Bool × Tables :=
  match write with
  | .add_issue issue => answered (fun _ => true) (rt.add_issue now issue t)
  | .add_issue_vote vote => answered (fun _ => true) (Democracy.add_issue_vote vote t)
  | .record_issue_vote vote => answered (· == .CREATED) (Democracy.record_issue_vote vote t)
  | .add_solution solution => answered (fun _ => true) (rt.add_solution now solution t)
  | .add_solution_vote vote => answered (fun _ => true) (Democracy.add_solution_vote vote t)
  | .record_solution_vote vote => answered (· == .CREATED) (Democracy.record_solution_vote vote t)
  | .replace_issue issue_id issue => rt.replace_issue now issue_id issue t
  | .delete_issue issue_id => Democracy.delete_issue issue_id t
  | .replace_solution solution_id solution => rt.replace_solution now solution_id solution t
  | .delete_solution solution_id => Democracy.delete_solution solution_id t
  | .add_campaign campaign => answered (fun _ => true) (Democracy.add_campaign campaign t)
  | .add_pledge pledge => answered (fun _ => true) (Democracy.add_pledge pledge t)

/-- An operation that was made, and whether it did what it is for. -/
structure Done where
  write : Write
  did : Bool
deriving DecidableEq

/-- The descriptions given so far. -/
def textsGiven (history : List Done) : Set String := {text | ∃ done ∈ history, text ∈ done.write.texts}

/-- Whether an answer says that the operation did what it is for. -/
def didIt : Except PyError Bool → Bool
  | .ok did => did
  | .error _ => false

/-- One operation, with the history it extends; the newest comes first. -/
def Runtime.stepWrite (s : Tables × List Done) (write : String × Write) : Tables × List Done :=
  let result := rt.perform write.1 write.2 s.1
  (result.2, ⟨write.2, didIt result.1⟩ :: s.2)

/-- The tables after a sequence of operations, each with the time it was made, and their
history. -/
def Runtime.runWrites (writes : List (String × Write)) : Tables × List Done :=
  writes.foldl rt.stepWrite (Tables.empty, [])

/-- The issue last given for an id. -/
def lastIssue : List Done → UUID → Option Issue
  | [], _ => none
  | ⟨.add_issue issue, true⟩ :: history, id =>
    if issue.id = id then some issue else lastIssue history id
  | ⟨.replace_issue issue_id issue, true⟩ :: history, id =>
    if issue.id = id then some issue
    else if issue_id = id then none
    else lastIssue history id
  | ⟨.delete_issue issue_id, _⟩ :: history, id =>
    if issue_id = id then none else lastIssue history id
  | _ :: history, id => lastIssue history id

/-- The solution last given for an id. A solution goes with its issue. -/
def lastSolution : List Done → UUID → Option Solution
  | [], _ => none
  | ⟨.add_solution solution, true⟩ :: history, id =>
    if solution.id = id then some solution else lastSolution history id
  | ⟨.replace_solution solution_id solution, true⟩ :: history, id =>
    if solution.id = id then some solution
    else if solution_id = id then none
    else lastSolution history id
  | ⟨.delete_solution solution_id, _⟩ :: history, id =>
    if solution_id = id then none else lastSolution history id
  | ⟨.delete_issue issue_id, _⟩ :: history, id =>
    (lastSolution history id).filter fun solution => solution.issue_id ≠ issue_id
  | _ :: history, id => lastSolution history id

/-! ## Every operation keeps the schema -/

variable {rt} {t : Tables}

theorem Runtime.Addressed.insert_content {now text : String} (h : rt.Addressed t) :
    rt.Addressed (t.insert_content (rt.content_row now text)) := by
  unfold Tables.insert_content
  by_cases hash : (rt.content_row now text).hash ∈ t.content_objects.map ContentRow.hash
  · rw [if_pos hash]
    exact h
  · rw [if_neg hash]
    intro content hcontent
    rcases List.mem_append.mp hcontent with hold | hnew
    · exact h content hold
    · rw [List.mem_singleton.mp hnew]
      rfl

/-- The schema holds, and contents are stored under their hashes. -/
def Runtime.Sane (rt : Runtime) (t : Tables) : Prop := Schema t ∧ rt.Addressed t

theorem Runtime.Sane.empty : rt.Sane Tables.empty := by
  refine ⟨Schema.empty, fun content hcontent => ?_⟩
  cases hcontent

theorem Runtime.Sane.store_text_content (h : rt.Sane t) (now text : String) :
    rt.Sane (rt.store_text_content now text t) :=
  ⟨h.1.insert_content _, h.2.insert_content⟩

/-- A statement that writes no contents. -/
theorem Runtime.Sane.of_schema {t' : Tables} (h : rt.Sane t) (hschema : Schema t')
    (hcontents : t'.content_objects = t.content_objects) : rt.Sane t' := by
  refine ⟨hschema, ?_⟩
  unfold Runtime.Addressed
  rw [hcontents]
  exact h.2

theorem record_vote_snd (is_duplicate : PyError → Bool) (added : Except PyError Unit × Tables) :
    (record_vote is_duplicate added).2 = added.2 := by
  obtain ⟨answer, after⟩ := added
  cases answer with
  | ok u => rfl
  | error exc =>
      rw [record_vote]
      split <;> rfl

section

variable (h : rt.Sane t)

include h

theorem Runtime.Sane.add_issue (now : String) (issue : Issue) :
    rt.Sane (rt.add_issue now issue t).2 := by
  refine transaction_keeps (rt.store_text_content now issue.description)
    (fun t => t.insert_issue (rt.issue_row issue)) (fun s hs => hs.store_text_content _ _)
    (fun s u s' hs hok => ?_) h
  refine hs.of_schema (hs.1.insert_issue hok) ?_
  obtain ⟨-, -, rfl⟩ := Tables.insert_issue_eq_ok hok
  rfl

theorem Runtime.Sane.add_issue_vote (vote : IssueVote) :
    rt.Sane (Democracy.add_issue_vote vote t).2 := by
  refine transaction_keeps id (fun t => t.insert_issue_vote (issue_vote_row vote)) (fun _ hs => hs)
    (fun s u s' hs hok => ?_) h
  refine hs.of_schema (hs.1.insert_issue_vote hok) ?_
  obtain ⟨-, -, -, rfl⟩ := Tables.insert_issue_vote_eq_ok hok
  rfl

theorem Runtime.Sane.add_solution (now : String) (solution : Solution) :
    rt.Sane (rt.add_solution now solution t).2 := by
  refine transaction_keeps (rt.store_text_content now solution.description)
    (fun t => t.insert_solution (rt.solution_row solution)) (fun s hs => hs.store_text_content _ _)
    (fun s u s' hs hok => ?_) h
  refine hs.of_schema (hs.1.insert_solution hok) ?_
  obtain ⟨-, -, -, rfl⟩ := Tables.insert_solution_eq_ok hok
  rfl

theorem Runtime.Sane.add_solution_vote (vote : SolutionVote) :
    rt.Sane (Democracy.add_solution_vote vote t).2 := by
  refine transaction_keeps id (fun t => t.insert_solution_vote (solution_vote_row vote))
    (fun _ hs => hs) (fun s u s' hs hok => ?_) h
  refine hs.of_schema (hs.1.insert_solution_vote hok) ?_
  obtain ⟨-, -, -, rfl⟩ := Tables.insert_solution_vote_eq_ok hok
  rfl

theorem Runtime.Sane.replace_issue (now : String) (issue_id : UUID) (issue : Issue) :
    rt.Sane (rt.replace_issue now issue_id issue t).2 := by
  refine transaction_keeps (rt.store_text_content now issue.description)
    (fun t => t.update_issue issue_id.str (rt.issue_row issue))
    (fun s hs => hs.store_text_content _ _) (fun s n s' hs hok => ?_) h
  refine hs.of_schema (hs.1.update_issue hok) ?_
  rcases Tables.update_issue_eq_ok hok with ⟨-, -, -, -, rfl⟩ | ⟨-, -, rfl⟩ <;> rfl

theorem Runtime.Sane.replace_solution (now : String) (solution_id : UUID) (solution : Solution) :
    rt.Sane (rt.replace_solution now solution_id solution t).2 := by
  refine transaction_keeps (rt.store_text_content now solution.description)
    (fun t => t.update_solution solution_id.str (rt.solution_row solution))
    (fun s hs => hs.store_text_content _ _) (fun s n s' hs hok => ?_) h
  refine hs.of_schema (hs.1.update_solution hok) ?_
  rcases Tables.update_solution_eq_ok hok with ⟨-, -, -, -, -, rfl⟩ | ⟨-, -, rfl⟩ <;> rfl

theorem Runtime.Sane.add_campaign (campaign : FundingCampaign) :
    rt.Sane (Democracy.add_campaign campaign t).2 := by
  refine transaction_keeps id (fun t => t.insert_campaign (campaign_row campaign)) (fun _ hs => hs)
    (fun s u s' hs hok => ?_) h
  refine hs.of_schema (hs.1.insert_campaign hok) ?_
  obtain ⟨-, -, -, rfl⟩ := Tables.insert_campaign_eq_ok hok
  rfl

theorem Runtime.Sane.add_pledge (pledge : FundingPledge) :
    rt.Sane (Democracy.add_pledge pledge t).2 := by
  refine transaction_keeps id (fun t => t.insert_pledge (pledge_row pledge)) (fun _ hs => hs)
    (fun s u s' hs hok => ?_) h
  refine hs.of_schema (hs.1.insert_pledge hok) ?_
  obtain ⟨-, -, -, rfl⟩ := Tables.insert_pledge_eq_ok hok
  rfl

/-- One operation, whatever it answers. -/
theorem Runtime.Sane.perform (now : String) (write : Write) :
    rt.Sane (rt.perform now write t).2 := by
  cases write with
  | add_issue issue => exact h.add_issue now issue
  | add_issue_vote vote => exact h.add_issue_vote vote
  | record_issue_vote vote =>
      show rt.Sane (record_vote _ (Democracy.add_issue_vote vote t)).2
      rw [record_vote_snd]
      exact h.add_issue_vote vote
  | add_solution solution => exact h.add_solution now solution
  | add_solution_vote vote => exact h.add_solution_vote vote
  | record_solution_vote vote =>
      show rt.Sane (record_vote _ (Democracy.add_solution_vote vote t)).2
      rw [record_vote_snd]
      exact h.add_solution_vote vote
  | replace_issue issue_id issue => exact h.replace_issue now issue_id issue
  | delete_issue issue_id => exact h.of_schema (h.1.delete_issue_row issue_id.str) rfl
  | replace_solution solution_id solution => exact h.replace_solution now solution_id solution
  | delete_solution solution_id => exact h.of_schema (h.1.delete_solution_row solution_id.str) rfl
  | add_campaign campaign => exact h.add_campaign campaign
  | add_pledge pledge => exact h.add_pledge pledge

end

/-! ## An operation that raises changes nothing -/

theorem map_eq_error {α β : Type} {x : Except PyError α} {f : α → β} {e : PyError}
    (h : x.map f = .error e) : x = .error e := by
  cases x with
  | error e' =>
      cases h
      rfl
  | ok a => cases h

theorem record_vote_error {is_duplicate : PyError → Bool} {added : Except PyError Unit × Tables}
    {e : PyError} (h : (record_vote is_duplicate added).1 = .error e) : added.1 = .error e := by
  obtain ⟨answer, after⟩ := added
  cases answer with
  | ok u => cases h
  | error exc =>
      rw [record_vote] at h
      split at h
      · cases h
      · cases h
        rfl

theorem Runtime.perform_rollback {now : String} {write : Write} {e : PyError}
    (h : (rt.perform now write t).1 = .error e) : (rt.perform now write t).2 = t := by
  cases write with
  | add_issue issue => exact transaction_rollback (map_eq_error h)
  | add_issue_vote vote => exact transaction_rollback (map_eq_error h)
  | record_issue_vote vote =>
      -- an error of `record_vote` is one of the insertion below it, which was rolled back
      have hadd := record_vote_error (map_eq_error h)
      show (record_vote _ (Democracy.add_issue_vote vote t)).2 = t
      rw [record_vote_snd]
      exact transaction_rollback hadd
  | add_solution solution => exact transaction_rollback (map_eq_error h)
  | add_solution_vote vote => exact transaction_rollback (map_eq_error h)
  | record_solution_vote vote =>
      have hadd := record_vote_error (map_eq_error h)
      show (record_vote _ (Democracy.add_solution_vote vote t)).2 = t
      rw [record_vote_snd]
      exact transaction_rollback hadd
  | replace_issue issue_id issue => exact transaction_rollback (map_eq_error h)
  | delete_issue issue_id =>
      -- a deletion raises nothing
      have hok : (Except.ok _ : Except PyError Bool) = .error e := h
      cases hok
  | replace_solution solution_id solution => exact transaction_rollback (map_eq_error h)
  | delete_solution solution_id =>
      have hok : (Except.ok _ : Except PyError Bool) = .error e := h
      cases hok
  | add_campaign campaign => exact transaction_rollback (map_eq_error h)
  | add_pledge pledge => exact transaction_rollback (map_eq_error h)

/-! ## The tables follow the history -/

theorem lastIssue_id {history : List Done} {id : UUID} {issue : Issue}
    (h : lastIssue history id = some issue) : issue.id = id := by
  fun_induction lastIssue history id with
  | case1 => cases h
  | case2 given history =>
      cases h
      rfl
  | case3 given history id hid ih => exact ih h
  | case4 issue_id given history =>
      cases h
      rfl
  | case5 => cases h
  | case6 issue_id given history id hid hold ih => exact ih h
  | case7 => cases h
  | case8 issue_id did history id hold ih => exact ih h
  | case9 done history id _ _ _ ih => exact ih h

theorem lastSolution_id {history : List Done} {id : UUID} {solution : Solution}
    (h : lastSolution history id = some solution) : solution.id = id := by
  fun_induction lastSolution history id with
  | case1 => cases h
  | case2 given history =>
      cases h
      rfl
  | case3 given history id hid ih => exact ih h
  | case4 solution_id given history =>
      cases h
      rfl
  | case5 => cases h
  | case6 solution_id given history id hid hold ih => exact ih h
  | case7 => cases h
  | case8 solution_id did history id hold ih => exact ih h
  | case9 issue_id did history id ih => exact ih (Option.filter_eq_some_iff.mp h).1
  | case10 done history id _ _ _ _ ih => exact ih h

/-- The issues and solutions stored are those last given, and the contents are descriptions
given. -/
structure Runtime.Follows (rt : Runtime) (t : Tables) (history : List Done) : Prop where
  issues : Holds rt.issue_row Issue.id t.issues (lastIssue history)
  solutions : Holds rt.solution_row Solution.id t.solutions (lastSolution history)
  texts : ∀ content ∈ t.content_objects, content.text_content ∈ textsGiven history

theorem textsGiven_cons {done : Done} {history : List Done} {text : String}
    (h : text ∈ textsGiven history) : text ∈ textsGiven (done :: history) := by
  obtain ⟨earlier, hearlier, htext⟩ := h
  exact ⟨earlier, List.mem_cons_of_mem _ hearlier, htext⟩

@[simp] theorem Tables.insert_content_issues (t : Tables) (row : ContentRow) :
    (t.insert_content row).issues = t.issues := by
  unfold Tables.insert_content
  split <;> rfl

@[simp] theorem Tables.insert_content_solutions (t : Tables) (row : ContentRow) :
    (t.insert_content row).solutions = t.solutions := by
  unfold Tables.insert_content
  split <;> rfl

theorem Tables.mem_insert_content {t : Tables} {row content : ContentRow}
    (h : content ∈ (t.insert_content row).content_objects) :
    content ∈ t.content_objects ∨ content = row := by
  unfold Tables.insert_content at h
  split at h
  · exact .inl h
  · rcases List.mem_append.mp h with hold | hnew
    · exact .inl hold
    · exact .inr (List.mem_singleton.mp hnew)

namespace Runtime.Follows

variable {t' : Tables} {history : List Done}

theorem empty : rt.Follows Tables.empty [] where
  issues row := by simp [Tables.empty, lastIssue]
  solutions row := by simp [Tables.empty, lastSolution]
  texts content hcontent := by cases hcontent

/-- A content stored for an operation that was given its text. -/
theorem texts_store (h : rt.Follows t history) (now text : String) (done : Done)
    (hdone : text ∈ done.write.texts) :
    ∀ content ∈ (rt.store_text_content now text t).content_objects,
      content.text_content ∈ textsGiven (done :: history) := by
  intro content hcontent
  rcases Tables.mem_insert_content hcontent with hold | rfl
  · exact textsGiven_cons (h.texts content hold)
  · exact ⟨done, List.mem_cons_self .., hdone⟩

/-- An operation that touched neither issues nor solutions nor contents. -/
theorem unchanged (h : rt.Follows t history) {done : Done} (hissues : t'.issues = t.issues)
    (hsolutions : t'.solutions = t.solutions) (hcontents : t'.content_objects = t.content_objects)
    (hissue : ∀ id, lastIssue (done :: history) id = lastIssue history id)
    (hsolution : ∀ id, lastSolution (done :: history) id = lastSolution history id) :
    rt.Follows t' (done :: history) where
  issues := h.issues.congr hissues hissue
  solutions := h.solutions.congr hsolutions hsolution
  texts content hcontent := by
    rw [hcontents] at hcontent
    exact textsGiven_cons (h.texts content hcontent)

/-- An operation that stored a text and touched neither issues nor solutions. -/
theorem store_text (h : rt.Follows t history) (now text : String) {done : Done}
    (hdone : text ∈ done.write.texts)
    (hissue : ∀ id, lastIssue (done :: history) id = lastIssue history id)
    (hsolution : ∀ id, lastSolution (done :: history) id = lastSolution history id) :
    rt.Follows (rt.store_text_content now text t) (done :: history) where
  issues := h.issues.congr (by simp only [store_text_content, Tables.insert_content_issues]) hissue
  solutions :=
    h.solutions.congr (by simp only [store_text_content, Tables.insert_content_solutions]) hsolution
  texts := h.texts_store now text done hdone

theorem add_issue (h : rt.Follows t history) {now : String} {issue : Issue} {u : Unit}
    (hok : (rt.store_text_content now issue.description t).insert_issue (rt.issue_row issue) =
      .ok (u, t')) : rt.Follows t' (⟨.add_issue issue, true⟩ :: history) := by
  obtain ⟨hid, -, rfl⟩ := Tables.insert_issue_eq_ok hok
  simp only [Runtime.store_text_content, Tables.insert_content_issues] at hid
  have hissues := h.issues.insert IssueRow.id UUID.str (fun _ => rfl) hid
  refine ⟨hissues.congr ?_ fun _ => by simp only [lastIssue],
    h.solutions.congr ?_ fun _ => by simp only [lastSolution],
    h.texts_store _ _ _ (List.mem_singleton_self _)⟩
  · simp [Runtime.store_text_content]
  · simp [Runtime.store_text_content]

theorem add_solution (h : rt.Follows t history) {now : String} {solution : Solution} {u : Unit}
    (hok : (rt.store_text_content now solution.description t).insert_solution
      (rt.solution_row solution) = .ok (u, t')) :
    rt.Follows t' (⟨.add_solution solution, true⟩ :: history) := by
  obtain ⟨hid, -, -, rfl⟩ := Tables.insert_solution_eq_ok hok
  simp only [Runtime.store_text_content, Tables.insert_content_solutions] at hid
  have hsolutions := h.solutions.insert SolutionRow.id UUID.str (fun _ => rfl) hid
  refine ⟨h.issues.congr ?_ fun _ => by simp only [lastIssue],
    hsolutions.congr ?_ fun _ => by simp only [lastSolution],
    h.texts_store _ _ _ (List.mem_singleton_self _)⟩
  · simp [Runtime.store_text_content]
  · simp [Runtime.store_text_content]

theorem replace_issue (h : rt.Follows t history) {now : String} {issue_id : UUID} {issue : Issue}
    {n : ℕ} (hok : (rt.store_text_content now issue.description t).update_issue issue_id.str
      (rt.issue_row issue) = .ok (n, t')) :
    rt.Follows t' (⟨.replace_issue issue_id issue, decide (n > 0)⟩ :: history) := by
  have htexts := h.texts_store now issue.description
    ⟨.replace_issue issue_id issue, decide (n > 0)⟩ (List.mem_singleton_self _)
  rcases Tables.update_issue_eq_ok hok with ⟨rfl, hold, hid, -, rfl⟩ | ⟨rfl, -, rfl⟩
  · simp only [Runtime.store_text_content, Tables.insert_content_issues] at hold hid
    have hissues := h.issues.replace IssueRow.id UUID.str UUID.str_injective (fun _ => rfl) hold
      (hid.imp_right And.left)
    refine ⟨hissues.congr ?_ fun _ => by simp [lastIssue],
      h.solutions.congr ?_ fun _ => by simp [lastSolution], htexts⟩
    · simp [Runtime.store_text_content]
    · simp [Runtime.store_text_content]
  · exact h.store_text now issue.description (List.mem_singleton_self _)
      (fun _ => by simp [lastIssue]) (fun _ => by simp [lastSolution])

theorem replace_solution (h : rt.Follows t history) {now : String} {solution_id : UUID}
    {solution : Solution} {n : ℕ}
    (hok : (rt.store_text_content now solution.description t).update_solution solution_id.str
      (rt.solution_row solution) = .ok (n, t')) :
    rt.Follows t' (⟨.replace_solution solution_id solution, decide (n > 0)⟩ :: history) := by
  have htexts := h.texts_store now solution.description
    ⟨.replace_solution solution_id solution, decide (n > 0)⟩ (List.mem_singleton_self _)
  rcases Tables.update_solution_eq_ok hok with ⟨rfl, hold, hid, -, -, rfl⟩ | ⟨rfl, -, rfl⟩
  · simp only [Runtime.store_text_content, Tables.insert_content_solutions] at hold hid
    have hsolutions := h.solutions.replace SolutionRow.id UUID.str UUID.str_injective (fun _ => rfl)
      hold (hid.imp_right And.left)
    refine ⟨h.issues.congr ?_ fun _ => by simp [lastIssue],
      hsolutions.congr ?_ fun _ => by simp [lastSolution], htexts⟩
    · simp [Runtime.store_text_content]
    · simp [Runtime.store_text_content]
  · exact h.store_text now solution.description (List.mem_singleton_self _)
      (fun _ => by simp [lastIssue]) (fun _ => by simp [lastSolution])

theorem delete_issue (h : rt.Follows t history) (issue_id : UUID) (did : Bool) :
    rt.Follows (t.delete_issue_row issue_id.str).2 (⟨.delete_issue issue_id, did⟩ :: history) := by
  have hissues := h.issues.erase IssueRow.id UUID.str UUID.str_injective (fun _ => rfl) issue_id
  have hkeep : ∀ solution : Solution, (!decide ((rt.solution_row solution).issue_id = issue_id.str)) =
      decide (solution.issue_id ≠ issue_id) := by
    intro solution
    have hstr : (rt.solution_row solution).issue_id = issue_id.str ↔ solution.issue_id = issue_id :=
      UUID.str_injective.eq_iff
    rw [decide_not, decide_eq_decide.mpr hstr]
  exact ⟨hissues.congr rfl fun _ => by simp only [lastIssue],
    (h.solutions.filter hkeep).congr rfl fun _ => by simp only [lastSolution],
    fun content hcontent => textsGiven_cons (h.texts content hcontent)⟩

theorem delete_solution (h : rt.Follows t history) (solution_id : UUID) (did : Bool) :
    rt.Follows (t.delete_solution_row solution_id.str).2
      (⟨.delete_solution solution_id, did⟩ :: history) := by
  have hsolutions :=
    h.solutions.erase SolutionRow.id UUID.str UUID.str_injective (fun _ => rfl) solution_id
  refine ⟨h.issues.congr rfl fun _ => by simp only [lastIssue],
    hsolutions.congr ?_ fun _ => by simp only [lastSolution],
    fun content hcontent => textsGiven_cons (h.texts content hcontent)⟩
  simp [Tables.delete_solution_row, Tables.delete_solutions]

/-- A vote, a campaign or a pledge that was or was not added. -/
theorem insert_other (h : rt.Follows t history) {done : Done} {α : Type}
    (statement : Tables → Except PyError (α × Tables))
    (hstatement : ∀ s a s', statement s = .ok (a, s') → s'.issues = s.issues ∧
      s'.solutions = s.solutions ∧ s'.content_objects = s.content_objects)
    (hissue : ∀ id, lastIssue (done :: history) id = lastIssue history id)
    (hsolution : ∀ id, lastSolution (done :: history) id = lastSolution history id) :
    rt.Follows (transaction (fun t => exec statement t) t).2 (done :: history) := by
  rcases transaction_exec id statement t with ⟨e, -, hfail⟩ | ⟨a, t', hok, hdone⟩
  · have hsame : (transaction (fun t => exec statement t) t).2 = t := congrArg Prod.snd hfail
    rw [hsame]
    exact h.unchanged rfl rfl rfl hissue hsolution
  · have hsame : (transaction (fun t => exec statement t) t).2 = t' := congrArg Prod.snd hdone
    rw [hsame]
    obtain ⟨hissues, hsolutions, hcontents⟩ := hstatement t a t' hok
    exact h.unchanged hissues hsolutions hcontents hissue hsolution

theorem insert_issue_vote (h : rt.Follows t history) (vote : IssueVote) (done : Done)
    (hissue : ∀ id, lastIssue (done :: history) id = lastIssue history id)
    (hsolution : ∀ id, lastSolution (done :: history) id = lastSolution history id) :
    rt.Follows (Democracy.add_issue_vote vote t).2 (done :: history) := by
  refine h.insert_other (fun t => t.insert_issue_vote (issue_vote_row vote)) (fun s u s' hok => ?_)
    hissue hsolution
  obtain ⟨-, -, -, rfl⟩ := Tables.insert_issue_vote_eq_ok hok
  exact ⟨rfl, rfl, rfl⟩

theorem insert_solution_vote (h : rt.Follows t history) (vote : SolutionVote) (done : Done)
    (hissue : ∀ id, lastIssue (done :: history) id = lastIssue history id)
    (hsolution : ∀ id, lastSolution (done :: history) id = lastSolution history id) :
    rt.Follows (Democracy.add_solution_vote vote t).2 (done :: history) := by
  refine h.insert_other (fun t => t.insert_solution_vote (solution_vote_row vote))
    (fun s u s' hok => ?_) hissue hsolution
  obtain ⟨-, -, -, rfl⟩ := Tables.insert_solution_vote_eq_ok hok
  exact ⟨rfl, rfl, rfl⟩

theorem stepWrite_of {now : String} {write : Write} {answer : Except PyError Bool}
    (h : rt.perform now write t = (answer, t')) :
    rt.stepWrite (t, history) (now, write) = (t', ⟨write, didIt answer⟩ :: history) := by
  rw [Runtime.stepWrite, h]

/-- An operation that gives a text and makes one statement, in one transaction: where the
statement fails nothing happened. -/
theorem of_transaction (h : rt.Follows t history) {α : Type} {now : String} {write : Write}
    {did : α → Bool} (prepare : Tables → Tables)
    (statement : Tables → Except PyError (α × Tables))
    (hperform : rt.perform now write t =
      answered did (transaction (fun t => exec statement (prepare t)) t))
    (hissue : ∀ id, lastIssue (⟨write, false⟩ :: history) id = lastIssue history id)
    (hsolution : ∀ id, lastSolution (⟨write, false⟩ :: history) id = lastSolution history id)
    (hdone : ∀ a t', statement (prepare t) = .ok (a, t') →
      rt.Follows t' (⟨write, did a⟩ :: history)) :
    rt.Follows (rt.stepWrite (t, history) (now, write)).1
      (rt.stepWrite (t, history) (now, write)).2 := by
  rcases transaction_exec prepare statement t with ⟨e, -, hfail⟩ | ⟨a, t', hok, hcommit⟩
  · rw [hfail] at hperform
    rw [stepWrite_of hperform]
    exact h.unchanged rfl rfl rfl hissue hsolution
  · rw [hcommit] at hperform
    rw [stepWrite_of hperform]
    exact hdone a t' hok

/-- One operation. -/
theorem step {s : Tables × List Done} (h : rt.Follows s.1 s.2) (write : String × Write) :
    rt.Follows (rt.stepWrite s write).1 (rt.stepWrite s write).2 := by
  obtain ⟨t, history⟩ := s
  obtain ⟨now, write⟩ := write
  cases write with
  | add_issue issue =>
      exact h.of_transaction (rt.store_text_content now issue.description)
        (fun t => t.insert_issue (rt.issue_row issue)) rfl (fun _ => by simp only [lastIssue])
        (fun _ => by simp only [lastSolution]) fun _ _ hok => h.add_issue hok
  | add_issue_vote vote =>
      exact h.insert_issue_vote vote _ (fun _ => by simp only [lastIssue])
        (fun _ => by simp only [lastSolution])
  | record_issue_vote vote =>
      -- recording differs from adding in the answer only
      have hsnd : (rt.stepWrite (t, history) (now, .record_issue_vote vote)).1 =
          (Democracy.add_issue_vote vote t).2 := record_vote_snd ..
      rw [hsnd]
      exact h.insert_issue_vote vote _ (fun _ => by simp only [lastIssue])
        (fun _ => by simp only [lastSolution])
  | add_solution solution =>
      exact h.of_transaction (rt.store_text_content now solution.description)
        (fun t => t.insert_solution (rt.solution_row solution)) rfl (fun _ => by simp only [lastIssue])
        (fun _ => by simp only [lastSolution]) fun _ _ hok => h.add_solution hok
  | add_solution_vote vote =>
      exact h.insert_solution_vote vote _ (fun _ => by simp only [lastIssue])
        (fun _ => by simp only [lastSolution])
  | record_solution_vote vote =>
      have hsnd : (rt.stepWrite (t, history) (now, .record_solution_vote vote)).1 =
          (Democracy.add_solution_vote vote t).2 := record_vote_snd ..
      rw [hsnd]
      exact h.insert_solution_vote vote _ (fun _ => by simp only [lastIssue])
        (fun _ => by simp only [lastSolution])
  | replace_issue issue_id issue =>
      exact h.of_transaction (rt.store_text_content now issue.description)
        (fun t => t.update_issue issue_id.str (rt.issue_row issue)) rfl
        (fun _ => by simp only [lastIssue]) (fun _ => by simp only [lastSolution])
        fun _ _ hok => h.replace_issue hok
  | delete_issue issue_id => exact h.delete_issue issue_id _
  | replace_solution solution_id solution =>
      exact h.of_transaction (rt.store_text_content now solution.description)
        (fun t => t.update_solution solution_id.str (rt.solution_row solution)) rfl
        (fun _ => by simp only [lastIssue]) (fun _ => by simp only [lastSolution])
        fun _ _ hok => h.replace_solution hok
  | delete_solution solution_id => exact h.delete_solution solution_id _
  | add_campaign campaign =>
      refine h.insert_other (fun t => t.insert_campaign (campaign_row campaign)) (fun s u s' hok => ?_)
        (fun _ => by simp only [lastIssue]) (fun _ => by simp only [lastSolution])
      obtain ⟨-, -, -, rfl⟩ := Tables.insert_campaign_eq_ok hok
      exact ⟨rfl, rfl, rfl⟩
  | add_pledge pledge =>
      refine h.insert_other (fun t => t.insert_pledge (pledge_row pledge)) (fun s u s' hok => ?_)
        (fun _ => by simp only [lastIssue]) (fun _ => by simp only [lastSolution])
      obtain ⟨-, -, -, rfl⟩ := Tables.insert_pledge_eq_ok hok
      exact ⟨rfl, rfl, rfl⟩

end Runtime.Follows

/-! ## What a reader gets -/

/-- One row and its content are read as an issue. -/
theorem Runtime.row_to_issue_eq (issue : Issue) (description : String) :
    rt.row_to_issue (rt.issue_row issue, description) = .ok { issue with
      description := description
      created_at := rt.datetime_from_storage issue.created_at.stored } := by
  simp only [Runtime.row_to_issue, Runtime.issue_row, Runtime.parse_uuid_str, ok_bind]
  rfl

theorem Runtime.row_to_solution_eq (solution : Solution) (description : String) :
    rt.row_to_solution (rt.solution_row solution, description) = .ok { solution with
      description := description
      created_at := rt.datetime_from_storage solution.created_at.stored } := by
  simp only [Runtime.row_to_solution, Runtime.solution_row, Runtime.parse_uuid_str, ok_bind]
  rfl

/-- A stored issue is found, with the text stored under the hash of its description. -/
theorem Runtime.get_issue_of_mem (h : rt.Sane t) {issue : Issue} (hmem : rt.issue_row issue ∈ t.issues) :
    ∃ content ∈ t.content_objects, rt.text_hash content.text_content = rt.text_hash issue.description ∧
      rt.get_issue issue.id t = .ok (some { issue with
        description := content.text_content
        created_at := rt.datetime_from_storage issue.created_at.stored }) := by
  obtain ⟨content, hcontent, hhash⟩ := h.1.issue_content _ hmem
  refine ⟨content, hcontent, (h.2 content hcontent).symm.trans hhash, ?_⟩
  have hjoin : t.issuesJoin.filter (fun row => row.1.id = issue.id.str) =
      [(rt.issue_row issue, content.text_content)] :=
    filter_join_eq h.1.issue_key h.1.content_key hmem hcontent hhash
  rw [Runtime.get_issue, hjoin, Runtime.fetchone, Runtime.row_to_issue_eq, ok_bind]
  rfl

theorem Runtime.get_issue_of_not_mem {issue_id : UUID}
    (h : issue_id.str ∉ t.issues.map IssueRow.id) : rt.get_issue issue_id t = .ok none := by
  have hjoin : t.issuesJoin.filter (fun row => row.1.id = issue_id.str) = [] :=
    filter_join_eq_nil fun row hrow heq => h (heq ▸ List.mem_map_of_mem hrow)
  rw [Runtime.get_issue, hjoin]
  rfl

theorem Runtime.get_solution_of_mem (h : rt.Sane t) {solution : Solution}
    (hmem : rt.solution_row solution ∈ t.solutions) :
    ∃ content ∈ t.content_objects,
      rt.text_hash content.text_content = rt.text_hash solution.description ∧
      rt.get_solution solution.id t = .ok (some { solution with
        description := content.text_content
        created_at := rt.datetime_from_storage solution.created_at.stored }) := by
  obtain ⟨content, hcontent, hhash⟩ := h.1.solution_content _ hmem
  refine ⟨content, hcontent, (h.2 content hcontent).symm.trans hhash, ?_⟩
  have hjoin : t.solutionsJoin.filter (fun row => row.1.id = solution.id.str) =
      [(rt.solution_row solution, content.text_content)] :=
    filter_join_eq h.1.solution_key h.1.content_key hmem hcontent hhash
  rw [Runtime.get_solution, hjoin, Runtime.fetchone, Runtime.row_to_solution_eq, ok_bind]
  rfl

theorem Runtime.get_solution_of_not_mem {solution_id : UUID}
    (h : solution_id.str ∉ t.solutions.map SolutionRow.id) :
    rt.get_solution solution_id t = .ok none := by
  have hjoin : t.solutionsJoin.filter (fun row => row.1.id = solution_id.str) = [] :=
    filter_join_eq_nil fun row hrow heq => h (heq ▸ List.mem_map_of_mem hrow)
  rw [Runtime.get_solution, hjoin]
  rfl

/-! ## Every run -/

theorem lastIssue_text {history : List Done} {id : UUID} {issue : Issue}
    (h : lastIssue history id = some issue) : issue.description ∈ textsGiven history := by
  fun_induction lastIssue history id with
  | case1 => cases h
  | case2 given history =>
      cases h
      exact ⟨_, List.mem_cons_self .., List.mem_singleton_self _⟩
  | case3 given history id hid ih => exact textsGiven_cons (ih h)
  | case4 issue_id given history =>
      cases h
      exact ⟨_, List.mem_cons_self .., List.mem_singleton_self _⟩
  | case5 => cases h
  | case6 issue_id given history id hid hold ih => exact textsGiven_cons (ih h)
  | case7 => cases h
  | case8 issue_id did history id hold ih => exact textsGiven_cons (ih h)
  | case9 done history id _ _ _ ih => exact textsGiven_cons (ih h)

theorem lastSolution_text {history : List Done} {id : UUID} {solution : Solution}
    (h : lastSolution history id = some solution) : solution.description ∈ textsGiven history := by
  fun_induction lastSolution history id with
  | case1 => cases h
  | case2 given history =>
      cases h
      exact ⟨_, List.mem_cons_self .., List.mem_singleton_self _⟩
  | case3 given history id hid ih => exact textsGiven_cons (ih h)
  | case4 solution_id given history =>
      cases h
      exact ⟨_, List.mem_cons_self .., List.mem_singleton_self _⟩
  | case5 => cases h
  | case6 solution_id given history id hid hold ih => exact textsGiven_cons (ih h)
  | case7 => cases h
  | case8 solution_id did history id hold ih => exact textsGiven_cons (ih h)
  | case9 issue_id did history id ih =>
      exact textsGiven_cons (ih (Option.filter_eq_some_iff.mp h).1)
  | case10 done history id _ _ _ _ ih => exact textsGiven_cons (ih h)

/-- Every sequence of operations keeps the schema, and the tables follow what was given. -/
theorem Runtime.runWrites_keeps (rt : Runtime) (writes : List (String × Write)) :
    rt.Sane (rt.runWrites writes).1 ∧ rt.Follows (rt.runWrites writes).1 (rt.runWrites writes).2 := by
  induction writes using List.reverseRecOn with
  | nil => exact ⟨Runtime.Sane.empty, Runtime.Follows.empty⟩
  | append_singleton writes write ih =>
      have hrun : rt.runWrites (writes ++ [write]) = rt.stepWrite (rt.runWrites writes) write := by
        rw [Runtime.runWrites, List.foldl_append]
        rfl
      rw [hrun]
      exact ⟨ih.1.perform write.1 write.2, ih.2.step write⟩

section

variable {history : List Done} (hsane : rt.Sane t) (hfollows : rt.Follows t history)

include hsane hfollows

/-- An issue is read with the description it was last given. -/
theorem Runtime.get_issue_last (id : UUID) :
    (lastIssue history id = none → rt.get_issue id t = .ok none) ∧
    ∀ issue, lastIssue history id = some issue →
      ∃ read, rt.get_issue id t = .ok (some read) ∧
        rt.text_hash read.description = rt.text_hash issue.description ∧
        (Set.InjOn rt.text_hash (textsGiven history) → read.description = issue.description) := by
  constructor
  · intro hnone
    refine Runtime.get_issue_of_not_mem fun hmem => ?_
    obtain ⟨row, hrow, hid⟩ := List.mem_map.mp hmem
    obtain ⟨issue, hlast, rfl⟩ := (hfollows.issues row).mp hrow
    rw [UUID.str_injective hid, hnone] at hlast
    cases hlast
  · intro issue hlast
    have hid := lastIssue_id hlast
    subst hid
    obtain ⟨content, hcontent, hhash, hget⟩ :=
      Runtime.get_issue_of_mem hsane (hfollows.issues.mem hlast)
    exact ⟨_, hget, hhash, fun hinj =>
      hinj (hfollows.texts content hcontent) (lastIssue_text hlast) hhash⟩

theorem Runtime.get_solution_last (id : UUID) :
    (lastSolution history id = none → rt.get_solution id t = .ok none) ∧
    ∀ solution, lastSolution history id = some solution →
      ∃ read, rt.get_solution id t = .ok (some read) ∧
        rt.text_hash read.description = rt.text_hash solution.description ∧
        (Set.InjOn rt.text_hash (textsGiven history) → read.description = solution.description) := by
  constructor
  · intro hnone
    refine Runtime.get_solution_of_not_mem fun hmem => ?_
    obtain ⟨row, hrow, hid⟩ := List.mem_map.mp hmem
    obtain ⟨solution, hlast, rfl⟩ := (hfollows.solutions row).mp hrow
    rw [UUID.str_injective hid, hnone] at hlast
    cases hlast
  · intro solution hlast
    have hid := lastSolution_id hlast
    subst hid
    obtain ⟨content, hcontent, hhash, hget⟩ :=
      Runtime.get_solution_of_mem hsane (hfollows.solutions.mem hlast)
    exact ⟨_, hget, hhash, fun hinj =>
      hinj (hfollows.texts content hcontent) (lastSolution_text hlast) hhash⟩

end

/-- **The repository keeps its schema.** After every sequence of writing operations the
constraints hold (every vote, solution, campaign and pledge has its parent, one vote for a
target and voter, one campaign for a solution), every `description_hash` is the hash of the
text it leads to, and an issue or a solution is read with the description last given for
it; and an operation that raises `IntegrityError` then leaves every table as it was. -/
theorem repository_keeps_schema (rt : Runtime) (writes : List (String × Write)) :
    let t := (rt.runWrites writes).1
    let history := (rt.runWrites writes).2
    Schema t ∧
    (∀ row ∈ t.issues, ∃ content ∈ t.content_objects, content.hash = row.description_hash ∧
      rt.text_hash content.text_content = row.description_hash) ∧
    (∀ row ∈ t.solutions, ∃ content ∈ t.content_objects, content.hash = row.description_hash ∧
      rt.text_hash content.text_content = row.description_hash) ∧
    (∀ id, (lastIssue history id = none → rt.get_issue id t = .ok none) ∧
      ∀ issue, lastIssue history id = some issue →
        ∃ read, rt.get_issue id t = .ok (some read) ∧
          rt.text_hash read.description = rt.text_hash issue.description ∧
          (Set.InjOn rt.text_hash (textsGiven history) → read.description = issue.description)) ∧
    (∀ id, (lastSolution history id = none → rt.get_solution id t = .ok none) ∧
      ∀ solution, lastSolution history id = some solution →
        ∃ read, rt.get_solution id t = .ok (some read) ∧
          rt.text_hash read.description = rt.text_hash solution.description ∧
          (Set.InjOn rt.text_hash (textsGiven history) →
            read.description = solution.description)) ∧
    ∀ now write message, (rt.perform now write t).1 = .error (.IntegrityError message) →
      (rt.perform now write t).2 = t := by
  intro t history
  obtain ⟨hsane, hfollows⟩ := rt.runWrites_keeps writes
  refine ⟨hsane.1, fun row hrow => ?_, fun row hrow => ?_, Runtime.get_issue_last hsane hfollows,
    Runtime.get_solution_last hsane hfollows, fun now write message => Runtime.perform_rollback⟩
  -- the foreign key leads to a content row, and content rows are stored under the hash of the text
  · obtain ⟨content, hcontent, hhash⟩ := hsane.1.issue_content row hrow
    exact ⟨content, hcontent, hhash, (hsane.2 content hcontent).symm.trans hhash⟩
  · obtain ⟨content, hcontent, hhash⟩ := hsane.1.solution_content row hrow
    exact ⟨content, hcontent, hhash, (hsane.2 content hcontent).symm.trans hhash⟩

/-- A runtime that knows the digests of two texts and one date. -/
def exampleRuntime : Runtime where
  sha256 bytes :=
    if bytes = [] then
    [0xe3, 0xb0, 0xc4, 0x42, 0x98, 0xfc, 0x1c, 0x14, 0x9a, 0xfb, 0xf4, 0xc8, 0x99, 0x6f, 0xb9, 0x24,
      0x27, 0xae, 0x41, 0xe4, 0x64, 0x9b, 0x93, 0x4c, 0xa4, 0x95, 0x99, 0x1b, 0x78, 0x52, 0xb8, 0x55]
    else if bytes = utf8 "revised" then
    [0x1e, 0x4d, 0xe3, 0x1f, 0x94, 0x53, 0x59, 0x68, 0xf4, 0xe4, 0xca, 0x8f, 0xd5, 0x77, 0xa4, 0x59,
      0x8e, 0x98, 0x4b, 0xc5, 0xc8, 0x9d, 0xae, 0x09, 0x59, 0x24, 0xe9, 0x44, 0xc1, 0x21, 0xc7, 0xa3]
    else []
  uuid := UUID.ofStr
  fromisoformat text :=
    if text = "2024-01-01T00:00:00+00:00" then some (.aware 1704067200000000 text) else none
  fromtimestamp _ := none
  uuid_str := UUID.ofStr_str

def exampleDate : CreatedAt := .aware 1704067200000000 "2024-01-01T00:00:00+00:00"

def exampleIssue (id : UUID) (description : String) : Issue :=
  ⟨"Mirror the archive", 7, description, id, exampleDate⟩

/-- A solution of `exampleIssue 1`. -/
def hosts (id : UUID) (description : String) : Solution :=
  ⟨"Use three hosts", description, 7, 1, id, exampleDate⟩

/-- An issue with two solutions, one of them voted for. The issue cannot get a new id as long as
they refer to it; the one with the vote is deleted, the other gets a new id and text, and the issue a
new text. -/
def edited : List (String × Write) :=
  [("2024-01-01T00:00:01+00:00", .add_issue (exampleIssue 1 "")),
    ("2024-01-01T00:00:02+00:00", .add_solution (hosts 5 "revised")),
    ("2024-01-01T00:00:03+00:00", .add_solution (hosts 6 "")),
    ("2024-01-01T00:00:04+00:00", .record_solution_vote ⟨7, 5, 8, exampleDate⟩),
    ("2024-01-01T00:00:05+00:00", .replace_issue 1 (exampleIssue 2 "revised")),
    ("2024-01-01T00:00:06+00:00", .delete_solution 5),
    ("2024-01-01T00:00:07+00:00", .replace_solution 6 (hosts 9 "revised")),
    ("2024-01-01T00:00:08+00:00", .replace_issue 1 (exampleIssue 1 "revised"))]

/-- What came of it, the newest first. -/
def editedHistory : List Done :=
  [⟨.replace_issue 1 (exampleIssue 1 "revised"), true⟩,
    ⟨.replace_solution 6 (hosts 9 "revised"), true⟩, ⟨.delete_solution 5, true⟩,
    ⟨.replace_issue 1 (exampleIssue 2 "revised"), false⟩,
    ⟨.record_solution_vote ⟨7, 5, 8, exampleDate⟩, true⟩, ⟨.add_solution (hosts 6 ""), true⟩,
    ⟨.add_solution (hosts 5 "revised"), true⟩, ⟨.add_issue (exampleIssue 1 ""), true⟩]

theorem edited_history : (exampleRuntime.runWrites edited).2 = editedHistory := by
  decide +kernel

theorem exampleTexts_injOn : Set.InjOn exampleRuntime.text_hash {"", "revised"} := by
  have hne : exampleRuntime.text_hash "" ≠ exampleRuntime.text_hash "revised" := by decide +kernel
  rintro a (rfl | rfl) b (rfl | rfl) hab
  · rfl
  · exact absurd hab hne
  · exact absurd hab.symm hne
  · rfl

theorem edited_texts : textsGiven editedHistory ⊆ {"", "revised"} := by
  rintro text ⟨done, hdone, htext⟩
  have hall : ∀ done ∈ editedHistory, ∀ text ∈ done.write.texts, text = "" ∨ text = "revised" := by
    decide
  exact hall done hdone text htext

/-- The issue and the solution that is left are read with their new texts, and nothing under an id
that was given up or refused. -/
theorem repository_keeps_schema_edited :
    let t := (exampleRuntime.runWrites edited).1
    Schema t ∧ exampleRuntime.get_issue 2 t = .ok none ∧
      exampleRuntime.get_solution 5 t = .ok none ∧ exampleRuntime.get_solution 6 t = .ok none ∧
      (∃ read, exampleRuntime.get_issue 1 t = .ok (some read) ∧ read.description = "revised") ∧
      ∃ read, exampleRuntime.get_solution 9 t = .ok (some read) ∧ read.description = "revised" := by
  intro t
  obtain ⟨hschema, -, -, hissues, hsolutions, -⟩ := repository_keeps_schema exampleRuntime edited
  rw [edited_history] at hissues hsolutions
  have hinj : Set.InjOn exampleRuntime.text_hash (textsGiven editedHistory) :=
    exampleTexts_injOn.mono edited_texts
  obtain ⟨issue, hissue, -, hissueText⟩ :=
    (hissues 1).2 (exampleIssue 1 "revised") (by decide +kernel)
  obtain ⟨solution, hsolution, -, hsolutionText⟩ :=
    (hsolutions 9).2 (hosts 9 "revised") (by decide +kernel)
  exact ⟨hschema, (hissues 2).1 (by decide +kernel), (hsolutions 5).1 (by decide +kernel),
    (hsolutions 6).1 (by decide +kernel), ⟨issue, hissue, hissueText hinj⟩,
    ⟨solution, hsolution, hsolutionText hinj⟩⟩

end Superorganism.Democracy
