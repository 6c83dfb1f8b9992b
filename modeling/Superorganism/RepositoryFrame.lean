/-
What `replace_issue` and `replace_solution` leave behind when there is nothing to replace.

Both store the new description before they update, and the transaction is committed whatever the
update finds. An operation that raises is rolled back as a whole. One that answers `False` because
no row has the id is not: the description stays in `content_objects`, where nothing refers to it,
unless it was there before.
-/
import Superorganism.RepositoryRuns

set_option autoImplicit false

open Superorganism.Bytes Superorganism.Py Superorganism.Sql

namespace Superorganism.Democracy

/-- Content is stored without a change exactly if its hash is known. -/
theorem Tables.insert_content_eq_self (t : Tables) (row : ContentRow) :
    t.insert_content row = t ↔ row.hash ∈ t.content_objects.map ContentRow.hash := by
  constructor
  · intro h
    by_contra hnew
    rw [Tables.insert_content, if_neg hnew] at h
    have hlength := congrArg (fun t : Tables => t.content_objects.length) h
    simp only [List.length_append, List.length_singleton] at hlength
    omega
  · intro h
    rw [Tables.insert_content, if_pos h]

/-- No row of the issues is updated exactly if none has the id, and nothing happens then. -/
theorem Tables.update_issue_eq_zero {t t' : Tables} {old : String} {row : IssueRow} :
    t.update_issue old row = .ok (0, t') ↔ old ∉ t.issues.map IssueRow.id ∧ t' = t := by
  constructor
  · intro h
    rcases Tables.update_issue_eq_ok h with ⟨hone, -⟩ | ⟨-, hold, rfl⟩
    · exact absurd hone (by omega)
    · exact ⟨hold, rfl⟩
  · rintro ⟨hold, rfl⟩
    rw [Tables.update_issue, if_neg hold]
    rfl

theorem Tables.update_solution_eq_zero {t t' : Tables} {old : String} {row : SolutionRow} :
    t.update_solution old row = .ok (0, t') ↔ old ∉ t.solutions.map SolutionRow.id ∧ t' = t := by
  constructor
  · intro h
    rcases Tables.update_solution_eq_ok h with ⟨hone, -⟩ | ⟨-, hold, rfl⟩
    · exact absurd hone (by omega)
    · exact ⟨hold, rfl⟩
  · rintro ⟨hold, rfl⟩
    rw [Tables.update_solution, if_neg hold]
    rfl

/-- An operation that answers `False` has changed nothing. -/
def FalseLeaves (operation : Tables → Except PyError Bool × Tables) (t : Tables) : Prop :=
  (operation t).1 = .ok false → (operation t).2 = t

/-- An update behind a stored description: where it finds no row, the description is what it
leaves. -/
theorem falseLeaves_iff (content : ContentRow) {update : Tables → Except PyError (ℕ × Tables)}
    {t : Tables} {found : Prop}
    (hupdate : ∀ t', update (t.insert_content content) = .ok (0, t') ↔
      ¬ found ∧ t' = t.insert_content content) :
    FalseLeaves (fun t =>
        let cursor := transaction (fun t => exec update (t.insert_content content)) t
        (cursor.1.map fun rowcount => decide (rowcount > 0), cursor.2)) t ↔
      found ∨ content.hash ∈ t.content_objects.map ContentRow.hash := by
  rw [← Tables.insert_content_eq_self, FalseLeaves]
  have hfound (h : ∀ t', update (t.insert_content content) ≠ .ok (0, t')) : found := by
    by_contra hnone
    exact h _ ((hupdate _).mpr ⟨hnone, rfl⟩)
  rcases transaction_exec (fun t : Tables => t.insert_content content) update t with
    ⟨e, herror, hfail⟩ | ⟨n, t', hok, hdone⟩
  · -- an update that raises found a row
    rw [hfail]
    have hrow : found := hfound fun t' hok => nomatch herror.symm.trans hok
    exact ⟨fun _ => .inl hrow, fun _ h => nomatch h⟩
  · rw [hdone]
    by_cases hn : n = 0
    · subst hn
      obtain ⟨hnone, rfl⟩ := (hupdate t').mp hok
      exact ⟨fun h => .inr (h rfl), fun h _ => h.resolve_left hnone⟩
    · have hrow : found := hfound fun t'' hzero => by
        rw [hok] at hzero
        exact hn (Prod.mk.inj (Except.ok.inj hzero)).1
      have htrue : (Except.ok n : Except PyError ℕ).map (fun rowcount => decide (rowcount > 0)) =
          .ok true := congrArg Except.ok (decide_eq_true (Nat.pos_of_ne_zero hn))
      exact ⟨fun _ => .inl hrow, fun _ h => nomatch htrue.symm.trans h⟩

/-- **What an operation that answers `False` leaves**: everything as it was, exactly if there is a
row to replace, or the description is stored already. -/
theorem replace_false_leaves_iff (rt : Runtime) (now : String) (t : Tables) (id : UUID) :
    (∀ issue : Issue, FalseLeaves (rt.replace_issue now id issue) t ↔
      id.str ∈ t.issues.map IssueRow.id ∨
        rt.text_hash issue.description ∈ t.content_objects.map ContentRow.hash) ∧
    ∀ solution : Solution, FalseLeaves (rt.replace_solution now id solution) t ↔
      id.str ∈ t.solutions.map SolutionRow.id ∨
        rt.text_hash solution.description ∈ t.content_objects.map ContentRow.hash := by
  constructor
  · intro issue
    refine falseLeaves_iff (rt.content_row now issue.description) fun t' => ?_
    rw [Tables.update_issue_eq_zero, Tables.insert_content_issues]
  · intro solution
    refine falseLeaves_iff (rt.content_row now solution.description) fun t' => ?_
    rw [Tables.update_solution_eq_zero, Tables.insert_content_solutions]

/-- In an empty repository there is nothing to replace, and the description stays. -/
theorem description_left_behind :
    (exampleRuntime.replace_issue "2024-01-01T00:00:01+00:00" 1 (exampleIssue 1 "revised")
        Tables.empty).1 = .ok false ∧
      (exampleRuntime.replace_issue "2024-01-01T00:00:01+00:00" 1 (exampleIssue 1 "revised")
        Tables.empty).2.content_objects.map ContentRow.text_content = ["revised"] ∧
      ¬ FalseLeaves (exampleRuntime.replace_issue "2024-01-01T00:00:01+00:00" 1
        (exampleIssue 1 "revised")) Tables.empty := by
  refine ⟨by decide +kernel, by decide +kernel, fun h => ?_⟩
  have hempty := congrArg (fun t : Tables => t.content_objects.length) (h (by decide +kernel))
  exact absurd hempty (by decide +kernel)

end Superorganism.Democracy
