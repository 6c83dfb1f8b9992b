/-
When a peer asks for an object again that it has reported as present.

`_has_object` decides by the id. The vote handler reports a vote as present also when its
voter has voted on its target under another id, and then the vote is not stored. Nothing
else is reported as present without being found under its id, and what is found once is
found in every later state, as long as nothing is deleted.
-/
import Superorganism.Community

set_option autoImplicit false

open Superorganism.Py Superorganism.Funding Superorganism.Gossip Superorganism.Sql
open Superorganism.Replica

namespace Superorganism.Democracy

/-! ## Later states -/

/-- The operation deletes nothing: it is no deletion, and a replacement keeps the id. -/
def Write.Keeps : Write → Prop
  | .delete_issue _ => False
  | .delete_solution _ => False
  | .replace_issue issue_id issue => issue.id = issue_id
  | .replace_solution solution_id solution => solution.id = solution_id
  | _ => True

namespace Runtime

/-- The tables after operations, each with its time. -/
def performAll (rt : Runtime) (t : Tables) (writes : List (String × Write)) : Tables :=
  writes.foldl (fun t write => (rt.perform write.1 write.2 t).2) t

variable {rt : Runtime} {t : Tables}

/-! ## What an operation does to the rows -/

theorem add_one_rows (now : String) (o : Object) {row : Row} :
    ((rt.add_one now o t).2.HasRow row → t.HasRow row ∨ row = rt.row o) ∧
      (t.HasRow row → (rt.add_one now o t).2.HasRow row) := by
  rw [add_one_eq]
  rcases transaction_exec (rt.prepare now o) (fun t => t.insert_row (rt.row o)) t with
    ⟨e, -, hfail⟩ | ⟨u, t', hok, hdone⟩
  · rw [hfail]
    exact ⟨.inl, id⟩
  · rw [hdone]
    have hrows := Tables.insert_row_rows hok row
    rw [prepare_hasRow] at hrows
    exact ⟨hrows.mp, fun hrow => hrows.mpr (.inl hrow)⟩

theorem replace_issue_rows (now : String) (issue_id : UUID) (issue : Issue) :
    (∀ row, (rt.replace_issue now issue_id issue t).2.HasRow row ↔ t.HasRow row) ∨
    ∀ row, (rt.replace_issue now issue_id issue t).2.HasRow row ↔
      (t.HasRow row ∧ ¬ (row.object_type = .ISSUE ∧ row.id = issue_id.str)) ∨
        row = rt.row (.issue issue) := by
  rcases transaction_exec (rt.store_text_content now issue.description)
    (fun t : Tables => t.update_issue issue_id.str (rt.issue_row issue)) t with
    ⟨e, -, hfail⟩ | ⟨n, t', hok, hdone⟩
  · have hsame : (rt.replace_issue now issue_id issue t).2 = t := congrArg Prod.snd hfail
    rw [hsame]
    exact .inl fun row => Iff.rfl
  · have hafter : (rt.replace_issue now issue_id issue t).2 = t' := congrArg Prod.snd hdone
    have hprepared : ∀ row, (rt.store_text_content now issue.description t).HasRow row ↔
        t.HasRow row := fun row => insert_content_hasRow
    rw [hafter]
    generalize rt.store_text_content now issue.description t = prepared at hprepared hok
    rcases Tables.update_issue_eq_ok hok with ⟨-, hold, -, -, rfl⟩ | ⟨-, -, rfl⟩
    · -- the row under the id is overwritten, and the others stay
      refine .inr fun row => ?_
      rw [← hprepared row]
      cases row with
      | issue row =>
          show row ∈ replaceRow IssueRow.id issue_id.str (rt.issue_row issue) prepared.issues ↔ _
          rw [mem_replaceRow]
          simp only [Tables.HasRow, Row.object_type, Row.id, Runtime.row, true_and, Row.issue.injEq]
          exact or_congr_right (and_iff_left hold)
      | _ => simp [Tables.HasRow, Row.object_type, Runtime.row]
    · exact .inl hprepared

theorem replace_solution_rows (now : String) (solution_id : UUID) (solution : Solution) :
    (∀ row, (rt.replace_solution now solution_id solution t).2.HasRow row ↔ t.HasRow row) ∨
    ∀ row, (rt.replace_solution now solution_id solution t).2.HasRow row ↔
      (t.HasRow row ∧ ¬ (row.object_type = .SOLUTION ∧ row.id = solution_id.str)) ∨
        row = rt.row (.solution solution) := by
  rcases transaction_exec (rt.store_text_content now solution.description)
    (fun t : Tables => t.update_solution solution_id.str (rt.solution_row solution)) t with
    ⟨e, -, hfail⟩ | ⟨n, t', hok, hdone⟩
  · have hsame : (rt.replace_solution now solution_id solution t).2 = t := congrArg Prod.snd hfail
    rw [hsame]
    exact .inl fun row => Iff.rfl
  · have hafter : (rt.replace_solution now solution_id solution t).2 = t' := congrArg Prod.snd hdone
    have hprepared : ∀ row, (rt.store_text_content now solution.description t).HasRow row ↔
        t.HasRow row := fun row => insert_content_hasRow
    rw [hafter]
    generalize rt.store_text_content now solution.description t = prepared at hprepared hok
    rcases Tables.update_solution_eq_ok hok with ⟨-, hold, -, -, -, rfl⟩ | ⟨-, -, rfl⟩
    · -- the row under the id is overwritten, and the others stay
      refine .inr fun row => ?_
      rw [← hprepared row]
      cases row with
      | solution row =>
          show row ∈ replaceRow SolutionRow.id solution_id.str (rt.solution_row solution)
            prepared.solutions ↔ _
          rw [mem_replaceRow]
          simp only [Tables.HasRow, Row.object_type, Row.id, Runtime.row, true_and, Row.solution.injEq]
          exact or_congr_right (and_iff_left hold)
      | _ => simp [Tables.HasRow, Row.object_type, Runtime.row]
    · exact .inl hprepared

/-- What an operation does: it adds an object, replaces one, or deletes. -/
theorem perform_cases (now : String) (write : Write) :
    (∃ o, (rt.perform now write t).2 = (rt.add_one now o t).2) ∨
    (∃ issue_id issue, write = .replace_issue issue_id issue ∧
      (rt.perform now write t).2 = (rt.replace_issue now issue_id issue t).2) ∨
    (∃ solution_id solution, write = .replace_solution solution_id solution ∧
      (rt.perform now write t).2 = (rt.replace_solution now solution_id solution t).2) ∨
    (¬ write.Keeps ∧ ∀ row, (rt.perform now write t).2.HasRow row → t.HasRow row) := by
  cases write with
  | add_issue issue => exact .inl ⟨.issue issue, rfl⟩
  | add_issue_vote vote => exact .inl ⟨.issue_vote vote, rfl⟩
  | record_issue_vote vote => exact .inl ⟨.issue_vote vote, record_vote_snd _ _⟩
  | add_solution solution => exact .inl ⟨.solution solution, rfl⟩
  | add_solution_vote vote => exact .inl ⟨.solution_vote vote, rfl⟩
  | record_solution_vote vote => exact .inl ⟨.solution_vote vote, record_vote_snd _ _⟩
  | replace_issue issue_id issue => exact .inr (.inl ⟨issue_id, issue, rfl, rfl⟩)
  | replace_solution solution_id solution =>
      exact .inr (.inr (.inl ⟨solution_id, solution, rfl, rfl⟩))
  | add_campaign campaign => exact .inl ⟨.campaign campaign, rfl⟩
  | add_pledge pledge => exact .inl ⟨.pledge pledge, rfl⟩
  | delete_issue issue_id =>
      refine .inr (.inr (.inr ⟨id, fun row hrow => ?_⟩))
      have hrow : (t.delete_issue_row issue_id.str).2.HasRow row := hrow
      cases row <;> exact (List.mem_filter.mp hrow).1
  | delete_solution solution_id =>
      -- the cascade leaves the issues and their votes
      refine .inr (.inr (.inr ⟨id, fun row hrow => ?_⟩))
      have hrow : (t.delete_solution_row solution_id.str).2.HasRow row := hrow
      cases row with
      | issue row => exact hrow
      | issue_vote row => exact hrow
      | _ => exact (List.mem_filter.mp hrow).1

/-- Every row comes from a model. -/
theorem perform_rows {now : String} {write : Write}
    (h : ∀ row, t.HasRow row → ∃ o, rt.row o = row) :
    ∀ row, (rt.perform now write t).2.HasRow row → ∃ o, rt.row o = row := by
  intro row hrow
  rcases rt.perform_cases (t := t) now write with ⟨o, ho⟩ | ⟨issue_id, issue, -, hissue⟩ |
    ⟨solution_id, solution, -, hsolution⟩ | ⟨-, hdeleted⟩
  · rw [ho] at hrow
    rcases (add_one_rows now o).1 hrow with hold | rfl
    · exact h row hold
    · exact ⟨o, rfl⟩
  · rw [hissue] at hrow
    rcases replace_issue_rows now issue_id issue with hsame | hreplaced
    · exact h row ((hsame row).mp hrow)
    · rcases (hreplaced row).mp hrow with ⟨hold, -⟩ | rfl
      · exact h row hold
      · exact ⟨.issue issue, rfl⟩
  · rw [hsolution] at hrow
    rcases replace_solution_rows now solution_id solution with hsame | hreplaced
    · exact h row ((hsame row).mp hrow)
    · rcases (hreplaced row).mp hrow with ⟨hold, -⟩ | rfl
      · exact h row hold
      · exact ⟨.solution solution, rfl⟩
  · exact h row (hdeleted row hrow)

/-- A replacement under the same id keeps every id. -/
theorem ids_of_replaced {t' : Tables} {object_type : ObjectType} {id : String} {new : Row}
    (htype : new.object_type = object_type) (hid : new.id = id)
    (h : ∀ row, t'.HasRow row ↔
      (t.HasRow row ∧ ¬ (row.object_type = object_type ∧ row.id = id)) ∨ row = new)
    {kind : ObjectType} {x : String} (hx : x ∈ t.ids kind) : x ∈ t'.ids kind := by
  rw [Tables.mem_ids] at hx ⊢
  obtain ⟨row, hrow, rfl, rfl⟩ := hx
  by_cases hold : row.object_type = object_type ∧ row.id = id
  · exact ⟨new, (h new).mpr (.inr rfl), htype.trans hold.1.symm, hid.trans hold.2.symm⟩
  · exact ⟨row, (h row).mpr (.inl ⟨hrow, hold⟩), rfl, rfl⟩

theorem ids_of_rows {t' : Tables} (h : ∀ row, t.HasRow row → t'.HasRow row) {kind : ObjectType}
    {x : String} (hx : x ∈ t.ids kind) : x ∈ t'.ids kind := by
  rw [Tables.mem_ids] at hx ⊢
  obtain ⟨row, hrow, htype, hid⟩ := hx
  exact ⟨row, h row hrow, htype, hid⟩

/-- Where nothing is deleted no id is lost. -/
theorem perform_ids {now : String} {write : Write} (h : write.Keeps) {kind : ObjectType} {x : String}
    (hx : x ∈ t.ids kind) : x ∈ (rt.perform now write t).2.ids kind := by
  rcases rt.perform_cases (t := t) now write with ⟨o, ho⟩ | ⟨issue_id, issue, rfl, hissue⟩ |
    ⟨solution_id, solution, rfl, hsolution⟩ | ⟨hdeletes, -⟩
  · rw [ho]
    exact ids_of_rows (fun row => (add_one_rows now o).2) hx
  · have hid : issue.id = issue_id := h
    rw [hissue]
    rcases replace_issue_rows now issue_id issue with hsame | hreplaced
    · exact ids_of_rows (fun row => (hsame row).mpr) hx
    · refine ids_of_replaced ?_ ?_ hreplaced hx
      · rfl
      · exact congrArg UUID.str hid
  · have hid : solution.id = solution_id := h
    rw [hsolution]
    rcases replace_solution_rows now solution_id solution with hsame | hreplaced
    · exact ids_of_rows (fun row => (hsame row).mpr) hx
    · refine ids_of_replaced ?_ ?_ hreplaced hx
      · rfl
      · exact congrArg UUID.str hid
  · exact absurd h hdeletes

/-! ## What holds in every state -/

/-- The schema holds and every row comes from a model. -/
structure Sound (rt : Runtime) (t : Tables) : Prop where
  sane : rt.Sane t
  rows : ∀ row, t.HasRow row → ∃ o, rt.row o = row

theorem Sound.empty : rt.Sound Tables.empty :=
  ⟨Sane.empty, fun row hrow => by cases row <;> exact absurd hrow List.not_mem_nil⟩

theorem Sound.performAll (h : rt.Sound t) (writes : List (String × Write)) :
    rt.Sound (rt.performAll t writes) := by
  induction writes generalizing t with
  | nil => exact h
  | cons write writes ih => exact ih ⟨h.sane.perform write.1 write.2, perform_rows h.rows⟩

theorem performAll_ids {writes : List (String × Write)} (h : ∀ write ∈ writes, write.2.Keeps)
    {kind : ObjectType} {x : String} (hx : x ∈ t.ids kind) :
    x ∈ (rt.performAll t writes).ids kind := by
  induction writes generalizing t with
  | nil => exact hx
  | cons write writes ih =>
      exact ih (fun w hw => h w (List.mem_cons_of_mem _ hw))
        (perform_ids (h write (List.mem_cons_self ..)) hx)

/-! ## What the status says -/

/-- An error that is no violated constraint is not answered with a status. -/
theorem store_new_of_other_error {now : String} {o : Object} {e : PyError}
    (h : (rt.prepare now o t).insert_row (rt.row o) = .error e) (he : e.isIntegrityError = false) :
    rt.store_new now o t = (.error e, t) := by
  have hadd := add_one_of_error h
  cases o with
  | issue_vote vote =>
      have hadd : add_issue_vote vote t = (.error e, t) := hadd
      rw [store_new, record_issue_vote, hadd, record_vote, he]
      simp [voteStatus, he]
  | solution_vote vote =>
      have hadd : add_solution_vote vote t = (.error e, t) := hadd
      rw [store_new, record_solution_vote, hadd, record_vote, he]
      simp [voteStatus, he]
  | _ =>
      rw [store_new, hadd, storeStatus, he]
      · rfl
      · intro vote hvote
        cases hvote
      · intro vote hvote
        cases hvote

/-- How `store_remote` comes to its status. -/
theorem Sound.store_remote_cases (h : rt.Sound t) {now : String} {o : Object} {status : StoreStatus}
    {t' : Tables} (hstore : rt.store_remote now o t = (.ok status, t')) :
    (o.id.str ∈ t.ids o.object_type ∧ status = .ALREADY_PRESENT ∧ t' = t) ∨
    (o.id.str ∉ t.ids o.object_type ∧ status = .STORED ∧
      (rt.prepare now o t).insert_row (rt.row o) = .ok ((), t')) ∨
    (o.id.str ∉ t.ids o.object_type ∧ t' = t ∧
      ∃ e, (rt.prepare now o t).insert_row (rt.row o) = .error e ∧
        status = if is_duplicate o e then .ALREADY_PRESENT else .REJECTED) := by
  by_cases hid : o.item.object_uuid.str ∈ t.ids o.item.object_type
  · obtain ⟨p, hp⟩ := h.sane.get_stored_model_of_id h.rows hid
    rw [store_remote, hp] at hstore
    cases hstore
    exact .inl ⟨hid, rfl, rfl⟩
  · rw [store_remote, get_stored_model_of_not_mem hid] at hstore
    have hstore : rt.store_new now o t = (.ok status, t') := hstore
    cases hinsert : (rt.prepare now o t).insert_row (rt.row o) with
    | ok result =>
        obtain ⟨u, after⟩ := result
        rw [store_new_of_ok hinsert] at hstore
        cases hstore
        exact .inr (.inl ⟨hid, rfl, rfl⟩)
    | error e =>
        cases he : e.isIntegrityError with
        | false =>
            -- raised again, so there is no status
            rw [store_new_of_other_error hinsert he] at hstore
            cases hstore
        | true =>
            rw [store_new_of_error hinsert he] at hstore
            cases hstore
            exact .inr (.inr ⟨hid, rfl, e, rfl, rfl⟩)

/-- A message that is answered with a status was read, and its object stored with it. -/
theorem handle_object_message_eq_ok {now : String} {payload : Message} {o : Object}
    {handled : Handled} {t' : Tables} (hread : payload.to_model rt = .ok o)
    (h : rt.handle_object_message now payload t = (.ok handled, t')) :
    rt.store_remote now o t = (.ok handled.status, t') := by
  rw [handle_object_message, hread] at h
  dsimp only at h
  cases hstore : rt.store_remote now o t with
  | mk answer after =>
      rw [hstore] at h
      cases answer with
      | error e => cases h
      | ok status =>
          cases status with
          | STORED =>
              obtain ⟨blobs, hsent, -⟩ := send_batches_spec [o.item]
              dsimp only at h
              rw [hsent] at h
              cases h
              rfl
          | ALREADY_PRESENT =>
              cases h
              rfl
          | REJECTED =>
              cases h
              rfl

/-- A vote has no integers and no description. -/
theorem isVote_row (rt : Runtime) (t : Tables) (now : String) {o : Object} (h : o.IsVote) :
    rt.prepare now o t = t ∧ (rt.row o).FitsColumns ∧ (rt.row o).description_hash = none := by
  cases o with
  | issue_vote vote => exact ⟨rfl, trivial, rfl⟩
  | solution_vote vote => exact ⟨rfl, trivial, rfl⟩
  | _ => exact absurd h id

theorem isVote_of_is_duplicate {o : Object} {e : PyError} (h : is_duplicate o e = true) :
    o.IsVote := by
  cases o with
  | issue_vote vote => trivial
  | solution_vote vote => trivial
  | _ => exact absurd h Bool.false_ne_true

/-- An answer that tells of a vote that is there already is given exactly where the slot is
taken. -/
theorem is_duplicate_iff {now : String} {o : Object} {e : PyError}
    (hid : o.id.str ∉ t.ids o.object_type)
    (h : (rt.prepare now o t).insert_row (rt.row o) = .error e) :
    is_duplicate o e = true ↔ o.IsVote ∧ ∃ s, (rt.row o).slot = some s ∧ t.TakenSlot s := by
  constructor
  · intro hduplicate
    have hvote := isVote_of_is_duplicate hduplicate
    obtain ⟨hprepare, hfits, hcontent⟩ := isVote_row rt t now hvote
    refine ⟨hvote, ?_⟩
    by_contra hfree
    rw [hprepare] at h
    have hslot : ∀ s, (rt.row o).slot = some s → ¬ t.TakenSlot s := fun s hs htaken =>
      hfree ⟨s, hs, htaken⟩
    have hnew : (rt.row o).id ∉ t.ids (rt.row o).object_type := by
      rw [row_id, row_object_type]
      exact hid
    by_cases hparent : ∀ p, (rt.row o).parent = some p → p.2 ∈ t.ids p.1
    · -- nothing stands against the row
      obtain ⟨t', hok, -⟩ := Tables.insert_row_of_admits
        (fun hash hhash => by rw [hcontent] at hhash; cases hhash) hfits ⟨hnew, hslot, hparent⟩
      rw [hok] at h
      cases h
    · -- a missing parent is answered in other words
      rw [not_forall] at hparent
      obtain ⟨p, hp⟩ := hparent
      rw [Classical.not_imp] at hp
      rw [Tables.insert_row_of_orphan hfits hnew hslot hp.1 hp.2] at h
      cases h
      rw [is_duplicate_foreignKey] at hduplicate
      cases hduplicate
  · rintro ⟨hvote, s, hs, htaken⟩
    obtain ⟨hprepare, hfits, -⟩ := isVote_row rt t now hvote
    rw [hprepare, Tables.insert_row_of_taken hfits hs htaken] at h
    cases h
    exact (is_duplicate_of_taken o).mpr hvote

/-- The operation that adds the object. -/
def addition : Object → Write
  | .issue issue => .add_issue issue
  | .issue_vote vote => .add_issue_vote vote
  | .solution solution => .add_solution solution
  | .solution_vote vote => .add_solution_vote vote
  | .campaign campaign => .add_campaign campaign
  | .pledge pledge => .add_pledge pledge

theorem Sound.store_remote (h : rt.Sound t) {now : String} {o : Object} {status : StoreStatus}
    {t' : Tables} (hstore : rt.store_remote now o t = (.ok status, t')) : rt.Sound t' := by
  rcases h.store_remote_cases hstore with ⟨-, -, rfl⟩ | ⟨-, -, hinsert⟩ | ⟨-, rfl, -⟩
  · exact h
  · have hadd : (rt.perform now (addition o) t).2 = t' := by
      have hone := congrArg Prod.snd (add_one_of_ok hinsert)
      cases o <;> exact hone
    rw [← hadd]
    exact h.performAll [(now, addition o)]
  · exact h

/-- After a status other than a rejection the object is found under its id, unless it is a vote
whose slot was taken under another. -/
theorem Sound.id_stored_iff (h : rt.Sound t) {now : String} {o : Object} {status : StoreStatus}
    {t' : Tables} (hstore : rt.store_remote now o t = (.ok status, t'))
    (hstatus : status = .STORED ∨ status = .ALREADY_PRESENT) :
    o.id.str ∈ t'.ids o.object_type ↔ ¬ (o.IsVote ∧ o.id.str ∉ t.ids o.object_type ∧
      ∃ s, (rt.row o).slot = some s ∧ t.TakenSlot s) := by
  rcases h.store_remote_cases hstore with ⟨hid, -, rfl⟩ | ⟨hid, -, hinsert⟩ |
    ⟨hid, rfl, e, hinsert, rfl⟩
  · exact ⟨fun _ hnot => hnot.2.1 hid, fun _ => hid⟩
  · have hrows := Tables.insert_row_rows hinsert (rt.row o)
    have hstored : o.id.str ∈ t'.ids o.object_type :=
      Tables.mem_ids.mpr ⟨rt.row o, hrows.mpr (.inr rfl), row_object_type o, row_id o⟩
    refine ⟨fun _ => ?_, fun _ => hstored⟩
    rintro ⟨hvote, -, s, hs, htaken⟩
    -- a taken slot would have been an error
    obtain ⟨hprepare, hfits, -⟩ := isVote_row rt t now hvote
    rw [hprepare, Tables.insert_row_of_taken hfits hs htaken] at hinsert
    cases hinsert
  · have hduplicate : is_duplicate o e = true := by
      by_contra hnot
      rw [if_neg hnot] at hstatus
      simp at hstatus
    obtain ⟨hvote, htaken⟩ := (is_duplicate_iff hid hinsert).mp hduplicate
    exact ⟨fun hmem => absurd hmem hid, fun hnot => absurd ⟨hvote, hid, htaken⟩ hnot⟩

/-! ## What is asked for -/

/-- An announced item is asked for exactly when no row has its id. -/
theorem Sound.mem_iwants (h : rt.Sound t) {ihave : List UInt8} {item : GossipItem}
    (hitem : item ∈ decode_gossip_items ihave) :
    (∃ iwant ∈ (rt.on_ihave_message ihave t).messages, item ∈ decode_gossip_items iwant) ↔
      item.object_uuid.str ∉ t.ids item.object_type := by
  obtain ⟨iwants, hsent, hdecode⟩ := on_ihave_message_spec (h.sane.finds h.rows) ihave
  rw [hsent, ← List.mem_flatMap, hdecode, (canonicalize_items_sortedDistinct _).mem,
    List.mem_filter, decide_eq_true_eq]
  exact and_iff_right hitem

/-- An IHAVE that announces one item. -/
theorem exists_ihave (item : GossipItem) : ∃ ihave, item ∈ decode_gossip_items ihave := by
  obtain ⟨blobs, -, hdecode⟩ := send_batches_spec [item]
  have hmem : item ∈ blobs.flatMap decode_gossip_items := by
    rw [hdecode, (canonicalize_items_sortedDistinct _).mem]
    exact List.mem_singleton.mpr rfl
  obtain ⟨ihave, -, hitem⟩ := List.mem_flatMap.mp hmem
  exact ⟨ihave, hitem⟩

end Runtime

/-- **When a present object is not asked for again.** Take any reachable store and any object
message that is handled with the status STORED or ALREADY_PRESENT. That no IHAVE announcing its
item causes an IWANT for it, in this or any later state without deletions, holds exactly when
the object is not a vote whose voter had voted on its target, while the vote itself was not
stored. -/
theorem not_requested_again_iff (rt : Runtime) (writes : List (String × Write)) (now : String)
    (payload : Message) (o : Object) (handled : Handled) (t' : Tables)
    (hread : payload.to_model rt = .ok o)
    (hhandled : rt.handle_object_message now payload (rt.performAll Tables.empty writes) =
      (.ok handled, t'))
    (hstatus : handled.status = .STORED ∨ handled.status = .ALREADY_PRESENT) :
    (∀ later, (∀ write ∈ later, write.2.Keeps) → ∀ ihave, o.item ∈ decode_gossip_items ihave →
      ∀ iwant ∈ (rt.on_ihave_message ihave (rt.performAll t' later)).messages,
        o.item ∉ decode_gossip_items iwant) ↔
    ¬ (o.IsVote ∧ o.id.str ∉ (rt.performAll Tables.empty writes).ids o.object_type ∧
      ∃ s, (rt.row o).slot = some s ∧ (rt.performAll Tables.empty writes).TakenSlot s) := by
  have hsound : rt.Sound (rt.performAll Tables.empty writes) := Runtime.Sound.empty.performAll writes
  have hstore := Runtime.handle_object_message_eq_ok hread hhandled
  rw [← hsound.id_stored_iff hstore hstatus]
  have hsound' := hsound.store_remote hstore
  constructor
  · intro hnever
    by_contra hmissing
    obtain ⟨ihave, hitem⟩ := Runtime.exists_ihave o.item
    obtain ⟨iwant, hiwant, hasked⟩ := (hsound'.mem_iwants hitem).mpr hmissing
    exact hnever [] (fun write hwrite => absurd hwrite List.not_mem_nil) ihave hitem iwant hiwant
      hasked
  · intro hid later hlater ihave hitem iwant hiwant hasked
    have hmissing := ((hsound'.performAll later).mem_iwants hitem).mp ⟨iwant, hiwant, hasked⟩
    exact hmissing (Runtime.performAll_ids hlater hid)

/-! ### A vote cast twice -/

/-- A voter has voted on an issue. -/
def votedWrites : List (String × Write) :=
  [("2024-01-01T00:00:01+00:00", .add_issue (exampleIssue 1 "")),
    ("2024-01-01T00:00:02+00:00", .record_issue_vote ⟨7, 1, 2, exampleDate⟩)]

def voteMessage (vote : IssueVote) : Message :=
  .issue_vote ⟨vote.voter_id.str, vote.issue_id.str, vote.id.str, vote.created_at.stored⟩

/-- The same vote under another id. -/
def secondVote : IssueVote := ⟨7, 1, 3, exampleDate⟩

/-- The second vote is reported as present, and asked for when it is announced next. -/
theorem second_vote_requested_again :
    ∃ handled, exampleRuntime.handle_object_message "2024-01-01T00:00:03+00:00"
        (voteMessage secondVote) (exampleRuntime.performAll Tables.empty votedWrites) =
        (.ok handled, exampleRuntime.performAll Tables.empty votedWrites) ∧
      handled.status = .ALREADY_PRESENT ∧
      ∃ ihave, (⟨.ISSUE_VOTE, 3⟩ : GossipItem) ∈ decode_gossip_items ihave ∧
        ∃ iwant ∈ (exampleRuntime.on_ihave_message ihave
          (exampleRuntime.performAll Tables.empty votedWrites)).messages,
          (⟨.ISSUE_VOTE, 3⟩ : GossipItem) ∈ decode_gossip_items iwant := by
  have hread : (voteMessage secondVote).to_model exampleRuntime = .ok (.issue_vote secondVote) := by
    decide +kernel
  have hstore : exampleRuntime.store_remote "2024-01-01T00:00:03+00:00" (.issue_vote secondVote)
      (exampleRuntime.performAll Tables.empty votedWrites) =
      (.ok .ALREADY_PRESENT, exampleRuntime.performAll Tables.empty votedWrites) := by
    decide +kernel
  have hmissing : (3 : UUID).str ∉
      (exampleRuntime.performAll Tables.empty votedWrites).ids .ISSUE_VOTE := by
    decide +kernel
  obtain ⟨handled, hhandled, hstatus⟩ := Runtime.handle_object_message_of_read hread hstore
  obtain ⟨ihave, hitem⟩ := Runtime.exists_ihave ⟨.ISSUE_VOTE, 3⟩
  have hsound : exampleRuntime.Sound (exampleRuntime.performAll Tables.empty votedWrites) :=
    Runtime.Sound.empty.performAll votedWrites
  exact ⟨handled, hhandled, hstatus, ihave, hitem, (hsound.mem_iwants hitem).mpr hmissing⟩

/-- The vote of another voter is stored, and never asked for again. -/
theorem not_requested_again_iff_other_voter :
    ∃ handled t', exampleRuntime.handle_object_message "2024-01-01T00:00:03+00:00"
        (voteMessage ⟨8, 1, 3, exampleDate⟩) (exampleRuntime.performAll Tables.empty votedWrites) =
        (.ok handled, t') ∧
      ∀ later, (∀ write ∈ later, write.2.Keeps) → ∀ ihave,
        (⟨.ISSUE_VOTE, 3⟩ : GossipItem) ∈ decode_gossip_items ihave →
        ∀ iwant ∈ (exampleRuntime.on_ihave_message ihave
          (exampleRuntime.performAll t' later)).messages,
          (⟨.ISSUE_VOTE, 3⟩ : GossipItem) ∉ decode_gossip_items iwant := by
  have hread : (voteMessage ⟨8, 1, 3, exampleDate⟩).to_model exampleRuntime =
      .ok (.issue_vote ⟨8, 1, 3, exampleDate⟩) := by
    decide +kernel
  have hstore : (exampleRuntime.store_remote "2024-01-01T00:00:03+00:00"
      (.issue_vote ⟨8, 1, 3, exampleDate⟩)
      (exampleRuntime.performAll Tables.empty votedWrites)).1 = .ok .STORED := by
    decide +kernel
  have hfree : ¬ (exampleRuntime.performAll Tables.empty votedWrites).TakenSlot
      (.issue_vote (1 : UUID).str (8 : UUID).str) := by
    show ((1 : UUID).str, (8 : UUID).str) ∉
      (exampleRuntime.performAll Tables.empty votedWrites).issue_votes.map VoteRow.pair
    decide +kernel
  obtain ⟨handled, hhandled, hstatus⟩ :=
    Runtime.handle_object_message_of_read hread (Prod.ext hstore rfl)
  refine ⟨handled, _, hhandled, (not_requested_again_iff exampleRuntime votedWrites
    "2024-01-01T00:00:03+00:00" _ _ handled _ hread hhandled (.inl hstatus)).mpr ?_⟩
  rintro ⟨-, -, s, hs, htaken⟩
  cases hs
  exact hfree htaken

end Superorganism.Democracy
