/-
What a user makes, and what is broadcast of it: `democracy/democracy_service.py`,
`democracy/event_publisher.py` and `democracy/network/ipv8_thread.py`.

The service stores what the user makes and publishes it. The thread of the network is told by a
signal, puts the broadcast on its loop behind the others, and keeps what it gets to before the
community has started. Whatever happens in between, a model is broadcast at most once, in the order
in which it was made, and it is stored (`published_once`). A model gets lost only in a step that
`Loses` it: it is made before the thread runs, or the community fails to start, or a model before it
in the queue cannot be sent when the queue is flushed.
-/
import Superorganism.CommunityPackets
import Superorganism.Presence
import Superorganism.Runs

set_option autoImplicit false

open Superorganism.Py Superorganism.Funding Superorganism.Gossip Superorganism.Sql
open Superorganism.Ipv8 Superorganism.Runs

namespace Superorganism.Democracy

/-! ## The service -/

/-- What a call of the service comes to: what it returns, the store, and what was published. -/
structure Called where
  answer : Except PyError (Option Object)
  tables : Tables
  published : List Object

/-- The calls that make something, with the `id` and the `created_at` that the model is made with. -/
inductive Call where
  | create_issue (title description : String) (creator_id id : UUID) (created_at : CreatedAt)
  | vote_for_issue (voter_id issue_id id : UUID) (created_at : CreatedAt)
  | create_solution (title description : String) (creator_id issue_id id : UUID)
      (created_at : CreatedAt)
  | vote_for_solution (voter_id solution_id id : UUID) (created_at : CreatedAt)

/-- The model that is made. -/
def Call.model : Call → Object
  | .create_issue title description creator_id id created_at =>
    .issue ⟨title, creator_id, description, id, created_at⟩
  | .vote_for_issue voter_id issue_id id created_at => .issue_vote ⟨voter_id, issue_id, id, created_at⟩
  | .create_solution title description creator_id issue_id id created_at =>
    .solution ⟨title, description, creator_id, issue_id, id, created_at⟩
  | .vote_for_solution voter_id solution_id id created_at =>
    .solution_vote ⟨voter_id, solution_id, id, created_at⟩

namespace Runtime

variable (rt : Runtime)

/-- `add_…` and then `publish_…`. -/
def createModel (model : Object) (added : Except PyError Unit × Tables) : Called :=
  match added with
  | (.error e, t) => ⟨.error e, t, []⟩
  | (.ok (), t) => ⟨.ok (some model), t, [model]⟩

/-- `record_…_vote`, and `publish_…` of a vote that was not there. -/
def castVote (vote : Object) (recorded : Except PyError VoteRecordResult × Tables) : Called :=
  match recorded with
  | (.error e, t) => ⟨.error e, t, []⟩
  | (.ok .ALREADY_VOTED, t) => ⟨.ok none, t, []⟩
  | (.ok .CREATED, t) => ⟨.ok (some vote), t, [vote]⟩

def create_issue (now : String) (issue : Issue) (t : Tables) : Called :=
  createModel (.issue issue) (rt.add_issue now issue t)

def vote_for_issue (vote : IssueVote) (t : Tables) : Called :=
  castVote (.issue_vote vote) (record_issue_vote vote t)

def create_solution (now : String) (solution : Solution) (t : Tables) : Called :=
  createModel (.solution solution) (rt.add_solution now solution t)

def vote_for_solution (vote : SolutionVote) (t : Tables) : Called :=
  castVote (.solution_vote vote) (record_solution_vote vote t)

/-- The method of the call. -/
def serve (now : String) (call : Call) (t : Tables) : Called :=
  match call with
  | .create_issue title description creator_id id created_at =>
    rt.create_issue now ⟨title, creator_id, description, id, created_at⟩ t
  | .vote_for_issue voter_id issue_id id created_at =>
    vote_for_issue ⟨voter_id, issue_id, id, created_at⟩ t
  | .create_solution title description creator_id issue_id id created_at =>
    rt.create_solution now ⟨title, description, creator_id, issue_id, id, created_at⟩ t
  | .vote_for_solution voter_id solution_id id created_at =>
    vote_for_solution ⟨voter_id, solution_id, id, created_at⟩ t

end Runtime

/-! ## The thread -/

/-- How far the thread is: `_loop` is set once it is no longer `created`, and `_overlay` once it has
`started`. -/
inductive Phase where
  | created
  | starting
  | started
  | failed
deriving DecidableEq, Repr

/-- The broadcasts on the loop, oldest first, and those that wait for the overlay. `listens` is set
once `IPv8.start` has opened the endpoint: while it is still awaited, and when it fails later on, the
overlay takes in datagrams and announces its inventory. -/
structure IPv8Thread where
  phase : Phase
  listens : Bool
  scheduled : List Object
  pending : List Object

def IPv8Thread.new : IPv8Thread := ⟨.created, false, [], []⟩

/-- The slots of the broadcast signals. -/
def IPv8Thread.emit (self : IPv8Thread) (model : Object) : IPv8Thread :=
  match self.phase with
  | .created => self
  | _ => { self with scheduled := self.scheduled ++ [model] }

/-! ## The application of a user -/

variable {ι : Type} {crypto : ECCrypto}

/-- `_multicast`: what is sent to whom; `none` where an exception is raised. Nobody is sent anything
then, as all get the same packet. -/
def multicast {α : Type} (send : α → Except WireError (List UInt8)) (peers : List ι) (payload : α) :
    Option (List (ι × List UInt8)) :=
  match peers with
  | [] => some []
  | peer :: peers =>
    match send payload with
    | .error _ => none
    | .ok packet => some ((peer :: peers).map fun peer => (peer, packet))

def Node.broadcast_created_model (self : Node crypto) (peers : List ι) (model : Object) :
    Option (List (ι × List UInt8)) :=
  match model.build_message with
  | .error _ => none
  | .ok message => multicast (fun message => self.ez_send (.object message)) peers message

/-- The repository that both threads use, and the thread of the network. -/
structure App where
  tables : Tables
  thread : IPv8Thread

def App.new (t : Tables) : App := ⟨t, .new⟩

/-- What happens: a call of the service, a turn of the thread, or a datagram. `peers` are those of
`get_peers`, without the one that the datagram came from. -/
inductive AppEvent (ι : Type) where
  | call (now : String) (call : Call)
  | run
  | opened
  | started (peers : List ι)
  | failed
  | task (peers : List ι)
  | announce (peers : List ι)
  | datagram (now : String) (src : ι) (peers : List ι) (data : List UInt8)

/-- The application, what it has sent and to whom, what it has published, and what
`broadcast_created_model` was called with. -/
structure Trace (ι : Type) where
  app : App
  sent : List (ι × List UInt8)
  published : List Object
  attempted : List Object

namespace Node

variable (self : Node crypto)

/-- The loop of `_flush_pending`: what it broadcasts until it is through or an exception ends it. -/
def flush_pending (peers : List ι) : List Object → List Object × List (ι × List UInt8)
  | [] => ([], [])
  | model :: pending =>
    match self.broadcast_created_model peers model with
    | none => ([model], [])
    | some packets =>
      let rest := flush_pending peers pending
      (model :: rest.1, packets ++ rest.2)

/-- One event. What the thread is not ready for does not happen. The endpoint is open at the latest
when `IPv8.start` has returned. -/
def step (s : App) (event : AppEvent ι) : Trace ι :=
  match event with
  | .call now call =>
    let called := self.rt.serve now call s.tables
    ⟨⟨called.tables, called.published.foldl IPv8Thread.emit s.thread⟩, [], called.published, []⟩
  | .run =>
    if s.thread.phase = .created then ⟨{ s with thread.phase := .starting }, [], [], []⟩
    else ⟨s, [], [], []⟩
  | .opened =>
    if s.thread.phase = .starting then ⟨{ s with thread.listens := true }, [], [], []⟩
    else ⟨s, [], [], []⟩
  | .started peers =>
    if s.thread.phase = .starting then
      let flushed := self.flush_pending peers s.thread.pending
      ⟨{ s with thread := { s.thread with phase := .started, listens := true, pending := [] } },
        flushed.2, [], flushed.1⟩
    else ⟨s, [], [], []⟩
  | .failed =>
    if s.thread.phase = .starting then
      ⟨{ s with thread := { s.thread with phase := .failed, pending := [] } }, [], [], []⟩
    else ⟨s, [], [], []⟩
  | .task peers =>
    match s.thread.scheduled with
    | [] => ⟨s, [], [], []⟩
    | model :: scheduled =>
      if s.thread.phase = .started then
        ⟨{ s with thread.scheduled := scheduled },
          (self.broadcast_created_model peers model).getD [], [], [model]⟩
      else
        ⟨{ s with thread := { s.thread with
          scheduled := scheduled, pending := s.thread.pending ++ [model] } }, [], [], []⟩
  | .announce peers =>
    if s.thread.listens then
      ⟨s, (self.announce_full_inventory s.tables).flatMap fun packet =>
        peers.map fun peer => (peer, packet), [], []⟩
    else ⟨s, [], [], []⟩
  | .datagram now src peers data =>
    if s.thread.listens then
      let reception := self.on_packet now data s.tables
      ⟨{ s with tables := reception.tables }, (reception.replies.map fun packet => (src, packet)) ++
        reception.announced.flatMap fun packet => peers.map fun peer => (peer, packet), [], []⟩
    else ⟨s, [], [], []⟩

/-- One more event. -/
def extend (trace : Trace ι) (event : AppEvent ι) : Trace ι :=
  let next := self.step trace.app event
  ⟨next.app, trace.sent ++ next.sent, trace.published ++ next.published,
    trace.attempted ++ next.attempted⟩

/-- An application from its start on. -/
def trace (t : Tables) (events : List (AppEvent ι)) : Trace ι :=
  events.foldl self.extend ⟨.new t, [], [], []⟩

/-- The event loses a model that was published. -/
def Loses (s : App) : AppEvent ι → Prop
  | .call now call => s.thread.phase = .created ∧ (self.rt.serve now call s.tables).published ≠ []
  | .failed => s.thread.phase = .starting ∧ s.thread.pending ≠ []
  | .started peers => s.thread.phase = .starting ∧
      (self.flush_pending peers s.thread.pending).1 ≠ s.thread.pending
  | _ => False

end Node

/-! ## What a call stores -/

theorem Tables.admits_of_insert_row {t t' : Tables} {row : Row} {u : Unit}
    (h : t.insert_row row = .ok (u, t')) : t.Admits row := by
  cases row with
  | issue row =>
      obtain ⟨hid, -, -⟩ := insert_issue_eq_ok h
      exact ⟨hid, fun s hs => (by cases hs), fun p hp => (by cases hp)⟩
  | issue_vote row =>
      obtain ⟨hpair, hid, hparent, -⟩ := insert_issue_vote_eq_ok h
      refine ⟨hid, fun s hs => ?_, fun p hp => ?_⟩
      · cases hs
        exact hpair
      · cases hp
        exact hparent
  | solution row =>
      obtain ⟨hid, hparent, -, -⟩ := insert_solution_eq_ok h
      refine ⟨hid, fun s hs => (by cases hs), fun p hp => ?_⟩
      cases hp
      exact hparent
  | solution_vote row =>
      obtain ⟨hpair, hid, hparent, -⟩ := insert_solution_vote_eq_ok h
      refine ⟨hid, fun s hs => ?_, fun p hp => ?_⟩
      · cases hs
        exact hpair
      · cases hp
        exact hparent
  | campaign row =>
      obtain ⟨hsolution, hid, hparent, -⟩ := insert_campaign_eq_ok h
      refine ⟨hid, fun s hs => ?_, fun p hp => ?_⟩
      · cases hs
        exact hsolution
      · cases hp
        exact hparent
  | pledge row =>
      obtain ⟨houtpoint, hid, hparent, -⟩ := insert_pledge_eq_ok h
      refine ⟨hid, fun s hs => ?_, fun p hp => ?_⟩
      · cases hs
        exact houtpoint
      · cases hp
        exact hparent

namespace Runtime

variable {rt : Runtime} {t : Tables}

/-- The model is new to the store, and the store has it afterwards. -/
structure Adds (rt : Runtime) (t : Tables) (o : Object) (t' : Tables) : Prop where
  admits : t.Admits (rt.row o)
  rows : ∀ row, t'.HasRow row ↔ t.HasRow row ∨ row = rt.row o

theorem add_one_cases (now : String) (o : Object) :
    (∃ e, rt.add_one now o t = (.error e, t)) ∨
      ∃ t', rt.add_one now o t = (.ok (), t') ∧ rt.Adds t o t' := by
  rw [add_one_eq]
  rcases transaction_exec (rt.prepare now o) (fun t => t.insert_row (rt.row o)) t with
    ⟨e, -, hfail⟩ | ⟨u, t', hok, hdone⟩
  · exact .inl ⟨e, hfail⟩
  · refine .inr ⟨t', hdone, ?_, fun row => ?_⟩
    · exact (Tables.admits_of_insert_row hok).congr fun row => prepare_hasRow.symm
    · rw [Tables.insert_row_rows hok row, prepare_hasRow]

/-- A call stores its model and publishes it, or does neither. -/
theorem serve_cases (now : String) (call : Call) :
    ((rt.serve now call t).published = [] ∧ (rt.serve now call t).tables = t) ∨
      ((rt.serve now call t).published = [call.model] ∧
        rt.Adds t call.model (rt.serve now call t).tables) := by
  have hcreate (o : Object) : ((createModel o (rt.add_one now o t)).published = [] ∧
        (createModel o (rt.add_one now o t)).tables = t) ∨
      ((createModel o (rt.add_one now o t)).published = [o] ∧
        rt.Adds t o (createModel o (rt.add_one now o t)).tables) := by
    rcases rt.add_one_cases (t := t) now o with ⟨e, hadd⟩ | ⟨t', hadd, hadds⟩
    · rw [hadd]
      exact .inl ⟨rfl, rfl⟩
    · rw [hadd]
      exact .inr ⟨rfl, hadds⟩
  have hcast (o : Object) (is_duplicate : PyError → Bool) :
      ((castVote o (record_vote is_duplicate (rt.add_one now o t))).published = [] ∧
        (castVote o (record_vote is_duplicate (rt.add_one now o t))).tables = t) ∨
      ((castVote o (record_vote is_duplicate (rt.add_one now o t))).published = [o] ∧
        rt.Adds t o (castVote o (record_vote is_duplicate (rt.add_one now o t))).tables) := by
    rcases rt.add_one_cases (t := t) now o with ⟨e, hadd⟩ | ⟨t', hadd, hadds⟩
    · rw [hadd, record_vote]
      split
      · exact .inl ⟨rfl, rfl⟩
      · exact .inl ⟨rfl, rfl⟩
    · rw [hadd, record_vote]
      exact .inr ⟨rfl, hadds⟩
  cases call with
  | create_issue title description creator_id id created_at => exact hcreate (.issue _)
  | vote_for_issue voter_id issue_id id created_at => exact hcast (.issue_vote _) _
  | create_solution title description creator_id issue_id id created_at => exact hcreate (.solution _)
  | vote_for_solution voter_id solution_id id created_at => exact hcast (.solution_vote _) _

theorem store_remote_rows (now : String) (o : Object) {row : Row} (hrow : t.HasRow row) :
    (rt.store_remote now o t).2.HasRow row := by
  have hadded : (rt.add_one now o t).2.HasRow row := (add_one_rows now o).2 hrow
  have hstatus (added : Except PyError Unit × Tables) : (storeStatus added).2 = added.2 := by
    obtain ⟨answer, after⟩ := added
    cases answer with
    | ok u => rfl
    | error e =>
        rw [storeStatus]
        split <;> rfl
  have hvote (recorded : Except PyError VoteRecordResult × Tables) :
      (voteStatus recorded).2 = recorded.2 := by
    obtain ⟨answer, after⟩ := recorded
    cases answer with
    | ok result => cases result <;> rfl
    | error e =>
        rw [voteStatus]
        split <;> rfl
  have hnew : (rt.store_new now o t).2 = (rt.add_one now o t).2 := by
    cases o with
    | issue_vote vote => exact (hvote _).trans (record_vote_snd _ _)
    | solution_vote vote => exact (hvote _).trans (record_vote_snd _ _)
    | _ => exact hstatus _
  rw [store_remote]
  cases rt.get_stored_model o.item t with
  | error e => exact hrow
  | ok stored =>
      cases stored with
      | some p => exact hrow
      | none =>
          dsimp only
          rw [hnew]
          exact hadded

end Runtime

namespace Node

variable {self : Node crypto}

/-- Nothing that is stored is lost by what arrives. -/
theorem on_packet_rows (now : String) (data : List UInt8) {t : Tables} {row : Row}
    (hrow : t.HasRow row) : (self.on_packet now data t).tables.HasRow row := by
  rw [on_packet]
  cases self.receive data with
  | none => exact hrow
  | some payload =>
      cases payload with
      | ihave items_blob => exact hrow
      | iwant items_blob => exact hrow
      | object message =>
          dsimp only [handle]
          rw [handle_object_message]
          cases message.to_model self.rt with
          | error e => exact hrow
          | ok model =>
              have hstored := self.rt.store_remote_rows now model hrow
              dsimp only
              rcases hstore : self.rt.store_remote now model t with ⟨status, t'⟩
              rw [hstore] at hstored
              cases status with
              | error e => exact hstored
              | ok status => cases status <;> exact hstored

/-! ## Turns of the thread -/

theorem flush_pending_prefix (peers : List ι) (pending : List Object) :
    (self.flush_pending peers pending).1 <+: pending := by
  induction pending with
  | nil => exact List.prefix_rfl
  | cons model pending ih =>
      rw [flush_pending]
      cases self.broadcast_created_model peers model with
      | none => exact List.cons_prefix_cons.mpr ⟨rfl, List.nil_prefix⟩
      | some packets => exact List.cons_prefix_cons.mpr ⟨rfl, ih⟩

end Node

/-- The models that are still to be broadcast, oldest first. -/
def IPv8Thread.queue (self : IPv8Thread) : List Object := self.pending ++ self.scheduled

/-- Nothing waits for an overlay that is there. -/
def IPv8Thread.Settled (self : IPv8Thread) : Prop := self.phase = .started → self.pending = []

namespace Node

variable {self : Node crypto}

/-- What an event leaves of the queue: what is broadcast comes from its head, and what is published
goes to its end. -/
structure Turn (node : Node crypto) (s : App) (event : AppEvent ι) (result : Trace ι) : Prop where
  order : (result.attempted ++ result.app.thread.queue).Sublist
    (s.thread.queue ++ result.published)
  lossless : ¬ node.Loses s event →
    result.attempted ++ result.app.thread.queue = s.thread.queue ++ result.published
  settled : result.app.thread.Settled

/-- The queue is as it was. -/
theorem Turn.of_queue {s : App} {event : AppEvent ι} {result : Trace ι}
    (h : result.attempted ++ result.app.thread.queue = s.thread.queue ++ result.published)
    (hsettled : result.app.thread.Settled) : self.Turn s event result :=
  ⟨h ▸ List.Sublist.refl _, fun _ => h, hsettled⟩

/-- Nothing is broadcast or published, and the thread is where it was. -/
theorem Turn.of_thread {s : App} (hsettled : s.thread.Settled) {event : AppEvent ι}
    {result : Trace ι} (happ : result.app.thread = s.thread) (hpublished : result.published = [])
    (hattempted : result.attempted = []) : self.Turn s event result := by
  refine .of_queue ?_ (happ ▸ hsettled)
  rw [happ, hpublished, hattempted, List.nil_append, List.append_nil]

/-- A model that is published goes to the end of the queue, unless the thread does not run yet. -/
theorem turn_call {s : App} (hsettled : s.thread.Settled) (now : String) (call : Call) :
    self.Turn s (.call now call : AppEvent ι) (self.step s (.call now call)) := by
  rcases self.rt.serve_cases (t := s.tables) now call with ⟨hnone, -⟩ | ⟨hone, -⟩
  · refine .of_thread hsettled ?_ hnone rfl
    rw [step, hnone, List.foldl_nil]
  · have hlost : self.Loses s (.call now call : AppEvent ι) ↔ s.thread.phase = .created := by
      rw [Loses, hone]
      exact and_iff_left (List.cons_ne_nil _ _)
    rw [step, hone, List.foldl_cons, List.foldl_nil, IPv8Thread.emit]
    split
    · next hphase =>
        exact ⟨List.sublist_append_left _ _, fun h => absurd (hlost.mpr hphase) h, hsettled⟩
    · have hqueue : s.thread.pending ++ (s.thread.scheduled ++ [call.model]) =
          s.thread.queue ++ [call.model] := (List.append_assoc _ _ _).symm
      exact .of_queue hqueue hsettled

/-- What is pending is broadcast, up to a model that cannot be sent. -/
theorem turn_started {s : App} (hsettled : s.thread.Settled) (peers : List ι) :
    self.Turn s (.started peers) (self.step s (.started peers)) := by
  rw [step]
  split
  · next hphase =>
      have hsent := self.flush_pending_prefix peers s.thread.pending
      dsimp only
      refine ⟨?_, fun hnot => ?_, fun _ => rfl⟩
      · rw [List.append_nil]
        exact hsent.sublist.append_right s.thread.scheduled
      · have hall : (self.flush_pending peers s.thread.pending).1 = s.thread.pending := by
          by_contra hne
          exact hnot ⟨hphase, hne⟩
        rw [List.append_nil, hall]
        rfl
  · exact .of_thread hsettled rfl rfl rfl

/-- What is pending is dropped. -/
theorem turn_failed {s : App} (hsettled : s.thread.Settled) :
    self.Turn s (.failed : AppEvent ι) (self.step s .failed) := by
  rw [step]
  split
  · next hphase =>
      refine ⟨?_, fun hnot => ?_, fun h => by cases h⟩
      · rw [List.append_nil]
        exact List.sublist_append_right s.thread.pending s.thread.scheduled
      · have hnothing : s.thread.pending = [] := by
          by_contra hne
          exact hnot ⟨hphase, hne⟩
        rw [List.append_nil, IPv8Thread.queue, IPv8Thread.queue, hnothing]
        rfl
  · exact .of_thread hsettled rfl rfl rfl

/-- The first model on the loop is broadcast, or waits behind those that are pending. -/
theorem turn_task {s : App} (hsettled : s.thread.Settled) (peers : List ι) :
    self.Turn s (.task peers) (self.step s (.task peers)) := by
  rw [step]
  split
  · exact .of_thread hsettled rfl rfl rfl
  · next model scheduled hscheduled =>
      split
      · next hphase =>
          -- nothing is pending any more, so the oldest is the first on the loop
          refine .of_queue ?_ hsettled
          rw [List.append_nil, IPv8Thread.queue, IPv8Thread.queue, hsettled hphase, hscheduled]
          rfl
      · next hphase =>
          refine .of_queue ?_ fun h => absurd h hphase
          rw [List.append_nil, IPv8Thread.queue, IPv8Thread.queue, hscheduled, List.nil_append,
            List.append_assoc]
          rfl

/-- What is broadcast comes from the head of the queue, and what is published goes to its end. -/
theorem step_queue {s : App} (hsettled : s.thread.Settled) (event : AppEvent ι) :
    self.Turn s event (self.step s event) := by
  cases event with
  | call now call => exact turn_call hsettled now call
  | run =>
      rw [step]
      split
      · refine .of_queue ?_ fun h => by cases h
        rw [List.nil_append, List.append_nil]
        rfl
      · exact .of_thread hsettled rfl rfl rfl
  | opened =>
      rw [step]
      split
      · refine .of_queue ?_ hsettled
        rw [List.nil_append, List.append_nil]
        rfl
      · exact .of_thread hsettled rfl rfl rfl
  | started peers => exact turn_started hsettled peers
  | failed => exact turn_failed hsettled
  | task peers => exact turn_task hsettled peers
  | announce peers =>
      rw [step]
      split <;> exact .of_thread hsettled rfl rfl rfl
  | datagram now src peers data =>
      rw [step]
      split <;> exact .of_thread hsettled rfl rfl rfl

/-- An event keeps what is stored, and what it publishes it has stored. -/
theorem step_store (s : App) (event : AppEvent ι) :
    (∀ row, s.tables.HasRow row → (self.step s event).app.tables.HasRow row) ∧
      ((self.step s event).published = [] ∨ ∃ o, (self.step s event).published = [o] ∧
        self.rt.Adds s.tables o (self.step s event).app.tables) := by
  have hsame {result : Trace ι} (htables : result.app.tables = s.tables)
      (hpublished : result.published = []) :
      (∀ row, s.tables.HasRow row → result.app.tables.HasRow row) ∧
        (result.published = [] ∨ ∃ o, result.published = [o] ∧
          self.rt.Adds s.tables o result.app.tables) := by
    rw [htables]
    exact ⟨fun _ hrow => hrow, .inl hpublished⟩
  cases event with
  | call now call =>
      rcases self.rt.serve_cases (t := s.tables) now call with ⟨hnone, htables⟩ | ⟨hone, hadds⟩
      · exact hsame htables hnone
      · exact ⟨fun row hrow => (hadds.rows row).mpr (.inl hrow), .inr ⟨call.model, hone, hadds⟩⟩
  | run =>
      rw [step]
      split <;> exact hsame rfl rfl
  | opened =>
      rw [step]
      split <;> exact hsame rfl rfl
  | started peers =>
      rw [step]
      split <;> exact hsame rfl rfl
  | failed =>
      rw [step]
      split <;> exact hsame rfl rfl
  | task peers =>
      rw [step]
      split
      · exact hsame rfl rfl
      · split <;> exact hsame rfl rfl
  | announce peers =>
      rw [step]
      split <;> exact hsame rfl rfl
  | datagram now src peers data =>
      rw [step]
      split
      · exact ⟨fun row hrow => on_packet_rows now data hrow, .inl rfl⟩
      · exact hsame rfl rfl

/-! ## Runs -/

/-- What is published is stored, each model once and no second vote in a slot. -/
structure Published (rt : Runtime) (t : Tables) (published : List Object) : Prop where
  stored : ∀ o ∈ published, t.HasRow (rt.row o)
  items : (published.map Object.item).Nodup
  slots : (published.filterMap Object.slot).Nodup

theorem Published.concat {rt : Runtime} {t t' : Tables} {published : List Object} {o : Object}
    (h : Published rt t published) (hadds : rt.Adds t o t') :
    Published rt t' (published ++ [o]) := by
  refine ⟨fun p hp => ?_, ?_, ?_⟩
  · rcases List.mem_append.mp hp with hp | hp
    · exact (hadds.rows _).mpr (.inl (h.stored p hp))
    · rw [List.mem_singleton.mp hp]
      exact (hadds.rows _).mpr (.inr rfl)
  · rw [List.map_append, List.map_singleton, ← List.concat_eq_append, List.nodup_concat]
    refine ⟨fun hmem => ?_, h.items⟩
    -- the id would be taken
    obtain ⟨p, hp, hitem⟩ := List.mem_map.mp hmem
    refine hadds.admits.id (Tables.mem_ids.mpr ⟨rt.row p, h.stored p hp, ?_, ?_⟩)
    · rw [Runtime.row_object_type, Runtime.row_object_type]
      exact congrArg GossipItem.object_type hitem
    · rw [Runtime.row_id, Runtime.row_id]
      exact congrArg (fun item : GossipItem => item.object_uuid.str) hitem
  · rw [List.filterMap_append]
    cases hslot : o.slot with
    | none =>
        rw [List.filterMap_cons_none hslot, List.filterMap_nil, List.append_nil]
        exact h.slots
    | some slot =>
        rw [List.filterMap_cons_some hslot, List.filterMap_nil, ← List.concat_eq_append,
          List.nodup_concat]
        refine ⟨fun hmem => ?_, h.slots⟩
        -- the slot would be taken
        obtain ⟨p, hp, hpslot⟩ := List.mem_filterMap.mp hmem
        refine hadds.admits.slot (slot.map UUID.str) ?_
          (Tables.takenSlot_iff.mpr ⟨rt.row p, h.stored p hp, ?_⟩)
        · rw [Runtime.row_slot, hslot, Option.map_some]
        · rw [Runtime.row_slot, hpslot, Option.map_some]

/-- The state that an event leads to. -/
def state_after (self : Node crypto) (s : App) (event : AppEvent ι) : App := (self.step s event).app

theorem foldl_extend_published (trace : Trace ι)
    (h : Published self.rt trace.app.tables trace.published) (events : List (AppEvent ι)) :
    Published self.rt (events.foldl self.extend trace).app.tables
      (events.foldl self.extend trace).published := by
  induction events generalizing trace with
  | nil => exact h
  | cons event events ih =>
      refine ih (self.extend trace event) ?_
      obtain ⟨hkeeps, hnone | ⟨o, hone, hadds⟩⟩ := self.step_store trace.app event
      · have hpublished : (self.extend trace event).published = trace.published := by
          rw [extend, hnone]
          exact List.append_nil _
        rw [hpublished]
        exact ⟨fun o ho => hkeeps _ (h.stored o ho), h.items, h.slots⟩
      · have hpublished : (self.extend trace event).published = trace.published ++ [o] := by
          rw [extend, hone]
        rw [hpublished]
        exact h.concat hadds

theorem foldl_extend_queue (trace : Trace ι) (hsettled : trace.app.thread.Settled)
    (h : (trace.attempted ++ trace.app.thread.queue).Sublist trace.published)
    (events : List (AppEvent ι)) :
    ((events.foldl self.extend trace).attempted ++
        (events.foldl self.extend trace).app.thread.queue).Sublist
          (events.foldl self.extend trace).published ∧
      (trace.attempted ++ trace.app.thread.queue = trace.published →
        Along self.state_after (fun s event => ¬ self.Loses s event) trace.app events →
        (events.foldl self.extend trace).attempted ++
          (events.foldl self.extend trace).app.thread.queue =
            (events.foldl self.extend trace).published) := by
  induction events generalizing trace with
  | nil => exact ⟨h, fun hall _ => hall⟩
  | cons event events ih =>
      obtain ⟨hqueue, hlossless, hsettled'⟩ := self.step_queue hsettled event
      have hstep : (trace.attempted ++ (self.step trace.app event).attempted) ++
            (self.step trace.app event).app.thread.queue =
          trace.attempted ++ ((self.step trace.app event).attempted ++
            (self.step trace.app event).app.thread.queue) := List.append_assoc _ _ _
      have hsub : ((self.extend trace event).attempted ++
          (self.extend trace event).app.thread.queue).Sublist (self.extend trace event).published := by
        refine (hstep ▸ List.Sublist.append_left hqueue trace.attempted).trans ?_
        rw [← List.append_assoc]
        exact h.append_right _
      obtain ⟨hrest, hrest'⟩ := ih (self.extend trace event) hsettled' hsub
      refine ⟨hrest, fun hall halong => hrest' ?_ halong.2⟩
      refine hstep.trans ?_
      rw [hlossless halong.1, ← List.append_assoc, hall]
      rfl

end Node

/-- **Published once.** Let the user make things and the network run, stop short or fail in any
order, with any datagrams arriving. What the community was told to broadcast, followed by what is
still to be, are models that were published, in that order and each of them once; unless an event
lost one, all of them. What was published is stored, no two of it under one item, and no two votes
of one voter on one target. -/
theorem published_once (crypto : ECCrypto) (self : Node crypto) (t : Tables)
    (events : List (AppEvent ι)) :
    ((self.trace t events).attempted ++ (self.trace t events).app.thread.queue).Sublist
        (self.trace t events).published ∧
      (Along self.state_after (fun s event => ¬ self.Loses s event) (.new t) events →
        (self.trace t events).attempted ++ (self.trace t events).app.thread.queue =
          (self.trace t events).published) ∧
      (∀ o ∈ (self.trace t events).published,
        (self.trace t events).app.tables.HasRow (self.rt.row o)) ∧
      ((self.trace t events).published.map Object.item).Nodup ∧
      ((self.trace t events).published.filterMap Object.slot).Nodup := by
  have hsettled : (App.new t).thread.Settled := fun h => by cases h
  obtain ⟨hsub, hall⟩ := self.foldl_extend_queue ⟨.new t, [], [], []⟩ hsettled
    (List.nil_sublist _) events
  have hpublished := self.foldl_extend_published ⟨.new t, [], [], []⟩
    ⟨fun o ho => absurd ho List.not_mem_nil, List.nodup_nil, List.nodup_nil⟩ events
  exact ⟨hsub, hall rfl, hpublished.stored, hpublished.items, hpublished.slots⟩

end Superorganism.Democracy
