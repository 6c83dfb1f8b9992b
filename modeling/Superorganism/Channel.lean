/-
Two peers with a channel in either direction that loses nothing and keeps its order.

A has put the IHAVEs of its inventory on the channel to B. From then on either peer may at
any time handle the oldest packet that has reached it: B answers an IHAVE with IWANTs and
stores the objects of object messages, A answers an IWANT with object messages. In every
such run B first handles all IHAVEs, so that the object messages are those of one exchange,
in the order in which `on_iwant_message` sends them.
-/
import Superorganism.Exchange

set_option autoImplicit false

open Superorganism.Py Superorganism.Funding Superorganism.Gossip Superorganism.Sql
open Superorganism.Replica

namespace Superorganism.Democracy

/-! ## Runs -/

inductive Packet where
  | ihave (payload : List UInt8)
  | iwant (payload : List UInt8)
  | object (message : Message)

/-- B's store, the packets on their way, oldest first, and what B made of the object messages
so far. A's store stays as it is. -/
structure Channel where
  B : Tables
  toB : List Packet
  toA : List Packet
  handled : List (Except PyError Handled)

namespace Runtime

inductive Step (rt : Runtime) (A : Tables) : Channel → Channel → Prop
  | ihave (s : Channel) (payload : List UInt8) (rest : List Packet) :
      s.toB = .ihave payload :: rest → Step rt A s
        { s with
          toB := rest
          toA := s.toA ++ (rt.on_ihave_message payload s.B).messages.map .iwant }
  | iwant (s : Channel) (payload : List UInt8) (rest : List Packet) :
      s.toA = .iwant payload :: rest → Step rt A s
        { s with
          toA := rest
          toB := s.toB ++ (rt.on_iwant_message payload A).messages.map .object }
  | object (s : Channel) (now : String) (message : Message) (rest : List Packet) :
      s.toB = .object message :: rest → Step rt A s
        { s with
          toB := rest
          B := (rt.handle_object_message now message s.B).2
          handled := s.handled ++ [(rt.handle_object_message now message s.B).1] }

/-- A has announced its inventory. -/
def announced (rt : Runtime) (A B : Tables) : Channel := ⟨B, (rt.ihaves A).map .ihave, [], []⟩

/-- What a number of steps can lead to. -/
inductive Run (rt : Runtime) (A B : Tables) : ℕ → Channel → Prop
  | start : Run rt A B 0 (rt.announced A B)
  | step {n : ℕ} {s s' : Channel} : Run rt A B n s → rt.Step A s s' → Run rt A B (n + 1) s'

/-- What B makes of messages, one after the other. -/
def outcomes (rt : Runtime) : Tables → List (String × Message) → List (Except PyError Handled)
  | _, [] => []
  | t, message :: messages =>
    let result := rt.handle_object_message message.1 message.2 t
    result.1 :: outcomes rt result.2 messages

/-! ## What holds in every run -/

variable {rt : Runtime} {texts : Set String} {A B t : Tables}

theorem outcomes_append (messages later : List (String × Message)) :
    rt.outcomes t (messages ++ later) =
      rt.outcomes t messages ++ rt.outcomes (rt.deliver t messages) later := by
  induction messages generalizing t with
  | nil => rfl
  | cons message messages ih =>
      rw [List.cons_append, outcomes, ih]
      rfl

/-- After a number of steps: the IHAVEs that wait for B come before the object messages, B has
stored nothing while there are any, and the object messages handled, on their way, and still
to be asked for are those of the exchange, in this order. -/
structure Progress (rt : Runtime) (A B : Tables) (n : ℕ) (s : Channel)
    (ihaves iwants : List (List UInt8)) (queued : List Message)
    (delivered : List (String × Message)) : Prop where
  toB : s.toB = ihaves.map .ihave ++ queued.map .object
  toA : s.toA = iwants.map .iwant
  waiting : ihaves = [] ∨ delivered = []
  store : s.B = rt.deliver B delivered
  handled : s.handled = rt.outcomes B delivered
  sends : rt.sends A B = delivered.map Prod.snd ++ queued ++ rt.answers A iwants ++
    rt.answers A (rt.iwants B ihaves)
  steps : n + ihaves.length + iwants.length + (rt.iwants B ihaves).length =
    (rt.ihaves A).length + (rt.iwants B (rt.ihaves A)).length + delivered.length

namespace Progress

theorem start : rt.Progress A B 0 (rt.announced A B) (rt.ihaves A) [] [] [] where
  toB := (List.append_nil _).symm
  toA := rfl
  waiting := .inr rfl
  store := rfl
  handled := rfl
  sends := rfl
  steps := by simp

variable {n : ℕ} {s : Channel} {ihaves iwants : List (List UInt8)} {queued : List Message}
  {delivered : List (String × Message)} (h : rt.Progress A B n s ihaves iwants queued delivered)

include h

/-- B handles an IHAVE: its store is still the one it had. -/
theorem ihave {payload : List UInt8} {rest : List Packet} (hhead : s.toB = .ihave payload :: rest) :
    ∃ ihaves', ihaves = payload :: ihaves' ∧
      rt.Progress A B (n + 1)
        { s with
          toB := rest
          toA := s.toA ++ (rt.on_ihave_message payload s.B).messages.map .iwant }
        ihaves' (iwants ++ (rt.on_ihave_message payload B).messages) queued delivered := by
  have htoB := h.toB
  rw [hhead] at htoB
  cases ihaves with
  | nil =>
      -- an IHAVE does not stand among the object messages
      cases queued <;> simp at htoB
  | cons first ihaves' =>
      rw [List.map_cons, List.cons_append, List.cons.injEq, Packet.ihave.injEq] at htoB
      obtain ⟨rfl, rfl⟩ := htoB
      have hnone : delivered = [] := h.waiting.resolve_left (List.cons_ne_nil _ _)
      subst hnone
      have hB : s.B = B := h.store
      have hcons : rt.iwants B (payload :: ihaves') =
          (rt.on_ihave_message payload B).messages ++ rt.iwants B ihaves' := List.flatMap_cons
      refine ⟨ihaves', rfl, ⟨rfl, ?_, .inr rfl, h.store, h.handled, ?_, ?_⟩⟩
      · rw [h.toA, hB, List.map_append]
      · rw [h.sends, hcons]
        simp only [Runtime.answers, List.flatMap_append, List.append_assoc]
      · have hsteps := h.steps
        rw [hcons] at hsteps
        simp only [List.length_append, List.length_cons] at hsteps ⊢
        omega

/-- A handles an IWANT. -/
theorem iwant {payload : List UInt8} {rest : List Packet} (hhead : s.toA = .iwant payload :: rest) :
    ∃ iwants', iwants = payload :: iwants' ∧
      rt.Progress A B (n + 1)
        { s with
          toA := rest
          toB := s.toB ++ (rt.on_iwant_message payload A).messages.map .object }
        ihaves iwants' (queued ++ (rt.on_iwant_message payload A).messages) delivered := by
  have htoA := h.toA
  rw [hhead] at htoA
  cases iwants with
  | nil => simp at htoA
  | cons first iwants' =>
      rw [List.map_cons, List.cons.injEq, Packet.iwant.injEq] at htoA
      obtain ⟨rfl, rfl⟩ := htoA
      have hcons : rt.answers A (payload :: iwants') =
          (rt.on_iwant_message payload A).messages ++ rt.answers A iwants' := List.flatMap_cons
      refine ⟨iwants', rfl, ⟨?_, rfl, h.waiting, h.store, h.handled, ?_, ?_⟩⟩
      · rw [h.toB, List.map_append, List.append_assoc]
      · rw [h.sends, hcons]
        simp only [List.append_assoc]
      · have hsteps := h.steps
        rw [List.length_cons] at hsteps
        omega

/-- B handles an object message: no IHAVE waits any more. -/
theorem object (now : String) {message : Message} {rest : List Packet}
    (hhead : s.toB = .object message :: rest) :
    ihaves = [] ∧ ∃ queued', queued = message :: queued' ∧
      rt.Progress A B (n + 1)
        { s with
          toB := rest
          B := (rt.handle_object_message now message s.B).2
          handled := s.handled ++ [(rt.handle_object_message now message s.B).1] }
        [] iwants queued' (delivered ++ [(now, message)]) := by
  have htoB := h.toB
  rw [hhead] at htoB
  cases ihaves with
  | cons first ihaves' =>
      -- an object message does not stand before an IHAVE
      simp at htoB
  | nil =>
      cases queued with
      | nil => simp at htoB
      | cons first queued' =>
          rw [List.map_nil, List.nil_append, List.map_cons, List.cons.injEq,
            Packet.object.injEq] at htoB
          obtain ⟨rfl, rfl⟩ := htoB
          refine ⟨rfl, queued', rfl, ⟨rfl, h.toA, .inl rfl, ?_, ?_, ?_, ?_⟩⟩
          · rw [h.store, deliver, deliver, List.foldl_append]
            rfl
          · rw [outcomes_append, h.handled, h.store]
            rfl
          · rw [h.sends]
            simp
          · have hsteps := h.steps
            simp only [List.length_append, List.length_singleton] at hsteps ⊢
            omega

end Progress

theorem Run.progress {n : ℕ} {s : Channel} (h : rt.Run A B n s) :
    ∃ ihaves iwants queued delivered, rt.Progress A B n s ihaves iwants queued delivered := by
  induction h with
  | start => exact ⟨_, _, _, _, Progress.start⟩
  | step _ hstep ih =>
      obtain ⟨ihaves, iwants, queued, delivered, hprogress⟩ := ih
      cases hstep with
      | ihave payload rest hhead =>
          obtain ⟨_, -, hnext⟩ := hprogress.ihave hhead
          exact ⟨_, _, _, _, hnext⟩
      | iwant payload rest hhead =>
          obtain ⟨_, -, hnext⟩ := hprogress.iwant hhead
          exact ⟨_, _, _, _, hnext⟩
      | object now message rest hhead =>
          obtain ⟨-, _, -, hnext⟩ := hprogress.object now hhead
          exact ⟨_, _, _, _, hnext⟩

/-- There are no more steps than packets in the exchange. -/
theorem Run.le {n : ℕ} {s : Channel} (h : rt.Run A B n s) :
    n ≤ (rt.ihaves A).length + (rt.iwants B (rt.ihaves A)).length + (rt.sends A B).length := by
  obtain ⟨ihaves, iwants, queued, delivered, hprogress⟩ := h.progress
  have hsteps := hprogress.steps
  have hlength := congrArg List.length hprogress.sends
  simp only [List.length_append, List.length_map] at hlength
  omega

/-- Whichever packet is the oldest on its channel can be handled. -/
theorem Run.next {n : ℕ} {s : Channel} (h : rt.Run A B n s) :
    (s.toB = [] ∧ s.toA = []) ∨ ∃ s', rt.Step A s s' := by
  obtain ⟨ihaves, iwants, queued, delivered, hprogress⟩ := h.progress
  have htoB := hprogress.toB
  have htoA := hprogress.toA
  cases ihaves with
  | cons payload ihaves => exact .inr ⟨_, .ihave s payload _ htoB⟩
  | nil =>
      cases queued with
      | cons message queued => exact .inr ⟨_, .object s "" message _ htoB⟩
      | nil =>
          cases iwants with
          | cons payload iwants => exact .inr ⟨_, .iwant s payload _ htoA⟩
          | nil => exact .inl ⟨htoB, htoA⟩

/-- So every run goes on until there are none left. -/
theorem Run.completes {n : ℕ} {s : Channel} (h : rt.Run A B n s) :
    ∃ n' s', rt.Run A B n' s' ∧ s'.toB = [] ∧ s'.toA = [] := by
  -- by induction on the number of steps that are left
  induction hleft : (rt.ihaves A).length + (rt.iwants B (rt.ihaves A)).length +
      (rt.sends A B).length - n generalizing n s with
  | zero =>
      rcases h.next with hdone | ⟨s', hstep⟩
      · exact ⟨n, s, h, hdone⟩
      · have hle := (h.step hstep).le
        omega
  | succ left ih =>
      rcases h.next with hdone | ⟨s', hstep⟩
      · exact ⟨n, s, h, hdone⟩
      · exact ih (h.step hstep) (by omega)

/-! ## In canonical order nothing is turned away -/

/-- The type of a parent comes before the type of its children. -/
theorem parent_type_lt {o p : Object} (h : o.parent = some p.item) :
    p.object_type.toInt < o.object_type.toInt := by
  have htype : o.parent.map GossipItem.object_type = some p.object_type := by rw [h]; rfl
  cases o <;> cases p <;> cases htype <;> simp [Object.object_type, ObjectType.toInt]

theorem parent_key_lt {o p : Object} (h : o.parent = some p.item) : p.item.key < o.item.key :=
  Prod.Lex.toLex_lt_toLex.mpr (.inl (parent_type_lt h))

theorem type_le_of_key_lt {a b : GossipItem} (h : a.key < b.key) :
    a.object_type.toInt ≤ b.object_type.toInt := by
  rcases Prod.Lex.toLex_lt_toLex.mp h with hlt | ⟨heq, -⟩
  · exact hlt.le
  · exact heq.le

section

variable (hinj : Set.InjOn rt.text_hash texts) {whole : Set Object} (hwhole : links.Coherent whole)

include hinj hwhole

/-- New objects that come in order are all stored. -/
theorem IsStore.outcomes_stored (hB : rt.IsStore texts B) (hsub : rt.stored texts B ⊆ whole)
    {messages : List (String × Message)} {os : List Object}
    (hread : List.Forall₂ (fun (message : String × Message) o => message.2.to_model rt = .ok o)
      messages os) (hos : ∀ o ∈ os, rt.Genuine texts o ∧ o ∈ whole ∧ o ∉ rt.stored texts B)
    (hnodup : os.Nodup) (horder : links.InOrder (rt.stored texts B) os) :
    ∀ outcome ∈ rt.outcomes B messages, ∃ handled, outcome = .ok handled ∧
      handled.status = .STORED := by
  induction hread generalizing B with
  | nil => exact fun outcome houtcome => absurd houtcome List.not_mem_nil
  | @cons message o messages os hmessage _ ih =>
      obtain ⟨hgenuine, ho, hnew⟩ := hos o (List.mem_cons_self ..)
      -- the first object fits, since what it refers to is there before it
      have hfits := Links.fits_of_parent hwhole hsub ho hnew horder.1
      obtain ⟨t', hstore, hstore', hstored⟩ :=
        hB.store_remote_of_fits hgenuine message.1 hinj hfits
      obtain ⟨handled, hhandled, hstatus⟩ := handle_object_message_of_read hmessage hstore
      rw [Links.receive_of_fits hfits] at hstored
      rw [List.nodup_cons] at hnodup
      intro outcome houtcome
      rw [outcomes, hhandled] at houtcome
      rcases List.mem_cons.mp houtcome with rfl | hlater
      · exact ⟨handled, rfl, hstatus⟩
      -- the rest comes in order at the store that has it
      · refine ih hstore' ?_ ?_ hnodup.2 ?_ outcome hlater
        · rw [hstored]
          exact Set.insert_subset ho hsub
        · intro p hp
          obtain ⟨hp', hpw, hpn⟩ := hos p (List.mem_cons_of_mem _ hp)
          refine ⟨hp', hpw, ?_⟩
          rw [hstored, Set.mem_insert_iff, not_or]
          exact ⟨fun heq => hnodup.1 (heq ▸ hp), hpn⟩
        · rw [hstored]
          exact horder.2

end

section

variable (hinj : Set.InjOn rt.text_hash texts) (hA : rt.IsStore texts A) (hB : rt.IsStore texts B)
  (hsub : rt.stored texts B ⊆ rt.stored texts A)

include hinj hA hB hsub

/-- Handling everything that A sends, in its order, stores every object of it and leaves B with
all of A's objects. -/
theorem IsStore.sends_in_order {messages : List (String × Message)}
    (hmessages : messages.map Prod.snd = rt.sends A B) :
    rt.IsStore texts (rt.deliver B messages) ∧
      rt.stored texts (rt.deliver B messages) = rt.stored texts A ∧
      ∀ outcome ∈ rt.outcomes B messages, ∃ handled, outcome = .ok handled ∧
        handled.status = .STORED := by
  obtain ⟨os, hmem, hsorted, hread⟩ := hA.sends_spec hinj hB
  rw [← hmessages, List.forall₂_map_left_iff] at hread
  have hwhole := hA.coherent hinj
  have hos : ∀ o ∈ os, o ∈ rt.stored texts A := fun o ho => ((hmem o).mp ho).1
  have hnew : ∀ o ∈ os, o ∉ rt.stored texts B := fun o ho hold => ((hmem o).mp ho).2 ⟨o, hold, rfl⟩
  have hall : ∀ o ∈ rt.stored texts A, o ∉ rt.stored texts B → o ∈ os := by
    intro o ho hold
    refine (hmem o).mpr ⟨ho, ?_⟩
    rintro ⟨p, hp, hpo⟩
    exact hold (hA.eq_of_item hinj (hsub hp) ho hpo ▸ hp)
  -- sorted by type, parents come before their children
  have horder : links.InOrder (rt.stored texts B) os :=
    Links.inOrder_of_sorted hwhole (fun o => o.object_type.toInt)
      (fun o _ p _ hparent => parent_type_lt hparent) hos hall
      (hsorted.imp fun {a b} hlt => type_le_of_key_lt hlt)
  have hnodup : os.Nodup := hsorted.imp fun {a b} hlt heq => by
    rw [heq] at hlt
    exact lt_irrefl _ hlt
  obtain ⟨hstore, hstored⟩ := hB.deliver_spec hinj hread fun o ho => (hos o ho).1
  refine ⟨hstore, ?_, hB.outcomes_stored hinj hwhole hsub hread
    (fun o ho => ⟨(hos o ho).1, hos o ho, hnew o ho⟩) hnodup horder⟩
  rw [hstored, Links.receiveAll_inOrder hwhole hsub hos horder]
  ext o
  constructor
  · rintro (ho | ho)
    · exact hsub ho
    · exact hos o ho
  · intro ho
    by_cases hold : o ∈ rt.stored texts B
    · exact .inl hold
    · exact .inr (hall o ho hold)

end

end Runtime

/-- **One exchange in order.** Let A's and B's stores satisfy the schema and B's objects be among
A's, and let A have announced its inventory over channels that lose nothing and keep their
order. The canonical order puts every object after its parent. A run has at most as many steps
as there are packets in the exchange, and goes on until every packet has been handled; at
every moment each object message handled so far has been stored; and in the end B's objects
are A's. Messages are handed over whole here; what the packing limits keep back is in
`PacketExchange`. -/
theorem exchange_in_order (rt : Runtime) (texts : Set String)
    (hinj : Set.InjOn rt.text_hash texts) (A B : Tables) (hA : rt.IsStore texts A)
    (hB : rt.IsStore texts B) (hsub : rt.objects B ⊆ rt.objects A) :
    (∀ o p : Object, o.parent = some p.item → p.item.key < o.item.key) ∧
    ∀ n s, rt.Run A B n s →
      n ≤ (rt.ihaves A).length + (rt.iwants B (rt.ihaves A)).length + (rt.sends A B).length ∧
      ((s.toB = [] ∧ s.toA = []) ∨ ∃ s', rt.Step A s s') ∧
      (∀ outcome ∈ s.handled, ∃ handled, outcome = .ok handled ∧ handled.status = .STORED) ∧
      (s.toB = [] → s.toA = [] → rt.objects s.B = rt.objects A) := by
  rw [hA.objects_eq hinj, hB.objects_eq hinj] at hsub
  refine ⟨fun o p => Runtime.parent_key_lt, fun n s hrun => ?_⟩
  obtain ⟨ihaves, iwants, queued, delivered, hprogress⟩ := hrun.progress
  have hsends := hprogress.sends
  refine ⟨hrun.le, hrun.next, ?_, fun htoB htoA => ?_⟩
  · -- what was handled so far is the beginning of what is handled in the end
    let later := (queued ++ rt.answers A iwants ++ rt.answers A (rt.iwants B ihaves)).map
      fun message => ("", message)
    have hmessages : (delivered ++ later).map Prod.snd = rt.sends A B := by
      rw [hsends]
      simp [later, Function.comp_def]
    obtain ⟨-, -, hstored⟩ := hA.sends_in_order hinj hB hsub hmessages
    intro outcome houtcome
    rw [hprogress.handled] at houtcome
    refine hstored outcome ?_
    rw [Runtime.outcomes_append]
    exact List.mem_append_left _ houtcome
  · have htoB' := hprogress.toB
    have htoA' := hprogress.toA
    rw [htoB, eq_comm, List.append_eq_nil_iff, List.map_eq_nil_iff, List.map_eq_nil_iff] at htoB'
    rw [htoA, eq_comm, List.map_eq_nil_iff] at htoA'
    obtain ⟨rfl, rfl⟩ := htoB'
    subst htoA'
    have hmessages : delivered.map Prod.snd = rt.sends A B := by
      rw [hsends]
      simp [Runtime.answers, Runtime.iwants]
    obtain ⟨hstore, hstored, -⟩ := hA.sends_in_order hinj hB hsub hmessages
    rw [hprogress.store, hstore.objects_eq hinj, hA.objects_eq hinj, hstored]

/-- An empty store gets the issue and the solution, both of them stored at once. -/
theorem exchange_in_order_empty :
    ∃ n s, exampleRuntime.Run exampleStore Tables.empty n s ∧
      exampleRuntime.objects s.B = exampleRuntime.objects exampleStore ∧
      ∀ outcome ∈ s.handled, ∃ handled, outcome = .ok handled ∧ handled.status = .STORED := by
  have hstart : exampleRuntime.Run exampleStore Tables.empty 0
      (exampleRuntime.announced exampleStore Tables.empty) := .start
  obtain ⟨n, s, hrun, htoB, htoA⟩ := hstart.completes
  obtain ⟨-, hruns⟩ := exchange_in_order exampleRuntime {"", "revised"} exampleTexts_injOn
    exampleStore Tables.empty exampleStore_isStore Runtime.IsStore.empty exampleStore_objects
  obtain ⟨-, -, hstored, hequal⟩ := hruns n s hrun
  exact ⟨n, s, hrun, hequal htoB htoA, hstored⟩

end Superorganism.Democracy
