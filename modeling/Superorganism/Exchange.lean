/-
One peer catching up with another.

In a round the peer A announces its inventory, B asks for what it lacks, A answers, and B
handles the answers in any order, some of them more than once. What A answers are its objects
that B does not have, in canonical order. Whatever the order they are handled in, B's store
grows by one generation of the foreign keys, so that four rounds bring it to A's; and handled
in the order in which they were sent, none of them is turned away.
-/
import Superorganism.Community

set_option autoImplicit false

open Superorganism.Py Superorganism.Funding Superorganism.Gossip Superorganism.Sql
open Superorganism.Replica

namespace Superorganism.Democracy

namespace Runtime

variable (rt : Runtime)

/-! ## One exchange -/

/-- The IHAVEs of A. -/
def ihaves (A : Tables) : List (List UInt8) := (rt.announce_full_inventory A).messages

/-- The IWANTs B answers IHAVEs with. -/
def iwants (B : Tables) (announced : List (List UInt8)) : List (List UInt8) :=
  announced.flatMap fun ihave => (rt.on_ihave_message ihave B).messages

/-- The object messages A answers IWANTs with. -/
def answers (A : Tables) (requests : List (List UInt8)) : List Message :=
  requests.flatMap fun iwant => (rt.on_iwant_message iwant A).messages

/-- What A sends in a round. -/
def sends (A B : Tables) : List Message := rt.answers A (rt.iwants B (rt.ihaves A))

/-- B after handling messages, each at its time. -/
def deliver (B : Tables) (messages : List (String × Message)) : Tables :=
  messages.foldl (fun t message => (rt.handle_object_message message.1 message.2 t).2) B

variable {rt} {texts : Set String} {A B : Tables}

/-- What A sends for an item. -/
def sentFor (rt : Runtime) (A : Tables) (item : GossipItem) : Option Message :=
  match rt.send_object A item with
  | .ok message => message
  | .error _ => none

section

variable (hinj : Set.InjOn rt.text_hash texts) (hA : rt.IsStore texts A)

include hinj hA

theorem IsStore.answers_eq (requests : List (List UInt8)) :
    rt.answers A requests = (requests.flatMap decode_gossip_items).filterMap (rt.sentFor A) := by
  have hsend : ∀ item, rt.send_object A item = .ok (rt.sentFor A item) := by
    intro item
    rw [sentFor]
    rcases hA.send_object_spec hinj item with ⟨o, -, -, message, hsent, -⟩ | ⟨-, hsent⟩
    · rw [hsent]
    · rw [hsent]
  rw [List.filterMap_flatMap, answers]
  refine List.flatMap_congr fun iwant _ => ?_
  rw [on_iwant_message, sendEach_of_ok fun item _ => hsend item]

/-- The messages sent for stored items are read as the objects they name. -/
theorem IsStore.sentFor_spec {items : List GossipItem}
    (h : ∀ item ∈ items, links.HasKey (rt.stored texts A) item) :
    ∃ os : List Object, os.map Object.item = items ∧ (∀ o ∈ os, o ∈ rt.stored texts A) ∧
      List.Forall₂ (fun (message : Message) o => message.to_model rt = .ok o)
        (items.filterMap (rt.sentFor A)) os := by
  induction items with
  | nil => exact ⟨[], rfl, by simp, .nil⟩
  | cons item items ih =>
      obtain ⟨os, hmap, hos, hread⟩ := ih fun x hx => h x (List.mem_cons_of_mem _ hx)
      have hkey := h item (List.mem_cons_self ..)
      rcases hA.send_object_spec hinj item with ⟨o, ho, hitem, message, hsent, hmessage⟩ | ⟨hnot, -⟩
      · have hsome : rt.sentFor A item = some message := by rw [sentFor, hsent]
        refine ⟨o :: os, by rw [List.map_cons, hitem, hmap], ?_, ?_⟩
        · exact List.forall_mem_cons.mpr ⟨ho, hos⟩
        · rw [List.filterMap_cons_some hsome]
          exact .cons hmessage hread
      · exact absurd hkey hnot

variable (hB : rt.IsStore texts B)

include hB

/-- **What A sends** are its objects that B does not have, in canonical order. -/
theorem IsStore.sends_spec :
    ∃ os : List Object, (∀ o, o ∈ os ↔ o ∈ rt.stored texts A ∧
        ¬ links.HasKey (rt.stored texts B) o.item) ∧
      (os.Pairwise fun a b => a.item.key < b.item.key) ∧
      List.Forall₂ (fun (message : Message) o => message.to_model rt = .ok o)
        (rt.sends A B) os := by
  obtain ⟨inventory, ihaves, hihaves, hdecode, hinventory⟩ := hA.announce_full_inventory_spec hinj
  have hsorted := (canonicalize_items_sortedDistinct inventory).sorted
  -- each IHAVE is a part of the inventory, so what B asks for keeps its order
  have hiwants : (rt.iwants B ihaves).flatMap decode_gossip_items =
      (canonicalize_items inventory).filter fun item =>
        decide (item.object_uuid.str ∉ B.ids item.object_type) := by
    rw [iwants, List.flatMap_assoc, ← hdecode, List.filter_flatMap]
    refine List.flatMap_congr fun ihave hihave => ?_
    obtain ⟨requests, hrequests, hmissing⟩ := on_ihave_message_spec hB.finds ihave
    rw [← hdecode, List.pairwise_flatMap] at hsorted
    rw [hrequests, hmissing]
    exact canonicalize_items_of_sorted ((hsorted.1 ihave hihave).filter _)
  have hmem : ∀ item, item ∈ (canonicalize_items inventory).filter (fun item =>
        decide (item.object_uuid.str ∉ B.ids item.object_type)) ↔
      links.HasKey (rt.stored texts A) item ∧ ¬ links.HasKey (rt.stored texts B) item := by
    intro item
    rw [List.mem_filter, decide_eq_true_eq, hB.hasKey_iff,
      (canonicalize_items_sortedDistinct inventory).mem, hinventory]
  obtain ⟨os, hmap, hos, hread⟩ := hA.sentFor_spec hinj fun item hitem => ((hmem item).mp hitem).1
  refine ⟨os, fun o => ⟨fun ho => ⟨hos o ho, ?_⟩, fun ho => ?_⟩, ?_, ?_⟩
  · exact ((hmem o.item).mp (hmap ▸ List.mem_map_of_mem ho)).2
  · have hitem := (hmem o.item).mpr ⟨⟨o, ho.1, rfl⟩, ho.2⟩
    rw [← hmap] at hitem
    obtain ⟨p, hp, hpo⟩ := List.mem_map.mp hitem
    exact hA.eq_of_item hinj (hos p hp) ho.1 hpo ▸ hp
  · rw [← List.pairwise_map (f := Object.item) (R := fun a b : GossipItem => a.key < b.key), hmap]
    exact hsorted.filter _
  · have hsends : rt.sends A B = ((canonicalize_items inventory).filter fun item =>
        decide (item.object_uuid.str ∉ B.ids item.object_type)).filterMap (rt.sentFor A) := by
      rw [sends, hA.answers_eq hinj, Runtime.ihaves, hihaves, hiwants]
    rw [hsends]
    exact hread

end

/-! ## Handling what was sent -/

/-- Handling messages is receiving the objects they are read as. -/
theorem IsStore.deliver_spec (hinj : Set.InjOn rt.text_hash texts) (hB : rt.IsStore texts B)
    {messages : List (String × Message)} {os : List Object}
    (hread : List.Forall₂ (fun (message : String × Message) o => message.2.to_model rt = .ok o)
      messages os) (hos : ∀ o ∈ os, rt.Genuine texts o) :
    rt.IsStore texts (rt.deliver B messages) ∧
      rt.stored texts (rt.deliver B messages) = links.receiveAll (rt.stored texts B) os := by
  induction hread generalizing B with
  | nil => exact ⟨hB, rfl⟩
  | @cons message o messages os hmessage _ ih =>
      obtain ⟨status, t', hstore, hstore', hstored, -⟩ :=
        hB.store_remote_spec (hos o (List.mem_cons_self ..)) message.1 hinj
      obtain ⟨handled, hhandled, -⟩ := handle_object_message_of_read hmessage hstore
      have hstep : rt.deliver B (message :: messages) = rt.deliver t' messages := by
        rw [deliver, List.foldl_cons, hhandled]
        rfl
      obtain ⟨hafter, hafter'⟩ := ih hstore' fun p hp => hos p (List.mem_cons_of_mem _ hp)
      rw [hstep, Links.receiveAll_cons, ← hstored]
      exact ⟨hafter, hafter'⟩

/-! ## Rounds -/

/-- Complete rounds: in each, B handles every message that A sends, and no other, in some
order and each at least once. -/
def Rounds (rt : Runtime) (A : Tables) : Tables → List (List (String × Message)) → Prop
  | _, [] => True
  | B, messages :: rounds =>
    (∀ message, (∃ now, (now, message) ∈ messages) ↔ message ∈ rt.sends A B) ∧
      Rounds rt A (rt.deliver B messages) rounds

/-- B after the rounds. -/
def after (rt : Runtime) (B : Tables) (rounds : List (List (String × Message))) : Tables :=
  rounds.foldl rt.deliver B

end Runtime

/-- The generation of an object among the foreign keys. -/
def Object.generation : Object → ℕ
  | .issue _ => 0
  | .issue_vote _ => 1
  | .solution _ => 1
  | .solution_vote _ => 2
  | .campaign _ => 2
  | .pledge _ => 3

theorem Object.generation_lt {o p : Object} (h : o.parent = some p.item) :
    p.generation < o.generation := by
  have htype : o.parent.map GossipItem.object_type = some p.object_type := by rw [h]; rfl
  cases o <;> cases p <;> cases htype <;> simp [Object.generation]

theorem Object.generation_lt_four (o : Object) : o.generation < 4 := by
  cases o <;> simp [Object.generation]

namespace Runtime

variable {rt : Runtime} {texts : Set String} {A B : Tables}
  (hinj : Set.InjOn rt.text_hash texts) (hA : rt.IsStore texts A)

include hinj hA

/-- One round: nothing is lost, nothing foreign comes in, and one more generation is there. -/
theorem IsStore.round_spec (hB : rt.IsStore texts B) (hsub : rt.stored texts B ⊆ rt.stored texts A)
    {messages : List (String × Message)}
    (hround : ∀ message, (∃ now, (now, message) ∈ messages) ↔ message ∈ rt.sends A B) :
    rt.IsStore texts (rt.deliver B messages) ∧
      rt.stored texts B ⊆ rt.stored texts (rt.deliver B messages) ∧
      rt.stored texts (rt.deliver B messages) ⊆ rt.stored texts A ∧
      ∀ n, (∀ o ∈ rt.stored texts A, o.generation < n → o ∈ rt.stored texts B) →
        ∀ o ∈ rt.stored texts A, o.generation < n + 1 →
          o ∈ rt.stored texts (rt.deliver B messages) := by
  obtain ⟨sent, hsent, -, hsends⟩ := hA.sends_spec hinj hB
  have hread := mem_of_mapM_eq_ok (mapM_eq_ok.mpr hsends)
  -- the objects that are received are those that were sent
  have hreads : ∀ message ∈ messages, ∃ o, message.2.to_model rt = .ok o := by
    intro message hmessage
    obtain ⟨o, -, ho⟩ := hread.1 message.2 ((hround _).mp ⟨message.1, hmessage⟩)
    exact ⟨o, ho⟩
  obtain ⟨os, hos, hmem⟩ := mapM_of_ok hreads
  have hwhole : ∀ o ∈ os, o ∈ rt.stored texts A := by
    intro o ho
    obtain ⟨message, hmessage, hmo⟩ := (hmem o).mp ho
    obtain ⟨p, hp, hmp⟩ := hread.1 message.2 ((hround _).mp ⟨message.1, hmessage⟩)
    rw [hmo] at hmp
    exact Except.ok.inj hmp ▸ ((hsent p).mp hp).1
  have hall : ∀ o ∈ rt.stored texts A, o ∉ rt.stored texts B → o ∈ os := by
    intro o ho hnew
    have hkey : ¬ links.HasKey (rt.stored texts B) o.item := by
      rintro ⟨p, hp, hpo⟩
      exact hnew (hA.eq_of_item hinj (hsub hp) ho hpo ▸ hp)
    obtain ⟨message, hmessage, hmo⟩ := hread.2 o ((hsent o).mpr ⟨ho, hkey⟩)
    obtain ⟨now, hdelivered⟩ := (hround message).mpr hmessage
    exact (hmem o).mpr ⟨(now, message), hdelivered, hmo⟩
  obtain ⟨hstore, hstored⟩ :=
    hB.deliver_spec hinj (mapM_eq_ok.mp hos) fun o ho => (hwhole o ho).1
  rw [hstored]
  refine ⟨hstore, Links.subset_receiveAll, Links.receiveAll_subset hsub hwhole, fun n hn => ?_⟩
  exact Links.round_grows (hA.coherent hinj) hsub
    (fun o _ p _ hparent => Object.generation_lt hparent) hn hwhole hall

theorem IsStore.rounds_spec (hB : rt.IsStore texts B) (hsub : rt.stored texts B ⊆ rt.stored texts A)
    {rounds : List (List (String × Message))} (hrounds : rt.Rounds A B rounds) {n : ℕ}
    (hn : ∀ o ∈ rt.stored texts A, o.generation < n → o ∈ rt.stored texts B) :
    rt.IsStore texts (rt.after B rounds) ∧
      rt.stored texts B ⊆ rt.stored texts (rt.after B rounds) ∧
      rt.stored texts (rt.after B rounds) ⊆ rt.stored texts A ∧
      ∀ o ∈ rt.stored texts A, o.generation < n + rounds.length →
        o ∈ rt.stored texts (rt.after B rounds) := by
  induction rounds generalizing B n with
  | nil => exact ⟨hB, subset_refl _, hsub, hn⟩
  | cons messages rounds ih =>
      obtain ⟨hstore, hgrows, hsub', hgeneration⟩ := hA.round_spec hinj hB hsub hrounds.1
      obtain ⟨hafter, hgrows', hsub'', hall⟩ := ih hstore hsub' hrounds.2 (hgeneration n hn)
      refine ⟨hafter, hgrows.trans hgrows', hsub'', fun o ho hlt => hall o ho ?_⟩
      rw [List.length_cons] at hlt
      omega

omit hinj hA in
theorem Rounds.append {rounds later : List (List (String × Message))}
    (h : rt.Rounds A B (rounds ++ later)) :
    rt.Rounds A B rounds ∧ rt.Rounds A (rt.after B rounds) later := by
  induction rounds generalizing B with
  | nil => exact ⟨trivial, h⟩
  | cons messages rounds ih =>
      obtain ⟨hbefore, hlater⟩ := ih h.2
      exact ⟨⟨h.1, hbefore⟩, hlater⟩

end Runtime

/-- **Four rounds are enough.** Let A's and B's stores satisfy the schema, B's objects be among
A's, and let B handle the answers of each round in any order, with duplicates. Then after each
round B's store satisfies the schema, its objects are among A's, and none that it had before
is missing; and from the fourth round on its objects are A's. Messages are handed over whole here;
what the packing limits keep back is in `PacketExchange`. -/
theorem rounds_catch_up (rt : Runtime) (texts : Set String) (hinj : Set.InjOn rt.text_hash texts)
    (A B : Tables) (hA : rt.IsStore texts A) (hB : rt.IsStore texts B)
    (hsub : rt.objects B ⊆ rt.objects A) (rounds : List (List (String × Message)))
    (hrounds : rt.Rounds A B rounds) :
    rt.IsStore texts (rt.after B rounds) ∧
    rt.objects (rt.after B rounds) ⊆ rt.objects A ∧
    (∀ before later, rounds = before ++ later →
      rt.objects (rt.after B before) ⊆ rt.objects (rt.after B rounds)) ∧
    (4 ≤ rounds.length → rt.objects (rt.after B rounds) = rt.objects A) := by
  rw [hA.objects_eq hinj, hB.objects_eq hinj] at hsub
  have hzero : ∀ o ∈ rt.stored texts A, o.generation < 0 → o ∈ rt.stored texts B :=
    fun o _ hlt => absurd hlt (Nat.not_lt_zero _)
  obtain ⟨hafter, -, hsub', hall⟩ := hA.rounds_spec hinj hB hsub hrounds hzero
  rw [hafter.objects_eq hinj, hA.objects_eq hinj]
  refine ⟨hafter, hsub', fun before later hsplit => ?_, fun hfour => ?_⟩
  · -- the later rounds only add to what the earlier ones left
    subst hsplit
    obtain ⟨hbefore, hlater⟩ := hrounds.append
    obtain ⟨hmiddle, -, hmiddle', hgeneration⟩ := hA.rounds_spec hinj hB hsub hbefore hzero
    obtain ⟨-, hgrows, -⟩ := hA.rounds_spec hinj hmiddle hmiddle' hlater hgeneration
    have hsplit : rt.after B (before ++ later) = rt.after (rt.after B before) later :=
      List.foldl_append ..
    rw [hmiddle.objects_eq hinj, hsplit]
    exact hgrows
  · refine subset_antisymm hsub' fun o ho => hall o ho ?_
    have hlt := o.generation_lt_four
    omega

/-- A store with an issue and a solution of it. -/
def exampleStore : Tables :=
  (exampleRuntime.store_remote "2024-01-01T00:00:02+00:00" (.solution exampleSolution)
    (exampleRuntime.store_remote "2024-01-01T00:00:01+00:00" (.issue (exampleIssue 1 ""))
      Tables.empty).2).2

theorem exampleStore_isStore : exampleRuntime.IsStore {"", "revised"} exampleStore := by
  have hissue := Runtime.IsStore.empty.store_remote (exampleIssue_genuine 1)
    "2024-01-01T00:00:01+00:00" exampleTexts_injOn
  exact hissue.store_remote exampleSolution_genuine "2024-01-01T00:00:02+00:00" exampleTexts_injOn

/-- Rounds in which what was sent last is handled first. -/
def Runtime.backwards (rt : Runtime) (A : Tables) : ℕ → Tables → List (List (String × Message))
  | 0, _ => []
  | n + 1, B =>
    let messages := (rt.sends A B).reverse.map fun message => ("2024-01-01T00:00:03+00:00", message)
    messages :: Runtime.backwards rt A n (rt.deliver B messages)

theorem Runtime.backwards_rounds (rt : Runtime) (A : Tables) (n : ℕ) (B : Tables) :
    rt.Rounds A B (rt.backwards A n B) := by
  induction n generalizing B with
  | zero => trivial
  | succ n ih =>
      refine ⟨fun message => ?_, ih _⟩
      simp

theorem Runtime.backwards_length (rt : Runtime) (A : Tables) (n : ℕ) (B : Tables) :
    (rt.backwards A n B).length = n := by
  induction n generalizing B with
  | zero => rfl
  | succ n ih => rw [Runtime.backwards, List.length_cons, ih]

theorem exampleStore_objects :
    exampleRuntime.objects Tables.empty ⊆ exampleRuntime.objects exampleStore := by
  rw [Runtime.IsStore.empty.objects_eq exampleTexts_injOn]
  rintro o ⟨-, ho⟩
  cases o <;> exact absurd ho List.not_mem_nil

/-- An empty store catches up with two objects, the solution being handled before its issue. -/
theorem rounds_catch_up_backwards :
    exampleRuntime.objects (exampleRuntime.after Tables.empty
        (exampleRuntime.backwards exampleStore 4 Tables.empty)) =
      exampleRuntime.objects exampleStore := by
  obtain ⟨-, -, -, hequal⟩ := rounds_catch_up exampleRuntime {"", "revised"} exampleTexts_injOn
    exampleStore Tables.empty exampleStore_isStore Runtime.IsStore.empty exampleStore_objects _
    (exampleRuntime.backwards_rounds exampleStore 4 Tables.empty)
  exact hequal (exampleRuntime.backwards_length exampleStore 4 Tables.empty).ge

end Superorganism.Democracy
