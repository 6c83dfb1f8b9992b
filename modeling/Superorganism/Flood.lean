/-
Flooding: nodes that pass on what they are told.

Some packets carry a key. A relay that is told a key sends it on to its neighbours, and marks
for each neighbour that it has. A relay never starts: what it sends, it has been told before.

Three things follow whatever the network does with the packets. A relay sends a key to a
neighbour once, and once more each time it has forgotten its marks (`Marks.sent_le`). When every
packet has been delivered, whoever can be reached from a relay that was told has been told as well
(`Covered.heard_of_reachable`). And what is passed on without a key, and so without marks, is
never delivered for the last time (`exists_outstanding`).
-/
import Mathlib.Data.List.Count
import Mathlib.Data.List.Perm.Subperm
import Mathlib.Logic.Relation
import Superorganism.Network

set_option autoImplicit false

open Superorganism.Network Superorganism.Runs

namespace Superorganism.Flood

/-- Which packets carry a key, which nodes are relays, and what a relay has marked. -/
structure Relaying (N S M A K : Type) where
  key : M → Option K
  relay : N → Bool
  marked : S → N → K → Bool
  forgets : A → Bool

variable {N S M A E K : Type}

/-- A packet between two nodes with this key. -/
def Relaying.carries [DecidableEq N] [DecidableEq K] (R : Relaying N S M A K) (n q : N)
    (k : K) (p : Packet N M) : Bool :=
  p.src = n ∧ p.dst = q ∧ R.key p.body = some k

/-- Nobody sends in another's name. -/
structure Authentic (P : Protocol N S M A E) : Prop where
  act : ∀ n a s, ∀ q ∈ (P.act n a s).2, q.src = n
  receive : ∀ p e s, ∀ q ∈ (P.receive p e s).2, q.src = p.dst

variable {P : Protocol N S M A E} {R : Relaying N S M A K}

/-! ## Once for each link -/

section

variable [DecidableEq N] [DecidableEq K]

/-- A step of a relay marks what it sends, and does not send what is marked. -/
structure Marks (P : Protocol N S M A E) (R : Relaying N S M A K) : Prop extends Authentic P where
  act_marks : ∀ n a s q k, R.relay n = true →
    (P.act n a s).2.countP (R.carries n q k) + (R.marked s q k).toNat ≤
      (R.marked (P.act n a s).1 q k).toNat + (R.forgets a).toNat
  receive_marks : ∀ p e s q k, R.relay p.dst = true →
    (P.receive p e s).2.countP (R.carries p.dst q k) + (R.marked s q k).toNat ≤
      (R.marked (P.receive p e s).1 q k).toNat

/-- The relay forgets its marks. -/
def Relaying.resets (R : Relaying N S M A K) (n : N) : Event N M A E → Bool
  | .act m a => m = n && R.forgets a
  | .deliver _ _ => false

theorem countP_carries_of_src {l : List (Packet N M)} {m n q : N} {k : K}
    (h : ∀ p ∈ l, p.src = m) (hne : m ≠ n) : l.countP (R.carries n q k) = 0 := by
  rw [List.countP_eq_zero]
  intro p hp hcarries
  have hsrc := h p hp
  simp only [Relaying.carries, decide_eq_true_eq] at hcarries
  exact hne (hsrc.symm.trans hcarries.1)

/-- One step: what is sent is marked, except for what is forgotten. -/
theorem Marks.apply (h : Marks P R) (s : Net N S M) (e : Event N M A E) (n q : N) (k : K)
    (hn : R.relay n = true) :
    (P.apply s e).sent.countP (R.carries n q k) + (R.marked (s.node n) q k).toNat ≤
      s.sent.countP (R.carries n q k) + (R.marked ((P.apply s e).node n) q k).toNat +
        (R.resets n e).toNat := by
  cases e with
  | act m a =>
      show (s.sent ++ (P.act m a (s.node m)).2).countP _ + _ ≤
        _ + (R.marked (Function.update s.node m (P.act m a (s.node m)).1 n) q k).toNat + _
      rw [List.countP_append]
      by_cases hm : m = n
      · subst hm
        have hstep := h.act_marks m a (s.node m) q k hn
        rw [Function.update_self]
        simp only [Relaying.resets, decide_true, Bool.true_and]
        omega
      · rw [Function.update_of_ne (Ne.symm hm), countP_carries_of_src (h.act m a (s.node m)) hm]
        omega
  | deliver p e =>
      show (s.sent ++ (P.receive p e (s.node p.dst)).2).countP _ + _ ≤
        _ + (R.marked (Function.update s.node p.dst (P.receive p e (s.node p.dst)).1 n) q k).toNat + _
      rw [List.countP_append]
      by_cases hm : p.dst = n
      · subst hm
        have hstep := h.receive_marks p e (s.node p.dst) q k hn
        rw [Function.update_self]
        omega
      · rw [Function.update_of_ne (Ne.symm hm),
          countP_carries_of_src (h.receive p e (s.node p.dst)) hm]
        omega

theorem Marks.run (h : Marks P R) (s : Net N S M) (events : List (Event N M A E)) (n q : N) (k : K)
    (hn : R.relay n = true) :
    (P.run s events).sent.countP (R.carries n q k) + (R.marked (s.node n) q k).toNat ≤
      s.sent.countP (R.carries n q k) + (R.marked ((P.run s events).node n) q k).toNat +
        events.countP (R.resets n) := by
  induction events generalizing s with
  | nil => exact le_rfl
  | cons e events ih =>
      have hstep := h.apply s e n q k hn
      have hrest := ih (P.apply s e)
      rw [List.countP_cons]
      have hreset : (R.resets n e).toNat = if R.resets n e = true then 1 else 0 := by
        cases R.resets n e <;> rfl
      have hrun : P.run s (e :: events) = P.run (P.apply s e) events := rfl
      rw [hrun]
      omega

/-- **A relay sends a key to a node once, and once more for each time it forgot.** -/
theorem Marks.sent_le (h : Marks P R) {s : Net N S M} (hs : s.sent = [])
    (events : List (Event N M A E)) (n q : N) (k : K) (hn : R.relay n = true) :
    (P.run s events).sent.countP (R.carries n q k) ≤ 1 + events.countP (R.resets n) := by
  have hrun := h.run s events n q k hn
  have hmarked := Bool.toNat_le (R.marked ((P.run s events).node n) q k)
  rw [hs, List.countP_nil] at hrun
  omega

end

/-! ## Everyone is told -/

/-- A packet with the key has come to the node. -/
def Relaying.Heard (R : Relaying N S M A K) (k : K) (n : N) (events : List (Event N M A E)) : Prop :=
  ∃ p e, .deliver p e ∈ events ∧ p.dst = n ∧ R.key p.body = some k

/-- A relay marks only what it has sent, sends only what it is told, and when it is told a key
goes through all of its neighbours. -/
structure Spreads (P : Protocol N S M A E) (R : Relaying N S M A K)
    (C : Net N S M → Event N M A E → Prop) (link : N → N → Prop) : Prop extends Authentic P where
  possible : ∀ s e, C s e → Possible s e
  act_marked : ∀ n a s q k, R.relay n = true → R.marked (P.act n a s).1 q k = true →
    R.marked s q k = true
  act_silent : ∀ n a s, R.relay n = true → ∀ p ∈ (P.act n a s).2, R.key p.body = none
  receive_marked : ∀ p e s q k, R.relay p.dst = true → R.marked (P.receive p e s).1 q k = true →
    R.marked s q k = true ∨ ∃ r ∈ (P.receive p e s).2, r.dst = q ∧ R.key r.body = some k
  receive_key : ∀ p e s, R.relay p.dst = true → ∀ r ∈ (P.receive p e s).2,
    R.key r.body = R.key p.body
  receive_all : ∀ s p e q k, C s (.deliver p e) → R.relay p.dst = true →
    R.key p.body = some k → link p.dst q → q ≠ p.src →
    R.marked (P.receive p e (s.node p.dst)).1 q k = true

/-- Marks stand for packets, packets for what was heard, and who has heard has told its
neighbours, unless they told it. -/
structure Covered (R : Relaying N S M A K) (link : N → N → Prop) (s : Net N S M)
    (events : List (Event N M A E)) : Prop where
  marked : ∀ n q k, R.relay n = true → R.marked (s.node n) q k = true →
    ∃ p ∈ s.sent, p.src = n ∧ p.dst = q ∧ R.key p.body = some k
  sent : ∀ p ∈ s.sent, ∀ k, R.relay p.src = true → R.key p.body = some k → R.Heard k p.src events
  heard : ∀ n q k, R.relay n = true → R.Heard k n events → link n q →
    ∃ p ∈ s.sent, R.key p.body = some k ∧ ((p.src = n ∧ p.dst = q) ∨ p.src = q)

variable {C : Net N S M → Event N M A E → Prop} {link : N → N → Prop}

theorem Relaying.Heard.append {k : K} {n : N} {events : List (Event N M A E)} (h : R.Heard k n events)
    (e : Event N M A E) : R.Heard k n (events ++ [e]) := by
  obtain ⟨p, a, hmem, hrest⟩ := h
  exact ⟨p, a, List.mem_append_left _ hmem, hrest⟩

/-- Who has heard with one event more has heard before, or just now. -/
theorem heard_concat {k : K} {n : N} {events : List (Event N M A E)} {e : Event N M A E} :
    R.Heard k n (events ++ [e]) ↔
      R.Heard k n events ∨ ∃ p a, e = .deliver p a ∧ p.dst = n ∧ R.key p.body = some k := by
  constructor
  · rintro ⟨p, a, hmem, hrest⟩
    rcases List.mem_append.mp hmem with hold | hnew
    · exact .inl ⟨p, a, hold, hrest⟩
    · exact .inr ⟨p, a, (List.mem_singleton.mp hnew).symm, hrest⟩
  · rintro (h | ⟨p, a, rfl, hrest⟩)
    · exact h.append e
    · exact ⟨p, a, List.mem_append_right _ (List.mem_singleton_self _), hrest⟩

/-- Nothing is marked and nothing sent. -/
theorem covered_start {s : Net N S M} (hsent : s.sent = [])
    (hmarked : ∀ n q k, R.marked (s.node n) q k = false) :
    Covered R link s ([] : List (Event N M A E)) := by
  refine ⟨fun n q k _ h => ?_, fun p hp => ?_, fun n q k _ hheard _ => ?_⟩
  · rw [hmarked] at h
    cases h
  · rw [hsent] at hp
    cases hp
  · obtain ⟨p, e, hmem, -⟩ := hheard
    cases hmem

/-- Every packet with the key that a relay sent has come to its destination. -/
def Relaying.Complete (R : Relaying N S M A K) (k : K) (s : Net N S M)
    (events : List (Event N M A E)) : Prop :=
  ∀ p ∈ s.sent, R.relay p.src = true → R.key p.body = some k → ∃ e, .deliver p e ∈ events

/-- One hop. -/
theorem Covered.heard_of_linked {s : Net N S M} {events : List (Event N M A E)}
    (h : Covered R link s events) {n q : N} {k : K} (hcomplete : R.Complete k s events)
    (hn : R.relay n = true) (hq : R.relay q = true) (hlink : link n q) (hheard : R.Heard k n events) :
    R.Heard k q events := by
  obtain ⟨p, hp, hkey, ⟨hsrc, hdst⟩ | hsrc⟩ := h.heard n q k hn hheard hlink
  · subst hsrc
    obtain ⟨e, he⟩ := hcomplete p hp hn hkey
    exact ⟨p, e, he, hdst, hkey⟩
  · subst hsrc
    exact h.sent p hp k hq hkey

/-- Two relays that are neighbours. -/
def Relaying.Hop (R : Relaying N S M A K) (link : N → N → Prop) (n q : N) : Prop :=
  R.relay n = true ∧ R.relay q = true ∧ link n q

/-- **When all has been delivered, a key that one relay was told has been told to every relay
that can be reached from it.** -/
theorem Covered.heard_of_reachable {s : Net N S M} {events : List (Event N M A E)}
    (h : Covered R link s events) {n m : N} {k : K} (hcomplete : R.Complete k s events)
    (hpath : Relation.ReflTransGen (R.Hop link) n m) (hheard : R.Heard k n events) :
    R.Heard k m events := by
  induction hpath with
  | refl => exact hheard
  | tail _ hop ih =>
      obtain ⟨hn, hq, hlink⟩ := hop
      exact h.heard_of_linked hcomplete hn hq hlink ih

section

variable [DecidableEq N]

theorem Covered.act {s : Net N S M} {events : List (Event N M A E)} (h : Covered R link s events)
    (hspreads : Spreads P R C link) (m : N) (a : A) :
    Covered R link (P.apply s (.act m a)) (events ++ [.act m a]) := by
  have hsent : ∀ {p}, p ∈ s.sent → p ∈ (P.apply s (.act m a)).sent :=
    fun hp => List.mem_append_left _ hp
  refine ⟨fun n q k hn hmarked => ?_, fun p hp k hrelay hkey => ?_, fun n q k hn hheard hlink => ?_⟩
  · have hbefore : R.marked (s.node n) q k = true := by
      have hmarked : R.marked (Function.update s.node m (P.act m a (s.node m)).1 n) q k = true :=
        hmarked
      by_cases hm : n = m
      · subst hm
        rw [Function.update_self] at hmarked
        exact hspreads.act_marked n a (s.node n) q k hn hmarked
      · rwa [Function.update_of_ne hm] at hmarked
    obtain ⟨p, hp, hrest⟩ := h.marked n q k hn hbefore
    exact ⟨p, hsent hp, hrest⟩
  · rcases List.mem_append.mp hp with hold | hnew
    · exact (h.sent p hold k hrelay hkey).append _
    · have hsrc := hspreads.act m a (s.node m) p hnew
      rw [hsrc] at hrelay
      have hnone := hspreads.act_silent m a (s.node m) hrelay p hnew
      rw [hnone] at hkey
      cases hkey
  · rcases heard_concat.mp hheard with hold | ⟨p, e, he, -⟩
    · obtain ⟨p, hp, hrest⟩ := h.heard n q k hn hold hlink
      exact ⟨p, hsent hp, hrest⟩
    · cases he

theorem Covered.deliver {s : Net N S M} {events : List (Event N M A E)}
    (h : Covered R link s events) (hspreads : Spreads P R C link) {p : Packet N M} {e : E}
    (hC : C s (.deliver p e)) :
    Covered R link (P.apply s (.deliver p e)) (events ++ [.deliver p e]) := by
  have hp : p ∈ s.sent := hspreads.possible s (.deliver p e) hC
  have hsent : ∀ {r}, r ∈ s.sent → r ∈ (P.apply s (.deliver p e)).sent :=
    fun hr => List.mem_append_left _ hr
  have hnode : ∀ n, n ≠ p.dst → (P.apply s (.deliver p e)).node n = s.node n :=
    fun n hn => Function.update_of_ne hn _ _
  have hdst : (P.apply s (.deliver p e)).node p.dst = (P.receive p e (s.node p.dst)).1 :=
    Function.update_self ..
  -- marks of the receiver: old ones, and those of the packets it sends now
  have hmarks : ∀ n q k, R.relay n = true →
      R.marked ((P.apply s (.deliver p e)).node n) q k = true →
      ∃ r ∈ (P.apply s (.deliver p e)).sent, r.src = n ∧ r.dst = q ∧ R.key r.body = some k := by
    intro n q k hn hmarked
    by_cases hm : n = p.dst
    · subst hm
      rw [hdst] at hmarked
      rcases hspreads.receive_marked p e _ q k hn hmarked with hold | ⟨r, hr, hto, hkey⟩
      · obtain ⟨r, hr, hrest⟩ := h.marked p.dst q k hn hold
        exact ⟨r, hsent hr, hrest⟩
      · exact ⟨r, List.mem_append_right _ hr, hspreads.receive p e _ r hr, hto, hkey⟩
    · rw [hnode n hm] at hmarked
      obtain ⟨r, hr, hrest⟩ := h.marked n q k hn hmarked
      exact ⟨r, hsent hr, hrest⟩
  refine ⟨hmarks, fun r hr k hrelay hkey => ?_, fun n q k hn hheard hlink => ?_⟩
  · rcases List.mem_append.mp hr with hold | hnew
    · exact (h.sent r hold k hrelay hkey).append _
    · have hsrc := hspreads.receive p e _ r hnew
      rw [hsrc] at hrelay ⊢
      rw [hspreads.receive_key p e _ hrelay r hnew] at hkey
      exact heard_concat.mpr (.inr ⟨p, e, rfl, rfl, hkey⟩)
  · rcases heard_concat.mp hheard with hold | ⟨p', e', he, hto, hkey⟩
    · obtain ⟨r, hr, hrest⟩ := h.heard n q k hn hold hlink
      exact ⟨r, hsent hr, hrest⟩
    · obtain ⟨rfl, rfl⟩ := Event.deliver.inj he
      subst hto
      by_cases hq : q = p.src
      · exact ⟨p, hsent hp, hkey, .inr hq.symm⟩
      · have hmarked := hspreads.receive_all s p e q k hC hn hkey hlink hq
        rw [← hdst] at hmarked
        obtain ⟨r, hr, hsrc, hto, hkey⟩ := hmarks p.dst q k hn hmarked
        exact ⟨r, hr, hkey, .inl ⟨hsrc, hto⟩⟩

theorem Covered.run {s : Net N S M} (hspreads : Spreads P R C link)
    (hstart : Covered R link s ([] : List (Event N M A E))) {events : List (Event N M A E)}
    (hC : Along P.apply C s events) : Covered R link (P.run s events) events := by
  induction events using List.reverseRecOn with
  | nil => exact hstart
  | append_singleton events e ih =>
      obtain ⟨hbefore, hlast⟩ := along_concat.mp hC
      rw [P.run_concat]
      cases e with
      | act m a => exact (ih hbefore).act hspreads m a
      | deliver p e => exact (ih hbefore).deliver hspreads hlast

end

/-! ## Never silent -/

/-- The packets that were delivered, as often as they were. -/
def delivered (events : List (Event N M A E)) : List (Packet N M) :=
  events.filterMap fun
    | .act _ _ => none
    | .deliver p _ => some p

/-- Every delivery of a loud packet makes another one. -/
structure Echoes (P : Protocol N S M A E) (C : Net N S M → Event N M A E → Prop)
    (loud : Packet N M → Bool) : Prop where
  receive : ∀ s p e, C s (.deliver p e) → loud p = true →
    ∃ q ∈ (P.receive p e (s.node p.dst)).2, loud q = true

variable {loud : Packet N M → Bool}

variable [DecidableEq N]

theorem Echoes.countP_le (h : Echoes P C loud) {s : Net N S M} {events : List (Event N M A E)}
    (hC : Along P.apply C s events) :
    s.sent.countP loud + (delivered events).countP loud ≤ (P.run s events).sent.countP loud := by
  induction events generalizing s with
  | nil => exact le_rfl
  | cons e events ih =>
      have hrest := ih hC.2
      have hrun : P.run s (e :: events) = P.run (P.apply s e) events := rfl
      rw [hrun]
      cases e with
      | act n a =>
          have hsent : (P.apply s (.act n a)).sent = s.sent ++ (P.act n a (s.node n)).2 := rfl
          have hdelivered : delivered (.act n a :: events) = delivered events := rfl
          rw [hsent, List.countP_append] at hrest
          rw [hdelivered]
          omega
      | deliver p e =>
          have hsent : (P.apply s (.deliver p e)).sent =
            s.sent ++ (P.receive p e (s.node p.dst)).2 := rfl
          have hdelivered : delivered (.deliver p e :: events) = p :: delivered events := rfl
          rw [hsent, List.countP_append] at hrest
          rw [hdelivered, List.countP_cons]
          by_cases hp : loud p = true
          · have hecho : 0 < (P.receive p e (s.node p.dst)).2.countP loud :=
              List.countP_pos_iff.mpr (h.receive s p e hC.1 hp)
            rw [if_pos hp]
            omega
          · rw [if_neg hp]
            omega

/-- **After any run there is a loud packet that was sent more often than it was delivered.** -/
theorem exists_outstanding [DecidableEq M] (h : Echoes P C loud) {s : Net N S M}
    {events : List (Event N M A E)} (hC : Along P.apply C s events)
    (hstart : ∃ p ∈ s.sent, loud p = true) :
    ∃ p ∈ (P.run s events).sent, loud p = true ∧
      (delivered events).count p < (P.run s events).sent.count p := by
  by_contra hnone
  push Not at hnone
  have hle := h.countP_le hC
  have hpos : 0 < s.sent.countP loud := List.countP_pos_iff.mpr hstart
  have hsub : ((P.run s events).sent.filter loud).Subperm (delivered events) := by
    rw [List.subperm_ext_iff]
    intro p hp
    obtain ⟨hmem, hloud⟩ := List.mem_filter.mp hp
    rw [List.count_filter hloud]
    exact hnone p hmem hloud
  have hcount : (P.run s events).sent.countP loud ≤ (delivered events).countP loud := by
    simpa only [List.countP_filter, Bool.and_self] using hsub.countP_le loud
  omega

end Superorganism.Flood
