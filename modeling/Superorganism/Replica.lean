/-
Stores of objects that name each other, and what they become as objects are received.
Nothing here is about one program.

An object has a key, may name a parent by its key, and may claim a slot that only one
object of a store can have. A store takes an object in when its key is new, its slot is
free and its parent is there, and otherwise stays as it is. Stores are sets: the order in
which a store came by its objects does not show in it.

Three questions are answered. How a store that is part of another grows towards it: by one
generation in a round that delivers everything missing, in any order, and all at once when
parents are delivered before their children. What it comes to hold when only some of the other's
objects are ever offered to it: those that it can reach from what it has through what is offered
(`Obtainable`). And what two stores have in common that have each received the same objects until
nothing changes any more: everything that depends on no slot, and the slots that depend on nothing
else.
-/
import Mathlib.Data.Set.Insert
import Mathlib.Data.List.Basic

set_option autoImplicit false

namespace Superorganism.Replica

variable {Ω K S : Type}

/-- How objects are named, what they name, and the slots they claim. -/
structure Links (Ω K S : Type) where
  key : Ω → K
  parent : Ω → Option K
  slot : Ω → Option S

namespace Links

variable (L : Links Ω K S)

/-- Some object of the store has the key. -/
def HasKey (store : Set Ω) (k : K) : Prop := ∃ p ∈ store, L.key p = k

/-- Some object of the store has the slot. -/
def HasSlot (store : Set Ω) (s : S) : Prop := ∃ p ∈ store, L.slot p = some s

/-- The store takes the object in. -/
structure Fits (store : Set Ω) (o : Ω) : Prop where
  key : ¬ L.HasKey store (L.key o)
  slot : ∀ s, L.slot o = some s → ¬ L.HasSlot store s
  parent : ∀ k, L.parent o = some k → L.HasKey store k

def receive (store : Set Ω) (o : Ω) : Set Ω := {p | p ∈ store ∨ (p = o ∧ L.Fits store o)}

def receiveAll (store : Set Ω) (os : List Ω) : Set Ω := os.foldl L.receive store

/-- No key and no slot twice, and every parent is there. -/
structure Coherent (store : Set Ω) : Prop where
  keys : ∀ a ∈ store, ∀ b ∈ store, L.key a = L.key b → a = b
  slots : ∀ a ∈ store, ∀ b ∈ store, ∀ s, L.slot a = some s → L.slot b = some s → a = b
  parents : ∀ a ∈ store, ∀ k, L.parent a = some k → L.HasKey store k

variable {L} {store other : Set Ω} {o : Ω} {os : List Ω}

/-! ## Receiving -/

theorem HasKey.mono {k : K} (h : L.HasKey store k) (hsub : store ⊆ other) : L.HasKey other k := by
  obtain ⟨p, hp, hk⟩ := h
  exact ⟨p, hsub hp, hk⟩

theorem subset_receive : store ⊆ L.receive store o := fun _ hp => Or.inl hp

theorem receive_subset (hsub : store ⊆ other) (ho : o ∈ other) : L.receive store o ⊆ other := by
  rintro p (hp | ⟨rfl, -⟩)
  · exact hsub hp
  · exact ho

theorem mem_receive_of_fits (h : L.Fits store o) : o ∈ L.receive store o := .inr ⟨rfl, h⟩

theorem receive_of_fits (h : L.Fits store o) : L.receive store o = insert o store := by
  ext p
  constructor
  · rintro (hp | ⟨rfl, -⟩)
    · exact .inr hp
    · exact .inl rfl
  · rintro (rfl | hp)
    · exact .inr ⟨rfl, h⟩
    · exact .inl hp

theorem receive_of_not_fits (h : ¬ L.Fits store o) : L.receive store o = store := by
  ext p
  constructor
  · rintro (hp | ⟨-, hfits⟩)
    · exact hp
    · exact absurd hfits h
  · exact .inl

theorem receiveAll_cons : L.receiveAll store (o :: os) = L.receiveAll (L.receive store o) os := rfl

theorem subset_receiveAll : store ⊆ L.receiveAll store os := by
  induction os generalizing store with
  | nil => exact subset_refl _
  | cons o os ih => exact subset_receive.trans ih

theorem receiveAll_subset (hsub : store ⊆ other) (hos : ∀ o ∈ os, o ∈ other) :
    L.receiveAll store os ⊆ other := by
  induction os generalizing store with
  | nil => exact hsub
  | cons o os ih =>
      exact ih (receive_subset hsub (hos o (List.mem_cons_self ..)))
        fun p hp => hos p (List.mem_cons_of_mem _ hp)

/-! ## Growing towards a coherent store -/

section

variable {whole : Set Ω} (hwhole : L.Coherent whole) (hsub : store ⊆ whole)

include hwhole hsub

/-- Within a coherent whole nothing stands in the way of an object but its parent. -/
theorem fits_of_parent (ho : o ∈ whole) (hnew : o ∉ store)
    (hparent : ∀ k, L.parent o = some k → L.HasKey store k) : L.Fits store o := by
  refine ⟨?_, ?_, hparent⟩
  · rintro ⟨p, hp, hk⟩
    exact hnew (hwhole.keys p (hsub hp) o ho hk ▸ hp)
  · rintro s hs ⟨p, hp, hps⟩
    exact hnew (hwhole.slots p (hsub hp) o ho s hps hs ▸ hp)

theorem mem_receive_of_parent (ho : o ∈ whole)
    (hparent : ∀ k, L.parent o = some k → L.HasKey store k) : o ∈ L.receive store o := by
  by_cases hold : o ∈ store
  · exact subset_receive hold
  · exact mem_receive_of_fits (fits_of_parent hwhole hsub ho hold hparent)

/-- An object whose parent is there is taken in, whatever else is delivered. -/
theorem mem_receiveAll_of_parent (hos : ∀ p ∈ os, p ∈ whole) (ho : o ∈ os)
    (hparent : ∀ k, L.parent o = some k → L.HasKey store k) : o ∈ L.receiveAll store os := by
  induction os generalizing store with
  | nil => cases ho
  | cons first os ih =>
      have hfirst := hos first (List.mem_cons_self ..)
      have hrest : ∀ p ∈ os, p ∈ whole := fun p hp => hos p (List.mem_cons_of_mem _ hp)
      rw [receiveAll_cons]
      rcases List.mem_cons.mp ho with rfl | ho
      · exact subset_receiveAll (mem_receive_of_parent hwhole hsub hfirst hparent)
      · exact ih (receive_subset hsub hfirst) hrest ho
          fun k hk => (hparent k hk).mono subset_receive

/-- A round that delivers everything missing brings in one more generation. -/
theorem round_grows {rank : Ω → ℕ}
    (hrank : ∀ o ∈ whole, ∀ p ∈ whole, L.parent o = some (L.key p) → rank p < rank o) {n : ℕ}
    (hold : ∀ o ∈ whole, rank o < n → o ∈ store) (hos : ∀ o ∈ os, o ∈ whole)
    (hall : ∀ o ∈ whole, o ∉ store → o ∈ os) :
    ∀ o ∈ whole, rank o < n + 1 → o ∈ L.receiveAll store os := by
  intro o ho hn
  by_cases hmem : o ∈ store
  · exact subset_receiveAll hmem
  · refine mem_receiveAll_of_parent hwhole hsub hos (hall o ho hmem) fun k hk => ?_
    -- the parent is of an earlier generation
    obtain ⟨p, hp, rfl⟩ := hwhole.parents o ho k hk
    have hlt := hrank o ho p hp hk
    exact ⟨p, hold p hp (by omega), rfl⟩

end

/-- The objects come in an order in which each finds its parent. -/
def InOrder (L : Links Ω K S) (store : Set Ω) : List Ω → Prop
  | [] => True
  | o :: os => (∀ k, L.parent o = some k → L.HasKey store k) ∧ InOrder L (insert o store) os

/-- Delivered in such an order nothing is turned away. -/
theorem receiveAll_inOrder {whole : Set Ω} (hwhole : L.Coherent whole) (hsub : store ⊆ whole)
    (hos : ∀ o ∈ os, o ∈ whole) (horder : L.InOrder store os) :
    L.receiveAll store os = store ∪ {o | o ∈ os} := by
  induction os generalizing store with
  | nil => simp [receiveAll]
  | cons o os ih =>
      have ho := hos o (List.mem_cons_self ..)
      have hreceive : L.receive store o = insert o store := by
        by_cases hold : o ∈ store
        · rw [Set.insert_eq_of_mem hold, receive_of_not_fits fun hfits => hfits.key ⟨o, hold, rfl⟩]
        · exact receive_of_fits (fits_of_parent hwhole hsub ho hold horder.1)
      rw [receiveAll_cons, hreceive, ih (Set.insert_subset ho hsub)
        (fun p hp => hos p (List.mem_cons_of_mem _ hp)) horder.2]
      ext p
      simp only [Set.mem_union, Set.mem_insert_iff, Set.mem_ofPred_eq, List.mem_cons]
      tauto

/-- Sorted by rank the missing objects of a coherent whole are in order. -/
theorem inOrder_of_sorted {whole : Set Ω} (hwhole : L.Coherent whole) (rank : Ω → ℕ)
    (hrank : ∀ o ∈ whole, ∀ p ∈ whole, L.parent o = some (L.key p) → rank p < rank o)
    (hos : ∀ o ∈ os, o ∈ whole) (hall : ∀ o ∈ whole, o ∉ store → o ∈ os)
    (hsorted : os.Pairwise fun a b => rank a ≤ rank b) : L.InOrder store os := by
  induction os generalizing store with
  | nil => trivial
  | cons o os ih =>
      have ho := hos o (List.mem_cons_self ..)
      rw [List.pairwise_cons] at hsorted
      refine ⟨fun k hk => ?_, ih (fun p hp => hos p (List.mem_cons_of_mem _ hp)) ?_ hsorted.2⟩
      · obtain ⟨p, hp, rfl⟩ := hwhole.parents o ho k hk
        have hlt := hrank o ho p hp hk
        -- a parent that was still to come would stand before its child
        refine ⟨p, ?_, rfl⟩
        by_contra hmissing
        rcases List.mem_cons.mp (hall p hp hmissing) with rfl | hlater
        · omega
        · have hle := hsorted.1 p hlater
          omega
      · intro p hp hmissing
        rw [Set.mem_insert_iff, not_or] at hmissing
        exact (List.mem_cons.mp (hall p hp hmissing.2)).resolve_left hmissing.1

/-! ## Stores that have settled -/

/-- Receiving any of the objects changes nothing any more. -/
def Settled (L : Links Ω K S) (objects : Set Ω) (store : Set Ω) : Prop :=
  ∀ o ∈ objects, L.receive store o = store

section

variable {objects a b : Set Ω}

/-- An object that a settled store lacks is kept out by a slot or for want of its parent. -/
theorem Settled.cases (h : L.Settled objects store) (hsub : store ⊆ objects)
    (hkeys : ∀ a ∈ objects, ∀ b ∈ objects, L.key a = L.key b → a = b) (ho : o ∈ objects) :
    o ∈ store ∨ (∃ s, L.slot o = some s ∧ L.HasSlot store s) ∨
      ∃ k, L.parent o = some k ∧ ¬ L.HasKey store k := by
  by_cases hmem : o ∈ store
  · exact .inl hmem
  have hnot : ¬ L.Fits store o := fun hfits => hmem (h o ho ▸ mem_receive_of_fits hfits)
  by_contra hcases
  rw [not_or, not_or] at hcases
  refine hnot ⟨?_, fun s hs hslot => hcases.2.1 ⟨s, hs, hslot⟩, fun k hk => ?_⟩
  · rintro ⟨p, hp, hk⟩
    exact hmem (hkeys p (hsub hp) o ho hk ▸ hp)
  · by_contra hmissing
    exact hcases.2.2 ⟨k, hk, hmissing⟩

variable (hkeys : ∀ a ∈ objects, ∀ b ∈ objects, L.key a = L.key b → a = b)
  (hb : L.Settled objects b) (hbsub : b ⊆ objects)

include hkeys hb hbsub

/-- What one store has and the other does not, though it has the parent, is kept out by a
slot. -/
theorem Settled.mem_or_slot (ho : o ∈ objects)
    (hparent : ∀ k, L.parent o = some k → L.HasKey b k) :
    o ∈ b ∨ ∃ s, L.slot o = some s ∧ L.HasSlot b s := by
  rcases hb.cases hbsub hkeys ho with hmem | hslot | ⟨k, hk, hmissing⟩
  · exact .inl hmem
  · exact .inr hslot
  · exact absurd (hparent k hk) hmissing

/-- An object without slot, whose ancestors have none either, is in every settled store or
in none. -/
theorem Settled.mem_of_mem (ha : L.Coherent a) (hasub : a ⊆ objects) {rank : Ω → ℕ}
    (hrank : ∀ o ∈ objects, ∀ p ∈ objects, L.parent o = some (L.key p) → rank p < rank o)
    (hfree : ∀ o ∈ objects, L.slot o = none → ∀ p ∈ objects, L.parent o = some (L.key p) →
      L.slot p = none) (ho : o ∈ a) (hslot : L.slot o = none) : o ∈ b := by
  -- by induction on the generation: the parent is in `b` as well
  induction hn : rank o using Nat.strong_induction_on generalizing o with
  | _ n ih =>
      have hparent : ∀ k, L.parent o = some k → L.HasKey b k := by
        intro k hk
        obtain ⟨p, hp, rfl⟩ := ha.parents o ho k hk
        have hlt := hrank o (hasub ho) p (hasub hp) hk
        exact ⟨p, ih (rank p) (hn ▸ hlt) hp (hfree o (hasub ho) hslot p (hasub hp) hk) rfl, rfl⟩
      rcases hb.mem_or_slot hkeys hbsub (hasub ho) hparent with hmem | ⟨s, hs, -⟩
      · exact hmem
      · rw [hslot] at hs
        cases hs

/-- A slot whose holder has its parent in the other store is taken there too. -/
theorem Settled.hasSlot (ho : o ∈ objects) {s : S} (hs : L.slot o = some s)
    (hparent : ∀ k, L.parent o = some k → L.HasKey b k) : L.HasSlot b s := by
  rcases hb.mem_or_slot hkeys hbsub ho hparent with hmem | ⟨s', hs', hslot⟩
  · exact ⟨o, hmem, hs⟩
  · rw [hs] at hs'
    cases hs'
    exact hslot

end

/-! ## What is offered -/

/-- The objects that a store can come to hold: those it has, and those that are offered to it and
refer to none but such. -/
inductive Obtainable (L : Links Ω K S) (store offered : Set Ω) : Ω → Prop
  | held {o : Ω} (hheld : o ∈ store) : Obtainable L store offered o
  | root {o : Ω} (hoffered : o ∈ offered) (hroot : L.parent o = none) : Obtainable L store offered o
  | child {o p : Ω} (hoffered : o ∈ offered) (hparent : L.parent o = some (L.key p))
      (hp : Obtainable L store offered p) : Obtainable L store offered o

section

variable {current offered whole : Set Ω}

theorem Obtainable.of_parent (ho : o ∈ offered)
    (h : ∀ k, L.parent o = some k → ∃ p, L.Obtainable store offered p ∧ L.key p = k) :
    L.Obtainable store offered o := by
  cases hparent : L.parent o with
  | none => exact .root ho hparent
  | some k =>
      obtain ⟨p, hp, rfl⟩ := h k hparent
      exact .child ho hparent hp

theorem Obtainable.mem_whole (hsub : store ⊆ whole) (hoffered : offered ⊆ whole)
    (h : L.Obtainable store offered o) : o ∈ whole := by
  cases h with
  | held hheld => exact hsub hheld
  | root ho => exact hoffered ho
  | child ho => exact hoffered ho

/-- Nothing else comes in, whatever the order. -/
theorem receiveAll_obtainable (hcurrent : ∀ p ∈ current, L.Obtainable store offered p)
    (hos : ∀ o ∈ os, o ∈ offered) : ∀ p ∈ L.receiveAll current os, L.Obtainable store offered p := by
  induction os generalizing current with
  | nil => exact hcurrent
  | cons o os ih =>
      refine ih ?_ fun p hp => hos p (List.mem_cons_of_mem _ hp)
      rintro p (hp | ⟨rfl, hfits⟩)
      · exact hcurrent p hp
      · refine .of_parent (hos p (List.mem_cons_self ..)) fun k hk => ?_
        -- it was taken in, so what it refers to was there
        obtain ⟨parent, hparent, hkey⟩ := hfits.parent k hk
        exact ⟨parent, hcurrent parent hparent, hkey⟩

variable (hwhole : L.Coherent whole) (hsub : store ⊆ whole) (hoffered : offered ⊆ whole)
  {rank : Ω → ℕ}
  (hrank : ∀ o ∈ whole, ∀ p ∈ whole, L.parent o = some (L.key p) → rank p < rank o)

include hwhole hsub hoffered hrank

/-- A round that delivers what is offered and missing brings in one more generation of what can be
had. -/
theorem round_obtains (hcurrent : current ⊆ whole) {n : ℕ}
    (hold : ∀ o, L.Obtainable store offered o → rank o < n → o ∈ current)
    (hheld : store ⊆ current) (hos : ∀ o ∈ os, o ∈ whole)
    (hall : ∀ o ∈ offered, o ∉ current → o ∈ os) :
    ∀ o, L.Obtainable store offered o → rank o < n + 1 → o ∈ L.receiveAll current os := by
  intro o ho hn
  by_cases hmem : o ∈ current
  · exact subset_receiveAll hmem
  · have hreceived (hoffer : o ∈ offered) (hparent : ∀ k, L.parent o = some k → L.HasKey current k) :
        o ∈ L.receiveAll current os :=
      mem_receiveAll_of_parent hwhole hcurrent hos (hall o hoffer hmem) hparent
    cases ho with
    | held hstored => exact absurd (hheld hstored) hmem
    | root hoffer hroot =>
        refine hreceived hoffer fun k hk => ?_
        rw [hroot] at hk
        cases hk
    | @child _ p hoffer hparent hp =>
        refine hreceived hoffer fun k hk => ?_
        rw [hparent] at hk
        have hlt := hrank o (hoffered hoffer) p (hp.mem_whole hsub hoffered) hparent
        exact ⟨p, hold p hp (by omega), Option.some.inj hk⟩

omit hsub hoffered in
/-- Where everything missing is offered, everything can be had. -/
theorem obtainable_of_all (hall : ∀ o ∈ whole, o ∉ store → o ∈ offered) :
    ∀ o ∈ whole, L.Obtainable store offered o := by
  intro o ho
  induction hn : rank o using Nat.strong_induction_on generalizing o with
  | _ n ih =>
      by_cases hheld : o ∈ store
      · exact .held hheld
      · refine .of_parent (hall o ho hheld) fun k hk => ?_
        obtain ⟨p, hp, rfl⟩ := hwhole.parents o ho k hk
        exact ⟨p, ih (rank p) (hn ▸ hrank o ho p hp hk) p hp rfl, rfl⟩

end

end Links

end Superorganism.Replica
