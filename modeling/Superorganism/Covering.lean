/-
Covering an amount with as few items as possible.

Every item has a worth. Items *cover* an amount when together they are worth at least that
much. Taking the item that is worth most, as long as none covers what is missing, and then a
smallest one that does, covers the amount with as few items as it can be covered with
(`TightCover.grow`, `TightCover.finish`). The argument is an exchange: a cover that does not
use the item worth most can use it in place of any item it has.

Over arbitrary items.
-/
import Mathlib.Algebra.BigOperators.Group.List.Basic
import Mathlib.Data.List.Nodup
import Mathlib.Algebra.Order.Ring.Int

set_option autoImplicit false

namespace Superorganism.Covering

variable {α : Type} {worth : α → ℤ} {amount : ℤ} {items chosen other : List α} {m : α}

/-- What items are worth together. -/
def total (worth : α → ℤ) (items : List α) : ℤ := (items.map worth).sum

@[simp] theorem total_nil : total worth [] = 0 := rfl

@[simp] theorem total_cons (x : α) : total worth (x :: items) = worth x + total worth items := by
  rw [total, total, List.map_cons, List.sum_cons]

/-- Some of the items, each at most once, that are worth the amount. -/
structure Cover (worth : α → ℤ) (amount : ℤ) (items chosen : List α) : Prop where
  nodup : chosen.Nodup
  subset : ∀ x ∈ chosen, x ∈ items
  reaches : amount ≤ total worth chosen

/-- No cover has fewer items, and the last item is a smallest one of those that cover what the
others leave. -/
structure TightCover (worth : α → ℤ) (amount : ℤ) (items chosen : List α) : Prop
    extends Cover worth amount items chosen where
  fewest : ∀ other, Cover worth amount items other → chosen.length ≤ other.length
  last : ∀ init m, chosen = init ++ [m] → amount - total worth init ≤ worth m ∧
    ∀ x ∈ items, x ∉ init → amount - total worth init ≤ worth x → worth m ≤ worth x

theorem TightCover.nil (h : amount ≤ 0) : TightCover worth amount items [] where
  nodup := List.nodup_nil
  subset := fun x hx => absurd hx List.not_mem_nil
  reaches := h
  fewest := fun other _ => Nat.zero_le _
  last := fun init m hinit => absurd hinit (by simp)

/-- A positive amount takes at least one item. -/
theorem Cover.length_pos (h : Cover worth amount items chosen) (hamount : 0 < amount) :
    0 < chosen.length := by
  have hreach := h.reaches
  cases chosen with
  | nil =>
      rw [total_nil] at hreach
      omega
  | cons x rest => exact Nat.succ_pos _

/-- Where nothing is missing nothing is taken. -/
theorem TightCover.eq_nil (h : TightCover worth amount items chosen) (hamount : amount ≤ 0) :
    chosen = [] := by
  have hfew := h.fewest [] (TightCover.nil hamount).toCover
  exact List.length_eq_zero_iff.mp (Nat.le_zero.mp hfew)

/-- One item that covers the amount, the smallest of its kind. -/
theorem TightCover.finish (hamount : 0 < amount) (hm : m ∈ items) (hcovers : amount ≤ worth m)
    (hleast : ∀ x ∈ items, amount ≤ worth x → worth m ≤ worth x) :
    TightCover worth amount items [m] where
  nodup := List.nodup_singleton m
  subset := fun x hx => by rwa [List.mem_singleton.mp hx]
  reaches := by simpa using hcovers
  fewest := fun other hother => hother.length_pos hamount
  last := by
    intro init m' hinit
    obtain ⟨rfl, hm'⟩ : [] = init ∧ [m] = [m'] := List.append_inj' hinit rfl
    obtain rfl : m = m' := by simpa using hm'
    simpa using ⟨hcovers, hleast⟩

section

variable [DecidableEq α]

theorem total_erase {x : α} (h : x ∈ items) :
    total worth items = worth x + total worth (items.erase x) := by
  rw [← total_cons, total, total, ((List.perm_cons_erase h).map worth).sum_eq]

/-- A cover can do without an item that it has besides another cover. -/
theorem Cover.erase (h : Cover worth amount items chosen) {x : α}
    (hx : amount ≤ total worth (chosen.erase x)) : Cover worth amount items (chosen.erase x) :=
  ⟨h.nodup.erase x, fun y hy => h.subset y (List.mem_of_mem_erase hy), hx⟩

/-- Without any of its items a tight cover falls short. -/
theorem TightCover.irredundant (h : TightCover worth amount items chosen) {x : α}
    (hx : x ∈ chosen) : total worth (chosen.erase x) < amount := by
  by_contra hreach
  have hfew := h.fewest _ (h.toCover.erase (not_lt.mp hreach))
  have hpos := List.length_pos_of_mem hx
  rw [List.length_erase_of_mem hx] at hfew
  omega

/-- The exchange: a cover can start with the item that is worth most. -/
theorem Cover.exchange (h : Cover worth amount items other) (hamount : 0 < amount)
    (hmost : ∀ x ∈ items, worth x ≤ worth m) :
    ∃ other', Cover worth (amount - worth m) (items.erase m) other' ∧
      other'.length + 1 = other.length := by
  -- the item to give up: `m` itself if the cover has it, and otherwise any
  have hgive : ∃ t ∈ other, m ∉ other.erase t := by
    by_cases hm : m ∈ other
    · exact ⟨m, hm, h.nodup.not_mem_erase⟩
    · obtain ⟨t, ht⟩ := List.exists_mem_of_length_pos (h.length_pos hamount)
      exact ⟨t, ht, fun hmem => hm (List.mem_of_mem_erase hmem)⟩
  obtain ⟨t, ht, hmt⟩ := hgive
  refine ⟨other.erase t, ⟨h.nodup.erase t, fun x hx => ?_, ?_⟩, ?_⟩
  · have hne : x ≠ m := fun hxm => hmt (hxm ▸ hx)
    exact (List.mem_erase_of_ne hne).mpr (h.subset x (List.mem_of_mem_erase hx))
  · have hreach := h.reaches
    have hworth := hmost t (h.subset t ht)
    rw [total_erase ht] at hreach
    omega
  · have hpos := List.length_pos_of_mem ht
    rw [List.length_erase_of_mem ht]
    omega

/-- The item that is worth most, before a tight cover of the rest. -/
theorem TightCover.grow (hitems : items.Nodup) (hamount : 0 < amount) (hm : m ∈ items)
    (hshort : worth m < amount) (hmost : ∀ x ∈ items, worth x ≤ worth m)
    (h : TightCover worth (amount - worth m) (items.erase m) chosen) :
    TightCover worth amount items (m :: chosen) where
  nodup := List.nodup_cons.mpr
    ⟨fun hmem => hitems.not_mem_erase (h.subset m hmem), h.nodup⟩
  subset := by
    intro x hx
    rcases List.mem_cons.mp hx with rfl | hx
    · exact hm
    · exact List.mem_of_mem_erase (h.subset x hx)
  reaches := by
    have := h.reaches
    rw [total_cons]
    omega
  fewest := by
    intro other hother
    obtain ⟨other', hother', hlen⟩ := hother.exchange hamount hmost
    have := h.fewest other' hother'
    rw [List.length_cons]
    omega
  last := by
    intro init m' hsplit
    cases init with
    | nil =>
        -- `m` alone would cover the amount
        obtain ⟨-, rfl⟩ := List.cons.inj hsplit
        have hreach := h.reaches
        rw [total_nil] at hreach
        omega
    | cons x init =>
        obtain ⟨rfl, hinit⟩ := List.cons.inj hsplit
        obtain ⟨hcovers, hleast⟩ := h.last init m' hinit
        rw [total_cons]
        refine ⟨by omega, fun x hx hxm hxcovers => hleast x ?_ ?_ (by omega)⟩
        · exact (List.mem_erase_of_ne (List.ne_of_not_mem_cons hxm)).mpr hx
        · exact fun hmem => hxm (List.mem_cons_of_mem _ hmem)

end

end Superorganism.Covering
