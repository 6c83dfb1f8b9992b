/-
Runs of a step function, and conditions on their steps.

A run is the list of what happens, one step after the other. A condition sees the state a
step starts from and what happens in it.
-/
import Mathlib.Data.List.Infix

set_option autoImplicit false

namespace Superorganism.Runs

variable {σ ε : Type} (step : σ → ε → σ) (C : σ → ε → Prop)

/-- Every step of a run meets a condition on the state and what happens to it. -/
def Along : σ → List ε → Prop
  | _, [] => True
  | s, e :: events => C s e ∧ Along (step s e) events

instance decidableAlong [∀ s e, Decidable (C s e)] :
    (s : σ) → (events : List ε) → Decidable (Along step C s events)
  | _, [] => .isTrue trivial
  | s, e :: events =>
    haveI := decidableAlong (step s e) events
    inferInstanceAs (Decidable (C s e ∧ Along step C (step s e) events))

variable {step C}

theorem Along.and {D : σ → ε → Prop} {s : σ} {events : List ε} (hC : Along step C s events)
    (hD : Along step D s events) : Along step (fun s e => C s e ∧ D s e) s events := by
  induction events generalizing s with
  | nil => exact trivial
  | cons e events ih => exact ⟨⟨hC.1, hD.1⟩, ih hC.2 hD.2⟩

theorem along_append {s : σ} {events later : List ε} : Along step C s (events ++ later) ↔
    Along step C s events ∧ Along step C (events.foldl step s) later := by
  induction events generalizing s with
  | nil => exact ⟨fun h => ⟨trivial, h⟩, fun h => h.2⟩
  | cons e events ih =>
      show C s e ∧ Along step C (step s e) (events ++ later) ↔ _
      rw [ih, ← and_assoc]
      rfl

theorem along_concat {s : σ} {events : List ε} {e : ε} : Along step C s (events ++ [e]) ↔
    Along step C s events ∧ C (events.foldl step s) e :=
  along_append.trans (and_congr_right fun _ => and_iff_left trivial)

/-- What meets the condition at every step does so up to any point. -/
theorem Along.before {s : σ} {before events : List ε} (h : Along step C s events)
    (hbefore : before <+: events) : Along step C s before := by
  obtain ⟨later, rfl⟩ := hbefore
  exact (along_append.mp h).1

/-- **A run meets a condition iff each event does in the state it finds.** -/
theorem along_iff {s : σ} {events : List ε} : Along step C s events ↔
    ∀ before e, before ++ [e] <+: events → C (before.foldl step s) e := by
  induction events generalizing s with
  | nil =>
      refine ⟨fun _ before e h => ?_, fun _ => trivial⟩
      exact absurd (List.prefix_nil.mp h) (List.append_ne_nil_of_right_ne_nil _ (List.cons_ne_nil _ _))
  | cons x events ih =>
      constructor
      · rintro ⟨hx, hrest⟩ before e h
        cases before with
        | nil =>
            obtain ⟨rfl, -⟩ := List.cons_prefix_cons.mp h
            exact hx
        | cons y before =>
            obtain ⟨rfl, hlater⟩ := List.cons_prefix_cons.mp h
            exact ih.mp hrest before e hlater
      · intro h
        refine ⟨h [] x (List.cons_prefix_cons.mpr ⟨rfl, List.nil_prefix⟩), ih.mpr fun before e he => ?_⟩
        exact h (x :: before) e (List.cons_prefix_cons.mpr ⟨rfl, he⟩)

end Superorganism.Runs
