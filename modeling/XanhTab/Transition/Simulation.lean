import XanhTab.Transition.Core

/-!
# Simulations

A view of a system is simulated by an abstract system when every step of the
system is seen as a move of the abstract system or is not seen at all.  What
the moves keep is then kept by every run, and what they can leave in one way
only is left in that way.

An observer follows the steps of a system without taking part in it.
-/

namespace XanhTab.Transition

open Relation

universe u v w

variable {σ : Type u} {L : Type v} {τ : Type w}

/-- Every step of a run from the source is seen as a move or is not seen. -/
def Simulates (next : Step σ L) (allowed : σ → L → Prop) (source : σ) (view : σ → τ)
    (move : τ → τ → Prop) : Prop :=
  ∀ state label target, ReachableUnder next allowed source state → allowed state label →
    next state label = some target → view target = view state ∨ move (view state) (view target)

namespace Simulates

variable {next : Step σ L} {allowed : σ → L → Prop} {source middle target : σ} {view : σ → τ}
  {move : τ → τ → Prop}

/-- A run is seen as a path of moves. -/
theorem path (simulates : Simulates next allowed source view move)
    (reached : ReachableUnder next allowed source middle)
    (onward : ReachableUnder next allowed middle target) :
    ReflTransGen move (view middle) (view target) := by
  induction onward with
  | refl => exact .refl
  | tail earlier admitted step ih =>
      rcases simulates _ _ _ (reached.trans earlier) admitted step with same | moved
      · rw [same]
        exact ih
      · exact ih.tail moved

/-- What every move keeps is kept by the rest of a run. -/
theorem keeps {holds : τ → Prop} (simulates : Simulates next allowed source view move)
    (kept : ∀ before after, holds before → move before after → holds after)
    (reached : ReachableUnder next allowed source middle)
    (onward : ReachableUnder next allowed middle target) (initial : holds (view middle)) :
    holds (view target) := by
  have path := simulates.path reached onward
  generalize view target = seen at path ⊢
  induction path with
  | refl => exact initial
  | tail _ moved ih => exact kept _ _ ih moved

end Simulates

/-- Between a state that satisfies a property and a later one that does not
there is a step that ends it. -/
theorem ReachableUnder.leaves {next : Step σ L} {allowed : σ → L → Prop} {source target : σ}
    {holds : σ → Prop} (reached : ReachableUnder next allowed source target)
    (initial : holds source) (lost : ¬ holds target) :
    ∃ before label after, ReachableUnder next allowed source before ∧ allowed before label ∧
      next before label = some after ∧ ReachableUnder next allowed after target ∧
      holds before ∧ ¬ holds after := by
  induction reached with
  | refl => exact absurd initial lost
  | @tail middle target label earlier admitted step ih =>
      by_cases still : holds middle
      · exact ⟨middle, label, target, earlier, admitted, step, .refl, still, lost⟩
      · rcases ih still with ⟨before, first, after, reached, allows, left, onward, held, gone⟩
        exact ⟨before, first, after, reached, allows, left, onward.tail admitted step, held, gone⟩

/-- The system together with an observer that notes its steps. -/
def watched {η : Type w} (next : Step σ L) (note : σ → L → η → η) : Step (σ × η) L :=
  fun current label => (next current.1 label).map fun target =>
    (target, note current.1 label current.2)

theorem watched_eq_some {η : Type w} {next : Step σ L} {note : σ → L → η → η}
    {current after : σ × η} {label : L} (step : watched next note current label = some after) :
    next current.1 label = some after.1 ∧ after.2 = note current.1 label current.2 := by
  rcases Option.map_eq_some_iff.mp step with ⟨target, moved, rfl⟩
  exact ⟨moved, rfl⟩

end XanhTab.Transition
