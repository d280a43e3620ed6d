import Mathlib.Logic.Relation

/-!
# Labelled partial transition systems

A system moves by executing labels.  `step state label` is undefined when the
label is not enabled in the state, so a list of labels is at once a schedule
and a witness: executing it computes the state that it reaches.

Reachability is taken under a restriction on the labels.  The unrestricted
case allows every enabled label; the restricted cases express what a run may
assume about its environment.
-/

namespace XanhTab.Transition

universe u v

/-- A partial transition function with labels. -/
abbrev Step (σ : Type u) (L : Type v) := σ → L → Option σ

variable {σ : Type u} {L : Type v}

/-- Execute a list of labels, failing at the first one that is not enabled. -/
def run (next : Step σ L) : σ → List L → Option σ
  | state, [] => some state
  | state, label :: rest => (next state label).bind fun target => run next target rest

@[simp]
theorem run_nil (next : Step σ L) (state : σ) : run next state [] = some state :=
  rfl

@[simp]
theorem run_cons (next : Step σ L) (state : σ) (label : L) (rest : List L) :
    run next state (label :: rest) =
      (next state label).bind fun target => run next target rest :=
  rfl

/-- Finite reachability by labels that `allowed` admits where they are taken. -/
inductive ReachableUnder (next : Step σ L) (allowed : σ → L → Prop) (source : σ) : σ → Prop
  | refl : ReachableUnder next allowed source source
  | tail {middle target : σ} {label : L} :
      ReachableUnder next allowed source middle → allowed middle label →
      next middle label = some target → ReachableUnder next allowed source target

/-- Finite reachability by any labels. -/
abbrev Reachable (next : Step σ L) (source target : σ) : Prop :=
  ReachableUnder next (fun _ _ => True) source target

namespace ReachableUnder

variable {next : Step σ L} {allowed permitted : σ → L → Prop} {source middle target : σ}

theorem single {label : L} (admitted : allowed source label)
    (step : next source label = some target) : ReachableUnder next allowed source target :=
  tail refl admitted step

theorem trans (first : ReachableUnder next allowed source middle)
    (second : ReachableUnder next allowed middle target) :
    ReachableUnder next allowed source target := by
  induction second with
  | refl => exact first
  | tail _ admitted step ih => exact ih.tail admitted step

/-- Fewer restrictions reach at least as much. -/
theorem mono (weaker : ∀ state label, allowed state label → permitted state label)
    (reachable : ReachableUnder next allowed source target) :
    ReachableUnder next permitted source target := by
  induction reachable with
  | refl => exact refl
  | tail _ admitted step ih => exact ih.tail (weaker _ _ admitted) step

theorem reachable (run : ReachableUnder next allowed source target) :
    Reachable next source target :=
  run.mono fun _ _ _ => trivial

/-- What holds initially and is kept by every admitted step holds of every
reachable state. -/
theorem invariant {holds : σ → Prop} (initial : holds source)
    (kept : ∀ state label target, holds state → allowed state label →
      next state label = some target → holds target)
    (reachable : ReachableUnder next allowed source target) : holds target := by
  induction reachable with
  | refl => exact initial
  | tail _ admitted step ih => exact kept _ _ _ ih admitted step

end ReachableUnder

/-- Every entry of a log that grows by at most one entry a step was appended by
some step of the run. -/
theorem Reachable.appended {E : Type v} {next : Step σ L} (log : σ → List E)
    {source target : σ} (empty : log source = [])
    (grows : ∀ state label state', next state label = some state' →
      log state' = log state ∨ ∃ entry, log state' = log state ++ [entry])
    (reachable : Reachable next source target) {earlier later : List E} {entry : E}
    (split : log target = earlier ++ entry :: later) :
    ∃ before label after, Reachable next source before ∧ next before label = some after ∧
      Reachable next after target ∧ log before = earlier ∧ log after = earlier ++ [entry] := by
  induction reachable generalizing later with
  | refl =>
      rw [empty] at split
      simp at split
  | @tail middle target label reached _ step ih =>
      have onward : Reachable next middle target := .single trivial step
      rcases grows _ _ _ step with same | ⟨new, grown⟩
      · rw [same] at split
        rcases ih split with ⟨before, label, after, first, appended, rest, logs⟩
        exact ⟨before, label, after, first, appended, rest.trans onward, logs⟩
      · rw [grown] at split
        rcases List.eq_nil_or_concat later with rfl | ⟨later, last, rfl⟩
        · rcases List.append_inj' split rfl with ⟨same, equal⟩
          refine ⟨middle, label, target, reached, step, .refl, same, ?_⟩
          rw [grown, same, equal]
        · rw [List.concat_eq_append, ← List.cons_append, ← List.append_assoc] at split
          rcases ih (List.append_inj' split rfl).1 with
            ⟨before, label, after, first, appended, rest, logs⟩
          exact ⟨before, label, after, first, appended, rest.trans onward, logs⟩

/-- An executed schedule reaches its result. -/
theorem reachable_of_run {next : Step σ L} {source target : σ} {labels : List L}
    (executed : run next source labels = some target) : Reachable next source target := by
  induction labels generalizing source with
  | nil =>
      have equal : source = target := Option.some.inj executed
      subst target
      exact ReachableUnder.refl
  | cons label rest ih =>
      obtain ⟨middle, first, remaining⟩ := Option.bind_eq_some_iff.mp executed
      exact (ReachableUnder.single trivial first).trans (ih remaining)

/-- The system that takes only the steps that a check accepts. -/
def guarded (next : Step σ L) (check : σ → L → Bool) : Step σ L :=
  fun state label => if check state label then next state label else none

/-- An executed schedule reaches its result under a restriction that the check
implies. -/
theorem reachableUnder_of_run {next : Step σ L} {allowed : σ → L → Prop} {check : σ → L → Bool}
    {source target : σ} {labels : List L}
    (sound : ∀ state label, check state label = true → allowed state label)
    (executed : run (guarded next check) source labels = some target) :
    ReachableUnder next allowed source target := by
  induction labels generalizing source with
  | nil =>
      have equal : source = target := Option.some.inj executed
      subst target
      exact ReachableUnder.refl
  | cons label rest ih =>
      obtain ⟨middle, first, remaining⟩ := Option.bind_eq_some_iff.mp executed
      unfold guarded at first
      split at first
      · rename_i accepted
        exact (ReachableUnder.single (sound _ _ accepted) first).trans (ih remaining)
      · cases first

end XanhTab.Transition
